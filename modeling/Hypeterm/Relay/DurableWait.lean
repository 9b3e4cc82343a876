import Hypeterm.Relay.Loading

/-! Waiting for durability.  `wait_for_durable` tests its condition under the handle's lock,
releases the lock and only then creates the future that a notification can reach;
`commit_durable` releases the lock before it notifies. -/
namespace Hypeterm.Relay.DurableWait

open Library List TerminalHandle
open Db

/-- Where a waiter stands in its loop.  A future remembers how many notifications there were
when it was created. -/
inductive Phase where
  | testing
  | tested
  | parked (seen : Nat)
  | returned (durableOffset : Nat)
  deriving DecidableEq

structure Waiter where
  id : Nat
  target : Nat
  phase : Phase

/-- `notifications` counts the calls of `notify_waiters`, `unnotified` the commits whose call
is still to come. -/
structure System where
  handle : TerminalHandle
  notifications : Nat
  unnotified : Nat
  waiters : List Waiter

def System.initial (handle : TerminalHandle) : System := ⟨handle, 0, 0, []⟩

/-- The condition a wait ends by, apart from its deadline. -/
def exits (handle : TerminalHandle) (target : Nat) : Bool :=
  target ≤ handle.inner.durableOffset || handle.inner.lifecycle != .opened

inductive Action where
  | handle (op : HandleOp)
  | commitDurable (durableTarget : Nat) (closed : Option String)
  | notifyWaiters
  | waitForDurable (id target : Nat)
  | proceed (id : Nat) (timedOut : Bool)

def notifies (handle : TerminalHandle) : HandleOp → Bool
  | .beginClose reason => (handle.beginClose reason).2
  | _ => false

namespace System

def waiter (system : System) (id : Nat) : Option Waiter := lookup Waiter.id id system.waiters

def setWaiter (system : System) (waiter : Waiter) (phase : Phase) : System :=
  { system with waiters := insertRow Waiter.id { waiter with phase } system.waiters }

/-- The next section of a waiter: the test under the lock, the creation of the future, and
what ends the sleep. -/
def proceed (system : System) (waiter : Waiter) (timedOut : Bool) : Option System :=
  match waiter.phase with
  | .testing =>
      some (system.setWaiter waiter
        (if exits system.handle waiter.target then .returned system.handle.inner.durableOffset
          else .tested))
  | .tested => some (system.setWaiter waiter (.parked system.notifications))
  | .parked seen =>
      if timedOut then some (system.setWaiter waiter (.returned system.handle.inner.durableOffset))
      else if seen < system.notifications then some (system.setWaiter waiter .testing)
      else none
  | .returned _ => none

end System

def step (system : System) : Action → Option System
  | .handle op =>
      some { system with
        handle := system.handle.apply op
        notifications := system.notifications + if notifies system.handle op then 1 else 0 }
  | .commitDurable durableTarget closed =>
      some { system with
        handle := system.handle.commitDurable durableTarget closed
        unnotified := system.unnotified + 1 }
  | .notifyWaiters =>
      if system.unnotified = 0 then none
      else
        some { system with
          notifications := system.notifications + 1
          unnotified := system.unnotified - 1 }
  | .waitForDurable id target =>
      if (system.waiter id).isNone then
        some (system.setWaiter ⟨id, target, .testing⟩ .testing)
      else none
  | .proceed id timedOut => (system.waiter id).bind fun waiter => system.proceed waiter timedOut

/-- No notification that leaves none outstanding is sent while a waiter, whose condition it
announces, stands between its test and its future. -/
def inTime (system : System) : Action → Bool
  | .handle op =>
      !notifies system.handle op || 0 < system.unnotified ||
        !system.waiters.any fun waiter => waiter.phase = .tested
  | .notifyWaiters =>
      1 < system.unnotified ||
        !system.waiters.any fun waiter =>
          waiter.phase = .tested && exits system.handle waiter.target
  | _ => true

/-- A sleeper whose condition holds has been notified, or is about to be; and one that has been
notified returns without waiting for its deadline. -/
structure NoneLost (system : System) : Prop where
  notified : ∀ waiter ∈ system.waiters, ∀ seen, waiter.phase = .parked seen →
    exits system.handle waiter.target = true →
      seen < system.notifications ∨ 0 < system.unnotified
  returns : ∀ id waiter seen, system.waiter id = some waiter → waiter.phase = .parked seen →
    seen < system.notifications → exits system.handle waiter.target = true →
    ∃ final, run step system [.proceed id false, .proceed id false] = some final ∧
      final.waiter id =
        some { waiter with phase := .returned system.handle.inner.durableOffset }

/-- Whoever is about to sleep, or sleeps, with a true condition has a notification to come. -/
structure Inv (system : System) : Prop where
  tested : ∀ waiter ∈ system.waiters, waiter.phase = .tested →
    exits system.handle waiter.target = true → 0 < system.unnotified
  parked : ∀ waiter ∈ system.waiters, ∀ seen, waiter.phase = .parked seen →
    seen ≤ system.notifications ∧
      (exits system.handle waiter.target = true →
        seen < system.notifications ∨ 0 < system.unnotified)

variable {system next : System}

theorem Inv.initial (handle : TerminalHandle) : Inv (System.initial handle) where
  tested := by simp [System.initial]
  parked := by simp [System.initial]

theorem apply_durableOffset (handle : TerminalHandle) (op : HandleOp) :
    (handle.apply op).inner.durableOffset = handle.inner.durableOffset := by
  cases op with
  | append expectedOffset payload capacity =>
    simp only [apply, TerminalHandle.append]
    split
    · rfl
    · split
      · rfl
      · split <;> rfl
  | shrinkToCapacity capacity =>
    simp only [apply, TerminalHandle.shrinkToCapacity]
    split <;> rfl
  | resize cols rows =>
    simp only [apply, TerminalHandle.resize]
    split <;> rfl
  | subscribe fromOffset chunkBytes queueMessages queueBytes =>
    simp only [apply, TerminalHandle.subscribe]
    split
    · rename_i hok
      split at hok
      · cases hok
      · cases hok
        rfl
    · rfl
  | beginClose reason =>
    simp only [apply, TerminalHandle.beginClose]
    split <;> rfl
  | updateMetadata | nextInputSequence | unsubscribe | terminateSubscribers | receive | release
  | dropReceiver => rfl

theorem exits_apply {handle : TerminalHandle} {op : HandleOp}
    (quiet : notifies handle op = false) (target : Nat) :
    exits (handle.apply op) target = exits handle target := by
  have hlifecycle : (handle.apply op).inner.lifecycle = handle.inner.lifecycle := by
    rcases (apply_lifecycle handle op).2 with hsame | ⟨reason, rfl, hopened, -⟩
    · exact hsame
    · simp [notifies, TerminalHandle.beginClose, hopened] at quiet
  unfold exits
  rw [apply_durableOffset, hlifecycle]

theorem Inv.setWaiter (inv : Inv system) {waiter : Waiter} {phase : Phase}
    (tested : phase = .tested → exits system.handle waiter.target = true → 0 < system.unnotified)
    (parked : ∀ seen, phase = .parked seen → seen ≤ system.notifications ∧
      (exits system.handle waiter.target = true →
        seen < system.notifications ∨ 0 < system.unnotified)) :
    Inv (system.setWaiter waiter phase) := by
  have hmember : ∀ other ∈ (system.setWaiter waiter phase).waiters,
      other ∈ system.waiters ∨ other = { waiter with phase } := by
    intro other member
    rcases mem_append.mp member with hold | hnew
    · exact .inl (mem_filter.mp hold).1
    · exact .inr (mem_singleton.mp hnew)
  constructor
  · intro other member
    rcases hmember other member with hold | rfl
    · exact inv.tested other hold
    · exact tested
  · intro other member
    rcases hmember other member with hold | rfl
    · exact inv.parked other hold
    · exact parked

theorem Inv.proceed (inv : Inv system) {waiter : Waiter} {timedOut : Bool}
    (member : waiter ∈ system.waiters) (taken : system.proceed waiter timedOut = some next) :
    Inv next := by
  unfold System.proceed at taken
  split at taken
  · cases taken
    refine inv.setWaiter ?_ ?_
    · intro hphase hexits
      rw [if_pos hexits] at hphase
      cases hphase
    · intro seen hphase
      split at hphase <;> cases hphase
  · rename_i hphase
    cases taken
    refine inv.setWaiter (fun heq => by cases heq) ?_
    intro seen heq
    cases heq
    exact ⟨Nat.le_refl _, fun hexits => .inr (inv.tested waiter member hphase hexits)⟩
  · split at taken
    · cases taken
      exact inv.setWaiter (fun heq => by cases heq) fun _ heq => by cases heq
    · split at taken
      · cases taken
        exact inv.setWaiter (fun heq => by cases heq) fun _ heq => by cases heq
      · cases taken
  · cases taken

theorem Inv.handle (inv : Inv system) {op : HandleOp} (allowed : inTime system (.handle op) = true)
    (taken : step system (.handle op) = some next) : Inv next := by
  cases taken
  cases hnotifies : notifies system.handle op with
  | false =>
    constructor
    · intro waiter member hphase hexits
      exact inv.tested waiter member hphase (exits_apply hnotifies _ ▸ hexits)
    · intro waiter member seen hphase
      obtain ⟨hseen, hparked⟩ := inv.parked waiter member seen hphase
      exact ⟨hseen, fun hexits => hparked (exits_apply hnotifies _ ▸ hexits)⟩
  | true =>
    simp only [inTime, hnotifies, Bool.not_true, Bool.false_or, Bool.or_eq_true, decide_eq_true_eq,
      Bool.not_eq_true', any_eq_false] at allowed
    constructor
    · intro waiter member hphase _
      rcases allowed with hpending | hnone
      · exact hpending
      · exact absurd hphase (hnone waiter member)
    · intro waiter member seen hphase
      have hseen := (inv.parked waiter member seen hphase).1
      exact ⟨Nat.le_succ_of_le hseen, fun _ => .inl (Nat.lt_succ_of_le hseen)⟩

theorem Inv.notifyWaiters (inv : Inv system) (allowed : inTime system .notifyWaiters = true)
    (taken : step system .notifyWaiters = some next) : Inv next := by
  simp only [step] at taken
  split at taken
  · cases taken
  · cases taken
    simp only [inTime, Bool.or_eq_true, decide_eq_true_eq, Bool.not_eq_true', any_eq_false,
      Bool.and_eq_true, not_and] at allowed
    constructor
    · intro waiter member hphase hexits
      rcases allowed with hmore | hnone
      · exact Nat.sub_pos_of_lt hmore
      · exact absurd hexits (hnone waiter member hphase)
    · intro waiter member seen hphase
      have hseen := (inv.parked waiter member seen hphase).1
      exact ⟨Nat.le_succ_of_le hseen, fun _ => .inl (Nat.lt_succ_of_le hseen)⟩

theorem Inv.step {action : Action} (inv : Inv system) (allowed : inTime system action = true)
    (taken : DurableWait.step system action = some next) : Inv next := by
  cases action with
  | handle op => exact inv.handle allowed taken
  | commitDurable durableTarget closed =>
    cases taken
    exact ⟨fun _ _ _ _ => Nat.succ_pos _, fun waiter member seen hphase =>
      ⟨(inv.parked waiter member seen hphase).1, fun _ => .inr (Nat.succ_pos _)⟩⟩
  | notifyWaiters => exact inv.notifyWaiters allowed taken
  | waitForDurable id target =>
    simp only [DurableWait.step] at taken
    split at taken
    · cases taken
      exact inv.setWaiter (fun heq => by cases heq) fun _ heq => by cases heq
    · cases taken
  | proceed id timedOut =>
    obtain ⟨waiter, hfound, hproceed⟩ := Option.bind_eq_some_iff.mp taken
    exact inv.proceed (mem_of_lookup hfound) hproceed

theorem waiter_setWaiter (system : System) (waiter : Waiter) (phase : Phase) :
    (system.setWaiter waiter phase).waiter waiter.id = some { waiter with phase } := by
  unfold System.waiter System.setWaiter
  rw [lookup_insertRow, if_pos rfl]

theorem notified_returns {waiter : Waiter} {id seen : Nat}
    (found : system.waiter id = some waiter) (phase : waiter.phase = .parked seen)
    (notified : seen < system.notifications)
    (holds : exits system.handle waiter.target = true) :
    ∃ final, run step system [.proceed id false, .proceed id false] = some final ∧
      final.waiter id =
        some { waiter with phase := .returned system.handle.inner.durableOffset } := by
  obtain rfl : waiter.id = id := key_of_lookup found
  have hwoken := waiter_setWaiter system waiter .testing
  refine ⟨(system.setWaiter waiter .testing).setWaiter { waiter with phase := .testing }
    (.returned system.handle.inner.durableOffset), ?_, ?_⟩
  · have hfirst : step system (.proceed waiter.id false) = some (system.setWaiter waiter .testing) := by
      simp only [step, found, Option.bind_some, System.proceed, phase, Bool.false_eq_true, if_false,
        if_pos notified]
    have hsecond : step (system.setWaiter waiter .testing) (.proceed waiter.id false) =
        some ((system.setWaiter waiter .testing).setWaiter { waiter with phase := .testing }
          (.returned system.handle.inner.durableOffset)) := by
      simp only [step, hwoken, Option.bind_some, System.proceed]
      rw [if_pos (show exits (system.setWaiter waiter .testing).handle waiter.target = true from holds)]
      rfl
    exact run_cons_eq_some.mpr ⟨_, hfirst, run_cons_eq_some.mpr ⟨_, hsecond, rfl⟩⟩
  · exact waiter_setWaiter _ { waiter with phase := .testing } _

/-- In every run in which no last outstanding notification falls between a waiter's test and
its future: no waiter whose condition holds sleeps without a notification made or still to
come, and with it the waiter returns before its deadline. -/
theorem no_wakeup_lost {handle : TerminalHandle} {actions : List Action}
    (taken : run (restrict step fun system action => inTime system action = true)
      (System.initial handle) actions = some system) : NoneLost system := by
  have hkept : ∀ state action after, Inv state → inTime state action = true →
      step state action = some after → Inv after := fun _ _ _ inv hallowed hstep =>
    inv.step hallowed hstep
  have hinv := restrict_invariant hkept (Inv.initial handle) taken
  constructor
  · intro waiter member seen hphase
    exact (hinv.parked waiter member seen hphase).2
  · intro id waiter seen hfound hphase hnotified hholds
    exact notified_returns hfound hphase hnotified hholds

def openHandle : TerminalHandle :=
  newOpen ⟨7, 1, "owner", "shell", "shell", .opened, none, none, none, true, none, 0, 0⟩ 4

/-- The commit's notification finds the waiter's future. -/
def wokenRun : List Action :=
  [.handle (.append 0 [1] 4), .waitForDurable 0 1, .proceed 0 false, .proceed 0 false,
    .commitDurable 1 none, .notifyWaiters]

theorem no_wakeup_lost_in_wokenRun :
    ∃ system, run (restrict step fun system action => inTime system action = true)
        (System.initial openHandle) wokenRun = some system ∧
      system.waiter 0 = some ⟨0, 1, .parked 0⟩ ∧ NoneLost system :=
  ⟨_, rfl, rfl, @no_wakeup_lost _ openHandle wokenRun rfl⟩

/-- The commit and its notification fall between the test and the future. -/
def missedRun : List Action :=
  [.handle (.append 0 [1] 4), .waitForDurable 0 1, .proceed 0 false, .commitDurable 1 none,
    .notifyWaiters, .proceed 0 false]

theorem wakeup_lost : ¬ ∀ (handle : TerminalHandle) (actions : List Action) (system : System),
      run step (System.initial handle) actions = some system → NoneLost system := by
  intro claim
  have hlost := claim openHandle missedRun _ rfl
  have hnotified := hlost.notified ⟨0, 1, .parked 1⟩ (mem_singleton_self _) 1 rfl rfl
  exact absurd hnotified (by decide)

end Hypeterm.Relay.DurableWait
