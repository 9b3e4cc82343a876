import Hypeterm.Library.Runs
import Hypeterm.Library.Tasks

/-! How the daemon leaves.  Both ways decide first and leave later, and in between its
clients go on. -/
namespace Hypeterm.Publisher.StandDown

open Library List

/-- Where a client's connection stands.  `greeted` keeps the number of other clients as it
was at the hello; `closing` is all that follows the conversation. -/
inductive ClientPhase where
  | accepted
  | greeted (others : Nat)
  | opened (localRef : String)
  | retiring
  | closing
  | gone
  deriving DecidableEq

/-- Where the loop of `serve` stands.  A pass has seen whether anything is left to mirror
when its `select` begins. -/
inductive Serving where
  | selecting (idle : Bool)
  | standing
  | left
  deriving DecidableEq

/-- A connection in `backlog` is of this user or not.  `dropping` holds the claims whose
removal has been spawned and not run. -/
structure Daemon where
  remoteEnabled : Bool
  hosting : Nat
  clients : Nat
  claimed : List String
  dropping : List String
  backlog : List Bool
  bound : Bool
  serving : Serving
  tasks : Nat → Option ClientPhase
  nextTask : Nat

inductive Action where
  | connect (sameUser : Bool)
  | accept
  | acceptFails
  | wake
  | deadline
  | rescue (binds : Bool)
  | standDown
  | hello (id : Nat)
  | openTerminal (id : Nat) (localRef : String)
  | retire (id : Nat)
  | exit (id : Nat)
  | hangUp (id : Nat)
  | finish (id : Nat)
  | remove
  | host (starts : Bool)

def ClientPhase.isAlive (phase : ClientPhase) : Bool := phase ≠ .gone

/-- Accepted, and neither mirrored nor refused yet. -/
def ClientPhase.isWaiting : ClientPhase → Bool
  | .accepted | .greeted _ => true
  | _ => false

namespace Daemon

def initial (remoteEnabled : Bool) : Daemon :=
  ⟨remoteEnabled, 0, 0, [], [], [], true, .selecting (!remoteEnabled), fun _ => none, 0⟩

def idle (daemon : Daemon) : Bool :=
  daemon.clients = 0 && daemon.hosting = 0 && !daemon.remoteEnabled

def top (daemon : Daemon) : Daemon := { daemon with serving := .selecting daemon.idle }

def takeClient (daemon : Daemon) (sameUser : Bool) : Daemon :=
  if sameUser then
    { daemon with
      clients := daemon.clients + 1
      tasks := Function.update daemon.tasks daemon.nextTask (some .accepted)
      nextTask := daemon.nextTask + 1 }
  else daemon

def setPhase (daemon : Daemon) (id : Nat) (phase : ClientPhase) : Daemon :=
  { daemon with tasks := Function.update daemon.tasks id (some phase) }

def claim (daemon : Daemon) (id : Nat) (localRef : String) : Daemon :=
  if localRef ∈ daemon.claimed then daemon.setPhase id .closing
  else
    ({ daemon with claimed := daemon.claimed ++ [localRef] } : Daemon).setPhase id (.opened localRef)

/-- Terminals, not connections: only claims and the count at the hello matter. -/
def grants (daemon : Daemon) (others : Nat) : Bool := others = 0 && daemon.claimed.isEmpty

def hasLeft (daemon : Daemon) : Bool := daemon.serving = .left

def count (daemon : Daemon) (test : ClientPhase → Bool) : Nat :=
  countTasks test daemon.tasks daemon.nextTask

/-- A connection of this user that was accepted or is in the backlog waits to be served. -/
def keepsWaiting (daemon : Daemon) : Bool :=
  daemon.backlog.contains true || daemon.count ClientPhase.isWaiting ≠ 0

def converse (daemon : Daemon) (id : Nat) (phase : ClientPhase) : Action → Option Daemon
  | .hello _ =>
      match phase with
      | .accepted => some (daemon.setPhase id (.greeted (daemon.clients - 1)))
      | _ => none
  | .openTerminal _ localRef =>
      match phase with
      | .greeted _ => some (daemon.claim id localRef)
      | _ => none
  | .retire _ =>
      match phase with
      | .greeted others =>
          some (daemon.setPhase id (if daemon.grants others then .retiring else .closing))
      | _ => none
  | .exit _ =>
      match phase with
      | .retiring => some { daemon with serving := .left }
      | _ => none
  | .hangUp _ =>
      match phase with
      | .accepted | .greeted _ => some (daemon.setPhase id .closing)
      | .opened localRef =>
          some (({ daemon with dropping := daemon.dropping ++ [localRef] } : Daemon).setPhase id
            .closing)
      | _ => none
  | .finish _ =>
      match phase with
      | .closing =>
          some (({ daemon with clients := daemon.clients - 1 } : Daemon).setPhase id .gone)
      | _ => none
  | _ => none

def act (daemon : Daemon) (action : Action) : Option Daemon :=
  match action with
  | .connect sameUser =>
      if daemon.bound then some { daemon with backlog := daemon.backlog ++ [sameUser] } else none
  | .accept =>
      match daemon.serving, daemon.backlog with
      | .selecting _, sameUser :: backlog =>
          some (({ daemon with backlog } : Daemon).takeClient sameUser).top
      | _, _ => none
  | .acceptFails | .wake =>
      match daemon.serving with
      | .selecting _ => some daemon.top
      | _ => none
  | .deadline =>
      match daemon.serving with
      | .selecting true => some { daemon with bound := false, serving := .standing }
      | _ => none
  | .rescue binds =>
      match daemon.serving, daemon.backlog with
      | .standing, sameUser :: _ =>
          if binds then
            some (({ daemon with backlog := [], bound := true } : Daemon).takeClient sameUser).top
          else some { daemon with serving := .left }
      | _, _ => none
  | .standDown =>
      match daemon.serving with
      | .standing => some { daemon with serving := .left }
      | _ => none
  | .hello id | .openTerminal id _ | .retire id | .exit id | .hangUp id | .finish id =>
      (daemon.tasks id).bind fun phase => daemon.converse id phase action
  | .remove =>
      match daemon.dropping with
      | localRef :: dropping =>
          some { daemon with dropping, claimed := daemon.claimed.erase localRef }
      | [] => none
  | .host starts =>
      if daemon.remoteEnabled then
        some { daemon with hosting := if starts then daemon.hosting + 1 else daemon.hosting - 1 }
      else none

def step (daemon : Daemon) (action : Action) : Option Daemon :=
  if daemon.hasLeft then none else daemon.act action

end Daemon

/-- No connection of this user comes while a client whose `retire` was granted is still
there; none is there, nor in the backlog, when one is granted.  The loop does not leave
while such a connection is in the backlog, by a failed or late accept or a failed bind, nor
while the removal of a claim is outstanding. -/
def undisturbed (daemon : Daemon) : Action → Bool
  | .connect sameUser => !sameUser || daemon.count (· = .retiring) = 0
  | .retire id =>
      match daemon.tasks id with
      | some (.greeted others) =>
          !daemon.grants others ||
            (daemon.count ClientPhase.isWaiting = 1 && !daemon.backlog.contains true)
      | _ => true
  | .rescue false | .standDown => daemon.dropping.isEmpty && !daemon.backlog.contains true
  | _ => true

def Daemon.Clear (daemon : Daemon) : Prop := daemon.claimed = [] ∧ daemon.keepsWaiting = false

namespace Daemon

structure Inv (daemon : Daemon) : Prop where
  below : ∀ id phase, daemon.tasks id = some phase → id < daemon.nextTask
  counter : daemon.clients = daemon.count ClientPhase.isAlive
  claims : ∀ localRef, daemon.claimed.count localRef =
    daemon.dropping.count localRef + daemon.count (· = .opened localRef)
  unattended : daemon.serving = .selecting true ∨ daemon.serving = .standing → daemon.clients = 0
  granted : daemon.count (· = .retiring) = 0 ∨ daemon.Clear
  left : daemon.serving = .left → daemon.Clear

variable {daemon next : Daemon} {id : Nat} {phase : ClientPhase}

theorem Inv.initial (remoteEnabled : Bool) : Inv (initial remoteEnabled) where
  below := by
    intro id phase found
    cases found
  counter := rfl
  claims := by
    intro localRef
    rfl
  unattended := fun _ => rfl
  granted := Or.inl rfl
  left := by
    intro hleft
    cases hleft

theorem count_setPhase (found : daemon.tasks id = some phase) (below : id < daemon.nextTask)
    (test : ClientPhase → Bool) (later : ClientPhase) :
    (daemon.setPhase id later).count test + (test phase).toNat =
      daemon.count test + (test later).toNat := by
  have hone : ∀ share : Bool, (if share = true then 1 else 0) = share.toNat := by decide
  have hmoved := countTasks_update test found below later
  rw [hone, hone] at hmoved
  exact hmoved

theorem keepsWaiting_eq_false : daemon.keepsWaiting = false ↔
      true ∉ daemon.backlog ∧ daemon.count ClientPhase.isWaiting = 0 := by
  simp [keepsWaiting]

section

variable (inv : Inv daemon)
include inv

theorem Inv.setPhase (found : daemon.tasks id = some phase) {base : Daemon} (later : ClientPhase)
    (same : base.tasks = daemon.tasks ∧ base.nextTask = daemon.nextTask ∧
      base.serving = daemon.serving ∧ base.backlog = daemon.backlog)
    (staying : daemon.serving ≠ .left) (alive : phase.isAlive = true)
    (counter : base.clients + phase.isAlive.toNat = daemon.clients + later.isAlive.toNat)
    (claims : ∀ localRef, base.claimed.count localRef + daemon.dropping.count localRef +
          (decide (phase = .opened localRef)).toNat =
        daemon.claimed.count localRef + base.dropping.count localRef +
          (decide (later = .opened localRef)).toNat)
    (granted : later = .retiring ∧ daemon.claimed = [] ∧ base.claimed = [] ∧
        daemon.count ClientPhase.isWaiting = 1 ∧ phase.isWaiting = true ∧ true ∉ daemon.backlog ∨
      later ≠ .retiring ∧ later.isWaiting.toNat ≤ phase.isWaiting.toNat ∧
        (phase.isWaiting = true ∨ base.claimed = daemon.claimed)) :
    Inv (base.setPhase id later) := by
  obtain ⟨htasks, hnext, hserving, hbacklog⟩ := same
  have hbelow := inv.below id phase found
  have hfound : base.tasks id = some phase := htasks ▸ found
  have hcount : ∀ test, base.count test = daemon.count test := by
    intro test
    unfold Daemon.count
    rw [htasks, hnext]
  have hmove := fun test =>
    count_setPhase hfound (hnext ▸ hbelow) test later
  have hpresent : 0 < daemon.count ClientPhase.isAlive := countTasks_pos found hbelow alive
  constructor
  · intro other otherPhase hother
    simp only [Daemon.setPhase, Function.update_apply, htasks] at hother
    split at hother
    · rename_i hid
      rw [hid]
      exact hnext ▸ hbelow
    · exact hnext ▸ inv.below other otherPhase hother
  · have halive := hmove ClientPhase.isAlive
    have hcounter := inv.counter
    rw [hcount] at halive
    simp only [Daemon.setPhase] at halive ⊢
    omega
  · intro localRef
    have hopened := hmove (· = .opened localRef)
    have hclaims := inv.claims localRef
    have hchange := claims localRef
    rw [hcount] at hopened
    simp only [Daemon.setPhase] at hopened ⊢
    omega
  · intro hunattended
    have hclients := inv.unattended (hserving ▸ hunattended)
    have hcounter := inv.counter
    omega
  · have hretiring := hmove (· = .retiring)
    have hwaiting := hmove ClientPhase.isWaiting
    rw [hcount] at hretiring hwaiting
    rcases granted with ⟨rfl, _, hclaimed, hone, hphase, hquiet⟩ | ⟨hlater, hwaits, hkept⟩
    · right
      refine ⟨hclaimed, keepsWaiting_eq_false.mpr ⟨?_, ?_⟩⟩
      · rw [Daemon.setPhase, hbacklog]
        exact hquiet
      · rw [hone, hphase, Bool.toNat_true] at hwaiting
        have hzero : ClientPhase.retiring.isWaiting.toNat = 0 := rfl
        omega
    · have hnew : (decide (later = .retiring)).toNat = 0 := by rw [decide_eq_false hlater]; rfl
      rcases inv.granted with hnone | ⟨hclaimed, hclear⟩
      · left
        omega
      · right
        obtain ⟨hquiet, hzero⟩ := keepsWaiting_eq_false.mp hclear
        have hstill : phase.isWaiting = false := by
          cases hphase : phase.isWaiting with
          | false => rfl
          | true =>
            have hpos : 0 < daemon.count ClientPhase.isWaiting :=
              countTasks_pos found hbelow hphase
            omega
        refine ⟨(hkept.resolve_left (by simp [hstill])).trans hclaimed,
          keepsWaiting_eq_false.mpr ⟨?_, ?_⟩⟩
        · rw [Daemon.setPhase, hbacklog]
          exact hquiet
        · rw [hstill, Bool.toNat_false] at hwaits hwaiting
          omega
  · intro hleft
    exact absurd (hserving.symm.trans hleft) staying

theorem Inv.goOn (found : daemon.tasks id = some phase) (later : ClientPhase)
    (staying : daemon.serving ≠ .left) (alive : phase.isAlive = true ∧ later.isAlive = true)
    (unclaimed : ∀ localRef, phase ≠ .opened localRef ∧ later ≠ .opened localRef)
    (ungranted : later ≠ .retiring) (waits : later.isWaiting.toNat ≤ phase.isWaiting.toNat) :
    Inv (daemon.setPhase id later) := by
  refine inv.setPhase found later ⟨rfl, rfl, rfl, rfl⟩ staying alive.1 ?_ ?_
    (Or.inr ⟨ungranted, waits, .inr rfl⟩)
  · rw [alive.1, alive.2]
  · intro localRef
    rw [decide_eq_false (unclaimed localRef).1, decide_eq_false (unclaimed localRef).2]

theorem Inv.claim {others : Nat}
    (found : daemon.tasks id = some (.greeted others)) (staying : daemon.serving ≠ .left)
    (localRef : String) : Inv (daemon.claim id localRef) := by
  unfold Daemon.claim
  split
  · exact inv.goOn found .closing staying ⟨rfl, rfl⟩ (by simp) (by simp) (Nat.zero_le _)
  · refine inv.setPhase found (.opened localRef) ⟨rfl, rfl, rfl, rfl⟩ staying rfl rfl ?_
      (Or.inr ⟨by simp, Nat.zero_le _, .inl rfl⟩)
    intro other
    have hsame : (decide (ClientPhase.opened localRef = .opened other)).toNat =
        [localRef].count other := by
      by_cases heq : localRef = other
      · simp [heq]
      · simp [heq]
    have hnone : (decide (ClientPhase.greeted others = .opened other)).toNat = 0 := rfl
    rw [hsame, hnone]
    dsimp only
    rw [count_append]
    omega

theorem Inv.exits (clear : daemon.Clear) : Inv { daemon with serving := .left } where
  below := inv.below
  counter := inv.counter
  claims := inv.claims
  unattended := by
    intro hunattended
    rcases hunattended with hidle | hstanding
    · cases hidle
    · cases hstanding
  granted := inv.granted
  left := fun _ => clear

theorem Inv.grant {others : Nat} (found : daemon.tasks id = some (.greeted others))
    (staying : daemon.serving ≠ .left) (grants : daemon.grants others = true)
    (allowed : undisturbed daemon (.retire id) = true) : Inv (daemon.setPhase id .retiring) := by
  simp only [undisturbed, found, grants, Bool.not_true, Bool.false_or, Bool.and_eq_true,
    decide_eq_true_iff, Bool.not_eq_true', contains_eq_mem, decide_eq_false_iff_not] at allowed
  have hclaimed : daemon.claimed = [] := by
    unfold Daemon.grants at grants
    exact List.isEmpty_iff.mp (Bool.and_eq_true_iff.mp grants).2
  exact inv.setPhase found .retiring ⟨rfl, rfl, rfl, rfl⟩ staying rfl rfl (fun localRef => rfl)
    (Or.inl ⟨rfl, hclaimed, hclaimed, allowed.1, rfl, allowed.2⟩)

theorem Inv.hangUp {localRef : String}
    (found : daemon.tasks id = some (.opened localRef)) (staying : daemon.serving ≠ .left) :
    Inv (({ daemon with dropping := daemon.dropping ++ [localRef] } : Daemon).setPhase id
      .closing) := by
  refine inv.setPhase found .closing ⟨rfl, rfl, rfl, rfl⟩ staying rfl rfl ?_
    (Or.inr ⟨by simp, Nat.zero_le _, .inr rfl⟩)
  intro other
  have hsame : (decide (ClientPhase.opened localRef = .opened other)).toNat =
      [localRef].count other := by
    by_cases heq : localRef = other
    · simp [heq]
    · simp [heq]
  have hnone : (decide (ClientPhase.closing = .opened other)).toNat = 0 := rfl
  rw [hsame, hnone]
  dsimp only
  rw [count_append]
  omega

theorem Inv.finish (found : daemon.tasks id = some .closing) (staying : daemon.serving ≠ .left) :
    Inv (({ daemon with clients := daemon.clients - 1 } : Daemon).setPhase id .gone) := by
  have hpos : 0 < daemon.count ClientPhase.isAlive :=
    countTasks_pos found (inv.below id _ found) rfl
  have hcounter := inv.counter
  refine inv.setPhase found .gone ⟨rfl, rfl, rfl, rfl⟩ staying rfl ?_ (fun localRef => rfl)
    (Or.inr ⟨by simp, Nat.zero_le _, .inr rfl⟩)
  have hone : ClientPhase.closing.isAlive.toNat = 1 := rfl
  have hzero : ClientPhase.gone.isAlive.toNat = 0 := rfl
  dsimp only
  omega

theorem Inv.converse (found : daemon.tasks id = some phase)
    (staying : daemon.serving ≠ .left) {action : Action}
    (allowed : ∀ other, action = .retire other →
      other = id ∧ undisturbed daemon (.retire id) = true)
    (taken : daemon.converse id phase action = some next) : Inv next := by
  have hbelow := inv.below id phase found
  cases action with
  | hello other =>
    simp only [Daemon.converse] at taken
    split at taken
    · cases taken
      exact inv.goOn found _ staying ⟨rfl, rfl⟩ (by simp) (by simp) (Nat.le_refl _)
    · cases taken
  | openTerminal other localRef =>
    simp only [Daemon.converse] at taken
    split at taken
    · cases taken
      exact inv.claim found staying localRef
    · cases taken
  | retire other =>
    obtain ⟨rfl, hundisturbed⟩ := allowed other rfl
    simp only [Daemon.converse] at taken
    split at taken
    · rename_i others
      cases taken
      split
      · rename_i hgrants
        exact inv.grant found staying hgrants hundisturbed
      · exact inv.goOn found _ staying ⟨rfl, rfl⟩ (by simp) (by simp) (Nat.zero_le _)
    · cases taken
  | exit other =>
    simp only [Daemon.converse] at taken
    split at taken
    · cases taken
      apply inv.exits
      have hpos : 0 < daemon.count (· = .retiring) := countTasks_pos found hbelow rfl
      exact inv.granted.resolve_left (by omega)
    · cases taken
  | hangUp other =>
    simp only [Daemon.converse] at taken
    split at taken
    · cases taken
      exact inv.goOn found _ staying ⟨rfl, rfl⟩ (by simp) (by simp) (Nat.zero_le _)
    · cases taken
      exact inv.goOn found _ staying ⟨rfl, rfl⟩ (by simp) (by simp) (Nat.zero_le _)
    · rename_i localRef
      cases taken
      exact inv.hangUp found staying
    · cases taken
  | finish other =>
    simp only [Daemon.converse] at taken
    split at taken
    · cases taken
      exact inv.finish found staying
    · cases taken
  | connect | accept | acceptFails | wake | deadline | rescue | standDown | remove | host =>
    cases taken

theorem Inv.top : Inv daemon.top where
  below := inv.below
  counter := inv.counter
  claims := inv.claims
  unattended := by
    intro hunattended
    rcases hunattended with hidle | hstanding
    · have hidle : daemon.idle = true := Serving.selecting.inj hidle
      unfold Daemon.idle at hidle
      simp only [Bool.and_eq_true, decide_eq_true_iff] at hidle
      exact hidle.1.1
    · cases hstanding
  granted := inv.granted
  left := by
    intro hleft
    cases hleft

theorem Inv.queue {backlog : List Bool} (bound : Bool)
    (quiet : daemon.count (· = .retiring) = 0 ∨ (true ∈ backlog → true ∈ daemon.backlog))
    (staying : daemon.serving ≠ .left) : Inv { daemon with backlog, bound } where
  below := inv.below
  counter := inv.counter
  claims := inv.claims
  unattended := inv.unattended
  granted := by
    rcases quiet with hnone | hquiet
    · exact .inl hnone
    · rcases inv.granted with hnone | ⟨hclaimed, hclear⟩
      · exact .inl hnone
      · right
        obtain ⟨hbacklog, hzero⟩ := keepsWaiting_eq_false.mp hclear
        exact ⟨hclaimed, keepsWaiting_eq_false.mpr ⟨fun member => hbacklog (hquiet member), hzero⟩⟩
  left := fun hleft => absurd hleft staying

theorem Inv.takeClient {sameUser : Bool}
    (free : sameUser = true → daemon.count (· = .retiring) = 0) :
    Inv (daemon.takeClient sameUser).top := by
  cases sameUser with
  | false => exact inv.top
  | true =>
    have hone : ∀ test : ClientPhase → Bool,
        (daemon.takeClient true).top.count test = daemon.count test + (test .accepted).toNat := by
      intro test
      have hshare : ∀ share : Bool, (if share = true then 1 else 0) = share.toNat := by decide
      have hstart := countTasks_start test daemon.tasks daemon.nextTask .accepted
      rw [hshare] at hstart
      exact hstart
    refine ⟨?_, ?_, ?_, ?_, .inl ?_, ?_⟩
    · intro other phase hother
      simp only [Daemon.top, Daemon.takeClient, if_true, Function.update_apply] at hother
      split at hother
      · rename_i hid
        rw [hid]
        exact Nat.lt_succ_self _
      · exact (inv.below other phase hother).trans (Nat.lt_succ_self _)
    · rw [hone]
      exact congrArg (· + 1) inv.counter
    · intro localRef
      rw [hone]
      exact inv.claims localRef
    · intro hunattended
      rcases hunattended with hidle | hstanding
      · have hidle : (daemon.takeClient true).idle = true := Serving.selecting.inj hidle
        unfold Daemon.idle at hidle
        simp only [Bool.and_eq_true, decide_eq_true_iff] at hidle
        exact hidle.1.1
      · cases hstanding
    · rw [hone]
      exact free rfl
    · intro hleft
      cases hleft

theorem Inv.clear_of_unattended (unattended : daemon.clients = 0)
    (dropped : daemon.dropping = []) (quiet : true ∉ daemon.backlog) : daemon.Clear := by
  have hnone : ∀ test : ClientPhase → Bool, (∀ phase, test phase → phase.isAlive = true) →
      daemon.count test = 0 := by
    intro test weaker
    have hle : daemon.count test ≤ daemon.count ClientPhase.isAlive :=
      countTasks_mono weaker daemon.tasks daemon.nextTask
    have hcounter := inv.counter
    omega
  constructor
  · apply eq_nil_iff_forall_not_mem.mpr
    intro localRef member
    have hpos := count_pos_iff.mpr member
    have hclaims := inv.claims localRef
    rw [dropped, hnone (· = .opened localRef) (by simp [ClientPhase.isAlive])] at hclaims
    rw [hclaims] at hpos
    exact absurd hpos (Nat.lt_irrefl 0)
  · refine keepsWaiting_eq_false.mpr ⟨quiet, hnone _ ?_⟩
    intro phase hwaiting
    cases phase with
    | accepted | greeted | opened | retiring | closing => rfl
    | gone => cases hwaiting

theorem Inv.remove {localRef : String} {dropping : List String}
    (spawned : daemon.dropping = localRef :: dropping) (staying : daemon.serving ≠ .left) :
    Inv { daemon with dropping, claimed := daemon.claimed.erase localRef } where
  below := inv.below
  counter := inv.counter
  claims := by
    intro other
    have hclaims := inv.claims other
    rw [spawned, count_cons] at hclaims
    have hcount : ({ daemon with dropping, claimed := daemon.claimed.erase localRef } : Daemon).count
        (· = .opened other) = daemon.count (· = .opened other) := rfl
    rw [hcount, count_erase]
    dsimp only
    by_cases heq : localRef = other
    · rw [if_pos (beq_iff_eq.mpr heq)] at hclaims ⊢
      omega
    · rw [if_neg (by simpa using heq)] at hclaims ⊢
      omega
  unattended := inv.unattended
  granted := by
    rcases inv.granted with hnone | ⟨hclaimed, hclear⟩
    · exact .inl hnone
    · right
      refine ⟨?_, hclear⟩
      rw [hclaimed]
      rfl
  left := fun hleft => absurd hleft staying

theorem Inv.act {action : Action} (staying : daemon.serving ≠ .left)
    (allowed : undisturbed daemon action = true) (taken : daemon.act action = some next) :
    Inv next := by
  -- A connection in the backlog rules out that a `retire` was granted.
  have hfree : ∀ {sameUser backlog}, daemon.backlog = sameUser :: backlog → sameUser = true →
      daemon.count (· = .retiring) = 0 := by
    rintro _ backlog hbacklog rfl
    rcases inv.granted with hnone | ⟨_, hclear⟩
    · exact hnone
    · exact absurd (hbacklog ▸ mem_cons_self) (keepsWaiting_eq_false.mp hclear).1
  cases action with
  | connect sameUser =>
    simp only [Daemon.act] at taken
    split at taken
    · cases taken
      refine inv.queue _ ?_ staying
      cases sameUser with
      | false =>
        right
        intro member
        simpa using member
      | true =>
        left
        simpa [undisturbed] using allowed
    · cases taken
  | accept =>
    simp only [Daemon.act] at taken
    split at taken
    · rename_i sameUser backlog hserving hbacklog
      cases taken
      have hqueue : Inv { daemon with backlog } :=
        inv.queue daemon.bound (Or.inr fun member => hbacklog ▸ mem_cons_of_mem _ member) staying
      exact hqueue.takeClient (hfree hbacklog)
    · cases taken
  | acceptFails =>
    simp only [Daemon.act] at taken
    split at taken
    · cases taken
      exact inv.top
    · cases taken
  | wake =>
    simp only [Daemon.act] at taken
    split at taken
    · cases taken
      exact inv.top
    · cases taken
  | deadline =>
    simp only [Daemon.act] at taken
    split at taken
    · rename_i hserving
      cases taken
      refine ⟨inv.below, inv.counter, inv.claims, fun _ => inv.unattended (Or.inl hserving),
        inv.granted, ?_⟩
      intro hleft
      cases hleft
    · cases taken
  | rescue binds =>
    simp only [Daemon.act] at taken
    split at taken
    · rename_i sameUser backlog hserving hbacklog
      have hunattended := inv.unattended (Or.inr hserving)
      cases binds with
      | true =>
        cases taken
        have hqueue : Inv { daemon with backlog := [], bound := true } :=
          inv.queue _ (Or.inr fun member => absurd member (by simp)) staying
        exact hqueue.takeClient (hfree hbacklog)
      | false =>
        cases taken
        simp only [undisturbed, Bool.and_eq_true, List.isEmpty_iff, Bool.not_eq_true',
          contains_eq_mem, decide_eq_false_iff_not] at allowed
        exact inv.exits (inv.clear_of_unattended hunattended allowed.1 allowed.2)
    · cases taken
  | standDown =>
    simp only [Daemon.act] at taken
    split at taken
    · rename_i hserving
      cases taken
      simp only [undisturbed, Bool.and_eq_true, List.isEmpty_iff, Bool.not_eq_true',
        contains_eq_mem, decide_eq_false_iff_not] at allowed
      exact inv.exits (inv.clear_of_unattended (inv.unattended (Or.inr hserving)) allowed.1 allowed.2)
    · cases taken
  | hello id | openTerminal id localRef | exit id | hangUp id | finish id =>
    obtain ⟨phase, found, htaken⟩ := Option.bind_eq_some_iff.mp taken
    refine inv.converse found staying ?_ htaken
    intro other heq
    cases heq
  | retire id =>
    obtain ⟨phase, found, htaken⟩ := Option.bind_eq_some_iff.mp taken
    refine inv.converse found staying ?_ htaken
    intro other heq
    cases heq
    exact ⟨rfl, allowed⟩
  | remove =>
    simp only [Daemon.act] at taken
    split at taken
    · rename_i localRef dropping hdropping
      cases taken
      exact inv.remove hdropping staying
    · cases taken
  | host starts =>
    simp only [Daemon.act] at taken
    split at taken
    · cases taken
      exact ⟨inv.below, inv.counter, inv.claims, inv.unattended, inv.granted, inv.left⟩
    · cases taken

end

theorem Inv.step {action : Action} (inv : Inv daemon) (allowed : undisturbed daemon action = true)
    (taken : daemon.step action = some next) : Inv next := by
  unfold Daemon.step at taken
  split at taken
  · cases taken
  · rename_i hthere
    refine inv.act ?_ allowed taken
    intro hleft
    exact hthere (by simp [Daemon.hasLeft, hleft])

end Daemon

/-- In every undisturbed run the daemon has left only with nothing mirrored and nobody of
this user waiting. -/
theorem daemon_leaves_nobody_waiting {remoteEnabled : Bool} {daemon : Daemon}
    {actions : List Action}
    (taken : run (restrict Daemon.step fun daemon action => undisturbed daemon action = true)
      (Daemon.initial remoteEnabled) actions = some daemon) :
    daemon.hasLeft = true → daemon.Clear := by
  have hinv : Daemon.Inv daemon := by
    refine restrict_invariant ?_ (Daemon.Inv.initial remoteEnabled) taken
    intro before action after inv allowed hstep
    exact inv.step allowed hstep
  intro hleft
  exact hinv.left (of_decide_eq_true hleft)

/-- A terminal is mirrored and ends, and a client of another build asks the daemon to
leave. -/
def handedOver : List Action :=
  [Action.connect true, .accept, .hello 0, .openTerminal 0 "tab", .hangUp 0, .remove, .finish 0,
    .connect true, .accept, .hello 1, .retire 1, .exit 1]

def deserted : List Action :=
  [Action.connect true, .accept, .hello 0, .openTerminal 0 "tab", .hangUp 0, .remove, .finish 0,
    .wake, .deadline, .standDown]

theorem daemon_leaves_nobody_waiting_in_handedOver :
    (∃ daemon, run (restrict Daemon.step fun daemon action => undisturbed daemon action = true)
        (Daemon.initial false) handedOver = some daemon ∧
      daemon.hasLeft = true ∧ daemon.Clear) ∧
    ∃ daemon, run (restrict Daemon.step fun daemon action => undisturbed daemon action = true)
        (Daemon.initial false) deserted = some daemon ∧
      daemon.hasLeft = true ∧ daemon.Clear := by
  obtain ⟨first, hfirst, hhanded⟩ : ∃ daemon,
      run (restrict Daemon.step fun daemon action => undisturbed daemon action = true)
        (Daemon.initial false) handedOver = some daemon ∧ daemon.hasLeft = true :=
    ⟨_, rfl, by decide⟩
  obtain ⟨second, hsecond, hdeserted⟩ : ∃ daemon,
      run (restrict Daemon.step fun daemon action => undisturbed daemon action = true)
        (Daemon.initial false) deserted = some daemon ∧ daemon.hasLeft = true :=
    ⟨_, rfl, by decide⟩
  exact ⟨⟨first, hfirst, hhanded, daemon_leaves_nobody_waiting hfirst hhanded⟩,
    second, hsecond, hdeserted, daemon_leaves_nobody_waiting hsecond hdeserted⟩

/-- The `retire` is granted, and a terminal is opened before the exit. -/
def openedUnder : List Action :=
  [Action.connect true, .accept, .hello 0, .retire 0, .connect true, .accept, .hello 1,
    .openTerminal 1 "tab", .exit 0]

/-- The accept that looks once more does not see the connection in the backlog. -/
def leftInBacklog : List Action :=
  [Action.connect true, .deadline, .standDown]

theorem daemon_leaves_under_a_mirror :
    (∃ daemon, run Daemon.step (Daemon.initial false) openedUnder = some daemon ∧
      daemon.hasLeft = true ∧ daemon.claimed = ["tab"]) ∧
    ∃ daemon, run Daemon.step (Daemon.initial false) leftInBacklog = some daemon ∧
      daemon.hasLeft = true ∧ daemon.keepsWaiting = true :=
  ⟨⟨_, rfl, by decide, by decide⟩, _, rfl, by decide, by decide⟩

end Hypeterm.Publisher.StandDown
