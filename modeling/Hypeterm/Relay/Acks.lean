import Hypeterm.Relay.Steps

/-! Acknowledgements of durable output.  A publisher connection runs one task for each
terminal it opened; the task reads the offsets under the handle's lock and sends them
some time later, when output, checkpoints and a close may have gone on. -/
namespace Hypeterm.Relay.Acks

open Library Function List Option
open Db

inductive Phase where
  | polling
  | sending (offsets : Offsets)
  | checking (offsets : Offsets)
  | waiting (target : Nat)
  | returned
  deriving DecidableEq

structure Task where
  terminalId : Uuid
  acked : Nat
  phase : Phase

structure OutputAck where
  terminalId : Uuid
  durableOffset : Nat
  nextOffset : Nat

/-- `sent` is history: no step reads it. -/
structure System where
  relay : Relay.System
  tasks : Nat → Option Task
  sent : List OutputAck

def System.initial : System := ⟨Relay.System.initial, fun _ => none, []⟩

inductive Action where
  | relay (action : Relay.Action)
  | spawnAckTask (task : Nat) (terminalId : Uuid)
  | proceed (task : Nat) (sent : Bool) (timedOut : Bool)
  | abort (task : Nat)

namespace System

def setTask (system : System) (id : Nat) (task : Task) : System :=
  { system with tasks := Function.update system.tasks id (some task) }

/-- The handle as one lock shows it: everything durable was announced, or there is
something to send. -/
def poll (system : System) (id : Nat) (task : Task) (handle : TerminalHandle) : System :=
  let offsets := handle.offsets
  if task.acked < offsets.durableOffset then
    system.setTask id { task with acked := offsets.durableOffset, phase := .sending offsets }
  else system.setTask id { task with phase := .checking offsets }

/-- A connection that cannot be written to ends the task. -/
def send (system : System) (id : Nat) (task : Task) (offsets : Offsets) (sent : Bool) : System :=
  if sent then
    { system.setTask id { task with phase := .polling } with
      sent := system.sent ++ [⟨task.terminalId, offsets.durableOffset, offsets.nextOffset⟩] }
  else system.setTask id { task with phase := .returned }

def check (system : System) (id : Nat) (task : Task) (offsets : Offsets)
    (handle : TerminalHandle) : System :=
  system.setTask id { task with
    phase :=
      if handle.inner.retired ∧ offsets.durableOffset ≤ task.acked then .returned
      else .waiting (offsets.durableOffset + 1) }

/-- `wait_for_durable`: the offset arrived, the terminal stopped being open, or the
deadline passed. -/
def wake (system : System) (id : Nat) (task : Task) (target : Nat) (handle : TerminalHandle)
    (timedOut : Bool) : Option System :=
  if timedOut ∨ target ≤ handle.inner.durableOffset ∨ handle.inner.lifecycle ≠ .opened then
    some (system.setTask id { task with phase := .polling })
  else none

def proceed (system : System) (id : Nat) (task : Task) (sent timedOut : Bool) : Option System :=
  match task.phase with
  | .polling => (system.relay.resident task.terminalId).map (system.poll id task)
  | .sending offsets => some (system.send id task offsets sent)
  | .checking offsets => (system.relay.resident task.terminalId).map (system.check id task offsets)
  | .waiting target =>
      (system.relay.resident task.terminalId).bind fun handle =>
        system.wake id task target handle timedOut
  | .returned => none

def afterRelay (system : System) (action : Relay.Action) (relay : Relay.System) : System :=
  { system with relay, tasks := if action = .crash then fun _ => none else system.tasks }

end System

def step (system : System) : Action → Option System
  | .relay action => (Relay.step system.relay action).map (system.afterRelay action)
  | .spawnAckTask id terminalId =>
      if (system.tasks id).isNone ∧ (system.relay.resident terminalId).isSome then
        some (system.setTask id ⟨terminalId, 0, .polling⟩)
      else none
  | .proceed id sent timedOut =>
      (system.tasks id).bind fun task => system.proceed id task sent timedOut
  | .abort id => some { system with tasks := Function.update system.tasks id none }

/-- Everything sent, and everything about to be, was committed before. -/
structure AckInv (system : System) : Prop where
  relay : Inv system.relay
  replay : ReplayInv system.relay
  sending : ∀ id task offsets, system.tasks id = some task → task.phase = .sending offsets →
    Stored system.relay.store task.terminalId offsets.durableOffset
  sent : ∀ ack ∈ system.sent, Stored system.relay.store ack.terminalId ack.durableOffset

theorem AckInv.initial : AckInv System.initial where
  relay := Inv.initial
  replay := ReplayInv.initial
  sending := by
    intro id task offsets running
    cases running
  sent := by
    intro ack member
    cases member

variable {system next : System} {task : Task} {handle : TerminalHandle} {action : Action}

theorem AckInv.setTask (inv : AckInv system) (id : Nat)
    (sending : ∀ offsets, task.phase = .sending offsets →
      Stored system.relay.store task.terminalId offsets.durableOffset) :
    AckInv (system.setTask id task) where
  relay := inv.relay
  replay := inv.replay
  sending := by
    intro other running offsets found
    by_cases hsame : other = id
    · subst hsame
      simp only [System.setTask, update_self, Option.some.injEq] at found
      subst found
      exact sending offsets
    · simp only [System.setTask, update_of_ne hsame] at found
      exact inv.sending other running offsets found
  sent := inv.sent

theorem AckInv.poll (inv : AckInv system) (id : Nat)
    (found : system.relay.resident task.terminalId = some handle) :
    AckInv (system.poll id task handle) := by
  unfold System.poll
  dsimp only
  split
  · apply inv.setTask
    intro offsets hphase
    cases hphase
    exact inv.relay.durable_stored found
  · apply inv.setTask
    intro offsets hphase
    cases hphase

theorem AckInv.send (inv : AckInv system) (id : Nat)
    {offsets : Offsets} (running : system.tasks id = some task)
    (sending : task.phase = .sending offsets) (sent : Bool) :
    AckInv (system.send id task offsets sent) := by
  have hstored := inv.sending id task offsets running sending
  unfold System.send
  split
  · have hpolling : AckInv (system.setTask id { task with phase := .polling }) :=
      inv.setTask id fun _ hphase => nomatch hphase
    refine { hpolling with sent := ?_ }
    intro ack member
    rcases mem_append.mp member with hold | hlast
    · exact inv.sent ack hold
    · rw [mem_singleton.mp hlast]
      exact hstored
  · exact inv.setTask id fun _ hphase => nomatch hphase

theorem AckInv.proceed (inv : AckInv system) {id : Nat}
    {sent timedOut : Bool} (running : system.tasks id = some task)
    (taken : system.proceed id task sent timedOut = some next) : AckInv next := by
  unfold System.proceed at taken
  split at taken
  · obtain ⟨handle, found, rfl⟩ := map_eq_some_iff.mp taken
    exact inv.poll id found
  · rename_i hphase
    cases taken
    exact inv.send id running hphase sent
  · obtain ⟨handle, found, rfl⟩ := map_eq_some_iff.mp taken
    apply inv.setTask
    intro offsets hphase
    split at hphase <;> cases hphase
  · obtain ⟨handle, found, hwake⟩ := bind_eq_some_iff.mp taken
    unfold System.wake at hwake
    split at hwake
    · cases hwake
      exact inv.setTask id fun _ hphase => nomatch hphase
    · cases hwake
  · cases taken

theorem AckInv.step (inv : AckInv system)
    (taken : step system action = some next) : AckInv next := by
  cases action with
  | relay action =>
    obtain ⟨relay, hstep, rfl⟩ := map_eq_some_iff.mp taken
    constructor
    · exact inv.relay.step hstep
    · exact ReplayInv.step inv.relay inv.replay hstep
    · intro id task offsets running hphase
      simp only [System.afterRelay] at running
      split at running
      · cases running
      · exact (inv.sending id task offsets running hphase).step inv.relay hstep
    · intro ack member
      exact (inv.sent ack member).step inv.relay hstep
  | spawnAckTask id terminalId =>
    simp only [Acks.step] at taken
    split at taken
    · cases taken
      exact inv.setTask id fun _ hphase => nomatch hphase
    · cases taken
  | proceed id sent timedOut =>
    obtain ⟨task, running, hproceed⟩ := bind_eq_some_iff.mp taken
    exact inv.proceed running hproceed
  | abort id =>
    cases taken
    refine { inv with sending := ?_ }
    intro other task offsets running
    dsimp only at running
    by_cases hsame : other = id
    · subst hsame
      rw [update_self] at running
      cases running
    · rw [update_of_ne hsame] at running
      exact inv.sending other task offsets running

theorem relay_step (taken : step system action = some next) : next.relay = system.relay ∨
      ∃ own, action = .relay own ∧ Relay.step system.relay own = some next.relay := by
  cases action with
  | relay own =>
    obtain ⟨relay, hstep, rfl⟩ := map_eq_some_iff.mp taken
    exact .inr ⟨own, rfl, hstep⟩
  | spawnAckTask id terminalId =>
    simp only [step] at taken
    split at taken
    · cases taken
      exact .inl rfl
    · cases taken
  | proceed id sent timedOut =>
    obtain ⟨task, _, hproceed⟩ := bind_eq_some_iff.mp taken
    left
    unfold System.proceed at hproceed
    split at hproceed
    · obtain ⟨handle, _, rfl⟩ := map_eq_some_iff.mp hproceed
      simp only [System.poll]
      split <;> rfl
    · cases hproceed
      simp only [System.send]
      split <;> rfl
    · obtain ⟨handle, _, rfl⟩ := map_eq_some_iff.mp hproceed
      rfl
    · obtain ⟨handle, _, hwake⟩ := bind_eq_some_iff.mp hproceed
      unfold System.wake at hwake
      split at hwake
      · cases hwake
        rfl
      · cases hwake
    · cases hproceed
  | abort id =>
    cases taken
    exact .inl rfl

theorem step_advanced {terminalId : Uuid} (inv : AckInv system)
    (found : system.relay.resident terminalId = some handle) (running : .relay .crash ≠ action)
    (taken : step system action = some next) :
    ∃ after, next.relay.resident terminalId = some after ∧ Advanced handle after := by
  rcases relay_step taken with hsame | ⟨own, rfl, hstep⟩
  · exact ⟨handle, hsame ▸ found, Advanced.refl handle⟩
  · have hown : own ≠ .crash := fun heq => running (heq ▸ rfl)
    obtain ⟨after, added, hafter, _, hmoves⟩ := step_moves hstep hown found
    obtain ⟨row, _, hresident⟩ := (inv.relay.terminal terminalId).resident handle found
    exact ⟨after, hafter, hmoves.advanced hresident⟩

theorem advanced_run {later : System} {rest : List Action} {terminalId : Uuid} (inv : AckInv system)
    (found : system.relay.resident terminalId = some handle) (running : .relay .crash ∉ rest)
    (taken : run Acks.step system rest = some later) :
    ∃ after, later.relay.resident terminalId = some after ∧ Advanced handle after := by
  induction rest generalizing system handle with
  | nil =>
    cases taken
    exact ⟨handle, found, Advanced.refl handle⟩
  | cons action rest ih =>
    rw [mem_cons, not_or] at running
    obtain ⟨next, hstep, hrest⟩ := run_cons_eq_some.mp taken
    obtain ⟨middle, hmiddle, hadvanced⟩ := step_advanced inv found running.1 hstep
    obtain ⟨after, hafter, hrestAdvanced⟩ := ih (inv.step hstep) hmiddle running.2 hrest
    exact ⟨after, hafter, hadvanced.trans hrestAdvanced⟩

/-- In every state of every run the offsets of a resident handle are in order and its
ring within its capacity, a refused append changes nothing, no later state of the same
process has a smaller offset, and no acknowledgement or durable event names an offset
above the committed one.  The last holds in the state in which it is sent, too. -/
theorem offsets_grow_and_acks_are_committed {actions : List Action} {system : System}
    (taken : run step System.initial actions = some system) :
    (∀ terminalId handle, system.relay.resident terminalId = some handle →
      Ordered handle ∧
      (∀ expectedOffset payload capacity,
        expectedOffset ≠ handle.inner.nextOffset ∨ handle.inner.lifecycle ≠ .opened →
        step system (.relay (.handle terminalId (.append expectedOffset payload capacity))) =
          some system) ∧
      ∀ rest later, .relay .crash ∉ rest → run step system rest = some later →
        ∃ after, later.relay.resident terminalId = some after ∧ Advanced handle after) ∧
    (∀ record ∈ system.relay.subscribed, ∃ handle,
      system.relay.resident record.terminalId = some handle ∧
      ∀ durableOffset, .durable durableOffset ∈ handle.sentTo record.subscription.subscriberId →
        Stored system.relay.store record.terminalId durableOffset) ∧
    ∀ ack ∈ system.sent, Stored system.relay.store ack.terminalId ack.durableOffset := by
  have hinv : AckInv system := run_invariant (fun _ _ _ inv hstep => inv.step hstep)
    AckInv.initial taken
  refine ⟨?_, ?_, hinv.sent⟩
  · intro terminalId handle hfound
    refine ⟨hinv.relay.ordered hfound, ?_, ?_⟩
    · intro expectedOffset payload capacity hrefused
      have hsame := hinv.relay.refused_append hfound hrefused payload capacity
      simp only [step, hsame, map_some, System.afterRelay, reduceCtorEq, if_false]
    · exact fun rest later hrunning hlater => advanced_run hinv hfound hrunning hlater
  · intro record member
    obtain ⟨_, handle, hfound, hhears⟩ := hinv.replay.records record member
    refine ⟨handle, hfound, ?_⟩
    intro durableOffset hsent
    have hheard : durableOffset ≤ handle.inner.durableOffset := by
      apply hhears.heard.durables_le
      exact mem_filterMap.mpr ⟨_, hsent, rfl⟩
    obtain ⟨row, hrow, hle⟩ := hinv.relay.durable_stored hfound
    exact ⟨row, hrow, hheard.trans hle⟩

/-- Output, a checkpoint, an acknowledgement sent after more output, and a close. -/
def ackedRun : List Action :=
  ([Relay.Action.insertTerminal 7 1 "owner" "shell" "shell" none none none true, .load 7 4,
    .handle 7 (.subscribe none 3 8 100), .handle 7 (.append 0 [1, 2, 3, 4, 5] 4), .flushBegin [7],
    .flushTake, .flushTake, .flushCommit, .flushPublish, .flushPublish].map Action.relay) ++
  [Action.spawnAckTask 0 7, .proceed 0 true false, .relay (.handle 7 (.append 5 [6] 4)),
    .proceed 0 true false, .relay (.handle 7 (.append 5 [7] 4)),
    .relay (.handle 7 (.beginClose "exit"))]

theorem acks_are_committed_in_ackedRun :
    ∃ system, run step System.initial ackedRun = some system ∧ system.sent = [⟨7, 5, 5⟩] ∧
      ∀ ack ∈ system.sent, Stored system.relay.store ack.terminalId ack.durableOffset :=
  ⟨_, rfl, rfl, (offsets_grow_and_acks_are_committed
    (show run step System.initial ackedRun = some _ from rfl)).2.2⟩

end Hypeterm.Relay.Acks
