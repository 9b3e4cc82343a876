import Hypeterm.Relay.Acks

/-! The acknowledgement loop at a handle that does not change.  The loop ends at a retired
handle and waits at an open one; between the beginning of a close and its commit it does
neither. -/
namespace Hypeterm.Relay.Acks

open Library Option
open Db

def ownStep (id : Nat) : Action → Bool
  | .proceed other _ timedOut => other = id && !timedOut
  | _ => false

/-- When there is nothing to acknowledge and nothing to return for, the wait for the next byte
does not come back at once, and between two changes of the handle the task takes a bounded
number of steps. -/
structure NeverSpins (system : System) (id : Nat) (handle : TerminalHandle) : Prop where
  suspends : ∀ task : Task, handle.inner.durableOffset ≤ task.acked →
    handle.inner.retired = false →
    system.wake id task (handle.inner.durableOffset + 1) handle false = none
  bounded : ∃ bound, ∀ actions final,
    run (restrict step fun _ action => ownStep id action = true) system actions = some final →
      actions.length ≤ bound

/-- The steps left to a task that waits for `target`. -/
def waitRank (handle : TerminalHandle) (target : Nat) : Nat :=
  if target ≤ handle.inner.durableOffset ∨ handle.inner.lifecycle ≠ .opened then 5 else 0

def Task.rank (task : Task) (handle : TerminalHandle) : Nat :=
  match task.phase with
  | .polling => if task.acked < handle.inner.durableOffset then 4 else 2
  | .sending _ => if task.acked < handle.inner.durableOffset then 5 else 3
  | .checking offsets =>
      if handle.inner.retired ∧ offsets.durableOffset ≤ task.acked then 1
      else waitRank handle (offsets.durableOffset + 1) + 1
  | .waiting target => waitRank handle target
  | .returned => 0

variable {system next : System} {id : Nat} {task : Task} {handle : TerminalHandle}

/-- What the task finds when it is its turn: itself, and its handle unchanged. -/
structure At (system : System) (id : Nat) (handle : TerminalHandle) (task : Task) : Prop where
  running : system.tasks id = some task
  found : system.relay.resident task.terminalId = some handle

section

variable (here : At system id handle task)
include here

theorem At.setTask {after : Task}
    (same : after.terminalId = task.terminalId) : At (system.setTask id after) id handle after where
  running := Function.update_self ..
  found := same ▸ here.found

theorem step_own {action : Action}
    (own : ownStep id action = true) (taken : step system action = some next) :
    ∃ sent, system.proceed id task sent false = some next := by
  cases action with
  | proceed other sent timedOut =>
    simp only [ownStep, Bool.and_eq_true, decide_eq_true_eq, Bool.not_eq_true'] at own
    obtain ⟨rfl, rfl⟩ := own
    simp only [step, here.running, bind_some] at taken
    exact ⟨sent, taken⟩
  | relay | spawnAckTask | abort => cases own

theorem At.lowers
    (calm : handle.inner.lifecycle = .opened ∨ handle.inner.retired = true) {sent : Bool}
    (taken : system.proceed id task sent false = some next) :
    ∃ after, At next id handle after ∧ after.rank handle < task.rank handle := by
  obtain ⟨terminalId, acked, phase⟩ := task
  cases phase with
  | polling =>
    simp only [System.proceed, here.found, map_some, Option.some.injEq] at taken
    subst taken
    unfold System.poll
    dsimp only [TerminalHandle.offsets]
    by_cases hbehind : acked < handle.inner.durableOffset
    · rw [if_pos hbehind]
      exact ⟨_, here.setTask rfl, by simp [Task.rank, hbehind]⟩
    · rw [if_neg hbehind]
      refine ⟨_, here.setTask rfl, ?_⟩
      simp only [Task.rank, hbehind, if_false]
      rcases calm with hopen | hretired
      · have hwait : waitRank handle (handle.inner.durableOffset + 1) = 0 := by
          simp [waitRank, hopen]
        rw [hwait]
        split <;> omega
      · rw [if_pos ⟨hretired, Nat.le_of_not_lt hbehind⟩]
        exact Nat.lt_succ_self 1
  | sending offsets =>
    simp only [System.proceed, Option.some.injEq] at taken
    subst taken
    cases sent with
    | true =>
      exact ⟨⟨terminalId, acked, .polling⟩, ⟨Function.update_self .., here.found⟩, by
        simp only [Task.rank]
        split <;> omega⟩
    | false =>
      exact ⟨⟨terminalId, acked, .returned⟩, here.setTask rfl, by
        simp only [Task.rank]
        split <;> omega⟩
  | checking offsets =>
    simp only [System.proceed, here.found, map_some, Option.some.injEq] at taken
    subst taken
    refine ⟨_, here.setTask rfl, ?_⟩
    by_cases hdone : handle.inner.retired = true ∧ offsets.durableOffset ≤ acked
    · simp only [Task.rank, if_pos hdone]
      exact Nat.one_pos
    · simp only [Task.rank, if_neg hdone]
      exact Nat.lt_succ_self _
  | waiting target =>
    simp only [System.proceed, here.found, bind_some, System.wake, Bool.false_eq_true,
      false_or] at taken
    split at taken
    · rename_i hready
      cases taken
      refine ⟨_, here.setTask rfl, ?_⟩
      simp only [Task.rank, waitRank, if_pos hready]
      split <;> omega
    · cases taken
  | returned =>
    simp only [System.proceed] at taken
    cases taken

theorem At.goes (going : task.phase ≠ .returned)
    (closing : handle.inner.lifecycle ≠ .opened) (kept : handle.inner.retired = false) :
    ∃ next after, system.proceed id task true false = some next ∧ At next id handle after ∧
      after.phase ≠ .returned := by
  obtain ⟨terminalId, acked, phase⟩ := task
  cases phase with
  | polling =>
    simp only [System.proceed, here.found, map_some]
    unfold System.poll
    dsimp only
    split
    · exact ⟨_, _, rfl, here.setTask rfl, by simp⟩
    · exact ⟨_, _, rfl, here.setTask rfl, by simp⟩
  | sending offsets =>
    exact ⟨_, ⟨terminalId, acked, .polling⟩, rfl, ⟨Function.update_self .., here.found⟩, by simp⟩
  | checking offsets =>
    simp only [System.proceed, here.found, map_some, System.check]
    exact ⟨_, _, rfl, here.setTask rfl, by simp [kept]⟩
  | waiting target =>
    simp only [System.proceed, here.found, bind_some, System.wake]
    rw [if_pos (Or.inr (Or.inr closing))]
    exact ⟨_, _, rfl, here.setTask rfl, by simp⟩
  | returned => exact absurd rfl going

theorem bounded_of_calm (calm : handle.inner.lifecycle = .opened ∨ handle.inner.retired = true)
    {actions : List Action} {final : System}
    (taken : run (restrict step fun _ action => ownStep id action = true) system actions =
      some final) : actions.length ≤ task.rank handle := by
  have hlowers : ∀ (state : System) (action : Action) (after : System),
      (∃ task, At state id handle task) →
      restrict step (fun _ action => ownStep id action = true) state action = some after →
      (∃ task, At after id handle task) ∧
        ((after.tasks id).elim 0 fun task => task.rank handle) <
          (state.tasks id).elim 0 fun task => task.rank handle := by
    rintro state action after ⟨before, hbefore⟩ htaken
    obtain ⟨hown, hstep⟩ := restrict_eq_some.mp htaken
    obtain ⟨sent, hproceed⟩ := step_own hbefore hown hstep
    obtain ⟨later, hlater, hrank⟩ := hbefore.lowers calm hproceed
    refine ⟨⟨later, hlater⟩, ?_⟩
    rw [hlater.running, hbefore.running]
    exact hrank
  have hlength := run_length_le hlowers ⟨task, here⟩ taken
  rw [here.running] at hlength
  exact hlength

theorem unbounded_of_closing (going : task.phase ≠ .returned)
    (closing : handle.inner.lifecycle ≠ .opened) (kept : handle.inner.retired = false)
    (count : Nat) :
    ∃ final, run (restrict step fun _ action => ownStep id action = true) system
      (List.replicate count (.proceed id true false)) = some final := by
  have hstays : ∀ state : System, (∃ task, At state id handle task ∧ task.phase ≠ .returned) →
      ∃ after, restrict step (fun _ action => ownStep id action = true) state
          (.proceed id true false) = some after ∧
        ∃ task, At after id handle task ∧ task.phase ≠ .returned := by
    rintro state ⟨before, hbefore, hgoing⟩
    obtain ⟨after, later, hproceed, hlater, hphase⟩ := hbefore.goes hgoing closing kept
    refine ⟨after, restrict_eq_some.mpr ⟨by simp [ownStep], ?_⟩, later, hlater, hphase⟩
    simp only [step, hbefore.running, bind_some, hproceed]
  exact run_replicate hstays ⟨task, here, going⟩ count

end

/-- The acknowledgement task of a terminal never spins exactly while the terminal is open or
its close is committed; from the beginning of a close to its commit it does. -/
theorem ack_task_rests_iff (running : system.tasks id = some task) (going : task.phase ≠ .returned)
    (found : system.relay.resident task.terminalId = some handle) :
    NeverSpins system id handle ↔
      handle.inner.lifecycle = .opened ∨ handle.inner.retired = true := by
  have here : At system id handle task := ⟨running, found⟩
  constructor
  · intro rests
    by_contra hspins
    obtain ⟨hclosing, hkept⟩ := not_or.mp hspins
    obtain ⟨bound, hbound⟩ := rests.bounded
    obtain ⟨final, hfinal⟩ := unbounded_of_closing here going hclosing
      (Bool.eq_false_of_not_eq_true hkept) (bound + 1)
    have hlength := hbound _ _ hfinal
    rw [List.length_replicate] at hlength
    omega
  · intro calm
    refine ⟨?_, task.rank handle, fun _ _ taken => bounded_of_calm here calm taken⟩
    intro other hacked hkept
    have hopen := calm.resolve_right (by simp [hkept])
    simp [System.wake, hopen]

def attendedRun : List Action :=
  ([Relay.Action.insertTerminal 7 1 "owner" "shell" "shell" none none none true,
    .load 7 4].map Action.relay) ++ [.spawnAckTask 0 7]

def closingRun : List Action := attendedRun ++ [.relay (.handle 7 (.beginClose "exit"))]

theorem ack_task_rests_in_attendedRun :
    ∃ system handle, run step System.initial attendedRun = some system ∧
      system.relay.resident 7 = some handle ∧ NeverSpins system 0 handle :=
  ⟨_, _, rfl, rfl, (@ack_task_rests_iff _ 0 ⟨7, 0, .polling⟩ _ rfl (by decide) rfl).mpr
    (Or.inl rfl)⟩

/-- A close that has begun and waits for its commit keeps the task busy. -/
theorem ack_task_spins : ¬ ∀ (actions : List Action) (system : System) (id : Nat) (task : Task)
      (handle : TerminalHandle), run step System.initial actions = some system →
        system.tasks id = some task → system.relay.resident task.terminalId = some handle →
        NeverSpins system id handle := by
  intro claim
  have hrests := claim closingRun _ 0 ⟨7, 0, .polling⟩ _ rfl rfl rfl
  have hsuspends := hrests.suspends ⟨7, 0, .polling⟩ (Nat.le_refl 0) rfl
  cases hsuspends

end Hypeterm.Relay.Acks
