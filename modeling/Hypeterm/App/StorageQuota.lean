import Hypeterm.Db.Output
import Hypeterm.Library.Runs

/-! The storage quota and the flag `storage_failing`. Every statement of a sweep is a step of its
own, so that checkpoints may act in between. -/
namespace Hypeterm.Db

open Library

def deleteTerminal (store : Store) (terminalId : Uuid) : Store where
  terminalOutput := store.terminalOutput.filter fun row => row.terminalId ≠ terminalId
  terminals := store.terminals.filter fun row => row.terminalId ≠ terminalId

def totalOutputBytes (store : Store) : Nat :=
  (store.terminalOutput.map fun row => row.bytes.length).sum

def closedTerminals (store : Store) : List Uuid :=
  (store.terminals.filter fun row => row.state = .closed).map TerminalRow.terminalId

/-- What `expired_closed_terminals` may yield.  Rows carry no `closed_at` here, so which closed
terminals are past their retention is left open. -/
def ExpiredClosedTerminals (store : Store) (limit : Nat) (listed : List Uuid) : Prop :=
  listed.Nodup ∧ listed ⊆ closedTerminals store ∧ listed.length ≤ limit

/-- What `oldest_closed_terminals` may yield: as many closed terminals as the limit allows, in
some order. -/
def OldestClosedTerminals (store : Store) (limit : Nat) (listed : List Uuid) : Prop :=
  listed.Nodup ∧ listed ⊆ closedTerminals store ∧
    listed.length = min limit (closedTerminals store).length

instance (store : Store) (limit : Nat) (listed : List Uuid) :
    Decidable (ExpiredClosedTerminals store limit listed) :=
  inferInstanceAs (Decidable (_ ∧ _ ∧ _))

instance (store : Store) (limit : Nat) (listed : List Uuid) :
    Decidable (OldestClosedTerminals store limit listed) :=
  inferInstanceAs (Decidable (_ ∧ _ ∧ _))

end Hypeterm.Db

namespace Hypeterm.App.StorageQuota

open Library
open Db

/-- Where the holder of the flush lock stands in `flush_once`. -/
inductive Flush where
  | idle
  | committing (batch : List TerminalCheckpoint)
  | committed
  deriving DecidableEq

/-- Where `run_maintenance` stands, with the quota of its settings snapshot: reading the expired
terminals, deleting them, reading the oldest ones, deleting these as long as the output is over
the quota, and at the end of it. -/
inductive Sweep where
  | idle
  | listingExpired (quota : Nat)
  | deletingExpired (remaining : List Uuid) (quota : Nat)
  | listingOldest (used quota : Nat)
  | deletingOldest (remaining : List Uuid) (used quota : Nat)
  | measuring (remaining : List Uuid) (quota : Nat)
  | ending (used quota : Nat)
  deriving DecidableEq

/-- `overQuota` says how the last sweep ended and `commitFailed` how the last checkpoint did; no
step reads them. -/
structure System where
  store : Store
  storageFailing : Bool
  flush : Flush
  sweep : Sweep
  overQuota : Bool
  commitFailed : Bool
  deriving DecidableEq

def System.start (store : Store) : System where
  store := store
  storageFailing := false
  flush := .idle
  sweep := .idle
  overQuota := false
  commitFailed := false

/-- `transaction` is any other task of the server.  `sweepNext` brings the terminals that a query
yields, when the next statement of the sweep is one. -/
inductive Action where
  | transaction (store : Store)
  | flushBegin (batch : List TerminalCheckpoint)
  | flushCommit
  | flushFail
  | flushPublish
  | sweepBegin (quota : Nat)
  | sweepNext (listed : List Uuid)
  | sweepFail

namespace System

def setStorageFailing (system : System) (failing : Bool) : System :=
  { system with storageFailing := failing }

/-- The end of `run_maintenance`, which raises the flag and never lowers it. -/
def endSweep (system : System) (used quota : Nat) : System :=
  let ended := { system with sweep := .idle, overQuota := decide (quota < used) }
  if quota < used then ended.setStorageFailing true else ended

def sweepNext (system : System) (listed : List Uuid) : Option System :=
  match system.sweep with
  | .idle => none
  | .listingExpired quota =>
      if ExpiredClosedTerminals system.store 256 listed then
        some { system with sweep := .deletingExpired listed quota }
      else none
  | .deletingExpired (terminalId :: remaining) quota =>
      some { system with
        store := deleteTerminal system.store terminalId
        sweep := .deletingExpired remaining quota }
  | .deletingExpired [] quota =>
      let used := totalOutputBytes system.store
      some { system with
        sweep := if quota < used then .listingOldest used quota else .ending used quota }
  | .listingOldest used quota =>
      if OldestClosedTerminals system.store 256 listed then
        some { system with sweep := .deletingOldest listed used quota }
      else none
  | .deletingOldest (terminalId :: remaining) used quota =>
      if used ≤ quota then some { system with sweep := .ending used quota }
      else
        some { system with
          store := deleteTerminal system.store terminalId
          sweep := .measuring remaining quota }
  | .deletingOldest [] used quota => some { system with sweep := .ending used quota }
  | .measuring remaining quota =>
      some { system with
        sweep := .deletingOldest remaining (totalOutputBytes system.store) quota }
  | .ending used quota => some (system.endSweep used quota)

end System

/-- A commit that fails is tried again, until it is given up. -/
def step (system : System) : Action → Option System
  | .transaction store => some { system with store }
  | .flushBegin batch =>
      match system.flush with
      | .idle =>
          if batch.isEmpty then some system else some { system with flush := .committing batch }
      | _ => none
  | .flushCommit =>
      match system.flush with
      | .committing batch =>
          match commitCheckpoints system.store batch with
          | .ok store => some { system with store, flush := .committed }
          | .error _ => some system
      | _ => none
  | .flushFail =>
      match system.flush with
      | .committing _ =>
          some (({ system with flush := .idle, commitFailed := true } : System).setStorageFailing
            true)
      | _ => none
  | .flushPublish =>
      match system.flush with
      | .committed =>
          some (({ system with flush := .idle, commitFailed := false } : System).setStorageFailing
            false)
      | _ => none
  | .sweepBegin quota =>
      match system.sweep with
      | .idle => some { system with sweep := .listingExpired quota }
      | _ => none
  | .sweepNext listed => system.sweepNext listed
  | .sweepFail =>
      match system.sweep with
      | .idle | .ending _ _ => none
      | _ => some { system with sweep := .idle }

/-- After a sweep that ended over the quota the flag is up, and after one that did not it is down,
unless a commit failed. -/
structure Sticky (system : System) : Prop where
  raised : system.overQuota = true → system.storageFailing = true
  cured : system.overQuota = false → system.commitFailed = false → system.storageFailing = false

/-- No checkpoint succeeds while the output is over the quota, and no sweep brings it under the
quota again unless a commit failure is outstanding then. -/
def leavesFlag (system : System) : Action → Bool
  | .flushPublish => !system.overQuota
  | .sweepNext _ =>
      match system.sweep with
      | .ending used quota => !system.overQuota || decide (quota < used) || system.commitFailed
      | _ => true
  | _ => true

theorem Sticky.start (store : Store) : Sticky (System.start store) where
  raised := by
    intro hraised
    cases hraised
  cured := fun _ _ => rfl

theorem Sticky.still {system next : System} (sticky : Sticky system)
    (failing : next.storageFailing = system.storageFailing)
    (quota_eq : next.overQuota = system.overQuota)
    (failed : next.commitFailed = system.commitFailed) : Sticky next where
  raised := by
    rw [failing, quota_eq]
    exact sticky.raised
  cured := by
    rw [failing, quota_eq, failed]
    exact sticky.cured

theorem Sticky.endSweep_iff {system : System} (sticky : Sticky system) (used quota : Nat) :
    Sticky (system.endSweep used quota) ↔
      (!system.overQuota || decide (quota < used) || system.commitFailed) = true := by
  unfold System.endSweep
  by_cases hover : quota < used
  · rw [if_pos hover, decide_eq_true hover, Bool.or_true, Bool.true_or]
    refine ⟨fun _ => rfl, fun _ => ⟨fun _ => rfl, ?_⟩⟩
    intro hcured
    cases hcured
  · rw [if_neg hover, decide_eq_false hover, Bool.or_false, Bool.or_eq_true]
    constructor
    · intro hnext
      cases hbefore : system.overQuota with
      | false => exact .inl rfl
      | true =>
        right
        by_contra hcommitted
        have hlowered := hnext.cured rfl (by simpa using hcommitted)
        cases (sticky.raised hbefore).symm.trans hlowered
    · intro hallowed
      refine ⟨(fun hraised => nomatch hraised), ?_⟩
      intro _ hcommitted
      rcases hallowed with hunder | hfailed
      · exact sticky.cured (by simpa using hunder) hcommitted
      · cases hfailed.symm.trans hcommitted

theorem Sticky.sweepNext_iff {system next : System} (sticky : Sticky system) {listed : List Uuid}
    (taken : system.sweepNext listed = some next) :
    Sticky next ↔ leavesFlag system (.sweepNext listed) = true := by
  have hstill : ∀ store sweep, Sticky { system with store, sweep } ↔ true = true :=
    fun store sweep => ⟨fun _ => rfl, fun _ => sticky.still rfl rfl rfl⟩
  unfold System.sweepNext at taken
  unfold leavesFlag
  split at taken
  · cases taken
  · rename_i hsweep
    split at taken
    · cases taken
      rw [hsweep]
      exact hstill _ _
    · cases taken
  · rename_i hsweep
    cases taken
    rw [hsweep]
    exact hstill _ _
  · rename_i hsweep
    cases taken
    rw [hsweep]
    exact hstill _ _
  · rename_i hsweep
    split at taken
    · cases taken
      rw [hsweep]
      exact hstill _ _
    · cases taken
  · rename_i hsweep
    split at taken
    · cases taken
      rw [hsweep]
      exact hstill _ _
    · cases taken
      rw [hsweep]
      exact hstill _ _
  · rename_i hsweep
    cases taken
    rw [hsweep]
    exact hstill _ _
  · rename_i hsweep
    cases taken
    rw [hsweep]
    exact hstill _ _
  · rename_i hsweep
    cases taken
    rw [hsweep]
    exact sticky.endSweep_iff _ _

theorem Sticky.step_iff {system next : System} {action : Action} (sticky : Sticky system)
    (taken : step system action = some next) :
    Sticky next ↔ leavesFlag system action = true := by
  have hstill : ∀ after : System, after.storageFailing = system.storageFailing →
      after.overQuota = system.overQuota → after.commitFailed = system.commitFailed →
      (Sticky after ↔ true = true) :=
    fun after hfailing hover hfailed => ⟨fun _ => rfl, fun _ => sticky.still hfailing hover hfailed⟩
  cases action with
  | transaction store =>
    cases taken
    exact hstill _ rfl rfl rfl
  | flushBegin batch =>
    simp only [step] at taken
    split at taken
    · split at taken
      · cases taken
        exact hstill _ rfl rfl rfl
      · cases taken
        exact hstill _ rfl rfl rfl
    · cases taken
  | flushCommit =>
    simp only [step] at taken
    split at taken
    · split at taken
      · cases taken
        exact hstill _ rfl rfl rfl
      · cases taken
        exact hstill _ rfl rfl rfl
    · cases taken
  | flushFail =>
    simp only [step] at taken
    split at taken
    · cases taken
      refine ⟨fun _ => rfl, fun _ => ⟨fun _ => rfl, ?_⟩⟩
      intro _ hcommitted
      cases hcommitted
    · cases taken
  | flushPublish =>
    simp only [step] at taken
    split at taken
    · cases taken
      unfold leavesFlag
      rw [Bool.not_eq_true']
      constructor
      · intro hnext
        by_contra hover
        cases hnext.raised (by simpa [System.setStorageFailing] using hover)
      · intro hunder
        refine ⟨?_, fun _ _ => rfl⟩
        intro hover
        cases hunder.symm.trans hover
    · cases taken
  | sweepBegin quota =>
    simp only [step] at taken
    split at taken
    · cases taken
      exact hstill _ rfl rfl rfl
    · cases taken
  | sweepNext listed => exact sticky.sweepNext_iff taken
  | sweepFail =>
    simp only [step] at taken
    split at taken
    · cases taken
    · cases taken
    · cases taken
      exact hstill _ rfl rfl rfl

/-- In every run the flag tells a quota failure in all states reached if and only if no step of
the run is one that loses it. -/
theorem quota_failure_sticky_iff {store : Store} {actions : List Action} {system : System}
    (taken : run step (System.start store) actions = some system) :
    (∀ earlier later middle, actions = earlier ++ later →
      run step (System.start store) earlier = some middle → Sticky middle) ↔
      run (restrict step fun system action => leavesFlag system action = true)
        (System.start store) actions = some system := by
  refine always_iff_restrict ?_ (Sticky.start store) taken
  intro state action next sticky hstep
  exact sticky.step_iff hstep

def fruitlessSweep (quota : Nat) : List Action :=
  [.sweepBegin quota, .sweepNext [], .sweepNext [], .sweepNext [], .sweepNext [], .sweepNext []]

def contentSweep (quota : Nat) : List Action :=
  [.sweepBegin quota, .sweepNext [], .sweepNext [], .sweepNext []]

section

variable {system : System} {quota : Nat}

theorem run_fruitlessSweep (idle : system.sweep = .idle)
    (opened : closedTerminals system.store = [])
    (exceeded : quota < totalOutputBytes system.store) :
    run step system (fruitlessSweep quota) =
      some { system with storageFailing := true, overQuota := true } := by
  have hexpired : ExpiredClosedTerminals system.store 256 [] :=
    ⟨List.nodup_nil, List.nil_subset _, Nat.zero_le _⟩
  have holdest : OldestClosedTerminals system.store 256 [] := by
    refine ⟨List.nodup_nil, List.nil_subset _, ?_⟩
    rw [opened]
    rfl
  obtain ⟨store, storageFailing, flush, sweep, overQuota, commitFailed⟩ := system
  cases idle
  simp only at hexpired holdest exceeded
  simp [fruitlessSweep, run, step, System.sweepNext, hexpired, holdest, exceeded, System.endSweep,
    System.setStorageFailing]

theorem run_contentSweep (idle : system.sweep = .idle)
    (under : totalOutputBytes system.store ≤ quota) :
    run step system (contentSweep quota) = some { system with overQuota := false } := by
  have hexpired : ExpiredClosedTerminals system.store 256 [] :=
    ⟨List.nodup_nil, List.nil_subset _, Nat.zero_le _⟩
  obtain ⟨store, storageFailing, flush, sweep, overQuota, commitFailed⟩ := system
  cases idle
  simp only at hexpired under
  simp [contentSweep, run, step, System.sweepNext, hexpired, Nat.not_lt.mpr under, System.endSweep]

end

def running (payload : Bytes) : Store where
  terminals := [{
    terminalId := 7, deviceId := 1, identityId := "owner", localRef := "shell", label := "shell"
    state := .opened, cols := none, rows := none, term := none, acceptsInput := true
    closeReason := none, durableOffset := payload.length, earliestOffset := 0 }]
  terminalOutput := [⟨7, 0, payload.length, payload⟩]

theorem totalOutputBytes_running (payload : Bytes) :
    totalOutputBytes (running payload) = payload.length := Nat.add_zero _

def closeBatch (payload : Bytes) : List TerminalCheckpoint :=
  [⟨7, payload.length, [], 0, payload.length, some "exited"⟩]

theorem commit_closeBatch (payload : Bytes) :
    ∃ store, commitCheckpoints (running payload) (closeBatch payload) = .ok store := by
  cases hcommit : commitCheckpoints (running payload) (closeBatch payload) with
  | ok store => exact ⟨store, rfl⟩
  | error error =>
    simp [commitCheckpoints, closeBatch, commitCheckpoint, insertChunk, deleteOutput,
      trimStraddling, straddling, updateTerminal, running, bind, Except.bind, pure,
      Except.pure] at hcommit

theorem run_closeBatch {system : System} {payload : Bytes} (idle : system.flush = .idle)
    (stored : system.store = running payload) :
    ∃ store, run step system [.flushBegin (closeBatch payload), .flushCommit, .flushPublish] =
      some { system with store, storageFailing := false, commitFailed := false } := by
  obtain ⟨store, hcommit⟩ := commit_closeBatch payload
  obtain ⟨before, storageFailing, flush, sweep, overQuota, commitFailed⟩ := system
  cases idle
  cases stored
  have hcommitted : step ⟨running payload, storageFailing, .committing (closeBatch payload), sweep,
      overQuota, commitFailed⟩ .flushCommit =
      some ⟨store, storageFailing, .committed, sweep, overQuota, commitFailed⟩ := by
    simp only [step, hcommit]
  exact ⟨store, run_cons_eq_some.mpr ⟨_, rfl, run_cons_eq_some.mpr ⟨_, hcommitted, rfl⟩⟩⟩

/-- The output is over the quota while a commit fails, and under a larger one before the next
checkpoint succeeds. -/
def recoveringRun : List Action :=
  fruitlessSweep 2 ++ [.flushBegin (closeBatch [1, 2, 3]), .flushFail] ++ contentSweep 5 ++
    [.flushBegin (closeBatch [1, 2, 3]), .flushCommit, .flushPublish]

theorem quota_failure_sticky_in_recoveringRun :
    ∃ system, run (restrict step fun system action => leavesFlag system action = true)
        (System.start (running [1, 2, 3])) recoveringRun = some system ∧
      system.storageFailing = false ∧
      ∀ earlier later middle, recoveringRun = earlier ++ later →
        run step (System.start (running [1, 2, 3])) earlier = some middle → Sticky middle := by
  have hrun : (run (restrict step fun system action => leavesFlag system action = true)
      (System.start (running [1, 2, 3])) recoveringRun).map System.storageFailing = some false := by
    decide
  obtain ⟨system, htaken, hfailing⟩ := Option.map_eq_some_iff.mp hrun
  have hsame : run step (System.start (running [1, 2, 3])) recoveringRun =
      run (restrict step fun system action => leavesFlag system action = true)
        (System.start (running [1, 2, 3])) recoveringRun := by
    decide
  exact ⟨system, htaken, hfailing, (quota_failure_sticky_iff (hsame.trans htaken)).mpr htaken⟩

/-- One byte more than the least quota that the settings accept. -/
def overfull : Bytes := List.replicate 1048577 0

/-- A checkpoint that succeeds lowers the flag while the output is over the quota. -/
def maskingRun : List Action :=
  fruitlessSweep 1048576 ++ [.flushBegin (closeBatch overfull), .flushCommit, .flushPublish]

/-- The quota is raised, and the flag stays up with nothing failing. -/
def stuckRun : List Action := fruitlessSweep 1048576 ++ contentSweep 2000000

theorem quota_failure_not_sticky :
    (∃ system, run step (System.start (running overfull)) maskingRun = some system ∧
      system.overQuota = true ∧ system.storageFailing = false) ∧
    ∃ system, run step (System.start (running overfull)) stuckRun = some system ∧
      system.overQuota = false ∧ system.commitFailed = false ∧ system.storageFailing = true := by
  have htotal : totalOutputBytes (running overfull) = 1048577 := by
    rw [totalOutputBytes_running, overfull, List.length_replicate]
  have hover := @run_fruitlessSweep (System.start (running overfull)) 1048576 rfl rfl
    (by rw [show (System.start (running overfull)).store = running overfull from rfl, htotal]
        decide)
  constructor
  · obtain ⟨store, hflush⟩ := @run_closeBatch
      { System.start (running overfull) with storageFailing := true, overQuota := true } overfull
      rfl rfl
    exact ⟨_, run_append hover hflush, rfl, rfl⟩
  · refine ⟨_, run_append hover (run_contentSweep rfl ?_), rfl, rfl, rfl⟩
    change totalOutputBytes (running overfull) ≤ 2000000
    rw [htotal]
    decide

end Hypeterm.App.StorageQuota
