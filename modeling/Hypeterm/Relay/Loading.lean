import Hypeterm.Relay.Opening

/-! What holds of loads and opens in every run: one call at a time builds a handle, for a
terminal that is not resident, and a closed row never becomes open again. -/
namespace Hypeterm.Relay

open Library List Option TerminalHandle
open Db

theorem apply_lifecycle (handle : TerminalHandle) (op : HandleOp) :
    (handle.apply op).inner.retired = handle.inner.retired ∧
      ((handle.apply op).inner.lifecycle = handle.inner.lifecycle ∨
        ∃ reason, op = .beginClose reason ∧ handle.inner.lifecycle = .opened ∧
          (handle.apply op).inner.lifecycle = .closing reason) := by
  cases op with
  | append expectedOffset payload capacity =>
    simp only [TerminalHandle.apply, TerminalHandle.append]
    split
    · exact ⟨rfl, .inl rfl⟩
    · split
      · exact ⟨rfl, .inl rfl⟩
      · split <;> exact ⟨rfl, .inl rfl⟩
  | shrinkToCapacity capacity =>
    simp only [TerminalHandle.apply, TerminalHandle.shrinkToCapacity]
    split <;> exact ⟨rfl, .inl rfl⟩
  | resize cols rows =>
    simp only [TerminalHandle.apply, TerminalHandle.resize]
    split <;> exact ⟨rfl, .inl rfl⟩
  | subscribe fromOffset chunkBytes queueMessages queueBytes =>
    simp only [TerminalHandle.apply, TerminalHandle.subscribe]
    split
    · rename_i hok
      split at hok
      · cases hok
      · cases hok
        exact ⟨rfl, .inl rfl⟩
    · exact ⟨rfl, .inl rfl⟩
  | beginClose reason =>
    simp only [TerminalHandle.apply, TerminalHandle.beginClose]
    split
    · exact ⟨rfl, .inl rfl⟩
    · rename_i hopen
      exact ⟨rfl, .inr ⟨reason, rfl, by simpa using hopen, rfl⟩⟩
  | updateMetadata | nextInputSequence | unsubscribe | terminateSubscribers | receive | release
  | dropReceiver => exact ⟨rfl, .inl rfl⟩

variable {handle : TerminalHandle} {reason : String} {row : TerminalRow} {system next : System}
  {action : Action} {store : Store} {terminalId : Uuid}

theorem closed_apply (op : HandleOp) (closed : handle.inner.lifecycle = .closed reason) :
    (handle.apply op).inner.lifecycle = .closed reason := by
  rcases (apply_lifecycle handle op).2 with hsame | ⟨other, _, hopened, _⟩
  · rw [hsame, closed]
  · cases hopened.symm.trans closed

theorem commitDurable_lifecycle (handle : TerminalHandle) (durableTarget : Nat)
    (closed : Option String) :
    (handle.commitDurable durableTarget closed).inner.lifecycle =
        (closed.map Lifecycle.closed).getD handle.inner.lifecycle ∧
      (handle.commitDurable durableTarget closed).inner.retired =
        (closed.isSome || handle.inner.retired) := by
  have hadvance : (handle.advanceDurable durableTarget).inner.lifecycle =
      handle.inner.lifecycle ∧
      (handle.advanceDurable durableTarget).inner.retired = handle.inner.retired := by
    unfold advanceDurable
    split <;> exact ⟨rfl, rfl⟩
  unfold commitDurable
  cases closed with
  | none => exact hadvance
  | some reason => exact ⟨rfl, rfl⟩

def StaysClosed (row : TerminalRow) (store : Store) : Prop :=
  ∃ stored, getTerminal store row.terminalId = some stored ∧
    (row.state = .closed → stored.state = .closed)

theorem state_publishCheckpoint {checkpoint : TerminalCheckpoint}
    (closed : row.state = .closed) : (publishCheckpoint checkpoint row).state = .closed := by
  unfold publishCheckpoint
  split
  · rfl
  · exact closed

theorem state_foldl {batch : List TerminalCheckpoint} (closed : row.state = .closed) :
    (batch.foldl (fun row checkpoint => publishCheckpoint checkpoint row) row).state = .closed := by
  induction batch generalizing row with
  | nil => exact closed
  | cons checkpoint rest ih =>
    rw [foldl_cons]
    exact ih (state_publishCheckpoint closed)

theorem state_foldl_of_open {batch : List TerminalCheckpoint}
    (running : ∀ checkpoint ∈ batch, checkpoint.closeReason = none) (row : TerminalRow) :
    (batch.foldl (fun row checkpoint => publishCheckpoint checkpoint row) row).state = row.state := by
  induction batch generalizing row with
  | nil => rfl
  | cons checkpoint rest ih =>
    rw [foldl_cons, ih fun other member => running other (mem_cons_of_mem _ member)]
    unfold publishCheckpoint
    rw [running checkpoint mem_cons_self]

theorem StaysClosed.step
    (stays : StaysClosed row system.store) (taken : Relay.step system action = some next) :
    StaysClosed row next.store := by
  obtain ⟨stored, hstored, hclosed⟩ := stays
  rcases getTerminal_step taken hstored with hsame | ⟨pending, _, hcommitted⟩
  · exact ⟨stored, hsame, hclosed⟩
  · exact ⟨_, hcommitted, fun hrow => state_foldl (hclosed hrow)⟩

theorem insertTerminal_ok {after : Store} {deviceId : Uuid}
    {identityId localRef label : String} {cols rows : Option Nat} {term : Option String}
    {acceptsInput : Bool}
    (inserted : Db.insertTerminal store terminalId deviceId identityId localRef label cols rows term
      acceptsInput = .ok (row, after)) :
    getTerminal store terminalId = none ∧ row.terminalId = terminalId ∧ row.deviceId = deviceId ∧
      row.localRef = localRef ∧ row.state = .opened ∧
      after = { store with terminals := store.terminals ++ [row] } := by
  unfold Db.insertTerminal at inserted
  split at inserted
  · cases inserted
  · rename_i hfresh
    split at inserted
    · cases inserted
    · cases inserted
      exact ⟨by simpa using hfresh, rfl, rfl, rfl, rfl, rfl⟩

theorem getTerminal_concat (store : Store) (row : TerminalRow) (terminalId : Uuid) :
    getTerminal { store with terminals := store.terminals ++ [row] } terminalId =
      (getTerminal store terminalId).or
        (if row.terminalId = terminalId then some row else none) := by
  unfold getTerminal
  rw [Library.lookup_append, Library.lookup_cons, Library.lookup_nil]

theorem nodup_terminalIds_concat (distinct : (store.terminals.map TerminalRow.terminalId).Nodup)
    (missing : getTerminal store terminalId = none) :
    (store.terminals.map TerminalRow.terminalId ++ [terminalId]).Nodup := by
  rw [← concat_eq_append]
  refine distinct.concat ?_
  intro member
  obtain ⟨stored, hstored, hsame⟩ := List.mem_map.mp member
  exact lookup_eq_none.mp missing stored hstored hsame

theorem distinct_step (distinct : (system.store.terminals.map TerminalRow.terminalId).Nodup)
    (taken : Relay.step system action = some next) :
    (next.store.terminals.map TerminalRow.terminalId).Nodup := by
  have hkept : (∃ f, KeepsRows f ∧ next.store.terminals = system.store.terminals.map f) →
      (next.store.terminals.map TerminalRow.terminalId).Nodup := by
    rintro ⟨f, hkeeps, hterminals⟩
    rw [hterminals, List.map_map]
    have hsame : TerminalRow.terminalId ∘ f = TerminalRow.terminalId :=
      funext hkeeps.terminalId_eq
    rw [hsame]
    exact distinct
  cases action with
  | insertTerminal terminalId deviceId identityId localRef label cols rows term acceptsInput =>
    cases taken
    unfold System.insertTerminal
    split
    · rename_i row store hinserted
      obtain ⟨hnone, hid, _, _, _, rfl⟩ := insertTerminal_ok hinserted
      rw [map_append, map_singleton, hid]
      exact nodup_terminalIds_concat distinct hnone
    · exact distinct
  | load | handle | flushBegin | flushTake | flushCommit | flushFail | flushPublish | crash =>
    exact hkept (terminals_step taken nofun)

theorem flush_nodup_step (resident : (system.terminals.map TerminalHandle.terminalId).Nodup)
    (nodup : system.flush.terminalIds.Nodup) (taken : step system action = some next) :
    next.flush.terminalIds.Nodup := by
  cases step_stepped taken with
  | inserts =>
    rw [flush_insertTerminal]
    exact nodup
  | loads =>
    rw [flush_load]
    exact nodup
  | applies | refuses => exact nodup
  | begins order idle complete =>
    simp only [FlushPhase.terminalIds, map_nil, append_nil]
    exact complete.nodup_iff.mpr resident
  | takes terminalId remaining pending taking =>
    rw [taking] at nodup
    simp only [System.takeNext, FlushPhase.terminalIds, map_append]
    cases htaken : (system.resident terminalId).bind takeCheckpoint with
    | none =>
      simp only [toList_none, map_nil, append_nil]
      exact (nodup_cons.mp nodup).2
    | some checkpoint =>
      obtain ⟨handle, hfound, htake⟩ := bind_eq_some_iff.mp htaken
      have hid : checkpoint.terminalId = terminalId :=
        (takeCheckpoint_fields htake).1.trans (terminalId_of_resident hfound)
      simp only [toList_some, map_cons, map_nil, hid, ← append_assoc]
      exact (perm_append_singleton _ _).nodup_iff.mpr nodup
  | took pending taking =>
    rw [taking] at nodup
    split
    · exact nodup_nil
    · exact nodup
  | commits pending store committing =>
    rw [committing] at nodup
    exact nodup
  | fails retry pending committing =>
    rw [committing] at nodup
    split
    · exact nodup
    · exact nodup_nil
  | publishes checkpoint rest publishing =>
    rw [publishing] at nodup
    exact (nodup_cons.mp nodup).2
  | published | crashes => exact nodup_nil

/-- A checkpoint with a close belongs to a resident handle that is closing, and a retired
handle is closed. -/
structure Shape (system : System) : Prop where
  distinct : (system.store.terminals.map TerminalRow.terminalId).Nodup
  resident_nodup : (system.terminals.map TerminalHandle.terminalId).Nodup
  flush_nodup : system.flush.terminalIds.Nodup
  known : ∀ terminalId handle, system.resident terminalId = some handle →
    ∃ row, getTerminal system.store terminalId = some row
  closing : ∀ checkpoint ∈ system.flush.pending, ∀ reason, checkpoint.closeReason = some reason →
    ∃ handle, system.resident checkpoint.terminalId = some handle ∧
      handle.inner.lifecycle = .closing reason
  retired : ∀ terminalId handle, system.resident terminalId = some handle →
    handle.inner.retired = true → ∃ reason, handle.inner.lifecycle = .closed reason

theorem Shape.initial : Shape System.initial where
  distinct := nodup_nil
  resident_nodup := nodup_nil
  flush_nodup := nodup_nil
  known := by
    intro terminalId handle found
    cases found
  closing := by
    intro checkpoint member
    cases member
  retired := by
    intro terminalId handle found
    cases found

theorem takeCheckpoint_closing {checkpoint : PendingCheckpoint}
    (taken : handle.takeCheckpoint = some checkpoint)
    (closing : checkpoint.closeReason = some reason) :
    handle.inner.lifecycle = .closing reason := by
  unfold takeCheckpoint at taken
  dsimp only at taken
  split at taken
  · cases taken
  · cases taken
    cases hlifecycle : handle.inner.lifecycle with
    | closing other =>
      rw [hlifecycle] at closing
      cases closing
      rfl
    | opened | closed =>
      rw [hlifecycle] at closing
      cases closing

theorem Shape.still_closing (shape : Shape system)
    (taken : step system action = some next) (running : action ≠ .crash)
    {checkpoint : PendingCheckpoint} (member : checkpoint ∈ next.flush.pending)
    (found : system.resident checkpoint.terminalId = some handle)
    (closing : handle.inner.lifecycle = .closing reason) :
    ∃ after, next.resident checkpoint.terminalId = some after ∧
      after.inner.lifecycle = .closing reason := by
  obtain ⟨after, hafter, lives⟩ := step_lives taken running found
  refine ⟨after, hafter, ?_⟩
  cases lives with
  | same heq => rw [heq, closing]
  | apply op heq =>
    subst heq
    rcases (apply_lifecycle handle op).2 with hkept | ⟨other, _, hopened, _⟩
    · rw [hkept, closing]
    · cases hopened.symm.trans closing
  | publish published rest hflush hnext hown =>
    -- The published checkpoint was the only one of its terminal.
    have hnodup := shape.flush_nodup
    rw [hflush] at hnodup
    rw [hnext] at member
    apply absurd _ (nodup_cons.mp hnodup).1
    rw [hown]
    exact List.mem_map_of_mem member

theorem Moves.retired {after : TerminalHandle} {added : Bytes}
    (moves : Moves system handle added after)
    (closed : handle.inner.retired = true → ∃ reason, handle.inner.lifecycle = .closed reason)
    (retired : after.inner.retired = true) : ∃ reason, after.inner.lifecycle = .closed reason := by
  cases moves with
  | same => exact closed retired
  | apply op =>
    rw [(apply_lifecycle handle op).1] at retired
    obtain ⟨reason, hreason⟩ := closed retired
    exact ⟨reason, closed_apply op hreason⟩
  | publish checkpoint =>
    obtain ⟨hlifecycle, hretired⟩ :=
      commitDurable_lifecycle handle checkpoint.durableTarget checkpoint.closeReason
    rw [hlifecycle]
    cases hreason : checkpoint.closeReason with
    | some reason => exact ⟨reason, rfl⟩
    | none =>
      rw [hretired, hreason] at retired
      exact closed retired

theorem Shape.stays_open (shape : Shape system) (taken : Relay.step system action = some next)
    (known : getTerminal system.store terminalId = some row)
    (opened : ∀ handle, system.resident terminalId = some handle →
      handle.inner.lifecycle = .opened) :
    ∃ stored, getTerminal next.store terminalId = some stored ∧ stored.state = row.state := by
  rcases getTerminal_step taken known with hsame | ⟨pending, hcommitting, hcommitted⟩
  · exact ⟨row, hsame, rfl⟩
  · refine ⟨_, hcommitted, state_foldl_of_open ?_ row⟩
    -- A close in the batch would belong to a closing handle.
    intro checkpoint member
    obtain ⟨member, hid⟩ := mem_filter.mp member
    obtain ⟨own, hown, rfl⟩ := List.mem_map.mp member
    have hsame : terminalId = own.terminalId := of_decide_eq_true hid
    subst hsame
    cases hreason : own.closeReason with
    | none => exact hreason
    | some reason =>
      have hpending : own ∈ system.flush.pending := by
        rw [hcommitting]
        exact mem_append_left _ hown
      obtain ⟨holder, hholder, hclosing⟩ := shape.closing own hpending reason hreason
      cases hclosing.symm.trans (opened holder hholder)

theorem Shape.opened_step (shape : Shape system)
    (taken : Relay.step system action = some next) (running : action ≠ .crash)
    {before : TerminalHandle} (found : system.resident terminalId = some before)
    (opened : before.inner.lifecycle = .opened)
    (kept : ∀ reason, action ≠ .handle terminalId (.beginClose reason)) :
    ∃ after, next.resident terminalId = some after ∧ after.inner.lifecycle = .opened := by
  have hsame : next.terminals = system.terminals →
      ∃ after, next.resident terminalId = some after ∧ after.inner.lifecycle = .opened := by
    intro hterminals
    refine ⟨before, ?_, opened⟩
    unfold System.resident at found ⊢
    rw [hterminals, found]
  cases step_effect taken with
  | still hterminals => exact hsame hterminals
  | loads loaded hterminals =>
    refine ⟨before, ?_, opened⟩
    unfold System.resident at found ⊢
    rw [hterminals, Library.lookup_append, found, some_or]
  | applies stored op hstored hnext haction =>
    subst hnext
    rw [resident_applyOp]
    by_cases hown : terminalId = stored.terminalId
    · rw [if_pos hown, ← hown, found, map_some]
      refine ⟨_, rfl, ?_⟩
      rcases (apply_lifecycle before op).2 with hkept | ⟨reason, hop, _⟩
      · rw [hkept, opened]
      · rw [hop, ← hown] at haction
        exact absurd haction (kept reason)
    · rw [if_neg hown]
      exact ⟨before, found, opened⟩
  | publishes checkpoint rest hpublishing hnext =>
    subst hnext
    rw [resident_publish]
    by_cases hown : terminalId = checkpoint.terminalId
    · rw [if_pos hown, ← hown, found, map_some]
      refine ⟨_, rfl, ?_⟩
      rw [(commitDurable_lifecycle before _ _).1]
      cases hreason : checkpoint.closeReason with
      | none => exact opened
      | some reason =>
        have hpending : checkpoint ∈ system.flush.pending := by
          rw [hpublishing]
          exact mem_append_right _ mem_cons_self
        obtain ⟨holder, hholder, hclosing⟩ := shape.closing checkpoint hpending reason hreason
        rw [← hown] at hholder
        cases found.symm.trans hholder
        cases hclosing.symm.trans opened
    · rw [if_neg hown]
      exact ⟨before, found, opened⟩
  | crashes hcrash => exact absurd hcrash running

theorem Shape.step (shape : Shape system) (taken : Relay.step system action = some next)
    (unloaded : ∀ terminalId capacity, action ≠ .load terminalId capacity) : Shape next := by
  by_cases hcrash : action = .crash
  · subst hcrash
    cases taken
    exact {
      distinct := shape.distinct
      resident_nodup := nodup_nil
      flush_nodup := nodup_nil
      known := fun _ _ found => nomatch found
      closing := fun _ member => nomatch member
      retired := fun _ _ found => nomatch found }
  have hresident : ∀ terminalId handle, next.resident terminalId = some handle →
      ∃ before, system.resident terminalId = some before := by
    intro terminalId handle hfound
    rcases resident_of_next taken hfound with hbefore | ⟨capacity, hload, _⟩
    · exact hbefore
    · exact absurd hload (unloaded terminalId capacity)
  constructor
  · exact distinct_step shape.distinct taken
  · rcases terminalIds_step taken with hsame | ⟨terminalId, capacity, hload, _⟩ | ⟨hdown, _⟩
    · rw [hsame]
      exact shape.resident_nodup
    · exact absurd hload (unloaded terminalId capacity)
    · exact absurd hdown hcrash
  · exact flush_nodup_step shape.resident_nodup shape.flush_nodup taken
  · intro terminalId handle hfound
    obtain ⟨before, hbefore⟩ := hresident terminalId handle hfound
    obtain ⟨row, hrow⟩ := shape.known terminalId before hbefore
    rcases getTerminal_step taken hrow with hsame | ⟨_, _, hcommitted⟩
    · exact ⟨row, hsame⟩
    · exact ⟨_, hcommitted⟩
  · intro checkpoint member reason hreason
    rcases pending_step taken member with hold | ⟨handle, terminalId, hfound, htake⟩
    · obtain ⟨handle, hfound, hclosing⟩ := shape.closing checkpoint hold reason hreason
      exact shape.still_closing taken hcrash member hfound hclosing
    · have hid : checkpoint.terminalId = terminalId :=
        (takeCheckpoint_fields htake).1.trans (terminalId_of_resident hfound)
      rw [← hid] at hfound
      exact shape.still_closing taken hcrash member hfound (takeCheckpoint_closing htake hreason)
  · intro terminalId handle hfound hretired
    obtain ⟨before, hbefore⟩ := hresident terminalId handle hfound
    obtain ⟨after, added, hafter, _, hmoves⟩ := step_moves taken hcrash hbefore
    cases hfound.symm.trans hafter
    exact hmoves.retired (shape.retired terminalId before hbefore) hretired

theorem resident_evictRetired
    (nodup : (system.terminals.map TerminalHandle.terminalId).Nodup) (terminalId : Uuid) :
    system.evictRetired.resident terminalId =
      (system.resident terminalId).filter fun handle => !handle.evictable :=
  lookup_filter nodup _ terminalId

theorem FlushPhase.pending_strike (flush : FlushPhase) (gone : Uuid → Bool) :
    (flush.strike gone).pending = flush.pending := by
  cases flush <;> rfl

theorem FlushPhase.terminalIds_strike (flush : FlushPhase) (gone : Uuid → Bool) :
    (flush.strike gone).terminalIds.Sublist flush.terminalIds := by
  cases flush with
  | taking remaining pending => exact filter_sublist.append_right _
  | idle | committing | publishing => exact Sublist.refl _

theorem not_evictable_of_closing
    (retired : handle.inner.retired = true → ∃ reason, handle.inner.lifecycle = .closed reason)
    (closing : handle.inner.lifecycle = .closing reason) : handle.evictable = false := by
  unfold evictable
  cases hretired : handle.inner.retired with
  | false => rfl
  | true =>
    obtain ⟨other, hclosed⟩ := retired hretired
    cases closing.symm.trans hclosed

theorem Shape.evictRetired (shape : Shape system) : Shape system.evictRetired := by
  have hresident : ∀ terminalId handle, system.evictRetired.resident terminalId = some handle →
      system.resident terminalId = some handle := by
    intro terminalId handle hfound
    rw [resident_evictRetired shape.resident_nodup] at hfound
    exact (filter_eq_some_iff.mp hfound).1
  constructor
  · exact shape.distinct
  · exact shape.resident_nodup.sublist (filter_sublist.map _)
  · exact shape.flush_nodup.sublist (FlushPhase.terminalIds_strike _ _)
  · intro terminalId handle hfound
    exact shape.known terminalId handle (hresident terminalId handle hfound)
  · intro checkpoint member reason hreason
    change checkpoint ∈ (system.flush.strike _).pending at member
    rw [FlushPhase.pending_strike] at member
    obtain ⟨handle, hfound, hclosing⟩ := shape.closing checkpoint member reason hreason
    refine ⟨handle, ?_, hclosing⟩
    have hkept := not_evictable_of_closing (shape.retired _ handle hfound) hclosing
    rw [resident_evictRetired shape.resident_nodup, hfound]
    simp [hkept]
  · intro terminalId handle hfound
    exact shape.retired terminalId handle (hresident terminalId handle hfound)

theorem filter_of_missing (missing : system.resident terminalId = none) :
    system.terminals.filter (fun stored => stored.terminalId ≠ terminalId) = system.terminals := by
  rw [filter_eq_self]
  intro handle member
  exact decide_eq_true (lookup_eq_none.mp missing handle member)

theorem resident_insert (missing : system.resident handle.terminalId = none) (terminalId : Uuid) :
    ({ system with terminals := system.terminals ++ [handle] } : System).resident terminalId =
      if terminalId = handle.terminalId then some handle else system.resident terminalId := by
  unfold System.resident at missing ⊢
  rw [Library.lookup_append, Library.lookup_cons, Library.lookup_nil]
  by_cases hsame : terminalId = handle.terminalId
  · subst hsame
    rw [missing, if_pos rfl, none_or]
  · rw [if_neg hsame, if_neg (Ne.symm hsame), or_none]

theorem Shape.insertHandle (shape : Shape system)
    (known : ∃ stored, getTerminal system.store row.terminalId = some stored)
    (missing : system.resident row.terminalId = none) (capacity : Nat) (retained : Bytes) :
    Shape { system with
      terminals := system.terminals ++ [fromRow row capacity retained] } := by
  have hlookup : ∀ terminalId, ({ system with
      terminals := system.terminals ++ [fromRow row capacity retained] }
        : System).resident terminalId =
      if terminalId = row.terminalId then some (fromRow row capacity retained)
      else system.resident terminalId := resident_insert missing
  constructor
  · exact shape.distinct
  · rw [map_append, nodup_append]
    refine ⟨shape.resident_nodup, nodup_singleton _, ?_⟩
    intro left leftMem right rightMem heq
    have hright : right = row.terminalId := mem_singleton.mp rightMem
    rw [heq, hright] at leftMem
    exact resident_eq_none.mp missing leftMem
  · exact shape.flush_nodup
  · intro terminalId handle hfound
    rw [hlookup] at hfound
    split at hfound
    · rename_i hsame
      rw [hsame]
      exact known
    · exact shape.known terminalId handle hfound
  · intro checkpoint member reason hreason
    obtain ⟨handle, hfound, hclosing⟩ := shape.closing checkpoint member reason hreason
    refine ⟨handle, ?_, hclosing⟩
    rw [hlookup, if_neg, hfound]
    intro hsame
    have hsameId : checkpoint.terminalId = row.terminalId := hsame
    rw [hsameId, missing] at hfound
    cases hfound
  · intro terminalId handle hfound hretired
    rw [hlookup] at hfound
    split at hfound
    · cases hfound
      cases hretired
    · exact shape.retired terminalId handle hfound hretired

theorem Shape.withStore (shape : Shape system)
    (distinct : (store.terminals.map TerminalRow.terminalId).Nodup)
    (kept : ∀ terminalId row, getTerminal system.store terminalId = some row →
      ∃ stored, getTerminal store terminalId = some stored) : Shape { system with store } :=
  { shape with
    distinct
    known := by
      intro terminalId handle hfound
      obtain ⟨row, hrow⟩ := shape.known terminalId handle hfound
      exact kept terminalId row hrow }

end Hypeterm.Relay

namespace Hypeterm.Relay.Opening

open Library
open Db

def Phase.row? : Phase → Option TerminalRow
  | .held row _ | .locking row _ | .locked row _ | .loading row _ | .built row _ _ => some row
  | _ => none

def Phase.locks : Phase → Bool
  | .locked _ _ | .loading _ _ | .built _ _ _ => true
  | _ => false

/-- The row of a terminal found not resident under the lock. -/
def Phase.absent? : Phase → Option TerminalRow
  | .loading row _ | .built row _ _ => some row
  | _ => none

structure CallShape (system : System) : Prop where
  relay : Shape system.relay
  below : ∀ id call, system.calls id = some call → id < system.nextCall
  lock : ∀ id call, system.calls id = some call → call.phase.locks = true →
    system.loadLock = some id
  absent : ∀ id call row, system.calls id = some call → call.phase.absent? = some row →
    system.relay.resident row.terminalId = none
  stays : ∀ id call row, system.calls id = some call → call.phase.row? = some row →
    StaysClosed row system.relay.store

theorem CallShape.initial : CallShape System.initial where
  relay := Shape.initial
  below := fun _ _ found => nomatch found
  lock := fun _ _ found => nomatch found
  absent := fun _ _ _ found => nomatch found
  stays := fun _ _ _ found => nomatch found

/-- What must hold of the phase a call moves to. -/
structure Fits (relay : Relay.System) (loadLock : Option Nat) (id : Nat) (phase : Phase) : Prop where
  lock : phase.locks = true → loadLock = some id
  absent : ∀ row, phase.absent? = some row → relay.resident row.terminalId = none
  stays : ∀ row, phase.row? = some row → StaysClosed row relay.store

variable {phase : Phase} {relay : Relay.System} {id : Nat} {row : TerminalRow} {origin : Origin}
  {system : System} {call : Call}

theorem Phase.free_of_row (free : phase.row? = none) :
    phase.locks = false ∧ phase.absent? = none := by
  cases phase with
  | held | locking | locked | loading | built => cases free
  | finding | counting | inserting | refinding | looking | reading | obtained | returned | missing
  | failed => exact ⟨rfl, rfl⟩

theorem Fits.of_free {loadLock : Option Nat}
    (free : phase.row? = none) : Fits relay loadLock id phase where
  lock := fun locks => nomatch (Phase.free_of_row free).1.symm.trans locks
  absent := fun _ absent => nomatch (Phase.free_of_row free).2.symm.trans absent
  stays := fun _ held => nomatch free.symm.trans held

theorem Fits.of_held {loadLock : Option Nat} (stays : StaysClosed row relay.store) :
    Fits relay loadLock id (.held row origin) where
  lock := nofun
  absent := nofun
  stays := by
    intro other hrow
    cases hrow
    exact stays

theorem calls_setPhase (system : System) (id : Nat) (call : Call) (phase : Phase) (other : Nat) :
    (system.setPhase id call phase).calls other =
      if other = id then some { call with phase } else system.calls other := by
  unfold System.setPhase
  exact Function.update_apply _ _ _ _

theorem CallShape.put (inv : CallShape system) {nextCall : Nat}
    (fits : Fits system.relay system.loadLock id call.phase) (below : id < nextCall)
    (later : system.nextCall ≤ nextCall) :
    CallShape { system with
      calls := Function.update system.calls id (some call)
      nextCall } := by
  constructor
  · exact inv.relay
  · intro other stored hstored
    dsimp only at hstored
    rw [Function.update_apply] at hstored
    split at hstored
    · rename_i hsame
      rw [hsame]
      exact below
    · exact (inv.below other stored hstored).trans_le later
  · intro other stored hstored hlocks
    dsimp only at hstored
    rw [Function.update_apply] at hstored
    split at hstored
    · rename_i hsame
      cases hstored
      rw [hsame]
      exact fits.lock hlocks
    · exact inv.lock other stored hstored hlocks
  · intro other stored row hstored hrow
    dsimp only at hstored
    rw [Function.update_apply] at hstored
    split at hstored
    · cases hstored
      exact fits.absent row hrow
    · exact inv.absent other stored row hstored hrow
  · intro other stored row hstored hrow
    dsimp only at hstored
    rw [Function.update_apply] at hstored
    split at hstored
    · cases hstored
      exact fits.stays row hrow
    · exact inv.stays other stored row hstored hrow

theorem CallShape.setPhase (inv : CallShape system) (found : system.calls id = some call)
    (fits : Fits system.relay system.loadLock id phase) :
    CallShape (system.setPhase id call phase) :=
  inv.put fits (inv.below id call found) (Nat.le_refl _)

theorem CallShape.begin (inv : CallShape system) (capacity : Nat)
    (free : phase.row? = none) : CallShape (system.begin capacity phase) :=
  inv.put (Fits.of_free free) (Nat.lt_succ_self _) (Nat.le_succ _)

theorem Phase.locks_of_absent (absent : phase.absent? = some row) : phase.locks = true := by
  cases phase with
  | loading | built => rfl
  | finding | counting | inserting | refinding | looking | reading | held | locking | locked
  | obtained | returned | missing | failed => cases absent

theorem CallShape.withRelay (inv : CallShape system) (shape : Shape relay)
    (absent : ∀ id call row, system.calls id = some call → call.phase.absent? = some row →
      relay.resident row.terminalId = none)
    (stays : ∀ row, StaysClosed row system.relay.store → StaysClosed row relay.store) :
    CallShape { system with relay } where
  relay := shape
  below := inv.below
  lock := inv.lock
  absent := absent
  stays := fun id call row found hrow => stays row (inv.stays id call row found hrow)

theorem CallShape.unlock (inv : CallShape system)
    (nobody : ∀ id call, system.calls id = some call → call.phase.locks = false) :
    CallShape system.unlock where
  relay := inv.relay
  below := inv.below
  lock := by
    intro id call found locks
    cases (nobody id call found).symm.trans locks
  absent := inv.absent
  stays := inv.stays

theorem CallShape.release (inv : CallShape system)
    (found : system.calls id = some call) (holds : call.phase.locks = true)
    (free : phase.row? = none) : CallShape (system.setPhase id call phase).unlock := by
  have hmoved := inv.setPhase found (Fits.of_free free)
  apply hmoved.unlock
  intro other stored hstored
  rw [calls_setPhase] at hstored
  split at hstored
  · cases hstored
    exact (Phase.free_of_row free).1
  · rename_i hother
    cases hlocks : stored.phase.locks with
    | false => rfl
    | true =>
      have hlock := inv.lock id call found holds
      rw [inv.lock other stored hstored hlocks] at hlock
      cases hlock
      exact absurd rfl hother

theorem StaysClosed.of_row {store : Store} {terminalId : Uuid}
    (known : getTerminal store terminalId = some row) : StaysClosed row store := by
  have hid : row.terminalId = terminalId := key_of_lookup known
  exact ⟨row, hid ▸ known, id⟩

theorem StaysClosed.of_found {store : Store} {deviceId : Uuid} {localRef : String}
    (found : findOpenTerminalByLocalRef store deviceId localRef = some row) :
    StaysClosed row store := by
  have hopened : row.state = .opened := by
    have := List.find?_some found
    simp only [decide_eq_true_eq] at this
    exact this.2.2
  cases hstored : getTerminal store row.terminalId with
  | none =>
    exact absurd rfl (lookup_eq_none.mp hstored row (List.mem_of_find?_eq_some found))
  | some stored => exact ⟨stored, hstored, fun hclosed => nomatch hopened.symm.trans hclosed⟩

section

variable (inv : CallShape system) (found : system.calls id = some call)
include inv found

theorem CallShape.find (request : OpenRequest) {otherwise : Phase}
    (free : otherwise.row? = none) : CallShape (system.find id call request otherwise) := by
  unfold System.find
  split
  · rename_i existing hexisting
    exact inv.setPhase found (Fits.of_held (StaysClosed.of_found hexisting))
  · exact inv.setPhase found (Fits.of_free free)

theorem CallShape.insert (request : OpenRequest) (fresh : Uuid) :
    CallShape (system.insert id call request fresh) := by
  unfold System.insert
  split
  · rename_i row store hinserted
    obtain ⟨hnone, hid, _, _, _, rfl⟩ := insertTerminal_ok hinserted
    have hkept : ∀ terminalId stored, getTerminal system.relay.store terminalId = some stored →
        getTerminal { system.relay.store with
          terminals := system.relay.store.terminals ++ [row] } terminalId = some stored := by
      intro terminalId stored hstored
      rw [getTerminal_concat, hstored, Option.some_or]
    have hstore : CallShape { system with relay := { system.relay with store := {
        system.relay.store with terminals := system.relay.store.terminals ++ [row] } } } := by
      apply inv.withRelay
      · refine inv.relay.withStore ?_ fun terminalId stored hstored =>
          ⟨stored, hkept terminalId stored hstored⟩
        rw [List.map_append, List.map_singleton, hid]
        exact nodup_terminalIds_concat inv.relay.distinct hnone
      · exact inv.absent
      · rintro other ⟨stored, hstored, hclosed⟩
        exact ⟨stored, hkept _ stored hstored, hclosed⟩
    have hrow : getTerminal { system.relay.store with
        terminals := system.relay.store.terminals ++ [row] } fresh = some row := by
      rw [getTerminal_concat, hnone, if_pos hid, Option.none_or]
    exact hstore.setPhase found (Fits.of_held (StaysClosed.of_row hrow))
  · exact inv.setPhase found (Fits.of_free rfl)

theorem CallShape.acquire (held : call.phase.row? = some row) (unlocked : system.loadLock = none) :
    CallShape { system.setPhase id call (.locked row origin) with loadLock := some id } := by
  have hlocked : CallShape { system with loadLock := some id } := by
    refine ⟨inv.relay, inv.below, ?_, inv.absent, inv.stays⟩
    intro other stored hstored hlocks
    have hlock := inv.lock other stored hstored hlocks
    rw [unlocked] at hlock
    cases hlock
  apply hlocked.setPhase found
  refine ⟨fun _ => rfl, nofun, ?_⟩
  intro other hother
  cases hother
  exact inv.stays id call row found held

theorem CallShape.insertHandle {retained : Bytes}
    (built : call.phase = .built row retained origin) :
    CallShape (system.insertHandle id call row retained origin) := by
  have hmissing := inv.absent id call row found (by rw [built]; rfl)
  have hlocks : call.phase.locks = true := by rw [built]; rfl
  obtain ⟨stored, hstored, _⟩ := inv.stays id call row found (by rw [built]; rfl)
  have hreleased : CallShape (system.setPhase id call (.obtained row origin none)).unlock :=
    inv.release found hlocks rfl
  have hinserted := hreleased.withRelay
    (inv.relay.insertHandle ⟨stored, hstored⟩ hmissing call.capacity retained)
    (fun other waiting _ hwaiting habsent =>
      nomatch hreleased.lock other waiting hwaiting (Phase.locks_of_absent habsent))
    (fun _ hstays => hstays)
  unfold System.insertHandle
  rw [filter_of_missing hmissing]
  exact ⟨hinserted.relay, hinserted.below, hinserted.lock, hinserted.absent, hinserted.stays⟩

end

theorem CallShape.relayStep (inv : CallShape system) {action : Relay.Action}
    (taken : Relay.step system.relay action = some relay)
    (unloaded : ∀ terminalId capacity, action ≠ .load terminalId capacity) :
    CallShape { system with relay } := by
  apply inv.withRelay (inv.relay.step taken unloaded)
  · intro id call row found hrow
    have hmissing := inv.absent id call row found hrow
    cases hresident : relay.resident row.terminalId with
    | none => rfl
    | some handle =>
      rcases resident_of_next taken hresident with ⟨before, hbefore⟩ | ⟨capacity, hload, _⟩
      · cases hmissing.symm.trans hbefore
      · exact absurd hload (unloaded _ capacity)
  · exact fun _ stays => stays.step taken

theorem store_finish (system : System) (id : Nat) (call : Call) (row : TerminalRow)
    (origin : Origin) (handle : TerminalHandle) (resident : Bool) :
    (system.finish id call row origin handle resident).relay.store = system.relay.store ∧
      (system.finish id call row origin handle resident).nextCall = system.nextCall ∧
      (system.finish id call row origin handle resident).calls =
        Function.update system.calls id (some { call with phase := .returned }) := by
  unfold System.finish
  split
  · exact ⟨rfl, rfl, rfl⟩
  · dsimp only
    split <;> exact ⟨rfl, rfl, rfl⟩

theorem CallShape.finish (inv : CallShape system)
    (found : system.calls id = some call) (row : TerminalRow) (origin : Origin)
    {handle : TerminalHandle} {resident : Bool}
    (present : resident = true → system.relay.resident handle.terminalId = some handle) :
    CallShape (system.finish id call row origin handle resident) := by
  unfold System.finish
  split
  · exact inv.setPhase found (Fits.of_free rfl)
  · rename_i deduplicated
    have hmoved : CallShape (system.setPhase id call .returned) :=
      inv.setPhase found (Fits.of_free rfl)
    dsimp only
    split
    · rename_i hrefresh
      have hfound := present (Bool.and_eq_true_iff.mp hrefresh).2
      have hstep : Relay.step system.relay (.handle handle.terminalId
          (.updateMetadata (some row.label) row.cols row.rows row.term)) =
          some (system.relay.applyOp handle
            (.updateMetadata (some row.label) row.cols row.rows row.term)) := by
        simp only [Relay.step, hfound, Option.map_some]
      have hstepped := hmoved.relayStep hstep (by simp)
      exact ⟨hstepped.relay, hstepped.below, hstepped.lock, hstepped.absent, hstepped.stays⟩
    · exact ⟨hmoved.relay, hmoved.below, hmoved.lock, hmoved.absent, hmoved.stays⟩

theorem count_cases (maxTerminals : Nat) (system : System) (id : Nat) (call : Call)
    (request : OpenRequest) :
    (∃ message, system.count maxTerminals id call request =
        system.setPhase id call (.failed (.limitExceeded message))) ∨
      (countOpenTerminalsForDevice system.relay.store request.deviceId < maxTerminals ∧
        system.count maxTerminals id call request =
          system.setPhase id call (.inserting request)) := by
  unfold System.count
  dsimp only
  split
  · exact .inl ⟨_, rfl⟩
  · rename_i hbelow
    exact .inr ⟨Nat.lt_of_not_le hbelow, rfl⟩

theorem CallShape.count (inv : CallShape system) (maxTerminals : Nat)
    (found : system.calls id = some call) (request : OpenRequest) :
    CallShape (system.count maxTerminals id call request) := by
  rcases count_cases maxTerminals system id call request with ⟨message, hcount⟩ | ⟨_, hcount⟩
  · rw [hcount]
    exact inv.setPhase found (Fits.of_free rfl)
  · rw [hcount]
    exact inv.setPhase found (Fits.of_free rfl)

theorem CallShape.hold (inv : CallShape system) (found : system.calls id = some call)
    (holds : call.phase.locks = true) (row_eq : call.phase.row? = some row)
    (missing : system.relay.resident row.terminalId = none) (kept : phase.row? = some row)
    (absent : ∀ other, phase.absent? = some other → other = row) :
    CallShape (system.setPhase id call phase) := by
  apply inv.setPhase found
  constructor
  · exact fun _ => inv.lock id call found holds
  · intro other hother
    rw [absent other hother]
    exact missing
  · intro other hother
    cases kept.symm.trans hother
    exact inv.stays id call row found row_eq

theorem CallShape.proceed {maxTerminals : Nat} {next : System} (inv : CallShape system)
    {fresh : Uuid} (found : system.calls id = some call)
    (taken : system.proceed maxTerminals id call fresh = some next) : CallShape next := by
  cases proceed_proceeded taken with
  | finds | refinds => exact inv.find found _ rfl
  | counts => exact inv.count maxTerminals found _
  | inserts => exact inv.insert found _ fresh
  | looks | misses | unknown | obtains => exact inv.setPhase found (Fits.of_free rfl)
  | reads terminalId row phase_eq known =>
    exact inv.setPhase found (Fits.of_held (StaysClosed.of_row known))
  | waits row origin phase_eq =>
    have hstays := inv.stays id call row found (by rw [phase_eq]; rfl)
    refine inv.setPhase found ⟨nofun, nofun, ?_⟩
    intro other hother
    cases hother
    exact hstays
  | acquires row origin phase_eq unlocked =>
    exact inv.acquire found (by rw [phase_eq]; rfl) unlocked
  | releases row origin handle phase_eq =>
    exact inv.release found (by rw [phase_eq]; rfl) rfl
  | loads row origin phase_eq missing =>
    apply inv.hold found (by rw [phase_eq]; rfl) (by rw [phase_eq]; rfl) missing rfl
    intro other hother
    cases hother
    rfl
  | builds row origin retained phase_eq =>
    have hmissing := inv.absent id call row found (by rw [phase_eq]; rfl)
    apply inv.hold found (by rw [phase_eq]; rfl) (by rw [phase_eq]; rfl) hmissing rfl
    intro other hother
    cases hother
    rfl
  | corrupt row origin error phase_eq => exact inv.release found (by rw [phase_eq]; rfl) rfl
  | attaches row retained origin phase_eq => exact inv.insertHandle found phase_eq
  | finishesEvicted => exact inv.finish found _ _ nofun
  | finishes row origin handle phase_eq hfound =>
    refine inv.finish found _ _ fun _ => ?_
    rw [terminalId_of_resident hfound, hfound]

theorem CallShape.evictRetired (inv : CallShape system) : CallShape system.evictRetired := by
  have hcall : ∀ id call, system.evictRetired.calls id = some call →
      ∃ before, system.calls id = some before ∧ call.phase.row? = before.phase.row? ∧
        call.phase.locks = before.phase.locks ∧ call.phase.absent? = before.phase.absent? := by
    intro id call hcall
    obtain ⟨before, hbefore, rfl⟩ := Option.map_eq_some_iff.mp hcall
    refine ⟨before, hbefore, ?_⟩
    unfold System.keepEvicted
    split
    · rename_i hphase
      rw [hphase]
      exact ⟨rfl, rfl, rfl⟩
    · exact ⟨rfl, rfl, rfl⟩
  constructor
  · exact inv.relay.evictRetired
  · intro id call found
    obtain ⟨before, hbefore, _⟩ := hcall id call found
    exact inv.below id before hbefore
  · intro id call found locks
    obtain ⟨before, hbefore, _, hlocks, _⟩ := hcall id call found
    exact inv.lock id before hbefore (hlocks ▸ locks)
  · intro id call row found habsent
    obtain ⟨before, hbefore, _, _, hsame⟩ := hcall id call found
    change system.relay.evictRetired.resident row.terminalId = none
    rw [resident_evictRetired inv.relay.resident_nodup,
      inv.absent id before row hbefore (hsame ▸ habsent), Option.filter_none]
  · intro id call row found hrow
    obtain ⟨before, hbefore, hsame, _⟩ := hcall id call found
    exact inv.stays id before row hbefore (hsame ▸ hrow)

theorem CallShape.step {maxTerminals : Nat} {next : System} {action : Action}
    (inv : CallShape system) (taken : step maxTerminals system action = some next) :
    CallShape next := by
  cases step_stepped taken with
  | opens request capacity => exact inv.begin capacity rfl
  | loads terminalId capacity => exact inv.begin capacity rfl
  | proceeds id fresh call found proceeds => exact inv.proceed found proceeds
  | fails id call error found => exact inv.setPhase found (Fits.of_free rfl)
  | retries id call request error found => exact inv.setPhase found (Fits.of_free rfl)
  | abandons id call row origin error found phase_eq =>
    exact inv.release found (by rw [phase_eq]; rfl) rfl
  | evicts => exact inv.evictRetired
  | relays action relay allowed running hstep =>
    exact inv.relayStep hstep (not_load_of_permitted allowed)
  | crashes relay hstep =>
    exact {
      relay := inv.relay.step hstep nofun
      below := fun _ _ found => nomatch found
      lock := fun _ _ found => nomatch found
      absent := fun _ _ _ found => nomatch found
      stays := fun _ _ _ found => nomatch found }

end Hypeterm.Relay.Opening
