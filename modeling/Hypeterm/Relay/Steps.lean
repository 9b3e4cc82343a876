import Hypeterm.Relay.Replay

/-! What the steps of the relay can do to the resident set, to a handle's offsets, to the
checkpoints in flight and to a terminal's row. -/
namespace Hypeterm.Relay

open Library List Option
open Db

variable {system next : System} {action : Action} {terminalId : Uuid} {handle : TerminalHandle}
  {checkpoint : PendingCheckpoint} {row : TerminalRow}

theorem terminalIds_step (taken : step system action = some next) :
    next.terminals.map TerminalHandle.terminalId = system.terminals.map TerminalHandle.terminalId ∨
      (∃ terminalId capacity, action = .load terminalId capacity ∧
        next = system.load terminalId capacity) ∨
      action = .crash ∧ next = system.crash := by
  cases step_stepped taken with
  | inserts =>
    rw [terminals_insertTerminal]
    exact .inl rfl
  | loads terminalId capacity => exact .inr (Or.inl ⟨terminalId, capacity, rfl, rfl⟩)
  | applies _ op =>
    exact .inl (map_terminalId_update _ (fun handle => terminalId_apply handle op) _)
  | begins | takes | took | commits | refuses | fails | published => exact .inl rfl
  | publishes =>
    exact .inl (map_terminalId_update _ (fun handle => (commitDurable_spec handle _ _).1) _)
  | crashes => exact .inr (Or.inr ⟨rfl, rfl⟩)

theorem resident_eq_none : system.resident terminalId = none ↔
      terminalId ∉ system.terminals.map TerminalHandle.terminalId := by
  unfold System.resident
  rw [lookup_eq_none, List.mem_map]
  push Not
  rfl

theorem resident_load_other (system : System) {other : Uuid} (capacity : Nat)
    (different : other ≠ terminalId) :
    (system.load terminalId capacity).resident other = system.resident other := by
  unfold System.load
  split
  · split
    · rename_i row _ hrow _ retained _
      have hid : row.terminalId = terminalId := key_of_lookup hrow
      have hother : (TerminalHandle.fromRow row capacity retained).terminalId ≠ other :=
        fun heq => different (heq.symm.trans hid)
      unfold System.resident
      rw [Library.lookup_append, Library.lookup_cons, if_neg hother, Library.lookup_nil, or_none]
    · rfl
  · rfl

theorem resident_load {target : Uuid} {capacity : Nat}
    (found : system.resident terminalId = some handle) :
    (system.load target capacity).resident terminalId = some handle := by
  unfold System.load
  split
  · split
    · unfold System.resident at found ⊢
      rw [Library.lookup_append, found, some_or]
    · exact found
  · exact found

theorem resident_of_next (taken : step system action = some next)
    (found : next.resident terminalId = some handle) :
    (∃ before, system.resident terminalId = some before) ∨
      ∃ capacity, action = .load terminalId capacity ∧ next = system.load terminalId capacity := by
  cases hbefore : system.resident terminalId with
  | some before => exact .inl ⟨before, rfl⟩
  | none =>
    right
    rcases terminalIds_step taken with hsame | ⟨target, capacity, rfl, rfl⟩ | ⟨_, rfl⟩
    · have hnone : next.resident terminalId = none := by
        rw [resident_eq_none, hsame, ← resident_eq_none, hbefore]
      cases hnone.symm.trans found
    · by_cases htarget : terminalId = target
      · subst htarget
        exact ⟨capacity, rfl, rfl⟩
      · rw [resident_load_other system capacity htarget, hbefore] at found
        cases found
    · cases found

/-- What a step does to one resident handle, as far as its life is concerned. -/
inductive Lives (system next : System) (terminalId : Uuid) (before after : TerminalHandle) : Prop
    where
  | same (after_eq : after = before)
  | apply (op : HandleOp) (after_eq : after = before.apply op) (flush_eq : next.flush = system.flush)
  | publish (checkpoint : PendingCheckpoint) (rest : List PendingCheckpoint)
      (flush_eq : system.flush = .publishing (checkpoint :: rest))
      (next_eq : next.flush = .publishing rest) (own : checkpoint.terminalId = terminalId)
      (after_eq : after =
        before.commitDurable checkpoint.durableTarget checkpoint.closeReason)

theorem step_lives
    {before : TerminalHandle} (taken : step system action = some next) (running : action ≠ .crash)
    (found : system.resident terminalId = some before) :
    ∃ after, next.resident terminalId = some after ∧ Lives system next terminalId before after := by
  cases step_effect taken with
  | still hterminals =>
    refine ⟨before, ?_, .same rfl⟩
    unfold System.resident at found ⊢
    rw [hterminals, found]
  | loads loaded hterminals =>
    refine ⟨before, ?_, .same rfl⟩
    unfold System.resident at found ⊢
    rw [hterminals, Library.lookup_append, found, some_or]
  | applies stored op hstored hnext =>
    subst hnext
    rw [resident_applyOp]
    by_cases hsame : terminalId = stored.terminalId
    · rw [if_pos hsame, ← hsame, found, map_some]
      exact ⟨_, rfl, .apply op rfl rfl⟩
    · rw [if_neg hsame]
      exact ⟨before, found, .same rfl⟩
  | publishes checkpoint rest hpublishing hnext =>
    subst hnext
    rw [resident_publish]
    by_cases hsame : terminalId = checkpoint.terminalId
    · rw [if_pos hsame, ← hsame, found, map_some]
      exact ⟨_, rfl, .publish checkpoint rest hpublishing rfl hsame.symm rfl⟩
    · rw [if_neg hsame]
      exact ⟨before, found, .same rfl⟩
  | crashes hcrash => exact absurd hcrash running

theorem takeCheckpoint_fields (taken : handle.takeCheckpoint = some checkpoint) :
    checkpoint.terminalId = handle.terminalId ∧
      checkpoint.durableTarget = handle.inner.nextOffset ∧
      (checkpoint.closeReason = none → handle.inner.durableOffset < handle.inner.nextOffset) := by
  unfold TerminalHandle.takeCheckpoint at taken
  dsimp only at taken
  split at taken
  · cases taken
  · rename_i hwork
    cases taken
    refine ⟨rfl, rfl, ?_⟩
    intro hopen
    dsimp only at hopen
    simp only [hopen, isNone_none, and_true, Nat.not_le] at hwork
    exact hwork

theorem pending_step (taken : step system action = some next)
    (member : checkpoint ∈ next.flush.pending) :
    checkpoint ∈ system.flush.pending ∨
      ∃ handle terminalId, system.resident terminalId = some handle ∧
        handle.takeCheckpoint = some checkpoint := by
  cases step_stepped taken with
  | inserts =>
    rw [flush_insertTerminal] at member
    exact .inl member
  | loads =>
    rw [flush_load] at member
    exact .inl member
  | applies | refuses => exact .inl member
  | begins | published | crashes => cases member
  | takes terminalId remaining pending taking =>
    rw [taking]
    simp only [System.takeNext, FlushPhase.pending, FlushPhase.taken, FlushPhase.committed,
      append_nil, mem_append, mem_toList] at member ⊢
    rcases member with hold | hnew
    · exact .inl hold
    · obtain ⟨handle, hfound, htake⟩ := bind_eq_some_iff.mp hnew
      exact .inr ⟨handle, terminalId, hfound, htake⟩
  | took pending taking =>
    left
    rw [taking]
    split at member
    · cases member
    · exact member
  | commits pending store committing =>
    left
    rw [committing]
    simpa [FlushPhase.pending, FlushPhase.taken, FlushPhase.committed] using member
  | fails retry pending committing =>
    left
    rw [committing]
    split at member
    · exact member
    · cases member
  | publishes head rest publishing =>
    left
    rw [publishing]
    exact mem_cons_of_mem _ member

structure Advanced (before after : TerminalHandle) : Prop where
  earliest_le : before.inner.ring.earliestOffset ≤ after.inner.ring.earliestOffset
  next_le : before.inner.nextOffset ≤ after.inner.nextOffset
  durable_le : before.inner.durableOffset ≤ after.inner.durableOffset

theorem Advanced.refl (handle : TerminalHandle) : Advanced handle handle :=
  ⟨Nat.le_refl _, Nat.le_refl _, Nat.le_refl _⟩

theorem Advanced.trans {first second third : TerminalHandle} (left : Advanced first second)
    (right : Advanced second third) : Advanced first third where
  earliest_le := left.earliest_le.trans right.earliest_le
  next_le := left.next_le.trans right.next_le
  durable_le := left.durable_le.trans right.durable_le

theorem Moves.advanced {after : TerminalHandle} {added : Bytes}
    {stream : Bytes} (moves : Moves system handle added after)
    (resident : Resident system.flush handle row stream) : Advanced handle after := by
  cases moves with
  | same => exact Advanced.refl handle
  | apply op =>
    have hgrows := apply_grows resident.exposes op
    constructor
    · exact hgrows.earliest_mono
    · rw [hgrows.nextOffset_eq]
      exact Nat.le_add_right _ _
    · rw [hgrows.durableOffset_eq]
  | publish checkpoint =>
    obtain ⟨_, hring, hnext, hdurable⟩ :=
      commitDurable_spec handle checkpoint.durableTarget checkpoint.closeReason
    constructor
    · rw [hring]
    · rw [hnext]
    · rw [hdurable]
      exact Nat.le_max_left _ _

/-- The database has committed the bytes of a terminal up to an offset. -/
def Stored (store : Store) (terminalId : Uuid) (offset : Nat) : Prop :=
  ∃ row, getTerminal store terminalId = some row ∧ offset ≤ row.durableOffset

theorem durable_le_foldl {offset : Nat} {batch : List TerminalCheckpoint}
    (below : offset ≤ row.durableOffset)
    (targets : ∀ checkpoint ∈ batch, offset ≤ checkpoint.durableOffset) :
    offset ≤ (batch.foldl (fun row checkpoint => publishCheckpoint checkpoint row)
      row).durableOffset := by
  induction batch generalizing row with
  | nil => exact below
  | cons checkpoint rest ih =>
    rw [foldl_cons]
    apply ih
    · rw [(publishCheckpoint_offsets checkpoint row).1]
      exact targets checkpoint mem_cons_self
    · exact fun other member => targets other (mem_cons_of_mem _ member)

theorem Inv.durable_le_target (inv : Inv system) {pending : List PendingCheckpoint}
    (committing : system.flush = .committing pending) (member : checkpoint ∈ pending)
    (known : getTerminal system.store checkpoint.terminalId = some row) :
    row.durableOffset ≤ checkpoint.durableTarget := by
  have htaken : checkpoint ∈ system.flush.taken := by
    rw [committing]
    exact member
  cases hfound : system.resident checkpoint.terminalId with
  | none => exact absurd rfl (inv.not_flushed hfound checkpoint (mem_append_left _ htaken))
  | some handle =>
    obtain ⟨stored, hstored, hresident⟩ := (inv.terminal _).resident handle hfound
    cases known.symm.trans hstored
    have hdurable : row.durableOffset = handle.inner.durableOffset := by
      apply hresident.durable_eq
      rw [committing]
      intro other hmember
      cases hmember
    rw [hdurable]
    exact (hresident.taken checkpoint htaken (terminalId_of_resident hfound).symm).1.durable_le

theorem getTerminal_step (taken : step system action = some next)
    (known : getTerminal system.store terminalId = some row) :
    getTerminal next.store terminalId = some row ∨
      ∃ pending, system.flush = .committing pending ∧
        getTerminal next.store terminalId = some
          (((pending.map PendingCheckpoint.toCheckpoint).filter fun checkpoint =>
            terminalId = checkpoint.terminalId).foldl
              (fun row checkpoint => publishCheckpoint checkpoint row) row) := by
  cases step_stepped taken with
  | inserts =>
    left
    unfold System.insertTerminal
    split
    · rename_i hinserted
      unfold Db.insertTerminal at hinserted
      split at hinserted
      · cases hinserted
      · split at hinserted
        · cases hinserted
        · cases hinserted
          unfold getTerminal at known ⊢
          rw [Library.lookup_append, known, some_or]
    · exact known
  | loads =>
    rw [store_load]
    exact .inl known
  | commits pending store committing committed =>
    refine .inr ⟨pending, committing, ?_⟩
    rw [getTerminal_commitCheckpoints committed, known, map_some]
  | applies | begins | takes | took | refuses | fails | publishes | published | crashes =>
    exact .inl known

theorem terminals_step (taken : step system action = some next)
    (inserts : ∀ terminalId deviceId identityId localRef label cols rows term acceptsInput,
      action ≠ .insertTerminal terminalId deviceId identityId localRef label cols rows term
        acceptsInput) :
    ∃ f, KeepsRows f ∧ next.store.terminals = system.store.terminals.map f := by
  have hsame : next.store = system.store →
      ∃ f, KeepsRows f ∧ next.store.terminals = system.store.terminals.map f := by
    intro heq
    exact ⟨id, keepsRows_id, by rw [heq, List.map_id]⟩
  cases step_stepped taken with
  | inserts => exact absurd rfl (inserts _ _ _ _ _ _ _ _ _)
  | loads => exact hsame (store_load ..)
  | commits pending store committing committed => exact terminals_commitCheckpoints committed
  | applies | begins | takes | took | refuses | fails | publishes | published | crashes =>
    exact hsame rfl

theorem Stored.step {offset : Nat}
    (stored : Stored system.store terminalId offset) (inv : Inv system)
    (taken : step system action = some next) : Stored next.store terminalId offset := by
  obtain ⟨row, hrow, hle⟩ := stored
  rcases getTerminal_step taken hrow with hsame | ⟨pending, hcommitting, hcommitted⟩
  · exact ⟨row, hsame, hle⟩
  · refine ⟨_, hcommitted, durable_le_foldl hle ?_⟩
    intro checkpoint member
    obtain ⟨member, hid⟩ := mem_filter.mp member
    obtain ⟨own, hown, rfl⟩ := List.mem_map.mp member
    have hsame : terminalId = own.terminalId := of_decide_eq_true hid
    subst hsame
    exact hle.trans (inv.durable_le_target hcommitting hown hrow)

theorem Inv.durable_stored (inv : Inv system) (found : system.resident terminalId = some handle) :
    Stored system.store terminalId handle.inner.durableOffset := by
  obtain ⟨row, hrow, hresident⟩ := (inv.terminal terminalId).resident handle found
  refine ⟨row, hrow, ?_⟩
  by_cases hcommitted : ∀ checkpoint ∈ system.flush.committed,
      checkpoint.terminalId ≠ handle.terminalId
  · rw [hresident.durable_eq hcommitted]
  · push Not at hcommitted
    obtain ⟨checkpoint, member, same⟩ := hcommitted
    obtain ⟨hdurable, hle⟩ := hresident.committed checkpoint member same
    rw [hdurable]
    exact hle

structure Ordered (handle : TerminalHandle) : Prop where
  earliest_le_next : handle.inner.ring.earliestOffset ≤ handle.inner.nextOffset
  durable_le_next : handle.inner.durableOffset ≤ handle.inner.nextOffset
  next_eq_end : handle.inner.nextOffset = handle.inner.ring.endOffset
  retained_le : handle.inner.ring.buf.length ≤ handle.inner.ring.capacity

theorem Inv.ordered (inv : Inv system) (found : system.resident terminalId = some handle) :
    Ordered handle := by
  obtain ⟨row, hrow, hresident⟩ := (inv.terminal terminalId).resident handle found
  have hbound := ((inv.terminal terminalId).stored row hrow).2
  constructor
  · rw [hresident.nextOffset_eq]
    exact hresident.exposes.earliest_le
  · rw [hresident.nextOffset_eq]
    exact hresident.durable_le hbound
  · rw [hresident.nextOffset_eq, hresident.exposes.endOffset_eq]
  · exact handle.inner.ring.bounded

theorem append_refused {expectedOffset : Nat}
    (refused : expectedOffset ≠ handle.inner.nextOffset ∨ handle.inner.lifecycle ≠ .opened)
    (payload : Bytes) (capacity : Nat) :
    (handle.append expectedOffset payload capacity).1 = handle ∧
      handle.acceptedBytes (.append expectedOffset payload capacity) = [] := by
  unfold TerminalHandle.acceptedBytes TerminalHandle.append
  by_cases hopen : handle.inner.lifecycle ≠ .opened
  · simp only [if_pos hopen, and_self]
  · have hoffset : expectedOffset ≠ handle.inner.nextOffset := refused.resolve_right hopen
    simp only [if_neg hopen, if_pos hoffset, and_self]

theorem Inv.refused_append (inv : Inv system) (found : system.resident terminalId = some handle)
    {expectedOffset : Nat}
    (refused : expectedOffset ≠ handle.inner.nextOffset ∨ handle.inner.lifecycle ≠ .opened)
    (payload : Bytes) (capacity : Nat) :
    Relay.step system (.handle terminalId (.append expectedOffset payload capacity)) =
      some system := by
  obtain ⟨hsame, hnothing⟩ := append_refused refused payload capacity
  have hid := terminalId_of_resident found
  have hterminals : update TerminalHandle.terminalId handle.terminalId
      (fun stored => stored.apply (.append expectedOffset payload capacity)) system.terminals =
      system.terminals := by
    unfold update
    conv_rhs => rw [← List.map_id system.terminals]
    apply map_congr_left
    intro stored member
    split
    · rename_i hstored
      have hlookup := lookup_of_mem inv.resident_nodup member
      rw [hstored, hid] at hlookup
      cases hlookup.symm.trans found
      exact hsame
    · rfl
  simp only [Relay.step, found, map_some, System.applyOp, hterminals, hnothing, append_nil,
    Function.update_eq_self, TerminalHandle.subscribedBy]

theorem foldl_publishCheckpoint_owner (batch : List TerminalCheckpoint) (row : TerminalRow) :
    (batch.foldl (fun row checkpoint => publishCheckpoint checkpoint row) row).deviceId =
        row.deviceId ∧
      (batch.foldl (fun row checkpoint => publishCheckpoint checkpoint row) row).localRef =
        row.localRef := by
  induction batch generalizing row with
  | nil => exact ⟨rfl, rfl⟩
  | cons checkpoint rest ih =>
    have hone : (publishCheckpoint checkpoint row).deviceId = row.deviceId ∧
        (publishCheckpoint checkpoint row).localRef = row.localRef := by
      unfold publishCheckpoint
      split <;> exact ⟨rfl, rfl⟩
    rw [foldl_cons]
    exact ⟨(ih _).1.trans hone.1, (ih _).2.trans hone.2⟩

theorem owner_step (taken : step system action = some next)
    (known : getTerminal system.store terminalId = some row) :
    ∃ after, getTerminal next.store terminalId = some after ∧ after.deviceId = row.deviceId ∧
      after.localRef = row.localRef := by
  rcases getTerminal_step taken known with hsame | ⟨pending, _, hcommitted⟩
  · exact ⟨row, hsame, rfl, rfl⟩
  · exact ⟨_, hcommitted, foldl_publishCheckpoint_owner _ row⟩

theorem accepted_step (terminalId : Uuid) (taken : step system action = some next) :
    next.accepted terminalId <+: system.accepted terminalId ∨
      ∃ handle expectedOffset payload capacity,
        action = .handle terminalId (.append expectedOffset payload capacity) ∧
        system.resident terminalId = some handle ∧
        next.accepted terminalId = system.accepted terminalId ++
          handle.acceptedBytes (.append expectedOffset payload capacity) := by
  have hsame : next.accepted terminalId = system.accepted terminalId →
      next.accepted terminalId <+: system.accepted terminalId := fun heq => heq ▸ prefix_refl _
  cases step_stepped taken with
  | inserts =>
    refine .inl (hsame ?_)
    unfold System.insertTerminal
    split <;> rfl
  | loads =>
    refine .inl (hsame ?_)
    unfold System.load
    split
    · split <;> rfl
    · rfl
  | applies target op handle found =>
    have htarget := terminalId_of_resident found
    by_cases hown : terminalId = target
    · subst hown
      have hgrown : (system.applyOp handle op).accepted terminalId =
          system.accepted terminalId ++ handle.acceptedBytes op := by
        simp only [System.applyOp, htarget, Function.update_self]
      cases op with
      | append expectedOffset payload capacity =>
        exact .inr ⟨handle, expectedOffset, payload, capacity, rfl, found, hgrown⟩
      | shrinkToCapacity | resize | updateMetadata | nextInputSequence | subscribe | unsubscribe
      | beginClose | terminateSubscribers | receive | release | dropReceiver =>
        exact .inl (hsame (hgrown.trans (append_nil _)))
    · refine .inl (hsame ?_)
      simp only [System.applyOp, htarget, Function.update_of_ne hown]
  | begins | takes | took | commits | refuses | fails | publishes | published =>
    exact .inl (hsame rfl)
  | crashes =>
    left
    simp only [System.crash]
    split
    · exact take_prefix _ _
    · exact prefix_refl _

theorem take_accepted_step {offset : Nat} (inv : Inv system)
    (stored : Stored system.store terminalId offset) (taken : step system action = some next) :
    (next.accepted terminalId).take offset = (system.accepted terminalId).take offset := by
  have hle : ∀ {system : System}, Inv system → Stored system.store terminalId offset →
      offset ≤ (system.accepted terminalId).length := by
    rintro system inv ⟨row, hrow, hle⟩
    exact hle.trans ((inv.terminal terminalId).stored row hrow).2
  rcases accepted_step terminalId taken with ⟨rest, heq⟩ | ⟨handle, _, _, _, -, -, heq⟩
  · rw [← heq, take_append_of_le_length (hle (inv.step taken) (stored.step inv taken))]
  · rw [heq, take_append_of_le_length (hle inv stored)]

/-- Whatever follows, what was once committed stays committed, and the accepted bytes stay. -/
theorem committed_output_survives (earlier later : List Action) {offset : Nat}
    (before : run step System.initial earlier = some system)
    (stored : Stored system.store terminalId offset) (after : run step system later = some next) :
    Stored next.store terminalId offset ∧
      (next.accepted terminalId).take offset = (system.accepted terminalId).take offset := by
  have inv := Inv.run before
  clear before
  induction later generalizing system with
  | nil =>
    cases after
    exact ⟨stored, rfl⟩
  | cons action rest ih =>
    obtain ⟨middle, hstep, hrest⟩ := run_cons_eq_some.mp after
    obtain ⟨hstored, hkept⟩ := ih (stored.step inv hstep) hrest (inv.step hstep)
    exact ⟨hstored, hkept.trans (take_accepted_step inv stored hstep)⟩

theorem committed_output_survives_crash : ∃ system next,
    run step System.initial recoveryRun = some system ∧
      run step system [.handle 7 (.append 8 [9] 4), .crash, .load 7 4] = some next ∧
      Stored next.store 7 8 ∧ (next.accepted 7).take 8 = (system.accepted 7).take 8 :=
  ⟨_, _, rfl, rfl, committed_output_survives recoveryRun
    [.handle 7 (.append 8 [9] 4), .crash, .load 7 4] rfl ⟨_, rfl, by decide⟩ rfl⟩

end Hypeterm.Relay
