import Hypeterm.Relay.Flush
import Hypeterm.Db.OutputTiling

/-! Checkpoint tiling and crash recovery.  The invariant ties a terminal's ring,
its stored row and the checkpoint in flight to one stream of accepted bytes. -/
namespace Hypeterm.Relay

open Library List Option TerminalHandle Ring
open Db

/-- All that a handle operation can do to the ring and the offsets.  The new bytes
extend the stream, the window only moves forward, and neither the durable offset
nor a close in progress changes. -/
structure Grows (before after : TerminalHandle) (stream added : Bytes) : Prop where
  terminalId_eq : after.terminalId = before.terminalId
  exposes : after.inner.ring.Exposes (stream ++ added)
  nextOffset_eq : after.inner.nextOffset = before.inner.nextOffset + added.length
  durableOffset_eq : after.inner.durableOffset = before.inner.durableOffset
  earliest_mono : before.inner.ring.earliestOffset ≤ after.inner.ring.earliestOffset
  closing_kept : ∀ reason, before.inner.lifecycle = .closing reason →
    after.inner.lifecycle = .closing reason

variable {before after handle : TerminalHandle} {stream added : Bytes} {flush : FlushPhase}
  {checkpoint : PendingCheckpoint} {system : System} {terminalId : Uuid} {row : TerminalRow}
  {f : TerminalHandle → TerminalHandle} {rest : List PendingCheckpoint}

theorem Grows.of_same (exposes : before.inner.ring.Exposes stream)
    (terminalId_eq : after.terminalId = before.terminalId)
    (ring_eq : after.inner.ring = before.inner.ring)
    (nextOffset_eq : after.inner.nextOffset = before.inner.nextOffset)
    (durableOffset_eq : after.inner.durableOffset = before.inner.durableOffset)
    (lifecycle_eq : after.inner.lifecycle = before.inner.lifecycle) :
    Grows before after stream [] where
  terminalId_eq := terminalId_eq
  exposes := by rwa [append_nil, ring_eq]
  nextOffset_eq := nextOffset_eq
  durableOffset_eq := durableOffset_eq
  earliest_mono := by rw [ring_eq]
  closing_kept := by
    intro reason closing
    rw [lifecycle_eq, closing]

theorem append_grows
    (exposes : handle.inner.ring.Exposes stream) (expectedOffset : Nat) (payload : Bytes)
    (capacity : Nat) :
    Grows handle (handle.apply (.append expectedOffset payload capacity)) stream
      (handle.acceptedBytes (.append expectedOffset payload capacity)) := by
  simp only [TerminalHandle.apply, acceptedBytes, TerminalHandle.append]
  split
  · exact Grows.of_same exposes rfl rfl rfl rfl rfl
  · rename_i hopen
    have hclosing : ∀ reason, handle.inner.lifecycle ≠ .closing reason := by
      intro reason closing
      exact hopen (by simp [closing])
    split
    · exact Grows.of_same exposes rfl rfl rfl rfl rfl
    · split
      · rename_i hempty
        rw [List.isEmpty_iff.mp hempty]
        exact {
          terminalId_eq := rfl
          exposes := by
            rw [append_nil]
            exact exposes.setCapacity capacity
          nextOffset_eq := rfl
          durableOffset_eq := rfl
          earliest_mono := earliestOffset_le_setCapacity _ _
          closing_kept := fun reason closing => absurd closing (hclosing reason) }
      · exact {
          terminalId_eq := rfl
          exposes := (exposes.setCapacity capacity).append payload
          nextOffset_eq := rfl
          durableOffset_eq := rfl
          earliest_mono := (earliestOffset_le_setCapacity _ _).trans
            (earliestOffset_le_append _ _)
          closing_kept := fun reason closing => absurd closing (hclosing reason) }

theorem apply_grows (exposes : handle.inner.ring.Exposes stream) (op : HandleOp) :
    Grows handle (handle.apply op) stream (handle.acceptedBytes op) := by
  cases op with
  | append expectedOffset payload capacity =>
    exact append_grows exposes expectedOffset payload capacity
  | shrinkToCapacity capacity =>
    simp only [TerminalHandle.apply, acceptedBytes, TerminalHandle.shrinkToCapacity]
    split
    · exact Grows.of_same exposes rfl rfl rfl rfl rfl
    · exact {
        terminalId_eq := rfl
        exposes := by
          rw [append_nil]
          exact exposes.setCapacity capacity
        nextOffset_eq := rfl
        durableOffset_eq := rfl
        earliest_mono := earliestOffset_le_setCapacity _ _
        closing_kept := fun _ closing => closing }
  | resize cols rows =>
    simp only [TerminalHandle.apply, TerminalHandle.resize]
    split
    · exact Grows.of_same exposes rfl rfl rfl rfl rfl
    · exact Grows.of_same exposes rfl rfl rfl rfl rfl
  | subscribe fromOffset chunkBytes queueMessages queueBytes =>
    simp only [TerminalHandle.apply, TerminalHandle.subscribe]
    split
    · rename_i hok
      split at hok
      · cases hok
      · cases hok
        exact Grows.of_same exposes rfl rfl rfl rfl rfl
    · exact Grows.of_same exposes rfl rfl rfl rfl rfl
  | beginClose reason =>
    simp only [TerminalHandle.apply, TerminalHandle.beginClose]
    split
    · exact Grows.of_same exposes rfl rfl rfl rfl rfl
    · rename_i hopen
      exact {
        terminalId_eq := rfl
        exposes := by simpa [acceptedBytes] using exposes
        nextOffset_eq := rfl
        durableOffset_eq := rfl
        earliest_mono := Nat.le_refl _
        closing_kept := fun other closing => absurd (by simp [closing]) hopen }
  | updateMetadata | nextInputSequence | unsubscribe | terminateSubscribers | receive | release
  | dropReceiver => exact Grows.of_same exposes rfl rfl rfl rfl rfl

def FlushPhase.taken : FlushPhase → List PendingCheckpoint
  | .taking _ pending | .committing pending => pending
  | .idle | .publishing _ => []

/-- Checkpoints in the database whose handles have not been told. -/
def FlushPhase.committed : FlushPhase → List PendingCheckpoint
  | .publishing pending => pending
  | .idle | .taking _ _ | .committing _ => []

def FlushPhase.pending (flush : FlushPhase) : List PendingCheckpoint :=
  flush.taken ++ flush.committed

def FlushPhase.terminalIds : FlushPhase → List Uuid
  | .idle => []
  | .taking remaining pending => remaining ++ pending.map PendingCheckpoint.terminalId
  | .committing pending | .publishing pending => pending.map PendingCheckpoint.terminalId

theorem FlushPhase.pending_mem_terminalIds
    (member : checkpoint ∈ flush.pending) : checkpoint.terminalId ∈ flush.terminalIds := by
  cases flush with
  | idle => cases member
  | taking remaining pending =>
    have hmem : checkpoint ∈ pending := by simpa [FlushPhase.pending, taken, committed] using member
    exact mem_append_right _ (List.mem_map_of_mem hmem)
  | committing pending =>
    have hmem : checkpoint ∈ pending := by simpa [FlushPhase.pending, taken, committed] using member
    exact List.mem_map_of_mem hmem
  | publishing pending => exact List.mem_map_of_mem member

/-- A checkpoint describes its handle as it was: since then the handle only grew. -/
structure Taken (handle : TerminalHandle) (stream : Bytes) (checkpoint : PendingCheckpoint) :
    Prop where
  earliest_le : checkpoint.earliestOffset ≤ handle.inner.ring.earliestOffset
  chunkStart_eq : checkpoint.chunkStart = max handle.inner.durableOffset checkpoint.earliestOffset
  durable_le : handle.inner.durableOffset ≤ checkpoint.durableTarget
  window_le : checkpoint.earliestOffset ≤ checkpoint.durableTarget
  target_le : checkpoint.durableTarget ≤ stream.length
  chunk_eq : checkpoint.chunk = slice stream checkpoint.chunkStart checkpoint.durableTarget

structure Resident (flush : FlushPhase) (handle : TerminalHandle) (row : TerminalRow)
    (stream : Bytes) : Prop where
  exposes : handle.inner.ring.Exposes stream
  nextOffset_eq : handle.inner.nextOffset = stream.length
  earliest_le : row.earliestOffset ≤ handle.inner.ring.earliestOffset
  durable_eq : (∀ checkpoint ∈ flush.committed, checkpoint.terminalId ≠ handle.terminalId) →
    row.durableOffset = handle.inner.durableOffset
  taken : ∀ checkpoint ∈ flush.taken, checkpoint.terminalId = handle.terminalId →
    Taken handle stream checkpoint ∧ row.earliestOffset ≤ checkpoint.earliestOffset
  committed : ∀ checkpoint ∈ flush.committed, checkpoint.terminalId = handle.terminalId →
    row.durableOffset = checkpoint.durableTarget ∧
      handle.inner.durableOffset ≤ checkpoint.durableTarget
  closing : ∀ checkpoint ∈ flush.pending, checkpoint.terminalId = handle.terminalId →
    ∀ reason, checkpoint.closeReason = some reason → handle.inner.lifecycle = .closing reason

structure TerminalInv (system : System) (terminalId : Uuid) : Prop where
  absent : getTerminal system.store terminalId = none →
    system.resident terminalId = none ∧ system.accepted terminalId = [] ∧
      segmentsOf system.store terminalId = []
  stored : ∀ row, getTerminal system.store terminalId = some row →
    Tiled system.store terminalId (system.accepted terminalId) row.earliestOffset
        row.durableOffset ∧ row.durableOffset ≤ (system.accepted terminalId).length
  dormant : ∀ row, getTerminal system.store terminalId = some row →
    system.resident terminalId = none → row.durableOffset = (system.accepted terminalId).length
  resident : ∀ handle, system.resident terminalId = some handle →
    ∃ row, getTerminal system.store terminalId = some row ∧
      Resident system.flush handle row (system.accepted terminalId)

structure Inv (system : System) : Prop where
  resident_nodup : (system.terminals.map TerminalHandle.terminalId).Nodup
  flush_nodup : system.flush.terminalIds.Nodup
  flush_resident : ∀ terminalId ∈ system.flush.terminalIds,
    terminalId ∈ system.terminals.map TerminalHandle.terminalId
  terminal : ∀ terminalId, TerminalInv system terminalId

theorem Inv.initial : Inv System.initial where
  resident_nodup := nodup_nil
  flush_nodup := nodup_nil
  flush_resident := by
    intro terminalId member
    cases member
  terminal := by
    intro terminalId
    constructor
    · exact fun _ => ⟨rfl, rfl, rfl⟩
    · exact fun _ known => nomatch known
    · exact fun _ known => nomatch known
    · exact fun _ known => nomatch known

theorem terminalId_of_resident
    (found : system.resident terminalId = some handle) : handle.terminalId = terminalId :=
  key_of_lookup found

theorem Inv.not_flushed (inv : Inv system) (missing : system.resident terminalId = none) :
    ∀ checkpoint ∈ system.flush.pending, checkpoint.terminalId ≠ terminalId := by
  intro checkpoint member heq
  have hresident := inv.flush_resident _ (FlushPhase.pending_mem_terminalIds member)
  obtain ⟨handle, hhandle, hid⟩ := List.mem_map.mp hresident
  exact lookup_eq_none.mp missing handle hhandle (hid.trans heq)

theorem Resident.weaken {flush' : FlushPhase} (resident : Resident flush handle row stream)
    (taken : ∀ checkpoint ∈ flush'.taken, checkpoint ∈ flush.taken)
    (committed : flush'.committed = flush.committed) : Resident flush' handle row stream :=
  { resident with
    durable_eq := by
      rw [committed]
      exact resident.durable_eq
    taken := fun checkpoint member => resident.taken checkpoint (taken checkpoint member)
    committed := by
      rw [committed]
      exact resident.committed
    closing := by
      intro checkpoint member
      apply resident.closing
      rcases mem_append.mp member with htaken | hcommitted
      · exact mem_append_left _ (taken checkpoint htaken)
      · rw [committed] at hcommitted
        exact mem_append_right _ hcommitted }

theorem TerminalInv.congr {before after : System} (inv : TerminalInv before terminalId)
    (stored : SameTerminal before.store after.store terminalId)
    (resident_eq : after.resident terminalId = before.resident terminalId)
    (accepted_eq : after.accepted terminalId = before.accepted terminalId)
    (resident : ∀ handle row, before.resident terminalId = some handle →
      Resident before.flush handle row (before.accepted terminalId) →
      Resident after.flush handle row (before.accepted terminalId)) :
    TerminalInv after terminalId := by
  obtain ⟨hrow, hsegments⟩ := stored
  constructor
  · rw [hrow, hsegments, resident_eq, accepted_eq]
    exact inv.absent
  · intro row known
    rw [hrow] at known
    rw [accepted_eq]
    exact ⟨(inv.stored row known).1.sameTerminal ⟨hrow, hsegments⟩, (inv.stored row known).2⟩
  · rw [hrow, resident_eq, accepted_eq]
    exact inv.dormant
  · intro handle found
    rw [resident_eq] at found
    obtain ⟨row, known, hresident⟩ := inv.resident handle found
    rw [hrow, accepted_eq]
    exact ⟨row, known, resident handle row found hresident⟩

theorem Inv.withFlush (inv : Inv system) (nodup : flush.terminalIds.Nodup)
    (subset : ∀ terminalId ∈ flush.terminalIds, terminalId ∈ system.flush.terminalIds)
    (resident : ∀ terminalId handle row, system.resident terminalId = some handle →
      Resident system.flush handle row (system.accepted terminalId) →
      Resident flush handle row (system.accepted terminalId)) :
    Inv { system with flush } where
  resident_nodup := inv.resident_nodup
  flush_nodup := nodup
  flush_resident := fun terminalId member => inv.flush_resident terminalId (subset terminalId member)
  terminal := by
    intro terminalId
    exact (inv.terminal terminalId).congr ⟨rfl, rfl⟩ rfl rfl (resident terminalId)

theorem Inv.insertTerminal (inv : Inv system) (terminalId deviceId : Uuid)
    (identityId localRef label : String) (cols rows : Option Nat) (term : Option String)
    (acceptsInput : Bool) :
    Inv (system.insertTerminal terminalId deviceId identityId localRef label cols rows term
      acceptsInput) := by
  unfold System.insertTerminal Db.insertTerminal
  by_cases hknown : (getTerminal system.store terminalId).isSome
  · rw [if_pos hknown]
    exact inv
  · rw [if_neg hknown]
    split
    · rename_i inserted store hinserted
      split at hinserted
      · cases hinserted
      · cases hinserted
        refine { inv with terminal := ?_ }
        intro other
        have hother := inv.terminal other
        have hnone : getTerminal system.store terminalId = none := by simpa using hknown
        by_cases hid : other = terminalId
        · subst hid
          obtain ⟨hresident, haccepted, hsegments⟩ := hother.absent hnone
          have hfound : ∀ row, getTerminal { system.store with terminals := system.store.terminals ++
              [⟨other, deviceId, identityId, localRef, label, .opened, cols, rows, term, acceptsInput,
                none, 0, 0⟩] } other = some row → row.durableOffset = 0 ∧ row.earliestOffset = 0 := by
            intro row hrow
            unfold getTerminal at hrow hnone
            rw [Library.lookup_append, hnone, none_or, Library.lookup_cons, if_pos rfl] at hrow
            cases hrow
            exact ⟨rfl, rfl⟩
          constructor
          · exact fun _ => ⟨hresident, haccepted, hsegments⟩
          · intro row hrow
            obtain ⟨hdurable, hearliest⟩ := hfound row hrow
            rw [hdurable, hearliest]
            exact ⟨⟨[], Perm.of_eq hsegments, rfl⟩, Nat.zero_le _⟩
          · intro row hrow _
            rw [(hfound row hrow).1]
            change 0 = (system.accepted other).length
            rw [haccepted, length_nil]
          · intro handle hhandle
            exact absurd (hresident.symm.trans hhandle) (by simp)
        · have hsame : getTerminal { system.store with terminals := system.store.terminals ++
              [⟨terminalId, deviceId, identityId, localRef, label, .opened, cols, rows, term,
                acceptsInput, none, 0, 0⟩] } other = getTerminal system.store other := by
            unfold getTerminal
            rw [Library.lookup_append, Library.lookup_cons, if_neg (fun heq => hid heq.symm), Library.lookup_nil,
              or_none]
          exact hother.congr ⟨hsame, rfl⟩ rfl rfl fun _ _ _ resident => resident
    · exact inv

theorem Resident.fromRow (capacity : Nat)
    (durable_eq : row.durableOffset = stream.length) (order : row.earliestOffset ≤ row.durableOffset)
    (idle : ∀ checkpoint ∈ flush.pending, checkpoint.terminalId ≠ row.terminalId) :
    Resident flush (fromRow row capacity
      (slice stream row.earliestOffset row.durableOffset)) row stream := by
  have hslice : slice stream row.earliestOffset row.durableOffset = stream.drop row.earliestOffset := by
    rw [durable_eq, slice_length]
  have hexposes : (fromRetained capacity row.earliestOffset
      (slice stream row.earliestOffset row.durableOffset)).Exposes stream := by
    rw [hslice]
    exact Ring.Exposes.fromRetained capacity (durable_eq ▸ order)
  constructor
  · exact hexposes
  · change max (endOffset _) row.durableOffset = stream.length
    rw [hexposes.endOffset_eq, durable_eq, Nat.max_self]
  · change row.earliestOffset ≤ (fromRetained capacity row.earliestOffset _).earliestOffset
    rw [(fromRetained_eq _ _ _).1]
    exact Nat.le_add_right _ _
  · exact fun _ => rfl
  · intro checkpoint member same
    exact absurd same (idle checkpoint (mem_append_left _ member))
  · intro checkpoint member same
    exact absurd same (idle checkpoint (mem_append_right _ member))
  · intro checkpoint member same
    exact absurd same (idle checkpoint member)

theorem Inv.load_eq (inv : Inv system) (known : getTerminal system.store terminalId = some row)
    (missing : system.resident terminalId = none) (capacity : Nat) :
    system.load terminalId capacity =
      { system with
        terminals := system.terminals ++ [fromRow row capacity
          (slice (system.accepted terminalId) row.earliestOffset row.durableOffset)] } := by
  unfold System.load
  rw [missing, known]
  dsimp only
  rw [loadTerminalOutput_ok ((inv.terminal terminalId).stored row known).1]

theorem Inv.load (inv : Inv system) (terminalId : Uuid) (capacity : Nat) :
    Inv (system.load terminalId capacity) := by
  cases hresident : system.resident terminalId with
  | some handle =>
    unfold System.load
    rw [hresident]
    exact inv
  | none =>
    cases hknown : getTerminal system.store terminalId with
    | none =>
      unfold System.load
      rw [hresident, hknown]
      exact inv
    | some row =>
      have hterminal := inv.terminal terminalId
      have hrowId : row.terminalId = terminalId := key_of_lookup hknown
      have hdurable := hterminal.dormant row hknown hresident
      obtain ⟨⟨segments, _, htiles⟩, hbound⟩ := hterminal.stored row hknown
      rw [inv.load_eq hknown hresident capacity]
      have hnew : Resident system.flush (fromRow row capacity
          (slice (system.accepted terminalId) row.earliestOffset row.durableOffset)) row
          (system.accepted terminalId) := by
        apply Resident.fromRow capacity hdurable htiles.le
        rw [hrowId]
        exact inv.not_flushed hresident
      have hlookup : ∀ other, lookup TerminalHandle.terminalId other
          (system.terminals ++ [fromRow row capacity
            (slice (system.accepted terminalId) row.earliestOffset row.durableOffset)]) =
          (system.resident other).or (if row.terminalId = other then
            some (fromRow row capacity
              (slice (system.accepted terminalId) row.earliestOffset row.durableOffset))
            else none) := by
        intro other
        rw [Library.lookup_append, Library.lookup_cons, Library.lookup_nil]
        rfl
      constructor
      · rw [map_append, nodup_append]
        refine ⟨inv.resident_nodup, nodup_singleton _, ?_⟩
        intro left leftMem right rightMem heq
        obtain ⟨handle, hhandle, hid⟩ := List.mem_map.mp leftMem
        have hright : right = row.terminalId := mem_singleton.mp rightMem
        exact lookup_eq_none.mp hresident handle hhandle (by rw [hid, heq, hright, hrowId])
      · exact inv.flush_nodup
      · intro other member
        rw [map_append]
        exact mem_append_left _ (inv.flush_resident other member)
      · intro other
        have hother := inv.terminal other
        by_cases hid : other = terminalId
        · subst hid
          refine ⟨fun hnone => absurd (hnone.symm.trans hknown) (by simp), hother.stored, ?_, ?_⟩
          · intro stored _ hmissing
            unfold System.resident at hmissing
            rw [hlookup, hresident, if_pos hrowId] at hmissing
            cases hmissing
          · intro handle hfound
            unfold System.resident at hfound
            rw [hlookup, hresident, if_pos hrowId] at hfound
            cases hfound
            exact ⟨row, hknown, hnew⟩
        · have hsame : lookup TerminalHandle.terminalId other
              (system.terminals ++ [fromRow row capacity
                (slice (system.accepted terminalId) row.earliestOffset row.durableOffset)]) =
              system.resident other := by
            rw [hlookup, if_neg (fun heq => hid (heq.symm.trans hrowId)), or_none]
          exact hother.congr ⟨rfl, rfl⟩ hsame rfl fun _ _ _ resident => resident

theorem Taken.grows (taken : Taken before stream checkpoint)
    (grows : Grows before after stream added) : Taken after (stream ++ added) checkpoint where
  earliest_le := taken.earliest_le.trans grows.earliest_mono
  chunkStart_eq := by rw [taken.chunkStart_eq, grows.durableOffset_eq]
  durable_le := by
    rw [grows.durableOffset_eq]
    exact taken.durable_le
  window_le := taken.window_le
  target_le := by
    rw [length_append]
    exact taken.target_le.trans (Nat.le_add_right _ _)
  chunk_eq := by rw [taken.chunk_eq, slice_append added _ taken.target_le]

theorem Resident.grows (resident : Resident flush before row stream)
    (grows : Grows before after stream added) :
    Resident flush after row (stream ++ added) where
  exposes := grows.exposes
  nextOffset_eq := by rw [grows.nextOffset_eq, resident.nextOffset_eq, length_append]
  earliest_le := resident.earliest_le.trans grows.earliest_mono
  durable_eq := by
    rw [grows.terminalId_eq, grows.durableOffset_eq]
    exact resident.durable_eq
  taken := by
    rw [grows.terminalId_eq]
    intro checkpoint member same
    obtain ⟨htaken, hearliest⟩ := resident.taken checkpoint member same
    exact ⟨htaken.grows grows, hearliest⟩
  committed := by
    rw [grows.terminalId_eq, grows.durableOffset_eq]
    exact resident.committed
  closing := by
    rw [grows.terminalId_eq]
    intro checkpoint member same reason hreason
    exact grows.closing_kept reason (resident.closing checkpoint member same reason hreason)

theorem map_terminalId_update (terminalId : Uuid)
    (keeps : ∀ handle, (f handle).terminalId = handle.terminalId) (handles : List TerminalHandle) :
    (update TerminalHandle.terminalId terminalId f handles).map TerminalHandle.terminalId =
      handles.map TerminalHandle.terminalId := by
  unfold update
  rw [List.map_map]
  apply map_congr_left
  intro handle _
  simp only [Function.comp_apply]
  split
  · exact keeps handle
  · rfl

theorem apply_eq (handle : TerminalHandle) (op : HandleOp) :
    ∃ inner mailboxes, handle.apply op = { handle with inner, mailboxes } := by
  cases op with
  | append expectedOffset payload capacity =>
    simp only [TerminalHandle.apply, TerminalHandle.append]
    split
    · exact ⟨_, _, rfl⟩
    · split
      · exact ⟨_, _, rfl⟩
      · split <;> exact ⟨_, _, rfl⟩
  | shrinkToCapacity capacity =>
    simp only [TerminalHandle.apply, TerminalHandle.shrinkToCapacity]
    split <;> exact ⟨_, _, rfl⟩
  | resize cols rows =>
    simp only [TerminalHandle.apply, TerminalHandle.resize]
    split <;> exact ⟨_, _, rfl⟩
  | subscribe fromOffset chunkBytes queueMessages queueBytes =>
    simp only [TerminalHandle.apply, TerminalHandle.subscribe]
    split
    · rename_i hok
      split at hok
      · cases hok
      · cases hok
        exact ⟨_, _, rfl⟩
    · exact ⟨_, _, rfl⟩
  | beginClose reason =>
    simp only [TerminalHandle.apply, TerminalHandle.beginClose]
    split <;> exact ⟨_, _, rfl⟩
  | updateMetadata | nextInputSequence | unsubscribe | terminateSubscribers | receive | release
  | dropReceiver => exact ⟨_, _, rfl⟩

theorem terminalId_apply (handle : TerminalHandle) (op : HandleOp) :
    (handle.apply op).terminalId = handle.terminalId := by
  obtain ⟨inner, mailboxes, happly⟩ := apply_eq handle op
  rw [happly]

theorem resident_update {next : System} {other : Uuid}
    (keeps : ∀ stored, (f stored).terminalId = stored.terminalId)
    (terminals_eq : next.terminals = update TerminalHandle.terminalId other f system.terminals)
    (terminalId : Uuid) :
    next.resident terminalId =
      if terminalId = other then (system.resident other).map f else system.resident terminalId := by
  unfold System.resident
  rw [terminals_eq]
  exact lookup_update _ _ _ f keeps _

theorem Inv.updateHandle {before after : System} (inv : Inv before)
    (found : before.resident terminalId = some handle)
    (keeps : ∀ stored, (f stored).terminalId = stored.terminalId)
    (store_eq : after.store = before.store)
    (terminals_eq : after.terminals = update TerminalHandle.terminalId terminalId f before.terminals)
    (accepted_eq : after.accepted terminalId = before.accepted terminalId ++ added)
    (accepted_other : ∀ other, other ≠ terminalId → after.accepted other = before.accepted other)
    (nodup : after.flush.terminalIds.Nodup)
    (subset : ∀ other ∈ after.flush.terminalIds, other ∈ before.flush.terminalIds)
    (grown : ∀ row, Resident before.flush handle row (before.accepted terminalId) →
      Resident after.flush (f handle) row (before.accepted terminalId ++ added))
    (others : ∀ other stored row, other ≠ terminalId → before.resident other = some stored →
      Resident before.flush stored row (before.accepted other) →
      Resident after.flush stored row (before.accepted other)) : Inv after := by
  have hids := map_terminalId_update terminalId keeps before.terminals
  have hlookup := resident_update keeps terminals_eq
  constructor
  · rw [terminals_eq, hids]
    exact inv.resident_nodup
  · exact nodup
  · intro other member
    rw [terminals_eq, hids]
    exact inv.flush_resident other (subset other member)
  · intro other
    have hother := inv.terminal other
    by_cases hsame : other = terminalId
    · subst hsame
      obtain ⟨row, hrow, hresident⟩ := hother.resident handle found
      have hfound : after.resident other = some (f handle) := by
        rw [hlookup, if_pos rfl, found, map_some]
      rw [← store_eq] at hrow
      constructor
      · intro hnone
        exact absurd (hnone.symm.trans hrow) (by simp)
      · intro stored hstored
        rw [store_eq] at hstored ⊢
        obtain ⟨⟨segments, hperm, htiles⟩, hbound⟩ := hother.stored stored hstored
        rw [accepted_eq]
        refine ⟨⟨segments, hperm, htiles.append _ hbound⟩, ?_⟩
        rw [length_append]
        exact hbound.trans (Nat.le_add_right _ _)
      · intro _ _ hmissing
        exact absurd (hmissing.symm.trans hfound) (by simp)
      · intro stored hstored
        rw [hfound] at hstored
        cases hstored
        rw [accepted_eq]
        exact ⟨row, hrow, grown row hresident⟩
    · refine hother.congr ?_ ?_ (accepted_other other hsame) fun stored row => others other stored row hsame
      · rw [store_eq]
        exact ⟨rfl, rfl⟩
      · rw [hlookup, if_neg hsame]

theorem Inv.applyOp (inv : Inv system)
    (found : system.resident terminalId = some handle) (op : HandleOp) :
    Inv (system.applyOp handle op) := by
  have hid := terminalId_of_resident found
  subst hid
  have haccepted : (system.applyOp handle op).accepted handle.terminalId =
      system.accepted handle.terminalId ++ handle.acceptedBytes op := Function.update_self _ _ _
  refine inv.updateHandle found (fun stored => terminalId_apply stored op) rfl rfl haccepted
    ?_ ?_ ?_ ?_ ?_
  · exact fun other different => Function.update_of_ne different _ _
  · exact inv.flush_nodup
  · exact fun _ member => member
  · exact fun row resident => resident.grows (apply_grows resident.exposes op)
  · exact fun _ _ _ _ _ resident => resident

theorem Inv.flushBegin (inv : Inv system) {order : List Uuid} (idle : system.flush = .idle)
    (perm : order.Perm (system.terminals.map TerminalHandle.terminalId)) :
    Inv { system with flush := .taking order [] } where
  resident_nodup := inv.resident_nodup
  flush_nodup := by
    simp only [FlushPhase.terminalIds, map_nil, append_nil]
    exact perm.nodup_iff.mpr inv.resident_nodup
  flush_resident := by
    intro terminalId member
    simp only [FlushPhase.terminalIds, map_nil, append_nil] at member
    exact perm.mem_iff.mp member
  terminal := by
    intro terminalId
    refine (inv.terminal terminalId).congr ⟨rfl, rfl⟩ rfl rfl fun handle row _ resident => ?_
    apply resident.weaken
    · intro checkpoint member
      cases member
    · rw [idle]
      rfl

theorem takeCheckpoint_taken (exposes : handle.inner.ring.Exposes stream)
    (next : handle.inner.nextOffset = stream.length)
    (durable : handle.inner.durableOffset ≤ stream.length)
    (taken : handle.takeCheckpoint = some checkpoint) :
    checkpoint.terminalId = handle.terminalId ∧
      checkpoint.earliestOffset = handle.inner.ring.earliestOffset ∧
      Taken handle stream checkpoint ∧
      ∀ reason, checkpoint.closeReason = some reason → handle.inner.lifecycle = .closing reason := by
  unfold takeCheckpoint at taken
  dsimp only at taken
  split at taken
  · cases taken
  · cases taken
    refine ⟨rfl, rfl, ?_, ?_⟩
    · have hearliest := exposes.earliest_le
      constructor
      · exact Nat.le_refl _
      · rfl
      · exact durable.trans (Nat.le_of_eq next.symm)
      · exact hearliest.trans (Nat.le_of_eq next.symm)
      · exact Nat.le_of_eq next
      · dsimp only
        split
        · rename_i hgrows
          rw [exposes.readRange hgrows.le (Nat.le_max_right _ _) (Nat.le_of_eq next)]
          rfl
        · rename_i hempty
          unfold slice
          rw [Nat.sub_eq_zero_of_le (Nat.le_of_not_lt hempty), take_zero]
    · intro reason hreason
      cases hlifecycle : handle.inner.lifecycle with
      | closing closeReason =>
        rw [hlifecycle] at hreason
        cases hreason
        rfl
      | opened | closed =>
        rw [hlifecycle] at hreason
        cases hreason

theorem Resident.durable_le (resident : Resident flush handle row stream)
    (bound : row.durableOffset ≤ stream.length) : handle.inner.durableOffset ≤ stream.length := by
  by_cases hcommitted : ∀ checkpoint ∈ flush.committed, checkpoint.terminalId ≠ handle.terminalId
  · rw [← resident.durable_eq hcommitted]
    exact bound
  · push Not at hcommitted
    obtain ⟨checkpoint, member, same⟩ := hcommitted
    obtain ⟨hrow, hdurable⟩ := resident.committed checkpoint member same
    exact hdurable.trans (hrow ▸ bound)

theorem Inv.flushTake (inv : Inv system) {remaining : List Uuid} {pending : List PendingCheckpoint}
    (taking : system.flush = .taking (terminalId :: remaining) pending) :
    Inv (system.takeNext terminalId remaining pending) := by
  have hnodup := inv.flush_nodup
  have hresident := inv.flush_resident terminalId (by simp [taking, FlushPhase.terminalIds])
  obtain ⟨handle, hmember, hid⟩ := List.mem_map.mp hresident
  unfold System.takeNext
  cases htaken : (system.resident terminalId).bind takeCheckpoint with
  | none =>
    rw [taking] at hnodup
    apply inv.withFlush
    · simp only [toList_none, append_nil]
      exact (nodup_cons.mp hnodup).2
    · intro other member
      rw [taking]
      simp only [toList_none, append_nil] at member
      exact mem_cons_of_mem _ member
    · intro other stored row _ resident
      apply resident.weaken
      · intro checkpoint member
        rw [taking]
        simpa [FlushPhase.taken] using member
      · rw [taking]
        rfl
  | some checkpoint =>
    obtain ⟨holder, hholder, htake⟩ := bind_eq_some_iff.mp htaken
    obtain ⟨row, hrow, hholderInv⟩ := (inv.terminal terminalId).resident holder hholder
    have hbound := ((inv.terminal terminalId).stored row hrow).2
    obtain ⟨hcheckpointId, hearliest, hcheckpoint, hclosing⟩ :=
      takeCheckpoint_taken hholderInv.exposes hholderInv.nextOffset_eq
        (hholderInv.durable_le hbound) htake
    have hholderId := terminalId_of_resident hholder
    have hperm : (FlushPhase.taking remaining (pending ++ [checkpoint])).terminalIds.Perm
        system.flush.terminalIds := by
      rw [taking]
      simp only [FlushPhase.terminalIds, map_append, map_cons, map_nil,
        hcheckpointId, hholderId, cons_append, ← append_assoc]
      exact perm_append_singleton _ _
    apply inv.withFlush
    · exact hperm.nodup_iff.mpr hnodup
    · exact fun other member => hperm.mem_iff.mp member
    · intro other stored storedRow hstored resident
      -- Only the handle just asked gains a checkpoint.
      have hnew : ∀ taken ∈ (FlushPhase.taking remaining (pending ++ [checkpoint])).taken,
          taken ∈ system.flush.taken ∨ taken = checkpoint := by
        intro taken member
        rw [taking]
        rcases mem_append.mp member with hold | hlast
        · exact .inl hold
        · exact .inr (mem_singleton.mp hlast)
      have hself : checkpoint.terminalId = stored.terminalId → stored = holder ∧ other = terminalId := by
        intro same
        have hother : other = terminalId := by
          rw [← terminalId_of_resident hstored, ← same, hcheckpointId, hholderId]
        subst hother
        exact ⟨Option.some.inj (hstored.symm.trans hholder), rfl⟩
      refine { resident with durable_eq := ?_, taken := ?_, committed := ?_, closing := ?_ }
      · have hdurable := resident.durable_eq
        rw [taking] at hdurable
        exact hdurable
      · intro taken member same
        rcases hnew taken member with hold | rfl
        · exact resident.taken taken hold same
        · obtain ⟨rfl, rfl⟩ := hself same
          refine ⟨hcheckpoint, ?_⟩
          rw [hearliest]
          exact resident.earliest_le
      · intro committed member
        cases member
      · intro taken member same
        rcases mem_append.mp member with htakenMem | hnone
        · rcases hnew taken htakenMem with hold | rfl
          · exact resident.closing taken (mem_append_left _ hold) same
          · obtain ⟨rfl, rfl⟩ := hself same
            exact hclosing
        · cases hnone

theorem Inv.toCommitting (inv : Inv system) {pending : List PendingCheckpoint}
    (taking : system.flush = .taking [] pending) : Inv { system with flush := .committing pending } := by
  apply inv.withFlush
  · have hnodup := inv.flush_nodup
    rw [taking] at hnodup
    exact hnodup
  · intro other member
    rw [taking]
    exact member
  · intro other handle row _ resident
    apply resident.weaken
    · intro checkpoint member
      rw [taking]
      exact member
    · rw [taking]
      rfl

theorem Inv.toIdle (inv : Inv system) (none_committed : system.flush.committed = []) :
    Inv { system with flush := .idle } := by
  apply inv.withFlush
  · exact nodup_nil
  · intro other member
    cases member
  · intro other handle row _ resident
    apply resident.weaken
    · intro checkpoint member
      cases member
    · rw [none_committed]
      rfl

theorem Resident.fits {store : Store}
    (resident : Resident flush handle row stream) (none_committed : flush.committed = [])
    (member : checkpoint ∈ flush.taken) (same : checkpoint.terminalId = handle.terminalId)
    (known : getTerminal store checkpoint.terminalId = some row)
    (tiled : Tiled store checkpoint.terminalId stream row.earliestOffset row.durableOffset) :
    Fits store stream row checkpoint.toCheckpoint := by
  obtain ⟨htaken, hearliest⟩ := resident.taken checkpoint member same
  have hdurable : row.durableOffset = handle.inner.durableOffset := by
    apply resident.durable_eq
    rw [none_committed]
    intro other hmember
    cases hmember
  constructor
  · exact known
  · exact tiled
  · exact hearliest
  · change row.durableOffset ≤ checkpoint.durableTarget
    rw [hdurable]
    exact htaken.durable_le
  · change checkpoint.chunkStart = max row.durableOffset checkpoint.earliestOffset
    rw [hdurable]
    exact htaken.chunkStart_eq
  · exact htaken.window_le
  · exact htaken.target_le
  · exact htaken.chunk_eq

theorem publishCheckpoint_offsets (checkpoint : TerminalCheckpoint) (row : TerminalRow) :
    (publishCheckpoint checkpoint row).durableOffset = checkpoint.durableOffset ∧
      (publishCheckpoint checkpoint row).earliestOffset = checkpoint.earliestOffset := by
  unfold publishCheckpoint
  split <;> exact ⟨rfl, rfl⟩

theorem eq_of_nodup_terminalId {pending : List PendingCheckpoint}
    (nodup : (pending.map PendingCheckpoint.terminalId).Nodup) {left right : PendingCheckpoint}
    (leftMem : left ∈ pending) (rightMem : right ∈ pending)
    (same : left.terminalId = right.terminalId) : left = right :=
  inj_on_of_nodup_map nodup leftMem rightMem same

theorem Resident.afterCommit {pending : List PendingCheckpoint}
    (resident : Resident (.committing pending) handle row stream)
    (nodup : (pending.map PendingCheckpoint.terminalId).Nodup) (member : checkpoint ∈ pending)
    (same : checkpoint.terminalId = handle.terminalId) :
    Resident (.publishing pending) handle (publishCheckpoint checkpoint.toCheckpoint row) stream := by
  obtain ⟨htaken, _⟩ := resident.taken checkpoint member same
  obtain ⟨hdurable, hearliest⟩ := publishCheckpoint_offsets checkpoint.toCheckpoint row
  refine ⟨resident.exposes, resident.nextOffset_eq, ?_, ?_, ?_, ?_, ?_⟩
  · rw [hearliest]
    exact htaken.earliest_le
  · intro habsent
    exact absurd same (habsent checkpoint member)
  · intro other hother
    cases hother
  · intro other hother hsame
    rw [eq_of_nodup_terminalId nodup hother member (hsame.trans same.symm)]
    exact ⟨hdurable, htaken.durable_le⟩
  · intro other hother
    apply resident.closing
    simpa [FlushPhase.pending, FlushPhase.taken, FlushPhase.committed] using hother

theorem Resident.notInBatch {pending : List PendingCheckpoint}
    (resident : Resident (.committing pending) handle row stream)
    (absent : ∀ checkpoint ∈ pending, checkpoint.terminalId ≠ handle.terminalId) :
    Resident (.publishing pending) handle row stream := by
  refine { resident with durable_eq := ?_, taken := ?_, committed := ?_, closing := ?_ }
  · intro _
    apply resident.durable_eq
    intro checkpoint member
    cases member
  · intro checkpoint member
    cases member
  · intro checkpoint member same
    exact absurd same (absent checkpoint member)
  · intro checkpoint member same
    exact absurd same (absent checkpoint member)

theorem Inv.holder (inv : Inv system) {pending : List PendingCheckpoint}
    (committing : system.flush = .committing pending)
    (member : checkpoint ∈ pending) :
    ∃ handle row, system.resident checkpoint.terminalId = some handle ∧
      getTerminal system.store checkpoint.terminalId = some row ∧
      Resident (.committing pending) handle row (system.accepted checkpoint.terminalId) := by
  have hflushed : checkpoint ∈ system.flush.pending := by
    rw [committing]
    exact mem_append_left _ member
  cases hfound : system.resident checkpoint.terminalId with
  | none => exact absurd rfl (inv.not_flushed hfound checkpoint hflushed)
  | some handle =>
    obtain ⟨row, hrow, hresident⟩ := (inv.terminal _).resident handle hfound
    rw [committing] at hresident
    exact ⟨handle, row, rfl, hrow, hresident⟩

theorem Inv.fits (inv : Inv system) {pending : List PendingCheckpoint}
    (committing : system.flush = .committing pending)
    (member : checkpoint ∈ pending) :
    ∃ row, Fits system.store (system.accepted checkpoint.terminalId) row
      checkpoint.toCheckpoint := by
  obtain ⟨handle, row, hfound, hrow, hresident⟩ := inv.holder committing member
  exact ⟨row, hresident.fits rfl member (terminalId_of_resident hfound).symm hrow
    ((inv.terminal _).stored row hrow).1⟩

theorem Inv.commit (inv : Inv system) {pending : List PendingCheckpoint}
    (committing : system.flush = .committing pending) :
    ∃ store, commitCheckpoints system.store (pending.map PendingCheckpoint.toCheckpoint) = .ok store ∧
      Inv { system with store, flush := .publishing pending } := by
  have hnodup : (pending.map PendingCheckpoint.terminalId).Nodup := by
    have := inv.flush_nodup
    rwa [committing] at this
  have hids : (pending.map PendingCheckpoint.toCheckpoint).map TerminalCheckpoint.terminalId =
      pending.map PendingCheckpoint.terminalId := by
    rw [List.map_map]
    rfl
  have hfits : ∀ checkpoint ∈ pending.map PendingCheckpoint.toCheckpoint, ∃ row,
      Fits system.store (system.accepted checkpoint.terminalId) row checkpoint := by
    intro checkpoint member
    obtain ⟨taken, hmember, rfl⟩ := List.mem_map.mp member
    exact inv.fits committing hmember
  obtain ⟨store, hcommit, hcommitted, hothers⟩ := commitCheckpoints_ok (hids ▸ hnodup) hfits
  refine ⟨store, hcommit, ⟨inv.resident_nodup, hnodup, ?_, ?_⟩⟩
  · intro terminalId member
    apply inv.flush_resident
    rw [committing]
    exact member
  · intro terminalId
    by_cases hmember : terminalId ∈ pending.map PendingCheckpoint.terminalId
    · obtain ⟨checkpoint, hcheckpoint, rfl⟩ := List.mem_map.mp hmember
      obtain ⟨handle, row, hfound, hrow, hresident⟩ := inv.holder committing hcheckpoint
      have hsame := (terminalId_of_resident hfound).symm
      have hnew := hcommitted checkpoint.toCheckpoint (List.mem_map_of_mem hcheckpoint) row hrow
      have hpublished : getTerminal store checkpoint.terminalId =
        some (publishCheckpoint checkpoint.toCheckpoint row) := hnew.published
      constructor
      · intro hmissing
        exact absurd (hmissing.symm.trans hpublished) (by simp)
      · intro stored hstored
        rw [hpublished] at hstored
        cases hstored
        obtain ⟨hdurable, hearliest⟩ := publishCheckpoint_offsets checkpoint.toCheckpoint row
        rw [hdurable, hearliest]
        exact ⟨hnew.tiled, (hresident.taken checkpoint hcheckpoint hsame).1.target_le⟩
      · intro _ _ hmissing
        exact absurd (hmissing.symm.trans hfound) (by simp)
      · intro stored hstored
        cases hfound.symm.trans hstored
        exact ⟨_, hpublished, hresident.afterCommit hnodup hcheckpoint hsame⟩
    · refine (inv.terminal terminalId).congr (hothers terminalId (hids ▸ hmember)) rfl rfl ?_
      intro handle row hfound resident
      rw [committing] at resident
      apply resident.notInBatch
      intro checkpoint hcheckpoint hsame
      apply hmember
      rw [← terminalId_of_resident hfound, ← hsame]
      exact List.mem_map_of_mem hcheckpoint

theorem commitDurable_spec (handle : TerminalHandle) (durableTarget : Nat) (closed : Option String) :
    (handle.commitDurable durableTarget closed).terminalId = handle.terminalId ∧
      (handle.commitDurable durableTarget closed).inner.ring = handle.inner.ring ∧
      (handle.commitDurable durableTarget closed).inner.nextOffset = handle.inner.nextOffset ∧
      (handle.commitDurable durableTarget closed).inner.durableOffset =
        max handle.inner.durableOffset durableTarget := by
  have hadvance : (handle.advanceDurable durableTarget).terminalId = handle.terminalId ∧
      (handle.advanceDurable durableTarget).inner.ring = handle.inner.ring ∧
      (handle.advanceDurable durableTarget).inner.nextOffset = handle.inner.nextOffset ∧
      (handle.advanceDurable durableTarget).inner.durableOffset =
        max handle.inner.durableOffset durableTarget := by
    unfold advanceDurable
    split
    · rename_i hmoves
      exact ⟨rfl, rfl, rfl, (Nat.max_eq_right hmoves.le).symm⟩
    · rename_i hstays
      exact ⟨rfl, rfl, rfl, (Nat.max_eq_left (Nat.le_of_not_lt hstays)).symm⟩
  unfold commitDurable
  cases closed with
  | none => exact hadvance
  | some reason => exact hadvance

theorem Resident.publish (resident : Resident (.publishing (checkpoint :: rest)) handle row stream)
    (nodup : ((checkpoint :: rest).map PendingCheckpoint.terminalId).Nodup)
    (same : checkpoint.terminalId = handle.terminalId) :
    Resident (.publishing rest)
      (handle.commitDurable checkpoint.durableTarget checkpoint.closeReason) row stream := by
  obtain ⟨hid, hring, hnext, hdurable⟩ :=
    commitDurable_spec handle checkpoint.durableTarget checkpoint.closeReason
  obtain ⟨hrow, hle⟩ := resident.committed checkpoint mem_cons_self same
  have hothers : ∀ other ∈ rest, other.terminalId ≠ handle.terminalId := by
    intro other member heq
    apply (nodup_cons.mp nodup).1
    rw [same, ← heq]
    exact List.mem_map_of_mem member
  refine ⟨?_, ?_, ?_, ?_, ?_, ?_, ?_⟩
  · rw [hring]
    exact resident.exposes
  · rw [hnext]
    exact resident.nextOffset_eq
  · rw [hring]
    exact resident.earliest_le
  · intro _
    rw [hdurable, Nat.max_eq_right hle, hrow]
  · intro other member
    cases member
  · intro other member heq
    exact absurd (heq.trans hid) (hothers other member)
  · intro other member heq
    exact absurd (heq.trans hid) (hothers other member)

theorem Resident.publishOther
    (resident : Resident (.publishing (checkpoint :: rest)) handle row stream)
    (different : checkpoint.terminalId ≠ handle.terminalId) :
    Resident (.publishing rest) handle row stream := by
  refine { resident with durable_eq := ?_, taken := ?_, committed := ?_, closing := ?_ }
  · intro habsent
    apply resident.durable_eq
    intro other member
    rcases mem_cons.mp member with rfl | member
    · exact different
    · exact habsent other member
  · intro other member
    cases member
  · exact fun other member => resident.committed other (mem_cons_of_mem _ member)
  · exact fun other member => resident.closing other (mem_cons_of_mem _ member)

theorem Inv.publish (inv : Inv system)
    (publishing : system.flush = .publishing (checkpoint :: rest)) :
    Inv (system.publish checkpoint rest) := by
  have hnodup := inv.flush_nodup
  rw [publishing] at hnodup
  have hmember : checkpoint ∈ system.flush.pending := by
    rw [publishing]
    exact mem_append_right _ mem_cons_self
  cases hfound : system.resident checkpoint.terminalId with
  | none => exact absurd rfl (inv.not_flushed hfound checkpoint hmember)
  | some handle =>
    have haccepted : (system.publish checkpoint rest).accepted checkpoint.terminalId =
        system.accepted checkpoint.terminalId ++ [] := (append_nil _).symm
    refine inv.updateHandle hfound ?_ rfl rfl haccepted (fun _ _ => rfl) ?_ ?_ ?_ ?_
    · intro stored
      exact (commitDurable_spec stored _ _).1
    · exact (nodup_cons.mp hnodup).2
    · intro other member
      rw [publishing]
      exact mem_cons_of_mem _ member
    · intro row resident
      rw [publishing] at resident
      rw [append_nil]
      exact resident.publish hnodup (terminalId_of_resident hfound).symm
    · intro other stored row different hstored resident
      rw [publishing] at resident
      apply resident.publishOther
      rw [terminalId_of_resident hstored]
      exact different.symm

theorem Inv.crash (inv : Inv system) : Inv system.crash where
  resident_nodup := nodup_nil
  flush_nodup := nodup_nil
  flush_resident := by
    intro terminalId member
    cases member
  terminal := by
    intro terminalId
    have hterminal := inv.terminal terminalId
    cases hknown : getTerminal system.store terminalId with
    | none =>
      have haccepted : system.crash.accepted terminalId = system.accepted terminalId := by
        simp only [System.crash, hknown]
      refine ⟨?_, ?_, ?_, ?_⟩
      · intro _
        rw [haccepted]
        exact ⟨rfl, (hterminal.absent hknown).2⟩
      · intro row hrow
        exact absurd (hknown.symm.trans hrow) (by simp)
      · intro row hrow
        exact absurd (hknown.symm.trans hrow) (by simp)
      · intro handle hfound
        cases hfound
    | some row =>
      have haccepted : system.crash.accepted terminalId =
          (system.accepted terminalId).take row.durableOffset := by
        simp only [System.crash, hknown]
      obtain ⟨⟨segments, hperm, htiles⟩, hbound⟩ := hterminal.stored row hknown
      have hlength : ((system.accepted terminalId).take row.durableOffset).length =
          row.durableOffset := by
        rw [length_take, Nat.min_eq_left hbound]
      refine ⟨?_, ?_, ?_, ?_⟩
      · intro hnone
        exact absurd (hnone.symm.trans hknown) (by simp)
      · intro stored hstored
        cases hknown.symm.trans hstored
        rw [haccepted, hlength]
        exact ⟨⟨segments, hperm, htiles.take hbound⟩, Nat.le_refl _⟩
      · intro stored hstored _
        cases hknown.symm.trans hstored
        rw [haccepted, hlength]
      · intro handle hfound
        cases hfound

theorem Inv.step {next : System} {action : Action} (inv : Inv system)
    (taken : step system action = some next) : Inv next := by
  cases step_stepped taken with
  | inserts => exact inv.insertTerminal _ _ _ _ _ _ _ _ _
  | loads => exact inv.load _ _
  | applies terminalId op handle found => exact inv.applyOp found op
  | begins order idle complete => exact inv.flushBegin idle complete
  | takes terminalId remaining pending taking => exact inv.flushTake taking
  | took pending taking =>
    cases pending with
    | nil => exact inv.toIdle (by rw [taking]; rfl)
    | cons => exact inv.toCommitting taking
  | commits pending store committing committed =>
    obtain ⟨other, hcommit, hinv⟩ := inv.commit committing
    cases committed.symm.trans hcommit
    exact hinv
  | refuses pending error committing refused => exact inv
  | fails retry pending committing =>
    cases retry with
    | false => exact inv.toIdle (by rw [committing]; rfl)
    | true =>
      rw [if_pos rfl, ← committing]
      exact inv
  | publishes checkpoint rest publishing => exact inv.publish publishing
  | published publishing => exact inv.toIdle (by rw [publishing]; rfl)
  | crashes => exact inv.crash

theorem Inv.recover (inv : Inv system)
    (known : getTerminal system.store terminalId = some row) (capacity : Nat) :
    (system.crash.load terminalId capacity).resident terminalId =
      some (fromRow row capacity
        (slice (system.accepted terminalId) row.earliestOffset row.durableOffset)) := by
  have hcrashed : getTerminal system.crash.store terminalId = some row := known
  have haccepted : system.crash.accepted terminalId =
      (system.accepted terminalId).take row.durableOffset := by
    simp only [System.crash, known]
  have hrowId : row.terminalId = terminalId := key_of_lookup known
  rw [inv.crash.load_eq hcrashed rfl capacity, haccepted, slice_take _ (Nat.le_refl _)]
  unfold System.resident
  rw [Library.lookup_append, Library.lookup_cons]
  exact if_pos hrowId

theorem fromRow_recovered (capacity : Nat)
    (order : row.earliestOffset ≤ row.durableOffset) (bound : row.durableOffset ≤ stream.length) :
    let stored := slice stream row.earliestOffset row.durableOffset
    let handle := fromRow row capacity stored
    handle.inner.nextOffset = row.durableOffset ∧
      handle.inner.ring.endOffset = row.durableOffset ∧
      handle.inner.durableOffset = row.durableOffset ∧
      handle.inner.ring.capacity = max capacity 1 ∧
      handle.inner.ring.buf = stored.drop (stored.length - max capacity 1) := by
  intro stored handle
  have hlength : stored.length = row.durableOffset - row.earliestOffset := length_slice bound
  obtain ⟨hearliest, hbuf, hcapacity⟩ := fromRetained_eq capacity row.earliestOffset stored
  have hend : handle.inner.ring.endOffset = row.durableOffset := by
    change (fromRetained capacity row.earliestOffset stored).endOffset = row.durableOffset
    unfold endOffset
    rw [hearliest, hbuf, length_drop]
    omega
  refine ⟨?_, hend, rfl, hcapacity, hbuf⟩
  change max handle.inner.ring.endOffset row.durableOffset = row.durableOffset
  rw [hend, Nat.max_self]

theorem Inv.run {actions : List Action}
    (taken : run Relay.step System.initial actions = some system) : Inv system :=
  run_invariant (fun _ _ _ inv hstep => inv.step hstep) Inv.initial taken

/-- Whatever was appended, resized, taken, committed, retried or lost in a crash,
the stored rows of a terminal tile exactly the range its row publishes, with the
bytes accepted there.  Loading them never meets a gap, and a crash at this point
recovers the last committed offset with the newest stored bytes that fit. -/
theorem stored_output_tiles_and_recovers {actions : List Action} {system : System}
    {terminalId : Uuid} {row : TerminalRow}
    (taken : Library.run step System.initial actions = some system)
    (known : getTerminal system.store terminalId = some row) :
    (∃ segments, (segmentsOf system.store terminalId).Perm segments ∧
      Tiles (system.accepted terminalId) row.earliestOffset segments row.durableOffset) ∧
    loadTerminalOutput system.store terminalId row.earliestOffset =
      .ok (slice (system.accepted terminalId) row.earliestOffset row.durableOffset) ∧
    ∀ capacity, ∃ recovered handle,
      Library.run step system [.crash, .load terminalId capacity] = some recovered ∧
      recovered.resident terminalId = some handle ∧
      handle.inner.nextOffset = row.durableOffset ∧
      handle.inner.ring.endOffset = row.durableOffset ∧
      handle.inner.durableOffset = row.durableOffset ∧
      handle.inner.ring.capacity = max capacity 1 ∧
      handle.inner.ring.buf =
        (slice (system.accepted terminalId) row.earliestOffset row.durableOffset).drop
          (row.durableOffset - row.earliestOffset - max capacity 1) := by
  have hinv := Inv.run taken
  obtain ⟨htiled, hbound⟩ := (hinv.terminal terminalId).stored row known
  refine ⟨htiled, loadTerminalOutput_ok htiled, ?_⟩
  intro capacity
  obtain ⟨_, _, htiles⟩ := htiled
  have hrecovered := fromRow_recovered capacity htiles.le hbound
  dsimp only at hrecovered
  rw [length_slice hbound] at hrecovered
  exact ⟨_, _, rfl, hinv.recover known capacity, hrecovered⟩

/-- An oversized frame, a failed attempt, a retry, output during the commit and a
crash before the handle learns of it. -/
def recoveryRun : List Action :=
  [.insertTerminal 7 1 "owner" "shell" "shell" none none none true, .load 7 8,
    .handle 7 (.append 0 [1, 2, 3] 8), .flushBegin [7], .flushTake, .flushTake, .flushCommit,
    .flushPublish, .flushPublish, .handle 7 (.append 3 [4, 5, 6, 7, 8] 4), .flushBegin [7], .flushTake,
    .flushTake, .flushFail true, .handle 7 (.append 8 [9] 4), .flushCommit, .crash, .load 7 2]

theorem stored_output_tiles_after_recoveryRun :
    ∃ system row, Library.run step System.initial recoveryRun = some system ∧
      getTerminal system.store 7 = some row ∧ row.earliestOffset = 4 ∧ row.durableOffset = 8 ∧
      loadTerminalOutput system.store 7 row.earliestOffset =
        .ok (slice (system.accepted 7) row.earliestOffset row.durableOffset) :=
  ⟨_, _, rfl, rfl, rfl, rfl, (stored_output_tiles_and_recovers
    (show Library.run step System.initial recoveryRun = some _ from rfl) rfl).2.1⟩

/-- A terminal in memory replays what was accepted, as far back as its ring goes, and no more. -/
theorem replay_of_accepted {actions : List Action}
    (taken : Library.run step System.initial actions = some system)
    (found : system.resident terminalId = some handle) (lo hi : Nat) :
    handle.inner.ring.readRange lo hi =
      if lo ≤ hi ∧ handle.inner.ring.earliestOffset ≤ lo ∧ hi ≤ handle.inner.nextOffset then
        some (slice (system.accepted terminalId) lo hi)
      else none := by
  obtain ⟨row, -, hresident⟩ := ((Inv.run taken).terminal terminalId).resident handle found
  have hend := hresident.exposes.endOffset_eq
  rw [hresident.nextOffset_eq]
  split
  · rename_i inside
    exact hresident.exposes.readRange inside.1 inside.2.1 inside.2.2
  · rename_i outside
    rw [Ring.readRange, hend]
    exact if_pos (by omega)

theorem replay_after_recoveryRun : ∃ system handle,
    Library.run step System.initial recoveryRun = some system ∧
      system.resident 7 = some handle ∧
      handle.inner.ring.readRange 6 8 = some (slice (system.accepted 7) 6 8) ∧
      handle.inner.ring.readRange 5 8 = none := by
  have hreplay := replay_of_accepted
    (show Library.run step System.initial recoveryRun = some _ from rfl)
    (show System.resident _ 7 = some _ from rfl)
  exact ⟨_, _, rfl, rfl, (hreplay 6 8).trans (if_pos (by decide)),
    (hreplay 5 8).trans (if_neg (by decide))⟩

end Hypeterm.Relay
