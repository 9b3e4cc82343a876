import Hypeterm.Relay.Loading

/-! Handles and rows agree. -/
namespace Hypeterm.Relay

open Library List TerminalHandle
open Db

variable {handle : TerminalHandle} {system : System}

theorem acceptedBytes_of_not_opened (stopped : handle.inner.lifecycle ≠ .opened) (op : HandleOp) :
    handle.acceptedBytes op = [] := by
  cases op with
  | append expectedOffset payload capacity =>
    exact (append_refused (Or.inr stopped) payload capacity).2
  | shrinkToCapacity | resize | updateMetadata | nextInputSequence | subscribe | unsubscribe
  | beginClose | terminateSubscribers | receive | release | dropReceiver => rfl

theorem takeCheckpoint_of_settled {reason : String}
    (closed : handle.inner.lifecycle = .closed reason)
    (clean : handle.inner.durableOffset = handle.inner.nextOffset) :
    handle.takeCheckpoint = none := by
  unfold takeCheckpoint
  dsimp only
  rw [closed, if_pos ⟨clean.ge, rfl⟩]

/-- A retired handle is out of every checkpoint, a close commits everything accepted, and an
open handle has an open row. -/
structure Settled (system : System) : Prop where
  clean : ∀ terminalId handle, system.resident terminalId = some handle →
    handle.inner.retired = true → handle.inner.durableOffset = handle.inner.nextOffset
  free : ∀ terminalId handle, system.resident terminalId = some handle →
    handle.inner.retired = true →
    ∀ checkpoint ∈ system.flush.pending, checkpoint.terminalId ≠ terminalId
  target : ∀ checkpoint ∈ system.flush.pending, ∀ reason, checkpoint.closeReason = some reason →
    ∀ handle, system.resident checkpoint.terminalId = some handle →
      checkpoint.durableTarget = handle.inner.nextOffset
  opened : ∀ terminalId handle row, system.resident terminalId = some handle →
    getTerminal system.store terminalId = some row → handle.inner.lifecycle = .opened →
    row.state = .opened

theorem Settled.initial : Settled System.initial where
  clean := fun _ _ found => nomatch found
  free := fun _ _ found => nomatch found
  target := fun _ member => nomatch member
  opened := fun _ _ _ found => nomatch found

theorem apply_offsets {stream : Bytes}
    (exposes : handle.inner.ring.Exposes stream) (stopped : handle.inner.lifecycle ≠ .opened)
    (op : HandleOp) :
    (handle.apply op).inner.nextOffset = handle.inner.nextOffset ∧
      (handle.apply op).inner.durableOffset = handle.inner.durableOffset := by
  have hgrows := apply_grows exposes op
  rw [acceptedBytes_of_not_opened stopped op] at hgrows
  exact ⟨hgrows.nextOffset_eq, hgrows.durableOffset_eq⟩

theorem Shape.published_alone (shape : Shape system)
    {checkpoint : PendingCheckpoint} {rest : List PendingCheckpoint}
    (publishing : system.flush = .publishing (checkpoint :: rest)) :
    ∀ other ∈ (FlushPhase.publishing rest).pending, other.terminalId ≠ checkpoint.terminalId := by
  intro other member heq
  have hnodup := shape.flush_nodup
  rw [publishing] at hnodup
  apply (nodup_cons.mp hnodup).1
  rw [← heq]
  exact mem_map_of_mem member

theorem publishing_mem_pending {checkpoint : PendingCheckpoint} {rest : List PendingCheckpoint}
    (publishing : system.flush = .publishing (checkpoint :: rest)) :
    checkpoint ∈ system.flush.pending := by
  rw [publishing]
  exact mem_append_right _ mem_cons_self

section Lives

variable {system next : System} {action : Action} {terminalId : Uuid}
  {before after : TerminalHandle}

section

variable (settled : Settled system)
include settled

theorem Settled.clean_lives (inv : Inv system) (shape : Shape system)
    (found : system.resident terminalId = some before)
    (lives : Lives system next terminalId before after) (retired : after.inner.retired = true) :
    after.inner.durableOffset = after.inner.nextOffset := by
  obtain ⟨row, hrow, hresident⟩ := (inv.terminal terminalId).resident before found
  cases lives with
  | same heq =>
    subst heq
    exact settled.clean terminalId after found retired
  | apply op heq =>
    subst heq
    rw [(apply_lifecycle before op).1] at retired
    obtain ⟨reason, hclosed⟩ := shape.retired terminalId before found retired
    obtain ⟨hnext, hdurable⟩ := apply_offsets hresident.exposes (by simp [hclosed]) op
    rw [hnext, hdurable]
    exact settled.clean terminalId before found retired
  | publish checkpoint rest hflush hnext hown heq =>
    subst heq
    have hmember := publishing_mem_pending hflush
    obtain ⟨_, _, hnextOffset, hdurable⟩ :=
      commitDurable_spec before checkpoint.durableTarget checkpoint.closeReason
    rw [hnextOffset, hdurable]
    cases hreason : checkpoint.closeReason with
    | some reason =>
      have htarget := settled.target checkpoint hmember reason hreason before (hown ▸ found)
      rw [htarget]
      exact Nat.max_eq_right (inv.ordered found).durable_le_next
    | none =>
      rw [(commitDurable_lifecycle before _ _).2, hreason] at retired
      exact absurd hown (settled.free terminalId before found retired checkpoint hmember)

theorem Settled.free_lives (shape : Shape system) (taken : Relay.step system action = some next)
    (found : system.resident terminalId = some before)
    (lives : Lives system next terminalId before after) (retired : after.inner.retired = true)
    {checkpoint : PendingCheckpoint} (member : checkpoint ∈ next.flush.pending) :
    checkpoint.terminalId ≠ terminalId := by
  intro hsame
  -- A retired handle had no checkpoint and gives none.
  have hbefore : before.inner.retired = true → False := by
    intro hretired
    rcases pending_step taken member with hold | ⟨holder, holderId, hholder, htake⟩
    · exact settled.free terminalId before found hretired checkpoint hold hsame
    · have hid : holderId = terminalId := by
        rw [← terminalId_of_resident hholder, ← (takeCheckpoint_fields htake).1, hsame]
      subst hid
      cases hholder.symm.trans found
      obtain ⟨reason, hclosed⟩ := shape.retired holderId before found hretired
      rw [takeCheckpoint_of_settled hclosed (settled.clean holderId before found hretired)] at htake
      cases htake
  cases lives with
  | same heq =>
    subst heq
    exact hbefore retired
  | apply op heq =>
    subst heq
    rw [(apply_lifecycle before op).1] at retired
    exact hbefore retired
  | publish published rest hflush hnext hown heq =>
    rw [hnext] at member
    exact shape.published_alone hflush checkpoint member (hsame.trans hown.symm)

theorem Settled.target_lives (inv : Inv system) (shape : Shape system)
    (taken : Relay.step system action = some next) {checkpoint : PendingCheckpoint}
    (found : system.resident checkpoint.terminalId = some before)
    (lives : Lives system next checkpoint.terminalId before after)
    (member : checkpoint ∈ next.flush.pending) {reason : String}
    (closing : checkpoint.closeReason = some reason) :
    checkpoint.durableTarget = after.inner.nextOffset := by
  obtain ⟨row, hrow, hresident⟩ := (inv.terminal _).resident before found
  -- Both an old checkpoint and a new one stop at what the closing handle has accepted.
  have htarget : checkpoint.durableTarget = before.inner.nextOffset ∧
      before.inner.lifecycle = .closing reason := by
    rcases pending_step taken member with hold | ⟨holder, holderId, hholder, htake⟩
    · refine ⟨settled.target checkpoint hold reason closing before found, ?_⟩
      obtain ⟨holder, hholder, hclosing⟩ := shape.closing checkpoint hold reason closing
      cases found.symm.trans hholder
      exact hclosing
    · have hid : holderId = checkpoint.terminalId := by
        rw [← terminalId_of_resident hholder, ← (takeCheckpoint_fields htake).1]
      subst hid
      cases hholder.symm.trans found
      exact ⟨(takeCheckpoint_fields htake).2.1, takeCheckpoint_closing htake closing⟩
  cases lives with
  | same heq =>
    subst heq
    exact htarget.1
  | apply op heq =>
    subst heq
    rw [(apply_offsets hresident.exposes (by simp [htarget.2]) op).1]
    exact htarget.1
  | publish published rest hflush hnext hown heq =>
    rw [hnext] at member
    exact absurd hown.symm (shape.published_alone hflush checkpoint member)

theorem Settled.opened_lives (shape : Shape system) (taken : Relay.step system action = some next)
    (found : system.resident terminalId = some before)
    (lives : Lives system next terminalId before after) {row : TerminalRow}
    (known : getTerminal next.store terminalId = some row)
    (opened : after.inner.lifecycle = .opened) : row.state = .opened := by
  have hbefore : before.inner.lifecycle = .opened := by
    cases lives with
    | same heq =>
      subst heq
      exact opened
    | apply op heq =>
      subst heq
      rcases (apply_lifecycle before op).2 with hkept | ⟨reason, _, hopened, _⟩
      · exact hkept.symm.trans opened
      · exact hopened
    | publish published rest hflush hnext hown heq =>
      subst heq
      rw [(commitDurable_lifecycle before _ _).1] at opened
      cases hreason : published.closeReason with
      | none =>
        rw [hreason] at opened
        exact opened
      | some reason =>
        rw [hreason] at opened
        cases opened
  obtain ⟨stored, hstored⟩ := shape.known terminalId before found
  have hopen := settled.opened terminalId before stored found hstored hbefore
  obtain ⟨later, hlater, hstate⟩ := shape.stays_open taken hstored (by
    intro handle hhandle
    cases found.symm.trans hhandle
    exact hbefore)
  cases known.symm.trans hlater
  rw [hstate, hopen]

end

end Lives

theorem Settled.step {next : System} {action : Action} (settled : Settled system)
    (inv : Inv system) (shape : Shape system) (taken : Relay.step system action = some next)
    (unloaded : ∀ terminalId capacity, action ≠ .load terminalId capacity) : Settled next := by
  by_cases hcrash : action = .crash
  · subst hcrash
    cases taken
    exact {
      clean := fun _ _ found => nomatch found
      free := fun _ _ found => nomatch found
      target := fun _ member => nomatch member
      opened := fun _ _ _ found => nomatch found }
  have hlives : ∀ terminalId after, next.resident terminalId = some after →
      ∃ before, system.resident terminalId = some before ∧
        Lives system next terminalId before after := by
    intro terminalId after hafter
    rcases resident_of_next taken hafter with ⟨before, hbefore⟩ | ⟨capacity, hload, _⟩
    · obtain ⟨later, hlater, lives⟩ := step_lives taken hcrash hbefore
      cases hafter.symm.trans hlater
      exact ⟨before, hbefore, lives⟩
    · exact absurd hload (unloaded terminalId capacity)
  constructor
  · intro terminalId after hafter hretired
    obtain ⟨before, hbefore, lives⟩ := hlives terminalId after hafter
    exact settled.clean_lives inv shape hbefore lives hretired
  · intro terminalId after hafter hretired checkpoint member hsame
    obtain ⟨before, hbefore, lives⟩ := hlives terminalId after hafter
    exact settled.free_lives shape taken hbefore lives hretired member hsame
  · intro checkpoint member reason hreason after hafter
    obtain ⟨before, hbefore, lives⟩ := hlives _ after hafter
    exact settled.target_lives inv shape taken hbefore lives member hreason
  · intro terminalId after row hafter hrow hopened
    obtain ⟨before, hbefore, lives⟩ := hlives terminalId after hafter
    exact settled.opened_lives shape taken hbefore lives hrow hopened

theorem FlushPhase.taken_strike (flush : FlushPhase) (gone : Uuid → Bool) :
    (flush.strike gone).taken = flush.taken ∧ (flush.strike gone).committed = flush.committed := by
  cases flush <;> exact ⟨rfl, rfl⟩

theorem evictable_retired (evictable : handle.evictable = true) : handle.inner.retired = true := by
  unfold TerminalHandle.evictable at evictable
  simp only [Bool.and_eq_true] at evictable
  exact evictable.1.1

theorem FlushPhase.mem_strike {flush : FlushPhase} {gone : Uuid → Bool} {terminalId : Uuid}
    (member : terminalId ∈ (flush.strike gone).terminalIds) :
    terminalId ∈ flush.terminalIds ∧
      (gone terminalId = false ∨ ∃ checkpoint ∈ flush.pending, checkpoint.terminalId = terminalId) := by
  have hold := (FlushPhase.terminalIds_strike flush gone).mem member
  refine ⟨hold, ?_⟩
  cases flush with
  | idle => cases member
  | taking remaining pending =>
    rcases mem_append.mp member with hremaining | hpending
    · left
      simpa using (mem_filter.mp hremaining).2
    · obtain ⟨checkpoint, hcheckpoint, hid⟩ := mem_map.mp hpending
      exact .inr ⟨checkpoint, mem_append_left _ hcheckpoint, hid⟩
  | committing pending =>
    obtain ⟨checkpoint, hcheckpoint, hid⟩ := mem_map.mp member
    exact .inr ⟨checkpoint, mem_append_left _ hcheckpoint, hid⟩
  | publishing pending =>
    obtain ⟨checkpoint, hcheckpoint, hid⟩ := mem_map.mp member
    exact .inr ⟨checkpoint, mem_append_right _ hcheckpoint, hid⟩

theorem Inv.evictRetired (inv : Inv system) (settled : Settled system) :
    Inv system.evictRetired := by
  have hlookup := resident_evictRetired inv.resident_nodup
  have hkept : ∀ terminalId, (∃ checkpoint ∈ system.flush.pending,
      checkpoint.terminalId = terminalId) → system.evicts terminalId = false := by
    rintro terminalId ⟨checkpoint, member, hid⟩
    unfold System.evicts
    cases hfound : system.resident terminalId with
    | none => rfl
    | some handle =>
      cases hevictable : handle.evictable with
      | false => simp [hevictable]
      | true =>
        exact absurd hid (settled.free terminalId handle hfound (evictable_retired hevictable)
          checkpoint member)
  constructor
  · exact inv.resident_nodup.sublist (filter_sublist.map _)
  · exact inv.flush_nodup.sublist (FlushPhase.terminalIds_strike _ _)
  · intro terminalId member
    obtain ⟨hold, hcases⟩ := FlushPhase.mem_strike member
    have hstays : system.evicts terminalId = false := hcases.elim id (hkept terminalId)
    by_contra hgone
    have hnone := resident_eq_none.mpr hgone
    rw [hlookup] at hnone
    cases hfound : system.resident terminalId with
    | none => exact resident_eq_none.mp hfound (inv.flush_resident terminalId hold)
    | some handle =>
      rw [hfound] at hnone
      unfold System.evicts at hstays
      rw [hfound] at hstays
      simp only [Option.any_some] at hstays
      simp [hstays] at hnone
  · intro terminalId
    have hterminal := inv.terminal terminalId
    have hflush : ∀ handle row, Resident system.flush handle row (system.accepted terminalId) →
        Resident system.evictRetired.flush handle row (system.accepted terminalId) := by
      intro handle row resident
      obtain ⟨htaken, hcommitted⟩ := FlushPhase.taken_strike system.flush system.evicts
      apply resident.weaken
      · intro checkpoint member
        exact htaken ▸ member
      · exact hcommitted
    cases hfound : system.resident terminalId with
    | none =>
      refine hterminal.congr ⟨rfl, rfl⟩ ?_ rfl fun handle row _ => hflush handle row
      rw [hlookup, hfound, Option.filter_none]
    | some handle =>
      cases hevictable : handle.evictable with
      | false =>
        refine hterminal.congr ⟨rfl, rfl⟩ ?_ rfl fun handle row _ => hflush handle row
        rw [hlookup, hfound]
        simp [hevictable]
      | true =>
        have hretired := evictable_retired hevictable
        obtain ⟨row, hrow, hresident⟩ := hterminal.resident handle hfound
        have hgone : system.evictRetired.resident terminalId = none := by
          rw [hlookup, hfound]
          simp [hevictable]
        refine ⟨?_, hterminal.stored, ?_, ?_⟩
        · intro hnone
          exact absurd (hnone.symm.trans hrow) (by simp)
        · intro stored hstored _
          cases hrow.symm.trans hstored
          change row.durableOffset = (system.accepted terminalId).length
          rw [← hresident.nextOffset_eq, ← settled.clean terminalId handle hfound hretired]
          apply hresident.durable_eq
          intro checkpoint member
          rw [terminalId_of_resident hfound]
          exact settled.free terminalId handle hfound hretired checkpoint
            (mem_append_right _ member)
        · intro other hother
          cases hgone.symm.trans hother

theorem Settled.evictRetired (settled : Settled system)
    (nodup : (system.terminals.map TerminalHandle.terminalId).Nodup) :
    Settled system.evictRetired := by
  have hresident : ∀ terminalId handle, system.evictRetired.resident terminalId = some handle →
      system.resident terminalId = some handle := by
    intro terminalId handle hfound
    rw [resident_evictRetired nodup] at hfound
    exact (Option.filter_eq_some_iff.mp hfound).1
  have hpending : system.evictRetired.flush.pending = system.flush.pending :=
    FlushPhase.pending_strike _ _
  constructor
  · exact fun terminalId handle hfound =>
      settled.clean terminalId handle (hresident terminalId handle hfound)
  · intro terminalId handle hfound
    rw [hpending]
    exact settled.free terminalId handle (hresident terminalId handle hfound)
  · intro checkpoint member reason hreason handle hfound
    rw [hpending] at member
    exact settled.target checkpoint member reason hreason handle (hresident _ handle hfound)
  · exact fun terminalId handle row hfound =>
      settled.opened terminalId handle row (hresident terminalId handle hfound)

theorem Inv.dormant_step {next : System} {action : Action} (inv : Inv system)
    (taken : Relay.step system action = some next) (running : action ≠ .crash) {terminalId : Uuid}
    (missing : system.resident terminalId = none) :
    (∀ row, getTerminal system.store terminalId = some row →
        getTerminal next.store terminalId = some row) ∧
      next.accepted terminalId = system.accepted terminalId := by
  constructor
  · intro row known
    rcases getTerminal_step taken known with hsame | ⟨pending, hcommitting, hcommitted⟩
    · exact hsame
    · have hnone : ((pending.map PendingCheckpoint.toCheckpoint).filter fun checkpoint =>
          terminalId = checkpoint.terminalId) = [] := by
        rw [filter_eq_nil_iff]
        intro checkpoint member hid
        obtain ⟨own, hown, rfl⟩ := mem_map.mp member
        refine inv.not_flushed missing own ?_ (of_decide_eq_true hid).symm
        rw [hcommitting]
        exact mem_append_left _ hown
      rw [hcommitted, hnone, foldl_nil]
  · cases step_effect taken with
    | still _ haccepted => rw [haccepted]
    | loads _ _ _ haccepted => rw [haccepted]
    | applies stored op hstored hnext =>
      subst hnext
      refine Function.update_of_ne ?_ _ _
      rintro rfl
      cases missing.symm.trans hstored
    | publishes _ _ _ hnext => rw [hnext]; rfl
    | crashes hcrash => exact absurd hcrash running

theorem Settled.insertHandle (settled : Settled system) (inv : Inv system)
    {row : TerminalRow} (known : getTerminal system.store row.terminalId = some row)
    (missing : system.resident row.terminalId = none) (capacity : Nat) (retained : Bytes) :
    Settled { system with
      terminals := system.terminals ++ [fromRow row capacity retained] } := by
  have hlookup : ∀ terminalId, ({ system with
      terminals := system.terminals ++ [fromRow row capacity retained] }
        : System).resident terminalId =
      if terminalId = row.terminalId then some (fromRow row capacity retained)
      else system.resident terminalId := resident_insert missing
  constructor
  · intro terminalId handle found hretired
    rw [hlookup] at found
    split at found
    · cases found
      cases hretired
    · exact settled.clean terminalId handle found hretired
  · intro terminalId handle found hretired
    rw [hlookup] at found
    split at found
    · cases found
      cases hretired
    · exact settled.free terminalId handle found hretired
  · intro checkpoint member reason hreason handle found
    rw [hlookup, if_neg (inv.not_flushed missing checkpoint member)] at found
    exact settled.target checkpoint member reason hreason handle found
  · intro terminalId handle stored found hstored hopened
    rw [hlookup] at found
    split at found
    · rename_i hsame
      subst hsame
      cases found
      cases known.symm.trans hstored
      cases hstate : row.state with
      | opened => rfl
      | closed =>
        simp [fromRow, hstate] at hopened
    · exact settled.opened terminalId handle stored found hstored hopened

end Hypeterm.Relay

namespace Hypeterm.Relay.Opening

open Library
open Db

def rowsKept (system : System) : Action → Bool
  | .evictRetired =>
      (List.range system.nextCall).all fun id =>
        match (system.calls id).bind fun call => call.phase.row? with
        | some row => !system.relay.evicts row.terminalId ||
            getTerminal system.relay.store row.terminalId = some row
        | none => true
  | _ => true

def Inserted.Agrees (record : Inserted) : Prop :=
  ∃ row, record.stored = some row ∧
    (record.handle.inner.lifecycle = .opened → row.state = .opened) ∧
    record.handle.inner.durableOffset = row.durableOffset

/-- No resident handle contradicts the database: what was inserted agreed with its row, no
closed terminal is open in memory, and no checkpoint meets a chunk stored at its start. -/
structure Consistent (system : System) : Prop where
  inserted : ∀ record ∈ system.inserted, record.Agrees
  closed : ∀ terminalId handle row, system.relay.resident terminalId = some handle →
    getTerminal system.relay.store terminalId = some row → row.state = .closed →
    handle.inner.lifecycle ≠ .opened
  unstored : ∀ pending, system.relay.flush = .committing pending → ∀ checkpoint ∈ pending,
    ∀ stored ∈ system.relay.store.terminalOutput, stored.terminalId = checkpoint.terminalId →
      stored.startOffset ≠ checkpoint.chunkStart
  commits : ∀ pending, system.relay.flush = .committing pending →
    ∃ store, commitCheckpoints system.relay.store (pending.map PendingCheckpoint.toCheckpoint) =
      .ok store

/-- A row in a call's hands is the stored one, unless the terminal has become resident. -/
def Current (relay : Relay.System) (row : TerminalRow) : Prop :=
  relay.resident row.terminalId = none → getTerminal relay.store row.terminalId = some row

structure Fresh (system : System) : Prop where
  shape : CallShape system
  inv : Inv system.relay
  settled : Settled system.relay
  current : ∀ id call row, system.calls id = some call → call.phase.row? = some row →
    Current system.relay row
  built : ∀ id call row retained origin, system.calls id = some call →
    call.phase = .built row retained origin →
    retained = slice (system.relay.accepted row.terminalId) row.earliestOffset row.durableOffset
  inserted : ∀ record ∈ system.inserted, record.Agrees

theorem Fresh.initial : Fresh System.initial where
  shape := CallShape.initial
  inv := Inv.initial
  settled := Settled.initial
  current := fun _ _ _ found => nomatch found
  built := fun _ _ _ _ _ found => nomatch found
  inserted := fun _ member => nomatch member

variable {system next : System} {id : Nat} {call : Call} {row : TerminalRow}

theorem Fresh.put (fresh : Fresh system) (shape : CallShape next)
    (relay_eq : next.relay = system.relay)
    (inserted_eq : next.inserted = system.inserted)
    (calls_eq : next.calls = Function.update system.calls id (some call))
    (current : ∀ row, call.phase.row? = some row → Current system.relay row)
    (built : ∀ row retained origin, call.phase = .built row retained origin →
      retained = slice (system.relay.accepted row.terminalId) row.earliestOffset
        row.durableOffset) : Fresh next where
  shape := shape
  inv := relay_eq ▸ fresh.inv
  settled := relay_eq ▸ fresh.settled
  current := by
    intro other stored row hstored hrow
    rw [calls_eq, Function.update_apply] at hstored
    rw [relay_eq]
    split at hstored
    · cases hstored
      exact current row hrow
    · exact fresh.current other stored row hstored hrow
  built := by
    intro other stored row retained origin hstored hphase
    rw [calls_eq, Function.update_apply] at hstored
    rw [relay_eq]
    split at hstored
    · cases hstored
      exact built row retained origin hphase
    · exact fresh.built other stored row retained origin hstored hphase
  inserted := inserted_eq ▸ fresh.inserted

theorem Fresh.putFree (fresh : Fresh system) (shape : CallShape next)
    (relay_eq : next.relay = system.relay)
    (inserted_eq : next.inserted = system.inserted)
    (calls_eq : next.calls = Function.update system.calls id (some call))
    (free : call.phase.row? = none) : Fresh next := by
  refine fresh.put shape relay_eq inserted_eq calls_eq ?_ ?_
  · intro row hrow
    cases free.symm.trans hrow
  · intro row retained origin hphase
    rw [hphase] at free
    cases free

theorem Fresh.relayStep (fresh : Fresh system) {action : Relay.Action}
    {relay : Relay.System} (taken : Relay.step system.relay action = some relay)
    (unloaded : ∀ terminalId capacity, action ≠ .load terminalId capacity)
    (running : action ≠ .crash) : Fresh { system with relay } := by
  constructor
  · exact fresh.shape.relayStep taken unloaded
  · exact fresh.inv.step taken
  · exact fresh.settled.step fresh.inv fresh.shape.relay taken unloaded
  · intro id call row found hrow hmissing
    cases hbefore : system.relay.resident row.terminalId with
    | none =>
      exact (fresh.inv.dormant_step taken running hbefore).1 row
        (fresh.current id call row found hrow hbefore)
    | some before =>
      obtain ⟨after, hafter, _⟩ := step_lives taken running hbefore
      cases hafter.symm.trans hmissing
  · intro id call row retained origin found hphase
    have hmissing := fresh.shape.absent id call row found (by rw [hphase]; rfl)
    rw [(fresh.inv.dormant_step taken running hmissing).2]
    exact fresh.built id call row retained origin found hphase
  · exact fresh.inserted

theorem Current.of_row {relay : Relay.System} {terminalId : Uuid}
    (known : getTerminal relay.store terminalId = some row) : Current relay row := by
  intro _
  have hid : row.terminalId = terminalId := key_of_lookup known
  rw [hid, known]

section

variable (fresh : Fresh system)
include fresh

theorem Fresh.find (found : system.calls id = some call) (request : OpenRequest) {otherwise : Phase}
    (free : otherwise.row? = none) : Fresh (system.find id call request otherwise) := by
  have hshape := fresh.shape.find found request free
  unfold System.find at hshape ⊢
  split at hshape
  · rename_i existing hexisting
    refine fresh.put hshape rfl rfl rfl ?_ (fun _ _ _ hphase => nomatch hphase)
    intro row hrow
    cases hrow
    exact Current.of_row (lookup_of_mem fresh.shape.relay.distinct (List.mem_of_find?_eq_some hexisting))
  · exact fresh.putFree hshape rfl rfl rfl free

theorem Fresh.count (maxTerminals : Nat)
    (found : system.calls id = some call) (request : OpenRequest) :
    Fresh (system.count maxTerminals id call request) := by
  have hshape := fresh.shape.count maxTerminals found request
  rcases count_cases maxTerminals system id call request with ⟨message, hcount⟩ | ⟨_, hcount⟩
  · rw [hcount] at hshape ⊢
    exact fresh.putFree hshape rfl rfl rfl rfl
  · rw [hcount] at hshape ⊢
    exact fresh.putFree hshape rfl rfl rfl rfl

section

variable (found : system.calls id = some call)
include found

theorem Fresh.insert (request : OpenRequest) (freshId : Uuid) :
    Fresh (system.insert id call request freshId) := by
  have hshape := fresh.shape.insert found request freshId
  unfold System.insert at hshape ⊢
  split at hshape
  · rename_i row store hinserted
    have hstep : Relay.step system.relay (.insertTerminal freshId request.deviceId
        request.identityId request.localRef request.label request.cols request.rows request.term
        request.acceptsInput) = some { system.relay with store } := by
      simp only [Relay.step, Relay.System.insertTerminal, hinserted]
    have hstored := fresh.relayStep hstep (by simp) (by simp)
    refine hstored.put hshape rfl rfl rfl ?_ (by simp)
    intro other hother
    cases hother
    obtain ⟨hnone, hid, _, _, _, rfl⟩ := insertTerminal_ok hinserted
    apply Current.of_row
    rw [getTerminal_concat, hnone, if_pos hid, Option.none_or]
  · exact fresh.putFree hshape rfl rfl rfl rfl

theorem Fresh.insertHandle {retained : Bytes} {origin : Origin}
    (built : call.phase = .built row retained origin) :
    Fresh (system.insertHandle id call row retained origin) := by
  have hmissing := fresh.shape.absent id call row found (by rw [built]; rfl)
  have hknown := fresh.current id call row found (by rw [built]; rfl) hmissing
  have hretained := fresh.built id call row retained origin found built
  have hshape := fresh.shape.insertHandle found built
  have hinv := fresh.inv.load row.terminalId call.capacity
  rw [fresh.inv.load_eq hknown hmissing, ← hretained] at hinv
  have hsettled := fresh.settled.insertHandle fresh.inv hknown hmissing call.capacity retained
  have hresident : ∀ terminalId, ({ system.relay with terminals := system.relay.terminals ++
      [TerminalHandle.fromRow row call.capacity retained] } : Relay.System).resident terminalId =
      none → system.relay.resident terminalId = none := by
    intro terminalId hnone
    rw [resident_insert hmissing] at hnone
    split at hnone
    · cases hnone
    · exact hnone
  unfold System.insertHandle at hshape ⊢
  rw [filter_of_missing hmissing] at hshape ⊢
  refine ⟨hshape, hinv, hsettled, ?_, ?_, ?_⟩
  · intro other stored otherRow hstored hrow hnone
    change Function.update system.calls id _ other = _ at hstored
    rw [Function.update_apply] at hstored
    split at hstored
    · cases hstored
      cases hrow
    · exact fresh.current other stored otherRow hstored hrow (hresident _ hnone)
  · intro other stored otherRow kept otherOrigin hstored hphase
    change Function.update system.calls id _ other = _ at hstored
    rw [Function.update_apply] at hstored
    split at hstored
    · cases hstored
      cases hphase
    · exact fresh.built other stored otherRow kept otherOrigin hstored hphase
  · intro record member
    rcases List.mem_append.mp member with hold | hnew
    · exact fresh.inserted record hold
    · cases List.mem_singleton.mp hnew
      refine ⟨row, hknown, ?_, rfl⟩
      intro hopened
      refine hsettled.opened row.terminalId _ row ?_ hknown hopened
      rw [resident_insert hmissing]
      exact if_pos rfl

theorem Fresh.finish (row : TerminalRow) (origin : Origin)
    {handle : TerminalHandle} {resident : Bool}
    (present : resident = true → system.relay.resident handle.terminalId = some handle) :
    Fresh (system.finish id call row origin handle resident) := by
  have hshape := fresh.shape.finish found row origin present
  unfold System.finish at hshape ⊢
  split at hshape
  · exact fresh.putFree hshape rfl rfl rfl rfl
  · dsimp only at hshape ⊢
    split at hshape
    · rename_i hrefresh
      have hfound := present (Bool.and_eq_true_iff.mp hrefresh).2
      have hstep : Relay.step system.relay (.handle handle.terminalId
          (.updateMetadata (some row.label) row.cols row.rows row.term)) =
          some (system.relay.applyOp handle
            (.updateMetadata (some row.label) row.cols row.rows row.term)) := by
        simp only [Relay.step, hfound, Option.map_some]
      rw [if_pos hrefresh]
      exact (fresh.relayStep hstep (by simp) (by simp)).putFree hshape rfl rfl rfl rfl
    · rename_i hrefresh
      rw [if_neg hrefresh]
      exact fresh.putFree hshape rfl rfl rfl rfl

theorem Fresh.proceed {maxTerminals : Nat} {freshId : Uuid}
    (taken : system.proceed maxTerminals id call freshId = some next) : Fresh next := by
  have hshape := fresh.shape.proceed found taken
  have hcurrent : ∀ row, call.phase.row? = some row → Current system.relay row :=
    fun row => fresh.current id call row found
  cases proceed_proceeded taken with
  | finds | refinds => exact fresh.find found _ rfl
  | counts => exact fresh.count maxTerminals found _
  | inserts => exact fresh.insert found _ freshId
  | looks | misses | unknown | obtains | releases | corrupt =>
    exact fresh.putFree hshape rfl rfl rfl rfl
  | reads terminalId row phase_eq known =>
    refine fresh.put hshape rfl rfl rfl ?_ (by simp)
    intro other hother
    cases hother
    exact Current.of_row known
  | waits row origin phase_eq | acquires row origin phase_eq | loads row origin phase_eq =>
    rw [phase_eq] at hcurrent
    exact fresh.put hshape rfl rfl rfl hcurrent (by simp)
  | builds row origin retained phase_eq loaded =>
    -- A current row has the output that the handle must start from.
    have hmissing := fresh.shape.absent id call row found (by rw [phase_eq]; rfl)
    rw [phase_eq] at hcurrent
    have hstored := loadTerminalOutput_ok
      ((fresh.inv.terminal row.terminalId).stored row (hcurrent row rfl hmissing)).1
    cases loaded.symm.trans hstored
    refine fresh.put hshape rfl rfl rfl hcurrent ?_
    intro other retained otherOrigin hphase
    cases hphase
    rfl
  | attaches row retained origin phase_eq => exact fresh.insertHandle found phase_eq
  | finishesEvicted => exact fresh.finish found _ _ nofun
  | finishes row origin handle phase_eq hfound =>
    refine fresh.finish found _ _ fun _ => ?_
    rw [terminalId_of_resident hfound, hfound]

end

end

theorem rowsKept_evicts (shape : CallShape system) (kept : rowsKept system .evictRetired = true)
    (found : system.calls id = some call) (held : call.phase.row? = some row) :
    system.relay.evicts row.terminalId = false ∨
      getTerminal system.relay.store row.terminalId = some row := by
  have hid := List.all_eq_true.mp kept id (List.mem_range.mpr (shape.below id call found))
  simp only [found, Option.bind_some, held, Bool.or_eq_true, Bool.not_eq_true',
    decide_eq_true_eq] at hid
  exact hid

theorem Fresh.evictRetired (fresh : Fresh system)
    (kept : rowsKept system .evictRetired = true) : Fresh system.evictRetired := by
  have hcall : ∀ id call, system.evictRetired.calls id = some call →
      ∃ before, system.calls id = some before ∧ call.phase.row? = before.phase.row? ∧
        ∀ row retained origin, call.phase = .built row retained origin →
          before.phase = .built row retained origin := by
    intro id call hcall
    obtain ⟨before, hbefore, rfl⟩ := Option.map_eq_some_iff.mp hcall
    refine ⟨before, hbefore, ?_⟩
    unfold System.keepEvicted
    split
    · rename_i hphase
      rw [hphase]
      exact ⟨rfl, fun _ _ _ hphase => nomatch hphase⟩
    · exact ⟨rfl, fun _ _ _ hphase => hphase⟩
  refine ⟨fresh.shape.evictRetired, fresh.inv.evictRetired fresh.settled,
    fresh.settled.evictRetired fresh.inv.resident_nodup, ?_, ?_, fresh.inserted⟩
  · intro id call row found hrow hmissing
    obtain ⟨before, hbefore, hsame, _⟩ := hcall id call found
    rw [hsame] at hrow
    rcases rowsKept_evicts fresh.shape kept hbefore hrow with hstays | hstored
    · apply fresh.current id before row hbefore hrow
      change system.relay.evictRetired.resident row.terminalId = none at hmissing
      rw [resident_evictRetired fresh.inv.resident_nodup] at hmissing
      unfold Relay.System.evicts at hstays
      cases hresident : system.relay.resident row.terminalId with
      | none => rfl
      | some handle =>
        rw [hresident] at hmissing hstays
        simp only [Option.any_some] at hstays
        simp [hstays] at hmissing
    · exact hstored
  · intro id call row retained origin found hphase
    obtain ⟨before, hbefore, _, hbuilt⟩ := hcall id call found
    exact fresh.built id before row retained origin hbefore (hbuilt row retained origin hphase)

theorem Fresh.step {maxTerminals : Nat} {action : Action}
    (fresh : Fresh system) (taken : Opening.step maxTerminals system action = some next)
    (kept : rowsKept system action = true) : Fresh next := by
  have hshape := fresh.shape.step taken
  cases step_stepped taken with
  | opens | loads | fails | retries | abandons => exact fresh.putFree hshape rfl rfl rfl rfl
  | proceeds id freshId call found proceeds => exact fresh.proceed found proceeds
  | evicts => exact fresh.evictRetired kept
  | relays action relay allowed running hstep =>
    exact fresh.relayStep hstep (not_load_of_permitted allowed) running
  | crashes relay hstep =>
    exact {
      shape := hshape
      inv := fresh.inv.step hstep
      settled := fresh.settled.step fresh.inv fresh.shape.relay hstep nofun
      current := by
        intro _ _ _ found
        cases found
      built := by
        intro _ _ _ _ _ found
        cases found
      inserted := fresh.inserted }

theorem Fresh.consistent (fresh : Fresh system) : Consistent system where
  inserted := fresh.inserted
  closed := by
    intro terminalId handle row hfound hrow hclosed hopened
    cases hclosed.symm.trans (fresh.settled.opened terminalId handle row hfound hrow hopened)
  unstored := by
    intro pending hcommitting checkpoint member stored hstored hid
    obtain ⟨row, hfits⟩ := fresh.inv.fits hcommitting member
    obtain ⟨segments, hperm, htiles⟩ := hfits.tiled
    have hbounds := htiles.bounds
      (hperm.mem_iff.mp (mem_segmentsOf.mpr ⟨stored, hstored, hid, rfl⟩))
    have hstart : checkpoint.chunkStart = max row.durableOffset checkpoint.earliestOffset :=
      hfits.chunkStart_eq
    have hlow : stored.startOffset < stored.endOffset := hbounds.2.1
    have hhigh : stored.endOffset ≤ row.durableOffset := hbounds.2.2
    omega
  commits := by
    intro pending hcommitting
    obtain ⟨store, hcommit, _⟩ := fresh.inv.commit hcommitting
    exact ⟨store, hcommit⟩

/-- In every run where no terminal is evicted while a call holds an outdated row of it, no
resident handle contradicts the database. -/
theorem no_resident_handle_contradicts_the_database {maxTerminals : Nat} {actions : List Action}
    {system : System}
    (taken : run (restrict (step maxTerminals) fun system action => rowsKept system action = true)
      System.initial actions = some system) : Consistent system := by
  have hfresh : Fresh system := by
    refine restrict_invariant ?_ Fresh.initial taken
    intro state action after fresh kept hstep
    exact fresh.step hstep kept
  exact hfresh.consistent

/-- Its output is written, the terminal closed, and both committed. -/
def closeSeven : List Action :=
  [.relay (.handle 7 (.append 0 [1, 2, 3] 16)), .relay (.handle 7 (.beginClose "exited")),
    .relay (.flushBegin [7]), .relay .flushTake, .relay .flushTake, .relay .flushCommit,
    .relay .flushPublish, .relay .flushPublish]

/-- A call for terminal 7 that reads its row, builds the handle and inserts it. -/
def loadSeven (call : Nat) : List Action :=
  [.proceed call 0, .proceed call 0, .proceed call 0, .proceed call 0, .proceed call 0]

def reloadedRun : List Action :=
  openSeven ++ closeSeven ++
    [Action.evictRetired, .getOrLoad 7 16, .proceed 1 0, .proceed 1 0] ++ loadSeven 1

theorem no_contradiction_in_reloadedRun :
    ∃ system handle, run (restrict (step 8) fun system action => rowsKept system action = true)
        System.initial reloadedRun = some system ∧ Consistent system ∧
      system.inserted.length = 2 ∧ system.relay.resident 7 = some handle ∧
      handle.inner.lifecycle = .closed "exited" ∧ handle.inner.durableOffset = 3 := by
  have hrun : (run (restrict (step 8) fun system action => rowsKept system action = true)
      System.initial reloadedRun).map (fun system => (system.inserted.length,
        (system.relay.resident 7).map fun handle =>
          (handle.inner.lifecycle, handle.inner.durableOffset))) =
      some (2, some (.closed "exited", 3)) := by
    decide
  obtain ⟨system, htaken, hview⟩ := Option.map_eq_some_iff.mp hrun
  obtain ⟨hlength, hresident⟩ := Prod.mk.inj hview
  obtain ⟨handle, hfound, hfields⟩ := Option.map_eq_some_iff.mp hresident
  obtain ⟨hlifecycle, hdurable⟩ := Prod.mk.inj hfields
  exact ⟨system, handle, htaken, no_resident_handle_contradicts_the_database htaken, hlength,
    hfound, hlifecycle, hdurable⟩

/-- The row is read while the terminal is open, and the handle built from it after the
close was committed and the first handle evicted. -/
def staleRowRun : List Action :=
  openSeven.take 4 ++ [Action.getOrLoad 7 16, .proceed 1 0, .proceed 1 0] ++
    openSeven.drop 4 ++ closeSeven ++ [Action.evictRetired] ++ loadSeven 1 ++
    [Action.relay (.flushBegin [7]), .relay .flushTake, .relay .flushTake]

/-- The closed terminal is open in memory, and its checkpoint fails the whole batch. -/
theorem stale_row_contradicts_the_database :
    ∃ system, run (step 8) System.initial staleRowRun = some system ∧
      (∃ record ∈ system.inserted, ¬ record.Agrees) ∧
      (∃ handle row, system.relay.resident 7 = some handle ∧
        getTerminal system.relay.store 7 = some row ∧ row.state = .closed ∧
        handle.inner.lifecycle = .opened) ∧
      ∃ pending, system.relay.flush = .committing pending ∧
        (∃ checkpoint ∈ pending, ∃ stored ∈ system.relay.store.terminalOutput,
          stored.terminalId = checkpoint.terminalId ∧
            stored.startOffset = checkpoint.chunkStart) ∧
        commitCheckpoints system.relay.store (pending.map PendingCheckpoint.toCheckpoint) =
          .error (.internal ("database error: UNIQUE constraint failed: " ++
            "terminal_output.terminal_id, terminal_output.start_offset")) := by
  have hrun : (run (step 8) System.initial staleRowRun).map (fun system =>
      (system.inserted.map fun record => (record.handle.inner.durableOffset,
        record.stored.map TerminalRow.durableOffset),
      (system.relay.resident 7).map fun handle => handle.inner.lifecycle,
      system.relay.store, system.relay.flush)) =
      some ([(0, some 0), (0, some 3)], some .opened,
        ⟨[⟨7, 1, "owner", "shell", "shell", .closed, none, none, none, true, some "exited", 3, 0⟩],
          [⟨7, 0, 3, [1, 2, 3]⟩]⟩,
        .committing [⟨7, 0, [1, 2, 3], 0, 3, none, 0⟩]) := by
    decide
  obtain ⟨system, htaken, hview⟩ := Option.map_eq_some_iff.mp hrun
  obtain ⟨hinserted, hview⟩ := Prod.mk.inj hview
  obtain ⟨hresident, hview⟩ := Prod.mk.inj hview
  obtain ⟨hstore, hflush⟩ := Prod.mk.inj hview
  obtain ⟨handle, hfound, hlifecycle⟩ := Option.map_eq_some_iff.mp hresident
  have hstale : ((0, some 3) : Nat × Option Nat) ∈ system.inserted.map fun record =>
      (record.handle.inner.durableOffset, record.stored.map TerminalRow.durableOffset) := by
    rw [hinserted]
    decide
  obtain ⟨record, hrecord, hoffsets⟩ := List.mem_map.mp hstale
  obtain ⟨hdurable, hstored⟩ := Prod.mk.inj hoffsets
  have hclosed : getTerminal system.relay.store 7 = some
      ⟨7, 1, "owner", "shell", "shell", .closed, none, none, none, true, some "exited", 3, 0⟩ := by
    rw [hstore]
    rfl
  refine ⟨system, htaken, ⟨record, hrecord, ?_⟩, ⟨handle, _, hfound, hclosed, rfl, hlifecycle⟩,
    _, hflush, ?_⟩
  · rintro ⟨row, hrow, _, hagrees⟩
    rw [hrow, Option.map_some, ← hagrees, hdurable] at hstored
    cases hstored
  · rw [hstore]
    exact ⟨⟨_, List.mem_singleton_self _, _, List.mem_singleton_self _, rfl, rfl⟩, by decide⟩

end Hypeterm.Relay.Opening
