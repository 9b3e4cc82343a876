import Hypeterm.Relay.Loading

/-! What the resident set says about the database: a closed handle has a closed row, and a closing
handle stays until its close is committed. -/
namespace Hypeterm.Relay

open Library List Option
open Db

variable {system next relay : System} {action : Action} {terminalId : Uuid} {row : TerminalRow}

theorem committed_step (taken : step system action = some next) {checkpoint : PendingCheckpoint}
    (member : checkpoint ∈ next.flush.committed) :
    checkpoint ∈ system.flush.committed ∨
      ∃ pending, system.flush = .committing pending ∧ checkpoint ∈ pending ∧
        commitCheckpoints system.store (pending.map PendingCheckpoint.toCheckpoint) =
          .ok next.store := by
  cases step_stepped taken with
  | inserts =>
    rw [flush_insertTerminal] at member
    exact .inl member
  | loads =>
    rw [flush_load] at member
    exact .inl member
  | applies | refuses => exact .inl member
  | begins | takes | published | crashes => cases member
  | took | fails =>
    split at member <;> cases member
  | commits pending store committing committed =>
    exact .inr ⟨pending, committing, member, committed⟩
  | publishes head rest publishing =>
    left
    rw [publishing]
    exact mem_cons_of_mem _ member

theorem state_foldl_of_close {batch : List TerminalCheckpoint} {checkpoint : TerminalCheckpoint}
    (member : checkpoint ∈ batch) {reason : String} (closes : checkpoint.closeReason = some reason)
    (row : TerminalRow) :
    (batch.foldl (fun row checkpoint => publishCheckpoint checkpoint row) row).state = .closed := by
  induction batch generalizing row with
  | nil => cases member
  | cons first rest ih =>
    rw [foldl_cons]
    rcases mem_cons.mp member with rfl | hrest
    · apply state_foldl
      unfold publishCheckpoint
      rw [closes]
    · exact ih hrest _

theorem closed_step (taken : Relay.step system action = some next) {later : TerminalRow}
    (known : getTerminal system.store terminalId = some row) (closed : row.state = .closed)
    (found : getTerminal next.store terminalId = some later) : later.state = .closed := by
  rcases getTerminal_step taken known with hsame | ⟨pending, _, hcommitted⟩
  · cases found.symm.trans hsame
    exact closed
  · cases found.symm.trans hcommitted
    exact state_foldl closed

/-- A handle is closed, or its close committed, only if its row is closed. -/
structure Sealed (system : System) : Prop where
  closed : ∀ terminalId handle reason row, system.resident terminalId = some handle →
    handle.inner.lifecycle = .closed reason → getTerminal system.store terminalId = some row →
    row.state = .closed
  committed : ∀ checkpoint ∈ system.flush.committed, ∀ reason row,
    checkpoint.closeReason = some reason →
    getTerminal system.store checkpoint.terminalId = some row → row.state = .closed

theorem Sealed.initial : Sealed System.initial where
  closed := fun _ _ _ _ found => nomatch found
  committed := fun _ member => nomatch member

theorem committed_of_publishing {checkpoint : PendingCheckpoint} {rest : List PendingCheckpoint}
    (publishing : system.flush = .publishing (checkpoint :: rest)) :
    checkpoint ∈ system.flush.committed := by
  rw [publishing]
  exact mem_cons_self

theorem Sealed.closed_lives (sealed : Sealed system)
    {before after : TerminalHandle} {reason : String}
    (found : system.resident terminalId = some before)
    (lives : Lives system next terminalId before after)
    (closed : after.inner.lifecycle = .closed reason)
    (known : getTerminal system.store terminalId = some row) : row.state = .closed := by
  cases lives with
  | same heq =>
    subst heq
    exact sealed.closed terminalId after reason row found closed known
  | apply op heq =>
    subst heq
    rcases (apply_lifecycle before op).2 with hkept | ⟨other, _, _, hclosing⟩
    · exact sealed.closed terminalId before reason row found (hkept.symm.trans closed) known
    · cases hclosing.symm.trans closed
  | publish checkpoint rest hflush hnext hown heq =>
    subst heq
    rw [(commitDurable_lifecycle before _ _).1] at closed
    cases hreason : checkpoint.closeReason with
    | none =>
      rw [hreason] at closed
      exact sealed.closed terminalId before reason row found closed known
    | some other =>
      rw [← hown] at known
      exact sealed.committed checkpoint (committed_of_publishing hflush) other row hreason known

theorem Sealed.step (sealed : Sealed system)
    (shape : Shape system) (taken : Relay.step system action = some next)
    (unloaded : ∀ terminalId capacity, action ≠ .load terminalId capacity)
    (running : action ≠ .crash) : Sealed next := by
  constructor
  · intro terminalId after reason row hafter hclosed hrow
    rcases resident_of_next taken hafter with ⟨before, hbefore⟩ | ⟨capacity, hload, _⟩
    · obtain ⟨later, hlater, lives⟩ := step_lives taken running hbefore
      cases hafter.symm.trans hlater
      obtain ⟨stored, hstored⟩ := shape.known terminalId before hbefore
      exact closed_step taken hstored (sealed.closed_lives hbefore lives hclosed hstored) hrow
    · exact absurd hload (unloaded terminalId capacity)
  · intro checkpoint member reason row hreason hrow
    rcases committed_step taken member with hold | ⟨pending, hcommitting, hmember, hcommit⟩
    · obtain ⟨handle, hfound, _⟩ := shape.closing checkpoint (mem_append_right _ hold) reason
        hreason
      obtain ⟨stored, hstored⟩ := shape.known _ handle hfound
      exact closed_step taken hstored (sealed.committed checkpoint hold reason stored hreason
        hstored) hrow
    · have hcommitted := getTerminal_commitCheckpoints hcommit checkpoint.terminalId
      rw [hrow] at hcommitted
      obtain ⟨stored, _, hfolded⟩ := map_eq_some_iff.mp hcommitted.symm
      rw [← hfolded]
      refine state_foldl_of_close (mem_filter.mpr ⟨List.mem_map_of_mem hmember, ?_⟩) hreason
        stored
      exact decide_eq_true rfl

theorem Sealed.evictRetired (sealed : Sealed system) (shape : Shape system) :
    Sealed system.evictRetired where
  closed := by
    intro terminalId handle reason row hfound
    rw [resident_evictRetired shape.resident_nodup] at hfound
    exact sealed.closed terminalId handle reason row (filter_eq_some_iff.mp hfound).1
  committed := by
    intro checkpoint member
    refine sealed.committed checkpoint ?_
    change checkpoint ∈ (system.flush.strike _).committed at member
    cases hflush : system.flush with
    | idle | taking | committing | publishing =>
      rw [hflush] at member
      exact member

theorem Sealed.insertHandle (sealed : Sealed system)
    (stays : StaysClosed row system.store) (missing : system.resident row.terminalId = none)
    (capacity : Nat) (retained : Bytes) :
    Sealed { system with
      terminals := system.terminals ++ [TerminalHandle.fromRow row capacity retained] } where
  closed := by
    intro terminalId handle reason known hfound hclosed hknown
    rw [resident_insert missing] at hfound
    split at hfound
    · rename_i hsame
      cases hfound
      obtain ⟨stored, hstored, hstays⟩ := stays
      have hid : terminalId = row.terminalId := hsame
      rw [← hid, hknown] at hstored
      cases hstored
      apply hstays
      cases hstate : row.state with
      | closed => rfl
      | opened => simp [TerminalHandle.fromRow, hstate] at hclosed
    · exact sealed.closed terminalId handle reason known hfound hclosed hknown
  committed := sealed.committed

def Closing (system : System) (terminalId : Uuid) : Prop :=
  ∃ handle reason, system.resident terminalId = some handle ∧
    handle.inner.lifecycle = .closing reason

theorem Closing.step
    (closing : Closing system terminalId) (sealed : Sealed system) (shape : Shape system)
    (taken : Relay.step system action = some next) (running : action ≠ .crash)
    (known : getTerminal next.store terminalId = some row) (opened : row.state = .opened) :
    Closing next terminalId := by
  obtain ⟨before, reason, hbefore, hclosing⟩ := closing
  obtain ⟨after, hafter, lives⟩ := step_lives taken running hbefore
  refine ⟨after, reason, hafter, ?_⟩
  cases lives with
  | same heq => rw [heq, hclosing]
  | apply op heq =>
    subst heq
    rcases (apply_lifecycle before op).2 with hkept | ⟨other, _, hopened, _⟩
    · rw [hkept, hclosing]
    · cases hopened.symm.trans hclosing
  | publish checkpoint rest hflush hnext hown heq =>
    subst heq
    rw [(commitDurable_lifecycle before _ _).1]
    cases hreason : checkpoint.closeReason with
    | none => exact hclosing
    | some other =>
      obtain ⟨stored, hstored⟩ := shape.known terminalId before hbefore
      have hclosed := sealed.committed checkpoint (committed_of_publishing hflush) other stored
        hreason (hown ▸ hstored)
      cases opened.symm.trans (closed_step taken hstored hclosed known)

def Present (system : System) (terminalId : Uuid) : Prop :=
  (∃ handle, system.resident terminalId = some handle) ∨
    ∃ row, getTerminal system.store terminalId = some row ∧ row.state = .closed

theorem Present.step
    (present : Present system terminalId) (taken : Relay.step system action = some next)
    (running : action ≠ .crash) : Present next terminalId := by
  rcases present with ⟨before, hbefore⟩ | ⟨row, hrow, hclosed⟩
  · obtain ⟨after, hafter, _⟩ := step_lives taken running hbefore
    exact .inl ⟨after, hafter⟩
  · right
    rcases getTerminal_step taken hrow with hsame | ⟨pending, _, hcommitted⟩
    · exact ⟨row, hsame, hclosed⟩
    · exact ⟨_, hcommitted, state_foldl hclosed⟩

theorem Sealed.closed_of_evicts (sealed : Sealed system) (shape : Shape system)
    (evicts : system.evicts terminalId = true) :
    ∃ row, getTerminal system.store terminalId = some row ∧ row.state = .closed := by
  unfold System.evicts at evicts
  obtain ⟨handle, hfound, hevictable⟩ := (Option.any_eq_true _ _).mp evicts
  unfold TerminalHandle.evictable at hevictable
  simp only [Bool.and_eq_true] at hevictable
  obtain ⟨reason, hclosed⟩ := shape.retired terminalId handle hfound hevictable.1.1
  obtain ⟨row, hrow⟩ := shape.known terminalId handle hfound
  exact ⟨row, hrow, sealed.closed terminalId handle reason row hfound hclosed hrow⟩

section MappedStore

variable {system : System} {store : Store} {f : TerminalRow → TerminalRow}

theorem getTerminal_map (keeps : KeepsRows f)
    (terminals_eq : store.terminals = system.store.terminals.map f) (terminalId : Uuid) :
    getTerminal store terminalId = (getTerminal system.store terminalId).map f := by
  unfold getTerminal
  rw [terminals_eq, lookup_map keeps.terminalId_eq]

theorem Shape.mapStore (shape : Shape system) (keeps : KeepsRows f)
    (terminals_eq : store.terminals = system.store.terminals.map f) : Shape { system with store } := by
  apply shape.withStore
  · rw [terminals_eq, List.map_map]
    have hsame : TerminalRow.terminalId ∘ f = TerminalRow.terminalId := funext keeps.terminalId_eq
    rw [hsame]
    exact shape.distinct
  · intro terminalId row hrow
    exact ⟨f row, by rw [getTerminal_map keeps terminals_eq, hrow, map_some]⟩

theorem StaysClosed.mapStore {row : TerminalRow} (stays : StaysClosed row system.store)
    (keeps : KeepsRows f) (terminals_eq : store.terminals = system.store.terminals.map f) :
    StaysClosed row store := by
  obtain ⟨stored, hstored, hclosed⟩ := stays
  refine ⟨f stored, by rw [getTerminal_map keeps terminals_eq, hstored, map_some], ?_⟩
  exact fun hrow => keeps.closed stored (hclosed hrow)

theorem closed_mapStore (keeps : KeepsRows f)
    (terminals_eq : store.terminals = system.store.terminals.map f) {terminalId : Uuid}
    {row : TerminalRow} (known : getTerminal store terminalId = some row) :
    ∃ before, getTerminal system.store terminalId = some before ∧
      (before.state = .closed → row.state = .closed) := by
  rw [getTerminal_map keeps terminals_eq] at known
  obtain ⟨before, hbefore, rfl⟩ := map_eq_some_iff.mp known
  exact ⟨before, hbefore, keeps.closed before⟩

theorem Sealed.mapStore (sealed : Sealed system) (keeps : KeepsRows f)
    (terminals_eq : store.terminals = system.store.terminals.map f) : Sealed { system with store } where
  closed := by
    intro terminalId handle reason row hfound hlifecycle hrow
    obtain ⟨before, hbefore, hstill⟩ := closed_mapStore keeps terminals_eq hrow
    exact hstill (sealed.closed terminalId handle reason before hfound hlifecycle hbefore)
  committed := by
    intro checkpoint member reason row hreason hrow
    obtain ⟨before, hbefore, hstill⟩ := closed_mapStore keeps terminals_eq hrow
    exact hstill (sealed.committed checkpoint member reason before hreason hbefore)

theorem Present.mapStore {terminalId : Uuid} (present : Present system terminalId)
    (keeps : KeepsRows f) (terminals_eq : store.terminals = system.store.terminals.map f) :
    Present { system with store } terminalId := by
  rcases present with hresident | ⟨row, hrow, hclosed⟩
  · exact .inl hresident
  · refine .inr ⟨f row, ?_, keeps.closed row hclosed⟩
    rw [getTerminal_map keeps terminals_eq, hrow, map_some]

end MappedStore

inductive Moved (relay next : System) : Prop where
  | same (next_eq : next = relay)
  | step (action : Action) (taken : Relay.step relay action = some next)
      (running : action ≠ .crash)
      (unloaded : ∀ terminalId capacity, action ≠ .load terminalId capacity)
  | evict (next_eq : next = relay.evictRetired)
  | insert (row : TerminalRow) (capacity : Nat) (retained : Bytes)
      (stays : StaysClosed row relay.store) (missing : relay.resident row.terminalId = none)
      (next_eq : next = { relay with
        terminals := relay.terminals ++ [TerminalHandle.fromRow row capacity retained] })

theorem Sealed.moved (sealed : Sealed relay) (shape : Shape relay)
    (moved : Moved relay next) : Sealed next := by
  cases moved with
  | same heq => exact heq ▸ sealed
  | step action taken running unloaded => exact sealed.step shape taken unloaded running
  | evict heq => exact heq ▸ sealed.evictRetired shape
  | insert row capacity retained stays missing heq =>
    exact heq ▸ sealed.insertHandle stays missing capacity retained

theorem Closing.moved
    (closing : Closing relay terminalId) (sealed : Sealed relay) (shape : Shape relay)
    (moved : Moved relay next)
    (known : getTerminal next.store terminalId = some row) (opened : row.state = .opened) :
    Closing next terminalId := by
  cases moved with
  | same heq => exact heq ▸ closing
  | step action taken running => exact closing.step sealed shape taken running known opened
  | evict heq =>
    subst heq
    obtain ⟨handle, reason, hfound, hclosing⟩ := closing
    refine ⟨handle, reason, ?_, hclosing⟩
    rw [resident_evictRetired shape.resident_nodup, hfound]
    simp [not_evictable_of_closing (shape.retired terminalId handle hfound) hclosing]
  | insert other capacity retained stays missing heq =>
    subst heq
    obtain ⟨handle, reason, hfound, hclosing⟩ := closing
    refine ⟨handle, reason, ?_, hclosing⟩
    rw [resident_insert missing, if_neg, hfound]
    rintro hsame
    rw [hsame] at hfound
    cases missing.symm.trans hfound

theorem Present.moved
    (present : Present relay terminalId) (sealed : Sealed relay) (shape : Shape relay)
    (moved : Moved relay next) : Present next terminalId := by
  cases moved with
  | same heq => exact heq ▸ present
  | step action taken running => exact present.step taken running
  | evict heq =>
    subst heq
    rcases present with ⟨handle, hfound⟩ | hclosed
    · cases hevicts : relay.evicts terminalId with
      | true => exact .inr (sealed.closed_of_evicts shape hevicts)
      | false =>
        left
        refine ⟨handle, ?_⟩
        unfold System.evicts at hevicts
        rw [hfound, any_some] at hevicts
        rw [resident_evictRetired shape.resident_nodup, hfound]
        simp [hevicts]
    · exact .inr hclosed
  | insert other capacity retained stays missing heq =>
    subst heq
    rcases present with ⟨handle, hfound⟩ | hclosed
    · left
      rw [resident_insert missing]
      split
      · exact ⟨_, rfl⟩
      · exact ⟨handle, hfound⟩
    · exact .inr hclosed

end Hypeterm.Relay

namespace Hypeterm.Relay.Opening

open Library
open Db

variable {system next : System} {maxTerminals : Nat}

theorem moved_finish (id : Nat) (call : Call) (row : TerminalRow)
    (origin : Origin) {handle : TerminalHandle} {resident : Bool}
    (present : resident = true → system.relay.resident handle.terminalId = some handle) :
    Moved system.relay (system.finish id call row origin handle resident).relay := by
  unfold System.finish
  split
  · exact .same rfl
  · dsimp only
    split
    · rename_i hrefresh
      have hfound := present (Bool.and_eq_true_iff.mp hrefresh).2
      refine .step (.handle handle.terminalId
        (.updateMetadata (some row.label) row.cols row.rows row.term)) ?_ nofun nofun
      simp only [Relay.step, hfound, Option.map_some]
      rfl
    · exact .same rfl

theorem moved_proceed (shape : CallShape system)
    {id : Nat} {call : Call} {fresh : Uuid} (found : system.calls id = some call)
    (taken : system.proceed maxTerminals id call fresh = some next) :
    Moved system.relay next.relay := by
  cases proceed_proceeded taken with
  | finds | refinds =>
    unfold System.find
    split <;> exact .same rfl
  | counts request =>
    rcases count_cases maxTerminals system id call request with ⟨message, hcount⟩ | ⟨_, hcount⟩
    · exact .same (by rw [hcount]; rfl)
    · exact .same (by rw [hcount]; rfl)
  | inserts request =>
    unfold System.insert
    split
    · rename_i row store hinserted
      refine .step (.insertTerminal fresh request.deviceId request.identityId request.localRef
        request.label request.cols request.rows request.term request.acceptsInput) ?_
        (by simp) (by simp)
      simp only [Relay.step, Relay.System.insertTerminal, hinserted]
      rfl
    · exact .same rfl
  | looks | misses | reads | unknown | obtains | waits | acquires | releases | loads | builds
  | corrupt => exact .same rfl
  | attaches row retained origin phase_eq =>
    have hmissing := shape.absent id call row found (by rw [phase_eq]; rfl)
    refine .insert row call.capacity retained
      (shape.stays id call row found (by rw [phase_eq]; rfl)) hmissing ?_
    unfold System.insertHandle
    rw [filter_of_missing hmissing]
    rfl
  | finishesEvicted => exact moved_finish id call _ _ (by simp)
  | finishes row origin handle phase_eq hfound =>
    refine moved_finish id call _ _ fun _ => ?_
    rw [terminalId_of_resident hfound, hfound]

theorem moved_step {action : Action}
    (shape : CallShape system) (taken : Opening.step maxTerminals system action = some next)
    (running : action ≠ .relay .crash) : Moved system.relay next.relay := by
  cases step_stepped taken with
  | opens | loads | fails | retries | abandons => exact .same rfl
  | proceeds id fresh call found proceeds => exact moved_proceed shape found proceeds
  | evicts => exact .evict rfl
  | relays action relay allowed hrunning hstep =>
    exact .step action hstep hrunning (not_load_of_permitted allowed)
  | crashes => exact absurd rfl running

theorem calls_proceed {id : Nat} {call : Call}
    {fresh : Uuid} (taken : system.proceed maxTerminals id call fresh = some next) :
    (∃ later, next.calls = Function.update system.calls id (some later)) ∧
      ((∀ request, call.phase ≠ .inserting request) → next.relay.store = system.relay.store) := by
  cases proceed_proceeded taken with
  | finds | refinds =>
    unfold System.find
    split <;> exact ⟨⟨_, rfl⟩, fun _ => rfl⟩
  | counts request =>
    rcases count_cases maxTerminals system id call request with ⟨message, hcount⟩ | ⟨_, hcount⟩
    · rw [hcount]
      exact ⟨⟨_, rfl⟩, fun _ => rfl⟩
    · rw [hcount]
      exact ⟨⟨_, rfl⟩, fun _ => rfl⟩
  | inserts request phase_eq =>
    unfold System.insert
    split
    · exact ⟨⟨_, rfl⟩, fun hother => absurd phase_eq (hother request)⟩
    · exact ⟨⟨_, rfl⟩, fun _ => rfl⟩
  | looks | misses | reads | unknown | obtains | waits | acquires | releases | loads | builds
  | corrupt | attaches => exact ⟨⟨_, rfl⟩, fun _ => rfl⟩
  | finishesEvicted | finishes =>
    obtain ⟨hstore, _, hcalls⟩ := store_finish system id call _ _ _ _
    exact ⟨⟨_, hcalls⟩, fun _ => hstore⟩

theorem open_row_step {action : Action}
    (taken : Opening.step maxTerminals system action = some next) {row : TerminalRow}
    (member : row ∈ next.relay.store.terminals) (opened : row.state = .opened) :
    (∃ before ∈ system.relay.store.terminals, before.terminalId = row.terminalId ∧
        before.deviceId = row.deviceId ∧ before.state = .opened) ∨
      ∃ id request, action = .proceed id row.terminalId ∧
        (system.calls id).map Call.phase = some (.inserting request) ∧
        row.deviceId = request.deviceId ∧
        getTerminal system.relay.store row.terminalId = none ∧
        getTerminal next.relay.store row.terminalId = some row := by
  have hsame : next.relay.store = system.relay.store →
      ∃ before ∈ system.relay.store.terminals, before.terminalId = row.terminalId ∧
        before.deviceId = row.deviceId ∧ before.state = .opened := by
    intro hstore
    exact ⟨row, hstore ▸ member, rfl, rfl, opened⟩
  cases step_stepped taken with
  | opens | loads | fails | retries | abandons | evicts => exact .inl (hsame rfl)
  | proceeds id fresh call found hproceed =>
    by_cases hinserting : ∃ request, call.phase = .inserting request
    · obtain ⟨request, hphase⟩ := hinserting
      simp only [System.proceed, hphase, Option.some.injEq] at hproceed
      subst hproceed
      unfold System.insert at member ⊢
      split at member
      · rename_i inserted store hinserted
        obtain ⟨hnone, hid, hdevice, _, _, rfl⟩ := insertTerminal_ok hinserted
        rcases List.mem_append.mp member with hold | hnew
        · exact .inl ⟨row, hold, rfl, rfl, opened⟩
        · cases List.mem_singleton.mp hnew
          subst hid
          refine .inr ⟨id, request, rfl, ?_, hdevice, hnone, ?_⟩
          · rw [found, Option.map_some, hphase]
          · change getTerminal { system.relay.store with
              terminals := system.relay.store.terminals ++ [row] } row.terminalId = some row
            rw [getTerminal_concat, hnone, if_pos rfl, Option.none_or]
      · exact .inl ⟨row, member, rfl, rfl, opened⟩
    · exact .inl (hsame ((calls_proceed hproceed).2 fun request hphase =>
        hinserting ⟨request, hphase⟩))
  | relays action relay allowed running hstep =>
    obtain ⟨f, hkeeps, hterminals⟩ := terminals_step hstep (by
      rintro _ _ _ _ _ _ _ _ _ rfl
      cases allowed)
    change row ∈ relay.store.terminals at member
    rw [hterminals] at member
    obtain ⟨before, hbefore, rfl⟩ := List.mem_map.mp member
    refine .inl ⟨before, hbefore, (hkeeps.terminalId_eq before).symm,
      (hkeeps.deviceId_eq before).symm, ?_⟩
    cases hstate : before.state with
    | opened => rfl
    | closed => cases opened.symm.trans (hkeeps.closed before hstate)
  | crashes relay hstep =>
    cases hstep
    exact .inl (hsame rfl)

end Hypeterm.Relay.Opening
