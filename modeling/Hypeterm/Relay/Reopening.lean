import Hypeterm.Relay.Loading

/-! Terminals that were reported opened. An open looks only into the database, where a closing
terminal is open until its close is committed. -/
namespace Hypeterm.Relay.Opening

open Library List Option TerminalHandle
open Db

def Origin.opens : Origin → Bool
  | .load => false
  | .opened _ => true

/-- The row an `open_terminal` has resolved to and not yet returned the handle of. -/
def Phase.opening? : Phase → Option TerminalRow
  | .held row origin | .locking row origin | .locked row origin | .loading row origin
  | .built row _ origin | .obtained row origin _ => if origin.opens then some row else none
  | _ => none

/-- The evicted handle that an `open_terminal` would return. -/
def Phase.detached? : Phase → Option TerminalHandle
  | .obtained _ origin detached => if origin.opens then detached else none
  | _ => none

/-- No open resolves to a terminal that is closing in memory, and no close begins on a
terminal that an open has resolved to. -/
def resolvesLiving (system : System) : Action → Bool
  | .proceed id _ =>
      match (system.calls id).map Call.phase with
      | some (.finding request) | some (.refinding request _) =>
          (findOpenTerminalByLocalRef system.relay.store request.deviceId request.localRef).all
            fun row => (system.relay.resident row.terminalId).all fun handle =>
              handle.inner.lifecycle = .opened
      | _ => true
  | .relay (.handle terminalId (.beginClose _)) =>
      (range system.nextCall).all fun id =>
        ((system.calls id).bind fun call => call.phase.opening?).all fun row =>
          row.terminalId ≠ terminalId
  | _ => true

structure Living (relay : Relay.System) (terminalId : Uuid) : Prop where
  stored : ∃ row, getTerminal relay.store terminalId = some row ∧ row.state = .opened
  resident : ∀ handle, relay.resident terminalId = some handle →
    handle.inner.lifecycle = .opened

variable {relay : Relay.System} {terminalId : Uuid} {row : TerminalRow} {system next : System}
  {id : Nat} {call : Call}

theorem Living.step {next : Relay.System} {action : Relay.Action}
    (living : Living relay terminalId) (shape : Shape relay)
    (taken : Relay.step relay action = some next) (running : action ≠ .crash)
    (unloaded : ∀ target capacity, action ≠ .load target capacity)
    (kept : ∀ reason, action ≠ .handle terminalId (.beginClose reason)) :
    Living next terminalId := by
  obtain ⟨row, hrow, hopened⟩ := living.stored
  constructor
  · obtain ⟨stored, hstored, hstate⟩ := shape.stays_open taken hrow living.resident
    exact ⟨stored, hstored, hstate.trans hopened⟩
  · intro handle hfound
    rcases resident_of_next taken hfound with ⟨before, hbefore⟩ | ⟨capacity, hload, _⟩
    · obtain ⟨after, hafter, hlifecycle⟩ := shape.opened_step taken running hbefore
        (living.resident before hbefore) kept
      cases hfound.symm.trans hafter
      exact hlifecycle
    · exact absurd hload (unloaded terminalId capacity)

theorem Living.evictRetired (living : Living relay terminalId) (shape : Shape relay) :
    Living relay.evictRetired terminalId where
  stored := living.stored
  resident := by
    intro handle hfound
    rw [resident_evictRetired shape.resident_nodup] at hfound
    exact living.resident handle (filter_eq_some_iff.mp hfound).1

theorem Living.not_evictable (living : Living relay terminalId) (shape : Shape relay) :
    (relay.resident terminalId).filter evictable = none := by
  rw [filter_eq_none_iff]
  intro handle hfound hevictable
  unfold evictable at hevictable
  simp only [Bool.and_eq_true] at hevictable
  obtain ⟨reason, hclosed⟩ := shape.retired terminalId handle hfound hevictable.1.1
  cases hclosed.symm.trans (living.resident handle hfound)

theorem Living.insertHandle
    (living : Living relay terminalId) (missing : relay.resident row.terminalId = none)
    (stays : StaysClosed row relay.store) (capacity : Nat) (retained : Bytes) :
    Living { relay with
      terminals := relay.terminals ++ [fromRow row capacity retained] }
      terminalId where
  stored := living.stored
  resident := by
    intro handle hfound
    rw [resident_insert missing] at hfound
    split at hfound
    · rename_i hown
      cases hfound
      obtain ⟨stored, hstored, hclosed⟩ := stays
      obtain ⟨known, hknown, hopened⟩ := living.stored
      have hsame : terminalId = row.terminalId := hown
      rw [← hsame, hknown] at hstored
      cases hstored
      cases hstate : row.state with
      | opened => simp [fromRow, hstate]
      | closed => cases hopened.symm.trans (hclosed hstate)
    · exact living.resident handle hfound

/-- What must hold of the phase a call moves to. -/
structure Resolved (relay : Relay.System) (phase : Phase) : Prop where
  living : ∀ row, phase.opening? = some row → Living relay row.terminalId
  attached : phase.detached? = none

/-- Every open in flight has resolved to a living terminal. -/
structure Writable (system : System) : Prop where
  shape : CallShape system
  resolved : ∀ id call, system.calls id = some call → Resolved system.relay call.phase
  opened : ∀ record ∈ system.opened, record.handle.inner.lifecycle = .opened

theorem Writable.initial : Writable System.initial where
  shape := CallShape.initial
  resolved := fun _ _ found => nomatch found
  opened := fun _ member => nomatch member

theorem Resolved.of_load {phase : Phase} (free : phase.opening? = none) : Resolved relay phase := by
  constructor
  · intro row hrow
    cases free.symm.trans hrow
  · cases phase with
    | obtained row origin detached =>
      cases origin with
      | load => rfl
      | opened => cases free
    | finding | counting | inserting | refinding | looking | reading | held | locking | locked
    | loading | built | returned | missing | failed => rfl

theorem Resolved.move {phase later : Phase} (resolved : Resolved relay phase)
    (same : later.opening? = phase.opening?) (attached : later.detached? = none) :
    Resolved relay later where
  living := fun row hrow => resolved.living row (same ▸ hrow)
  attached := attached

section

variable (writable : Writable system)
include writable

theorem Writable.put (shape : CallShape next) (relay_eq : next.relay = system.relay)
    (opened_eq : next.opened = system.opened)
    (calls_eq : next.calls = Function.update system.calls id (some call))
    (resolved : Resolved system.relay call.phase) : Writable next where
  shape := shape
  resolved := by
    intro other stored hstored
    rw [calls_eq, Function.update_apply] at hstored
    rw [relay_eq]
    split at hstored
    · cases hstored
      exact resolved
    · exact writable.resolved other stored hstored
  opened := opened_eq ▸ writable.opened

theorem Writable.withRelay (shape : CallShape { system with relay })
    (living : ∀ id call row, system.calls id = some call → call.phase.opening? = some row →
      Living system.relay row.terminalId → Living relay row.terminalId) :
    Writable { system with relay } where
  shape := shape
  resolved := by
    intro id call found
    have hresolved := writable.resolved id call found
    refine ⟨?_, hresolved.attached⟩
    intro row hrow
    exact living id call row found hrow (hresolved.living row hrow)
  opened := writable.opened

theorem Writable.find
    (found : system.calls id = some call) {request : OpenRequest} {otherwise : Phase}
    (free : otherwise.row? = none) (unresolved : otherwise.opening? = none)
    (living : (findOpenTerminalByLocalRef system.relay.store request.deviceId
      request.localRef).all (fun row => (system.relay.resident row.terminalId).all fun handle =>
        handle.inner.lifecycle = .opened) = true) :
    Writable (system.find id call request otherwise) := by
  have hshape := writable.shape.find found request free
  unfold System.find at hshape ⊢
  cases hexisting : findOpenTerminalByLocalRef system.relay.store request.deviceId
      request.localRef with
  | none =>
    rw [hexisting] at hshape
    exact writable.put hshape rfl rfl rfl (Resolved.of_load unresolved)
  | some existing =>
    rw [hexisting] at hshape living
    refine writable.put hshape rfl rfl rfl ⟨?_, rfl⟩
    intro row hrow
    cases hrow
    constructor
    · have hopened := find?_some hexisting
      simp only [decide_eq_true_eq] at hopened
      exact ⟨existing, lookup_of_mem writable.shape.relay.distinct
        (mem_of_find?_eq_some hexisting), hopened.2.2⟩
    · intro handle hfound
      rw [all_some, hfound, all_some] at living
      exact of_decide_eq_true living

section

variable (found : system.calls id = some call)
include found

theorem Writable.insert (request : OpenRequest) (fresh : Uuid) :
    Writable (system.insert id call request fresh) := by
  have hshape := writable.shape.insert found request fresh
  unfold System.insert at hshape ⊢
  split at hshape
  · rename_i row store hinserted
    have hstep : Relay.step system.relay (.insertTerminal fresh request.deviceId
        request.identityId request.localRef request.label request.cols request.rows request.term
        request.acceptsInput) = some { system.relay with store } := by
      simp only [Relay.step, Relay.System.insertTerminal, hinserted]
    have hstored := writable.withRelay (writable.shape.relayStep hstep (by simp))
      fun other stored otherRow _ _ living =>
        living.step writable.shape.relay hstep (by simp) (by simp) (by simp)
    refine hstored.put hshape rfl rfl rfl ⟨?_, rfl⟩
    intro other hother
    cases hother
    obtain ⟨hnone, hid, _, _, hopened, rfl⟩ := insertTerminal_ok hinserted
    constructor
    · refine ⟨row, ?_, hopened⟩
      rw [getTerminal_concat, hid, hnone, if_pos rfl, none_or]
    · intro handle hfound
      -- The identifier is new, so nothing is resident under it.
      obtain ⟨known, hknown⟩ := writable.shape.relay.known _ handle hfound
      rw [hid, hnone] at hknown
      cases hknown
  · exact writable.put hshape rfl rfl rfl (Resolved.of_load rfl)

theorem Writable.insertHandle {retained : Bytes} {origin : Origin}
    (built : call.phase = .built row retained origin) :
    Writable (system.insertHandle id call row retained origin) := by
  have hmissing := writable.shape.absent id call row found (by rw [built]; rfl)
  have hstays := writable.shape.stays id call row found (by rw [built]; rfl)
  have hshape := writable.shape.insertHandle found built
  have hinserted : ∀ terminalId, Living system.relay terminalId → Living { system.relay with
      terminals := system.relay.terminals ++ [fromRow row call.capacity retained] }
      terminalId :=
    fun _ living => living.insertHandle hmissing hstays call.capacity retained
  have hown := writable.resolved id call found
  rw [built] at hown
  unfold System.insertHandle at hshape ⊢
  rw [filter_of_missing hmissing] at hshape ⊢
  refine ⟨hshape, ?_, writable.opened⟩
  intro other stored hstored
  change Function.update system.calls id _ other = _ at hstored
  rw [Function.update_apply] at hstored
  split at hstored
  · cases hstored
    exact ⟨fun otherRow hrow => hinserted _ (hown.living otherRow hrow), ite_self none⟩
  · have hresolved := writable.resolved other stored hstored
    exact ⟨fun otherRow hrow => hinserted _ (hresolved.living otherRow hrow), hresolved.attached⟩

theorem Writable.finish (row : TerminalRow) {origin : Origin}
    {handle : TerminalHandle} {resident : Bool}
    (present : resident = true → system.relay.resident handle.terminalId = some handle)
    (opened : ∀ deduplicated, origin = .opened deduplicated →
      handle.inner.lifecycle = .opened) :
    Writable (system.finish id call row origin handle resident) := by
  have hshape := writable.shape.finish found row origin present
  unfold System.finish at hshape ⊢
  split at hshape
  · exact writable.put hshape rfl rfl rfl (Resolved.of_load rfl)
  · rename_i deduplicated
    have hopen := opened deduplicated rfl
    dsimp only at hshape ⊢
    set refresh : HandleOp := .updateMetadata (some row.label) row.cols row.rows row.term with hop
    have hrefreshed : ∀ record ∈ system.opened ++
        [⟨if deduplicated then handle.apply refresh else handle, deduplicated⟩],
        record.handle.inner.lifecycle = .opened := by
      intro record member
      rcases mem_append.mp member with hold | hnew
      · exact writable.opened record hold
      · cases mem_singleton.mp hnew
        split
        · exact hopen
        · exact hopen
    have hreturned : ∀ relay, (∀ terminalId, Living system.relay terminalId →
        Living relay terminalId) → ∀ other stored,
        Function.update system.calls id (some { call with phase := .returned }) other =
          some stored → Resolved relay stored.phase := by
      intro relay hliving other stored hstored
      rw [Function.update_apply] at hstored
      split at hstored
      · cases hstored
        exact Resolved.of_load rfl
      · have hresolved := writable.resolved other stored hstored
        exact ⟨fun otherRow hrow => hliving _ (hresolved.living otherRow hrow), hresolved.attached⟩
    refine ⟨hshape, hreturned _ ?_, hrefreshed⟩
    intro terminalId living
    split
    · rename_i hrefresh
      have hfound := present (Bool.and_eq_true_iff.mp hrefresh).2
      have hstep : Relay.step system.relay (.handle handle.terminalId refresh) =
          some (system.relay.applyOp handle refresh) := by
        simp only [Relay.step, hfound, map_some]
      exact living.step writable.shape.relay hstep (by simp) (by simp) (by simp [hop])
    · exact living

theorem Writable.proceed {maxTerminals : Nat} {fresh : Uuid}
    (taken : system.proceed maxTerminals id call fresh = some next)
    (living : resolvesLiving system (.proceed id fresh) = true) : Writable next := by
  have hshape := writable.shape.proceed found taken
  have hresolved := writable.resolved id call found
  simp only [resolvesLiving, found, map_some] at living
  cases proceed_proceeded taken with
  | finds request phase_eq | refinds request error phase_eq =>
    rw [phase_eq] at living
    exact writable.find found rfl rfl living
  | counts request phase_eq =>
    rcases count_cases maxTerminals system id call request with ⟨message, hcount⟩ | ⟨_, hcount⟩
    · rw [hcount] at hshape ⊢
      exact writable.put hshape rfl rfl rfl (Resolved.of_load rfl)
    · rw [hcount] at hshape ⊢
      exact writable.put hshape rfl rfl rfl (Resolved.of_load rfl)
  | inserts => exact writable.insert found _ fresh
  | looks | misses | reads | unknown | corrupt =>
    exact writable.put hshape rfl rfl rfl (Resolved.of_load rfl)
  | obtains row origin handle phase_eq | releases row origin handle phase_eq =>
    rw [phase_eq] at hresolved
    exact writable.put hshape rfl rfl rfl (hresolved.move rfl (ite_self none))
  | waits row origin phase_eq | acquires row origin phase_eq | loads row origin phase_eq
  | builds row origin retained phase_eq =>
    rw [phase_eq] at hresolved
    exact writable.put hshape rfl rfl rfl (hresolved.move rfl rfl)
  | attaches row retained origin phase_eq => exact writable.insertHandle found phase_eq
  | finishesEvicted row origin handle phase_eq =>
    rw [phase_eq] at hresolved
    refine writable.finish found row nofun ?_
    rintro deduplicated rfl
    cases hresolved.attached
  | finishes row origin handle phase_eq hfound =>
    rw [phase_eq] at hresolved
    refine writable.finish found row ?_ ?_
    · rw [terminalId_of_resident hfound]
      exact fun _ => hfound
    · rintro deduplicated rfl
      exact (hresolved.living row rfl).resident handle hfound

end

theorem Writable.evictRetired : Writable system.evictRetired where
  shape := writable.shape.evictRetired
  resolved := by
    intro id call found
    obtain ⟨before, hbefore, rfl⟩ := map_eq_some_iff.mp found
    have hresolved := writable.resolved id before hbefore
    have hliving : ∀ terminalId, Living system.relay terminalId →
        Living system.relay.evictRetired terminalId :=
      fun _ living => living.evictRetired writable.shape.relay
    unfold System.keepEvicted
    split
    · rename_i row origin hphase
      rw [hphase] at hresolved
      refine ⟨fun other hrow => hliving _ (hresolved.living other hrow), ?_⟩
      cases origin with
      | load => rfl
      | opened => exact (hresolved.living row rfl).not_evictable writable.shape.relay
    · exact ⟨fun other hrow => hliving _ (hresolved.living other hrow), hresolved.attached⟩
  opened := writable.opened

end

theorem resolvesLiving_close {reason : String} (shape : CallShape system)
    (kept : resolvesLiving system (.relay (.handle terminalId (.beginClose reason))) = true)
    (found : system.calls id = some call)
    (opening : call.phase.opening? = some row) : row.terminalId ≠ terminalId := by
  have hid := List.all_eq_true.mp kept id (mem_range.mpr (shape.below id call found))
  rw [found, bind_some, opening, all_some] at hid
  exact of_decide_eq_true hid

theorem Writable.step {maxTerminals : Nat} {action : Action}
    (writable : Writable system) (taken : Opening.step maxTerminals system action = some next)
    (living : resolvesLiving system action = true) : Writable next := by
  have hshape := writable.shape.step taken
  cases step_stepped taken with
  | opens | loads | fails | retries | abandons =>
    exact writable.put hshape rfl rfl rfl (Resolved.of_load rfl)
  | proceeds id fresh call found proceeds => exact writable.proceed found proceeds living
  | evicts => exact writable.evictRetired
  | relays action relay allowed running hstep =>
    apply writable.withRelay hshape
    intro id call row found hrow hliving
    apply hliving.step writable.shape.relay hstep running (not_load_of_permitted allowed)
    rintro reason rfl
    exact resolvesLiving_close writable.shape living found hrow rfl
  | crashes =>
    refine ⟨hshape, ?_, writable.opened⟩
    intro _ _ found
    cases found

/-- In every run where opens resolve to living terminals and no close begins on a terminal
that an open has resolved to, every handle that an open returned is open, and an append at
its next offset is accepted. -/
theorem opened_terminals_accept_output {maxTerminals : Nat} {actions : List Action}
    {system : System}
    (taken : run (restrict (step maxTerminals) fun system action =>
      resolvesLiving system action = true) System.initial actions = some system)
    {record : Opened} (member : record ∈ system.opened) :
    record.handle.inner.lifecycle = .opened ∧
      ∀ payload capacity, (record.handle.append record.handle.inner.nextOffset payload capacity).2 =
          .accepted (record.handle.inner.nextOffset + payload.length)
            record.handle.inner.durableOffset := by
  have hwritable : Writable system := by
    refine restrict_invariant ?_ Writable.initial taken
    intro state action after writable living hstep
    exact writable.step hstep living
  have hopened := hwritable.opened record member
  refine ⟨hopened, ?_⟩
  intro payload capacity
  unfold append
  rw [if_neg (not_not.mpr hopened), if_neg (not_not.mpr rfl)]
  split
  · rename_i hempty
    rw [List.isEmpty_iff.mp hempty, length_nil, Nat.add_zero]
  · rfl

/-- Another open of the same `local_ref` while the terminal is running. -/
def reopenSeven : List Action :=
  [.openTerminal shellRequest 16, .proceed 1 8, .proceed 1 8, .proceed 1 8]

theorem append_accepted_after_reopenSeven :
    ∃ system record, run (restrict (step 8) fun system action =>
        resolvesLiving system action = true) System.initial (openSeven ++ reopenSeven) =
          some system ∧ record ∈ system.opened ∧ record.handle.terminalId = 7 ∧
      record.deduplicated = true ∧ record.handle.inner.lifecycle = .opened ∧
      (record.handle.append record.handle.inner.nextOffset [1, 2] 16).2 =
        .accepted (record.handle.inner.nextOffset + 2) record.handle.inner.durableOffset := by
  have hrun : (run (restrict (step 8) fun system action => resolvesLiving system action = true)
      System.initial (openSeven ++ reopenSeven)).map (fun system =>
        system.opened.map fun record => (record.handle.terminalId, record.deduplicated)) =
      some [(7, false), (7, true)] := by
    decide
  obtain ⟨system, htaken, hview⟩ := map_eq_some_iff.mp hrun
  have hmem : ((7, true) : Uuid × Bool) ∈ system.opened.map fun record =>
      (record.handle.terminalId, record.deduplicated) := by
    rw [hview]
    decide
  obtain ⟨record, hrecord, hfields⟩ := List.mem_map.mp hmem
  obtain ⟨hid, hdeduplicated⟩ := Prod.mk.inj hfields
  obtain ⟨hopened, happend⟩ := opened_terminals_accept_output htaken hrecord
  exact ⟨system, record, htaken, hrecord, hid, hdeduplicated, hopened, happend [1, 2] 16⟩

def dyingRun : List Action :=
  openSeven ++ [Action.relay (.handle 7 (.beginClose "publisher_disconnected"))] ++ reopenSeven

theorem reopen_resolves_to_the_dying_terminal :
    ∃ system record, run (step 8) System.initial dyingRun = some system ∧
      record ∈ system.opened ∧ record.handle.terminalId = 7 ∧
      record.handle.inner.lifecycle = .closing "publisher_disconnected" ∧
      (record.handle.append record.handle.inner.nextOffset [1, 2] 16).2 = .notOpen := by
  have hrun : (run (step 8) System.initial dyingRun).map (fun system =>
      system.opened.map fun record => (record.handle.terminalId, record.handle.inner.lifecycle,
        (record.handle.append record.handle.inner.nextOffset [1, 2] 16).2)) =
      some [(7, .opened, .accepted 2 0), (7, .closing "publisher_disconnected", .notOpen)] := by
    decide
  obtain ⟨system, htaken, hview⟩ := map_eq_some_iff.mp hrun
  have hmem : ((7, .closing "publisher_disconnected", .notOpen) :
      Uuid × Lifecycle × AppendOutcome) ∈ system.opened.map fun record =>
        (record.handle.terminalId, record.handle.inner.lifecycle,
          (record.handle.append record.handle.inner.nextOffset [1, 2] 16).2) := by
    rw [hview]
    decide
  obtain ⟨record, hrecord, hfields⟩ := List.mem_map.mp hmem
  obtain ⟨hid, hfields⟩ := Prod.mk.inj hfields
  obtain ⟨hclosing, hrefused⟩ := Prod.mk.inj hfields
  exact ⟨system, record, htaken, hrecord, hid, hclosing, hrefused⟩

end Hypeterm.Relay.Opening
