import Hypeterm.Relay.Loading

/-! The metadata of a terminal and a repeated open.  A `terminal.open` for a `local_ref`
that is open already returns its terminal; the handle is refreshed from the stored row
and nothing writes the request's values, so the terminal shows them only when it did
before. -/
namespace Hypeterm.Relay.Opening

open Library Function Option
open Db

structure Metadata where
  label : String
  cols : Option Nat
  rows : Option Nat
  term : Option String

/-- What a `terminal.open` carries of it; every field may be left out. -/
structure OpenMessage where
  label : Option String
  cols : Option Nat
  rows : Option Nat
  term : Option String

def OpenMessage.request (message : OpenMessage) (deviceId : Uuid) (identityId localRef : String)
    (acceptsInput : Bool) : OpenRequest where
  deviceId := deviceId
  identityId := identityId
  localRef := localRef
  label := message.label.getD ""
  cols := message.cols
  rows := message.rows
  term := message.term
  acceptsInput := acceptsInput

/-- The values of the message, wherever it supplied them. -/
structure OpenMessage.ShownBy (message : OpenMessage) (metadata : Metadata) : Prop where
  label : ∀ label, message.label = some label → metadata.label = label
  cols : ∀ cols, message.cols = some cols → metadata.cols = some cols
  rows : ∀ rows, message.rows = some rows → metadata.rows = some rows
  term : ∀ term, message.term = some term → metadata.term = some term

def rowMetadata (row : TerminalRow) : Metadata := ⟨row.label, row.cols, row.rows, row.term⟩

def handleMetadata (handle : TerminalHandle) : Metadata :=
  ⟨handle.inner.label, handle.inner.cols, handle.inner.rows, handle.inner.term⟩

structure SubscribedMessage where
  terminalId : Uuid
  requestedFromOffset : Nat
  replayStartOffset : Nat
  nextOffset : Nat
  durableOffset : Nat
  earliestOffset : Nat
  terminalState : TerminalState
  label : String
  cols : Option Nat
  rows : Option Nat
  term : Option String
  acceptsInput : Option Bool
  inputAvailable : Option Bool

/-- `input` is absent for a version 1 subscriber, which never sees the input fields. -/
def subscribedMessage (terminalId : Uuid) (requested : Nat) (sub : Subscription)
    (input : Option (Bool × Bool)) : SubscribedMessage where
  terminalId := terminalId
  requestedFromOffset := requested
  replayStartOffset := sub.replayStartOffset
  nextOffset := sub.offsets.nextOffset
  durableOffset := sub.offsets.durableOffset
  earliestOffset := sub.offsets.earliestOffset
  terminalState := sub.lifecycle.asState
  label := sub.label
  cols := sub.cols
  rows := sub.rows
  term := sub.term
  acceptsInput := input.map Prod.fst
  inputAvailable := input.map Prod.snd

def SubscribedMessage.metadata (message : SubscribedMessage) : Metadata :=
  ⟨message.label, message.cols, message.rows, message.term⟩

def updateTerminalSize (store : Store) (terminalId : Uuid) (cols rows : Nat) : Store :=
  { store with
    terminals := update TerminalRow.terminalId terminalId
      (fun row => { row with cols := some cols, rows := some rows }) store.terminals }

inductive MetadataAction where
  | opening (action : Action)
  | updateTerminalSize (terminalId : Uuid) (cols rows : Nat)

def metadataStep (maxTerminals : Nat) (system : System) : MetadataAction → Option System
  | .opening action => step maxTerminals system action
  | .updateTerminalSize terminalId cols rows =>
      some { system with
        relay := { system.relay with
          store := updateTerminalSize system.relay.store terminalId cols rows } }

def Phase.carries : Phase → Option (TerminalRow × Origin)
  | .held row origin | .locking row origin | .locked row origin | .loading row origin
  | .built row _ origin | .obtained row origin _ => some (row, origin)
  | _ => none

def Phase.ended : Phase → Bool
  | .returned | .missing | .failed _ => true
  | _ => false

/-- The call is over, or it still has the row it read. -/
def Call.Keeps (row : TerminalRow) (origin : Origin) (call : Call) : Prop :=
  call.phase.carries = some (row, origin) ∨ call.phase.ended = true

variable {maxTerminals : Nat} {system next : System} {id : Nat} {row : TerminalRow}
  {origin : Origin}

variable {call : Call} {phase : Phase} {fresh : Uuid} {handle : TerminalHandle}

theorem Call.Keeps.absurd_of_fresh (kept : call.Keeps row origin)
    (phase_eq : call.phase = phase) (fresh : phase.carries = none) (going : phase.ended = false) :
    False := by
  subst phase_eq
  cases kept with
  | inl carries => cases fresh.symm.trans carries
  | inr ended => cases going.symm.trans ended

theorem Call.Keeps.of_carries {after : Phase} {held : TerminalRow}
    {heldOrigin : Origin} (kept : call.Keeps row origin) (phase_eq : call.phase = phase)
    (carries : phase.carries = some (held, heldOrigin)) (going : phase.ended = false)
    (after_carries : after.carries = some (held, heldOrigin) ∨ after.ended = true) :
    Call.Keeps row origin { call with phase := after } := by
  subst phase_eq
  cases kept with
  | inl kept =>
    cases carries.symm.trans kept
    exact after_carries
  | inr ended => cases going.symm.trans ended

theorem keeps_proceed (taken : Proceeded maxTerminals system id call fresh next) :
    ∃ phase, next.calls = Function.update system.calls id (some { call with phase }) ∧
      next.nextCall = system.nextCall ∧
      ∀ row origin, call.Keeps row origin → Call.Keeps row origin { call with phase } := by
  cases taken with
  | finds request phase_eq | refinds request error phase_eq =>
    unfold System.find
    split
    · exact ⟨_, rfl, rfl, fun _ _ kept => (kept.absurd_of_fresh phase_eq rfl rfl).elim⟩
    · exact ⟨_, rfl, rfl, fun _ _ kept => (kept.absurd_of_fresh phase_eq rfl rfl).elim⟩
  | counts request phase_eq =>
    unfold System.count
    dsimp only
    split
    · exact ⟨_, rfl, rfl, fun _ _ kept => (kept.absurd_of_fresh phase_eq rfl rfl).elim⟩
    · exact ⟨_, rfl, rfl, fun _ _ kept => (kept.absurd_of_fresh phase_eq rfl rfl).elim⟩
  | inserts request phase_eq =>
    unfold System.insert
    split
    · exact ⟨_, rfl, rfl, fun _ _ kept => (kept.absurd_of_fresh phase_eq rfl rfl).elim⟩
    · exact ⟨_, rfl, rfl, fun _ _ kept => (kept.absurd_of_fresh phase_eq rfl rfl).elim⟩
  | looks _ _ phase_eq _ | misses _ phase_eq _ | reads _ _ phase_eq _ | unknown _ phase_eq _ =>
    exact ⟨_, rfl, rfl, fun _ _ kept => (kept.absurd_of_fresh phase_eq rfl rfl).elim⟩
  | obtains _ _ _ phase_eq _ | waits _ _ phase_eq _ | acquires _ _ phase_eq _
  | releases _ _ _ phase_eq _ | loads _ _ phase_eq _ | builds _ _ _ phase_eq _
  | attaches _ _ _ phase_eq =>
    exact ⟨_, rfl, rfl, fun _ _ kept => kept.of_carries phase_eq rfl rfl (.inl rfl)⟩
  | corrupt _ _ _ phase_eq =>
    exact ⟨_, rfl, rfl, fun _ _ kept => kept.of_carries phase_eq rfl rfl (.inr rfl)⟩
  | finishesEvicted held heldOrigin handle phase_eq | finishes held heldOrigin handle phase_eq _ =>
    have hfinish := store_finish system id call held heldOrigin handle
    exact ⟨.returned, (hfinish _).2.2, (hfinish _).2.1,
      fun _ _ kept => kept.of_carries phase_eq rfl rfl (.inr rfl)⟩

structure Following (id : Nat) (system next : System) : Prop where
  later : system.nextCall ≤ next.nextCall
  below : (∀ other call, system.calls other = some call → other < system.nextCall) →
    ∀ other call, next.calls other = some call → other < next.nextCall
  keeps : ∀ row origin, id < system.nextCall →
    (∀ call, system.calls id = some call → call.Keeps row origin) →
      ∀ call, next.calls id = some call → call.Keeps row origin

theorem following_of_update {moved : Nat} (found : system.calls moved = some call)
    (calls_eq : next.calls = Function.update system.calls moved (some { call with phase }))
    (nextCall_eq : next.nextCall = system.nextCall)
    (keeps : ∀ row origin, call.Keeps row origin → Call.Keeps row origin { call with phase }) :
    Following id system next where
  later := Nat.le_of_eq nextCall_eq.symm
  below := by
    intro below other call' hcall
    rw [calls_eq, update_apply] at hcall
    rw [nextCall_eq]
    split at hcall
    · rename_i hother
      exact hother ▸ below _ _ found
    · exact below _ _ hcall
  keeps := by
    intro row origin _ kept call' hcall
    rw [calls_eq, update_apply] at hcall
    split at hcall
    · rename_i hmoved
      subst hmoved
      cases hcall
      exact keeps row origin (kept _ found)
    · exact kept _ hcall

theorem following_of_same (calls_eq : next.calls = system.calls)
    (nextCall_eq : next.nextCall = system.nextCall) : Following id system next where
  later := Nat.le_of_eq nextCall_eq.symm
  below := by
    rw [calls_eq, nextCall_eq]
    exact fun below => below
  keeps := by
    rw [calls_eq]
    exact fun _ _ _ kept => kept

theorem following_begin (capacity : Nat) (phase : Phase) :
    Following id system (system.begin capacity phase) where
  later := Nat.le_succ _
  below := by
    intro below other call hcall
    simp only [System.begin, update_apply] at hcall ⊢
    split at hcall
    · rename_i hother
      omega
    · exact Nat.lt_succ_of_lt (below _ _ hcall)
  keeps := by
    intro row origin known kept call hcall
    simp only [System.begin, update_apply] at hcall
    rw [if_neg (Nat.ne_of_lt known)] at hcall
    exact kept _ hcall

theorem following_evictRetired : Following id system system.evictRetired where
  later := Nat.le_refl _
  below := by
    intro below other call hcall
    obtain ⟨earlier, hearlier, -⟩ := map_eq_some_iff.mp hcall
    exact below _ _ hearlier
  keeps := by
    intro row origin _ kept call hcall
    obtain ⟨earlier, hearlier, rfl⟩ := map_eq_some_iff.mp hcall
    have hkept := kept _ hearlier
    unfold System.keepEvicted
    split
    · rename_i hphase
      exact hkept.of_carries hphase rfl rfl (.inl rfl)
    · exact hkept

theorem Phase.fresh_of_searches {phase : Phase} (searches : phase.searches = true) :
    phase.carries = none ∧ phase.ended = false := by
  cases phase with
  | finding | counting | refinding | reading => exact ⟨rfl, rfl⟩
  | inserting | looking | held | locking | locked | loading | built | obtained | returned | missing
  | failed => cases searches

theorem following_step {action : MetadataAction}
    (taken : metadataStep maxTerminals system action = some next) :
    Following id system next := by
  cases action with
  | updateTerminalSize terminalId cols rows =>
    cases taken
    exact following_of_same rfl rfl
  | opening action =>
    have hfresh : ∀ {moved : Nat} {call : Call} {after : Phase},
        system.calls moved = some call → call.phase.carries = none → call.phase.ended = false →
          Following id system (system.setPhase moved call after) := by
      intro moved call after found hcarries hgoing
      exact following_of_update found rfl rfl fun _ _ kept =>
        (kept.absurd_of_fresh rfl hcarries hgoing).elim
    have hstep : step maxTerminals system action = some next := taken
    cases step_stepped hstep with
    | opens | loads => exact following_begin _ _
    | proceeds moved fresh call found proceeds =>
      obtain ⟨phase, hcalls, hnext, hkeeps⟩ := keeps_proceed (proceed_proceeded proceeds)
      exact following_of_update found hcalls hnext hkeeps
    | fails moved call error found searches =>
      obtain ⟨hcarries, hgoing⟩ := Phase.fresh_of_searches searches
      exact hfresh found hcarries hgoing
    | retries moved call request error found phase_eq =>
      exact hfresh found (by rw [phase_eq]; rfl) (by rw [phase_eq]; rfl)
    | abandons moved call row origin error found phase_eq =>
      exact following_of_update found rfl rfl fun _ _ kept =>
        kept.of_carries phase_eq rfl rfl (.inr rfl)
    | evicts => exact following_evictRetired
    | relays => exact following_of_same rfl rfl
    | crashes =>
      refine ⟨Nat.le_refl _, ?_, ?_⟩
      · intro _ other call hcall
        cases hcall
      · intro _ _ _ _ call hcall
        cases hcall

theorem below_run {actions : List MetadataAction}
    (reached : run (metadataStep maxTerminals) System.initial actions = some system) :
    ∀ other call, system.calls other = some call → other < system.nextCall := by
  refine @run_invariant _ _ _ (fun state : System =>
    ∀ other call, state.calls other = some call → other < state.nextCall) ?_ _ _ _ ?_ reached
  · intro state action after below hstep
    have hfollowing : Following 0 state after := following_step hstep
    exact hfollowing.below below
  · intro other call hcall
    cases hcall

theorem keeps_run {actions : List MetadataAction}
    (taken : run (metadataStep maxTerminals) system actions = some next)
    (known : id < system.nextCall)
    (kept : ∀ call, system.calls id = some call → call.Keeps row origin) :
    ∀ call, next.calls id = some call → call.Keeps row origin := by
  have hrun := @run_invariant _ _ _ (fun state : System =>
    id < state.nextCall ∧ ∀ call, state.calls id = some call → call.Keeps row origin) ?_ _ _ _
    ⟨known, kept⟩ taken
  · exact hrun.2
  · intro state action after hstate hstep
    have hfollowing : Following id state after := following_step hstep
    exact ⟨Nat.lt_of_lt_of_le hstate.1 hfollowing.later, hfollowing.keeps row origin hstate.1 hstate.2⟩

def setsMetadata : HandleOp → Bool
  | .resize _ _ | .updateMetadata _ _ _ _ => true
  | _ => false

theorem handleMetadata_apply (handle : TerminalHandle) {op : HandleOp}
    (plain : setsMetadata op = false) :
    handleMetadata (handle.apply op) = handleMetadata handle := by
  cases op with
  | append expectedOffset payload capacity =>
    simp only [TerminalHandle.apply, TerminalHandle.append]
    split
    · rfl
    · split
      · rfl
      · split <;> rfl
  | shrinkToCapacity capacity =>
    simp only [TerminalHandle.apply, TerminalHandle.shrinkToCapacity]
    split <;> rfl
  | subscribe fromOffset chunkBytes queueMessages queueBytes =>
    simp only [TerminalHandle.apply, TerminalHandle.subscribe]
    split
    · rename_i hok
      split at hok
      · cases hok
      · cases hok
        rfl
    · rfl
  | beginClose reason =>
    simp only [TerminalHandle.apply, TerminalHandle.beginClose]
    split <;> rfl
  | resize | updateMetadata => cases plain
  | nextInputSequence | unsubscribe | terminateSubscribers | receive | release | dropReceiver => rfl

theorem handleMetadata_commitDurable (handle : TerminalHandle) (durableTarget : Nat)
    (closed : Option String) :
    handleMetadata (handle.commitDurable durableTarget closed) = handleMetadata handle := by
  have hadvance : handleMetadata (handle.advanceDurable durableTarget) = handleMetadata handle := by
    unfold TerminalHandle.advanceDurable
    split <;> rfl
  cases closed with
  | none => exact hadvance
  | some reason => exact hadvance

/-- What becomes of a handle while it is neither resized nor refreshed. -/
inductive Quietly (handle : TerminalHandle) : TerminalHandle → Prop where
  | refl : Quietly handle handle
  | apply {later : TerminalHandle} (quiet : Quietly handle later) {op : HandleOp}
      (plain : setsMetadata op = false) : Quietly handle (later.apply op)
  | commitDurable {later : TerminalHandle} (quiet : Quietly handle later) (durableTarget : Nat)
      (closed : Option String) : Quietly handle (later.commitDurable durableTarget closed)

theorem Quietly.metadata_eq {later : TerminalHandle} (quiet : Quietly handle later) :
    handleMetadata later = handleMetadata handle := by
  induction quiet with
  | refl => rfl
  | apply quiet plain ih => rw [handleMetadata_apply _ plain, ih]
  | commitDurable quiet durableTarget closed ih => rw [handleMetadata_commitDurable, ih]

theorem subscribed_metadata {subscribed : TerminalHandle} {subscription : Subscription}
    {fromOffset : Option Nat} {chunkBytes queueMessages queueBytes : Nat}
    (ok : handle.subscribe fromOffset chunkBytes queueMessages queueBytes =
      .ok (subscribed, subscription)) (terminalId : Uuid) (requested : Nat)
    (input : Option (Bool × Bool)) :
    (subscribedMessage terminalId requested subscription input).metadata =
      handleMetadata handle := by
  unfold TerminalHandle.subscribe at ok
  dsimp only at ok
  split at ok
  · cases ok
  · cases ok
    rfl

/-- Whoever subscribes to the handle, now or later, is told the values. -/
def ReportedBy (message : OpenMessage) (handle : TerminalHandle) : Prop :=
  ∀ later, Quietly handle later →
    ∀ fromOffset chunkBytes queueMessages queueBytes subscribed subscription,
      later.subscribe fromOffset chunkBytes queueMessages queueBytes =
        .ok (subscribed, subscription) →
      ∀ terminalId requested input,
        message.ShownBy (subscribedMessage terminalId requested subscription input).metadata

/-- What a repeated open is to bring about: the handle and the stored row show the values of
the message, and so does every subscription to the handle or to one loaded from the row. -/
structure Refreshed (message : OpenMessage) (handle : TerminalHandle)
    (stored : Option TerminalRow) : Prop where
  handle_shown : message.ShownBy (handleMetadata handle)
  stored_shown : ∃ row, stored = some row ∧ message.ShownBy (rowMetadata row)
  subscribed : ReportedBy message handle
  reloaded : ∀ row, stored = some row → ∀ capacity retained,
    ReportedBy message (TerminalHandle.fromRow row capacity retained)

theorem reportedBy_of_shown {message : OpenMessage}
    (shown : message.ShownBy (handleMetadata handle)) : ReportedBy message handle := by
  intro later quiet fromOffset chunkBytes queueMessages queueBytes subscribed subscription ok
    terminalId requested input
  rw [subscribed_metadata ok, quiet.metadata_eq]
  exact shown

/-- Nothing in the message is new: the stored row shows its values, and so did the row that the
lookup read or, where that says nothing, the handle. -/
structure Known (message : OpenMessage) (stored : Option TerminalRow) (row : TerminalRow)
    (held : TerminalHandle) : Prop where
  stored : ∃ row, stored = some row ∧ message.ShownBy (rowMetadata row)
  label : ∀ label, message.label = some label → row.label = label
  cols : ∀ cols, message.cols = some cols →
    row.cols = some cols ∨ (row.cols = none ∧ held.inner.cols = some cols)
  rows : ∀ rows, message.rows = some rows →
    row.rows = some rows ∨ (row.rows = none ∧ held.inner.rows = some rows)
  term : ∀ term, message.term = some term →
    row.term = some term ∨ (row.term = none ∧ held.inner.term = some term)

theorem refreshed_iff {message : OpenMessage} {held : TerminalHandle} {stored : Option TerminalRow} :
    Refreshed message (held.updateMetadata (some row.label) row.cols row.rows row.term) stored ↔
      Known message stored row held := by
  constructor
  · intro refreshed
    have hshown := refreshed.handle_shown
    exact ⟨refreshed.stored_shown, hshown.label,
      fun cols hcols => or_eq_some_iff.mp (hshown.cols cols hcols),
      fun rows hrows => or_eq_some_iff.mp (hshown.rows rows hrows),
      fun term hterm => or_eq_some_iff.mp (hshown.term term hterm)⟩
  · intro known
    have hshown : message.ShownBy (handleMetadata
        (held.updateMetadata (some row.label) row.cols row.rows row.term)) :=
      ⟨known.label, fun cols hcols => or_eq_some_iff.mpr (known.cols cols hcols),
        fun rows hrows => or_eq_some_iff.mpr (known.rows rows hrows),
        fun term hterm => or_eq_some_iff.mpr (known.term term hterm)⟩
    obtain ⟨other, hother, hrow⟩ := known.stored
    refine ⟨hshown, ⟨other, hother, hrow⟩, reportedBy_of_shown hshown, ?_⟩
    intro loaded hloaded capacity retained
    cases hother.symm.trans hloaded
    exact reportedBy_of_shown hrow

theorem returned_of_obtained {capacity : Nat} {detached : Option TerminalHandle}
    (obtained : system.calls id = some ⟨capacity, .obtained row (.opened true) detached⟩)
    (returned : metadataStep maxTerminals system (.opening (.proceed id fresh)) = some next) :
    ∃ held, detached.or (system.relay.resident row.terminalId) = some held ∧
      next.relay.store = system.relay.store ∧
      next.opened = system.opened ++
        [⟨held.updateMetadata (some row.label) row.cols row.rows row.term, true⟩] := by
  simp only [metadataStep, step, obtained, bind_some, System.proceed] at returned
  cases detached with
  | some held =>
    cases returned
    exact ⟨held, rfl, rfl, rfl⟩
  | none =>
    obtain ⟨held, hheld, rfl⟩ := map_eq_some_iff.mp returned
    exact ⟨held, by simpa using hheld, rfl, rfl⟩

theorem held_of_found {capacity : Nat} {request : OpenRequest}
    (asks : system.calls id = some ⟨capacity, .finding request⟩ ∨
      ∃ error, system.calls id = some ⟨capacity, .refinding request error⟩)
    (found : findOpenTerminalByLocalRef system.relay.store request.deviceId request.localRef =
      some row)
    (taken : metadataStep maxTerminals system (.opening (.proceed id fresh)) = some next) :
    next.calls id = some ⟨capacity, .held row (.opened true)⟩ ∧
      next.nextCall = system.nextCall := by
  rcases asks with asks | ⟨error, asks⟩
  · simp only [metadataStep, step, asks, bind_some, System.proceed, System.find, found] at taken
    cases taken
    exact ⟨by simp [System.setPhase], rfl⟩
  · simp only [metadataStep, step, asks, bind_some, System.proceed, System.find, found] at taken
    cases taken
    exact ⟨by simp [System.setPhase], rfl⟩

/-- A repeated open that looks its terminal up and returns after any steps of other tasks has
refreshed the metadata exactly when the message brought nothing new. -/
theorem repeated_open_refreshes_iff {actions between : List MetadataAction}
    {before reached after : System} {capacity : Nat} {lookupFresh returnFresh : Uuid}
    {message : OpenMessage} {deviceId : Uuid} {identityId localRef : String} {acceptsInput : Bool}
    {held : TerminalRow} {obtainedOrigin : Origin} {detached : Option TerminalHandle}
    (started : run (metadataStep maxTerminals) System.initial actions = some before)
    (asks : before.calls id =
        some ⟨capacity, .finding (message.request deviceId identityId localRef acceptsInput)⟩ ∨
      ∃ error, before.calls id = some
        ⟨capacity, .refinding (message.request deviceId identityId localRef acceptsInput) error⟩)
    (found : findOpenTerminalByLocalRef before.relay.store deviceId localRef = some row)
    (waited : run (metadataStep maxTerminals) before
      (.opening (.proceed id lookupFresh) :: between) = some reached)
    (obtained : reached.calls id = some ⟨capacity, .obtained held obtainedOrigin detached⟩)
    (returned : metadataStep maxTerminals reached (.opening (.proceed id returnFresh)) =
      some after) :
    ∃ earlier handle, detached.or (reached.relay.resident row.terminalId) = some earlier ∧
      after.opened = reached.opened ++ [⟨handle, true⟩] ∧
      (Refreshed message handle (getTerminal after.relay.store row.terminalId) ↔
        Known message (getTerminal reached.relay.store row.terminalId) row earlier) := by
  obtain ⟨next, hlookup, hbetween⟩ := run_cons_eq_some.mp waited
  obtain ⟨hheld, hnextCall⟩ := held_of_found asks found hlookup
  have hknown : id < before.nextCall := by
    rcases asks with asks | ⟨error, asks⟩
    · exact below_run started _ _ asks
    · exact below_run started _ _ asks
  have hkept : Call.Keeps row (.opened true) ⟨capacity, .obtained held obtainedOrigin detached⟩ := by
    refine keeps_run hbetween (hnextCall ▸ hknown) ?_ _ obtained
    intro call hcall
    cases hheld.symm.trans hcall
    exact .inl rfl
  rcases hkept with hcarries | hended
  · cases hcarries
    obtain ⟨earlier, hearlier, hstore, hopened⟩ := returned_of_obtained obtained returned
    refine ⟨earlier, _, hearlier, hopened, ?_⟩
    rw [hstore]
    exact refreshed_iff
  · cases hended

/-- Terminal 7 has been opened, and call 1 opens it again with this message. -/
def openSevenAgain (message : OpenMessage) : List MetadataAction :=
  openSeven.map .opening ++
    [.opening (.openTerminal (message.request 1 "owner" "shell" true) 16)]

def sameLabel : OpenMessage := ⟨some "shell", none, none, none⟩

def newSize : OpenMessage := ⟨some "shell", some 120, some 40, none⟩

def shellRow : TerminalRow :=
  ⟨7, 1, "owner", "shell", "shell", .opened, none, none, none, true, none, 0, 0⟩

theorem repeated_open_refreshes_sameLabel : ∃ before reached after,
      run (metadataStep 4) System.initial (openSevenAgain sameLabel) = some before ∧
      run (metadataStep 4) before [.opening (.proceed 1 9), .opening (.proceed 1 9)] =
        some reached ∧
      metadataStep 4 reached (.opening (.proceed 1 9)) = some after ∧
      ∃ earlier handle, none.or (reached.relay.resident 7) = some earlier ∧
        after.opened = reached.opened ++ [⟨handle, true⟩] ∧
        (Refreshed sameLabel handle (getTerminal after.relay.store 7) ↔
          Known sameLabel (getTerminal reached.relay.store 7) shellRow earlier) := by
  have hoverall : ∃ before reached after,
      run (metadataStep 4) System.initial (openSevenAgain sameLabel) = some before ∧
      before.calls 1 = some ⟨16, .finding (sameLabel.request 1 "owner" "shell" true)⟩ ∧
      findOpenTerminalByLocalRef before.relay.store 1 "shell" = some shellRow ∧
      run (metadataStep 4) before [.opening (.proceed 1 9), .opening (.proceed 1 9)] =
        some reached ∧
      reached.calls 1 = some ⟨16, .obtained shellRow (.opened true) none⟩ ∧
      metadataStep 4 reached (.opening (.proceed 1 9)) = some after :=
    ⟨_, _, _, rfl, rfl, rfl, rfl, rfl, rfl⟩
  obtain ⟨before, reached, after, hbefore, hasks, hfound, hreached, hobtained, hafter⟩ := hoverall
  exact ⟨before, reached, after, hbefore, hreached, hafter,
    repeated_open_refreshes_iff hbefore (.inl hasks) hfound hreached hobtained hafter⟩

theorem new_size_is_not_shown :
    ¬ ∀ (actions between : List MetadataAction) (before reached after : System) (capacity : Nat)
        (fresh : Uuid) (message : OpenMessage) (row held : TerminalRow)
        (detached : Option TerminalHandle) (handle : TerminalHandle),
      run (metadataStep 4) System.initial actions = some before →
      before.calls 1 = some ⟨capacity, .finding (message.request 1 "owner" "shell" true)⟩ →
      findOpenTerminalByLocalRef before.relay.store 1 "shell" = some row →
      run (metadataStep 4) before (.opening (.proceed 1 fresh) :: between) = some reached →
      reached.calls 1 = some ⟨capacity, .obtained held (.opened true) detached⟩ →
      metadataStep 4 reached (.opening (.proceed 1 fresh)) = some after →
      after.opened = reached.opened ++ [⟨handle, true⟩] →
      Refreshed message handle (getTerminal after.relay.store row.terminalId) := by
  intro claim
  have hrefreshed := claim (openSevenAgain newSize) [.opening (.proceed 1 9)] _ _ _ 16 9 newSize
    shellRow shellRow none _ rfl rfl rfl rfl rfl rfl rfl
  obtain ⟨row, hrow, hshown⟩ := hrefreshed.stored_shown
  have hstored : row = shellRow := (Option.some.inj hrow).symm
  rw [hstored] at hshown
  cases hshown.cols 120 rfl

end Hypeterm.Relay.Opening
