import Hypeterm.Relay.Steps

/-! Opening and loading terminals. Every statement, every look at the resident set and every
change of the lock is a step of its own, so that any other task may act in between. -/
namespace Hypeterm.Relay

open Library

/-- Closed for good, nobody subscribed and nothing left to commit. -/
def TerminalHandle.evictable (handle : TerminalHandle) : Bool :=
  handle.inner.retired && handle.subscriberCount == 0 && handle.dirtyBytes == 0

/-- The flush in progress still asks an evicted handle for its checkpoint.  Such a handle
has none, so the terminal may as well be struck off the list. -/
def FlushPhase.strike (gone : Uuid → Bool) : FlushPhase → FlushPhase
  | .taking remaining pending => .taking (remaining.filter fun terminalId => !gone terminalId) pending
  | flush => flush

def System.evicts (system : System) (terminalId : Uuid) : Bool :=
  (system.resident terminalId).any TerminalHandle.evictable

def System.evictRetired (system : System) : System :=
  { system with
    terminals := system.terminals.filter fun handle => !handle.evictable
    flush := system.flush.strike system.evicts }

end Hypeterm.Relay

namespace Hypeterm.Relay.Opening

open Library
open Db

structure OpenRequest where
  deviceId : Uuid
  identityId : String
  localRef : String
  label : String
  cols : Option Nat
  rows : Option Nat
  term : Option String
  acceptsInput : Bool
  deriving DecidableEq

/-- What the handle is for: `get_or_load`, or an open that found its terminal in the
database or inserted it. -/
inductive Origin where
  | load
  | opened (deduplicated : Bool)

/-- Where a call stands: `finding` to `refinding` in the closure of `open_terminal`,
`looking` and `reading` in `get_or_load`, `held` to `built` in `insert_or_load_handle`.
From `obtained` on it has the handle; `detached` is that handle once it is evicted. -/
inductive Phase where
  | finding (request : OpenRequest)
  | counting (request : OpenRequest)
  | inserting (request : OpenRequest)
  | refinding (request : OpenRequest) (error : ApiError)
  | looking (terminalId : Uuid)
  | reading (terminalId : Uuid)
  | held (row : TerminalRow) (origin : Origin)
  | locking (row : TerminalRow) (origin : Origin)
  | locked (row : TerminalRow) (origin : Origin)
  | loading (row : TerminalRow) (origin : Origin)
  | built (row : TerminalRow) (retained : Bytes) (origin : Origin)
  | obtained (row : TerminalRow) (origin : Origin) (detached : Option TerminalHandle)
  | returned
  | missing
  | failed (error : ApiError)

/-- Phases before a row is known in which a failing statement is the end. -/
def Phase.searches : Phase → Bool
  | .finding _ | .counting _ | .refinding _ _ | .reading _ => true
  | _ => false

structure Call where
  capacity : Nat
  phase : Phase

/-- A handle put into the resident set, with the row its terminal had then. -/
structure Inserted where
  handle : TerminalHandle
  stored : Option TerminalRow

structure Opened where
  handle : TerminalHandle
  deduplicated : Bool

/-- `inserted` and `opened` are histories: no step reads them. -/
structure System where
  relay : Relay.System
  calls : Nat → Option Call
  nextCall : Nat
  loadLock : Option Nat
  inserted : List Inserted
  opened : List Opened

def System.initial : System where
  relay := Relay.System.initial
  calls := fun _ => none
  nextCall := 0
  loadLock := none
  inserted := []
  opened := []

/-- `proceed` names the identifier that an insert would generate. -/
inductive Action where
  | openTerminal (request : OpenRequest) (capacity : Nat)
  | getOrLoad (terminalId : Uuid) (capacity : Nat)
  | proceed (call : Nat) (fresh : Uuid)
  | databaseFails (call : Nat) (error : ApiError)
  | evictRetired
  | relay (action : Relay.Action)
  deriving DecidableEq

namespace System

def setPhase (system : System) (id : Nat) (call : Call) (phase : Phase) : System :=
  { system with calls := Function.update system.calls id (some { call with phase }) }

def begin (system : System) (capacity : Nat) (phase : Phase) : System :=
  { system with
    calls := Function.update system.calls system.nextCall (some ⟨capacity, phase⟩)
    nextCall := system.nextCall + 1 }

def unlock (system : System) : System := { system with loadLock := none }

/-- The first statement of `open_terminal`, and its last one after a failed insert. -/
def find (system : System) (id : Nat) (call : Call) (request : OpenRequest) (otherwise : Phase) :
    System :=
  match findOpenTerminalByLocalRef system.relay.store request.deviceId request.localRef with
  | some existing => system.setPhase id call (.held existing (.opened true))
  | none => system.setPhase id call otherwise

def count (maxTerminals : Nat) (system : System) (id : Nat) (call : Call) (request : OpenRequest) :
    System :=
  let openCount := countOpenTerminalsForDevice system.relay.store request.deviceId
  if maxTerminals ≤ openCount then
    system.setPhase id call (.failed (.limitExceeded
      s!"device already has {openCount} open terminals, the limit is {maxTerminals}"))
  else system.setPhase id call (.inserting request)

/-- Two opens of one `local_ref` can race past the lookup; the unique index decides, and
the loser looks the winner's terminal up. -/
def insert (system : System) (id : Nat) (call : Call) (request : OpenRequest) (fresh : Uuid) :
    System :=
  match insertTerminal system.relay.store fresh request.deviceId request.identityId
      request.localRef request.label request.cols request.rows request.term request.acceptsInput with
  | .ok (row, store) =>
      ({ system with relay := { system.relay with store } } : System).setPhase id call
        (.held row (.opened false))
  | .error error => system.setPhase id call (.refinding request error)

def build (system : System) (id : Nat) (call : Call) (row : TerminalRow) (origin : Origin) : System :=
  match loadTerminalOutput system.relay.store row.terminalId row.earliestOffset with
  | .ok retained => system.setPhase id call (.built row retained origin)
  | .error error => (system.setPhase id call (.failed error)).unlock

/-- The handle replaces whatever the map has under its terminal. -/
def insertHandle (system : System) (id : Nat) (call : Call) (row : TerminalRow) (retained : Bytes)
    (origin : Origin) : System :=
  let handle := TerminalHandle.fromRow row call.capacity retained
  (({ system with
      relay := { system.relay with
        terminals := system.relay.terminals.filter (fun stored =>
          stored.terminalId ≠ row.terminalId) ++ [handle] }
      inserted := system.inserted ++ [⟨handle, getTerminal system.relay.store row.terminalId⟩] }
    : System).setPhase id call (.obtained row origin none)).unlock

def finish (system : System) (id : Nat) (call : Call) (row : TerminalRow) (origin : Origin)
    (handle : TerminalHandle) (resident : Bool) : System :=
  match origin with
  | .load => system.setPhase id call .returned
  | .opened deduplicated =>
      let refresh : HandleOp := .updateMetadata (some row.label) row.cols row.rows row.term
      let refreshed := if deduplicated then handle.apply refresh else handle
      let relay := if deduplicated && resident then system.relay.applyOp handle refresh
        else system.relay
      ({ system with relay, opened := system.opened ++ [⟨refreshed, deduplicated⟩] }
        : System).setPhase id call .returned

def proceed (maxTerminals : Nat) (system : System) (id : Nat) (call : Call) (fresh : Uuid) :
    Option System :=
  match call.phase with
  | .finding request => some (system.find id call request (.counting request))
  | .counting request => some (system.count maxTerminals id call request)
  | .inserting request => some (system.insert id call request fresh)
  | .refinding request error => some (system.find id call request (.failed error))
  | .looking terminalId =>
      some (system.setPhase id call
        (if (system.relay.resident terminalId).isSome then .returned else .reading terminalId))
  | .reading terminalId =>
      match getTerminal system.relay.store terminalId with
      | some row => some (system.setPhase id call (.held row .load))
      | none => some (system.setPhase id call .missing)
  | .held row origin =>
      some (system.setPhase id call
        (if (system.relay.resident row.terminalId).isSome then .obtained row origin none
          else .locking row origin))
  | .locking row origin =>
      if system.loadLock.isNone then
        some { system.setPhase id call (.locked row origin) with loadLock := some id }
      else none
  | .locked row origin =>
      if (system.relay.resident row.terminalId).isSome then
        some (system.setPhase id call (.obtained row origin none)).unlock
      else some (system.setPhase id call (.loading row origin))
  | .loading row origin => some (system.build id call row origin)
  | .built row retained origin => some (system.insertHandle id call row retained origin)
  | .obtained row origin (some handle) => some (system.finish id call row origin handle false)
  | .obtained row origin none =>
      (system.relay.resident row.terminalId).map fun handle =>
        system.finish id call row origin handle true
  | .returned | .missing | .failed _ => none

def databaseFails (system : System) (id : Nat) (call : Call) (error : ApiError) : Option System :=
  match call.phase with
  | .finding _ | .counting _ | .refinding _ _ | .reading _ =>
      some (system.setPhase id call (.failed error))
  | .inserting request => some (system.setPhase id call (.refinding request error))
  | .loading _ _ => some (system.setPhase id call (.failed error)).unlock
  | _ => none

def keepEvicted (relay : Relay.System) (call : Call) : Call :=
  match call.phase with
  | .obtained row origin none =>
      { call with
        phase := .obtained row origin
          ((relay.resident row.terminalId).filter TerminalHandle.evictable) }
  | _ => call

def evictRetired (system : System) : System :=
  { system with
    relay := system.relay.evictRetired
    calls := fun id => (system.calls id).map (keepEvicted system.relay) }

def afterRelay (system : System) (action : Relay.Action) (relay : Relay.System) : System :=
  if action = .crash then
    { system with relay, calls := fun _ => none, loadLock := none }
  else { system with relay }

end System

/-- What the next step of a call can be, and when. -/
inductive Proceeded (maxTerminals : Nat) (system : System) (id : Nat) (call : Call) (fresh : Uuid) :
    System → Prop where
  | finds (request : OpenRequest) (phase_eq : call.phase = .finding request) :
      Proceeded maxTerminals system id call fresh (system.find id call request (.counting request))
  | counts (request : OpenRequest) (phase_eq : call.phase = .counting request) :
      Proceeded maxTerminals system id call fresh (system.count maxTerminals id call request)
  | inserts (request : OpenRequest) (phase_eq : call.phase = .inserting request) :
      Proceeded maxTerminals system id call fresh (system.insert id call request fresh)
  | refinds (request : OpenRequest) (error : ApiError)
      (phase_eq : call.phase = .refinding request error) :
      Proceeded maxTerminals system id call fresh (system.find id call request (.failed error))
  | looks (terminalId : Uuid) (handle : TerminalHandle) (phase_eq : call.phase = .looking terminalId)
      (found : system.relay.resident terminalId = some handle) :
      Proceeded maxTerminals system id call fresh (system.setPhase id call .returned)
  | misses (terminalId : Uuid) (phase_eq : call.phase = .looking terminalId)
      (missing : system.relay.resident terminalId = none) :
      Proceeded maxTerminals system id call fresh (system.setPhase id call (.reading terminalId))
  | reads (terminalId : Uuid) (row : TerminalRow) (phase_eq : call.phase = .reading terminalId)
      (known : getTerminal system.relay.store terminalId = some row) :
      Proceeded maxTerminals system id call fresh (system.setPhase id call (.held row .load))
  | unknown (terminalId : Uuid) (phase_eq : call.phase = .reading terminalId)
      (missing : getTerminal system.relay.store terminalId = none) :
      Proceeded maxTerminals system id call fresh (system.setPhase id call .missing)
  | obtains (row : TerminalRow) (origin : Origin) (handle : TerminalHandle)
      (phase_eq : call.phase = .held row origin)
      (found : system.relay.resident row.terminalId = some handle) :
      Proceeded maxTerminals system id call fresh
        (system.setPhase id call (.obtained row origin none))
  | waits (row : TerminalRow) (origin : Origin) (phase_eq : call.phase = .held row origin)
      (missing : system.relay.resident row.terminalId = none) :
      Proceeded maxTerminals system id call fresh (system.setPhase id call (.locking row origin))
  | acquires (row : TerminalRow) (origin : Origin) (phase_eq : call.phase = .locking row origin)
      (unlocked : system.loadLock = none) :
      Proceeded maxTerminals system id call fresh
        { system.setPhase id call (.locked row origin) with loadLock := some id }
  | releases (row : TerminalRow) (origin : Origin) (handle : TerminalHandle)
      (phase_eq : call.phase = .locked row origin)
      (found : system.relay.resident row.terminalId = some handle) :
      Proceeded maxTerminals system id call fresh
        (system.setPhase id call (.obtained row origin none)).unlock
  | loads (row : TerminalRow) (origin : Origin) (phase_eq : call.phase = .locked row origin)
      (missing : system.relay.resident row.terminalId = none) :
      Proceeded maxTerminals system id call fresh (system.setPhase id call (.loading row origin))
  | builds (row : TerminalRow) (origin : Origin) (retained : Bytes)
      (phase_eq : call.phase = .loading row origin)
      (loaded : loadTerminalOutput system.relay.store row.terminalId row.earliestOffset =
        .ok retained) :
      Proceeded maxTerminals system id call fresh
        (system.setPhase id call (.built row retained origin))
  | corrupt (row : TerminalRow) (origin : Origin) (error : ApiError)
      (phase_eq : call.phase = .loading row origin) :
      Proceeded maxTerminals system id call fresh (system.setPhase id call (.failed error)).unlock
  | attaches (row : TerminalRow) (retained : Bytes) (origin : Origin)
      (phase_eq : call.phase = .built row retained origin) :
      Proceeded maxTerminals system id call fresh (system.insertHandle id call row retained origin)
  | finishesEvicted (row : TerminalRow) (origin : Origin) (handle : TerminalHandle)
      (phase_eq : call.phase = .obtained row origin (some handle)) :
      Proceeded maxTerminals system id call fresh (system.finish id call row origin handle false)
  | finishes (row : TerminalRow) (origin : Origin) (handle : TerminalHandle)
      (phase_eq : call.phase = .obtained row origin none)
      (found : system.relay.resident row.terminalId = some handle) :
      Proceeded maxTerminals system id call fresh (system.finish id call row origin handle true)

theorem proceed_proceeded {maxTerminals : Nat} {system next : System} {id : Nat} {call : Call}
    {fresh : Uuid} (taken : system.proceed maxTerminals id call fresh = some next) :
    Proceeded maxTerminals system id call fresh next := by
  unfold System.proceed at taken
  split at taken
  · rename_i hphase
    cases taken
    exact .finds _ hphase
  · rename_i hphase
    cases taken
    exact .counts _ hphase
  · rename_i hphase
    cases taken
    exact .inserts _ hphase
  · rename_i hphase
    cases taken
    exact .refinds _ _ hphase
  · rename_i hphase
    cases taken
    split
    · rename_i hresident
      obtain ⟨handle, hfound⟩ := Option.isSome_iff_exists.mp hresident
      exact .looks _ handle hphase hfound
    · rename_i hmissing
      exact .misses _ hphase (by simpa using hmissing)
  · rename_i hphase
    split at taken
    · rename_i hknown
      cases taken
      exact .reads _ _ hphase hknown
    · rename_i hmissing
      cases taken
      exact .unknown _ hphase hmissing
  · rename_i hphase
    cases taken
    split
    · rename_i hresident
      obtain ⟨handle, hfound⟩ := Option.isSome_iff_exists.mp hresident
      exact .obtains _ _ handle hphase hfound
    · rename_i hmissing
      exact .waits _ _ hphase (by simpa using hmissing)
  · rename_i hphase
    split at taken
    · rename_i hunlocked
      cases taken
      exact .acquires _ _ hphase (Option.isNone_iff_eq_none.mp hunlocked)
    · cases taken
  · rename_i hphase
    split at taken
    · rename_i hresident
      obtain ⟨handle, hfound⟩ := Option.isSome_iff_exists.mp hresident
      cases taken
      exact .releases _ _ handle hphase hfound
    · rename_i hmissing
      cases taken
      exact .loads _ _ hphase (by simpa using hmissing)
  · rename_i hphase
    cases taken
    unfold System.build
    split
    · rename_i hloaded
      exact .builds _ _ _ hphase hloaded
    · exact .corrupt _ _ _ hphase
  · rename_i hphase
    cases taken
    exact .attaches _ _ _ hphase
  · rename_i hphase
    cases taken
    exact .finishesEvicted _ _ _ hphase
  · rename_i hphase
    obtain ⟨handle, hfound, rfl⟩ := Option.map_eq_some_iff.mp taken
    exact .finishes _ _ handle hphase hfound
  · cases taken
  · cases taken
  · cases taken

def permitted : Relay.Action → Bool
  | .insertTerminal .. | .load .. => false
  | _ => true

def step (maxTerminals : Nat) (system : System) : Action → Option System
  | .openTerminal request capacity => some (system.begin capacity (.finding request))
  | .getOrLoad terminalId capacity => some (system.begin capacity (.looking terminalId))
  | .proceed id fresh =>
      (system.calls id).bind fun call => system.proceed maxTerminals id call fresh
  | .databaseFails id error =>
      (system.calls id).bind fun call => system.databaseFails id call error
  | .evictRetired => some system.evictRetired
  | .relay action =>
      if permitted action then (Relay.step system.relay action).map (system.afterRelay action)
      else none

/-- What one step can do.  A statement that fails ends its call, or sends an insert back to
the lookup; a call that fails while it loads releases the lock. -/
inductive Stepped (maxTerminals : Nat) (system : System) : Action → System → Prop where
  | opens (request : OpenRequest) (capacity : Nat) :
      Stepped maxTerminals system (.openTerminal request capacity)
        (system.begin capacity (.finding request))
  | loads (terminalId : Uuid) (capacity : Nat) :
      Stepped maxTerminals system (.getOrLoad terminalId capacity)
        (system.begin capacity (.looking terminalId))
  | proceeds {next : System} (id : Nat) (fresh : Uuid) (call : Call)
      (found : system.calls id = some call)
      (taken : system.proceed maxTerminals id call fresh = some next) :
      Stepped maxTerminals system (.proceed id fresh) next
  | fails (id : Nat) (call : Call) (error : ApiError) (found : system.calls id = some call)
      (searches : call.phase.searches = true) :
      Stepped maxTerminals system (.databaseFails id error)
        (system.setPhase id call (.failed error))
  | retries (id : Nat) (call : Call) (request : OpenRequest) (error : ApiError)
      (found : system.calls id = some call) (phase_eq : call.phase = .inserting request) :
      Stepped maxTerminals system (.databaseFails id error)
        (system.setPhase id call (.refinding request error))
  | abandons (id : Nat) (call : Call) (row : TerminalRow) (origin : Origin) (error : ApiError)
      (found : system.calls id = some call) (phase_eq : call.phase = .loading row origin) :
      Stepped maxTerminals system (.databaseFails id error)
        (system.setPhase id call (.failed error)).unlock
  | evicts : Stepped maxTerminals system .evictRetired system.evictRetired
  | relays (action : Relay.Action) (relay : Relay.System) (allowed : permitted action = true)
      (running : action ≠ .crash) (taken : Relay.step system.relay action = some relay) :
      Stepped maxTerminals system (.relay action) { system with relay }
  | crashes (relay : Relay.System) (taken : Relay.step system.relay .crash = some relay) :
      Stepped maxTerminals system (.relay .crash)
        { system with relay, calls := fun _ => none, loadLock := none }

theorem step_stepped {maxTerminals : Nat} {system next : System} {action : Action}
    (taken : step maxTerminals system action = some next) :
    Stepped maxTerminals system action next := by
  cases action with
  | openTerminal request capacity =>
    cases taken
    exact .opens request capacity
  | getOrLoad terminalId capacity =>
    cases taken
    exact .loads terminalId capacity
  | proceed id fresh =>
    obtain ⟨call, hfound, hproceed⟩ := Option.bind_eq_some_iff.mp taken
    exact .proceeds id fresh call hfound hproceed
  | databaseFails id error =>
    obtain ⟨call, hfound, hfails⟩ := Option.bind_eq_some_iff.mp taken
    unfold System.databaseFails at hfails
    split at hfails
    case h_5 request hphase =>
      cases hfails
      exact .retries id call request error hfound hphase
    case h_6 row origin hphase =>
      cases hfails
      exact .abandons id call row origin error hfound hphase
    case h_7 => cases hfails
    all_goals
      rename_i hphase
      cases hfails
      exact .fails id call error hfound (by rw [hphase]; rfl)
  | evictRetired =>
    cases taken
    exact .evicts
  | relay action =>
    simp only [step] at taken
    split at taken
    · rename_i hallowed
      obtain ⟨relay, hstep, rfl⟩ := Option.map_eq_some_iff.mp taken
      unfold System.afterRelay
      split
      · rename_i hcrash
        subst hcrash
        exact .crashes relay hstep
      · rename_i hrunning
        exact .relays action relay hallowed hrunning hstep
    · cases taken

theorem not_load_of_permitted {action : Relay.Action} (allowed : permitted action = true)
    (terminalId : Uuid) (capacity : Nat) : action ≠ .load terminalId capacity := by
  rintro rfl
  cases allowed

def shellRequest : OpenRequest := ⟨1, "owner", "shell", "shell", none, none, none, true⟩

def openSeven : List Action :=
  [.openTerminal shellRequest 16, .proceed 0 7, .proceed 0 7, .proceed 0 7, .proceed 0 7,
    .proceed 0 7, .proceed 0 7, .proceed 0 7, .proceed 0 7, .proceed 0 7]

end Hypeterm.Relay.Opening
