import Hypeterm.Relay.Opening
import Hypeterm.Relay.Registry

/-! Who looks after an open terminal. Every section between two locks or awaits is a step of its
own. -/
namespace Hypeterm.Relay.Custody

open Library
open Db

/-- The task of a lease is named by the generation of its connection. -/
inductive TaskId where
  | lease (generation : Nat)
  | revocation (id : Nat)
  deriving DecidableEq

/-- Where a task stands.  `held` is before the lease is dropped, `failing` to `sleeping`
are `on_publisher_detached`, `revoking` and `revoked` are `enforce_device_revocation`, and
from `listing` on both are in `close_device_terminals`, where `visiting` awaits the call of
`get_or_load` for a terminal. -/
inductive Phase where
  | held
  | failing
  | removing
  | removed
  | sleeping (deadline : Nat)
  | revoking
  | revoked
  | listing
  | closing (rows : List Uuid)
  | visiting (terminalId : Uuid) (call : Nat) (rest : List Uuid)
  | done

structure Task where
  deviceId : Uuid
  reason : String
  phase : Phase

/-- `owners` names the connection of an open.  `late` and `abandoned` are histories: the
terminals inserted while nobody was there to close them, and those that a failed
`close_device_terminals` left unvisited. -/
structure System where
  now : Nat
  registry : Registry
  opening : Opening.System
  tasks : TaskId → Option Task
  nextRevocation : Nat
  owners : Nat → Option Nat
  late : List Uuid
  abandoned : List Uuid

def System.initial : System where
  now := 0
  registry := Registry.new
  opening := Opening.System.initial
  tasks := fun _ => none
  nextRevocation := 0
  owners := fun _ => none
  late := []
  abandoned := []

inductive Action where
  | elapse (units : Nat)
  | attach (deviceId : Uuid) (connectionId : String) (version : ProtocolVersion) (inputQueue : Nat)
  | dropLease (generation : Nat)
  | openTerminal (generation : Nat) (request : Opening.OpenRequest) (capacity : Nat)
  | revoke (deviceId : Uuid)
  | proceed (task : TaskId) (capacity : Nat)
  | databaseFails (task : TaskId)
  | opening (action : Opening.Action)

/-- The task has yet to list the open terminals of its device, and will unless a publisher
is connected then. -/
def Phase.willList : Phase → Bool
  | .removed | .sleeping _ | .revoking | .revoked | .listing => true
  | _ => false

def Phase.willVisit (terminalId : Uuid) : Phase → Bool
  | .closing rows => rows.contains terminalId
  | .visiting visited _ rest => terminalId = visited || rest.contains terminalId
  | phase => phase.willList

def hasHandle : Opening.Phase → Bool
  | .returned | .obtained _ _ none => true
  | _ => false

def inFlight : Opening.Phase → Bool
  | .returned | .missing | .failed _ => false
  | _ => true

namespace System

def taskIds (system : System) : List TaskId :=
  (List.range system.registry.nextGeneration).map .lease ++
    (List.range system.nextRevocation).map .revocation

def anyTask (system : System) (deviceId : Uuid) (test : Phase → Bool) : Bool :=
  system.taskIds.any fun id =>
    (system.tasks id).any fun task => task.deviceId = deviceId && test task.phase

/-- A slot, a pending grace period or a close that will visit the terminal. -/
def attends (system : System) (row : TerminalRow) : Bool :=
  system.registry.publisherConnected row.deviceId ||
    system.anyTask row.deviceId (Phase.willVisit row.terminalId)

/-- A terminal of the device that is inserted now will be looked after. -/
def awaits (system : System) (deviceId : Uuid) : Bool :=
  system.registry.publisherConnected deviceId || system.anyTask deviceId Phase.willList

/-- A connection takes one message at a time, and an open is awaited there. -/
def busy (system : System) (generation : Nat) : Bool :=
  (List.range system.opening.nextCall).any fun id =>
    system.owners id = some generation &&
      (system.opening.calls id).any fun call => inFlight call.phase

def setTask (system : System) (id : TaskId) (task : Task) (phase : Phase) : System :=
  { system with tasks := Function.update system.tasks id (some { task with phase }) }

def attach (system : System) (deviceId : Uuid) (connectionId : String)
    (version : ProtocolVersion) (inputQueue : Nat) : System :=
  let attached := system.registry.attachPublisher deviceId connectionId version
    (if version.supportsInput then some inputQueue else none)
  { system with
    registry := attached.1
    tasks := Function.update system.tasks (.lease attached.2.1)
      (some ⟨deviceId, "publisher_disconnected", .held⟩) }

def openTerminal (system : System) (generation : Nat) (request : Opening.OpenRequest)
    (capacity : Nat) : System :=
  { system with
    opening := system.opening.begin capacity (.finding request)
    owners := Function.update system.owners system.opening.nextCall (some generation) }

def revoke (system : System) (deviceId : Uuid) : System :=
  { system with
    tasks := Function.update system.tasks (.revocation system.nextRevocation)
      (some ⟨deviceId, "device_revoked", .revoking⟩)
    nextRevocation := system.nextRevocation + 1 }

/-- A newer connection keeps the slot, and the task ends. -/
def remove (system : System) (id : TaskId) (task : Task) (generation : Nat) : System :=
  let detached := system.registry.detachPublisher task.deviceId generation
  ({ system with registry := detached.1 } : System).setTask id task
    (if detached.2 then .removed else .done)

def withRelay (system : System) (relay : Relay.System) : System :=
  { system with opening := { system.opening with relay } }

def visit (system : System) (id : TaskId) (task : Task) (terminalId : Uuid) (rest : List Uuid)
    (capacity : Nat) : System :=
  ({ system with opening := system.opening.begin capacity (.looking terminalId) }
    : System).setTask id task (.visiting terminalId system.opening.nextCall rest)

def beginClose (system : System) (id : TaskId) (task : Task) (terminalId : Uuid)
    (rest : List Uuid) : System :=
  match system.opening.relay.resident terminalId with
  | some handle =>
      (system.withRelay (system.opening.relay.applyOp handle (.beginClose task.reason))).setTask id
        task (.closing rest)
  | none => system.setTask id task (.closing rest)

def closeWithoutOutput (system : System) (id : TaskId) (task : Task) (terminalId : Uuid)
    (rest : List Uuid) : System :=
  (system.withRelay { system.opening.relay with
    store := closeTerminalWithoutOutput system.opening.relay.store terminalId task.reason }).setTask
      id task (.closing rest)

/-- An error ends `close_device_terminals`. -/
def abandon (system : System) (id : TaskId) (task : Task) (rows : List Uuid) : System :=
  { system.setTask id task .done with abandoned := system.abandoned ++ rows }

/-- The visit goes on when its call has the handle, found no row, or failed. -/
def proceedVisit (system : System) (id : TaskId) (task : Task) (terminalId : Uuid) (call : Nat)
    (rest : List Uuid) : Option System :=
  match (system.opening.calls call).map Opening.Call.phase with
  | some .returned | some (.obtained _ _ none) =>
      some (system.beginClose id task terminalId rest)
  | some .missing => some (system.closeWithoutOutput id task terminalId rest)
  | some (.failed _) => some (system.abandon id task (terminalId :: rest))
  | _ => none

/-- The next section of a task.  No shutdown has begun. -/
def proceed (grace : Nat) (system : System) (id : TaskId) (task : Task) (capacity : Nat) :
    Option System :=
  match task.phase, id with
  | .failing, _ =>
      some (({ system with registry := system.registry.failOpenRequestsForDevice task.deviceId }
        : System).setTask id task .removing)
  | .removing, .lease generation => some (system.remove id task generation)
  | .removed, _ => some (system.setTask id task (.sleeping (system.now + grace)))
  | .sleeping deadline, _ =>
      if system.now < deadline then none
      else some (system.setTask id task
        (if system.registry.publisherConnected task.deviceId then .done else .listing))
  | .revoking, _ =>
      some (({ system with registry := system.registry.removePublisher task.deviceId }
        : System).setTask id task .revoked)
  | .revoked, _ =>
      some (({ system with registry := system.registry.failOpenRequestsForDevice task.deviceId }
        : System).setTask id task .listing)
  | .listing, _ =>
      some (system.setTask id task (.closing
        ((listOpenTerminalsForDevice system.opening.relay.store task.deviceId).map
          TerminalRow.terminalId)))
  | .closing [], _ => some (system.setTask id task .done)
  | .closing (terminalId :: rest), _ => some (system.visit id task terminalId rest capacity)
  | .visiting terminalId call rest, _ => system.proceedVisit id task terminalId call rest
  | _, _ => none

/-- A statement of `close_device_terminals` itself fails. -/
def databaseFails (system : System) (id : TaskId) (task : Task) : Option System :=
  match task.phase with
  | .listing =>
      some (system.abandon id task
        ((listOpenTerminalsForDevice system.opening.relay.store task.deviceId).map
          TerminalRow.terminalId))
  | .visiting terminalId call rest =>
      match (system.opening.calls call).map Opening.Call.phase with
      | some .missing => some (system.abandon id task (terminalId :: rest))
      | _ => none
  | _ => none

/-- A handle evicted under a visit is retired, and closing it does nothing. -/
def passEvicted (opening : Opening.System) (task : Task) : Task :=
  match task.phase with
  | .visiting terminalId call rest =>
      if opening.relay.evicts terminalId &&
          (opening.calls call).any fun call => hasHandle call.phase then
        { task with phase := .closing rest }
      else task
  | _ => task

def insertedBy (before after : Opening.System) : Opening.Action → Option (Uuid × Uuid)
  | .proceed id fresh =>
      match (before.calls id).map Opening.Call.phase with
      | some (.inserting request) =>
          if (getTerminal before.relay.store fresh).isNone &&
              (getTerminal after.relay.store fresh).isSome then
            some (fresh, request.deviceId)
          else none
      | _ => none
  | _ => none

def afterOpening (system : System) (action : Opening.Action) (opening : Opening.System) : System :=
  { system with
    opening
    tasks :=
      if action = .evictRetired then
        fun id => (system.tasks id).map (passEvicted system.opening)
      else system.tasks
    late := system.late ++
      match insertedBy system.opening opening action with
      | some (terminalId, deviceId) => if system.awaits deviceId then [] else [terminalId]
      | none => [] }

end System

/-- Opens come from connections, and the process does not crash. -/
def permitted : Opening.Action → Bool
  | .openTerminal _ _ | .relay .crash => false
  | _ => true

def step (grace maxTerminals : Nat) (system : System) : Action → Option System
  | .elapse units => some { system with now := system.now + units }
  | .attach deviceId connectionId version inputQueue =>
      some (system.attach deviceId connectionId version inputQueue)
  | .dropLease generation =>
      match system.tasks (.lease generation) with
      | some ⟨deviceId, reason, .held⟩ =>
          if system.busy generation then none
          else some (system.setTask (.lease generation) ⟨deviceId, reason, .held⟩ .failing)
      | _ => none
  | .openTerminal generation request capacity =>
      match system.tasks (.lease generation) with
      | some ⟨deviceId, _, .held⟩ =>
          if deviceId = request.deviceId ∧ system.busy generation = false then
            some (system.openTerminal generation request capacity)
          else none
      | _ => none
  | .revoke deviceId => some (system.revoke deviceId)
  | .proceed id capacity =>
      (system.tasks id).bind fun task => system.proceed grace id task capacity
  | .databaseFails id => (system.tasks id).bind fun task => system.databaseFails id task
  | .opening action =>
      if permitted action then
        (Opening.step maxTerminals system.opening action).map (system.afterOpening action)
      else none

end Hypeterm.Relay.Custody
