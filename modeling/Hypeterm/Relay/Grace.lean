import Hypeterm.Relay.Flush
import Hypeterm.Relay.Registry

/-! The reconnect grace period. Time is a counter that only an action of its own advances, and a
task acts some time after it may. -/
namespace Hypeterm.Relay.Grace

open Library
open Db

/-- Where the task of one lease stands.  `held` is before the lease is dropped; the
phases from `listing` on are `close_device_terminals`. -/
inductive Phase where
  | held
  | failing
  | removing
  | removed
  | sleeping (deadline : Nat)
  | listing
  | closing (rows : List Uuid)
  | loaded (terminalId : Uuid) (rest : List Uuid)
  | missing (terminalId : Uuid) (rest : List Uuid)
  | done

structure Task where
  deviceId : Uuid
  phase : Phase

/-- A terminal that went from open to closing, or closed, after a grace period. -/
structure Closed where
  deviceId : Uuid
  terminalId : Uuid
  time : Nat
  deriving DecidableEq

/-- `tasks` are named by the generation of their lease; `closed` is history. -/
structure System where
  now : Nat
  registry : Registry
  shuttingDown : Bool
  relay : Relay.System
  tasks : Nat → Option Task
  closed : List Closed

def System.initial : System where
  now := 0
  registry := Registry.new
  shuttingDown := false
  relay := Relay.System.initial
  tasks := fun _ => none
  closed := []

inductive Action where
  | elapse (units : Nat)
  | attach (deviceId : Uuid) (connectionId : String) (version : ProtocolVersion) (inputQueue : Nat)
  | dropLease (generation : Nat)
  | proceed (generation : Nat) (capacity : Nat)
  | databaseFails (generation : Nat)
  | beginShutdown
  | relay (action : Relay.Action)

def disconnectReason : String := "publisher_disconnected"

namespace System

def setTask (system : System) (generation : Nat) (deviceId : Uuid) (phase : Phase) : System :=
  { system with tasks := Function.update system.tasks generation (some ⟨deviceId, phase⟩) }

def attach (system : System) (deviceId : Uuid) (connectionId : String)
    (version : ProtocolVersion) (inputQueue : Nat) : System :=
  let attached := system.registry.attachPublisher deviceId connectionId version
    (if version.supportsInput then some inputQueue else none)
  ({ system with registry := attached.1 } : System).setTask attached.2.1 deviceId .held

/-- A newer connection keeps the slot, and the task ends. -/
def remove (system : System) (generation : Nat) (deviceId : Uuid) : System :=
  let detached := system.registry.detachPublisher deviceId generation
  ({ system with registry := detached.1 } : System).setTask generation deviceId
    (if detached.2 then .removed else .done)

/-- What the task does when it wakes: someone reconnected, or the relay is shutting
down, and the terminals stay open. -/
def expire (system : System) (generation : Nat) (deviceId : Uuid) : System :=
  system.setTask generation deviceId
    (if system.registry.publisherConnected deviceId || system.shuttingDown then .done else .listing)

/-- `get_or_load`; a terminal whose output cannot be read ends the task. -/
def getOrLoad (system : System) (generation : Nat) (deviceId : Uuid) (terminalId : Uuid)
    (rest : List Uuid) (capacity : Nat) : System :=
  match system.relay.resident terminalId, getTerminal system.relay.store terminalId with
  | some _, _ => system.setTask generation deviceId (.loaded terminalId rest)
  | none, none => system.setTask generation deviceId (.missing terminalId rest)
  | none, some _ =>
      let loaded := system.relay.load terminalId capacity
      match loaded.resident terminalId with
      | some _ =>
          ({ system with relay := loaded } : System).setTask generation deviceId
            (.loaded terminalId rest)
      | none => system.setTask generation deviceId .done

def beginClose (system : System) (generation : Nat) (deviceId : Uuid) (handle : TerminalHandle)
    (rest : List Uuid) : System :=
  ({ system with
     relay := system.relay.applyOp handle (.beginClose disconnectReason)
     closed := system.closed ++
       if (handle.beginClose disconnectReason).2 then
         [⟨deviceId, handle.terminalId, system.now⟩] else [] }
    : System).setTask generation deviceId (.closing rest)

def closeWithoutOutput (system : System) (generation : Nat) (deviceId terminalId : Uuid)
    (rest : List Uuid) : System :=
  ({ system with
     relay := { system.relay with
       store := closeTerminalWithoutOutput system.relay.store terminalId disconnectReason }
     closed := system.closed ++
       if (getTerminal system.relay.store terminalId).any fun row => row.state = .opened then
         [⟨deviceId, terminalId, system.now⟩] else [] }
    : System).setTask generation deviceId (.closing rest)

/-- The next section of `on_publisher_detached`. -/
def proceed (grace : Nat) (system : System) (generation : Nat) (task : Task) (capacity : Nat) :
    Option System :=
  match task.phase with
  | .held => none
  | .failing =>
      some (({ system with registry := system.registry.failOpenRequestsForDevice task.deviceId }
        : System).setTask generation task.deviceId .removing)
  | .removing => some (system.remove generation task.deviceId)
  | .removed =>
      some (system.setTask generation task.deviceId
        (if system.shuttingDown then .done else .sleeping (system.now + grace)))
  | .sleeping deadline =>
      if system.now < deadline then none else some (system.expire generation task.deviceId)
  | .listing =>
      some (system.setTask generation task.deviceId
        (.closing ((listOpenTerminalsForDevice system.relay.store task.deviceId).map
          TerminalRow.terminalId)))
  | .closing [] => some (system.setTask generation task.deviceId .done)
  | .closing (terminalId :: rest) =>
      some (system.getOrLoad generation task.deviceId terminalId rest capacity)
  | .loaded terminalId rest =>
      (system.relay.resident terminalId).map fun handle =>
        system.beginClose generation task.deviceId handle rest
  | .missing terminalId rest =>
      some (system.closeWithoutOutput generation task.deviceId terminalId rest)
  | .done => none

end System

/-- One process: it does not crash.  What the tasks of the relay do to the terminals is
their own steps, except that no publisher closes a terminal under the reason of a
disconnect. -/
def relayStep (system : Relay.System) : Relay.Action → Option Relay.System
  | .crash => none
  | .handle terminalId op =>
      if op = .beginClose disconnectReason then none else Relay.step system (.handle terminalId op)
  | action => Relay.step system action

def step (grace : Nat) (system : System) : Action → Option System
  | .elapse units => some { system with now := system.now + units }
  | .attach deviceId connectionId version inputQueue =>
      some (system.attach deviceId connectionId version inputQueue)
  | .dropLease generation =>
      match system.tasks generation with
      | some ⟨deviceId, .held⟩ => some (system.setTask generation deviceId .failing)
      | _ => none
  | .proceed generation capacity =>
      (system.tasks generation).bind fun task => system.proceed grace generation task capacity
  | .databaseFails generation =>
      match system.tasks generation with
      | some ⟨deviceId, .listing⟩ | some ⟨deviceId, .closing (_ :: _)⟩
      | some ⟨deviceId, .missing _ _⟩ => some (system.setTask generation deviceId .done)
      | _ => none
  | .beginShutdown => some { system with shuttingDown := true }
  | .relay action => (relayStep system.relay action).map fun relay => { system with relay := relay }

end Hypeterm.Relay.Grace
