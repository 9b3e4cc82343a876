import Hypeterm.Relay.Registry

/-! The select loop of publisher connections, and the takeover of a device's slot by a newer
connection. One pass of the loop creates a future for each arm and polls them in the order they
are written; the futures are dropped before an arm's body runs. -/
namespace Hypeterm.Relay.PublisherLoop

open Library

/-- The arms of the select in the order they are polled. -/
inductive Arm where
  | supersede
  | shutdown
  | recheck
  | delivery
  | sleep
  | incoming
  deriving DecidableEq

inductive Message where
  | binary (bytes : Bytes)
  | text (text : String)
  | ping
  | pong
  | close
  deriving DecidableEq

/-- Where a connection stands.  `polling` and `parked` are the phases in which the pass
has its futures, and `notified` is whether the supersede future has been woken.  A
connection that is writing its last message before a `break` has already `left`.
`late` is history: the message was taken after the connection had been superseded. -/
inductive Phase where
  | starting
  | top
  | polling (arm : Arm) (notified : Bool)
  | parked (notified : Bool)
  | body (arm : Arm)
  | handling (message : Message) (late : Bool)
  | left
  deriving DecidableEq

structure Loop where
  deviceId : Uuid
  version : ProtocolVersion
  phase : Phase

/-- What `attach_publisher`, or `enforce_device_revocation`, still has to do with the
slot it took out of the table. -/
inductive TakeoverStage where
  | failing
  | notifying
  | dropping

structure Takeover where
  deviceId : Uuid
  previous : PublisherSlot
  stage : TakeoverStage

/-- A message taken from a connection's stream. -/
structure Taken where
  generation : Nat
  message : Message
  late : Bool

/-- What a handled message does to the terminals of the device. -/
inductive Operation where
  | append
  | open
  | resize
  | close
  deriving DecidableEq

structure Performed where
  generation : Nat
  operation : Operation
  late : Bool
  deriving DecidableEq

/-- `takeovers` are named by the new connection and `revocations` by the old one.
`superseded`, `taken` and `performed` are history: which connections a finished
`attach_publisher` has replaced, and what every connection did. -/
structure System where
  registry : Registry
  loops : Nat → Option Loop
  takeovers : Nat → Option Takeover
  revocations : Nat → Option Takeover
  superseded : Nat → Bool
  taken : List Taken
  performed : List Performed

def System.initial : System where
  registry := Registry.new
  loops := fun _ => none
  takeovers := fun _ => none
  revocations := fun _ => none
  superseded := fun _ => false
  taken := []
  performed := []

/-- What the future of an arm answers when it is polled.  The supersede and the
delivery arm answer from the state. -/
inductive Answer where
  | pending
  | changed (shutdown : Bool)
  | tick
  | elapsed (expired : Bool)
  | message (message : Message)
  | ended
  deriving DecidableEq

/-- Connections are named by their generation.  `continues` is whether the body of an
arm, or the handler of a message, lets the loop go on. -/
inductive Action where
  | attach (deviceId : Uuid) (connectionId : String) (version : ProtocolVersion) (inputQueue : Nat)
  | takeover (generation : Nat)
  | upgrade (generation : Nat)
  | select (generation : Nat)
  | poll (generation : Nat) (answer : Answer)
  | wake (generation : Nat)
  | perform (generation : Nat) (operation : Operation)
  | finish (generation : Nat) (continues : Bool)
  | closeReceiver (generation : Nat)
  | detach (generation : Nat)
  | deliver (deviceId : Uuid) (delivery : PublisherDelivery)
  | failOpenRequests (deviceId : Uuid)
  | enforceRevocation (deviceId : Uuid)
  | revocation (generation : Nat)
  | terminateAll

namespace Phase

/-- `notify_waiters`, seen from the connection: a future that does not exist yet keeps
no trace of it. -/
def notify : Phase → Phase
  | .polling arm _ => .polling arm true
  | .parked _ => .parked true
  | phase => phase

/-- What a message does to the loop before any handler runs. -/
def take (message : Message) (late : Bool) : Phase :=
  match message with
  | .binary _ | .text _ => .handling message late
  | .ping | .pong => .top
  | .close => .left

end Phase

/-- `on_binary` appends; `on_text` opens, resizes or closes. -/
def Message.mayPerform : Message → Operation → Bool
  | .binary _, .append => true
  | .text _, .open | .text _, .resize | .text _, .close => true
  | _, _ => false

namespace System

def setPhase (system : System) (generation : Nat) (loop : Loop) (phase : Phase) : System :=
  { system with
    loops := Function.update system.loops generation (some { loop with phase := phase }) }

def updateChannel (system : System) (generation : Nat)
    (f : Channel PublisherDelivery → Channel PublisherDelivery) : System :=
  { system with
    registry := { system.registry with
      channels := Function.update system.registry.channels generation
        (f (system.registry.channels generation)) } }

def notifyWaiters (system : System) (generation : Nat) : System :=
  match system.loops generation with
  | some loop => system.setPhase generation loop loop.phase.notify
  | none => system

def dropSlot (system : System) (slot : PublisherSlot) : System :=
  match slot.inputTx with
  | some inputTx => system.updateChannel inputTx Channel.closeSender
  | none => system

def attach (system : System) (deviceId : Uuid) (connectionId : String)
    (version : ProtocolVersion) (inputQueue : Nat) : System :=
  let attached := system.registry.attachPublisher deviceId connectionId version
    (if version.supportsInput then some inputQueue else none)
  { system with
    registry := attached.1
    loops := Function.update system.loops attached.2.1 (some ⟨deviceId, version, .starting⟩)
    takeovers := Function.update system.takeovers attached.2.1
      (attached.2.2.map fun previous => ⟨deviceId, previous, .failing⟩) }

/-- The rest of `attach_publisher`, one section at a time.  The previous slot is
dropped last, and with that the call returns. -/
def takeover (system : System) (generation : Nat) (takeover : Takeover) : System :=
  match takeover.stage with
  | .failing =>
      { system with
        registry := system.registry.failOpenRequestsForDevice takeover.deviceId
        takeovers := Function.update system.takeovers generation
          (some { takeover with stage := .notifying }) }
  | .notifying =>
      { system.notifyWaiters takeover.previous.generation with
        takeovers := Function.update system.takeovers generation
          (some { takeover with stage := .dropping }) }
  | .dropping =>
      { system.dropSlot takeover.previous with
        takeovers := Function.update system.takeovers generation none
        superseded := Function.update system.superseded takeover.previous.generation true }

/-- Poll the delivery arm.  A version 1 connection has no channel and waits for ever;
an empty channel whose senders are gone ends the loop. -/
def pollDelivery (system : System) (generation : Nat) (loop : Loop) (notified : Bool) : System :=
  if loop.version.supportsInput then
    match (system.registry.channels generation).recv with
    | some (_, channel) =>
        (system.updateChannel generation fun _ => channel).setPhase generation loop (.body .delivery)
    | none =>
        if (system.registry.channels generation).senderAlive then
          system.setPhase generation loop (.polling .sleep notified)
        else system.setPhase generation loop .left
  else system.setPhase generation loop (.polling .sleep notified)

def take (system : System) (generation : Nat) (loop : Loop) (message : Message) : System :=
  { system.setPhase generation loop (.take message (system.superseded generation)) with
    taken := system.taken ++ [⟨generation, message, system.superseded generation⟩] }

def poll (system : System) (generation : Nat) (loop : Loop) (arm : Arm) (notified : Bool)
    (answer : Answer) : Option System :=
  match arm, answer with
  | .supersede, .pending =>
      some (system.setPhase generation loop (if notified then .left else .polling .shutdown notified))
  | .shutdown, .pending => some (system.setPhase generation loop (.polling .recheck notified))
  | .shutdown, .changed shutdown =>
      some (system.setPhase generation loop (if shutdown then .left else .top))
  | .recheck, .pending => some (system.setPhase generation loop (.polling .delivery notified))
  | .recheck, .tick => some (system.setPhase generation loop (.body .recheck))
  | .delivery, .pending => some (system.pollDelivery generation loop notified)
  | .sleep, .pending => some (system.setPhase generation loop (.polling .incoming notified))
  | .sleep, .elapsed expired =>
      some (system.setPhase generation loop (if expired then .left else .body .sleep))
  | .incoming, .pending => some (system.setPhase generation loop (.parked notified))
  | .incoming, .message message => some (system.take generation loop message)
  | .incoming, .ended => some (system.setPhase generation loop .left)
  | _, _ => none

def enforceRevocation (system : System) (deviceId : Uuid) : System :=
  match system.registry.publishers deviceId with
  | some slot =>
      { system with
        registry := { system.registry with
          publishers := Function.update system.registry.publishers deviceId none }
        revocations := Function.update system.revocations slot.generation
          (some ⟨deviceId, slot, .notifying⟩) }
  | none => system

/-- A revoked slot is signalled and dropped; nothing replaced it. -/
def revocation (system : System) (generation : Nat) (revocation : Takeover) : System :=
  match revocation.stage with
  | .failing | .notifying =>
      { system.notifyWaiters revocation.previous.generation with
        revocations := Function.update system.revocations generation
          (some { revocation with stage := .dropping }) }
  | .dropping =>
      { system.dropSlot revocation.previous with
        revocations := Function.update system.revocations generation none }

/-- The slot of every device is signalled under one lock. -/
def terminateAll (system : System) : System :=
  { system with
    loops := fun generation =>
      (system.loops generation).map fun loop =>
        if (system.registry.publishers loop.deviceId).any fun slot => slot.generation = generation
        then { loop with phase := loop.phase.notify } else loop }

end System

def step (system : System) : Action → Option System
  | .attach deviceId connectionId version inputQueue =>
      some (system.attach deviceId connectionId version inputQueue)
  | .takeover generation =>
      (system.takeovers generation).map (system.takeover generation)
  | .upgrade generation =>
      match system.loops generation with
      | some loop =>
          -- The request task owns the attach until it has returned the lease.
          if loop.phase = .starting ∧ system.takeovers generation = none then
            some (system.setPhase generation loop .top)
          else none
      | none => none
  | .select generation =>
      match system.loops generation with
      | some loop =>
          if loop.phase = .top then
            some (system.setPhase generation loop (.polling .supersede false))
          else none
      | none => none
  | .poll generation answer =>
      match system.loops generation with
      | some loop =>
          match loop.phase with
          | .polling arm notified => system.poll generation loop arm notified answer
          | _ => none
      | none => none
  | .wake generation =>
      match system.loops generation with
      | some loop =>
          match loop.phase with
          | .parked notified =>
              some (system.setPhase generation loop (.polling .supersede notified))
          | _ => none
      | none => none
  | .perform generation operation =>
      match system.loops generation with
      | some loop =>
          match loop.phase with
          | .handling message late =>
              if message.mayPerform operation then
                some { system with
                  performed := system.performed ++ [⟨generation, operation, late⟩] }
              else none
          | _ => none
      | none => none
  | .finish generation continues =>
      match system.loops generation with
      | some loop =>
          match loop.phase with
          | .body _ | .handling _ _ =>
              some (system.setPhase generation loop (if continues then .top else .left))
          | _ => none
      | none => none
  | .closeReceiver generation =>
      match system.loops generation with
      | some loop =>
          if loop.phase = .left then some (system.updateChannel generation Channel.closeReceiver)
          else none
      | none => none
  | .detach generation =>
      match system.loops generation with
      | some loop =>
          if loop.phase = .left then
            some { system with
              registry := (system.registry.detachPublisher loop.deviceId generation).1 }
          else none
      | none => none
  | .deliver deviceId delivery =>
      match system.registry.deliverToPublisher deviceId delivery with
      | .ok registry => some { system with registry := registry }
      | .error _ => none
  -- A detach and a revocation fail the device's requests in a section of their own.
  | .failOpenRequests deviceId =>
      some { system with registry := system.registry.failOpenRequestsForDevice deviceId }
  | .enforceRevocation deviceId => some (system.enforceRevocation deviceId)
  | .revocation generation =>
      (system.revocations generation).map (system.revocation generation)
  | .terminateAll => some system.terminateAll

end Hypeterm.Relay.PublisherLoop
