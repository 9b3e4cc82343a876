import Hypeterm.Relay.Frames
import Hypeterm.Relay.Registry
import Hypeterm.Relay.Flush

/-! Terminal input.  `handle_input_frame` reads the handle twice, claims a sequence
from it and hands the frame to the publisher's slot, taking a lock each time; other
subscriptions and the publisher's connections move between these sections. -/
namespace Hypeterm.Relay.Input

open Library
open Db (TerminalRow)

structure Settings where
  inputEnabled : Bool
  maxInputFrameBytes : Nat
  deriving DecidableEq

structure InputState where
  expectedSequence : Nat
  acceptedThrough : Nat

def InputState.new : InputState := ⟨1, 0⟩

inductive ServerMessage where
  | error (code message : String) (terminalId : Option Uuid)
  | inputAck (acceptedThrough relaySequence : Nat)
  deriving DecidableEq

/-- Where a mirror task stands: waiting for a frame, between two sections of
`handle_input_frame`, or out of its loop. -/
inductive Phase where
  | waiting
  | permitted (settings : Settings) (decoded : MirrorInputFrame)
  | accepted (settings : Settings) (decoded : MirrorInputFrame)
  | approved (decoded : MirrorInputFrame)
  | claimed (decoded : MirrorInputFrame) (relaySequence : Nat)
  | ended
  deriving DecidableEq

structure Mirror where
  terminalId : Uuid
  version : ProtocolVersion
  maySendInput : Bool
  state : InputState
  phase : Phase
  sent : List ServerMessage

/-- An input frame that entered a publisher's channel. -/
structure Delivered where
  terminalId : Uuid
  generation : Nat
  mirror : Nat
  clientSequence : Nat
  relaySequence : Nat
  payload : Bytes

structure System where
  registry : Registry
  terminals : Uuid → Option TerminalHandle
  mirrors : Nat → Option Mirror
  nextMirror : Nat
  delivered : List Delivered

def System.initial : System where
  registry := Registry.new
  terminals := fun _ => none
  mirrors := fun _ => none
  nextMirror := 0
  delivered := []

/-- `framesTaken` and `bytesTaken` are what the two rate-limit buckets answer. -/
inductive Action where
  | load (row : TerminalRow) (capacity : Nat) (retained : Bytes)
  | handle (terminalId : Uuid) (op : HandleOp)
  | attach (deviceId : Uuid) (connectionId : String) (version : ProtocolVersion) (inputQueue : Nat)
  | detach (deviceId : Uuid) (generation : Nat)
  | receive (generation : Nat)
  | closeReceiver (generation : Nat)
  | connect (terminalId : Uuid) (version : ProtocolVersion) (maySendInput : Bool)
  | frame (mirror : Nat) (bytes : Bytes) (settings : Settings)
  | proceed (mirror : Nat) (framesTaken bytesTaken : Bool)
  | disconnect (mirror : Nat)
  deriving DecidableEq

namespace Mirror

/-- Tell the subscriber why a frame was refused; the subscription stays open. -/
def refuse (mirror : Mirror) (code message : String) : Mirror :=
  { mirror with
    phase := .waiting
    sent := mirror.sent ++ [.error code message (some mirror.terminalId)] }

def fail (mirror : Mirror) (code message : String) : Mirror :=
  { mirror with phase := .ended, sent := mirror.sent ++ [.error code message none] }

/-- Decoding, and the two refusals that look at nothing shared. -/
def takeFrame (mirror : Mirror) (bytes : Bytes) (settings : Settings) : Mirror :=
  if !mirror.version.supportsInput then
    mirror.fail "invalid_message" "terminal-relay.mirror.v1 subscribers must not send binary frames"
  else
    match decodeMirrorInputFrame bytes with
    | .error error => mirror.fail "invalid_message" error.display
    | .ok decoded =>
        if !settings.inputEnabled then
          mirror.refuse "input_disabled" "terminal input is disabled by the operator"
        else if !mirror.maySendInput then
          mirror.refuse "input_forbidden" "this subscription does not hold the terminals:input scope"
        else { mirror with phase := .permitted settings decoded }

def checkAccepts (mirror : Mirror) (settings : Settings) (decoded : MirrorInputFrame)
    (handle : TerminalHandle) : Mirror :=
  if !handle.inner.acceptsInput then
    mirror.refuse "input_not_accepted" "the publishing device did not opt in to terminal input"
  else { mirror with phase := .accepted settings decoded }

/-- The lifecycle, and the refusals that follow it without another lock. -/
def checkFrame (mirror : Mirror) (settings : Settings) (decoded : MirrorInputFrame)
    (handle : TerminalHandle) (framesTaken bytesTaken : Bool) : Mirror :=
  if handle.inner.lifecycle ≠ .opened then mirror.refuse "terminal_closed" "terminal is closed"
  else if decoded.payload.isEmpty then
    mirror.refuse "invalid_message" "zero-length input frames must not be sent"
  else if settings.maxInputFrameBytes < decoded.payload.length then
    mirror.refuse "limit_exceeded" ("input frame exceeds the negotiated maximum of " ++
      toString settings.maxInputFrameBytes ++ " bytes")
  else if decoded.clientSequence ≠ mirror.state.expectedSequence then
    mirror.refuse "input_sequence_mismatch" ("expected client sequence " ++
      toString mirror.state.expectedSequence)
  else if !framesTaken || !bytesTaken then
    mirror.refuse "rate_limited" "input rate limit exceeded for this subscription"
  else { mirror with phase := .approved decoded }

def acknowledge (mirror : Mirror) (decoded : MirrorInputFrame) (relaySequence : Nat) : Mirror :=
  { mirror with
    state := ⟨mirror.state.expectedSequence + 1, decoded.clientSequence⟩
    phase := .waiting
    sent := mirror.sent ++ [.inputAck decoded.clientSequence relaySequence] }

def refuseDelivery (mirror : Mirror) : InputDeliveryError → Mirror
  | .noPublisher =>
      mirror.refuse "input_undeliverable"
        "no version 2 publisher is connected for this terminal's device"
  | .backpressure =>
      mirror.refuse "input_backpressure" "the publisher is not keeping up with input; try again"

end Mirror

namespace System

def setMirror (system : System) (id : Nat) (mirror : Mirror) : System :=
  { system with mirrors := Function.update system.mirrors id (some mirror) }

def setHandle (system : System) (terminalId : Uuid) (handle : TerminalHandle) : System :=
  { system with terminals := Function.update system.terminals terminalId (some handle) }

def claim (system : System) (id : Nat) (mirror : Mirror) (handle : TerminalHandle)
    (decoded : MirrorInputFrame) : System :=
  (system.setHandle mirror.terminalId handle.nextInputSequence.1).setMirror id
    { mirror with phase := .claimed decoded handle.nextInputSequence.2 }

def deliver (system : System) (id : Nat) (mirror : Mirror) (handle : TerminalHandle)
    (decoded : MirrorInputFrame) (relaySequence : Nat) : System :=
  match system.registry.deliverToPublisher handle.deviceId
      (.input mirror.terminalId relaySequence decoded.payload) with
  | .ok registry =>
      ({ system with
         registry := registry
         delivered := system.delivered ++
          (system.registry.publishers handle.deviceId).toList.map fun slot =>
            ⟨mirror.terminalId, slot.generation, id, decoded.clientSequence, relaySequence,
              decoded.payload⟩ }
        : System).setMirror id (mirror.acknowledge decoded relaySequence)
  | .error error => system.setMirror id (mirror.refuseDelivery error)

def proceed (system : System) (id : Nat) (mirror : Mirror) (handle : TerminalHandle)
    (framesTaken bytesTaken : Bool) : Option System :=
  match mirror.phase with
  | .permitted settings decoded =>
      some (system.setMirror id (mirror.checkAccepts settings decoded handle))
  | .accepted settings decoded =>
      some (system.setMirror id
        (mirror.checkFrame settings decoded handle framesTaken bytesTaken))
  | .approved decoded => some (system.claim id mirror handle decoded)
  | .claimed decoded relaySequence => some (system.deliver id mirror handle decoded relaySequence)
  | .waiting | .ended => none

end System

/-- Only `handle_input_frame` claims a sequence; every other operation on a handle is
an action of its own. -/
def step (system : System) : Action → Option System
  | .load row capacity retained =>
      match system.terminals row.terminalId with
      | none =>
          some (system.setHandle row.terminalId (TerminalHandle.fromRow row capacity retained))
      | some _ => none
  | .handle terminalId op =>
      match system.terminals terminalId with
      | some handle =>
          if op = .nextInputSequence then none
          else some (system.setHandle terminalId (handle.apply op))
      | none => none
  | .attach deviceId connectionId version inputQueue =>
      some { system with
        registry := (system.registry.attachPublisher deviceId connectionId version
          (if version.supportsInput then some inputQueue else none)).1 }
  | .detach deviceId generation =>
      some { system with registry := (system.registry.detachPublisher deviceId generation).1 }
  | .receive generation =>
      match (system.registry.channels generation).recv with
      | some (_, channel) =>
          some { system with
            registry := { system.registry with
              channels := Function.update system.registry.channels generation channel } }
      | none => none
  | .closeReceiver generation =>
      some { system with
        registry := { system.registry with
          channels := Function.update system.registry.channels generation
            (system.registry.channels generation).closeReceiver } }
  | .connect terminalId version maySendInput =>
      match system.terminals terminalId with
      | some _ =>
          some (({ system with nextMirror := system.nextMirror + 1 } : System).setMirror
            system.nextMirror ⟨terminalId, version, maySendInput, InputState.new, .waiting, []⟩)
      | none => none
  | .frame id bytes settings =>
      match system.mirrors id with
      | some mirror =>
          if mirror.phase = .waiting then
            some (system.setMirror id (mirror.takeFrame bytes settings))
          else none
      | none => none
  | .proceed id framesTaken bytesTaken =>
      match system.mirrors id with
      | some mirror =>
          match system.terminals mirror.terminalId with
          | some handle => system.proceed id mirror handle framesTaken bytesTaken
          | none => none
      | none => none
  | .disconnect id =>
      match system.mirrors id with
      | some mirror =>
          if mirror.phase = .waiting then some (system.setMirror id { mirror with phase := .ended })
          else none
      | none => none

end Hypeterm.Relay.Input
