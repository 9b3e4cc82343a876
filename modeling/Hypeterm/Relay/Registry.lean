import Hypeterm.Error
import Hypeterm.Library.Channel

/-! Publisher slots and the pending terminal-open requests.  Each function is what
one method of the registry does between taking a lock and releasing it; a method
that takes two locks in turn is two functions. -/
namespace Hypeterm.Relay

open Library

/-- Something a subscriber is sending toward the publishing device. -/
inductive PublisherDelivery where
  | input (terminalId : Uuid) (relaySequence : Nat) (payload : Bytes)
  | resizeRequest (terminalId : Uuid) (cols rows : Nat)
  | openRequestDelivery (requestId : Digest) (label : Option String) (cols rows : Option Nat)

structure PublisherSlot where
  generation : Nat
  connectionId : String
  version : ProtocolVersion
  inputTx : Option Nat
  openRequests : Bool

inductive OpenOutcome where
  | opened (terminalId : Uuid) (deduplicated : Bool)
  | declined (reason : String)
  | failed (code message : String)
  | unavailable
  deriving DecidableEq

/-- `tx` names the watched value the waiting callers share. -/
structure PendingOpen where
  deviceId : Uuid
  requestId : Digest
  tx : Nat
  principalId : String

inductive BeginOpen where
  | fresh (receiver : Nat)
  | joined (receiver : Nat)

inductive InputDeliveryError where
  | noPublisher
  | backpressure

structure Registry where
  publishers : Uuid → Option PublisherSlot
  channels : Nat → Channel PublisherDelivery
  nextGeneration : Nat
  pendingOpens : List PendingOpen
  watches : Nat → Watch OpenOutcome
  nextWatch : Nat

namespace Registry

def new : Registry where
  publishers := fun _ => none
  channels := fun _ => (Channel.new 0).closeReceiver
  nextGeneration := 1
  pendingOpens := []
  watches := fun _ => Watch.new
  nextWatch := 0

/-- Take over a device's slot; the previous slot is handed back to be notified and
dropped.  A version 2 connection brings a channel with room for `inputQueue`
frames, named by its generation. -/
def attachPublisher (registry : Registry) (deviceId : Uuid) (connectionId : String)
    (version : ProtocolVersion) (inputQueue : Option Nat) :
    Registry × Nat × Option PublisherSlot :=
  let generation := registry.nextGeneration
  let slot : PublisherSlot :=
    { generation, connectionId, version
      inputTx := inputQueue.map fun _ => generation
      openRequests := false }
  let channels :=
    match inputQueue with
    | some capacity => Function.update registry.channels generation (Channel.new capacity)
    | none => registry.channels
  ({ registry with
     publishers := Function.update registry.publishers deviceId (some slot)
     channels := channels
     nextGeneration := generation + 1 },
   generation, registry.publishers deviceId)

/-- The locked part of `on_publisher_detached`: a newer connection keeps its slot. -/
def detachPublisher (registry : Registry) (deviceId : Uuid) (generation : Nat) : Registry × Bool :=
  match registry.publishers deviceId with
  | some slot =>
      if slot.generation ≠ generation then (registry, false)
      else ({ registry with publishers := Function.update registry.publishers deviceId none }, true)
  | none => (registry, false)

def removePublisher (registry : Registry) (deviceId : Uuid) : Registry :=
  { registry with publishers := Function.update registry.publishers deviceId none }

def publisherConnected (registry : Registry) (deviceId : Uuid) : Bool :=
  (registry.publishers deviceId).isSome

def publisherAcceptsInput (registry : Registry) (deviceId : Uuid) : Bool :=
  match registry.publishers deviceId with
  | some slot => slot.version.supportsInput && slot.inputTx.isSome
  | none => false

def publisherSupportsOpenRequest (registry : Registry) (deviceId : Uuid) : Bool :=
  match registry.publishers deviceId with
  | some slot => slot.openRequests && slot.version.supportsInput && slot.inputTx.isSome
  | none => false

/-- Ignored unless the connection is the slot's current one. -/
def setPublisherOpenRequests (registry : Registry) (deviceId : Uuid) (connectionId : String)
    (on : Bool) : Registry :=
  match registry.publishers deviceId with
  | some slot =>
      if slot.connectionId = connectionId then
        { registry with
          publishers := Function.update registry.publishers deviceId
            (some { slot with openRequests := on }) }
      else registry
  | none => registry

/-- Hand one delivery to the device's connection, without waiting. -/
def deliverToPublisher (registry : Registry) (deviceId : Uuid) (delivery : PublisherDelivery) :
    Except InputDeliveryError Registry :=
  match registry.publishers deviceId with
  | none => .error .noPublisher
  | some slot =>
      match slot.inputTx with
      | none => .error .noPublisher
      | some inputTx =>
          match (registry.channels inputTx).trySend delivery with
          | .ok channel =>
              .ok { registry with channels := Function.update registry.channels inputTx channel }
          | .full => .error .backpressure
          | .closed => .error .noPublisher

def pendingOpen (registry : Registry) (deviceId : Uuid) (requestId : Digest) : Option PendingOpen :=
  registry.pendingOpens.find? fun entry => entry.deviceId = deviceId ∧ entry.requestId = requestId

def updateWatch (registry : Registry) (watch : Nat) (f : Watch OpenOutcome → Watch OpenOutcome) :
    Registry :=
  { registry with watches := Function.update registry.watches watch (f (registry.watches watch)) }

/-- Register a request, or join the one already in flight for the same key. -/
def beginOpenRequest (registry : Registry) (deviceId : Uuid) (requestId : Digest)
    (principalId : String) (maxPerDevice maxTotal : Nat) : Except ApiError (Registry × BeginOpen) :=
  match registry.pendingOpen deviceId requestId with
  | some existing => .ok (registry.updateWatch existing.tx Watch.subscribe, .joined existing.tx)
  | none =>
      if maxTotal ≤ registry.pendingOpens.length then
        .error (.limitExceeded "too many terminal-open requests are in flight")
      else if maxPerDevice ≤ registry.pendingOpens.countP fun entry => entry.deviceId = deviceId then
        .error (.limitExceeded "too many terminal-open requests are in flight for that device")
      else
        let watch := registry.nextWatch
        .ok
          ({ registry with
             pendingOpens := registry.pendingOpens ++ [⟨deviceId, requestId, watch, principalId⟩]
             watches := Function.update registry.watches watch Watch.new
             nextWatch := watch + 1 },
           .fresh watch)

/-- Publish an outcome; false when nothing was waiting.  The entry stays until its
owner retires it. -/
def resolveOpenRequest (registry : Registry) (deviceId : Uuid) (requestId : Digest)
    (outcome : OpenOutcome) : Registry × Bool :=
  match registry.pendingOpen deviceId requestId with
  | none => (registry, false)
  | some entry => (registry.updateWatch entry.tx fun watch => watch.send outcome, true)

def finishOpenRequest (registry : Registry) (deviceId : Uuid) (requestId : Digest) : Registry :=
  match registry.pendingOpen deviceId requestId with
  | none => registry
  | some entry =>
      { registry.updateWatch entry.tx Watch.dropSender with
        pendingOpens := registry.pendingOpens.filter fun other =>
          ¬ (other.deviceId = deviceId ∧ other.requestId = requestId) }

def openRequestPrincipal (registry : Registry) (deviceId : Uuid) (requestId : Digest) :
    Option String :=
  (registry.pendingOpen deviceId requestId).map PendingOpen.principalId

def failOpenRequestsForDevice (registry : Registry) (deviceId : Uuid) : Registry :=
  { registry with
    watches := fun watch =>
      if registry.pendingOpens.any fun entry => entry.deviceId = deviceId ∧ entry.tx = watch then
        ((registry.watches watch).send .unavailable).dropSender
      else registry.watches watch
    pendingOpens := registry.pendingOpens.filter fun entry => entry.deviceId ≠ deviceId }

/-- Drop the entries that are too old, which the table does not tell: `expired` does. -/
def sweepPendingOpens (registry : Registry) (expired : PendingOpen → Bool) : Registry :=
  { registry with
    watches := fun watch =>
      if registry.pendingOpens.any fun entry => expired entry ∧ entry.tx = watch then
        (registry.watches watch).dropSender
      else registry.watches watch
    pendingOpens := registry.pendingOpens.filter fun entry => !expired entry }

end Registry

end Hypeterm.Relay
