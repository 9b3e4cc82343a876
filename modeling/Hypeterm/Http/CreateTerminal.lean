import Hypeterm.Relay.Registry
import Hypeterm.Library.Runs
import Hypeterm.Db.Output
import Hypeterm.Db.Principals

/-! Asking a device's publisher to open a terminal.  `create_for_device` is a
program of critical sections with awaits between them, so a call is a phase and
one section is one step; connections attach, answer and detach between them. -/
namespace Hypeterm.Http

open Library
open Relay
open Db (Device)

structure IdempotentResponse (Body : Type) where
  keyHash : Digest
  principalId : String
  requestHash : Digest
  status : Nat
  body : Body

def keyHash (sha256 : String → Digest) (scope method path key : String) : Digest :=
  sha256 (scope ++ "\x01" ++ method ++ "\x01" ++ path ++ "\x01" ++ key)

def lookupIdempotent {Body : Type} (records : List (IdempotentResponse Body)) (hash : Digest)
    (scope : String) (requestHash : Digest) : Except ApiError (Option (Nat × Body)) :=
  match records.find? fun record => record.keyHash = hash ∧ record.principalId = scope with
  | none => .ok none
  | some existing =>
      if existing.requestHash ≠ requestHash then
        .error (.new 409 "idempotency_key_conflict"
          "this Idempotency-Key was already used with a different request body")
      else .ok (some (existing.status, existing.body))

/-- `INSERT … ON CONFLICT (key_hash) DO NOTHING`. -/
def putIdempotent {Body : Type} (records : List (IdempotentResponse Body))
    (record : IdempotentResponse Body) : List (IdempotentResponse Body) :=
  if records.any fun stored => stored.keyHash = record.keyHash then records
  else records ++ [record]

structure CreateTerminalRequest where
  label : Option String
  cols : Option Nat
  rows : Option Nat
  deriving DecidableEq

def isWhitespace (c : Char) : Bool :=
  let n := c.toNat
  (0x9 ≤ n && n ≤ 0xD) || n == 0x20 || n == 0x85 || n == 0xA0 || n == 0x1680 ||
    (0x2000 ≤ n && n ≤ 0x200A) || n == 0x2028 || n == 0x2029 || n == 0x202F || n == 0x205F ||
    n == 0x3000

/-- Unicode general category `Cc`. -/
def isControl (c : Char) : Bool :=
  let n := c.toNat
  n ≤ 0x1F || (0x7F ≤ n && n ≤ 0x9F)

def validateLabel (label : String) (maxBytes : Nat) : Except String Unit :=
  if maxBytes < label.utf8ByteSize then .error s!"label exceeds {maxBytes} bytes"
  else if label.toList.all isWhitespace then .error "label must not be blank"
  else if label.toList.any fun c => isControl c || (0x80 ≤ c.toNat && c.toNat ≤ 0x9F) then
    .error "label must not contain control characters"
  else .ok ()

def validateDimension (name : String) (value : Option Nat) : Except ApiError Unit :=
  match value with
  | some value =>
      if value = 0 ∨ 10000 < value then .error (.validation (name ++ " is out of range")) else .ok ()
  | none => .ok ()

def validateRequest (request : CreateTerminalRequest) (maxLabelBytes : Nat) :
    Except ApiError Unit := do
  match request.label with
  | some label => (validateLabel label maxLabelBytes).mapError ApiError.validation
  | none => .ok ()
  validateDimension "cols" request.cols
  validateDimension "rows" request.rows

/-- What one call carries: who asks, for which device, and its settings snapshot. -/
structure Call where
  identityId : String
  principalId : String
  scopes : List String
  deviceId : Uuid
  idempotencyKey : Option String
  body : Bytes
  createEnabled : Bool
  maxLabelBytes : Nat
  ratelimitEnabled : Bool
  maxPendingPerDevice : Nat
  maxPendingTotal : Nat

structure TerminalResponse where
  terminalId : Uuid
  deduplicated : Bool
  deriving DecidableEq

/-- Library functions the handler calls: SHA-256 of a text and of bytes, and the
JSON parser of its request type. -/
structure Env where
  sha256Text : String → Digest
  sha256Bytes : Bytes → Digest
  parse : Bytes → Except String CreateTerminalRequest

def Call.path (call : Call) : String := "/v1/devices/" ++ Db.uuidText call.deviceId ++ "/terminals"

/-- The request id is the key's hash, so that two retries meet in the table. -/
def Call.requestId (env : Env) (call : Call) : Digest :=
  keyHash env.sha256Text call.identityId "POST" call.path (call.idempotencyKey.getD "")

/-- Where a call stands between two critical sections.  `watch` is its receiver,
`owns` says that it registered the request. -/
inductive CallPhase where
  | start
  | parsed (request : CreateTerminalRequest)
  | owned (request : CreateTerminalRequest)
  | admitted (request : CreateTerminalRequest)
  | registered (request : CreateTerminalRequest) (watch : Nat)
  | undelivered (watch : Nat)
  | waiting (watch : Nat) (owns : Bool)
  | refused (watch : Nat) (owns : Bool) (error : ApiError)
  | answered (watch : Nat) (owns : Bool) (response : TerminalResponse)
  | storing (watch : Nat) (owns : Bool) (response : TerminalResponse)
  | stored (watch : Nat) (owns : Bool) (response : TerminalResponse)
  | done (result : Except ApiError (Nat × TerminalResponse))
  deriving DecidableEq

/-- What the environment decides in a step of a call: the outcome of a database
call, of the rate limiter, or that the wait ran out. -/
inductive CallInput where
  | proceed
  | storageError (error : ApiError)
  | device (device : Option Device)
  | rateLimited
  | rowMissing
  | timeout
  deriving DecidableEq

def TerminalResponse.status (response : TerminalResponse) : Nat :=
  if response.deduplicated then 200 else 201

inductive ConnectionPhase where
  | attaching
  | live
  | dropped
  | detaching
  | gone
  deriving DecidableEq

/-- `unanswered` holds the requests its publisher has received. -/
structure Connection where
  deviceId : Uuid
  connectionId : String
  version : ProtocolVersion
  phase : ConnectionPhase
  unanswered : List Digest

/-! Histories: which slot a request was registered and delivered under, what was
put in a channel and what the registry failed. -/

structure Origin where
  registeredUnder : Option Nat
  deliveredTo : Option Nat

structure Enqueued where
  deviceId : Uuid
  requestId : Digest
  generation : Nat
  openRequests : Bool

inductive FailureCause where
  | attach (generation : Nat)
  | detach (generation : Nat)
  | send (call : Nat)

structure Failure where
  deviceId : Uuid
  requestId : Digest
  origin : Origin
  slot : Option Nat
  cause : FailureCause

structure System where
  registry : Registry
  idempotency : List (IdempotentResponse TerminalResponse)
  calls : Nat → Option (Call × CallPhase)
  nextCall : Nat
  connections : Nat → Option Connection
  origins : Nat → Origin
  enqueued : List Enqueued
  failures : List Failure

def System.initial : System where
  registry := Registry.new
  idempotency := []
  calls := fun _ => none
  nextCall := 0
  connections := fun _ => none
  origins := fun _ => ⟨none, none⟩
  enqueued := []
  failures := []

inductive Action where
  | call (call : Call)
  | caller (id : Nat) (input : CallInput)
  | attach (deviceId : Uuid) (connectionId : String) (version : ProtocolVersion) (inputQueue : Nat)
  | attachFail (generation : Nat)
  | capabilities (generation : Nat) (on : Bool)
  | receive (generation : Nat)
  | answer (generation : Nat) (requestId : Digest) (outcome : OpenOutcome)
  | dropLease (generation : Nat)
  | closeReceiver (generation : Nat)
  | detachFail (generation : Nat)
  | detachRemove (generation : Nat)

namespace System

def slotGeneration (system : System) (deviceId : Uuid) : Option Nat :=
  (system.registry.publishers deviceId).map PublisherSlot.generation

def setPhase (system : System) (id : Nat) (call : Call) (phase : CallPhase) : System :=
  { system with calls := Function.update system.calls id (some (call, phase)) }

def respond (system : System) (id : Nat) (call : Call) (watch : Nat)
    (result : Except ApiError (Nat × TerminalResponse)) : System :=
  ({ system with registry := system.registry.updateWatch watch Watch.dropReceiver } : System).setPhase
    id call (.done result)

def retire (system : System) (env : Env) (call : Call) (owns : Bool) : System :=
  if owns then
    { system with
      registry := system.registry.finishOpenRequest call.deviceId (call.requestId env) }
  else system

/-- The failures one pass over a device's requests leaves in the history. -/
def failuresOf (system : System) (deviceId : Uuid) (cause : FailureCause) : List Failure :=
  (system.registry.pendingOpens.filter fun entry => entry.deviceId = deviceId).map fun entry =>
    ⟨deviceId, entry.requestId, system.origins entry.tx, system.slotGeneration deviceId, cause⟩

def failDevice (system : System) (deviceId : Uuid) (cause : FailureCause) : System :=
  { system with
    registry := system.registry.failOpenRequestsForDevice deviceId
    failures := system.failures ++ system.failuresOf deviceId cause }

/-- Everything up to the first database read, that read, and the checks of the
parsed body, which await nothing. -/
def lookupStored (system : System) (env : Env) (id : Nat) (call : Call) : System :=
  if ¬ call.scopes.contains "terminals:create" then
    system.setPhase id call (.done (.error
      (.insufficientScope "this operation requires the terminals:create scope")))
  else if ¬ call.createEnabled then
    system.setPhase id call (.done (.error
      (.new 403 "feature_disabled" "terminal creation is disabled on this deployment")))
  else if call.idempotencyKey.isNone then
    system.setPhase id call (.done (.error (.idempotencyKeyRequired
      "Idempotency-Key is required when asking a device to open a terminal")))
  else
    match lookupIdempotent system.idempotency (call.requestId env) call.identityId
        (env.sha256Bytes call.body) with
    | .error error => system.setPhase id call (.done (.error error))
    | .ok (some replayed) => system.setPhase id call (.done (.ok replayed))
    | .ok none =>
        match env.parse call.body with
        | .error message => system.setPhase id call (.done (.error (.invalid message)))
        | .ok request =>
            match validateRequest request call.maxLabelBytes with
            | .error error => system.setPhase id call (.done (.error error))
            | .ok () => system.setPhase id call (.parsed request)

def checkDevice (system : System) (id : Nat) (call : Call) (request : CreateTerminalRequest)
    (device : Option Device) : System :=
  match device with
  | some device =>
      if device.revokedAt.isNone && device.role.mayPublish then
        system.setPhase id call (.owned request)
      else system.setPhase id call (.done (.error .notFound))
  | none => system.setPhase id call (.done (.error .notFound))

def checkCapability (system : System) (id : Nat) (call : Call) (request : CreateTerminalRequest) :
    System :=
  if system.registry.publisherSupportsOpenRequest call.deviceId then
    system.setPhase id call (.admitted request)
  else
    system.setPhase id call (.done (.error (.publisherUnavailable
      "that device is not currently accepting terminal-open requests")))

def register (system : System) (env : Env) (id : Nat) (call : Call)
    (request : CreateTerminalRequest) : System :=
  match system.registry.beginOpenRequest call.deviceId (call.requestId env) call.principalId
      call.maxPendingPerDevice call.maxPendingTotal with
  | .error error => system.setPhase id call (.done (.error error))
  | .ok (registry, .fresh watch) =>
      ({ system with
         registry := registry
         origins := Function.update system.origins watch
          ⟨system.slotGeneration call.deviceId, none⟩ } : System).setPhase id call
        (.registered request watch)
  | .ok (registry, .joined watch) =>
      ({ system with registry } : System).setPhase id call (.waiting watch false)

def deliver (system : System) (env : Env) (id : Nat) (call : Call) (request : CreateTerminalRequest)
    (watch : Nat) : System :=
  match system.registry.deliverToPublisher call.deviceId
      (.openRequestDelivery (call.requestId env) request.label request.cols request.rows) with
  | .error _ => system.setPhase id call (.undelivered watch)
  | .ok registry =>
      ({ system with
         registry := registry
         origins := Function.update system.origins watch
          { system.origins watch with deliveredTo := system.slotGeneration call.deviceId }
         enqueued := system.enqueued ++
          (system.registry.publishers call.deviceId).toList.map fun slot =>
            ⟨call.deviceId, call.requestId env, slot.generation, slot.openRequests⟩ }
        : System).setPhase id call (.waiting watch true)

/-- A failed send resolves its own key, whichever entry stands under it by now. -/
def abandon (system : System) (env : Env) (id : Nat) (call : Call) (watch : Nat) : System :=
  let resolved : System :=
    { system with
      registry := (system.registry.resolveOpenRequest call.deviceId (call.requestId env)
        .unavailable).1
      failures := system.failures ++
        (system.registry.pendingOpen call.deviceId (call.requestId env)).toList.map fun entry =>
          ⟨call.deviceId, call.requestId env, system.origins entry.tx,
            system.slotGeneration call.deviceId, .send id⟩ }
  resolved.respond id call watch (.error (.publisherUnavailable "that device could not be reached"))

def observe (system : System) (id : Nat) (call : Call) (watch : Nat) (owns : Bool) : Option System :=
  match (system.registry.watches watch).value with
  | some (.opened terminalId deduplicated) =>
      some (system.setPhase id call (.answered watch owns ⟨terminalId, deduplicated⟩))
  | some (.declined reason) =>
      some (system.setPhase id call (.refused watch owns (.publisherDeclined
        ("the device declined to open a terminal: " ++ reason))))
  | some (.failed code message) =>
      some (system.setPhase id call (.refused watch owns (.new 409 code message)))
  | some .unavailable =>
      some (system.setPhase id call (.refused watch owns (.publisherUnavailable
        "that device disconnected before answering")))
  | none =>
      if (system.registry.watches watch).senderAlive then none
      else some (system.respond id call watch (.error (.publisherTimeout
        "the device did not answer in time; retry with the same Idempotency-Key")))

def giveUp (system : System) (id : Nat) (call : Call) (watch : Nat) : Option System :=
  match (system.registry.watches watch).value with
  | some _ => none
  | none =>
      some (system.respond id call watch (.error (.publisherTimeout
        "the device did not answer in time; retry with the same Idempotency-Key")))

def storeResponse (system : System) (env : Env) (id : Nat) (call : Call) (watch : Nat) (owns : Bool)
    (response : TerminalResponse) : System :=
  ({ system with
     idempotency := putIdempotent system.idempotency
      ⟨call.requestId env, call.identityId, env.sha256Bytes call.body, response.status, response⟩ }
    : System).setPhase id call (.stored watch owns response)

def advance (system : System) (env : Env) (id : Nat) (call : Call) :
    CallPhase → CallInput → Option System
  | .start, .proceed => some (system.lookupStored env id call)
  | .start, .storageError error => some (system.setPhase id call (.done (.error error)))
  | .parsed request, .device device => some (system.checkDevice id call request device)
  | .parsed _, .storageError error => some (system.setPhase id call (.done (.error error)))
  | .owned _, .rateLimited =>
      if call.ratelimitEnabled then
        some (system.setPhase id call (.done (.error (.rateLimited 60))))
      else none
  | .owned request, .proceed => some (system.checkCapability id call request)
  | .admitted request, .proceed => some (system.register env id call request)
  | .registered request watch, .proceed => some (system.deliver env id call request watch)
  | .undelivered watch, .proceed => some (system.abandon env id call watch)
  | .waiting watch owns, .proceed => system.observe id call watch owns
  | .waiting watch _, .timeout => system.giveUp id call watch
  | .refused watch owns error, .proceed =>
      some ((system.retire env call owns).respond id call watch (.error error))
  | .answered watch owns response, .proceed =>
      some (system.setPhase id call (.storing watch owns response))
  | .answered watch _ _, .rowMissing =>
      some (system.respond id call watch
        (.error (.internal "the opened terminal could not be read back")))
  | .answered watch _ _, .storageError error => some (system.respond id call watch (.error error))
  | .storing watch owns response, .proceed =>
      some (system.storeResponse env id call watch owns response)
  | .storing watch _ _, .storageError error => some (system.respond id call watch (.error error))
  | .stored watch owns response, .proceed =>
      some ((system.retire env call owns).respond id call watch (.ok (response.status, response)))
  | _, _ => none

def setConnection (system : System) (generation : Nat) (connection : Connection) : System :=
  { system with connections := Function.update system.connections generation (some connection) }

/-- Only a connection that replaced another one has requests to fail. -/
def attach (system : System) (deviceId : Uuid) (connectionId : String) (version : ProtocolVersion)
    (inputQueue : Nat) : System :=
  let attached := system.registry.attachPublisher deviceId connectionId version
    (if version.supportsInput then some inputQueue else none)
  ({ system with registry := attached.1 } : System).setConnection attached.2.1
    { deviceId, connectionId, version
      phase := if attached.2.2.isSome then .attaching else .live
      unanswered := [] }

def capabilities (system : System) (connection : Connection) (on : Bool) : System :=
  if on && !connection.version.supportsInput then system
  else
    { system with
      registry := system.registry.setPublisherOpenRequests connection.deviceId
        connection.connectionId on }

def receive (system : System) (generation : Nat) (connection : Connection) : Option System :=
  match (system.registry.channels generation).recv with
  | none => none
  | some (delivery, channel) =>
      let received : System :=
        { system with
          registry := { system.registry with
            channels := Function.update system.registry.channels generation channel } }
      match delivery with
      | .openRequestDelivery requestId _ _ _ =>
          some (received.setConnection generation
            { connection with unanswered := connection.unanswered ++ [requestId] })
      | _ => some received

def answer (system : System) (generation : Nat) (connection : Connection) (requestId : Digest)
    (outcome : OpenOutcome) : System :=
  ({ system with
     registry := (system.registry.resolveOpenRequest connection.deviceId requestId outcome).1 }
    : System).setConnection generation
      { connection with unanswered := connection.unanswered.erase requestId }

end System

/-- One step.  A publisher may answer anything at any time, except that no message
of its protocol reports its own absence. -/
def step (env : Env) (system : System) : Action → Option System
  | .call call =>
      some (({ system with nextCall := system.nextCall + 1 } : System).setPhase system.nextCall call
        .start)
  | .caller id input =>
      match system.calls id with
      | some (call, phase) => system.advance env id call phase input
      | none => none
  | .attach deviceId connectionId version inputQueue =>
      some (system.attach deviceId connectionId version inputQueue)
  | .attachFail generation =>
      match system.connections generation with
      | some ⟨deviceId, connectionId, version, .attaching, unanswered⟩ =>
          some ((system.failDevice deviceId (.attach generation)).setConnection generation
            ⟨deviceId, connectionId, version, .live, unanswered⟩)
      | _ => none
  | .capabilities generation on =>
      match system.connections generation with
      | some ⟨deviceId, connectionId, version, .live, unanswered⟩ =>
          some (system.capabilities ⟨deviceId, connectionId, version, .live, unanswered⟩ on)
      | _ => none
  | .receive generation =>
      match system.connections generation with
      | some ⟨deviceId, connectionId, version, .live, unanswered⟩ =>
          system.receive generation ⟨deviceId, connectionId, version, .live, unanswered⟩
      | _ => none
  | .answer generation requestId outcome =>
      match system.connections generation with
      | some ⟨deviceId, connectionId, version, .live, unanswered⟩ =>
          if outcome = .unavailable then none
          else
            some (system.answer generation ⟨deviceId, connectionId, version, .live, unanswered⟩
              requestId outcome)
      | _ => none
  | .dropLease generation =>
      match system.connections generation with
      | some ⟨deviceId, connectionId, version, .live, unanswered⟩ =>
          some (system.setConnection generation
            ⟨deviceId, connectionId, version, .dropped, unanswered⟩)
      | _ => none
  | .closeReceiver generation =>
      match system.connections generation with
      | some ⟨_, _, _, .attaching, _⟩ | some ⟨_, _, _, .live, _⟩ | none => none
      | some _ =>
          some { system with
            registry := { system.registry with
              channels := Function.update system.registry.channels generation
                (system.registry.channels generation).closeReceiver } }
  | .detachFail generation =>
      match system.connections generation with
      | some ⟨deviceId, connectionId, version, .dropped, unanswered⟩ =>
          some ((system.failDevice deviceId (.detach generation)).setConnection generation
            ⟨deviceId, connectionId, version, .detaching, unanswered⟩)
      | _ => none
  | .detachRemove generation =>
      match system.connections generation with
      | some ⟨deviceId, connectionId, version, .detaching, unanswered⟩ =>
          some (({ system with
            registry := (system.registry.detachPublisher deviceId generation).1 }
              : System).setConnection generation
                ⟨deviceId, connectionId, version, .gone, unanswered⟩)
      | _ => none

end Hypeterm.Http
