import Hypeterm.Http.CreateTerminal
import Hypeterm.Relay.Input

/-! WebSocket tickets, upgrades, live mirrors and revocation.  A ticket request and an
upgrade are programs of database calls with awaits between them; an open mirror takes
one turn of its loop at a time; revocation commits and is then enforced by a task of
its own. -/
namespace Hypeterm.Http.Upgrade

open Library
open Db
open Relay

inductive WsPath where
  | relay (deviceId : Uuid)
  | mirror (terminalId : Uuid)
  deriving DecidableEq

def parseWsPath (parseUuid : List Char → Option Uuid) (path : String) : Option WsPath :=
  match (path.toList.dropWhile fun c => c = '/').splitOn '/' with
  | [version, kind, id, channel] =>
      if version = "v1".toList ∧ kind = "devices".toList ∧ channel = "relay".toList then
        (parseUuid id).map .relay
      else if version = "v1".toList ∧ kind = "terminals".toList ∧ channel = "mirror".toList then
        (parseUuid id).map .mirror
      else none
  | _ => none

def WsPath.text : WsPath → String
  | .relay deviceId => "/v1/devices/" ++ uuidText deviceId ++ "/relay"
  | .mirror terminalId => "/v1/terminals/" ++ uuidText terminalId ++ "/mirror"

def trim (text : String) : String :=
  String.ofList ((text.toList.dropWhile isWhitespace).reverse.dropWhile isWhitespace).reverse

structure Auth where
  principal : Principal
  identityId : String
  scopes : List String
  deriving DecidableEq

def Auth.requireScope (auth : Auth) (scope : String) : Except ApiError Unit :=
  if auth.scopes.contains scope then .ok ()
  else .error (.insufficientScope ("this operation requires the " ++ scope ++ " scope"))

structure Claims where
  auth : Auth
  issuedAt : Nat
  deriving DecidableEq

/-- A ticket, or a token from the `Authorization` header or the session cookie. -/
inductive Credential where
  | ticket (ticketHash : Digest)
  | token (claims : Claims)
  deriving DecidableEq

inductive RequestPhase where
  | ticketAuthenticated (auth : Auth) (path : String) (ttl : Nat)
  | ticketAuthorised (auth : Auth) (path : String) (ttl : Nat)
  | upgradeStarted (target : WsPath) (version : ProtocolVersion) (credential : Credential)
  | upgradeAuthenticated (target : WsPath) (version : ProtocolVersion) (auth : Auth)
  | upgradeChecked (target : WsPath) (version : ProtocolVersion) (auth : Auth)
  | finished (result : Except ApiError Unit)
  deriving DecidableEq

/-- `live` names the mirror task and its subscription. -/
inductive MirrorPhase where
  | handshake
  | live (mirror subscriberId : Nat)
  | ended
  deriving DecidableEq

/-- `turned` says that a whole turn of the loop was taken since the revocation of its
device had been enforced. -/
structure MirrorConnection where
  principal : Principal
  identityId : String
  terminalId : Uuid
  version : ProtocolVersion
  maySendInput : Bool
  phase : MirrorPhase
  turned : Bool

inductive EnforcePhase where
  | idle
  | removed
  | failed
  | closing (terminalIds : List Uuid)
  | completed
  deriving DecidableEq

structure Success where
  principal : Principal
  target : WsPath
  begunRevoked : Bool
  deriving DecidableEq

inductive ActKind where
  | output
  | input
  deriving DecidableEq

structure Act where
  connection : Nat
  principal : Principal
  kind : ActKind
  enforced : Bool
  turned : Bool
  deriving DecidableEq

structure System where
  accounts : Accounts
  terminals : List TerminalRow
  relay : Input.System
  requests : Nat → Option RequestPhase
  nextRequest : Nat
  revokedAtStart : Nat → Uuid → Bool
  connections : Nat → Option MirrorConnection
  nextConnection : Nat
  enforcement : Uuid → EnforcePhase
  now : Nat
  successes : List Success
  acts : List Act

def System.initial : System where
  accounts := Accounts.empty
  terminals := []
  relay := Input.System.initial
  requests := fun _ => none
  nextRequest := 0
  revokedAtStart := fun _ _ => false
  connections := fun _ => none
  nextConnection := 0
  enforcement := fun _ => .idle
  now := 0
  successes := []
  acts := []

/-- What a section of a request draws or reads from its settings: a new ticket's hash,
a connection's name and the bound of its input queue. -/
structure Draw where
  ticketHash : Digest
  connectionId : String
  inputQueue : Nat
  deriving DecidableEq

/-- `relay` stands for the steps of other tasks of the relay. -/
inductive Action where
  | tick
  | registerDevice (deviceId : Uuid) (identityId : String) (role : DeviceRole)
  | openTerminal (row : TerminalRow) (capacity : Nat)
  | revoke (deviceId : Uuid)
  | enforce (deviceId : Uuid)
  | requestTicket (claims : Claims) (path : String) (ttl : Nat)
  | beginUpgrade (target : WsPath) (version : ProtocolVersion) (credential : Credential)
  | advance (request : Nat) (draw : Draw)
  | refuse (request : Nat) (error : ApiError)
  | subscribe (connection : Nat) (fromOffset : Option Nat)
      (chunkBytes queueMessages queueBytes : Nat)
  | event (connection : Nat)
  | frame (connection : Nat) (bytes : Bytes) (settings : Input.Settings)
  | proceed (connection : Nat) (framesTaken bytesTaken : Bool)
  | heartbeat (connection : Nat)
  | close (connection : Nat)
  | relay (action : Input.Action)
  | commit (terminalId : Uuid) (durableTarget : Nat) (closed : Option String)
  deriving DecidableEq

namespace System

def getTerminal (system : System) (terminalId : Uuid) : Option TerminalRow :=
  lookup TerminalRow.terminalId terminalId system.terminals

def revoked (system : System) (deviceId : Uuid) : Bool :=
  match system.accounts.devices deviceId with
  | some device => device.revokedAt.isSome
  | none => false

def enforced (system : System) : Principal → Bool
  | .device deviceId => system.enforcement deviceId = .completed
  | .identity _ => false

def setRequest (system : System) (id : Nat) (phase : RequestPhase) : System :=
  { system with requests := Function.update system.requests id (some phase) }

def finish (system : System) (id : Nat) (result : Except ApiError Unit) : System :=
  system.setRequest id (.finished result)

def beginRequest (system : System) (phase : RequestPhase) : System :=
  { system with
    requests := Function.update system.requests system.nextRequest (some phase)
    nextRequest := system.nextRequest + 1
    revokedAtStart := Function.update system.revokedAtStart system.nextRequest system.revoked }

def setConnection (system : System) (id : Nat) (connection : MirrorConnection) : System :=
  { system with connections := Function.update system.connections id (some connection) }

def credentialRevoked : ApiError :=
  (ApiError.unauthorized "credential has been revoked").withCode "device_revoked"

def requestTicket (system : System) (claims : Claims) (path : String) (ttl : Nat) : System :=
  if system.accounts.tokenRevoked claims.auth.principal claims.issuedAt then
    system.beginRequest (.finished (.error credentialRevoked))
  else system.beginRequest (.ticketAuthenticated claims.auth (trim path) ttl)

/-- A ticket is only issued to a caller that may use its path. -/
def authoriseTicket (system : System) (parseUuid : List Char → Option Uuid) (id : Nat) (auth : Auth)
    (path : String) (ttl : Nat) : System :=
  match parseWsPath parseUuid path with
  | none =>
      system.finish id (.error (.validation
        ("path must be /v1/devices/\x7bdevice_id\x7d/relay or " ++
          "/v1/terminals/\x7bterminal_id\x7d/mirror")))
  | some (.relay deviceId) =>
      if auth.scopes.contains "terminals:publish" ∧ auth.principal = .device deviceId then
        system.setRequest id (.ticketAuthorised auth path ttl)
      else system.finish id (.error .notFound)
  | some (.mirror terminalId) =>
      if auth.scopes.contains "terminals:mirror" ∧
          ((system.getTerminal terminalId).any fun row => row.identityId = auth.identityId) then
        system.setRequest id (.ticketAuthorised auth path ttl)
      else system.finish id (.error .notFound)

def insertTicket (system : System) (id : Nat) (auth : Auth) (path : String) (ttl : Nat)
    (ticketHash : Digest) : System :=
  match system.accounts.insertTicket
      ⟨ticketHash, auth.principal, auth.identityId, path, auth.scopes, system.now + ttl, none⟩ with
  | .error error => system.finish id (.error error)
  | .ok accounts => ({ system with accounts } : System).finish id (.ok ())

def authenticateUpgrade (system : System) (id : Nat) (target : WsPath) (version : ProtocolVersion) :
    Credential → System
  | .ticket ticketHash =>
      let consumed := system.accounts.consumeTicket ticketHash target.text system.now
      let after : System := { system with accounts := consumed.1 }
      match consumed.2 with
      | none =>
          after.finish id (.error (.unauthorized
            "websocket ticket is invalid, expired, already used, or not valid for this path"))
      | some record =>
          after.setRequest id (.upgradeAuthenticated target version
            ⟨record.principal, record.identityId, record.scopes⟩)
  | .token claims =>
      if system.accounts.tokenRevoked claims.auth.principal claims.issuedAt then
        system.finish id (.error credentialRevoked)
      else system.setRequest id (.upgradeAuthenticated target version claims.auth)

def checkRelay (system : System) (deviceId : Uuid) (auth : Auth) : Except ApiError Unit :=
  if auth.principal ≠ .device deviceId then .error .notFound
  else do
    auth.requireScope "terminals:publish"
    match system.accounts.getDevice deviceId with
    | none => .error .notFound
    | some device =>
        if device.revokedAt.isSome then
          .error ((ApiError.unauthorized "this device has been revoked").withCode "device_revoked")
        else if !device.role.mayPublish then
          .error (.insufficientScope "this device's role does not permit publishing")
        else .ok ()

/-- What `mirror_upgrade` checks of a device.  Unlike its sibling it does not look at
the revocation. -/
def checkMirror (system : System) (auth : Auth) : Except ApiError Unit :=
  match auth.principal with
  | .identity _ => .ok ()
  | .device deviceId =>
      match system.accounts.getDevice deviceId with
      | none => .error .notFound
      | some device =>
          if !device.role.mayMirror || device.identityId ≠ auth.identityId then .error .notFound
          else .ok ()

def checkUpgrade (system : System) (id : Nat) (target : WsPath) (version : ProtocolVersion)
    (auth : Auth) : System :=
  let checked :=
    match target with
    | .relay deviceId => system.checkRelay deviceId auth
    | .mirror _ => system.checkMirror auth
  match checked with
  | .error error => system.finish id (.error error)
  | .ok () => system.setRequest id (.upgradeChecked target version auth)

def begunRevoked (system : System) (id : Nat) : Principal → Bool
  | .device deviceId => system.revokedAtStart id deviceId
  | .identity _ => false

def succeed (system : System) (id : Nat) (target : WsPath) (auth : Auth) : System :=
  { system with
    successes := system.successes ++
      [⟨auth.principal, target, system.begunRevoked id auth.principal⟩] }

/-- The last section: a publisher takes its slot; a mirror's ownership is confirmed and
its connection handed over.  A connection limit may refuse it before. -/
def completeUpgrade (system : System) (id : Nat) (target : WsPath) (version : ProtocolVersion)
    (auth : Auth) (draw : Draw) : System :=
  match target with
  | .relay deviceId =>
      (({ system with
          relay := { system.relay with
            registry := (system.relay.registry.attachPublisher deviceId draw.connectionId version
              (if version.supportsInput then some draw.inputQueue else none)).1 } }
        : System).succeed id target auth).finish id (.ok ())
  | .mirror terminalId =>
      match auth.requireScope "terminals:mirror" with
      | .error error => system.finish id (.error error)
      | .ok () =>
          match system.getTerminal terminalId with
          | none => system.finish id (.error .notFound)
          | some row =>
              if row.identityId ≠ auth.identityId then system.finish id (.error .notFound)
              else
                ((({ system with nextConnection := system.nextConnection + 1 } : System).setConnection
                  system.nextConnection
                  ⟨auth.principal, auth.identityId, terminalId, version,
                    version.supportsInput && auth.scopes.contains "terminals:input", .handshake,
                    false⟩).succeed id target auth).finish id (.ok ())

def advance (system : System) (parseUuid : List Char → Option Uuid) (id : Nat) (draw : Draw) :
    RequestPhase → Option System
  | .ticketAuthenticated auth path ttl => some (system.authoriseTicket parseUuid id auth path ttl)
  | .ticketAuthorised auth path ttl => some (system.insertTicket id auth path ttl draw.ticketHash)
  | .upgradeStarted target version credential =>
      some (system.authenticateUpgrade id target version credential)
  | .upgradeAuthenticated target version auth => some (system.checkUpgrade id target version auth)
  | .upgradeChecked target version auth => some (system.completeUpgrade id target version auth draw)
  | .finished _ => none

def setHandle (system : System) (terminalId : Uuid) (handle : TerminalHandle) : System :=
  { system with relay := system.relay.setHandle terminalId handle }

def atSelect (system : System) (mirror : Nat) : Bool :=
  match system.relay.mirrors mirror with
  | some task => task.phase = .waiting
  | none => false

def turn (system : System) (connection : MirrorConnection) : MirrorConnection :=
  { connection with turned := connection.turned || system.enforced connection.principal }

def leave (system : System) (id : Nat) (connection : MirrorConnection) (mirror subscriberId : Nat) :
    System :=
  let unsubscribed : System :=
    match system.relay.terminals connection.terminalId with
    | some handle => system.setHandle connection.terminalId (handle.unsubscribe subscriberId)
    | none => system
  let disconnected : System :=
    match Input.step unsubscribed.relay (.disconnect mirror) with
    | some relay => { unsubscribed with relay }
    | none => unsubscribed
  disconnected.setConnection id { connection with phase := .ended }

def act (system : System) (id : Nat) (connection : MirrorConnection) (kind : ActKind) : System :=
  { system with
    acts := system.acts ++
      [⟨id, connection.principal, kind, system.enforced connection.principal, connection.turned⟩] }

def subscribe (system : System) (id : Nat) (connection : MirrorConnection) (fromOffset : Option Nat)
    (chunkBytes queueMessages queueBytes : Nat) : System :=
  match system.relay.terminals connection.terminalId with
  | none => system.setConnection id { connection with phase := .ended }
  | some handle =>
      if handle.identityId ≠ connection.identityId then
        system.setConnection id { connection with phase := .ended }
      else
        match handle.subscribe fromOffset chunkBytes queueMessages queueBytes with
        | .error _ => system.setConnection id { connection with phase := .ended }
        | .ok (subscribed, subscription) =>
            let connected := Input.step
              (system.relay.setHandle connection.terminalId subscribed)
              (.connect connection.terminalId connection.version connection.maySendInput)
            match connected with
            | none => system
            | some relay =>
                ({ system with relay } : System).setConnection id
                  { connection with
                    phase := .live system.relay.nextMirror subscription.subscriberId }

/-- The next queued event is delivered; a terminal that closed, or a sender that was
dropped, ends the loop. -/
def event (system : System) (id : Nat) (connection : MirrorConnection) (mirror subscriberId : Nat) :
    Option System :=
  match system.relay.terminals connection.terminalId with
  | none => none
  | some handle =>
      match (handle.mailboxes subscriberId).channel.recv with
      | some (event, _) =>
          let received := handle.apply (.receive subscriberId)
          match event with
          | .output _ payload =>
              some (((system.setHandle connection.terminalId
                (received.apply (.release subscriberId payload.length))).act id connection
                  .output).setConnection id (system.turn connection))
          | .closed _ _ _ =>
              some ((system.setHandle connection.terminalId received).leave id connection mirror
                subscriberId)
          | .durable _ | .resize _ _ =>
              some ((system.setHandle connection.terminalId received).setConnection id
                (system.turn connection))
      | none =>
          if handle.inner.subscribers.any fun subscriber => subscriber.id = subscriberId then none
          else some (system.leave id connection mirror subscriberId)

/-- One section of the input path, for this connection's task. -/
def input (system : System) (id : Nat) (connection : MirrorConnection) (mirror subscriberId : Nat)
    (action : Input.Action) : Option System :=
  match Input.step system.relay action with
  | none => none
  | some relay =>
      let moved : System := { system with relay }
      let acted : System :=
        if system.relay.delivered.length < relay.delivered.length then moved.act id connection .input
        else moved
      match relay.mirrors mirror with
      | some task =>
          match task.phase with
          | .ended => some (acted.leave id connection mirror subscriberId)
          | .waiting => some (acted.setConnection id (system.turn connection))
          | _ => some acted
      | none => none

def openTerminalsOf (system : System) (deviceId : Uuid) : List Uuid :=
  (system.terminals.filter fun row => row.deviceId = deviceId ∧ row.state = .opened).map
    TerminalRow.terminalId

def setEnforcement (system : System) (deviceId : Uuid) (phase : EnforcePhase) : System :=
  { system with enforcement := Function.update system.enforcement deviceId phase }

def setRegistry (system : System) (registry : Registry) : System :=
  { system with relay := { system.relay with registry } }

/-- The sections of `enforce_device_revocation`.  It takes the publisher's slot and
closes the device's terminals; no section looks for the device's mirrors. -/
def enforce (system : System) (deviceId : Uuid) : Option System :=
  match system.enforcement deviceId with
  | .idle =>
      if system.revoked deviceId then
        some ((system.setRegistry { system.relay.registry with
          publishers := Function.update system.relay.registry.publishers deviceId
            none }).setEnforcement deviceId .removed)
      else none
  | .removed =>
      some ((system.setRegistry
        (system.relay.registry.failOpenRequestsForDevice deviceId)).setEnforcement deviceId .failed)
  | .failed => some (system.setEnforcement deviceId (.closing (system.openTerminalsOf deviceId)))
  | .closing (terminalId :: rest) =>
      let closed : System :=
        match system.relay.terminals terminalId with
        | some handle =>
            system.setHandle terminalId (handle.beginClose "device_revoked").1
        | none => system
      some (closed.setEnforcement deviceId (.closing rest))
  | .closing [] => some (system.setEnforcement deviceId .completed)
  | .completed => none

/-- Steps of the publisher's side and of the checkpoint task. -/
def otherTask : Input.Action → Bool
  | .attach _ _ _ _ | .detach _ _ | .receive _ | .closeReceiver _ => true
  | .handle _ (.append _ _ _) | .handle _ (.shrinkToCapacity _) | .handle _ (.resize _ _)
  | .handle _ (.updateMetadata _ _ _ _) | .handle _ (.beginClose _) => true
  | .handle _ _ | .load _ _ _ | .connect _ _ _ | .frame _ _ _ | .proceed _ _ _ | .disconnect _ =>
      false

def commit (system : System) (terminalId : Uuid) (durableTarget : Nat) (closed : Option String) :
    Option System :=
  match system.relay.terminals terminalId with
  | none => none
  | some handle =>
      some (({ system with
        terminals := update TerminalRow.terminalId terminalId
          (fun row => { row with
            durableOffset := durableTarget
            state := if closed.isSome then .closed else row.state
            closeReason := closed.or row.closeReason }) system.terminals }
        : System).setHandle terminalId (handle.commitDurable durableTarget closed))

end System

def step (parseUuid : List Char → Option Uuid) (system : System) : Action → Option System
  | .tick => some { system with now := system.now + 1 }
  | .registerDevice deviceId identityId role =>
      match system.accounts.insertDevice deviceId identityId role with
      | .ok accounts => some { system with accounts }
      | .error _ => none
  | .openTerminal row capacity =>
      match system.getTerminal row.terminalId with
      | some _ => none
      | none =>
          some (({ system with terminals := system.terminals ++ [row] } : System).setHandle
            row.terminalId (TerminalHandle.newOpen row capacity))
  | .revoke deviceId =>
      match system.accounts.getDevice deviceId with
      | some _ =>
          some { system with accounts := (system.accounts.revokeDevice deviceId system.now).1 }
      | none => none
  | .enforce deviceId => system.enforce deviceId
  | .requestTicket claims path ttl => some (system.requestTicket claims path ttl)
  | .beginUpgrade target version credential =>
      some (system.beginRequest (.upgradeStarted target version credential))
  | .advance id draw =>
      match system.requests id with
      | some phase => system.advance parseUuid id draw phase
      | none => none
  | .refuse id error =>
      match system.requests id with
      | some (.finished _) | none => none
      | some _ => some (system.finish id (.error error))
  | .subscribe id fromOffset chunkBytes queueMessages queueBytes =>
      match system.connections id with
      | some connection =>
          if connection.phase = .handshake then
            some (system.subscribe id connection fromOffset chunkBytes queueMessages queueBytes)
          else none
      | none => none
  | .event id =>
      match system.connections id with
      | some connection =>
          match connection.phase with
          | .live mirror subscriberId =>
              if system.atSelect mirror then system.event id connection mirror subscriberId else none
          | _ => none
      | none => none
  | .frame id bytes settings =>
      match system.connections id with
      | some connection =>
          match connection.phase with
          | .live mirror subscriberId =>
              system.input id connection mirror subscriberId (.frame mirror bytes settings)
          | _ => none
      | none => none
  | .proceed id framesTaken bytesTaken =>
      match system.connections id with
      | some connection =>
          match connection.phase with
          | .live mirror subscriberId =>
              system.input id connection mirror subscriberId
                (.proceed mirror framesTaken bytesTaken)
          | _ => none
      | none => none
  | .heartbeat id =>
      match system.connections id with
      | some connection =>
          match connection.phase with
          | .live mirror _ =>
              if system.atSelect mirror then some (system.setConnection id (system.turn connection))
              else none
          | _ => none
      | none => none
  | .close id =>
      match system.connections id with
      | some connection =>
          match connection.phase with
          | .live mirror subscriberId =>
              if system.atSelect mirror then some (system.leave id connection mirror subscriberId)
              else none
          | .handshake => some (system.setConnection id { connection with phase := .ended })
          | .ended => none
      | none => none
  | .relay action =>
      if System.otherTask action then
        (Input.step system.relay action).map fun relay => { system with relay }
      else none
  | .commit terminalId durableTarget closed => system.commit terminalId durableTarget closed

end Hypeterm.Http.Upgrade
