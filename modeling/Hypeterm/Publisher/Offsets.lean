import Hypeterm.Publisher.Drive
import Hypeterm.Publisher.Isolation
import Hypeterm.Relay.Acks

/-! One terminal's stream from its owner's chunks to the relay's storage: the driver, its entry in
the multiplexer, the socket and the relay. -/
namespace Hypeterm.Publisher

open Library List Option Hosted Drive
open Db (Store getTerminal)
open Relay (TerminalHandle HandleOp)

def FromOwner.bytes : FromOwner → Bytes
  | .output chunk => chunk
  | .resize _ _ => []

/-- What the relay says about a stream. -/
inductive Said where
  | acknowledged (durableOffset : Nat)
  | reported (nextOffset : Nat)
  deriving DecidableEq

def ServerMessage.said : ServerMessage → List Said
  | .terminalOpened _ _ nextOffset => [.reported nextOffset]
  | .outputAck _ durableOffset => [.acknowledged durableOffset]
  | .error code _ _ _ authoritative =>
      if code = "offset_mismatch" then authoritative.toList.map .reported else []
  | _ => []

def Event.said : Event → List Said
  | .attached _ nextOffset _ => [.reported nextOffset]
  | .ack durableOffset => [.acknowledged durableOffset]
  | .mismatch nextOffset => [.reported nextOffset]
  | _ => []

/-- A report is not behind an acknowledgement given before it. -/
def Said.inOrder : Said → Said → Prop
  | .acknowledged durableOffset, .reported nextOffset => durableOffset ≤ nextOffset
  | _, _ => True

namespace Offsets

/-- `live` is whether the relay's end of the current connection is there; what was on its
way when the connection broke is `stale` and may still arrive.  `replying` is an answer
the connection's loop has not written yet, and `tasks` are the connection's ack tasks.
From `published` on the fields are history. -/
structure System where
  drive : Drive
  owner : List FromOwner
  ownerDropped : Bool
  requests : List Request
  entry : Hosted
  hosted : Bool
  connection : Option Limits
  live : Bool
  uplink : List Outbound
  replying : Option ServerMessage
  downlink : List ServerMessage
  stale : List Outbound
  tasks : List Nat
  acks : Relay.Acks.System
  published : Bytes
  sent : Bytes
  resyncs : List Resync
  said : List Said
  heard : List Said

/-- `serve`, `append` and `refuse` are the relay's loop with the next message of the
current connection; `serve` names the terminal an open found or made.  A step of the ack
tasks carries whether a task it starts belongs to the current connection. -/
inductive Action where
  | publish (message : FromOwner)
  | dropOwner
  | top
  | takeEvent
  | takeOwner
  | forward
  | closeFinished
  | connect (limits : Limits)
  | disconnect
  | receive
  | serve (terminalId : Uuid)
  | append (capacity : Nat)
  | refuse (code message : String)
  | reply
  | arrive (index capacity : Nat)
  | acks (action : Relay.Acks.Action) (current : Bool)

/-- The terminal is one of this device and `local_ref`. -/
def owns (deviceId : Uuid) (localRef : String) (store : Store) (terminalId : Uuid) : Bool :=
  (getTerminal store terminalId).any fun row =>
    row.deviceId = deviceId && row.localRef = localRef

namespace System

def initial (spec : TerminalSpec) : System where
  drive := .start
  owner := []
  ownerDropped := false
  requests := []
  entry := ⟨spec, none, Channel.new 256, none⟩
  hosted := true
  connection := none
  live := false
  uplink := []
  replying := none
  downlink := []
  stale := []
  tasks := []
  acks := .initial
  published := []
  sent := []
  resyncs := []
  said := []
  heard := []

def afterTurn (system : System) (turn : Turn) : System :=
  { system with
    drive := turn.drive
    requests := system.requests ++ turn.requests
    sent := system.sent ++ turn.sent
    resyncs := system.resyncs ++ turn.resync.toList }

/-- What is written to a connection whose other end is gone is lost. -/
def write (system : System) (messages : List Outbound) : System :=
  { system with uplink := if system.live then system.uplink ++ messages else system.uplink }

/-- The multiplexer takes a request.  While there is no connection nothing is framed. -/
def forward (system : System) (request : Request) : System :=
  let known := if system.hosted then some system.entry else none
  match request with
  | .output startOffset bytes =>
      match system.connection with
      | some limits => system.write (Multiplexer.forward known limits startOffset bytes)
      | none => system
  | .resize cols rows =>
      ({ system with entry := system.entry.resize cols rows } : System).write
        ((known.bind Hosted.terminalId).toList.map fun terminalId =>
          .terminalResize terminalId cols rows)
  | .close _ =>
      if system.hosted then
        { system with
          entry := (system.entry.setClosing "process_exited").deliver
            (.ended "the terminal ended") }
      else system

/-- The connection is lost: the entry is detached, and nothing that is still on its way
to this side is read. -/
def disconnect (system : System) : System :=
  { system with
    entry :=
      if system.hosted then ({ system.entry with terminalId := none } : Hosted).offer .detached
      else system.entry
    connection := none
    live := false
    uplink := []
    replying := none
    downlink := []
    stale := system.stale ++ system.uplink
    tasks := [] }

def opening (entry : Hosted) : Outbound :=
  .terminalOpen entry.localRef entry.localRef entry.spec.label entry.spec.cols entry.spec.rows
    entry.spec.term true (entry.spec.inReplyTo.filter fun _ => entry.terminalId.isNone)

/-- A new connection opens the entry again, unless it finished during the wait. -/
def connect (system : System) (limits : Limits) : System :=
  let hosted := system.hosted && system.entry.closing.isNone
  { system with
    hosted
    connection := some limits
    live := true
    uplink := if hosted then [opening system.entry] else [] }

/-- Errors of the relay about this entry name its terminal, or the request to open it. -/
def target (system : System) : ServerMessage → Option String
  | .error _ _ (some terminalId) _ _ =>
      if system.entry.terminalId = some terminalId then some system.entry.localRef else none
  | .error _ _ none requestId _ => requestId
  | _ => none

def receive (system : System) (limits : Limits) (message : ServerMessage) : System :=
  if system.hosted then
    let handled := system.entry.onMessage limits (system.target message) message
    { system with entry := handled.1, hosted := handled.2 }
  else system

def arrived (system : System) (terminalId : Uuid) (startOffset : Nat) (payload : Bytes)
    (capacity : Nat) : System × Option ServerMessage :=
  match system.acks.relay.resident terminalId with
  | none =>
      (system, some (.error "terminal_not_found" "unknown terminal for this device"
        (some terminalId) none none))
  | some handle =>
      let op : HandleOp := .append startOffset payload capacity
      ({ system with acks := { system.acks with relay := system.acks.relay.applyOp handle op } },
        match (handle.append startOffset payload capacity).2 with
        | .accepted _ _ => none
        | .offsetMismatch nextOffset _ =>
            some (.error "offset_mismatch"
              "frame start offset does not match the terminal's next offset" (some terminalId) none
              (some nextOffset))
        | .notOpen =>
            some (.error "terminal_closed" "terminal is closed and cannot accept output"
              (some terminalId) none none))

def afterAcks (deviceId : Uuid) (localRef : String) (system : System)
    (action : Relay.Acks.Action) (current : Bool) (acks : Relay.Acks.System) : System :=
  let told := (acks.sent.drop system.acks.sent.length).filter fun ack =>
    owns deviceId localRef acks.relay.store ack.terminalId
  let said := told.map fun ack => Said.acknowledged ack.durableOffset
  let heard := told.map fun ack => ServerMessage.outputAck ack.terminalId ack.durableOffset
  match action with
  | .relay .crash =>
      { system with
        acks, live := false, uplink := [], replying := none, stale := [], tasks := [] }
  | .spawnAckTask task _ =>
      { system with acks, tasks := if current then task :: system.tasks else system.tasks }
  | .proceed task _ _ =>
      { system with
        acks
        said := system.said ++ said
        downlink := if task ∈ system.tasks then system.downlink ++ heard else system.downlink }
  | _ => { system with acks }

end System

/-- Output for this `local_ref` comes from its driver alone. -/
def permitted (deviceId : Uuid) (localRef : String) (store : Store) : Relay.Acks.Action → Bool
  | .relay (.handle terminalId (.append _ _ _)) => !owns deviceId localRef store terminalId
  | _ => true

def step (deviceId : Uuid) (localRef : String) (system : System) : Action → Option System
  | .publish message =>
      if system.ownerDropped then none
      else
        some { system with
          owner := system.owner ++ [message], published := system.published ++ message.bytes }
  | .dropOwner => some { system with ownerDropped := true }
  | .top =>
      match system.drive.phase with
      | .top => some (system.afterTurn system.drive.top)
      | _ => none
  | .takeEvent =>
      match system.drive.phase, system.entry.events.recv with
      | .selecting, some (event, events) =>
          some (({ system with
            entry := { system.entry with events }
            heard := system.heard ++ event.said } : System).afterTurn
              (system.drive.onEvent (some event)))
      | .selecting, none =>
          if system.hosted then none else some (system.afterTurn (system.drive.onEvent none))
      | _, _ => none
  | .takeOwner =>
      if system.drive.phase = .selecting ∧ system.drive.takesOwner then
        match system.owner with
        | message :: owner =>
            some (({ system with owner } : System).afterTurn (system.drive.onOwner (some message)))
        | [] =>
            if system.ownerDropped then some (system.afterTurn (system.drive.onOwner none)) else none
      else none
  | .forward =>
      match system.requests with
      | request :: requests => some (({ system with requests } : System).forward request)
      | [] => none
  | .closeFinished =>
      if system.hosted ∧ system.connection.isSome ∧ system.entry.finished then
        some (({ system with
          hosted := false
          entry := system.entry.offer (.ended "the terminal ended") } : System).write
            (system.entry.terminalId.toList.map fun terminalId =>
              .terminalClose terminalId (system.entry.closing.getD "closed")))
      else none
  | .connect limits =>
      if system.connection.isNone then some (system.connect limits) else none
  | .disconnect => if system.connection.isSome then some system.disconnect else none
  | .receive =>
      match system.connection, system.downlink with
      | some limits, message :: downlink =>
          some (({ system with downlink } : System).receive limits message)
      | _, _ => none
  | .serve terminalId =>
      match system.replying, system.uplink with
      | none, .terminalOpen requestId _ _ _ _ _ _ _ :: uplink =>
          if owns deviceId localRef system.acks.relay.store terminalId then
            (system.acks.relay.resident terminalId).map fun handle =>
              { system with
                uplink
                replying := some (.terminalOpened requestId terminalId handle.inner.nextOffset) }
          else none
      | _, _ => none
  | .append capacity =>
      match system.replying, system.uplink with
      | none, .output terminalId startOffset payload :: uplink =>
          let arrived := ({ system with uplink } : System).arrived terminalId startOffset payload capacity
          some { arrived.1 with replying := arrived.2 }
      | _, _ => none
  | .refuse code message =>
      if code = "offset_mismatch" then none
      else
        match system.replying, system.uplink with
        | none, .terminalOpen requestId _ _ _ _ _ _ _ :: uplink =>
            some { system with
              uplink, replying := some (.error code message none (some requestId) none) }
        | none, .output terminalId _ _ :: uplink =>
            some { system with
              uplink, replying := some (.error code message (some terminalId) none none) }
        -- A resize or a close asks for no answer; what it does to the handle is a step
        -- of the relay.
        | none, _ :: uplink => some { system with uplink }
        | _, _ => none
  | .reply =>
      match system.replying with
      | some message =>
          some { system with
            replying := none
            downlink := system.downlink ++ [message]
            said := system.said ++ message.said }
      | none => none
  | .arrive index capacity =>
      match system.stale[index]? with
      | some (.output terminalId startOffset payload) =>
          some (({ system with stale := system.stale.eraseIdx index } : System).arrived terminalId
            startOffset payload capacity).1
      | _ => none
  | .acks action current =>
      if permitted deviceId localRef system.acks.relay.store action then
        (Relay.Acks.step system.acks action).map
          (system.afterAcks deviceId localRef action current)
      else none

section
variable (deviceId : Uuid) (localRef : String)

/-- The driver: its stream carries what it handed over, and with what is held and what
is queued that is everything the owner gave. -/
structure Driven (drive : Drive) (owner : List FromOwner) (requests : List Request)
    (sent published : Bytes) : Prop where
  carries : drive.stream.Carries sent
  accounted : sent ++ (drive.waiting.getD [] ++ owner.flatMap FromOwner.bytes) = published
  requests : ∀ request ∈ requests, request.PartOf sent

def SoundFrame (store : Store) (sent : Bytes) (message : Outbound) : Prop :=
  ∀ terminalId startOffset payload, message = .output terminalId startOffset payload →
    PartOf sent startOffset payload ∧ owns deviceId localRef store terminalId = true

/-- An answer of the relay is not ahead of the stream, and opens a terminal of it. -/
structure SoundAnswer (store : Store) (sent : Bytes) (message : ServerMessage) : Prop where
  reported : ∀ nextOffset, .reported nextOffset ∈ message.said → nextOffset ≤ sent.length
  opened : ∀ requestId terminalId nextOffset,
    message = .terminalOpened requestId terminalId nextOffset →
      owns deviceId localRef store terminalId = true

/-- Everything on its way between the driver and the relay, in both directions. -/
structure Wired (store : Store) (sent : Bytes) (entry : Hosted) (wire : List Outbound)
    (answers : List ServerMessage) : Prop where
  named : ∀ terminalId, entry.terminalId = some terminalId →
    owns deviceId localRef store terminalId = true
  frames : ∀ message ∈ wire, SoundFrame deviceId localRef store sent message
  answers : ∀ message ∈ answers, SoundAnswer deviceId localRef store sent message
  events : ∀ event ∈ entry.events.queue, ∀ nextOffset, .reported nextOffset ∈ event.said →
    nextOffset ≤ sent.length

/-- The relay: what it accepted for a terminal of this `local_ref` is a beginning of the
stream. -/
structure Stored (acks : Relay.Acks.System) (sent : Bytes) : Prop where
  inv : Relay.Acks.AckInv acks
  accepted : ∀ terminalId, owns deviceId localRef acks.relay.store terminalId = true →
    acks.relay.accepted terminalId <+: sent

/-- What the driver heard, has queued and will still be told was said in that order.  It
released what was acknowledged, and gave the stream up when a report contradicted an
acknowledgement. -/
structure Logged (said heard : List Said) (queue : List Event) (downlink : List ServerMessage)
    (start : Nat) (resyncs : List Resync) : Prop where
  order : (heard ++ (queue.flatMap Event.said ++ downlink.flatMap ServerMessage.said)).Sublist said
  released : start = 0 ∨ ∃ durableOffset, .acknowledged durableOffset ∈ heard ∧ start ≤ durableOffset
  lost : .unrecoverable ∈ resyncs → ¬ heard.Pairwise Said.inOrder

structure Inv (system : System) : Prop where
  driven : Driven system.drive system.owner system.requests system.sent system.published
  wired : Wired deviceId localRef system.acks.relay.store system.sent system.entry
    (system.uplink ++ system.stale) (system.replying.toList ++ system.downlink)
  stored : Stored deviceId localRef system.acks system.sent
  logged : Logged system.said system.heard system.entry.events.queue system.downlink
    system.drive.stream.retained.start system.resyncs

end

variable {deviceId : Uuid} {localRef : String}

section
variable {store : Store} {sent : Bytes} {entry : Hosted} {wire : List Outbound}
    {answers : List ServerMessage}

theorem Wired.grow (wired : Wired deviceId localRef store sent entry wire answers)
    (added : Bytes) : Wired deviceId localRef store (sent ++ added) entry wire answers where
  named := wired.named
  frames := by
    intro message member terminalId startOffset payload heq
    obtain ⟨hpart, howns⟩ := wired.frames message member terminalId startOffset payload heq
    exact ⟨hpart.append added, howns⟩
  answers := by
    intro message member
    obtain ⟨hreported, hopened⟩ := wired.answers message member
    refine ⟨fun nextOffset hsaid => ?_, hopened⟩
    rw [length_append]
    exact (hreported nextOffset hsaid).trans (Nat.le_add_right _ _)
  events := by
    intro event member nextOffset hsaid
    rw [length_append]
    exact (wired.events event member nextOffset hsaid).trans (Nat.le_add_right _ _)

theorem Wired.keep (wired : Wired deviceId localRef store sent entry wire answers)
    {after : Store} (keeps : ∀ terminalId, owns deviceId localRef store terminalId = true →
      owns deviceId localRef after terminalId = true) :
    Wired deviceId localRef after sent entry wire answers where
  named := fun terminalId known => keeps terminalId (wired.named terminalId known)
  frames := by
    intro message member terminalId startOffset payload heq
    obtain ⟨hpart, howns⟩ := wired.frames message member terminalId startOffset payload heq
    exact ⟨hpart, keeps terminalId howns⟩
  answers := by
    intro message member
    obtain ⟨hreported, hopened⟩ := wired.answers message member
    exact ⟨hreported, fun requestId terminalId nextOffset heq =>
      keeps terminalId (hopened requestId terminalId nextOffset heq)⟩
  events := wired.events

section

variable (wired : Wired deviceId localRef store sent entry wire answers)
include wired

theorem Wired.subset
    {lessWire : List Outbound} {lessAnswers : List ServerMessage} (wires : lessWire ⊆ wire)
    (told : lessAnswers ⊆ answers) :
    Wired deviceId localRef store sent entry lessWire lessAnswers where
  named := wired.named
  frames := fun message member => wired.frames message (wires member)
  answers := fun message member => wired.answers message (told member)
  events := wired.events

theorem Wired.addFrames (added : List Outbound) {wires : List Outbound}
    (sound : ∀ message ∈ added, SoundFrame deviceId localRef store sent message)
    (covers : ∀ message ∈ wires, message ∈ wire ∨ message ∈ added) :
    Wired deviceId localRef store sent entry wires answers where
  named := wired.named
  frames := by
    intro message member
    rcases covers message member with hold | hadded
    · exact wired.frames message hold
    · exact sound message hadded
  answers := wired.answers
  events := wired.events

theorem Wired.addAnswers (told : List ServerMessage) (sound : ∀ message ∈ told, message ∈ answers ∨
      SoundAnswer deviceId localRef store sent message) :
    Wired deviceId localRef store sent entry wire told where
  named := wired.named
  frames := wired.frames
  answers := by
    intro message member
    rcases sound message member with hold | hsound
    · exact wired.answers message hold
    · exact hsound
  events := wired.events

theorem Wired.setEntry (after : Hosted) (named : ∀ terminalId, after.terminalId = some terminalId →
      owns deviceId localRef store terminalId = true)
    (queued : ∀ event ∈ after.events.queue, event ∈ entry.events.queue ∨
      ∀ nextOffset, .reported nextOffset ∈ event.said → nextOffset ≤ sent.length) :
    Wired deviceId localRef store sent after wire answers where
  named := named
  frames := wired.frames
  answers := wired.answers
  events := by
    intro event member nextOffset hsaid
    rcases queued event member with hold | hnew
    · exact wired.events event hold nextOffset hsaid
    · exact hnew nextOffset hsaid

end

end

variable {sent payload : Bytes} {action : Relay.Action} {terminalId : Uuid}
  {next : Relay.Acks.System} {system : System} {uplink : List Outbound} {startOffset : Nat}

theorem Stored.grow {acks : Relay.Acks.System}
    (stored : Stored deviceId localRef acks sent) (added : Bytes) :
    Stored deviceId localRef acks (sent ++ added) where
  inv := stored.inv
  accepted := fun terminalId howns =>
    (stored.accepted terminalId howns).trans (prefix_append _ _)

theorem owns_keep {relay next : Relay.System} (taken : Relay.step relay action = some next)
    (howns : owns deviceId localRef relay.store terminalId = true) :
    owns deviceId localRef next.store terminalId = true := by
  obtain ⟨row, hrow, hmatch⟩ := (Option.any_eq_true _ _).mp howns
  obtain ⟨after, hafter, hdevice, href⟩ := Relay.owner_step taken hrow
  refine (Option.any_eq_true _ _).mpr ⟨after, hafter, ?_⟩
  rw [hdevice, href]
  exact hmatch

theorem owns_before {relay next : Relay.System}
    (inv : Relay.Inv relay) (taken : Relay.step relay action = some next)
    (howns : owns deviceId localRef next.store terminalId = true) :
    owns deviceId localRef relay.store terminalId = true ∨
      relay.resident terminalId = none ∧ relay.accepted terminalId = [] := by
  cases hrow : getTerminal relay.store terminalId with
  | none =>
    obtain ⟨hresident, haccepted, _⟩ := (inv.terminal terminalId).absent hrow
    exact .inr ⟨hresident, haccepted⟩
  | some row =>
    left
    obtain ⟨after, hafter, hdevice, href⟩ := Relay.owner_step taken hrow
    obtain ⟨found, hfound, hmatch⟩ := (Option.any_eq_true _ _).mp howns
    cases hafter.symm.trans hfound
    refine (Option.any_eq_true _ _).mpr ⟨row, hrow, ?_⟩
    rw [hdevice, href] at hmatch
    exact hmatch

theorem acceptedBytes_append (handle : TerminalHandle) (startOffset capacity : Nat)
    (payload : Bytes) :
    handle.acceptedBytes (.append startOffset payload capacity) = [] ∨
      startOffset = handle.inner.nextOffset ∧
        handle.acceptedBytes (.append startOffset payload capacity) = payload := by
  unfold TerminalHandle.acceptedBytes
  by_cases hclosed : handle.inner.lifecycle ≠ .opened
  · simp [TerminalHandle.append, hclosed]
  · by_cases hother : startOffset ≠ handle.inner.nextOffset
    · simp [TerminalHandle.append, hclosed, hother]
    · right
      refine ⟨not_not.mp hother, ?_⟩
      by_cases hempty : payload.isEmpty
      · simp [TerminalHandle.append, hclosed, hother, hempty]
      · simp [TerminalHandle.append, hclosed, hother, hempty]

theorem nextOffset_eq {acks : Relay.Acks.System} (inv : Relay.Acks.AckInv acks)
    {handle : TerminalHandle}
    (found : acks.relay.resident terminalId = some handle) :
    handle.inner.nextOffset = (acks.relay.accepted terminalId).length := by
  obtain ⟨_, _, hresident⟩ := (inv.relay.terminal terminalId).resident handle found
  exact hresident.nextOffset_eq

theorem Stored.step {acks : Relay.Acks.System} (stored : Stored deviceId localRef acks sent)
    (parts : ∀ terminalId startOffset payload capacity,
      action = .handle terminalId (.append startOffset payload capacity) →
      owns deviceId localRef acks.relay.store terminalId = true → PartOf sent startOffset payload)
    (taken : Relay.Acks.step acks (.relay action) = some next) :
    Stored deviceId localRef next sent where
  inv := stored.inv.step taken
  accepted := by
    intro terminalId howns
    obtain ⟨relay, hstep, rfl⟩ := map_eq_some_iff.mp taken
    change relay.accepted terminalId <+: sent
    have hbefore : acks.relay.accepted terminalId <+: sent := by
      rcases owns_before stored.inv.relay hstep howns with hold | ⟨_, hempty⟩
      · exact stored.accepted terminalId hold
      · rw [hempty]
        exact nil_prefix
    rcases Relay.accepted_step terminalId hstep with
      hless | ⟨handle, startOffset, payload, capacity, rfl, hfound, hgrown⟩
    · exact hless.trans hbefore
    · rw [hgrown]
      rcases acceptedBytes_append handle startOffset capacity payload with hnone | ⟨hstart, hall⟩
      · rw [hnone, append_nil]
        exact hbefore
      · rw [hall]
        have hold : owns deviceId localRef acks.relay.store terminalId = true := by
          rcases owns_before stored.inv.relay hstep howns with hold | ⟨hmissing, _⟩
          · exact hold
          · rw [hfound] at hmissing
            cases hmissing
        exact (parts terminalId startOffset payload capacity rfl hold).extend hbefore
          (hstart.trans (nextOffset_eq stored.inv hfound))

theorem Driven.turn {drive : Drive} {owner rest : List FromOwner} {requests : List Request}
    {published : Bytes} (driven : Driven drive owner requests sent published) {turn : Turn}
    (sound : turn.Sound sent)
    (accounts : turn.accounts ++ rest.flatMap FromOwner.bytes =
      drive.waiting.getD [] ++ owner.flatMap FromOwner.bytes) :
    Driven turn.drive rest (requests ++ turn.requests) (sent ++ turn.sent) published where
  carries := sound.carries
  accounted := by
    rw [← driven.accounted, ← accounts, Turn.accounts]
    simp
  requests := by
    intro request member
    rcases mem_append.mp member with hold | hnew
    · exact (driven.requests request hold).append turn.sent
    · exact sound.requests request hnew

theorem Logged.quiet {said heard : List Said} {queue : List Event} {downlink : List ServerMessage}
    {start after : Nat} {resyncs : List Resync}
    (logged : Logged said heard queue downlink start resyncs) (same : after = start) :
    Logged said heard queue downlink after (resyncs ++ (none : Option Resync).toList) := by
  rw [toList_none, append_nil, same]
  exact logged

theorem onOwner_accounts {drive : Drive} (free : drive.waiting = none) (message : FromOwner) :
    (drive.onOwner (some message)).accounts = message.bytes := by
  cases message with
  | output chunk => exact offerChunk_accounts drive chunk
  | resize => simp [onOwner, Turn.accounts, free, FromOwner.bytes]

section

variable (inv : Inv deviceId localRef system)
include inv

theorem Inv.top : Inv deviceId localRef (system.afterTurn system.drive.top) where
  driven := inv.driven.turn (top_sound inv.driven.carries)
    (by rw [top_accounts]; rfl)
  wired := inv.wired.grow _
  stored := inv.stored.grow _
  logged := by
    unfold System.afterTurn
    rw [resync_top]
    exact inv.logged.quiet (start_top system.drive)

theorem Inv.takeOwner
    (takes : system.drive.takesOwner = true) {message : FromOwner} {owner : List FromOwner}
    (queued : system.owner = message :: owner) :
    Inv deviceId localRef
      (({ system with owner } : System).afterTurn (system.drive.onOwner (some message))) where
  driven := by
    have hfree : system.drive.waiting = none := by
      unfold takesOwner at takes
      simp only [Bool.and_eq_true, isNone_iff_eq_none] at takes
      exact takes.2
    apply inv.driven.turn (onOwner_sound inv.driven.carries (some message))
    rw [onOwner_accounts hfree, queued, hfree]
    rfl
  wired := inv.wired.grow _
  stored := inv.stored.grow _
  logged := by
    unfold System.afterTurn
    rw [resync_onOwner]
    exact inv.logged.quiet (start_onOwner system.drive _)

theorem Inv.ownerEnds : Inv deviceId localRef (system.afterTurn (system.drive.onOwner none)) where
  driven := inv.driven.turn (onOwner_sound inv.driven.carries none) rfl
  wired := inv.wired.grow _
  stored := inv.stored.grow _
  logged := inv.logged.quiet rfl

theorem Inv.eventsEnd : Inv deviceId localRef (system.afterTurn (system.drive.onEvent none)) where
  driven := by
    apply inv.driven.turn
    · refine ⟨?_, fun request member => by cases member⟩
      simp only [onEvent, stream_notify, append_nil]
      exact inv.driven.carries
    · simp [onEvent, Turn.accounts, System.afterTurn]
  wired := inv.wired.grow _
  stored := inv.stored.grow _
  logged := inv.logged.quiet (by simp [onEvent, System.afterTurn])

end

theorem said_of_position {event : Event} {position : Nat}
    (names : event.position? = some position) : event.said = [.reported position] := by
  cases event with
  | attached | mismatch =>
    simp only [Event.position?, Option.some.injEq] at names
    rw [← names]
    rfl
  | ack | input | resizeRequest | detached | ended => cases names

theorem Inv.takeEvent (inv : Inv deviceId localRef system) {event : Event}
    {events : Channel Event} (received : system.entry.events.recv = some (event, events)) :
    Inv deviceId localRef (({ system with
      entry := { system.entry with events }
      heard := system.heard ++ event.said } : System).afterTurn
        (system.drive.onEvent (some event))) := by
  have hqueue : system.entry.events.queue = event :: events.queue := by
    unfold Channel.recv at received
    split at received
    · cases received
    · rename_i value rest hqueue
      cases received
      exact hqueue
  have hbound : ∀ position, event.position? = some position → position ≤ system.sent.length := by
    intro position hposition
    apply inv.wired.events event (by rw [hqueue]; exact mem_cons_self) position
    rw [said_of_position hposition]
    exact mem_singleton_self _
  obtain ⟨hsent, hwaiting⟩ := onEvent_fields system.drive event
  constructor
  · apply inv.driven.turn (onEvent_sound inv.driven.carries hbound)
    simp only [Turn.accounts, hsent, hwaiting, nil_append]
    rfl
  · refine (inv.wired.setEntry { system.entry with events } inv.wired.named ?_).grow _
    intro other member
    left
    rw [hqueue]
    exact mem_cons_of_mem _ member
  · exact inv.stored.grow _
  · constructor
    · have horder := inv.logged.order
      rw [hqueue, flatMap_cons, append_assoc, ← append_assoc] at horder
      exact horder
    · rcases start_onEvent inv.driven.carries hbound with hsame | ⟨durableOffset, rfl, hle⟩
      · simp only [System.afterTurn, hsame]
        rcases inv.logged.released with hzero | ⟨durableOffset, hmem, hle⟩
        · exact .inl hzero
        · exact .inr ⟨durableOffset, mem_append_left _ hmem, hle⟩
      · exact .inr ⟨durableOffset, mem_append_right _ (mem_singleton_self _), hle⟩
    · intro hlost hordered
      rcases mem_append.mp hlost with hold | hnew
      · exact inv.logged.lost hold (hordered.sublist (sublist_append_left _ _))
      · obtain ⟨position, hposition, hbehind⟩ := unrecoverable_onEvent inv.driven.carries
          hbound (mem_toList.mp hnew)
        rcases inv.logged.released with hzero | ⟨durableOffset, hmem, hle⟩
        · omega
        · change (system.heard ++ event.said).Pairwise Said.inOrder at hordered
          rw [said_of_position hposition, pairwise_append] at hordered
          have hinOrder : durableOffset ≤ position :=
            hordered.2.2 _ hmem _ (mem_singleton_self _)
          omega

theorem queue_deliver (hosted : Hosted) (event : Event) :
    (hosted.deliver event).events.queue = hosted.events.queue ∨
      (hosted.deliver event).events.queue = hosted.events.queue ++ [event] := by
  unfold deliver
  split
  · rename_i events hsend
    obtain ⟨_, _, rfl⟩ := Channel.trySend_ok hsend
    exact .inr rfl
  · exact .inl rfl
  · exact .inl rfl

theorem queue_offer (hosted : Hosted) (event : Event) :
    (hosted.offer event).events.queue = hosted.events.queue ∨
      (hosted.offer event).events.queue = hosted.events.queue ++ [event] := by
  unfold offer
  split
  · rename_i events hsend
    obtain ⟨_, _, rfl⟩ := Channel.trySend_ok hsend
    exact .inr rfl
  · exact .inl rfl

theorem queue_hear (hosted : Hosted) (terminalId : Uuid) (event : Event) :
    (hosted.hear terminalId event).events.queue = hosted.events.queue ∨
      (hosted.hear terminalId event).events.queue = hosted.events.queue ++ [event] := by
  unfold hear
  split
  · exact queue_deliver hosted event
  · exact .inl rfl

theorem queue_onMessage (hosted : Hosted) (limits : Limits) (target : Option String)
    (message : ServerMessage) :
    (hosted.onMessage limits target message).1.events.queue = hosted.events.queue ∨
      ∃ event, event.said.Sublist message.said ∧
        (hosted.onMessage limits target message).1.events.queue =
          hosted.events.queue ++ [event] := by
  have hadd : ∀ (after : Hosted) (event : Event), event.said.Sublist message.said →
      (after.events.queue = hosted.events.queue ∨
        after.events.queue = hosted.events.queue ++ [event]) →
      after.events.queue = hosted.events.queue ∨ ∃ event, event.said.Sublist message.said ∧
        after.events.queue = hosted.events.queue ++ [event] := by
    intro after event hsaid hqueue
    rcases hqueue with hsame | hadded
    · exact .inl hsame
    · exact .inr ⟨event, hsaid, hadded⟩
  cases message with
  | terminalOpened requestId terminalId nextOffset =>
    simp only [onMessage]
    split
    · exact hadd _ (.attached terminalId nextOffset limits) (Sublist.refl _)
        (queue_deliver { hosted with terminalId := some terminalId } _)
    · exact .inl rfl
  | outputAck terminalId durableOffset =>
    exact hadd _ _ (Sublist.refl _) (queue_hear hosted terminalId _)
  | terminalResizeRequest terminalId cols rows =>
    exact hadd _ _ (Sublist.refl _) (queue_hear hosted terminalId _)
  | terminalClosed terminalId reason =>
    simp only [onMessage]
    split
    · exact hadd _ (.ended ("the relay closed the terminal: " ++ reason)) (nil_sublist _)
        (queue_offer hosted _)
    · exact .inl rfl
  | error code message terminalId requestId authoritative =>
    simp only [onMessage]
    split
    · unfold onError
      split
      · rename_i nextOffset hnext
        refine hadd _ (.mismatch nextOffset) ?_ (queue_offer hosted _)
        split at hnext
        · rename_i hcode
          simp only [ServerMessage.said, if_pos hcode, hnext]
          exact Sublist.refl _
        · cases hnext
      · exact hadd _ (.ended (code ++ ": " ++ message)) (nil_sublist _)
          (queue_offer hosted _)
    · exact .inl rfl
  | ready | terminalOpenRequest | notice | ping | unrecognised => exact .inl rfl

theorem Inv.silence (inv : Inv deviceId localRef system) {after : Hosted}
    (event : Event) (silent : event.said = [])
    (named : after.terminalId = none ∨ after.terminalId = system.entry.terminalId)
    (queued : after.events.queue = system.entry.events.queue ∨
      after.events.queue = system.entry.events.queue ++ [event]) :
    Inv deviceId localRef { system with entry := after } where
  driven := inv.driven
  wired := by
    apply inv.wired.setEntry
    · intro terminalId known
      rcases named with hnone | hsame
      · rw [hnone] at known
        cases known
      · exact inv.wired.named terminalId (hsame ▸ known)
    · intro other member
      rcases queued with hsame | hadded
      · exact .inl (hsame ▸ member)
      · rw [hadded] at member
        rcases mem_append.mp member with hold | hlast
        · exact .inl hold
        · right
          rw [mem_singleton.mp hlast, silent]
          intro nextOffset hmem
          cases hmem
  stored := inv.stored
  logged := by
    refine ⟨?_, inv.logged.released, inv.logged.lost⟩
    have hsaid : after.events.queue.flatMap Event.said =
        system.entry.events.queue.flatMap Event.said := by
      rcases queued with hsame | hadded
      · rw [hsame]
      · rw [hadded, flatMap_append, flatMap_singleton, silent, append_nil]
    rw [hsaid]
    exact inv.logged.order

section

variable (inv : Inv deviceId localRef system)
include inv

theorem Inv.write {messages : List Outbound} (sound : ∀ message ∈ messages,
      SoundFrame deviceId localRef system.acks.relay.store system.sent message) :
    Inv deviceId localRef (system.write messages) where
  driven := inv.driven
  wired := by
    apply inv.wired.addFrames _ sound
    intro message member
    simp only [System.write] at member
    rcases mem_append.mp member with huplink | hstale
    · split at huplink
      · rcases mem_append.mp huplink with hold | hnew
        · exact .inl (mem_append_left _ hold)
        · exact .inr hnew
      · exact .inl (mem_append_left _ huplink)
    · exact .inl (mem_append_right _ hstale)
  stored := inv.stored
  logged := inv.logged

theorem Inv.forward {request : Request}
    {requests : List Request} (queued : system.requests = request :: requests) :
    Inv deviceId localRef (({ system with requests } : System).forward request) := by
  have hrest : Inv deviceId localRef { system with requests } :=
    { inv with driven := { inv.driven with
        requests := fun other member => inv.driven.requests other
          (queued ▸ mem_cons_of_mem _ member) } }
  cases request with
  | output startOffset bytes =>
    have hpart : PartOf system.sent startOffset bytes :=
      inv.driven.requests (.output startOffset bytes) (queued ▸ mem_cons_self) _ _ rfl
    simp only [System.forward]
    split
    · apply hrest.write
      intro message member
      unfold Multiplexer.forward at member
      split at member
      · cases member
      · rename_i terminalId hknown
        obtain ⟨frame, hframe, rfl⟩ := List.mem_map.mp member
        intro named start payload heq
        cases heq
        refine ⟨hpart.framed hframe, ?_⟩
        obtain ⟨entry, hentry, hid⟩ := bind_eq_some_iff.mp hknown
        split at hentry
        · cases hentry
          exact inv.wired.named _ hid
        · cases hentry
    · exact hrest
  | resize cols rows =>
    have hsized : Inv deviceId localRef
        { system with requests, entry := system.entry.resize cols rows } :=
      hrest.silence .detached rfl (Or.inr rfl) (Or.inl rfl)
    apply hsized.write
    intro message member named start payload heq
    obtain ⟨terminalId, _, rfl⟩ := List.mem_map.mp member
    cases heq
  | close reason =>
    simp only [System.forward]
    split
    · exact hrest.silence (.ended "the terminal ended") rfl
        (Or.inr (terminalId_deliver _ _)) (queue_deliver _ _)
    · exact hrest

theorem Inv.closeFinished : Inv deviceId localRef (({ system with
      hosted := false
      entry := system.entry.offer (.ended "the terminal ended") } : System).write
        (system.entry.terminalId.toList.map fun terminalId =>
          .terminalClose terminalId (system.entry.closing.getD "closed"))) := by
  have hended : Inv deviceId localRef { system with
      entry := system.entry.offer (.ended "the terminal ended") } :=
    inv.silence (.ended "the terminal ended") rfl
      (Or.inr (terminalId_offer _ _)) (queue_offer _ _)
  have hleft : Inv deviceId localRef { system with
      hosted := false
      entry := system.entry.offer (.ended "the terminal ended") } :=
    ⟨hended.driven, hended.wired, hended.stored, hended.logged⟩
  apply hleft.write
  intro message member named start payload heq
  obtain ⟨terminalId, _, rfl⟩ := List.mem_map.mp member
  cases heq

theorem Inv.connect (limits : Limits) : Inv deviceId localRef (system.connect limits) where
  driven := inv.driven
  wired := by
    apply inv.wired.addFrames [System.opening system.entry]
    · intro message member named start payload heq
      rw [mem_singleton.mp member] at heq
      cases heq
    · intro message member
      rcases mem_append.mp member with huplink | hstale
      · simp only [System.connect] at huplink
        split at huplink
        · exact .inr huplink
        · cases huplink
      · exact .inl (mem_append_right _ hstale)
  stored := inv.stored
  logged := inv.logged

theorem Inv.disconnect : Inv deviceId localRef system.disconnect := by
  have hentry : Inv deviceId localRef { system with
      entry := if system.hosted then
        ({ system.entry with terminalId := none } : Hosted).offer .detached else system.entry } := by
    split
    · exact inv.silence .detached rfl (Or.inl (terminalId_offer _ _))
        (queue_offer { system.entry with terminalId := none } _)
    · exact inv
  refine ⟨hentry.driven, ?_, hentry.stored, ?_⟩
  · apply hentry.wired.subset
    · intro message member
      change message ∈ [] ++ (system.stale ++ system.uplink) at member
      rw [nil_append, mem_append] at member
      exact mem_append.mpr member.symm
    · intro message member
      cases member
  · refine ⟨?_, hentry.logged.released, hentry.logged.lost⟩
    refine Sublist.trans ?_ hentry.logged.order
    apply Sublist.append (Sublist.refl _)
    exact Sublist.append (Sublist.refl _) (nil_sublist _)

end

theorem Inv.receive (inv : Inv deviceId localRef system) (limits : Limits)
    {message : ServerMessage} {downlink : List ServerMessage}
    (queued : system.downlink = message :: downlink) :
    Inv deviceId localRef (({ system with downlink } : System).receive limits message) := by
  have hsound := inv.wired.answers message
    (mem_append_right _ (queued ▸ mem_cons_self))
  have hless : system.replying.toList ++ downlink ⊆ system.replying.toList ++ system.downlink := by
    intro other member
    rw [queued]
    rcases mem_append.mp member with hreply | hdown
    · exact mem_append_left _ hreply
    · exact mem_append_right _ (mem_cons_of_mem _ hdown)
  have horder := inv.logged.order
  rw [queued, flatMap_cons] at horder
  unfold System.receive
  split
  · refine ⟨inv.driven, ?_, inv.stored, ?_⟩
    · refine (inv.wired.subset (List.Subset.refl _) hless).setEntry _ ?_ ?_
      · intro terminalId known
        rcases system.entry.terminalId_onFrame limits (({ system with downlink } : System).target message)
          (.text (some message)) with hsame | ⟨opened, nextOffset, heq, hopened⟩
        · rw [show (system.entry.onMessage limits
            (({ system with downlink } : System).target message) message).1.terminalId =
              system.entry.terminalId from hsame] at known
          exact inv.wired.named terminalId known
        · rw [show (system.entry.onMessage limits
            (({ system with downlink } : System).target message) message).1.terminalId =
              some opened from hopened, Option.some.injEq] at known
          rw [← known]
          exact hsound.opened _ opened nextOffset (Option.some.inj (Frame.text.inj heq))
      · intro event member
        rcases queue_onMessage system.entry limits (({ system with downlink } : System).target message) message with
          hsame | ⟨added, hsaid, hadded⟩
        · exact .inl (hsame ▸ member)
        · rw [hadded] at member
          rcases mem_append.mp member with hold | hlast
          · exact .inl hold
          · right
            rw [mem_singleton.mp hlast]
            exact fun nextOffset hmem => hsound.reported nextOffset (hsaid.subset hmem)
    · refine ⟨?_, inv.logged.released, inv.logged.lost⟩
      refine Sublist.trans (Sublist.append (Sublist.refl _) ?_) horder
      rcases queue_onMessage system.entry limits (({ system with downlink } : System).target message) message with
        hsame | ⟨added, hsaid, hadded⟩
      · dsimp only
        rw [hsame]
        exact Sublist.append (Sublist.refl _) (sublist_append_right _ _)
      · dsimp only
        rw [hadded, flatMap_append, flatMap_singleton, append_assoc]
        exact Sublist.append (Sublist.refl _)
          (Sublist.append hsaid (Sublist.refl _))
  · refine ⟨inv.driven, inv.wired.subset (List.Subset.refl _) hless, inv.stored, ?_⟩
    refine ⟨?_, inv.logged.released, inv.logged.lost⟩
    refine Sublist.trans (Sublist.append (Sublist.refl _) ?_) horder
    exact Sublist.append (Sublist.refl _) (sublist_append_right _ _)

theorem Inv.answer (inv : Inv deviceId localRef system) {message : Outbound}
    (queued : system.uplink = message :: uplink)
    (replying : Option ServerMessage)
    (sound : ∀ reply, replying = some reply →
      SoundAnswer deviceId localRef system.acks.relay.store system.sent reply) :
    Inv deviceId localRef { system with uplink, replying } where
  driven := inv.driven
  wired := by
    have hwire : uplink ++ system.stale ⊆ system.uplink ++ system.stale := by
      rw [queued]
      intro other member
      exact mem_cons_of_mem _ member
    have hanswers := (inv.wired.subset hwire (List.Subset.refl _)).addAnswers
      (replying.toList ++ system.downlink) (by
        intro reply member
        rcases mem_append.mp member with hnew | hold
        · exact .inr (sound reply (mem_toList.mp hnew))
        · exact .inl (mem_append_right _ hold))
    exact hanswers
  stored := inv.stored
  logged := inv.logged

theorem Inv.nextOffset_le (inv : Inv deviceId localRef system)
    (howns : owns deviceId localRef system.acks.relay.store terminalId = true)
    {handle : TerminalHandle} (found : system.acks.relay.resident terminalId = some handle) :
    handle.inner.nextOffset ≤ system.sent.length := by
  rw [nextOffset_eq inv.stored.inv found]
  exact (inv.stored.accepted terminalId howns).length_le

theorem soundAnswer_opened {store : Store} {requestId : String}
    {nextOffset : Nat} (bound : nextOffset ≤ sent.length)
    (howns : owns deviceId localRef store terminalId = true) :
    SoundAnswer deviceId localRef store sent (.terminalOpened requestId terminalId nextOffset) where
  reported := by
    intro reported member
    rw [ServerMessage.said, mem_singleton, Said.reported.injEq] at member
    rw [member]
    exact bound
  opened := by
    intro other named offset heq
    cases heq
    exact howns

theorem soundAnswer_error {store : Store} {code message : String}
    {terminalId : Option Uuid} {requestId : Option String} {authoritative : Option Nat}
    (bound : ∀ nextOffset, authoritative = some nextOffset → nextOffset ≤ sent.length) :
    SoundAnswer deviceId localRef store sent
      (.error code message terminalId requestId authoritative) where
  reported := by
    intro reported member
    simp only [ServerMessage.said] at member
    split at member
    · obtain ⟨nextOffset, hnext, heq⟩ := List.mem_map.mp member
      cases heq
      exact bound reported (mem_toList.mp hnext)
    · cases member
  opened := by
    intro other named offset heq
    cases heq

section

variable (inv : Inv deviceId localRef system)
include inv

theorem Inv.answerError {sent : Outbound} (queued : system.uplink = sent :: uplink)
    (code message : String) (terminalId : Option Uuid) (requestId : Option String) :
    Inv deviceId localRef { system with
      uplink, replying := some (.error code message terminalId requestId none) } := by
  apply inv.answer queued
  intro reply heq
  cases heq
  exact soundAnswer_error fun nextOffset heq => by cases heq

/-- A frame reaches the relay: what it accepts stays a beginning of the stream, and what
it answers is not ahead of it. -/
theorem Inv.arrived (capacity : Nat) (frame : PartOf system.sent startOffset payload ∧
      owns deviceId localRef system.acks.relay.store terminalId = true) :
    Inv deviceId localRef (system.arrived terminalId startOffset payload capacity).1 ∧
      ∀ reply, (system.arrived terminalId startOffset payload capacity).2 = some reply →
        SoundAnswer deviceId localRef
          (system.arrived terminalId startOffset payload capacity).1.acks.relay.store
          system.sent reply := by
  unfold System.arrived
  split
  · refine ⟨inv, ?_⟩
    intro reply hreply
    cases hreply
    exact soundAnswer_error fun nextOffset heq => by cases heq
  · rename_i handle hfound
    have hstep : Relay.Acks.step system.acks
        (.relay (.handle terminalId (.append startOffset payload capacity))) =
        some { system.acks with
          relay := system.acks.relay.applyOp handle (.append startOffset payload capacity) } := by
      simp only [Relay.Acks.step, Relay.step, hfound, map_some,
        Relay.Acks.System.afterRelay, reduceCtorEq, if_false]
    constructor
    · refine ⟨inv.driven, ?_, ?_, inv.logged⟩
      · exact inv.wired.keep fun _ howns => howns
      · refine inv.stored.step ?_ hstep
        intro target offset bytes room heq _
        cases heq
        exact frame.1
    · intro reply hreply
      split at hreply
      · cases hreply
      · rename_i nextOffset durableOffset houtcome
        cases hreply
        apply soundAnswer_error
        intro reported heq
        cases heq
        have hnext : nextOffset = handle.inner.nextOffset := by
          unfold TerminalHandle.append at houtcome
          dsimp only at houtcome
          split at houtcome
          · cases houtcome
          · split at houtcome
            · cases houtcome
              rfl
            · split at houtcome <;> cases houtcome
        rw [hnext]
        exact inv.nextOffset_le frame.2 hfound
      · cases hreply
        exact soundAnswer_error fun nextOffset heq => by cases heq

theorem Inv.append (capacity : Nat)
    (queued : system.uplink = .output terminalId startOffset payload :: uplink) :
    Inv deviceId localRef
      { (({ system with uplink } : System).arrived terminalId startOffset payload capacity).1 with
        replying :=
          (({ system with uplink } : System).arrived terminalId startOffset payload capacity).2 } := by
  have hframe := inv.wired.frames (.output terminalId startOffset payload)
    (mem_append_left _ (queued ▸ mem_cons_self)) terminalId startOffset payload rfl
  have htaken : Inv deviceId localRef { system with uplink } := by
    refine ⟨inv.driven, ?_, inv.stored, inv.logged⟩
    apply inv.wired.subset
    · rw [queued]
      exact fun other member => mem_cons_of_mem _ member
    · exact List.Subset.refl _
  obtain ⟨harrived, hanswer⟩ := htaken.arrived capacity hframe
  have hsame : (({ system with uplink } : System).arrived terminalId startOffset payload
      capacity).1.downlink = system.downlink ∧
      (({ system with uplink } : System).arrived terminalId startOffset payload
      capacity).1.sent = system.sent := by
    unfold System.arrived
    split <;> exact ⟨rfl, rfl⟩
  refine ⟨harrived.driven, ?_, harrived.stored, harrived.logged⟩
  apply harrived.wired.addAnswers
  intro reply member
  rcases mem_append.mp member with hnew | hold
  · right
    rw [hsame.2]
    exact hanswer reply (mem_toList.mp hnew)
  · exact .inl (mem_append_right _ hold)

theorem Inv.reply {message : ServerMessage} (replying : system.replying = some message) :
    Inv deviceId localRef { system with
      replying := none
      downlink := system.downlink ++ [message]
      said := system.said ++ message.said } where
  driven := inv.driven
  wired := by
    apply inv.wired.subset (List.Subset.refl _)
    intro other member
    rw [replying]
    rw [toList_none, nil_append] at member
    rcases mem_append.mp member with hold | hlast
    · exact mem_append_right _ hold
    · exact mem_append_left _ hlast
  stored := inv.stored
  logged := by
    refine ⟨?_, inv.logged.released, inv.logged.lost⟩
    rw [flatMap_append, flatMap_singleton, ← append_assoc, ← append_assoc]
    apply Sublist.append ?_ (Sublist.refl _)
    rw [append_assoc]
    exact inv.logged.order

theorem Inv.arrive {index : Nat} (capacity : Nat)
    (found : system.stale[index]? = some (.output terminalId startOffset payload)) :
    Inv deviceId localRef (({ system with stale := system.stale.eraseIdx index } : System).arrived
      terminalId startOffset payload capacity).1 := by
  have hframe := inv.wired.frames _ (mem_append_right _ (mem_of_getElem? found))
    terminalId startOffset payload rfl
  have hless : Inv deviceId localRef { system with stale := system.stale.eraseIdx index } := by
    refine ⟨inv.driven, ?_, inv.stored, inv.logged⟩
    apply inv.wired.subset
    · intro other member
      rcases mem_append.mp member with huplink | hstale
      · exact mem_append_left _ huplink
      · exact mem_append_right _ (mem_of_mem_eraseIdx hstale)
    · exact List.Subset.refl _
  exact (hless.arrived capacity hframe).1

end

theorem keep_acks {acks : Relay.Acks.System} {action : Relay.Acks.Action}
    (taken : Relay.Acks.step acks action = some next) (terminalId : Uuid)
    (howns : owns deviceId localRef acks.relay.store terminalId = true) :
    owns deviceId localRef next.relay.store terminalId = true := by
  rcases Relay.Acks.relay_step taken with hsame | ⟨own, _, hstep⟩
  · rw [hsame]
    exact howns
  · exact owns_keep hstep howns

theorem Stored.acks {acks : Relay.Acks.System}
    (stored : Stored deviceId localRef acks sent) {action : Relay.Acks.Action}
    (allowed : permitted deviceId localRef acks.relay.store action = true)
    (taken : Relay.Acks.step acks action = some next) : Stored deviceId localRef next sent := by
  have hunmoved : next.relay = acks.relay → Stored deviceId localRef next sent := by
    intro hsame
    refine ⟨stored.inv.step taken, ?_⟩
    rw [hsame]
    exact stored.accepted
  rcases Relay.Acks.relay_step taken with hsame | ⟨own, rfl, hstep⟩
  · exact hunmoved hsame
  · apply stored.step ?_ taken
    intro terminalId startOffset payload capacity heq howns
    rw [heq] at allowed
    simp only [permitted, howns, Bool.not_true] at allowed
    cases allowed

theorem Inv.acks (inv : Inv deviceId localRef system)
    {action : Relay.Acks.Action} {acks : Relay.Acks.System} (current : Bool)
    (allowed : permitted deviceId localRef system.acks.relay.store action = true)
    (taken : Relay.Acks.step system.acks action = some acks) :
    Inv deviceId localRef (system.afterAcks deviceId localRef action current acks) := by
  have hstored := inv.stored.acks allowed taken
  have hwired := inv.wired.keep (keep_acks taken)
  have hmoved : Inv deviceId localRef { system with acks } :=
    ⟨inv.driven, hwired, hstored, inv.logged⟩
  cases action with
  | relay own =>
    cases own with
    | crash =>
      refine ⟨inv.driven, ?_, hstored, inv.logged⟩
      apply hwired.subset
      · exact nil_subset _
      · exact subset_append_right _ _
    | insertTerminal | load | handle | flushBegin | flushTake | flushCommit | flushFail
    | flushPublish => exact hmoved
  | spawnAckTask => exact ⟨hmoved.driven, hmoved.wired, hmoved.stored, hmoved.logged⟩
  | abort => exact hmoved
  | proceed task sent timedOut =>
    simp only [System.afterAcks]
    generalize ((acks.sent.drop system.acks.sent.length).filter fun ack =>
      owns deviceId localRef acks.relay.store ack.terminalId) = told
    have hsaid : (told.map fun ack =>
        ServerMessage.outputAck ack.terminalId ack.durableOffset).flatMap ServerMessage.said =
        told.map fun ack => Said.acknowledged ack.durableOffset := by
      rw [flatMap_map]
      exact flatMap_pure_eq_map _ _
    refine ⟨inv.driven, ?_, hstored, ?_⟩
    · apply hwired.addAnswers
      intro message member
      rcases mem_append.mp member with hreply | hdown
      · exact .inl (mem_append_left _ hreply)
      · dsimp only at hdown
        split at hdown
        · rcases mem_append.mp hdown with hold | hnew
          · exact .inl (mem_append_right _ hold)
          · obtain ⟨ack, _, rfl⟩ := List.mem_map.mp hnew
            right
            constructor
            · intro nextOffset hmem
              rw [ServerMessage.said, mem_singleton] at hmem
              cases hmem
            · intro requestId terminalId nextOffset heq
              cases heq
        · exact .inl (mem_append_right _ hdown)
    · refine ⟨?_, inv.logged.released, inv.logged.lost⟩
      split
      · rw [flatMap_append, hsaid, ← append_assoc, ← append_assoc]
        apply Sublist.append ?_ (Sublist.refl _)
        rw [append_assoc]
        exact inv.logged.order
      · exact inv.logged.order.trans (sublist_append_left _ _)

theorem Inv.initial (spec : TerminalSpec) : Inv deviceId localRef (System.initial spec) where
  driven := ⟨Outgoing.Carries.new, rfl, fun request member => by cases member⟩
  wired := by
    refine ⟨?_, ?_, ?_, ?_⟩
    · intro terminalId known
      cases known
    · intro message member
      cases member
    · intro message member
      cases member
    · intro event member
      cases member
  stored := by
    refine ⟨Relay.Acks.AckInv.initial, ?_⟩
    intro terminalId howns
    cases howns
  logged := by
    refine ⟨Sublist.refl _, .inl rfl, ?_⟩
    intro hlost
    cases hlost

theorem Inv.step {next : System} {action : Action} (inv : Inv deviceId localRef system)
    (taken : step deviceId localRef system action = some next) : Inv deviceId localRef next := by
  cases action with
  | publish message =>
    simp only [Offsets.step] at taken
    split at taken
    · cases taken
    · cases taken
      refine ⟨⟨inv.driven.carries, ?_, inv.driven.requests⟩, inv.wired, inv.stored, inv.logged⟩
      rw [← inv.driven.accounted]
      simp
  | dropOwner =>
    cases taken
    exact ⟨inv.driven, inv.wired, inv.stored, inv.logged⟩
  | top =>
    simp only [Offsets.step] at taken
    split at taken
    · cases taken
      exact inv.top
    · cases taken
  | takeEvent =>
    simp only [Offsets.step] at taken
    split at taken
    · rename_i hreceived
      cases taken
      exact inv.takeEvent hreceived
    · split at taken
      · cases taken
      · cases taken
        exact inv.eventsEnd
    · cases taken
  | takeOwner =>
    simp only [Offsets.step] at taken
    split at taken
    · rename_i htakes
      split at taken
      · rename_i hqueued
        cases taken
        exact inv.takeOwner htakes.2 hqueued
      · split at taken
        · cases taken
          exact inv.ownerEnds
        · cases taken
    · cases taken
  | forward =>
    simp only [Offsets.step] at taken
    split at taken
    · rename_i hqueued
      cases taken
      exact inv.forward hqueued
    · cases taken
  | closeFinished =>
    simp only [Offsets.step] at taken
    split at taken
    · cases taken
      exact inv.closeFinished
    · cases taken
  | connect limits =>
    simp only [Offsets.step] at taken
    split at taken
    · cases taken
      exact inv.connect limits
    · cases taken
  | disconnect =>
    simp only [Offsets.step] at taken
    split at taken
    · cases taken
      exact inv.disconnect
    · cases taken
  | receive =>
    simp only [Offsets.step] at taken
    split at taken
    · rename_i hqueued
      cases taken
      exact inv.receive _ hqueued
    · cases taken
  | serve terminalId =>
    simp only [Offsets.step] at taken
    split at taken
    · rename_i hqueued
      split at taken
      · rename_i howns
        obtain ⟨handle, hfound, rfl⟩ := map_eq_some_iff.mp taken
        apply inv.answer hqueued
        intro reply heq
        cases heq
        exact soundAnswer_opened (inv.nextOffset_le howns hfound) howns
      · cases taken
    · cases taken
  | append capacity =>
    simp only [Offsets.step] at taken
    split at taken
    · rename_i hqueued
      cases taken
      exact inv.append capacity hqueued
    · cases taken
  | refuse code message =>
    simp only [Offsets.step] at taken
    split at taken
    · cases taken
    · split at taken
      · rename_i hqueued
        cases taken
        exact inv.answerError hqueued code message _ _
      · rename_i hqueued
        cases taken
        exact inv.answerError hqueued code message _ _
      · rename_i hfree hqueued
        cases taken
        have hanswer := inv.answer hqueued none fun reply heq => by cases heq
        rw [← hfree] at hanswer
        exact hanswer
      · cases taken
  | reply =>
    simp only [Offsets.step] at taken
    split at taken
    · rename_i hreplying
      cases taken
      exact inv.reply hreplying
    · cases taken
  | arrive index capacity =>
    simp only [Offsets.step] at taken
    split at taken
    · rename_i hfound
      cases taken
      exact inv.arrive capacity hfound
    · cases taken
  | acks action current =>
    simp only [Offsets.step] at taken
    split at taken
    · rename_i hallowed
      obtain ⟨acks, hstep, rfl⟩ := map_eq_some_iff.mp taken
      exact inv.acks current hallowed hstep
    · cases taken

/-- In every state of every run: what the relay has accepted for a terminal of the
`local_ref` is a beginning of what the owner gave, the driver's next offset is the end of
what it retains, and it has not given the stream up unless the relay reported an offset
below one it had acknowledged. -/
theorem relay_accepts_a_prefix {spec : TerminalSpec} {actions : List Action} {system : System}
    (taken : run (step deviceId localRef) (System.initial spec) actions = some system) :
    (∀ terminalId, owns deviceId localRef system.acks.relay.store terminalId = true →
      system.acks.relay.accepted terminalId <+: system.published) ∧
    system.drive.stream.nextOffset = system.drive.stream.retained.endOffset ∧
    (system.said.Pairwise Said.inOrder → .unrecoverable ∉ system.resyncs) := by
  have hinv : Inv deviceId localRef system :=
    run_invariant (fun _ _ _ inv hstep => inv.step hstep) (Inv.initial spec) taken
  refine ⟨?_, ?_, ?_⟩
  · intro terminalId howns
    have hsent : system.sent <+: system.published := by
      rw [← hinv.driven.accounted]
      exact prefix_append _ _
    exact (hinv.stored.accepted terminalId howns).trans hsent
  · rw [hinv.driven.carries.nextOffset_eq, hinv.driven.carries.keeps.endOffset_eq]
  · intro hordered hlost
    apply hinv.logged.lost hlost
    exact hordered.sublist ((sublist_append_left _ _).trans hinv.logged.order)

/-- A chunk is accepted, committed and acknowledged; a second one is lost in a crash and
sent again from what the relay had committed. -/
def resumedRun : List Action :=
  [Action.publish (.output [1, 2, 3, 4, 5]),
    .acks (.relay (.insertTerminal 7 1 "owner" "shell" "shell" none none none true)) true,
    .acks (.relay (.load 7 16)) true, .connect ⟨1024, 65536⟩, .serve 7, .reply, .receive, .top,
    .takeEvent, .top, .takeOwner, .top, .forward, .append 16] ++
  [Action.acks (.relay (.flushBegin [7])) true, .acks (.relay .flushTake) true,
    .acks (.relay .flushTake) true, .acks (.relay .flushCommit) true,
    .acks (.relay .flushPublish) true, .acks (.relay .flushPublish) true,
    .acks (.spawnAckTask 0 7) true, .acks (.proceed 0 true false) true,
    .acks (.proceed 0 true false) true, .receive, .takeEvent, .top] ++
  [Action.publish (.output [6, 7]), .takeOwner, .top, .forward, .append 16,
    .acks (.relay .crash) true, .disconnect, .acks (.relay (.load 7 16)) true,
    .connect ⟨1024, 65536⟩, .serve 7, .reply, .receive, .takeEvent, .top, .takeEvent, .top, .forward,
    .append 16]

theorem relay_accepts_a_prefix_in_resumedRun :
    ∃ system, run (step 1 "shell") (System.initial (Publisher.spec "shell")) resumedRun =
        some system ∧
      system.acks.relay.accepted 7 = [1, 2, 3, 4, 5, 6, 7] ∧
      system.said = [.reported 0, .acknowledged 5, .reported 5] ∧
      (∀ terminalId, owns 1 "shell" system.acks.relay.store terminalId = true →
        system.acks.relay.accepted terminalId <+: system.published) ∧
      .unrecoverable ∉ system.resyncs := by
  obtain ⟨system, htaken, haccepted, hsaid⟩ : ∃ system,
      run (step 1 "shell") (System.initial (Publisher.spec "shell")) resumedRun = some system ∧
        system.acks.relay.accepted 7 = [1, 2, 3, 4, 5, 6, 7] ∧
        system.said = [.reported 0, .acknowledged 5, .reported 5] :=
    ⟨_, rfl, by decide, by decide⟩
  obtain ⟨hbeginning, _, hkept⟩ := relay_accepts_a_prefix htaken
  refine ⟨system, htaken, haccepted, hsaid, hbeginning, hkept ?_⟩
  rw [hsaid]
  simp [Said.inOrder]

end Offsets

end Hypeterm.Publisher
