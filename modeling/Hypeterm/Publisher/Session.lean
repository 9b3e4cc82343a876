import Hypeterm.Relay.Frames
import Hypeterm.Library.Channel
import Hypeterm.Library.Table

/-! The publisher's relay connection: one connection, many terminals.  The multiplexer
owns the socket and the table of hosted terminals and no byte of their streams.  One
step here is one pass of a loop, from one `select` to the next. -/
namespace Hypeterm.Publisher

open Library

structure TerminalSpec where
  localRef : String
  label : String
  cols : Nat
  rows : Nat
  term : String
  inReplyTo : Option String
  deriving DecidableEq

/-- The relay's limits for this connection, as advertised in `ready`. -/
structure Limits where
  maxOutputFrameBytes : Nat
  maxUnackedOutputBytes : Nat
  deriving DecidableEq

inductive Event where
  | attached (terminalId : Uuid) (nextOffset : Nat) (limits : Limits)
  | ack (durableOffset : Nat)
  | input (bytes : Bytes)
  | resizeRequest (cols rows : Nat)
  | mismatch (nextOffset : Nat)
  | detached
  | ended (reason : String)
  deriving DecidableEq

/-- What the local side asks of the relay connection. -/
inductive Control where
  | open (spec : TerminalSpec) (events : Channel Event)
  | output (localRef : String) (startOffset : Nat) (bytes : Bytes)
  | resize (localRef : String) (cols rows : Nat)
  | close (localRef reason : String)
  | decline (requestId reason : String)

/-- A subscriber asking this machine to open a terminal. -/
structure OpenRequest where
  requestId : String
  label : Option String
  cols : Option Nat
  rows : Option Nat

/-- The relay's messages, as far as the multiplexer reads them. -/
inductive ServerMessage where
  | ready
  | terminalOpened (requestId : String) (terminalId : Uuid) (nextOffset : Nat)
  | outputAck (terminalId : Uuid) (durableOffset : Nat)
  | terminalOpenRequest (requestId : String) (label : Option String) (cols rows : Option Nat)
  | terminalResizeRequest (terminalId : Uuid) (cols rows : Nat)
  | terminalClosed (terminalId : Uuid) (reason : String)
  | notice (code message : String)
  | error (code message : String) (terminalId : Option Uuid) (requestId : Option String)
      (nextOffset : Option Nat)
  | ping (atUnixMs : Int)
  | unrecognised
  deriving DecidableEq

structure InputFrame where
  terminalId : Uuid
  relaySequence : Nat
  payload : Bytes

def publisherInputHeaderLen : Nat := 1 + 16 + 8

def decodeInputFrame (bytes : Bytes) : Except Relay.FrameError InputFrame :=
  if bytes.length < publisherInputHeaderLen then .error .tooShort
  else if bytes.headD 0 ≠ Relay.frameTypeInput then .error (.unknownType (bytes.headD 0))
  else .ok ⟨BitVec.ofNat 128 (fromBeBytes ((bytes.drop 1).take 16)),
    fromBeBytes ((bytes.drop 17).take 8), bytes.drop publisherInputHeaderLen⟩

/-- What the socket yields.  `text none` is a text that does not parse. -/
inductive Frame where
  | text (message : Option ServerMessage)
  | binary (bytes : Bytes)
  | ping (payload : Bytes)
  | pong
  | close
  deriving DecidableEq

inductive Outbound where
  | terminalOpen (requestId localRef label : String) (cols rows : Nat) (term : String)
      (acceptsInput : Bool) (inReplyTo : Option String)
  | capabilities (terminalOpenRequests : Bool)
  | output (terminalId : Uuid) (startOffset : Nat) (payload : Bytes)
  | terminalResize (terminalId : Uuid) (cols rows : Nat)
  | terminalClose (terminalId : Uuid) (reason : String)
  | openDeclined (inReplyTo reason : String)
  | pong (atUnixMs : Int)
  | pongFrame (payload : Bytes)
  deriving DecidableEq

inductive SessionError where
  | connect (message : String)
  | refused (message : String)
  | closed (message : String)
  | api (message : String)

/-- How a message leaves the connection: it goes on, it is over for good, or it failed
and is tried again. -/
inductive Outcome where
  | continues
  | over (reason : String)
  | failed (error : SessionError)

structure Hosted where
  spec : TerminalSpec
  terminalId : Option Uuid
  events : Channel Event
  closing : Option String
  deriving DecidableEq

def Hosted.localRef (hosted : Hosted) : String := hosted.spec.localRef

namespace Hosted

/-- A send that never waits.  A queue that is full marks the terminal as closing. -/
def deliver (hosted : Hosted) (event : Event) : Hosted :=
  match hosted.events.trySend event with
  | .ok events => { hosted with events }
  | .closed => hosted
  | .full => { hosted with closing := hosted.closing.or (some "publisher_unresponsive") }

def offer (hosted : Hosted) (event : Event) : Hosted :=
  match hosted.events.trySend event with
  | .ok events => { hosted with events }
  | _ => hosted

def setClosing (hosted : Hosted) (reason : String) : Hosted :=
  { hosted with closing := hosted.closing.or (some reason) }

def resize (hosted : Hosted) (cols rows : Nat) : Hosted :=
  { hosted with spec := { hosted.spec with cols, rows } }

/-- Its local side has finished and the relay has named it. -/
def finished (hosted : Hosted) : Bool := hosted.closing.isSome && hosted.terminalId.isSome

section
variable (hosted : Hosted) (event : Event)

@[simp] theorem spec_deliver : (hosted.deliver event).spec = hosted.spec := by
  unfold deliver
  split <;> rfl

@[simp] theorem terminalId_deliver : (hosted.deliver event).terminalId = hosted.terminalId := by
  unfold deliver
  split <;> rfl

@[simp] theorem spec_offer : (hosted.offer event).spec = hosted.spec := by
  unfold offer
  split <;> rfl

@[simp] theorem terminalId_offer : (hosted.offer event).terminalId = hosted.terminalId := by
  unfold offer
  split <;> rfl

@[simp] theorem closing_offer : (hosted.offer event).closing = hosted.closing := by
  unfold offer
  split <;> rfl

@[simp] theorem localRef_deliver : (hosted.deliver event).localRef = hosted.localRef := by
  simp [localRef]

@[simp] theorem localRef_offer : (hosted.offer event).localRef = hosted.localRef := by
  simp [localRef]

end

end Hosted

/-- The multiplexer.  The terminals are a hash map whose key is the entry's own
`local_ref`.  `departed` holds the entries that were taken out of it, since an owner
goes on reading what was queued to it. -/
structure Multiplexer where
  terminals : List Hosted
  opened : List Uuid
  openRequests : Option (Channel OpenRequest)
  departed : List Hosted

/-- Chunks of at most `size` bytes; the source never asks for an empty one. -/
def chunks (size : Nat) : Nat → Bytes → List Bytes
  | 0, _ => []
  | fuel + 1, bytes =>
      if bytes.isEmpty then [] else bytes.take size :: chunks size fuel (bytes.drop size)

def framed (size startOffset : Nat) (bytes : Bytes) : List (Nat × Bytes) :=
  go startOffset (chunks size bytes.length bytes)
where
  go : Nat → List Bytes → List (Nat × Bytes)
    | _, [] => []
    | offset, piece :: rest => (offset, piece) :: go (offset + piece.length) rest

namespace Multiplexer

def new (openRequests : Option (Channel OpenRequest)) : Multiplexer := ⟨[], [], openRequests, []⟩

def get (mux : Multiplexer) (localRef : String) : Option Hosted :=
  lookup Hosted.localRef localRef mux.terminals

def modify (mux : Multiplexer) (localRef : String) (f : Hosted → Hosted) : Multiplexer :=
  { mux with terminals := update Hosted.localRef localRef f mux.terminals }

/-- Take an entry out of the map after one last event. -/
def depart (mux : Multiplexer) (localRef : String) (last : Event) : Multiplexer :=
  match mux.get localRef with
  | some hosted =>
      { mux with
        terminals := eraseRow Hosted.localRef localRef mux.terminals
        departed := mux.departed ++ [hosted.offer last] }
  | none => mux

def endAll (mux : Multiplexer) (reason : String) : Multiplexer :=
  { mux with
    terminals := []
    departed := mux.departed ++ mux.terminals.map fun hosted => hosted.offer (.ended reason) }

def localRefOf (mux : Multiplexer) (terminalId : Uuid) : Option String :=
  (mux.terminals.find? fun hosted => hosted.terminalId = some terminalId).map Hosted.localRef

def deliver (mux : Multiplexer) (localRef : String) (event : Event) : Multiplexer :=
  mux.modify localRef fun hosted => hosted.deliver event

def deliverTo (mux : Multiplexer) (terminalId : Uuid) (event : Event) : Multiplexer :=
  match mux.localRefOf terminalId with
  | some localRef => mux.deliver localRef event
  | none => mux

def idle (mux : Multiplexer) : Bool := mux.terminals.isEmpty

/-- The first statements after a failed connection. -/
def detach (mux : Multiplexer) : Multiplexer :=
  { mux with
    terminals := mux.terminals.map fun hosted =>
      ({ hosted with terminalId := none } : Hosted).offer .detached
    opened := [] }

/-- Forget the terminals that ended during the wait. -/
def prune (mux : Multiplexer) : Multiplexer :=
  { mux with
    terminals := mux.terminals.filter fun hosted => hosted.closing.isNone
    departed := mux.departed ++ mux.terminals.filter fun hosted => hosted.closing.isSome }

/-- An entry of the same `local_ref` is replaced, and its owner left with what it has. -/
def insert (mux : Multiplexer) (spec : TerminalSpec) (events : Channel Event) : Multiplexer :=
  { mux with
    terminals := insertRow Hosted.localRef ⟨spec, none, events, none⟩ mux.terminals
    departed := mux.departed ++ (mux.get spec.localRef).toList }

/-- Apply a control message that arrived while there was no connection. -/
def stash (mux : Multiplexer) : Control → Multiplexer
  | .open spec events => mux.insert spec events
  | .resize localRef cols rows => mux.modify localRef fun hosted => hosted.resize cols rows
  | .close localRef reason =>
      mux.modify localRef fun hosted =>
        (hosted.setClosing reason).offer (.ended "the terminal ended")
  | .decline _ _ => mux
  | .output _ _ _ => mux

/-- `terminal.open` for an entry.  The `local_ref` doubles as the request id. -/
def sendOpen (mux : Multiplexer) (localRef : String) : List Outbound :=
  match mux.get localRef with
  | none => []
  | some hosted =>
      let inReplyTo :=
        match hosted.spec.inReplyTo, hosted.terminalId with
        | some requestId, none => some requestId
        | _, _ => none
      [.terminalOpen hosted.spec.localRef hosted.spec.localRef hosted.spec.label hosted.spec.cols
        hosted.spec.rows hosted.spec.term true inReplyTo]

/-- Close what an earlier run left behind: what was listed as open before this
connection opened anything, and was not opened on it. -/
def sweepOrphans (mux : Multiplexer) (previouslyOpen : List Uuid) : List Outbound :=
  (previouslyOpen.filter fun orphan => !mux.opened.contains orphan).map fun orphan =>
    .terminalClose orphan "publisher_replaced"

/-- Tell the relay about terminals whose local side has finished, and forget them.
The hash map's order decides only the order of the messages. -/
def closeFinished (mux : Multiplexer) : Multiplexer × List Outbound :=
  ({ mux with
     terminals := mux.terminals.filter fun hosted => !hosted.finished
     departed := mux.departed ++
       (mux.terminals.filter Hosted.finished).map fun hosted =>
         hosted.offer (.ended "the terminal ended") },
   (mux.terminals.filter Hosted.finished).flatMap fun hosted =>
     hosted.terminalId.toList.map fun terminalId =>
       .terminalClose terminalId (hosted.closing.getD "closed"))

/-- The frames of one request to send output; none while the terminal is not attached. -/
def forward (hosted : Option Hosted) (limits : Limits) (startOffset : Nat) (bytes : Bytes) :
    List Outbound :=
  match hosted.bind Hosted.terminalId with
  | none => []
  | some terminalId =>
      (framed limits.maxOutputFrameBytes startOffset bytes).map fun frame =>
        .output terminalId frame.1 frame.2

def onControl (mux : Multiplexer) (limits : Limits) (maxTerminals : Nat) :
    Control → Multiplexer × List Outbound
  | .open spec events =>
      let refuse (reason : String) : Multiplexer × List Outbound :=
        ({ mux with
           departed := mux.departed ++
             [(⟨spec, none, events, none⟩ : Hosted).offer (.ended reason)] }, [])
      if maxTerminals ≤ mux.terminals.length then
        refuse s!"this machine already has the relay's limit of {maxTerminals} terminals open"
      else if (mux.get spec.localRef).isSome then
        refuse "that terminal reference is already in use"
      else
        let inserted := mux.insert spec events
        (inserted, inserted.sendOpen spec.localRef)
  | .output localRef startOffset bytes => (mux, forward (mux.get localRef) limits startOffset bytes)
  | .resize localRef cols rows =>
      (mux.modify localRef fun hosted => hosted.resize cols rows,
        ((mux.get localRef).bind Hosted.terminalId).toList.map fun terminalId =>
          .terminalResize terminalId cols rows)
  | .close localRef reason =>
      ((mux.modify localRef fun hosted => hosted.setClosing reason).deliver localRef
        (.ended "the terminal ended"), [])
  | .decline requestId reason => (mux, [.openDeclined requestId reason])

def onOpened (mux : Multiplexer) (limits : Limits) (requestId : String) (terminalId : Uuid)
    (nextOffset : Nat) : Multiplexer :=
  match mux.get requestId with
  | some _ =>
      ({ mux.modify requestId (fun hosted => { hosted with terminalId := some terminalId }) with
         opened := mux.opened ++ [terminalId] } : Multiplexer).deliver requestId
        (.attached terminalId nextOffset limits)
  | none => mux

/-- `u16` from the wire's `u32`. -/
def clampSize (size : Nat) : Nat := min (max size 1) 65535

/-- A request to open a terminal goes to whoever hosts them, or is declined. -/
def onOpenRequest (mux : Multiplexer) (allowRemoteOpen : Bool) (request : OpenRequest) :
    Multiplexer × List Outbound :=
  let declined (reason : String) : List Outbound := [.openDeclined request.requestId reason]
  if !allowRemoteOpen then (mux, declined "not_permitted")
  else
    match mux.openRequests with
    | none => (mux, declined "unsupported")
    | some openRequests =>
        match openRequests.trySend request with
        | .ok openRequests => ({ mux with openRequests := some openRequests }, [])
        | _ => (mux, declined "busy")

def errorTarget (mux : Multiplexer) (terminalId : Option Uuid) (requestId : Option String) :
    Option String :=
  (terminalId.bind mux.localRefOf).or
    (requestId.filter fun localRef => (mux.get localRef).isSome)

/-- The last component is false when the error is about the connection. -/
def onTerminalError (mux : Multiplexer) (code message : String) (terminalId : Option Uuid)
    (requestId : Option String) (authoritative : Option Nat) :
    Multiplexer × List Outbound × Bool :=
  match mux.errorTarget terminalId requestId with
  | none => (mux, [], terminalId.isSome || requestId.isSome)
  | some localRef =>
      match (if code = "offset_mismatch" then authoritative else none) with
      | some nextOffset =>
          (mux.modify localRef fun hosted => hosted.offer (.mismatch nextOffset), [], true)
      | none =>
          (mux.depart localRef (.ended (code ++ ": " ++ message)),
            ((mux.get localRef).bind Hosted.terminalId).toList.map fun terminalId =>
              .terminalClose terminalId "publisher_error", true)

def supersededReason : String :=
  "another publisher on this machine took over; only one may publish at a time"

def onMessage (mux : Multiplexer) (limits : Limits) (allowRemoteOpen : Bool) :
    ServerMessage → Multiplexer × List Outbound × Outcome
  | .terminalOpened requestId terminalId nextOffset =>
      (mux.onOpened limits requestId terminalId nextOffset, [], .continues)
  | .outputAck terminalId durableOffset =>
      (mux.deliverTo terminalId (.ack durableOffset), [], .continues)
  | .terminalOpenRequest requestId label cols rows =>
      let handled := mux.onOpenRequest allowRemoteOpen
        ⟨requestId, label, cols.map clampSize, rows.map clampSize⟩
      (handled.1, handled.2, .continues)
  | .terminalResizeRequest terminalId cols rows =>
      (mux.deliverTo terminalId (.resizeRequest (clampSize cols) (clampSize rows)), [], .continues)
  | .terminalClosed terminalId reason =>
      match mux.localRefOf terminalId with
      | some localRef =>
          (mux.depart localRef (.ended ("the relay closed the terminal: " ++ reason)), [],
            .continues)
      | none => (mux, [], .continues)
  | .error code message terminalId requestId nextOffset =>
      if code = "superseded" then (mux, [], .over supersededReason)
      else
        let handled := mux.onTerminalError code message terminalId requestId nextOffset
        (handled.1, handled.2.1,
          if handled.2.2 then .continues else .failed (.refused (code ++ ": " ++ message)))
  | .ping atUnixMs => (mux, [.pong atUnixMs], .continues)
  | .ready | .notice _ _ | .unrecognised => (mux, [], .continues)

def onFrame (mux : Multiplexer) (limits : Limits) (allowRemoteOpen : Bool) :
    Frame → Multiplexer × List Outbound × Outcome
  | .text (some message) => mux.onMessage limits allowRemoteOpen message
  | .text none => (mux, [], .continues)
  | .binary bytes =>
      match decodeInputFrame bytes with
      | .ok input => (mux.deliverTo input.terminalId (.input input.payload), [], .continues)
      | .error _ => (mux, [], .continues)
  | .ping payload => (mux, [.pongFrame payload], .continues)
  | .pong => (mux, [], .continues)
  | .close => (mux, [], .failed (.closed "the relay closed the socket"))

end Multiplexer

/-- What `run_connection` keeps while a connection is up.  `sweepAt` is set until the
settle period has passed. -/
structure Connection where
  limits : Limits
  maxTerminals : Nat
  previouslyOpen : List Uuid
  accepting : Bool
  sweepAt : Bool

/-- Where `maintain` stands.  A wait ends with the next attempt; `closed` says that
every handle on the link is gone. -/
inductive Stage where
  | connecting
  | connected (connection : Connection)
  | waiting (closed : Bool)
  | over (reason : String)

structure Session where
  mux : Multiplexer
  stage : Stage
  allowRemoteOpen : Bool

/-- `ready` carries the relay's limits as it advertises them and the terminals listed as
open before it. -/
inductive SessionAction where
  | ready (limits : Limits) (maxActiveTerminals : Nat) (previouslyOpen : List Uuid)
  | refused
  | control (message : Control)
  | controlEnded
  | frame (frame : Frame)
  | hangUp
  | settle
  | retry

namespace Session

def lastEnded : String := "the last terminal ended"

def initial (openRequests : Option (Channel OpenRequest)) (allowRemoteOpen : Bool) : Session :=
  ⟨.new openRequests, .connecting, allowRemoteOpen⟩

/-- `maintain` returns, and whatever is still hosted hears of it. -/
def finish (session : Session) (mux : Multiplexer) (reason : String) : Session :=
  { session with mux := mux.endAll reason, stage := .over reason }

def top (session : Session) (connection : Connection) (mux : Multiplexer)
    (written : List Outbound) : Session × List Outbound :=
  let closed := mux.closeFinished
  if closed.1.idle && !connection.accepting then
    (session.finish closed.1 lastEnded, written ++ closed.2)
  else
    ({ session with mux := closed.1, stage := .connected connection }, written ++ closed.2)

def fail (session : Session) (mux : Multiplexer) : Session :=
  { session with mux := mux.detach, stage := .waiting false }

/-- The limits are never taken below what the schema of the relay allows. -/
def connect (session : Session) (limits : Limits) (maxActiveTerminals : Nat)
    (previouslyOpen : List Uuid) : Session × List Outbound :=
  let connection : Connection :=
    { limits :=
        ⟨max limits.maxOutputFrameBytes 1024, max limits.maxUnackedOutputBytes (64 * 1024)⟩
      maxTerminals := if maxActiveTerminals = 0 then 2 ^ 64 - 1 else maxActiveTerminals
      previouslyOpen
      accepting := true
      sweepAt := !previouslyOpen.isEmpty }
  session.top connection session.mux
    ((if session.allowRemoteOpen then [.capabilities true] else []) ++
      session.mux.terminals.flatMap fun hosted => session.mux.sendOpen hosted.localRef)

def onFrame (session : Session) (connection : Connection) (frame : Frame) :
    Session × List Outbound :=
  let handled := session.mux.onFrame connection.limits session.allowRemoteOpen frame
  match handled.2.2 with
  | .continues => session.top connection handled.1 handled.2.1
  | .over reason => (session.finish handled.1 reason, handled.2.1)
  | .failed _ => (session.fail handled.1, handled.2.1)

def step (session : Session) : SessionAction → Option (Session × List Outbound)
  | .ready limits maxActiveTerminals previouslyOpen =>
      match session.stage with
      | .connecting => some (session.connect limits maxActiveTerminals previouslyOpen)
      | _ => none
  | .refused =>
      match session.stage with
      | .connecting => some (session.fail session.mux, [])
      | _ => none
  | .control message =>
      match session.stage with
      | .connected connection =>
          if connection.accepting then
            let handled := session.mux.onControl connection.limits connection.maxTerminals message
            some (session.top connection handled.1 handled.2)
          else none
      | .waiting false => some ({ session with mux := session.mux.stash message }, [])
      | _ => none
  | .controlEnded =>
      match session.stage with
      | .connected connection =>
          some (session.top { connection with accepting := false } session.mux [])
      | .waiting false => some ({ session with stage := .waiting true }, [])
      | _ => none
  | .frame frame =>
      match session.stage with
      | .connected connection => some (session.onFrame connection frame)
      | _ => none
  | .hangUp =>
      match session.stage with
      | .connected _ => some (session.fail session.mux, [])
      | _ => none
  | .settle =>
      match session.stage with
      | .connected connection =>
          if connection.sweepAt then
            some (session.top { connection with sweepAt := false } session.mux
              (session.mux.sweepOrphans connection.previouslyOpen))
          else none
      | _ => none
  | .retry =>
      match session.stage with
      | .waiting closed =>
          let pruned := session.mux.prune
          if closed && pruned.idle then some (session.finish pruned lastEnded, [])
          else some ({ session with mux := pruned, stage := .connecting }, [])
      | _ => none

/-- What a step of the session can be, when, and what it leaves and writes. -/
inductive Stepped (session : Session) : SessionAction → Session × List Outbound → Prop where
  | connects (limits : Limits) (maxActiveTerminals : Nat) (previouslyOpen : List Uuid)
      (result : Session × List Outbound) (stage_eq : session.stage = .connecting)
      (result_eq : result = session.connect limits maxActiveTerminals previouslyOpen) :
      Stepped session (.ready limits maxActiveTerminals previouslyOpen) result
  | refuses (result : Session × List Outbound) (stage_eq : session.stage = .connecting)
      (result_eq : result = (session.fail session.mux, [])) : Stepped session .refused result
  | controls (message : Control) (connection : Connection) (result : Session × List Outbound)
      (stage_eq : session.stage = .connected connection)
      (result_eq : result = session.top connection
        (session.mux.onControl connection.limits connection.maxTerminals message).1
        (session.mux.onControl connection.limits connection.maxTerminals message).2) :
      Stepped session (.control message) result
  | stashes (message : Control) (result : Session × List Outbound)
      (stage_eq : session.stage = .waiting false)
      (result_eq : result = ({ session with mux := session.mux.stash message }, [])) :
      Stepped session (.control message) result
  | lastHandle (connection : Connection) (result : Session × List Outbound)
      (stage_eq : session.stage = .connected connection)
      (result_eq : result = session.top { connection with accepting := false } session.mux []) :
      Stepped session .controlEnded result
  | closes (result : Session × List Outbound) (stage_eq : session.stage = .waiting false)
      (result_eq : result = ({ session with stage := .waiting true }, [])) :
      Stepped session .controlEnded result
  | receives (frame : Frame) (connection : Connection) (result : Session × List Outbound)
      (stage_eq : session.stage = .connected connection)
      (result_eq : result = session.onFrame connection frame) :
      Stepped session (.frame frame) result
  | hangsUp (connection : Connection) (result : Session × List Outbound)
      (stage_eq : session.stage = .connected connection)
      (result_eq : result = (session.fail session.mux, [])) : Stepped session .hangUp result
  | settles (connection : Connection) (result : Session × List Outbound)
      (stage_eq : session.stage = .connected connection) (armed : connection.sweepAt = true)
      (result_eq : result = session.top { connection with sweepAt := false } session.mux
        (session.mux.sweepOrphans connection.previouslyOpen)) :
      Stepped session .settle result
  | retries (closed : Bool) (result : Session × List Outbound)
      (stage_eq : session.stage = .waiting closed)
      (result_eq : result = ({ session with mux := session.mux.prune, stage := .connecting }, [])) :
      Stepped session .retry result
  | returns (closed : Bool) (result : Session × List Outbound)
      (stage_eq : session.stage = .waiting closed)
      (result_eq : result = (session.finish session.mux.prune lastEnded, [])) :
      Stepped session .retry result

theorem step_stepped {session : Session} {action : SessionAction}
    {result : Session × List Outbound} (taken : session.step action = some result) :
    Stepped session action result := by
  cases action with
  | ready limits maxActiveTerminals previouslyOpen =>
    simp only [step] at taken
    split at taken
    · rename_i hstage
      exact .connects _ _ _ result hstage (Option.some.inj taken).symm
    · cases taken
  | refused =>
    simp only [step] at taken
    split at taken
    · rename_i hstage
      exact .refuses result hstage (Option.some.inj taken).symm
    · cases taken
  | control message =>
    simp only [step] at taken
    split at taken
    · rename_i connection hstage
      split at taken
      · exact .controls message connection result hstage (Option.some.inj taken).symm
      · cases taken
    · rename_i hstage
      exact .stashes message result hstage (Option.some.inj taken).symm
    · cases taken
  | controlEnded =>
    simp only [step] at taken
    split at taken
    · rename_i connection hstage
      exact .lastHandle connection result hstage (Option.some.inj taken).symm
    · rename_i hstage
      exact .closes result hstage (Option.some.inj taken).symm
    · cases taken
  | frame frame =>
    simp only [step] at taken
    split at taken
    · rename_i connection hstage
      exact .receives frame connection result hstage (Option.some.inj taken).symm
    · cases taken
  | hangUp =>
    simp only [step] at taken
    split at taken
    · rename_i connection hstage
      exact .hangsUp connection result hstage (Option.some.inj taken).symm
    · cases taken
  | settle =>
    simp only [step] at taken
    split at taken
    · rename_i connection hstage
      split at taken
      · rename_i harmed
        exact .settles connection result hstage harmed (Option.some.inj taken).symm
      · cases taken
    · cases taken
  | retry =>
    simp only [step] at taken
    split at taken
    · rename_i closed hstage
      split at taken
      · exact .returns closed result hstage (Option.some.inj taken).symm
      · exact .retries closed result hstage (Option.some.inj taken).symm
    · cases taken

end Session

end Hypeterm.Publisher
