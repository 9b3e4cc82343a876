import Hypeterm.Types

/-! The phone's end of a mirror connection, and what the relay sends on it.  The relay
serves one byte stream per terminal: it confirms the subscription, then tells of a gap if
there is one, then sends output. -/
namespace Hypeterm.Android

structure SubscribedInfo where
  requestedFromOffset : Nat
  replayStartOffset : Nat
  nextOffset : Nat
  durableOffset : Nat
  earliestOffset : Nat
  columns : Nat
  rows : Nat
  inputAvailable : Bool

inductive ServerMessage where
  | ready
  | subscribed (info : SubscribedInfo)
  | gap (requestedFrom availableFrom : Nat)
  | durable (offset : Nat)
  | resize (columns rows : Nat)
  | closed
  | inputAck
  | error (code : String)
  | notice
  | output (startOffset : Nat) (payload : Bytes)

inductive MirrorEvent where
  | ready
  | subscribed (info : SubscribedInfo)
  | output (startOffset : Nat) (payload : Bytes)
  | gap (availableFrom : Nat)
  | durable (offset : Nat)
  | resize (columns rows : Nat)
  | terminalClosed
  | inputAck
  | notice
  | error (code : String)

structure MirrorSession where
  protocolV2 : Bool
  subscribed : Bool
  inputAvailable : Bool
  nextExpectedOffset : Nat
  durableOffset : Nat
  info : SubscribedInfo

def SubscribedInfo.empty : SubscribedInfo := ⟨0, 0, 0, 0, 0, 0, 0, false⟩

/-- Refusals of input leave the subscription usable. -/
def refusesInput (code : String) : Bool := "input_".isPrefixOf code || code = "rate_limited"

namespace MirrorSession

def connect (protocolV2 : Bool) : MirrorSession :=
  ⟨protocolV2, false, false, 0, 0, SubscribedInfo.empty⟩

/-- Bytes below the next expected offset are not applied again, and bytes beyond it are not
applied at all. -/
def handleBinaryFrame (session : MirrorSession) (startOffset : Nat) (payload : Bytes) :
    MirrorSession × Option MirrorEvent × Bool :=
  if payload = [] then (session, none, false)
  else if 2 ^ 64 ≤ startOffset + payload.length then (session, none, false)
  else if session.nextExpectedOffset < startOffset then (session, none, false)
  else if startOffset + payload.length ≤ session.nextExpectedOffset then (session, none, true)
  else
    ({ session with nextExpectedOffset := startOffset + payload.length },
      some (.output session.nextExpectedOffset
        (payload.drop (session.nextExpectedOffset - startOffset))), true)

def handleSubscribed (session : MirrorSession) (info : SubscribedInfo) :
    MirrorSession × Option MirrorEvent × Bool :=
  if info.nextOffset < info.replayStartOffset ∨ info.nextOffset < info.durableOffset then
    ({ session with info }, none, false)
  else
    ({ session with
       info
       subscribed := true
       inputAvailable := session.protocolV2 && info.inputAvailable
       nextExpectedOffset := info.replayStartOffset
       durableOffset := info.durableOffset },
      some (.subscribed info), true)

/-- The last component is false when the message ends the connection. -/
def handleMessage (session : MirrorSession) : ServerMessage →
    MirrorSession × Option MirrorEvent × Bool
  | .ready => (session, some .ready, true)
  | .subscribed info => session.handleSubscribed info
  | .gap _ availableFrom =>
      ({ session with nextExpectedOffset := availableFrom }, some (.gap availableFrom), true)
  | .durable offset =>
      let durableOffset := max session.durableOffset offset
      ({ session with durableOffset }, some (.durable durableOffset), true)
  | .resize columns rows =>
      if columns = 0 ∨ rows = 0 then (session, none, true)
      else
        ({ session with info := { session.info with columns, rows } },
          some (.resize columns rows), true)
  | .closed => (session, some .terminalClosed, true)
  | .inputAck => (session, some .inputAck, true)
  | .error code => (session, some (.error code), refusesInput code)
  | .notice => (session, some .notice, true)
  | .output startOffset payload => session.handleBinaryFrame startOffset payload

end MirrorSession

/-- How far the relay is on one connection: what it was asked for, the gap it has announced
and not sent, or the offset up to which it has sent the stream. -/
inductive Serving where
  | asked (fromOffset : Option Nat)
  | announced (requestedFrom availableFrom : Nat)
  | flowing (upTo : Nat)
  | over

/-- What the relay sends next.  The window it retains is its own affair. -/
inductive Arrival where
  | ready
  | subscribed (earliest next durable columns rows : Nat) (inputAvailable : Bool)
  | offsetAhead (next : Nat)
  | gap
  | output (startOffset length : Nat)
  | durable (offset : Nat)
  | resize (columns rows : Nat)
  | closed
  | inputAck
  | notice
  | error (code : String)
  deriving DecidableEq

/-- A request below the window is answered with a gap. -/
def Serving.subscribe (stream : Bytes) (fromOffset : Option Nat)
    (earliest next durable columns rows : Nat) (inputAvailable : Bool) :
    Option (ServerMessage × Serving) :=
  let requested := fromOffset.getD earliest
  if earliest ≤ next ∧ next ≤ stream.length ∧ durable ≤ next ∧ requested ≤ next then
    some (.subscribed ⟨requested, max requested earliest, next, durable, earliest, columns, rows,
        inputAvailable⟩,
      if requested < earliest then .announced requested earliest else .flowing requested)
  else none

/-- Output is a part of the stream that continues, or repeats, what was sent. -/
def Serving.flow (stream : Bytes) (upTo startOffset length : Nat) :
    Option (ServerMessage × Serving) :=
  if startOffset ≤ upTo ∧ 0 < length ∧ startOffset + length ≤ stream.length then
    some (.output startOffset ((stream.drop startOffset).take length),
      .flowing (max upTo (startOffset + length)))
  else none

def Serving.send (stream : Bytes) (serving : Serving) : Arrival → Option (ServerMessage × Serving)
  | .ready =>
      match serving with
      | .asked _ => some (.ready, serving)
      | _ => none
  | .subscribed earliest next durable columns rows inputAvailable =>
      match serving with
      | .asked fromOffset =>
          Serving.subscribe stream fromOffset earliest next durable columns rows inputAvailable
      | _ => none
  | .offsetAhead next =>
      match serving with
      | .asked (some fromOffset) =>
          if next < fromOffset then some (.error "offset_ahead", .over) else none
      | _ => none
  | .gap =>
      match serving with
      | .announced requestedFrom availableFrom =>
          some (.gap requestedFrom availableFrom, .flowing availableFrom)
      | _ => none
  | .output startOffset length =>
      match serving with
      | .flowing upTo => Serving.flow stream upTo startOffset length
      | _ => none
  | .durable offset =>
      match serving with
      | .flowing _ => some (.durable offset, serving)
      | _ => none
  | .resize columns rows =>
      match serving with
      | .flowing _ => some (.resize columns rows, serving)
      | _ => none
  | .closed =>
      match serving with
      | .flowing _ => some (.closed, .over)
      | _ => none
  | .inputAck =>
      match serving with
      | .flowing _ => some (.inputAck, serving)
      | _ => none
  | .notice =>
      match serving with
      | .asked _ | .flowing _ => some (.notice, serving)
      | _ => none
  | .error code =>
      match serving with
      | .asked _ | .flowing _ =>
          if code = "offset_ahead" then none
          else some (.error code, if refusesInput code then serving else .over)
      | _ => none

end Hypeterm.Android
