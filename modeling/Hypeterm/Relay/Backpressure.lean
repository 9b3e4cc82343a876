import Hypeterm.Relay.Frames
import Hypeterm.Relay.Steps

/-! Output frames of publisher connections. The replay capacity is a constant here, and a device,
so each of its terminals, has one connection at a time. -/
namespace Hypeterm.Relay.Backpressure

open Library
open Db

structure NegotiatedLimits where
  maxFrameBytes : Nat
  maxUnackedBytes : Nat
  deriving DecidableEq

structure Reply where
  code : String
  message : String
  terminalId : Option Uuid
  nextOffset : Option Nat
  durableOffset : Option Nat
  closeCode : Option Nat

def terminalError (code message : String) (terminalId : Uuid) : Reply :=
  ⟨code, message, some terminalId, none, none, none⟩

def offsetMismatch (terminalId : Uuid) (nextOffset durableOffset : Nat) : Reply :=
  ⟨"offset_mismatch", "output frame start offset does not match the authoritative next_offset",
    some terminalId, some nextOffset, some durableOffset, none⟩

def Reply.closing (reply : Reply) (closeCode : Nat) : Reply :=
  { reply with closeCode := some closeCode }

def frameErrorReply (error : FrameError) : Reply :=
  let code := match error with
    | .tooShort => "invalid_message"
    | .unknownType _ => "unknown_message_type"
  (⟨code, error.display, none, none, none, none⟩ : Reply).closing 1002

def oversizeStrikesLimit : Nat := 3

/-- Where a connection stands in `on_binary`.  From `holding` on it has the handle. -/
inductive Phase where
  | ready
  | lookingUp (frame : PublisherOutputFrame) (limits : NegotiatedLimits)
  | holding (frame : PublisherOutputFrame) (limits : NegotiatedLimits)
  | windowFull (frame : PublisherOutputFrame) (limits : NegotiatedLimits)
  | waiting (frame : PublisherOutputFrame) (limits : NegotiatedLimits) (target : Nat)
  | rechecking (frame : PublisherOutputFrame) (limits : NegotiatedLimits)
  | appending (frame : PublisherOutputFrame) (limits : NegotiatedLimits)
  | closed
  deriving DecidableEq

structure Connection where
  oversizeStrikes : Nat
  framesIn : Nat
  bytesIn : Nat
  replies : List Reply
  phase : Phase

def Connection.new : Connection := ⟨0, 0, 0, [], .ready⟩

def Connection.reply (connection : Connection) (reply : Reply) (phase : Phase) : Connection :=
  { connection with replies := connection.replies ++ [reply], phase }

/-- An accepted frame at least as large as the replay window: its first offset and its
length. -/
structure Oversized where
  start : Nat
  length : Nat

/-- `oversized` is history: an oversized frame of each terminal that no checkpoint of the
terminal has followed. -/
structure System where
  relay : Relay.System
  connections : Uuid → Option Connection
  oversized : Uuid → Option Oversized

def System.initial : System := ⟨Relay.System.initial, fun _ => none, fun _ => none⟩

inductive Action where
  | relay (action : Relay.Action)
  | connect (deviceId : Uuid)
  | disconnect (deviceId : Uuid)
  | onBinary (deviceId : Uuid) (bytes : Bytes) (limits : NegotiatedLimits)
  | proceed (deviceId : Uuid) (timedOut storageFailing : Bool)
  deriving DecidableEq

/-- A frame at least as large as the whole window keeps only its tail, so everything
already dirty must be committed first. -/
def targetDirtyHeadroom (capacity : Nat) (limits : NegotiatedLimits)
    (frame : PublisherOutputFrame) : Nat :=
  if capacity ≤ frame.payload.length then 0
  else min limits.maxUnackedBytes capacity - frame.payload.length

def backpressureReply (storageFailing : Bool) (terminalId : Uuid) : Reply :=
  if storageFailing then
    (terminalError "storage_unavailable"
      "durable storage is unavailable; output cannot be acknowledged" terminalId).closing 4004
  else
    (terminalError "limit_exceeded"
      "publisher exceeded its unacknowledged output window" terminalId).closing 4008

namespace System

def setConnection (system : System) (deviceId : Uuid) (connection : Connection) : System :=
  { system with connections := Function.update system.connections deviceId (some connection) }

/-- The part of `on_binary` before the terminal is looked up. -/
def onBinary (system : System) (deviceId : Uuid) (connection : Connection) (bytes : Bytes)
    (limits : NegotiatedLimits) : System :=
  match decodePublisherFrame bytes with
  | .error error =>
      system.setConnection deviceId (connection.reply (frameErrorReply error) .closed)
  | .ok frame =>
      let payloadLen := frame.payload.length
      if limits.maxFrameBytes < payloadLen then
        let maximum := limits.maxFrameBytes
        let struck := { connection with oversizeStrikes := connection.oversizeStrikes + 1 }
        let message := terminalError "limit_exceeded" (s!"output frame of {payloadLen} bytes " ++
          s!"exceeds the negotiated maximum of {maximum} bytes") frame.terminalId
        if oversizeStrikesLimit ≤ struck.oversizeStrikes then
          system.setConnection deviceId (struck.reply (message.closing 4008) .closed)
        else system.setConnection deviceId (struck.reply message .ready)
      else system.setConnection deviceId { connection with phase := .lookingUp frame limits }

/-- `lookup`: a device may publish only to its own terminals. -/
def lookUp (capacity : Nat) (system : System) (deviceId : Uuid) (connection : Connection)
    (frame : PublisherOutputFrame) (limits : NegotiatedLimits) : System :=
  let loaded := { system with relay := system.relay.load frame.terminalId capacity }
  if (loaded.relay.resident frame.terminalId).any fun handle => handle.deviceId = deviceId then
    loaded.setConnection deviceId { connection with phase := .holding frame limits }
  else
    loaded.setConnection deviceId (connection.reply (terminalError "terminal_not_found"
      "unknown terminal for this device" frame.terminalId) .ready)

def checkDirty (capacity : Nat) (system : System) (deviceId : Uuid) (connection : Connection)
    (frame : PublisherOutputFrame) (limits : NegotiatedLimits) (handle : TerminalHandle)
    (full : Connection) : System :=
  if handle.dirtyBytes ≤ targetDirtyHeadroom capacity limits frame then
    system.setConnection deviceId { connection with phase := .appending frame limits }
  else system.setConnection deviceId full

def append (capacity : Nat) (system : System) (deviceId : Uuid) (connection : Connection)
    (frame : PublisherOutputFrame) (handle : TerminalHandle) : System :=
  let appended := { system with
    relay := system.relay.applyOp handle
      (.append frame.expectedOffset frame.payload capacity) }
  match (handle.append frame.expectedOffset frame.payload capacity).2 with
  | .accepted _ _ =>
      { appended.setConnection deviceId { connection with
          framesIn := connection.framesIn + 1
          bytesIn := connection.bytesIn + frame.payload.length
          phase := .ready } with
        oversized :=
          if capacity ≤ frame.payload.length then
            Function.update system.oversized frame.terminalId
              (some ⟨handle.inner.nextOffset, frame.payload.length⟩)
          else system.oversized }
  | .offsetMismatch nextOffset durableOffset =>
      appended.setConnection deviceId
        (connection.reply (offsetMismatch frame.terminalId nextOffset durableOffset) .ready)
  | .notOpen =>
      appended.setConnection deviceId (connection.reply (terminalError "terminal_closed"
        "terminal is closed and cannot accept output" frame.terminalId) .ready)

/-- The next section of `on_binary`; each looks at the handle under its lock. -/
def proceed (capacity : Nat) (system : System) (deviceId : Uuid) (connection : Connection)
    (timedOut storageFailing : Bool) : Option System :=
  match connection.phase with
  | .ready | .closed => none
  | .lookingUp frame limits => some (system.lookUp capacity deviceId connection frame limits)
  | .holding frame limits =>
      (system.relay.resident frame.terminalId).map fun handle =>
        system.checkDirty capacity deviceId connection frame limits handle
          { connection with phase := .windowFull frame limits }
  | .windowFull frame limits =>
      (system.relay.resident frame.terminalId).map fun handle =>
        system.setConnection deviceId { connection with
          phase := .waiting frame limits
            (handle.inner.nextOffset - targetDirtyHeadroom capacity limits frame) }
  | .waiting frame limits target =>
      (system.relay.resident frame.terminalId).bind fun handle =>
        if timedOut ∨ target ≤ handle.inner.durableOffset ∨ handle.inner.lifecycle ≠ .opened then
          some (system.setConnection deviceId
            { connection with phase := .rechecking frame limits })
        else none
  | .rechecking frame limits =>
      (system.relay.resident frame.terminalId).map fun handle =>
        system.checkDirty capacity deviceId connection frame limits handle
          (connection.reply (backpressureReply storageFailing frame.terminalId) .closed)
  | .appending frame _ =>
      (system.relay.resident frame.terminalId).map fun handle =>
        system.append capacity deviceId connection frame handle

/-- A checkpoint of a terminal ends the time after its oversized frame; a crash ends the
connections with the process. -/
def afterRelay (system : System) (action : Relay.Action) (relay : Relay.System) : System :=
  match action, system.relay.flush with
  | .crash, _ => { relay, connections := fun _ => none, oversized := fun _ => none }
  | .flushPublish, .publishing (checkpoint :: _) =>
      { system with
        relay, oversized := Function.update system.oversized checkpoint.terminalId none }
  | _, _ => { system with relay }

end System

/-- What happens to terminals outside `on_binary`: anything but output, under the one
replay capacity. -/
def permitted (capacity : Nat) : Relay.Action → Bool
  | .load _ other => other = capacity
  | .handle _ (.append _ _ _) => false
  | .handle _ (.shrinkToCapacity other) => other = capacity
  | _ => true

def step (capacity : Nat) (system : System) : Action → Option System
  | .relay action =>
      if permitted capacity action then
        (Relay.step system.relay action).map (system.afterRelay action)
      else none
  | .connect deviceId =>
      if (system.connections deviceId).isNone then
        some (system.setConnection deviceId Connection.new)
      else none
  | .disconnect deviceId =>
      some { system with connections := Function.update system.connections deviceId none }
  | .onBinary deviceId bytes limits =>
      match system.connections deviceId with
      | some connection =>
          if connection.phase = .ready then
            some (system.onBinary deviceId connection bytes limits)
          else none
      | none => none
  | .proceed deviceId timedOut storageFailing =>
      (system.connections deviceId).bind fun connection =>
        system.proceed capacity deviceId connection timedOut storageFailing

end Hypeterm.Relay.Backpressure
