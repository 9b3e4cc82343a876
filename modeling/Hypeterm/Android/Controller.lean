import Hypeterm.Android.Emulator
import Hypeterm.Android.Mirror

/-! The phone's controller: the terminal it wants, the connection it has, the offset at
which it resumes, and the emulator.  One message is handled at a time, and the connection
may be lost between any two. -/
namespace Hypeterm.Android

/-- A reply that was sent as input: the offset of the byte that completed its query, the
subscription it was sent under, and how often the emulator had been reset. -/
structure Typed where
  offset : Nat
  bytes : String
  info : SubscribedInfo
  inputAvailable : Bool
  resets : Nat

structure AppConfig where
  fallbackColumns : Nat
  fallbackRows : Nat
  answerDeviceQueries : Bool

/-- `mirror` is there exactly while the controller is attached.  `typed` is history. -/
structure Controller (Screen : Type) where
  config : AppConfig
  localColumns : Nat
  localRows : Nat
  pendingColumns : Nat
  pendingRows : Nat
  desiredTerminalId : Option Uuid
  mirror : Option MirrorSession
  coldAttach : Bool
  resumeOffsetValid : Bool
  resumeOffset : Nat
  pendingDisconnect : Bool
  emulator : Emulator Screen
  typed : List Typed

namespace Controller

variable {Screen : Type} (display : Display Screen)

def new (config : AppConfig) : Controller Screen where
  config
  localColumns := config.fallbackColumns
  localRows := config.fallbackRows
  pendingColumns := 0
  pendingRows := 0
  desiredTerminalId := none
  mirror := none
  coldAttach := true
  resumeOffsetValid := false
  resumeOffset := 0
  pendingDisconnect := false
  emulator := Emulator.new display config.answerDeviceQueries
  typed := []

def resetTerminal (controller : Controller Screen) : Controller Screen :=
  { controller with emulator := controller.emulator.reset display }

def resizeGrid (controller : Controller Screen) (columns rows : Nat) : Controller Screen :=
  if columns < 1 ∨ rows < 1 then controller
  else { controller with emulator := controller.emulator.resize display columns rows }

def disconnect (controller : Controller Screen) : Controller Screen :=
  { controller with mirror := none }

def attach (controller : Controller Screen) (terminalId : Uuid) : Controller Screen :=
  if controller.mirror.isSome ∧ controller.desiredTerminalId = some terminalId then controller
  else
    { controller.disconnect with
      desiredTerminalId := some terminalId
      coldAttach := true
      resumeOffsetValid := false
      resumeOffset := 0 }.resetTerminal display

def detach (controller : Controller Screen) : Controller Screen :=
  { controller.disconnect with desiredTerminalId := none }

/-- Before anything is attached, the local grid takes the place of the fallback. -/
def setGridSize (controller : Controller Screen) (columns rows : Nat) : Controller Screen :=
  if columns < 1 ∨ rows < 1 then controller
  else
    let sized := { controller with localColumns := columns, localRows := rows }
    if columns = controller.pendingColumns ∧ rows = controller.pendingRows then sized
    else
      let pended := { sized with pendingColumns := columns, pendingRows := rows }
      if display.columns controller.emulator.screen = controller.config.fallbackColumns ∧
          display.rows controller.emulator.screen = controller.config.fallbackRows ∧
          controller.mirror = none then
        pended.resizeGrid display columns rows
      else pended

def fromOffset (controller : Controller Screen) : Option Nat :=
  if controller.resumeOffsetValid then some controller.resumeOffset else none

/-- A connection came up, and the subscription is sent. -/
def connect (controller : Controller Screen) (protocolV2 : Bool) : Controller Screen :=
  { controller with
    mirror := some (MirrorSession.connect protocolV2)
    coldAttach := false
    pendingColumns := controller.localColumns
    pendingRows := controller.localRows }

/-- The terminal that a cold attach looked up is not there. -/
def notFound (controller : Controller Screen) : Controller Screen :=
  { controller with desiredTerminalId := none }

/-- The response sink.  What the emulator answers travels as input, or is dropped; the
socket takes the first `writes` replies. -/
def sendReplies (controller : Controller Screen) (session : MirrorSession) (writes : Nat)
    (replies : List (Nat × String)) : Controller Screen :=
  if session.inputAvailable && session.subscribed then
    { controller with
      typed := controller.typed ++ (replies.take writes).map fun reply =>
        ⟨reply.1, reply.2, session.info, session.inputAvailable, controller.emulator.resets⟩ }
  else controller

def onSubscribed (controller : Controller Screen) (session : MirrorSession)
    (info : SubscribedInfo) : Controller Screen :=
  let sized :=
    if 0 < info.columns ∧ 0 < info.rows then controller.resizeGrid display info.columns info.rows
    else controller.resizeGrid display controller.localColumns controller.localRows
  { sized with resumeOffsetValid := true, resumeOffset := session.nextExpectedOffset }

def onOutput (controller : Controller Screen) (session : MirrorSession) (writes : Nat)
    (startOffset : Nat) (payload : Bytes) : Controller Screen :=
  let applied := controller.emulator.feed display startOffset payload
  { controller with
    emulator := applied.1
    resumeOffsetValid := true
    resumeOffset := session.nextExpectedOffset }.sendReplies session writes applied.2

def onGap (controller : Controller Screen) (availableFrom : Nat) : Controller Screen :=
  { controller with resumeOffsetValid := true, resumeOffset := availableFrom }.resetTerminal display

def onTerminalClosed (controller : Controller Screen) : Controller Screen :=
  { controller with desiredTerminalId := none, pendingDisconnect := true }

def onError (controller : Controller Screen) (code : String) : Controller Screen :=
  if refusesInput code then controller
  else if code = "offset_ahead" then
    { controller with
      resumeOffsetValid := false
      resumeOffset := 0
      pendingDisconnect := true }.resetTerminal display
  else controller

def handleMirrorEvent (controller : Controller Screen) (session : MirrorSession)
    (writes : Nat) : MirrorEvent → Controller Screen
  | .subscribed info => controller.onSubscribed display session info
  | .output startOffset payload => controller.onOutput display session writes startOffset payload
  | .gap availableFrom => controller.onGap display availableFrom
  | .resize columns rows => controller.resizeGrid display columns rows
  | .terminalClosed => controller.onTerminalClosed
  | .error code => controller.onError display code
  | .ready | .durable _ | .inputAck | .notice => controller

/-- What follows a message: a disconnect that its handler asked for, or one because it
failed. -/
def settle (controller : Controller Screen) (ok : Bool) : Controller Screen :=
  if controller.pendingDisconnect then { controller.disconnect with pendingDisconnect := false }
  else if ok then controller
  else controller.disconnect

def pump (controller : Controller Screen) (session : MirrorSession) (writes : Nat)
    (message : ServerMessage) : Controller Screen :=
  let handled := session.handleMessage message
  let reached : Controller Screen := { controller with mirror := some handled.1 }
  match handled.2.1 with
  | some event => (reached.handleMirrorEvent display handled.1 writes event).settle handled.2.2
  | none => reached.settle handled.2.2

end Controller

/-- The controller and the relay's end of its connection. -/
structure Mirroring (Screen : Type) where
  controller : Controller Screen
  serving : Option Serving

inductive Action where
  | attach (terminalId : Uuid)
  | detach
  | setGridSize (columns rows : Nat)
  | connect (protocolV2 : Bool)
  | notFound
  | receive (arrival : Arrival) (writes : Nat)
  | disconnect
  deriving DecidableEq

namespace Mirroring

variable {Screen : Type} (display : Display Screen) (stream : Uuid → Bytes)

def initial (config : AppConfig) : Mirroring Screen := ⟨Controller.new display config, none⟩

/-- The relay's end is gone once the controller has let go of the connection. -/
def close (controller : Controller Screen) (serving : Option Serving) : Mirroring Screen :=
  ⟨controller, if controller.mirror.isSome then serving else none⟩

def receive (system : Mirroring Screen) (arrival : Arrival) (writes : Nat) :
    Option (Mirroring Screen) :=
  match system.controller.desiredTerminalId, system.controller.mirror, system.serving with
  | some terminalId, some session, some serving =>
      (serving.send (stream terminalId) arrival).map fun sent =>
        close (system.controller.pump display session writes sent.1) (some sent.2)
  | _, _, _ => none

def step (system : Mirroring Screen) : Action → Option (Mirroring Screen)
  | .attach terminalId => some (close (system.controller.attach display terminalId) system.serving)
  | .detach => some (close system.controller.detach none)
  | .setGridSize columns rows =>
      some { system with controller := system.controller.setGridSize display columns rows }
  | .connect protocolV2 =>
      if system.controller.desiredTerminalId.isSome ∧ system.controller.mirror = none then
        some ⟨system.controller.connect protocolV2, some (.asked system.controller.fromOffset)⟩
      else none
  | .notFound =>
      if system.controller.coldAttach ∧ system.controller.mirror = none then
        some ⟨system.controller.notFound, none⟩
      else none
  | .receive arrival writes => system.receive display stream arrival writes
  | .disconnect => some (close system.controller.disconnect none)

end Mirroring

end Hypeterm.Android
