import Hypeterm.Types
import Hypeterm.Library.BigEndian

/-! The phone's WebSocket.  Frames as the server sends them, unmasked, and as the phone
sends them, masked; the messages a sequence of frames carries; and reading as the code does
it, one `Read` of the transport at a time. -/
namespace Hypeterm.Android

open Library

inductive Opcode where
  | continuation
  | text
  | binary
  | close
  | ping
  | pong
  deriving DecidableEq

def Opcode.code : Opcode → UInt8
  | .continuation => 0x0
  | .text => 0x1
  | .binary => 0x2
  | .close => 0x8
  | .ping => 0x9
  | .pong => 0xA

structure WebSocketOptions where
  maxFrameBytes : Nat
  maxMessageBytes : Nat

inductive WebSocketMessage where
  | text (payload : Bytes)
  | binary (payload : Bytes)
  | close (code : Nat) (reason : Bytes)
  deriving DecidableEq

def isContinuationByte (byte : UInt8) : Bool := byte &&& 0xC0 = 0x80

def expectedLength (lead : UInt8) : Nat :=
  if lead &&& 0xF8 = 0xF0 then 4
  else if lead &&& 0xF0 = 0xE0 then 3
  else if lead &&& 0xE0 = 0xC0 then 2
  else 1

def dropCutCharacter (out : Bytes) : Bytes :=
  let tail := out.reverse.takeWhile isContinuationByte
  match out.reverse.dropWhile isContinuationByte with
  | [] => out
  | lead :: before =>
      if 1 < expectedLength lead ∧ tail.length + 1 < expectedLength lead then before.reverse else out

def sanitizeForMessage (text : Bytes) (maxLength : Nat) : Bytes :=
  let out := (text.take maxLength).map fun byte =>
    if byte < 0x20 ∨ byte = 0x7F then 0x2E else byte
  if maxLength < text.length then dropCutCharacter out ++ [0x2E, 0x2E, 0x2E] else out

/-- A close frame names a code and a reason when its payload has room for the code. -/
def closeMessage (payload : Bytes) : WebSocketMessage :=
  if 2 ≤ payload.length then
    .close (fromBeBytes (payload.take 2)) (sanitizeForMessage (payload.drop 2) 200)
  else .close 0 []

inductive LengthForm where
  | short
  | medium
  | long
  deriving DecidableEq

def LengthForm.bound : LengthForm → Nat
  | .short => 126
  | .medium => 2 ^ 16
  | .long => 2 ^ 64

/-- An unmasked frame whose length is written in a form that can hold it. -/
structure ServerFrame where
  fin : Bool
  opcode : Opcode
  payload : Bytes
  form : LengthForm
  fits : payload.length < form.bound

def headerByte (fin : Bool) (opcode : Opcode) : UInt8 :=
  (if fin then 0x80 else 0) ||| opcode.code

namespace ServerFrame

def lengthByte (frame : ServerFrame) : UInt8 :=
  match frame.form with
  | .short => UInt8.ofNat frame.payload.length
  | .medium => 126
  | .long => 127

def extendedLength (frame : ServerFrame) : Bytes :=
  match frame.form with
  | .short => []
  | .medium => toBeBytes 2 frame.payload.length
  | .long => toBeBytes 8 frame.payload.length

def encode (frame : ServerFrame) : Bytes :=
  headerByte frame.fin frame.opcode :: frame.lengthByte :: (frame.extendedLength ++ frame.payload)

end ServerFrame

def encodeFrames (frames : List ServerFrame) : Bytes := frames.flatMap ServerFrame.encode

/-- The frames of a message that has begun, put together. -/
structure Fragments where
  opcode : Opcode
  payload : Bytes

def Fragments.message (fragments : Fragments) : WebSocketMessage :=
  if fragments.opcode = .text then .text fragments.payload else .binary fragments.payload

def assemble : Option Fragments → List ServerFrame → List WebSocketMessage
  | _, [] => []
  | begun, frame :: rest =>
      match frame.opcode with
      | .ping | .pong => assemble begun rest
      | .close => [closeMessage frame.payload]
      | .text | .binary =>
          let fragments : Fragments := ⟨frame.opcode, frame.payload⟩
          if frame.fin then fragments.message :: assemble none rest
          else assemble (some fragments) rest
      | .continuation =>
          match begun with
          | some earlier =>
              let fragments : Fragments := ⟨earlier.opcode, earlier.payload ++ frame.payload⟩
              if frame.fin then fragments.message :: assemble none rest
              else assemble (some fragments) rest
          | none => []

def messagesOf (frames : List ServerFrame) : List WebSocketMessage := assemble none frames

/-- Fragments follow one another, control frames are whole and short, and everything is
within the limits.  What follows a close frame is nobody's business. -/
def WellFormed (options : WebSocketOptions) : Option Fragments → List ServerFrame → Prop
  | _, [] => True
  | begun, frame :: rest =>
      frame.payload.length ≤ options.maxFrameBytes ∧
        match frame.opcode with
        | .ping | .pong =>
            frame.payload.length ≤ 125 ∧ frame.fin = true ∧ WellFormed options begun rest
        | .close => frame.payload.length ≤ 125 ∧ frame.fin = true
        | .text | .binary =>
            begun = none ∧
              if frame.fin then WellFormed options none rest
              else frame.payload.length ≤ options.maxMessageBytes ∧
                WellFormed options (some ⟨frame.opcode, frame.payload⟩) rest
        | .continuation =>
            match begun with
            | some earlier =>
                (earlier.payload ++ frame.payload).length ≤ options.maxMessageBytes ∧
                  if frame.fin then WellFormed options none rest
                  else WellFormed options
                    (some ⟨earlier.opcode, earlier.payload ++ frame.payload⟩) rest
            | none => False

inductive ReadError where
  | reservedBits
  | masked
  | frameTooLong
  | controlTooLong
  | controlFragmented
  | messageInMessage
  | noMessage
  | messageTooLong
  | unknownOpcode
  deriving DecidableEq

def ReadError.message : ReadError → String
  | .reservedBits => "websocket: reserved frame bits are set"
  | .masked => "websocket: server frames must not be masked"
  | .frameTooLong => "websocket: frame exceeds the size limit"
  | .controlTooLong => "websocket: control frame payload is too long"
  | .controlFragmented => "websocket: control frames must not be fragmented"
  | .messageInMessage => "websocket: a new message started before the previous ended"
  | .noMessage => "websocket: continuation frame without a message"
  | .messageTooLong => "websocket: message exceeds the size limit"
  | .unknownOpcode => "websocket: unknown opcode"

structure Locals where
  payload : Bytes
  messageOpcode : UInt8
  inMessage : Bool
  deriving DecidableEq

def Locals.fresh : Locals := ⟨[], 0, false⟩

/-- Where the reading thread stands: outside `ReadMessage`, at one of the three
`ReadExactly` of `ReadFrame`, sending a pong, or done with the connection. -/
inductive ReadPhase where
  | idle
  | header (locals : Locals)
  | extended (locals : Locals) (fin : Bool) (opcode : UInt8) (width : Nat)
  | body (locals : Locals) (fin : Bool) (opcode : UInt8) (length : Nat)
  | ponging (locals : Locals) (payload : Bytes)
  | closed
  | failed (error : ReadError)
  deriving DecidableEq

structure Reader where
  stream : Bytes
  buffer : Bytes
  phase : ReadPhase
  returned : List WebSocketMessage
  deriving DecidableEq

/-- `read` and `timeout` are what the transport's `Read` may return; `pongSent` is whether
the pong was written or its write timed out. -/
inductive ReadAction where
  | call
  | read (count : Nat)
  | timeout
  | proceed
  | pongSent (sent : Bool)

namespace Reader

def initial (stream : Bytes) : Reader := ⟨stream, [], .idle, []⟩

def readChunk : Nat := 16384

/-- What the `ReadExactly` the thread stands at asks for. -/
def wanted (reader : Reader) : Option Nat :=
  match reader.phase with
  | .header _ => some 2
  | .extended _ _ _ width => some width
  | .body _ _ _ length => some length
  | .idle | .ponging _ _ | .closed | .failed _ => none

def fail (reader : Reader) (error : ReadError) : Reader := { reader with phase := .failed error }

def returnMessage (reader : Reader) (locals : Locals) : Reader :=
  { reader with
    phase := .idle
    returned := reader.returned ++
      [if locals.messageOpcode = Opcode.text.code then .text locals.payload
        else .binary locals.payload] }

def endFrame (options : WebSocketOptions) (reader : Reader) (locals : Locals) (fin : Bool) : Reader :=
  if fin then reader.returnMessage locals
  else if options.maxMessageBytes < locals.payload.length then reader.fail .messageTooLong
  else { reader with phase := .header locals }

def takeFrame (options : WebSocketOptions) (reader : Reader) (locals : Locals) (fin : Bool)
    (opcode : UInt8) (payload : Bytes) : Reader :=
  if opcode = Opcode.ping.code then { reader with phase := .ponging locals payload }
  else if opcode = Opcode.pong.code then { reader with phase := .header locals }
  else if opcode = Opcode.close.code then
    { reader with phase := .closed, returned := reader.returned ++ [closeMessage payload] }
  else if opcode = Opcode.text.code ∨ opcode = Opcode.binary.code then
    if locals.inMessage then reader.fail .messageInMessage
    else reader.endFrame options ⟨payload, opcode, true⟩ fin
  else if opcode = Opcode.continuation.code then
    if !locals.inMessage then reader.fail .noMessage
    else if options.maxMessageBytes < locals.payload.length + payload.length then
      reader.fail .messageTooLong
    else reader.endFrame options { locals with payload := locals.payload ++ payload } fin
  else reader.fail .unknownOpcode

def takeLength (options : WebSocketOptions) (reader : Reader) (locals : Locals) (fin : Bool)
    (opcode : UInt8) (length : Nat) : Reader :=
  if options.maxFrameBytes < length then reader.fail .frameTooLong
  else if opcode &&& 0x08 ≠ 0 ∧ 125 < length then reader.fail .controlTooLong
  else if opcode &&& 0x08 ≠ 0 ∧ fin = false then reader.fail .controlFragmented
  else if 0 < length then { reader with phase := .body locals fin opcode length }
  else reader.takeFrame options locals fin opcode []

def takeHeader (options : WebSocketOptions) (reader : Reader) (locals : Locals)
    (byte0 byte1 : UInt8) : Reader :=
  let fin : Bool := byte0 &&& 0x80 ≠ 0
  let opcode := byte0 &&& 0x0F
  if byte0 &&& 0x70 ≠ 0 then reader.fail .reservedBits
  else if byte1 &&& 0x80 ≠ 0 then reader.fail .masked
  else if byte1 &&& 0x7F = 126 then { reader with phase := .extended locals fin opcode 2 }
  else if byte1 &&& 0x7F = 127 then { reader with phase := .extended locals fin opcode 8 }
  else reader.takeLength options locals fin opcode (byte1 &&& 0x7F).toNat

def proceed (options : WebSocketOptions) (reader : Reader) : Option Reader :=
  match reader.phase with
  | .header locals =>
      match reader.buffer with
      | byte0 :: byte1 :: rest =>
          some (({ reader with buffer := rest } : Reader).takeHeader options locals byte0 byte1)
      | _ => none
  | .extended locals fin opcode width =>
      if width ≤ reader.buffer.length then
        some (({ reader with buffer := reader.buffer.drop width } : Reader).takeLength options
          locals fin opcode (fromBeBytes (reader.buffer.take width)))
      else none
  | .body locals fin opcode length =>
      if length ≤ reader.buffer.length then
        some (({ reader with buffer := reader.buffer.drop length } : Reader).takeFrame options
          locals fin opcode (reader.buffer.take length))
      else none
  | .idle | .ponging _ _ | .closed | .failed _ => none

/-- `ReadExactly` asks the transport for more. -/
def waiting (reader : Reader) : Bool :=
  match reader.wanted with
  | some count => decide (reader.buffer.length < count)
  | none => false

/-- After a timeout the caller calls `ReadMessage` again; its local variables are new. -/
def step (options : WebSocketOptions) (reader : Reader) : ReadAction → Option Reader
  | .call =>
      if reader.phase = .idle then some { reader with phase := .header Locals.fresh } else none
  | .read count =>
      if reader.waiting ∧ 0 < count ∧ count ≤ readChunk ∧ count ≤ reader.stream.length then
        some { reader with
          stream := reader.stream.drop count
          buffer := reader.buffer ++ reader.stream.take count }
      else none
  | .timeout => if reader.waiting then some { reader with phase := .idle } else none
  | .proceed => reader.proceed options
  | .pongSent sent =>
      match reader.phase with
      | .ponging locals _ =>
          some { reader with phase := if sent then .header locals else .idle }
      | _ => none

end Reader

end Hypeterm.Android
