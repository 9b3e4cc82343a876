import Hypeterm.Types
import Hypeterm.Library.BigEndian

/-! Binary frames.  A publisher's output frame is a type byte, the terminal in sixteen
bytes, the expected offset in eight and the payload; a mirror's input frame is a type
byte, the sequence in eight bytes and the payload. -/
namespace Hypeterm.Relay

open Library List

def frameTypeOutput : UInt8 := 0x01

def frameTypeInput : UInt8 := 0x02

def publisherHeaderLen : Nat := 1 + 16 + 8

def mirrorInputHeaderLen : Nat := 1 + 8

inductive FrameError where
  | tooShort
  | unknownType (frameType : UInt8)

def hexByte (byte : UInt8) : String :=
  String.ofList [Nat.digitChar (byte.toNat / 16), Nat.digitChar (byte.toNat % 16)]

def FrameError.display : FrameError → String
  | .tooShort => "binary frame is shorter than its header"
  | .unknownType frameType => "unknown binary frame type 0x" ++ hexByte frameType

structure PublisherOutputFrame where
  terminalId : Uuid
  expectedOffset : Nat
  payload : Bytes
  deriving DecidableEq

def decodePublisherFrame (bytes : Bytes) : Except FrameError PublisherOutputFrame :=
  if bytes.length < publisherHeaderLen then .error .tooShort
  else if bytes.headD 0 ≠ frameTypeOutput then .error (.unknownType (bytes.headD 0))
  else .ok ⟨BitVec.ofNat 128 (fromBeBytes ((bytes.drop 1).take 16)),
    fromBeBytes ((bytes.drop 17).take 8), bytes.drop publisherHeaderLen⟩

def encodePublisherFrame (terminalId : Uuid) (expectedOffset : Nat) (payload : Bytes) : Bytes :=
  frameTypeOutput :: (toBeBytes 16 terminalId.toNat ++ (toBeBytes 8 expectedOffset ++ payload))

theorem decodePublisherFrame_encode {expectedOffset : Nat} (fits : expectedOffset < 2 ^ 64)
    (terminalId : Uuid) (payload : Bytes) :
    decodePublisherFrame (encodePublisherFrame terminalId expectedOffset payload) =
      .ok ⟨terminalId, expectedOffset, payload⟩ := by
  have hid := length_toBeBytes 16 terminalId.toNat
  have hoffset := length_toBeBytes 8 expectedOffset
  have hterminal : fromBeBytes (toBeBytes 16 terminalId.toNat) = terminalId.toNat :=
    fromBeBytes_toBeBytes (by omega)
  have hround : fromBeBytes (toBeBytes 8 expectedOffset) = expectedOffset :=
    fromBeBytes_toBeBytes (by omega)
  unfold decodePublisherFrame encodePublisherFrame
  rw [if_neg (by simp [publisherHeaderLen, hid, hoffset]; omega), if_neg (by simp)]
  simp only [publisherHeaderLen, drop_succ_cons, drop_zero]
  have hheader : (toBeBytes 16 terminalId.toNat ++ toBeBytes 8 expectedOffset).length = 1 + 16 + 7 := by
    rw [length_append, hid, hoffset]
  rw [take_left' hid, drop_left' hid, take_left' hoffset, ← append_assoc,
    drop_left' hheader, hterminal, hround, BitVec.ofNat_toNat, BitVec.setWidth_eq]

/-- `clientSequence` starts at 1 on each connection and increases by exactly one. -/
structure MirrorInputFrame where
  clientSequence : Nat
  payload : Bytes
  deriving DecidableEq

def decodeMirrorInputFrame (bytes : Bytes) : Except FrameError MirrorInputFrame :=
  if bytes.length < mirrorInputHeaderLen then .error .tooShort
  else if bytes.headD 0 ≠ frameTypeInput then .error (.unknownType (bytes.headD 0))
  else .ok ⟨fromBeBytes ((bytes.drop 1).take 8), bytes.drop mirrorInputHeaderLen⟩

def encodeMirrorInputFrame (clientSequence : Nat) (payload : Bytes) : Bytes :=
  frameTypeInput :: (toBeBytes 8 clientSequence ++ payload)

theorem decodeMirrorInputFrame_encode {clientSequence : Nat} (fits : clientSequence < 2 ^ 64)
    (payload : Bytes) :
    decodeMirrorInputFrame (encodeMirrorInputFrame clientSequence payload) =
      .ok ⟨clientSequence, payload⟩ := by
  have hlength := length_toBeBytes 8 clientSequence
  have hround : fromBeBytes (toBeBytes 8 clientSequence) = clientSequence :=
    fromBeBytes_toBeBytes (by omega)
  have hheader : (frameTypeInput :: (toBeBytes 8 clientSequence ++ payload)).drop
      mirrorInputHeaderLen = payload := by
    simp [mirrorInputHeaderLen, hlength]
  have hsequence : (toBeBytes 8 clientSequence ++ payload).take 8 =
      toBeBytes 8 clientSequence := by
    simp [hlength]
  unfold decodeMirrorInputFrame encodeMirrorInputFrame
  rw [if_neg, if_neg, hheader, drop_one, tail_cons, hsequence, hround]
  · simp
  · simp [mirrorInputHeaderLen, hlength]

end Hypeterm.Relay
