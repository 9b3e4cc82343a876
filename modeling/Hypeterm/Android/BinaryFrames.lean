import Hypeterm.Android.Mirror
import Hypeterm.Library.Checked
import Hypeterm.Publisher.Session

/-! The binary frames of the relay, the publisher and the phone side by side.  Each program
has its own encoders and decoders; an index or a range outside the bytes would panic in two of
them and read past the end in the third, so every access is checked. -/
namespace Hypeterm.Android.BinaryFrames

open Library Checked List
open Relay (FrameError PublisherOutputFrame MirrorInputFrame frameTypeOutput frameTypeInput
  publisherHeaderLen mirrorInputHeaderLen)
open Hypeterm.Publisher (InputFrame publisherInputHeaderLen)

def readRange (bytes : Bytes) (first last : Nat) : Checked Bytes :=
  ⟨(bytes.take last).drop first, decide (first ≤ last ∧ last ≤ bytes.length)⟩

def header (frameType : UInt8) (terminalId : Uuid) (number : UInt64) : Bytes :=
  frameType :: (toBeBytes 16 terminalId.toNat ++ toBeBytes 8 number.toNat)

def encodeOutputFrame (terminalId : Uuid) (expectedOffset : UInt64) (payload : Bytes) : Bytes :=
  header frameTypeOutput terminalId expectedOffset ++ payload

def encodePublisherInputFrame (terminalId : Uuid) (relaySequence : UInt64) (payload : Bytes) :
    Bytes :=
  header frameTypeInput terminalId relaySequence ++ payload

def encodeMirrorFrame (startOffset : UInt64) (payload : Bytes) : Bytes :=
  frameTypeOutput :: (toBeBytes 8 startOffset.toNat ++ payload)

def decode {Frame : Type} (headerLen : Nat) (frameType : UInt8) (fields : Bytes → Checked Frame)
    (bytes : Bytes) : Checked (Except FrameError Frame) :=
  if bytes.length < headerLen then pure (.error .tooShort)
  else do
    let first ← get bytes 0
    if first ≠ frameType then pure (.error (.unknownType first))
    else do
      let frame ← fields bytes
      pure (.ok frame)

def decodePublisherFrame : Bytes → Checked (Except FrameError PublisherOutputFrame) :=
  decode publisherHeaderLen frameTypeOutput fun bytes => do
    let uuidBytes ← readRange bytes 1 17
    let offsetBytes ← readRange bytes 17 25
    let payload ← readRange bytes publisherHeaderLen bytes.length
    pure ⟨BitVec.ofNat 128 (fromBeBytes uuidBytes), fromBeBytes offsetBytes, payload⟩

def decodeInputFrame : Bytes → Checked (Except FrameError InputFrame) :=
  decode publisherInputHeaderLen frameTypeInput fun bytes => do
    let uuidBytes ← readRange bytes 1 17
    let sequence ← readRange bytes 17 25
    let payload ← readRange bytes publisherInputHeaderLen bytes.length
    pure ⟨BitVec.ofNat 128 (fromBeBytes uuidBytes), fromBeBytes sequence, payload⟩

def decodeMirrorInputFrame : Bytes → Checked (Except FrameError MirrorInputFrame) :=
  decode mirrorInputHeaderLen frameTypeInput fun bytes => do
    let sequence ← readRange bytes 1 9
    let payload ← readRange bytes mirrorInputHeaderLen bytes.length
    pure ⟨fromBeBytes sequence, payload⟩

def readUint64BigEndian (data : Bytes) : UInt64 :=
  data.foldl (fun value byte => value <<< 8 ||| byte.toUInt64) 0

def writeUint64BigEndian (value : UInt64) : Bytes :=
  [56, 48, 40, 32, 24, 16, 8, 0].map fun shift : UInt64 => (value >>> shift &&& 0xFF).toUInt8

def inputFrame (clientSequence : UInt64) (bytes : Bytes) : Bytes :=
  0x02 :: (writeUint64BigEndian clientSequence ++ bytes)

inductive Refusal where
  | empty
  | unknownType
  | truncated
  | zeroLength
  | overflows

def Refusal.status : Refusal → String × Option String
  | empty => ("empty binary frame", none)
  | unknownType => ("unknown binary frame type", some "invalid_message")
  | truncated => ("truncated output frame", none)
  | zeroLength => ("zero-length output frame", none)
  | overflows => ("output frame offset overflows", none)

/-- `HandleBinaryFrame` up to where it compares with the expected offset. -/
def readBinaryFrame (payload : Bytes) : Checked (Except Refusal (UInt64 × Bytes)) :=
  if payload.isEmpty then pure (.error .empty)
  else do
    let first ← get payload 0
    if first ≠ 0x01 then pure (.error .unknownType)
    else if payload.length < 9 then pure (.error .truncated)
    else if payload.length = 9 then pure (.error .zeroLength)
    else do
      let digits ← readRange payload 1 9
      let data ← readRange payload 9 payload.length
      let start := readUint64BigEndian digits
      if start + UInt64.ofNat data.length < start then pure (.error .overflows)
      else pure (.ok (start, data))

def handleBinaryFrame (session : MirrorSession) (payload : Bytes) :
    Checked (MirrorSession × Option MirrorEvent × Bool) := do
  match ← readBinaryFrame payload with
  | .ok (start, data) => pure (session.handleBinaryFrame start.toNat data)
  | .error _ => pure (session, none, false)

theorem holds_readRange {bytes : Bytes} {first last : Nat} (ordered : first ≤ last)
    (inside : last ≤ bytes.length) :
    Holds (fun range => range = (bytes.take last).drop first) (readRange bytes first last) :=
  ⟨decide_eq_true ⟨ordered, inside⟩, rfl⟩

/-- The ranges of a concatenation of three parts. -/
theorem holds_readRange_append (before range after : Bytes) : Holds (fun read => read = range)
      (readRange (before ++ (range ++ after)) before.length (before.length + range.length)) := by
  refine (holds_readRange (Nat.le_add_right _ _) (by simp)).mono ?_
  rintro _ rfl
  rw [drop_take, drop_left, Nat.add_sub_cancel_left, take_left]

theorem readUint64BigEndian_eq (data : Bytes) (short : data.length ≤ 8) :
    (readUint64BigEndian data).toNat = fromBeBytes data := by
  have hmod : ∀ (data : Bytes) (value : UInt64),
      (data.foldl (fun (value : UInt64) byte => value <<< 8 ||| byte.toUInt64) value).toNat =
        data.foldl (fun value byte => value * 256 + byte.toNat) value.toNat % 2 ^ 64 := by
    intro data
    induction data with
    | nil => exact fun value => (Nat.mod_eq_of_lt value.toNat_lt).symm
    | cons byte rest ih =>
      intro value
      have hbyte := byte.toNat_lt
      have hstep : (value <<< 8 ||| byte.toUInt64).toNat =
          (value.toNat * 256 + byte.toNat) % 2 ^ 64 := by
        have hlow : value.toNat <<< 8 % 2 ^ 64 = (value.toNat % 2 ^ 56) <<< 8 := by
          rw [Nat.shiftLeft_eq, Nat.shiftLeft_eq]
          omega
        rw [UInt64.toNat_or, UInt64.toNat_shiftLeft, UInt8.toNat_toUInt64]
        change value.toNat <<< 8 % 2 ^ 64 ||| byte.toNat = _
        rw [hlow, ← Nat.shiftLeft_add_eq_or_of_lt (by omega), Nat.shiftLeft_eq]
        omega
      rw [foldl_cons, foldl_cons, ih, hstep]
      have hcongr : ∀ (digits : Bytes) (first second : Nat), first % 2 ^ 64 = second % 2 ^ 64 →
          digits.foldl (fun value byte => value * 256 + byte.toNat) first % 2 ^ 64 =
            digits.foldl (fun value byte => value * 256 + byte.toNat) second % 2 ^ 64 := by
        intro digits
        induction digits with
        | nil => exact fun _ _ same => same
        | cons digit digits ihDigits =>
          exact fun first second same => ihDigits _ _ (by dsimp only; omega)
      exact hcongr rest _ _ (Nat.mod_mod _ _)
  have hlt : fromBeBytes data < 2 ^ 64 :=
    Nat.lt_of_lt_of_le (fromBeBytes_lt data) (Nat.pow_le_pow_right (by decide) short)
  unfold readUint64BigEndian
  rw [hmod data 0]
  exact Nat.mod_eq_of_lt hlt

theorem writeUint64BigEndian_eq (value : UInt64) :
    writeUint64BigEndian value = toBeBytes 8 value.toNat := by
  have hdigit : ∀ shift : UInt64, shift.toNat < 64 → ∀ number, value.toNat / 2 ^ shift.toNat = number →
      (value >>> shift &&& 0xFF).toUInt8 = UInt8.ofNat number := by
    rintro shift hshift _ rfl
    apply UInt8.toNat_inj.mp
    rw [UInt64.toNat_toUInt8, UInt64.toNat_and, UInt64.toNat_shiftRight, UInt8.toNat_ofNat',
      Nat.mod_eq_of_lt hshift, Nat.shiftRight_eq_div_pow]
    change (_ &&& 2 ^ 8 - 1) % 2 ^ 8 = _
    rw [Nat.and_two_pow_sub_one_eq_mod, Nat.mod_mod]
  simp only [writeUint64BigEndian, toBeBytes, map_cons, map_nil, nil_append,
    cons_append, Nat.div_div_eq_div_mul]
  refine congrArg₂ List.cons (hdigit 56 (by decide) _ rfl) ?_
  refine congrArg₂ List.cons (hdigit 48 (by decide) _ rfl) ?_
  refine congrArg₂ List.cons (hdigit 40 (by decide) _ rfl) ?_
  refine congrArg₂ List.cons (hdigit 32 (by decide) _ rfl) ?_
  refine congrArg₂ List.cons (hdigit 24 (by decide) _ rfl) ?_
  refine congrArg₂ List.cons (hdigit 16 (by decide) _ rfl) ?_
  refine congrArg₂ List.cons (hdigit 8 (by decide) _ rfl) ?_
  exact congrArg₂ List.cons (hdigit 0 (by decide) _ (Nat.div_one _)) rfl

theorem holds_decode {Frame : Type} {headerLen : Nat} {frameType : UInt8}
    {fields : Bytes → Checked Frame} {rest : Bytes} {frame : Frame}
    (long : headerLen ≤ rest.length + 1)
    (reads : Holds (fun read => read = frame) (fields (frameType :: rest))) :
    Holds (fun decoded => decoded = .ok frame)
      (decode headerLen frameType fields (frameType :: rest)) := by
  unfold decode
  rw [if_neg (by rw [length_cons]; omega)]
  refine (holds_get (by simp)).bind ?_
  rintro _ rfl
  rw [if_neg (by simp)]
  refine reads.bind ?_
  rintro _ rfl
  exact .pure rfl

def Refused {Error Frame : Type} (decoded : Checked (Except Error Frame)) : Prop :=
  Holds (fun result => ∃ error, result = .error error) decoded

theorem refused_decode {Frame : Type} {headerLen : Nat} {frameType : UInt8}
    {fields : Bytes → Checked Frame} {bytes : Bytes} (positive : 0 < headerLen)
    (bad : bytes.length < headerLen ∨ bytes.head? ≠ some frameType) :
    Refused (decode headerLen frameType fields bytes) := by
  unfold Refused decode
  refine .ite (fun _ => .pure ⟨_, rfl⟩) fun long => ?_
  cases bytes with
  | nil => exact absurd positive long
  | cons first rest =>
    refine (holds_get (by simp)).bind ?_
    rintro _ rfl
    refine .ite (fun _ => .pure ⟨_, rfl⟩) fun same => ?_
    rcases bad with hshort | hother
    · exact absurd hshort long
    · exact absurd (congrArg some (not_not.mp same)) hother

theorem refused_readBinaryFrame {payload : Bytes}
    (bad : payload.length < 9 ∨ payload.head? ≠ some 0x01) : Refused (readBinaryFrame payload) := by
  unfold Refused readBinaryFrame
  cases payload with
  | nil => exact .pure ⟨_, rfl⟩
  | cons first rest =>
    rw [if_neg (by simp)]
    refine (holds_get (by simp)).bind ?_
    rintro _ rfl
    refine .ite (fun _ => .pure ⟨_, rfl⟩) fun same => ?_
    refine .ite (fun _ => .pure ⟨_, rfl⟩) fun long => ?_
    rcases bad with hshort | hother
    · exact absurd hshort long
    · exact absurd (congrArg some (not_not.mp same)) hother

/-- The fields after the type byte of a frame that names its terminal. -/
theorem holds_named {Frame : Type} (make : Uuid → Nat → Bytes → Frame) (frameType : UInt8)
    (terminalId : Uuid) (number : UInt64) (payload : Bytes) :
    Holds (fun frame => frame = make terminalId number.toNat payload) (do
      let uuidBytes ← readRange (header frameType terminalId number ++ payload) 1 17
      let digits ← readRange (header frameType terminalId number ++ payload) 17 25
      let rest ← readRange (header frameType terminalId number ++ payload) 25
        (header frameType terminalId number ++ payload).length
      pure (make (BitVec.ofNat 128 (fromBeBytes uuidBytes)) (fromBeBytes digits) rest)) := by
  have hterminal : fromBeBytes (toBeBytes 16 terminalId.toNat) = terminalId.toNat :=
    fromBeBytes_toBeBytes terminalId.isLt
  have hnumber : fromBeBytes (toBeBytes 8 number.toNat) = number.toNat :=
    fromBeBytes_toBeBytes number.toNat_lt
  have huuid := holds_readRange_append [frameType] (toBeBytes 16 terminalId.toNat)
    (toBeBytes 8 number.toNat ++ payload)
  have hdigits := holds_readRange_append (frameType :: toBeBytes 16 terminalId.toNat)
    (toBeBytes 8 number.toNat) payload
  have hrest := holds_readRange_append (header frameType terminalId number) payload []
  rw [append_nil, ← length_append] at hrest
  simp only [header, length_cons, length_append, length_toBeBytes, cons_append,
    nil_append, append_assoc, length_nil] at huuid hdigits hrest ⊢
  refine huuid.bind ?_
  rintro _ rfl
  refine hdigits.bind ?_
  rintro _ rfl
  refine hrest.bind ?_
  rintro _ rfl
  rw [hterminal, hnumber, BitVec.ofNat_toNat, BitVec.setWidth_eq]
  exact .pure rfl

theorem holds_decodePublisherFrame (terminalId : Uuid) (expectedOffset : UInt64) (payload : Bytes) :
    Holds (fun decoded => decoded = .ok ⟨terminalId, expectedOffset.toNat, payload⟩)
      (decodePublisherFrame (encodeOutputFrame terminalId expectedOffset payload)) := by
  refine holds_decode ?_ (holds_named PublisherOutputFrame.mk _ terminalId expectedOffset payload)
  simp only [publisherHeaderLen, append_eq, length_append, length_toBeBytes]
  omega

theorem holds_decodeInputFrame (terminalId : Uuid) (relaySequence : UInt64) (payload : Bytes) :
    Holds (fun decoded => decoded = .ok ⟨terminalId, relaySequence.toNat, payload⟩)
      (decodeInputFrame (encodePublisherInputFrame terminalId relaySequence payload)) := by
  refine holds_decode ?_ (holds_named InputFrame.mk _ terminalId relaySequence payload)
  simp only [publisherInputHeaderLen, append_eq, length_append, length_toBeBytes]
  omega

theorem holds_decodeMirrorInputFrame (clientSequence : UInt64) (payload : Bytes) :
    Holds (fun decoded => decoded = .ok ⟨clientSequence.toNat, payload⟩)
      (decodeMirrorInputFrame (inputFrame clientSequence payload)) := by
  have hnumber : fromBeBytes (toBeBytes 8 clientSequence.toNat) = clientSequence.toNat :=
    fromBeBytes_toBeBytes clientSequence.toNat_lt
  have hdigits := holds_readRange_append [frameTypeInput] (toBeBytes 8 clientSequence.toNat) payload
  have hrest := holds_readRange_append (frameTypeInput :: toBeBytes 8 clientSequence.toNat) payload []
  unfold decodeMirrorInputFrame inputFrame
  rw [writeUint64BigEndian_eq]
  refine holds_decode ?_ ?_
  · simp [mirrorInputHeaderLen]
  · simp only [length_cons, length_append, length_toBeBytes, cons_append,
      nil_append, append_nil, length_nil, mirrorInputHeaderLen] at hdigits hrest ⊢
    refine hdigits.bind ?_
    rintro _ rfl
    rw [show 8 + payload.length + 1 = 8 + 1 + payload.length by omega]
    refine hrest.bind ?_
    rintro _ rfl
    rw [hnumber]
    exact .pure rfl

theorem holds_readBinaryFrame {startOffset : UInt64} {payload : Bytes} (nonempty : payload ≠ [])
    (fits : startOffset.toNat + payload.length < 2 ^ 64) :
    Holds (fun read => read = .ok (startOffset, payload))
      (readBinaryFrame (encodeMirrorFrame startOffset payload)) := by
  have hpositive := length_pos_iff.mpr nonempty
  have hlength : (toBeBytes 8 startOffset.toNat).length = 8 := length_toBeBytes _ _
  have hstart : readUint64BigEndian (toBeBytes 8 startOffset.toNat) = startOffset := by
    apply UInt64.toNat_inj.mp
    rw [readUint64BigEndian_eq _ (Nat.le_of_eq hlength)]
    exact fromBeBytes_toBeBytes startOffset.toNat_lt
  have hdigits := holds_readRange_append [frameTypeOutput] (toBeBytes 8 startOffset.toNat) payload
  have hrest := holds_readRange_append (frameTypeOutput :: toBeBytes 8 startOffset.toNat) payload []
  unfold readBinaryFrame encodeMirrorFrame
  rw [if_neg (by simp)]
  refine (holds_get (by simp; omega)).bind ?_
  rintro _ rfl
  rw [if_neg (by simp [frameTypeOutput]), if_neg (by simp), if_neg (by simp; omega)]
  simp only [length_cons, length_append, length_toBeBytes, cons_append,
    nil_append, append_nil, length_nil] at hdigits hrest ⊢
  refine hdigits.bind ?_
  rintro _ rfl
  rw [show 8 + payload.length + 1 = 8 + 1 + payload.length by omega]
  refine hrest.bind ?_
  rintro _ rfl
  rw [hstart, if_neg]
  · exact .pure rfl
  · rw [UInt64.lt_iff_toNat_lt, UInt64.toNat_add, UInt64.toNat_ofNat']
    omega

/-- Each decoder inverts the encoder of the other end, and refuses what is shorter than its
header or of another type, without an access outside the bytes. -/
theorem binary_frames_agree (terminalId : Uuid) (number : UInt64) {payload : Bytes}
    (nonempty : payload ≠ []) :
    Holds (fun decoded => decoded = .ok ⟨terminalId, number.toNat, payload⟩)
        (decodePublisherFrame (encodeOutputFrame terminalId number payload)) ∧
      Holds (fun decoded => decoded = .ok ⟨terminalId, number.toNat, payload⟩)
        (decodeInputFrame (encodePublisherInputFrame terminalId number payload)) ∧
      Holds (fun decoded => decoded = .ok ⟨number.toNat, payload⟩)
        (decodeMirrorInputFrame (inputFrame number payload)) ∧
      (number.toNat + payload.length < 2 ^ 64 →
        Holds (fun read => read = .ok (number, payload))
          (readBinaryFrame (encodeMirrorFrame number payload)) ∧
        ∀ session : MirrorSession, session.nextExpectedOffset = number.toNat →
          Holds (fun handled => handled.2 = (some (.output number.toNat payload), true))
            (handleBinaryFrame session (encodeMirrorFrame number payload))) ∧
      ∀ bytes : Bytes,
        ((bytes.length < 25 ∨ bytes.head? ≠ some 0x01) → Refused (decodePublisherFrame bytes)) ∧
        ((bytes.length < 25 ∨ bytes.head? ≠ some 0x02) → Refused (decodeInputFrame bytes)) ∧
        ((bytes.length < 9 ∨ bytes.head? ≠ some 0x02) → Refused (decodeMirrorInputFrame bytes)) ∧
        ((bytes.length < 9 ∨ bytes.head? ≠ some 0x01) → Refused (readBinaryFrame bytes)) := by
  refine ⟨holds_decodePublisherFrame _ _ _, holds_decodeInputFrame _ _ _,
    holds_decodeMirrorInputFrame _ _, ?_, ?_⟩
  · intro fits
    refine ⟨holds_readBinaryFrame nonempty fits, ?_⟩
    intro session hexpected
    refine (holds_readBinaryFrame nonempty fits).bind ?_
    rintro _ rfl
    refine .pure ?_
    have hpositive := length_pos_iff.mpr nonempty
    simp only [MirrorSession.handleBinaryFrame, hexpected]
    rw [if_neg nonempty, if_neg (by omega), if_neg (by omega), if_neg (by omega), Nat.sub_self,
      drop_zero]
  · exact fun bytes => ⟨refused_decode (by decide), refused_decode (by decide),
      refused_decode (by decide), refused_readBinaryFrame⟩

theorem binary_frames_agree_last_offset :
    Holds (fun read => read = .ok (0xFFFFFFFFFFFFFFFE, [0x61]))
      (readBinaryFrame (encodeMirrorFrame 0xFFFFFFFFFFFFFFFE [0x61])) := by
  obtain ⟨-, -, -, hread, -⟩ :=
    binary_frames_agree 7 0xFFFFFFFFFFFFFFFE (cons_ne_nil 0x61 [])
  exact (hread (by simp)).1

end Hypeterm.Android.BinaryFrames
