import Hypeterm.Library.Reading
import Hypeterm.Publisher.Session

/-! The local protocol between the process that hosts a shell and the daemon that owns
the relay connection: a kind, the length of the body in four bytes, and the body. -/
namespace Hypeterm.Publisher.Ipc

open Library List

def frameControl : UInt8 := 0x01

def frameOutput : UInt8 := 0x02

def frameInput : UInt8 := 0x03

def maxFrameBytes : Nat := 1024 * 1024

/-- `io` is the end of the stream in the middle of a frame, or before one. -/
inductive IpcError where
  | io
  | tooLarge (length : Nat)
  | unknownFrame (kind : UInt8)
  | wrongDirection (kind : UInt8)
  | malformed (what : String)

inductive Frame where
  | control (payload : Bytes)
  | output (startOffset : UInt64) (bytes : Bytes)
  | input (bytes : Bytes)

def encodeFrame (kind : UInt8) (body : Bytes) : Bytes := kind :: (toBeBytes 4 body.length ++ body)

section
variable {Message : Type} (toVec : Message → Option Bytes)

def json (message : Message) : Bytes := (toVec message).getD [123, 125]

def encodeControl (message : Message) : Bytes := encodeFrame frameControl (json toVec message)

end

def encodeOutput (startOffset : UInt64) (bytes : Bytes) : Bytes :=
  encodeFrame frameOutput (toBeBytes 8 startOffset.toNat ++ bytes)

def encodeInput (bytes : Bytes) : Bytes := encodeFrame frameInput bytes

/-- The payload of a frame that was read whole.  `expectOutput` is true on the daemon's
side of a connection. -/
def decode (expectOutput : Bool) (kind : UInt8) (payload : Bytes) : Except IpcError Frame :=
  if kind = frameControl then .ok (.control payload)
  else if kind = frameOutput ∧ expectOutput then
    if payload.length < 8 then .error (.malformed "an output frame with no offset")
    else .ok (.output (UInt64.ofNat (fromBeBytes (payload.take 8))) (payload.drop 8))
  else if kind = frameInput ∧ !expectOutput then .ok (.input payload)
  else if kind = frameOutput ∨ kind = frameInput then .error (.wrongDirection kind)
  else .error (.unknownFrame kind)

def readFrame (expectOutput : Bool) : Bytes → Except IpcError (Frame × Bytes)
  | [] => .error .io
  | kind :: bytes =>
      if bytes.length < 4 then .error .io
      else
        let length := fromBeBytes (bytes.take 4)
        let rest := bytes.drop 4
        if maxFrameBytes < length then .error (.tooLarge length)
        else if rest.length < length then .error .io
        else (decode expectOutput kind (rest.take length)).map fun frame =>
          (frame, rest.drop length)

namespace Frame

def kind : Frame → UInt8
  | .control _ => frameControl
  | .output _ _ => frameOutput
  | .input _ => frameInput

def body : Frame → Bytes
  | .control payload => payload
  | .output startOffset bytes => toBeBytes 8 startOffset.toNat ++ bytes
  | .input bytes => bytes

def encode (frame : Frame) : Bytes := encodeFrame frame.kind frame.body

def goes (frame : Frame) (expectOutput : Bool) : Prop :=
  frame.kind = frameControl ∨ frame.kind = if expectOutput then frameOutput else frameInput

end Frame

theorem readFrame_encodeFrame (expectOutput : Bool) (kind : UInt8) (body rest : Bytes) :
    readFrame expectOutput (encodeFrame kind body ++ rest) =
      if maxFrameBytes < body.length % 2 ^ 32 then .error (.tooLarge (body.length % 2 ^ 32))
      else
        (decode expectOutput kind ((body ++ rest).take (body.length % 2 ^ 32))).map fun frame =>
          (frame, (body ++ rest).drop (body.length % 2 ^ 32)) := by
  have hheader : (toBeBytes 4 body.length ++ body ++ rest).take 4 = toBeBytes 4 body.length := by
    rw [append_assoc, take_left' (length_toBeBytes 4 _)]
  have hrest : (toBeBytes 4 body.length ++ body ++ rest).drop 4 = body ++ rest := by
    rw [append_assoc, drop_left' (length_toBeBytes 4 _)]
  have hlength : fromBeBytes (toBeBytes 4 body.length) = body.length % 2 ^ 32 :=
    fromBeBytes_toBeBytes_mod 4 body.length
  have hlong : ¬ (toBeBytes 4 body.length ++ body ++ rest).length < 4 := by
    simp
  have hwhole : ¬ (body ++ rest).length < body.length % 2 ^ 32 := by
    have := Nat.mod_le body.length (2 ^ 32)
    rw [length_append]
    omega
  change readFrame expectOutput (kind :: (toBeBytes 4 body.length ++ body ++ rest)) = _
  unfold readFrame
  dsimp only
  rw [if_neg hlong, hheader, hrest, hlength, if_neg hwhole]

theorem readFrame_of_le {body : Bytes} (fits : body.length ≤ maxFrameBytes) (expectOutput : Bool)
    (kind : UInt8) (rest : Bytes) :
    readFrame expectOutput (encodeFrame kind body ++ rest) =
      (decode expectOutput kind body).map fun frame => (frame, rest) := by
  have hmod : body.length % 2 ^ 32 = body.length := by
    apply Nat.mod_eq_of_lt
    unfold maxFrameBytes at fits
    omega
  rw [readFrame_encodeFrame, hmod, if_neg (by omega), take_left, drop_left]

variable {expectOutput : Bool} {frame : Frame} {startOffset : Nat} {bytes : Bytes}

theorem body_decode {kind : UInt8} {payload : Bytes}
    (decoded : decode expectOutput kind payload = .ok frame) :
    frame.body.length = payload.length := by
  unfold decode at decoded
  split at decoded
  · cases decoded
    rfl
  · split at decoded
    · split at decoded
      · cases decoded
      · rename_i hlong
        cases decoded
        simp only [Frame.body, length_append, length_toBeBytes, length_drop]
        omega
    · split at decoded
      · cases decoded
        rfl
      · split at decoded
        · cases decoded
        · cases decoded

theorem decode_body (goes : frame.goes expectOutput) :
    decode expectOutput frame.kind frame.body = .ok frame := by
  cases frame with
  | control payload => rfl
  | output startOffset bytes =>
    have hdirection : expectOutput = true := by
      rcases goes with hcontrol | hdata
      · cases hcontrol
      · cases expectOutput with
        | true => rfl
        | false => cases hdata
    have hfits : startOffset.toNat < 256 ^ 8 := startOffset.toNat_lt
    have hlong : ¬ (toBeBytes 8 startOffset.toNat ++ bytes).length < 8 := by simp
    subst hdirection
    unfold decode Frame.kind Frame.body
    dsimp only
    rw [if_neg (by decide), if_pos ⟨rfl, rfl⟩, if_neg hlong, take_left' (length_toBeBytes 8 _),
      drop_left' (length_toBeBytes 8 _), fromBeBytes_toBeBytes hfits, UInt64.ofNat_toNat]
  | input bytes =>
    have hdirection : expectOutput = false := by
      rcases goes with hcontrol | hdata
      · cases hcontrol
      · cases expectOutput with
        | true => cases hdata
        | false => rfl
    subst hdirection
    rfl

theorem decode_wrong (goes : frame.goes expectOutput) (data : frame.kind ≠ frameControl) :
    decode (!expectOutput) frame.kind frame.body = .error (.wrongDirection frame.kind) := by
  have hkind := goes.resolve_left data
  unfold decode
  rw [if_neg data, hkind]
  cases expectOutput with
  | true => rfl
  | false => rfl

theorem readFrame_encode_iff (goes : frame.goes expectOutput) (rest rest' : Bytes) :
    readFrame expectOutput (frame.encode ++ rest) = .ok (frame, rest') ↔
      frame.body.length ≤ maxFrameBytes ∧ rest' = rest := by
  constructor
  · intro hread
    have hfits : frame.body.length ≤ maxFrameBytes := by
      unfold Frame.encode at hread
      rw [readFrame_encodeFrame] at hread
      split at hread
      · cases hread
      · rename_i hwithin
        cases hdecoded : decode expectOutput frame.kind
            ((frame.body ++ rest).take (frame.body.length % 2 ^ 32)) with
        | error error =>
          rw [hdecoded] at hread
          cases hread
        | ok other =>
          rw [hdecoded] at hread
          cases hread
          have hlength := body_decode hdecoded
          rw [length_take] at hlength
          omega
    refine ⟨hfits, ?_⟩
    unfold Frame.encode at hread
    rw [readFrame_of_le hfits, decode_body goes] at hread
    cases hread
    rfl
  · rintro ⟨hfits, rfl⟩
    unfold Frame.encode
    rw [readFrame_of_le hfits, decode_body goes]
    rfl

theorem slices_chunks {size fuel : Nat} (positive : 0 < size) (enough : bytes.length ≤ fuel) :
    (∀ slice ∈ framed.go startOffset (chunks size fuel bytes),
      slice.2.length ≤ min size bytes.length) ∧
      (bytes ≠ [] → ∃ slice ∈ framed.go startOffset (chunks size fuel bytes),
        slice.2.length = min size bytes.length) := by
  induction fuel generalizing startOffset bytes with
  | zero =>
    have hempty : bytes = [] := length_eq_zero_iff.mp (Nat.le_zero.mp enough)
    refine ⟨fun slice member => ?_, fun nonempty => absurd hempty nonempty⟩
    cases member
  | succ fuel ih =>
    unfold chunks
    split
    · rename_i hempty
      refine ⟨fun slice member => ?_, fun nonempty => ?_⟩
      · cases member
      · exact absurd (List.isEmpty_iff.mp hempty) nonempty
    · rename_i hbytes
      have htake : (bytes.take size).length = min size bytes.length := length_take
      have hdrop : (bytes.drop size).length = bytes.length - size := length_drop
      obtain ⟨hrest, -⟩ := @ih (startOffset + (bytes.take size).length) (bytes.drop size) (by omega)
      constructor
      · intro slice member
        rcases mem_cons.mp member with rfl | hmember
        · exact Nat.le_of_eq htake
        · have := hrest slice hmember
          omega
      · exact fun _ => ⟨_, mem_cons_self, htake⟩

theorem framed_single {size : Nat} (nonempty : bytes ≠ [])
    (short : bytes.length ≤ size) : framed size startOffset bytes = [(startOffset, bytes)] := by
  cases bytes with
  | nil => exact absurd rfl nonempty
  | cons byte rest =>
    unfold framed
    rw [length_cons, chunks, if_neg (by simp), take_of_length_le short, drop_of_length_le short]
    cases rest with
    | nil => rfl
    | cons next rest => rfl

/-- What is sent to the side with this `expectOutput`.  A stretch of output is sliced by
what the relay advertised. -/
inductive Sent (Message : Type) : Bool → Type where
  | control {expectOutput : Bool} (message : Message) : Sent Message expectOutput
  | output (maxOutputFrameBytes startOffset : Nat) (bytes : Bytes) : Sent Message true
  | input (bytes : Bytes) : Sent Message false

namespace Sent

variable {Message : Type} {expectOutput : Bool} (toVec : Message → Option Bytes)

def slices (maxOutputFrameBytes startOffset : Nat) (bytes : Bytes) : List (Nat × Bytes) :=
  framed (max maxOutputFrameBytes 1024) startOffset bytes

def frames : Sent Message expectOutput → List Frame
  | .control message => [.control (json toVec message)]
  | .output maxOutputFrameBytes startOffset bytes =>
      (slices maxOutputFrameBytes startOffset bytes).map fun slice =>
        .output (UInt64.ofNat slice.1) slice.2
  | .input bytes => [.input bytes]

def written : Sent Message expectOutput → Bytes
  | .control message => encodeControl toVec message
  | .output maxOutputFrameBytes startOffset bytes =>
      (slices maxOutputFrameBytes startOffset bytes).flatMap fun slice =>
        encodeOutput (UInt64.ofNat slice.1) slice.2
  | .input bytes => encodeInput bytes

/-- A message or the input is within the limit, and so is the longest slice with its
offset. -/
def fits : Sent Message expectOutput → Bool
  | .control message => (json toVec message).length ≤ maxFrameBytes
  | .output maxOutputFrameBytes _ bytes =>
      min (max maxOutputFrameBytes 1024) bytes.length + 8 ≤ maxFrameBytes
  | .input bytes => bytes.length ≤ maxFrameBytes

theorem written_eq (sent : Sent Message expectOutput) :
    sent.written toVec = (sent.frames toVec).flatMap Frame.encode := by
  cases sent with
  | control message => exact (append_nil _).symm
  | output maxOutputFrameBytes startOffset bytes =>
    unfold written frames
    rw [flatMap_map]
    rfl
  | input bytes => exact (append_nil _).symm

theorem goes_of_mem {sent : Sent Message expectOutput} {frame : Frame}
    (member : frame ∈ sent.frames toVec) : frame.goes expectOutput := by
  cases sent with
  | control message =>
    rw [mem_singleton.mp member]
    exact .inl rfl
  | output maxOutputFrameBytes startOffset bytes =>
    obtain ⟨slice, -, rfl⟩ := mem_map.mp member
    exact .inr rfl
  | input bytes =>
    rw [mem_singleton.mp member]
    exact .inr rfl

theorem fits_iff (sent : Sent Message expectOutput) :
    (∀ frame ∈ sent.frames toVec, frame.body.length ≤ maxFrameBytes) ↔
      sent.fits toVec = true := by
  unfold fits frames
  cases sent with
  | control message => simp [Frame.body]
  | output maxOutputFrameBytes startOffset bytes =>
    obtain ⟨hevery, hfirst⟩ :=
      @slices_chunks startOffset bytes (max maxOutputFrameBytes 1024) bytes.length (by omega)
        (Nat.le_refl _)
    simp only [forall_mem_map, Frame.body, length_append, length_toBeBytes, decide_eq_true_eq]
    constructor
    · intro hslices
      by_cases hbytes : bytes = []
      · rw [hbytes]
        simp [maxFrameBytes]
      · obtain ⟨slice, hslice, hlength⟩ := hfirst hbytes
        have := hslices slice hslice
        omega
    · intro hfits slice hslice
      have := hevery slice hslice
      omega
  | input bytes => simp [Frame.body]

end Sent

/-- What is sent is read back frame by frame, and refused on the wrong side, exactly when
every message, slice and input fits in a frame. -/
theorem framing_lossless_iff {Message : Type} (toVec : Message → Option Bytes)
    {expectOutput : Bool} (sequence : List (Sent Message expectOutput)) :
    (readAll (readFrame expectOutput) (sequence.flatMap (Sent.written toVec)).length
          (sequence.flatMap (Sent.written toVec)) = .ok (sequence.flatMap (Sent.frames toVec)) ∧
        ∀ frame ∈ sequence.flatMap (Sent.frames toVec), frame.kind ≠ frameControl → ∀ rest,
          readFrame (!expectOutput) (frame.encode ++ rest) =
            .error (.wrongDirection frame.kind)) ↔
      ∀ sent ∈ sequence, sent.fits toVec = true := by
  have hwritten : sequence.flatMap (Sent.written toVec) =
      (sequence.flatMap (Sent.frames toVec)).flatMap Frame.encode := by
    rw [flatMap_assoc]
    exact congrArg sequence.flatMap (funext fun sent => sent.written_eq toVec)
  have hgoes : ∀ frame ∈ sequence.flatMap (Sent.frames toVec), frame.goes expectOutput := by
    intro frame member
    obtain ⟨sent, -, hframe⟩ := mem_flatMap.mp member
    exact Sent.goes_of_mem toVec hframe
  have hread := @readAll_flatMap_iff _ _ _ (readFrame expectOutput) Frame.encode
    (fun frame => frame.body.length ≤ maxFrameBytes) (sequence.flatMap (Sent.frames toVec))
    (fun frame member rest rest' => readFrame_encode_iff (hgoes frame member) rest rest')
    (fun frame => cons_ne_nil _ _) _ (Nat.le_refl _)
  have hfits : (∀ frame ∈ sequence.flatMap (Sent.frames toVec), frame.body.length ≤ maxFrameBytes) ↔
      ∀ sent ∈ sequence, sent.fits toVec = true := by
    rw [forall_mem_flatMap]
    exact forall₂_congr fun sent _ => sent.fits_iff toVec
  rw [hwritten, ← hfits, hread]
  constructor
  · exact fun both => both.1
  · intro hall
    refine ⟨hall, fun frame member data rest => ?_⟩
    unfold Frame.encode
    rw [readFrame_of_le (hall frame member), decode_wrong (hgoes frame member) data]
    rfl

theorem long_slice_refused {maxOutputFrameBytes : Nat}
    (nonempty : bytes ≠ []) (short : bytes.length ≤ maxOutputFrameBytes)
    (long : maxFrameBytes < 8 + bytes.length) (countable : 8 + bytes.length < 2 ^ 32)
    {Message : Type} (toVec : Message → Option Bytes) (fuel : Nat) :
    readAll (readFrame true) (fuel + 1)
        ((Sent.output maxOutputFrameBytes startOffset bytes).written toVec) =
      .error (.tooLarge (8 + bytes.length)) := by
  have hbody : (toBeBytes 8 (UInt64.ofNat startOffset).toNat ++ bytes).length % 2 ^ 32 =
      8 + bytes.length := by
    rw [length_append, length_toBeBytes, Nat.mod_eq_of_lt countable]
  have hwritten : (Sent.output maxOutputFrameBytes startOffset bytes).written toVec =
      encodeOutput (UInt64.ofNat startOffset) bytes ++ [] := by
    simp only [Sent.written, Sent.slices, append_nil]
    rw [framed_single nonempty (Nat.le_trans short (Nat.le_max_left _ _))]
    exact append_nil _
  have hread : readFrame true (encodeOutput (UInt64.ofNat startOffset) bytes ++ []) =
      .error (.tooLarge (8 + bytes.length)) := by
    unfold encodeOutput
    rw [readFrame_encodeFrame, hbody, if_pos long]
  have hbytes : encodeOutput (UInt64.ofNat startOffset) bytes ++ [] ≠ [] := cons_ne_nil _ _
  rw [hwritten, readAll_of_ne_nil hbytes, hread]

/-- A relay may advertise frames of eight mebibytes. -/
theorem large_slice_refused : readAll (readFrame true) 1048582
        ((Sent.output 8388608 0 (List.replicate 1048569 0)).written fun _ : Unit => none) =
      .error (.tooLarge 1048577) := by
  have hlength : (List.replicate 1048569 (0 : UInt8)).length = 1048569 := length_replicate
  have hnonempty : List.replicate 1048569 (0 : UInt8) ≠ [] := by
    intro hnil
    rw [hnil, length_nil] at hlength
    omega
  have hread := @long_slice_refused 0 _ 8388608 hnonempty (by rw [hlength]; omega)
    (by rw [hlength]; decide) (by rw [hlength]; decide) Unit (fun _ => none) 1048581
  rwa [hlength] at hread

end Hypeterm.Publisher.Ipc
