import Hypeterm.Library.Runs
import Hypeterm.Android.WebSocket

/-! Writing frames. `SendFrame` hands a masked frame to the transport's `WriteAll`, one frame at a
time under the write mutex; `WriteAll` sends it in parts and may give up between two of them. -/
namespace Hypeterm.Android

open Library List

structure ClientFrame where
  opcode : Opcode
  mask : UInt8 × UInt8 × UInt8 × UInt8
  payload : Bytes
  whole : opcode ≠ .continuation

def maskPayload : UInt8 × UInt8 × UInt8 × UInt8 → Bytes → Bytes
  | _, [] => []
  | (byte0, byte1, byte2, byte3), byte :: rest =>
      (byte ^^^ byte0) :: maskPayload (byte1, byte2, byte3, byte0) rest

namespace ClientFrame

def lengthBytes (length : Nat) : Bytes :=
  if length < 126 then [0x80 ||| UInt8.ofNat length]
  else if length ≤ 0xFFFF then (0x80 ||| 126) :: toBeBytes 2 length
  else (0x80 ||| 127) :: toBeBytes 8 length

def maskBytes (frame : ClientFrame) : Bytes :=
  [frame.mask.1, frame.mask.2.1, frame.mask.2.2.1, frame.mask.2.2.2]

def encode (frame : ClientFrame) : Bytes :=
  (0x80 ||| frame.opcode.code) ::
    (lengthBytes frame.payload.length ++ (frame.maskBytes ++ maskPayload frame.mask frame.payload))

end ClientFrame

def encodeClientFrames (frames : List ClientFrame) : Bytes := frames.flatMap ClientFrame.encode

/-- Who sends a frame on a mirror connection. -/
inductive Sender where
  | subscribe (message : Bytes)
  | input (frame : Bytes)
  | resizeRequest (message : Bytes)
  | controlPong (message : Bytes)
  | ping
  | pong (payload : Bytes)
  | close (code : Nat) (reason : Bytes)

inductive WriteError where
  | timeout
  | cancelled
  | network
  deriving DecidableEq

namespace Sender

def opcode : Sender → Opcode
  | .subscribe _ | .resizeRequest _ | .controlPong _ => .text
  | .input _ => .binary
  | .ping => .ping
  | .pong _ => .pong
  | .close _ _ => .close

def payload : Sender → Bytes
  | .subscribe message | .resizeRequest message | .controlPong message => message
  | .input frame => frame
  | .ping => []
  | .pong payload => payload
  | .close code reason => toBeBytes 2 code ++ reason.take 120

theorem opcode_ne (sender : Sender) : sender.opcode ≠ .continuation := by
  cases sender <;> simp [opcode]

def frame (sender : Sender) (mask : UInt8 × UInt8 × UInt8 × UInt8) : ClientFrame :=
  ⟨sender.opcode, mask, sender.payload, sender.opcode_ne⟩

def isClose : Sender → Bool
  | .close _ _ => true
  | _ => false

/-- A failed subscription is dropped with its socket, and the socket is closed after the
close frame. -/
def endsConnection : Sender → Bool
  | .subscribe _ | .close _ _ => true
  | _ => false

end Sender

inductive ConnectionMode where
  | active
  | disconnecting
  | closed

/-- What becomes of the connection after the frame's write has failed.  `SendInputBytes`,
`MaybeSendResize` and `CheckHeartbeat` keep it whatever the error; what is sent from inside
`Pump` shares its status, where a timeout means that there was nothing to read. -/
def Sender.modeAfterFailure (sender : Sender) (error : WriteError) : ConnectionMode :=
  match sender with
  | .input _ | .resizeRequest _ | .ping => .active
  | .pong _ | .controlPong _ => if error = .timeout then .active else .disconnecting
  | .subscribe _ | .close _ _ => .closed

/-- A frame of which `WriteAll` has sent the first `sent` bytes. -/
structure Write where
  sender : Sender
  frame : ClientFrame
  sent : Nat

/-- `torn` tells that a `WriteAll` has failed after sending a part of its frame. -/
structure Writer where
  mode : ConnectionMode
  current : Option Write
  written : Bytes
  issued : List ClientFrame
  torn : Bool

/-- `sent` is what `send` returns; `writable` is an `EAGAIN` after which the socket becomes
writable; `fail` is a wait that times out, is interrupted or cancelled, or another error. -/
inductive WriteAction where
  | call (sender : Sender) (mask : UInt8 × UInt8 × UInt8 × UInt8)
  | sent (count : Nat)
  | writable
  | fail (error : WriteError)

namespace Writer

def initial : Writer := ⟨.active, none, [], [], false⟩

/-- A connection that is being closed sends its close frame and nothing else, and nothing is
sent on a closed one. -/
def mayCall (mode : ConnectionMode) (sender : Sender) : Bool :=
  match mode with
  | .active => true
  | .disconnecting => sender.isClose
  | .closed => false

def step (writer : Writer) : WriteAction → Option Writer
  | .call sender mask =>
      if writer.current = none ∧ mayCall writer.mode sender then
        some { writer with
          current := some ⟨sender, sender.frame mask, 0⟩
          issued := writer.issued ++ [sender.frame mask] }
      else none
  | .sent count =>
      match writer.current with
      | some write =>
          if 0 < count ∧ write.sent + count ≤ write.frame.encode.length then
            some { writer with
              mode :=
                if write.sent + count = write.frame.encode.length ∧ write.sender.isClose then .closed
                else writer.mode
              current :=
                if write.sent + count = write.frame.encode.length then none
                else some { write with sent := write.sent + count }
              written := writer.written ++ (write.frame.encode.drop write.sent).take count }
          else none
      | none => none
  | .writable =>
      match writer.current with
      | some _ => some writer
      | none => none
  | .fail error =>
      match writer.current with
      | some write =>
          some { writer with
            mode := write.sender.modeAfterFailure error
            current := none
            torn := writer.torn || decide (0 < write.sent) }
      | none => none

end Writer

structure Framed (writer : Writer) : Prop where
  frames : ∃ frames, frames.Sublist writer.issued ∧ writer.written <+: encodeClientFrames frames
  stopped : writer.torn = true → ∀ action next, writer.step action = some next →
    next.written = writer.written

def failsWhole (writer : Writer) : WriteAction → Bool
  | .fail _ =>
      match writer.current with
      | some write => decide (write.sent = 0) || write.sender.endsConnection
      | none => true
  | _ => true

/-- The frames written so far and the beginning of the current one; after a torn frame the
connection is closed. -/
structure Framing (writer : Writer) : Prop where
  whole : writer.torn = false → writer.current = none →
    ∃ frames, frames.Sublist writer.issued ∧ writer.written = encodeClientFrames frames
  partway : ∀ write, writer.current = some write → writer.torn = false ∧
    write.sent ≤ write.frame.encode.length ∧
    ∃ frames, (frames ++ [write.frame]).Sublist writer.issued ∧
      writer.written = encodeClientFrames frames ++ write.frame.encode.take write.sent
  torn : writer.torn = true → writer.mode = .closed ∧
    ∃ frames, frames.Sublist writer.issued ∧ writer.written <+: encodeClientFrames frames

theorem Sender.modeAfterFailure_of_ends (sender : Sender) (ends : sender.endsConnection = true)
    (error : WriteError) : sender.modeAfterFailure error = .closed := by
  cases sender with
  | subscribe | close => rfl
  | input | resizeRequest | controlPong | ping | pong => cases ends

variable {writer next : Writer} {action : WriteAction}

theorem encodeClientFrames_concat (frames : List ClientFrame) (frame : ClientFrame) :
    encodeClientFrames (frames ++ [frame]) = encodeClientFrames frames ++ frame.encode := by
  simp [encodeClientFrames]

theorem Framing.initial : Framing Writer.initial where
  whole := fun _ _ => ⟨[], Sublist.refl _, rfl⟩
  partway := by simp [Writer.initial]
  torn := by simp [Writer.initial]

theorem Framing.step (framing : Framing writer) (allowed : failsWhole writer action = true)
    (taken : writer.step action = some next) : Framing next := by
  cases action with
  | call sender mask =>
    simp only [Writer.step] at taken
    split at taken
    · rename_i hcall
      obtain ⟨hnone, hmay⟩ := hcall
      cases taken
      have huntorn : writer.torn = false := by
        cases htorn : writer.torn with
        | false => rfl
        | true =>
          rw [(framing.torn htorn).1] at hmay
          cases hmay
      obtain ⟨frames, hsublist, hwritten⟩ := framing.whole huntorn hnone
      exact {
        whole := fun _ h => by cases h
        partway := by
          intro write hwrite
          cases hwrite
          refine ⟨huntorn, Nat.zero_le _, frames, hsublist.append (Sublist.refl _), ?_⟩
          rw [take_zero, append_nil, hwritten]
        torn := fun htorn => by
          rw [huntorn] at htorn
          cases htorn }
    · cases taken
  | sent count =>
    simp only [Writer.step] at taken
    split at taken
    · rename_i write hwrite
      obtain ⟨huntorn, hle, frames, hsublist, hwritten⟩ := framing.partway write hwrite
      split at taken
      · rename_i hcount
        cases taken
        have hgrown : writer.written ++ (write.frame.encode.drop write.sent).take count =
            encodeClientFrames frames ++ write.frame.encode.take (write.sent + count) := by
          rw [hwritten, append_assoc, take_add]
        exact {
          whole := by
            intro _ hnone
            have hall : write.sent + count = write.frame.encode.length := by
              by_contra hpart
              simp only [if_neg hpart] at hnone
              cases hnone
            refine ⟨frames ++ [write.frame], hsublist, ?_⟩
            rw [hgrown, hall, take_length, encodeClientFrames_concat]
          partway := by
            intro after hafter
            have hpart : ¬ write.sent + count = write.frame.encode.length := by
              intro hall
              simp only [if_pos hall] at hafter
              cases hafter
            simp only [if_neg hpart] at hafter
            cases hafter
            exact ⟨huntorn, hcount.2, frames, hsublist, hgrown⟩
          torn := fun htorn => by
            rw [huntorn] at htorn
            cases htorn }
      · cases taken
    · cases taken
  | writable =>
    simp only [Writer.step] at taken
    split at taken
    · cases taken
      exact framing
    · cases taken
  | fail error =>
    simp only [Writer.step] at taken
    split at taken
    · rename_i write hwrite
      cases taken
      obtain ⟨huntorn, hle, frames, hsublist, hwritten⟩ := framing.partway write hwrite
      simp only [failsWhole, hwrite] at allowed
      exact {
        whole := by
          intro hwhole _
          simp only [huntorn, Bool.false_or, decide_eq_false_iff_not, Nat.not_lt,
            Nat.le_zero] at hwhole
          refine ⟨frames, (sublist_append_left _ _).trans hsublist, ?_⟩
          rw [hwritten, hwhole, take_zero, append_nil]
        partway := fun _ h => by cases h
        torn := by
          intro htorn
          simp only [huntorn, Bool.false_or, decide_eq_true_eq] at htorn
          have hends : write.sender.endsConnection = true := by
            simp only [Bool.or_eq_true, decide_eq_true_eq] at allowed
            exact allowed.resolve_left (Nat.pos_iff_ne_zero.mp htorn)
          refine ⟨write.sender.modeAfterFailure_of_ends hends error, frames ++ [write.frame], hsublist, ?_⟩
          rw [hwritten, encodeClientFrames_concat, prefix_append_right_inj]
          exact take_prefix _ _ }
    · cases taken

theorem Framing.framed (framing : Framing writer) : Framed writer where
  frames := by
    cases htorn : writer.torn with
    | true => exact (framing.torn htorn).2
    | false =>
      cases hcurrent : writer.current with
      | none =>
        obtain ⟨frames, hsublist, hwritten⟩ := framing.whole htorn hcurrent
        exact ⟨frames, hsublist, hwritten ▸ prefix_rfl⟩
      | some write =>
        obtain ⟨-, -, frames, hsublist, hwritten⟩ := framing.partway write hcurrent
        refine ⟨frames ++ [write.frame], hsublist, ?_⟩
        rw [hwritten, encodeClientFrames_concat, prefix_append_right_inj]
        exact take_prefix _ _
  stopped := by
    intro htorn action next hstep
    have hclosed := (framing.torn htorn).1
    have hnone : writer.current = none := by
      cases hcurrent : writer.current with
      | none => rfl
      | some write =>
        rw [(framing.partway write hcurrent).1] at htorn
        cases htorn
    cases action <;> simp [Writer.step, hnone, hclosed, Writer.mayCall] at hstep

/-- In every run in which a write fails only before the first byte of its frame, or is the
last one of the connection, what is written is the beginning of whole frames. -/
theorem written_framed {actions : List WriteAction}
    (taken : run (restrict Writer.step fun writer action => failsWhole writer action = true)
      Writer.initial actions = some writer) : Framed writer := by
  have hkept : ∀ state action after, Framing state → failsWhole state action = true →
      Writer.step state action = some after → Framing after :=
    fun _ _ _ framing allowed hstep => framing.step allowed hstep
  exact (restrict_invariant hkept Framing.initial taken).framed

/-- A keystroke whose frame meets a full socket buffer and is sent in two parts, and a
ping. -/
def partedActions : List WriteAction :=
  [.call (.input [0x02, 0x61]) (1, 2, 3, 4), .sent 3, .writable, .sent 5, .call .ping (5, 6, 7, 8),
    .fail .timeout, .call .ping (5, 6, 7, 8), .sent 2]

theorem written_framed_in_partedActions :
    ∃ writer, run (restrict Writer.step fun writer action => failsWhole writer action = true)
        Writer.initial partedActions = some writer ∧
      writer.written = [0x82, 0x82, 1, 2, 3, 4, 0x03, 0x63, 0x89, 0x80] ∧ Framed writer := by
  obtain ⟨writer, hrun, hwritten⟩ : ∃ writer,
      run (restrict Writer.step fun writer action => failsWhole writer action = true)
        Writer.initial partedActions = some writer ∧
      writer.written = [0x82, 0x82, 1, 2, 3, 4, 0x03, 0x63, 0x89, 0x80] :=
    ⟨_, rfl, by decide⟩
  exact ⟨writer, hrun, hwritten, written_framed hrun⟩

/-- All but the last byte of a keystroke's frame is sent when a command wakes the wait; the
connection is kept and the next heartbeat is sent on it. -/
def tornActions : List WriteAction :=
  [.call (.input [0x02, 0x61]) (1, 2, 3, 4), .sent 7, .fail .timeout, .call .ping (5, 6, 7, 8),
    .sent 6]

theorem encode_head (frame : ClientFrame) (rest : Bytes) :
    (frame.encode ++ rest).head? ≠ some 0x80 := by
  have hwhole := frame.whole
  simp only [ClientFrame.encode, cons_append, head?_cons, ne_eq, Option.some.injEq]
  cases hopcode : frame.opcode with
  | continuation => exact absurd hopcode hwhole
  | text | binary | close | ping | pong => decide

theorem length_of_second_byte {length : Nat} {rest : Bytes}
    (second : (ClientFrame.lengthBytes length ++ rest).head? = some 0x82) : length = 2 := by
  unfold ClientFrame.lengthBytes at second
  split at second
  · rename_i hshort
    have hbyte : ∀ n < 126, (0x80 ||| UInt8.ofNat n : UInt8) = 0x82 → n = 2 := by decide
    exact hbyte length hshort (by simpa using second)
  · split at second
    all_goals
      simp only [cons_append, head?_cons, Option.some.injEq] at second
      exact absurd second (by decide)

theorem length_maskPayload (mask : UInt8 × UInt8 × UInt8 × UInt8) (payload : Bytes) :
    (maskPayload mask payload).length = payload.length := by
  induction payload generalizing mask with
  | nil => rfl
  | cons byte rest ih => simp [maskPayload, ih]

/-- The ping's first byte ends the keystroke's frame, and its second begins no frame. -/
theorem torn_frame_breaks_framing : ∃ (actions : List WriteAction) (writer : Writer),
      run Writer.step Writer.initial actions = some writer ∧
        ∀ frames, ¬ writer.written <+: encodeClientFrames frames := by
  have hrun : (run Writer.step Writer.initial tornActions).map Writer.written =
      some [0x82, 0x82, 1, 2, 3, 4, 0x03, 0x89, 0x80, 5, 6, 7, 8] := by decide
  obtain ⟨writer, hrun, hwritten⟩ := Option.map_eq_some_iff.mp hrun
  refine ⟨tornActions, writer, hrun, ?_⟩
  rintro frames ⟨more, hmore⟩
  rw [hwritten] at hmore
  cases frames with
  | nil => simp [encodeClientFrames] at hmore
  | cons first rest =>
    rw [encodeClientFrames, flatMap_cons, ClientFrame.encode] at hmore
    simp only [cons_append, List.cons.injEq, append_assoc] at hmore
    obtain ⟨-, hmore⟩ := hmore
    have hlength : first.payload.length = 2 :=
      length_of_second_byte (by rw [← hmore]; rfl)
    have hmasked : (maskPayload first.mask first.payload).length = 2 := by
      rw [length_maskPayload, hlength]
    have hbytes : ClientFrame.lengthBytes first.payload.length = [0x82] := by
      rw [hlength]
      decide
    have hdropped := congrArg (List.drop 7) hmore
    have hheader : ([0x82] ++ first.maskBytes ++ maskPayload first.mask first.payload).length = 7 := by
      simp [ClientFrame.maskBytes, hmasked]
    rw [hbytes, ← append_assoc, ← append_assoc, drop_left' hheader] at hdropped
    cases rest with
    | nil => simp at hdropped
    | cons second others =>
      refine encode_head second (others.flatMap ClientFrame.encode) ?_
      rw [← flatMap_cons, ← hdropped]
      rfl

end Hypeterm.Android
