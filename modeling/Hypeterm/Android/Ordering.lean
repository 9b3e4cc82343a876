import Hypeterm.Library.BigEndian
import Hypeterm.Library.Stream
import Hypeterm.Android.Mirror

/-! What a mirror connection emits. Whatever comes, in whatever order, the output since the last
subscription or gap goes on without a hole or a repetition. -/
namespace Hypeterm.Android

open Library List

inductive OutputFrameError where
  | empty
  | unknownType
  | truncated
  | zeroLength
  | offsetOverflows
  | skipped (expected start : Nat)

namespace OutputFrameError

def message : OutputFrameError → String
  | .empty => "empty binary frame"
  | .unknownType => "unknown binary frame type"
  | .truncated => "truncated output frame"
  | .zeroLength => "zero-length output frame"
  | .offsetOverflows => "output frame offset overflows"
  | .skipped expected start =>
      "output stream skipped from " ++ toString expected ++ " to " ++ toString start

def code : OutputFrameError → Option String
  | .unknownType => some "invalid_message"
  | .skipped _ _ => some "offset_gap"
  | _ => none

end OutputFrameError

def decodeOutputFrame (payload : Bytes) : Except OutputFrameError (Nat × Bytes) :=
  match payload with
  | [] => .error .empty
  | kind :: rest =>
      if kind ≠ 0x01 then .error .unknownType
      else if payload.length < 9 then .error .truncated
      else if payload.length = 9 then .error .zeroLength
      else .ok (fromBeBytes (rest.take 8), rest.drop 8)

/-- Offsets and lengths are 64-bit, so their sum is checked by whether it has wrapped. -/
def MirrorSession.handleBinaryPayload (session : MirrorSession) (payload : Bytes) :
    Except OutputFrameError (MirrorSession × Option MirrorEvent) :=
  match decodeOutputFrame payload with
  | .error error => .error error
  | .ok (start, data) =>
      let stop := (start + data.length) % 2 ^ 64
      if stop < start then .error .offsetOverflows
      else if session.nextExpectedOffset < start then
        .error (.skipped session.nextExpectedOffset start)
      else if stop ≤ session.nextExpectedOffset then .ok (session, none)
      else
        .ok ({ session with nextExpectedOffset := stop }, some (.output session.nextExpectedOffset
            (data.drop (session.nextExpectedOffset - start))))

theorem decodeOutputFrame_bounds {payload data : Bytes} {start : Nat}
    (sized : payload.length < 2 ^ 64) (decoded : decodeOutputFrame payload = .ok (start, data)) :
    start < 2 ^ 64 ∧ 0 < data.length ∧ data.length < 2 ^ 64 := by
  unfold decodeOutputFrame at decoded
  split at decoded
  · cases decoded
  · rename_i kind rest
    split at decoded
    · cases decoded
    · split at decoded
      · cases decoded
      · split at decoded
        · cases decoded
        · rename_i hlong hexact
          simp only [length_cons] at hlong hexact sized
          cases decoded
          rw [length_drop]
          have hwidth : (rest.take 8).length = 8 := by
            rw [length_take]
            omega
          have hstart := fromBeBytes_lt (rest.take 8)
          rw [hwidth] at hstart
          exact ⟨hstart, by omega, by omega⟩

theorem wraps_iff {start length : Nat} (hstart : start < 2 ^ 64) (hlength : length < 2 ^ 64) :
    (start + length) % 2 ^ 64 < start ↔ 2 ^ 64 ≤ start + length := by
  omega

theorem handleBinaryPayload_decoded {session : MirrorSession} {payload data : Bytes} {start : Nat}
    (sized : payload.length < 2 ^ 64) (decoded : decodeOutputFrame payload = .ok (start, data)) :
    session.handleBinaryFrame start data =
      match session.handleBinaryPayload payload with
      | .error _ => (session, none, false)
      | .ok (after, event) => (after, event, true) := by
  obtain ⟨hstart, hpos, hlength⟩ := decodeOutputFrame_bounds sized decoded
  have hsome : data ≠ [] := length_pos_iff.mp hpos
  unfold MirrorSession.handleBinaryFrame MirrorSession.handleBinaryPayload
  rw [decoded, if_neg hsome]
  simp only [wraps_iff hstart hlength]
  by_cases hoverflow : 2 ^ 64 ≤ start + data.length
  · rw [if_pos hoverflow, if_pos hoverflow]
  · rw [if_neg hoverflow, if_neg hoverflow, Nat.mod_eq_of_lt (Nat.not_le.mp hoverflow)]
    split
    · rfl
    · split
      · rfl
      · rfl

/-- What comes on the connection: a control message, one that leaves the session as it is (a
ping, an unknown or unreadable message), or a binary frame. -/
inductive Inbound where
  | control (message : ServerMessage)
      (text : ∀ startOffset payload, message ≠ .output startOffset payload)
  | other
  | binary (payload : Bytes) (sized : payload.length < 2 ^ 64)

/-- A session and what it has emitted and received since its last subscription or gap, which
put it at `start`. -/
structure Reception where
  session : MirrorSession
  start : Nat
  outputs : List (Nat × Bytes)
  frames : List Bytes
  subscriptions : Nat

namespace Reception

def begin (session : MirrorSession) : Reception :=
  ⟨session, session.nextExpectedOffset, [], [], 0⟩

def afterMessage (reception : Reception) : MirrorSession × Option MirrorEvent × Bool → Reception
  | (session, some (.subscribed info), _) =>
      ⟨session, info.replayStartOffset, [], [], reception.subscriptions + 1⟩
  | (session, some (.gap availableFrom), _) =>
      ⟨session, availableFrom, [], [], reception.subscriptions⟩
  | (session, _, _) => { reception with session }

def afterFrame (reception : Reception) (payload : Bytes) :
    Except OutputFrameError (MirrorSession × Option MirrorEvent) → Reception
  | .ok (session, some (.output startOffset fresh)) =>
      { reception with
        session
        frames := reception.frames ++ [payload]
        outputs := reception.outputs ++ [(startOffset, fresh)] }
  | .ok (session, _) => { reception with session, frames := reception.frames ++ [payload] }
  | .error _ => { reception with frames := reception.frames ++ [payload] }

def receive (reception : Reception) : Inbound → Reception
  | .control message _ => reception.afterMessage (reception.session.handleMessage message)
  | .other => reception
  | .binary payload _ =>
      reception.afterFrame payload (reception.session.handleBinaryPayload payload)

theorem receive_binary (reception : Reception) (payload : Bytes) (sized : payload.length < 2 ^ 64) :
    reception.receive (.binary payload sized) =
      reception.afterFrame payload (reception.session.handleBinaryPayload payload) := rfl

def receiveAll (reception : Reception) (inbound : List Inbound) : Reception :=
  inbound.foldl receive reception

end Reception

/-- Outputs without a hole or a repetition, from one offset to another. -/
def FollowOn : Nat → List (Nat × Bytes) → Nat → Prop
  | start, [], stop => start = stop
  | start, (offset, payload) :: rest, stop =>
      offset = start ∧ payload ≠ [] ∧ FollowOn (start + payload.length) rest stop

/-- A frame that can be read holds what the stream has where it says. -/
def Agrees (stream : Bytes) (frame : Bytes) : Prop :=
  ∀ start data, decodeOutputFrame frame = .ok (start, data) →
    start + data.length ≤ stream.length ∧ data = slice stream start (start + data.length)

theorem FollowOn.le {start stop : Nat} {outputs : List (Nat × Bytes)}
    (follow : FollowOn start outputs stop) : start ≤ stop := by
  induction outputs generalizing start with
  | nil => exact Nat.le_of_eq follow
  | cons output rest ih => exact Nat.le_trans (Nat.le_add_right _ _) (ih follow.2.2)

theorem FollowOn.concat {start stop : Nat} {outputs : List (Nat × Bytes)} {payload : Bytes}
    (follow : FollowOn start outputs stop) (some_output : payload ≠ []) :
    FollowOn start (outputs ++ [(stop, payload)]) (stop + payload.length) := by
  induction outputs generalizing start with
  | nil =>
    cases (follow : start = stop)
    exact ⟨rfl, some_output, rfl⟩
  | cons output rest ih => exact ⟨follow.1, follow.2.1, ih follow.2.2⟩

/-- What becomes of a frame.  One that cannot be read, that overflows or that jumps forward is
refused; one that holds nothing new changes nothing; of any other, what is new is emitted. -/
inductive FrameOutcome (session : MirrorSession) (payload : Bytes) :
    Except OutputFrameError (MirrorSession × Option MirrorEvent) → Prop
  | refused (error : OutputFrameError)
      (because : ∀ start data, decodeOutputFrame payload = .ok (start, data) →
        2 ^ 64 ≤ start + data.length ∨ session.nextExpectedOffset < start) :
      FrameOutcome session payload (.error error)
  | duplicate (start : Nat) (data : Bytes)
      (decoded : decodeOutputFrame payload = .ok (start, data))
      (fits : start + data.length < 2 ^ 64)
      (known : start + data.length ≤ session.nextExpectedOffset) :
      FrameOutcome session payload (.ok (session, none))
  | fresh (start : Nat) (data : Bytes)
      (decoded : decodeOutputFrame payload = .ok (start, data))
      (fits : start + data.length < 2 ^ 64)
      (reaches : start ≤ session.nextExpectedOffset)
      (beyond : session.nextExpectedOffset < start + data.length) :
      FrameOutcome session payload
        (.ok ({ session with nextExpectedOffset := start + data.length },
          some (.output session.nextExpectedOffset
            (data.drop (session.nextExpectedOffset - start)))))

theorem frame_outcome (session : MirrorSession) {payload : Bytes} (sized : payload.length < 2 ^ 64) :
    FrameOutcome session payload (session.handleBinaryPayload payload) := by
  unfold MirrorSession.handleBinaryPayload
  cases hdecoded : decodeOutputFrame payload with
  | error error =>
    apply FrameOutcome.refused
    intro start data decoded
    rw [hdecoded] at decoded
    cases decoded
  | ok frame =>
    obtain ⟨start, data⟩ := frame
    obtain ⟨hstart, hpos, hlength⟩ := decodeOutputFrame_bounds sized hdecoded
    simp only [wraps_iff hstart hlength]
    split
    · rename_i hoverflow
      apply FrameOutcome.refused
      intro other otherData decoded
      rw [hdecoded] at decoded
      cases decoded
      exact .inl hoverflow
    · rename_i hfits
      have hfits := Nat.not_le.mp hfits
      rw [Nat.mod_eq_of_lt hfits]
      split
      · rename_i hjump
        apply FrameOutcome.refused
        intro other otherData decoded
        rw [hdecoded] at decoded
        cases decoded
        exact .inr hjump
      · rename_i hreaches
        split
        · rename_i hknown
          exact FrameOutcome.duplicate start data hdecoded hfits hknown
        · rename_i hbeyond
          exact FrameOutcome.fresh start data hdecoded hfits (Nat.not_lt.mp hreaches)
            (Nat.not_le.mp hbeyond)

namespace Reception

/-- What was emitted since `start` goes on from there to the offset expected next, and is the
stream's if all the frames received are. -/
structure InOrder (reception : Reception) : Prop where
  followOn : FollowOn reception.start reception.outputs reception.session.nextExpectedOffset
  content : ∀ stream : Bytes, (∀ frame ∈ reception.frames, Agrees stream frame) →
    (reception.outputs.map Prod.snd).flatten =
      slice stream reception.start reception.session.nextExpectedOffset

theorem InOrder.marked (session : MirrorSession) {start subscriptions : Nat}
    (expects : session.nextExpectedOffset = start) :
    InOrder ⟨session, start, [], [], subscriptions⟩ where
  followOn := expects.symm
  content := by
    intro stream _
    rw [expects, slice_self]
    rfl

/-- What becomes of a control message: it subscribes, it announces a gap, or it leaves the
offset expected next as it is.  Only the first may lower the durable offset. -/
inductive MessageOutcome (reception : Reception) : Reception → Prop
  | subscribed (info : SubscribedInfo) (after : MirrorSession)
      (expects : after.nextExpectedOffset = info.replayStartOffset) :
      MessageOutcome reception
        ⟨after, info.replayStartOffset, [], [], reception.subscriptions + 1⟩
  | gap (availableFrom : Nat) (after : MirrorSession)
      (expects : after.nextExpectedOffset = availableFrom)
      (durable : after.durableOffset = reception.session.durableOffset) :
      MessageOutcome reception ⟨after, availableFrom, [], [], reception.subscriptions⟩
  | unmarked (after : MirrorSession)
      (expects : after.nextExpectedOffset = reception.session.nextExpectedOffset)
      (durable : reception.session.durableOffset ≤ after.durableOffset) :
      MessageOutcome reception { reception with session := after }

variable (reception : Reception)

theorem message_outcome (message : ServerMessage)
    (text : ∀ startOffset payload, message ≠ .output startOffset payload) :
    MessageOutcome reception (reception.receive (.control message text)) := by
  have hsame : MessageOutcome reception { reception with session := reception.session } :=
    MessageOutcome.unmarked _ rfl (Nat.le_refl _)
  cases message with
  | ready => exact hsame
  | subscribed info =>
    unfold receive MirrorSession.handleMessage MirrorSession.handleSubscribed
    by_cases hrefused : info.nextOffset < info.replayStartOffset ∨
        info.nextOffset < info.durableOffset
    · simp only [if_pos hrefused]
      exact MessageOutcome.unmarked _ rfl (Nat.le_refl _)
    · simp only [if_neg hrefused]
      exact MessageOutcome.subscribed info _ rfl
  | gap requestedFrom availableFrom => exact MessageOutcome.gap availableFrom _ rfl rfl
  | durable offset => exact MessageOutcome.unmarked _ rfl (Nat.le_max_left _ _)
  | resize columns rows =>
    unfold receive MirrorSession.handleMessage
    by_cases hempty : columns = 0 ∨ rows = 0
    · simp only [if_pos hempty]
      exact hsame
    · simp only [if_neg hempty]
      exact MessageOutcome.unmarked _ rfl (Nat.le_refl _)
  | closed => exact hsame
  | inputAck => exact hsame
  | error code => exact hsame
  | notice => exact hsame
  | output startOffset payload => exact absurd rfl (text startOffset payload)

theorem InOrder.receive {reception : Reception} (inOrder : reception.InOrder) (inbound : Inbound) :
    (reception.receive inbound).InOrder := by
  cases inbound with
  | control message text =>
    have houtcome := message_outcome reception message text
    generalize reception.receive (.control message text) = next at houtcome ⊢
    cases houtcome with
    | subscribed info after expects => exact InOrder.marked after expects
    | gap availableFrom after expects durable => exact InOrder.marked after expects
    | unmarked after expects durable =>
      constructor
      · simp only [expects]
        exact inOrder.followOn
      · simp only [expects]
        exact inOrder.content
  | other => exact inOrder
  | binary payload sized =>
    have hbefore : ∀ stream : Bytes, (∀ frame ∈ reception.frames ++ [payload], Agrees stream frame) →
        (∀ frame ∈ reception.frames, Agrees stream frame) ∧ Agrees stream payload := by
      intro stream agree
      constructor
      · exact fun frame member => agree frame (mem_append_left _ member)
      · exact agree payload (mem_append_right _ (mem_singleton_self _))
    have houtcome := frame_outcome reception.session sized
    rw [receive_binary]
    generalize reception.session.handleBinaryPayload payload = outcome at houtcome ⊢
    cases houtcome with
    | refused error because =>
      exact ⟨inOrder.followOn, fun stream agree => inOrder.content stream (hbefore stream agree).1⟩
    | duplicate start data decoded fits known =>
      exact ⟨inOrder.followOn, fun stream agree => inOrder.content stream (hbefore stream agree).1⟩
    | fresh start data decoded fits reaches beyond =>
      have hlength : (data.drop (reception.session.nextExpectedOffset - start)).length =
          start + data.length - reception.session.nextExpectedOffset := by
        rw [length_drop]
        omega
      constructor
      · have hsome : data.drop (reception.session.nextExpectedOffset - start) ≠ [] := by
          apply ne_nil_of_length_pos
          omega
        have hfollow := inOrder.followOn.concat hsome
        rw [hlength, Nat.add_sub_cancel' (Nat.le_of_lt beyond)] at hfollow
        exact hfollow
      · intro stream agree
        obtain ⟨hold, hpayload⟩ := hbefore stream agree
        obtain ⟨-, hdata⟩ := hpayload start data decoded
        have hfresh : data.drop (reception.session.nextExpectedOffset - start) =
            slice stream reception.session.nextExpectedOffset (start + data.length) := by
          conv_lhs => rw [hdata]
          rw [drop_slice, Nat.add_sub_cancel' reaches]
        simp only [afterFrame]
        rw [map_append, flatten_append, inOrder.content stream hold]
        simp only [map_cons, map_nil, flatten_singleton]
        rw [hfresh]
        exact slice_append_slice stream inOrder.followOn.le (Nat.le_of_lt beyond)

theorem durable_receive (inbound : Inbound) :
    reception.subscriptions < (reception.receive inbound).subscriptions ∨
      reception.subscriptions = (reception.receive inbound).subscriptions ∧
        reception.session.durableOffset ≤ (reception.receive inbound).session.durableOffset := by
  cases inbound with
  | control message text =>
    have houtcome := message_outcome reception message text
    generalize reception.receive (.control message text) = next at houtcome ⊢
    cases houtcome with
    | subscribed info after expects => exact .inl (Nat.lt_succ_self _)
    | gap availableFrom after expects durable => exact .inr ⟨rfl, Nat.le_of_eq durable.symm⟩
    | unmarked after expects durable => exact .inr ⟨rfl, durable⟩
  | other => exact .inr ⟨rfl, Nat.le_refl _⟩
  | binary payload sized =>
    have houtcome := frame_outcome reception.session sized
    rw [receive_binary]
    generalize reception.session.handleBinaryPayload payload = outcome at houtcome ⊢
    cases houtcome with
    | refused error because => exact .inr ⟨rfl, Nat.le_refl _⟩
    | duplicate start data decoded fits known => exact .inr ⟨rfl, Nat.le_refl _⟩
    | fresh start data decoded fits reaches beyond => exact .inr ⟨rfl, Nat.le_refl _⟩

theorem receiveAll_append (earlier later : List Inbound) :
    reception.receiveAll (earlier ++ later) = (reception.receiveAll earlier).receiveAll later :=
  foldl_append

theorem inOrder_receiveAll {reception : Reception} (inOrder : reception.InOrder)
    (inbound : List Inbound) : (reception.receiveAll inbound).InOrder := by
  induction inbound generalizing reception with
  | nil => exact inOrder
  | cons first rest ih => exact ih (inOrder.receive first)

theorem durable_receiveAll (inbound : List Inbound) :
    reception.subscriptions < (reception.receiveAll inbound).subscriptions ∨
      reception.subscriptions = (reception.receiveAll inbound).subscriptions ∧
        reception.session.durableOffset ≤ (reception.receiveAll inbound).session.durableOffset := by
  induction inbound generalizing reception with
  | nil => exact .inr ⟨rfl, Nat.le_refl _⟩
  | cons first rest ih =>
    have hfirst := durable_receive reception first
    have hrest := ih (reception.receive first)
    change _ < ((reception.receive first).receiveAll rest).subscriptions ∨ _
    change _ ∨ _ = ((reception.receive first).receiveAll rest).subscriptions ∧
      _ ≤ ((reception.receive first).receiveAll rest).session.durableOffset
    omega

/-- From any session and for whatever comes: the output since the last subscription or gap
starts where that one said and goes on without a hole or a repetition; it is the stream's
when the frames are; of each frame just what is new counts, and one that is refused changes
nothing; and while a subscription lasts, what is durable stays so. -/
theorem emits_once_in_order (session : MirrorSession) (inbound : List Inbound) :
    let reception := (begin session).receiveAll inbound
    FollowOn reception.start reception.outputs reception.session.nextExpectedOffset ∧
    (∀ stream : Bytes, (∀ frame ∈ reception.frames, Agrees stream frame) →
      (reception.outputs.map Prod.snd).flatten =
        slice stream reception.start reception.session.nextExpectedOffset) ∧
    (∀ payload : Bytes, ∀ sized : payload.length < 2 ^ 64,
      FrameOutcome reception.session payload (reception.session.handleBinaryPayload payload) ∧
        ∀ error, reception.session.handleBinaryPayload payload = .error error →
          (reception.receive (.binary payload sized)).session = reception.session ∧
            (reception.receive (.binary payload sized)).outputs = reception.outputs) ∧
    (∀ info text, info.replayStartOffset ≤ info.nextOffset → info.durableOffset ≤ info.nextOffset →
      (reception.receive (.control (.subscribed info) text)).start = info.replayStartOffset ∧
        (reception.receive (.control (.subscribed info) text)).outputs = []) ∧
    (∀ requestedFrom availableFrom text,
      (reception.receive (.control (.gap requestedFrom availableFrom) text)).start =
          availableFrom ∧
        (reception.receive (.control (.gap requestedFrom availableFrom) text)).outputs = []) ∧
    ∀ earlier later, inbound = earlier ++ later →
      ((begin session).receiveAll earlier).subscriptions = reception.subscriptions →
        ((begin session).receiveAll earlier).session.durableOffset ≤
          reception.session.durableOffset := by
  intro reception
  have hinOrder : reception.InOrder := inOrder_receiveAll (InOrder.marked session rfl) inbound
  refine ⟨hinOrder.followOn, hinOrder.content, ?_, ?_, ?_, ?_⟩
  · intro payload sized
    constructor
    · exact frame_outcome _ sized
    · intro error refused
      rw [receive_binary, refused]
      exact ⟨rfl, rfl⟩
  · intro info text reaches durable
    have haccepted : ¬ (info.nextOffset < info.replayStartOffset ∨
        info.nextOffset < info.durableOffset) := by omega
    simp only [receive, MirrorSession.handleMessage, MirrorSession.handleSubscribed,
      if_neg haccepted, afterMessage, and_self]
  · exact fun requestedFrom availableFrom text => ⟨rfl, rfl⟩
  · intro earlier later split same
    have hreception : reception = ((begin session).receiveAll earlier).receiveAll later := by
      rw [← receiveAll_append, ← split]
    rw [hreception] at same ⊢
    rcases durable_receiveAll ((begin session).receiveAll earlier) later with hmore | hdurable
    · exact absurd same (Nat.ne_of_lt hmore)
    · exact hdurable.2

end Reception

end Hypeterm.Android
