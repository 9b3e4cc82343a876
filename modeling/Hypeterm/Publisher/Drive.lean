import Hypeterm.Publisher.Stream
import Hypeterm.Publisher.Session

/-! The driver of one hosted terminal, from the side that owns its bytes.  A pass of its
loop is the statements at the top and then the one arm the `select` takes; a request it
waits to send is queued at once, since whoever takes requests sees only their order. -/
namespace Hypeterm.Publisher

open Library List

inductive Request where
  | output (startOffset : Nat) (bytes : Bytes)
  | resize (cols rows : Nat)
  | close (reason : String)
  deriving DecidableEq

/-- What the terminal's owner needs to hear about. -/
inductive Notice where
  | input (bytes : Bytes)
  | resize (cols rows : Nat)
  | ended (reason : String)
  deriving DecidableEq

inductive FromOwner where
  | output (chunk : Bytes)
  | resize (cols rows : Nat)
  deriving DecidableEq

def noticeQueue : Nat := 1024

inductive DrivePhase where
  | top
  | selecting
  | returned
  deriving DecidableEq

structure Drive where
  stream : Outgoing
  maxFrame : Nat
  ownerGone : Bool
  closed : Bool
  waiting : Option Bytes
  notices : Channel Notice
  phase : DrivePhase
  deriving DecidableEq

/-- What one part of a pass leaves and asks for.  `sent`, what it handed to the stream,
and `resync`, what the stream answered, are history. -/
structure Turn where
  drive : Drive
  requests : List Request
  sent : Bytes
  resync : Option Resync

/-- The frames of one stretch of output, contiguous across the split. -/
def sendOutput (startOffset : Nat) (bytes : Bytes) (maxFrame : Nat) : List Request :=
  (framed maxFrame startOffset bytes).map fun frame => .output frame.1 frame.2

namespace Drive

def start : Drive :=
  ⟨.new, 64 * 1024, false, false, none, Channel.new noticeQueue, .top⟩

def notify (drive : Drive) (notice : Notice) : Drive :=
  match drive.notices.trySend notice with
  | .ok notices => { drive with notices }
  | _ => drive

def applyLimits (drive : Drive) (limits : Limits) : Drive :=
  { drive with
    stream := drive.stream.setWindow limits.maxUnackedOutputBytes
    maxFrame := max limits.maxOutputFrameBytes 1024 }

/-- Send a chunk if the stream's state allows it, and hold it otherwise. -/
def offerChunk (drive : Drive) (chunk : Bytes) : Turn :=
  let held := { drive with waiting := some chunk }
  if drive.stream.maySend then
    match drive.stream.send chunk with
    | (stream, some startOffset) =>
        ⟨{ drive with stream, waiting := none }, sendOutput startOffset chunk drive.maxFrame, chunk,
          none⟩
    | (_, none) => ⟨held, [], [], none⟩
  else ⟨held, [], [], none⟩

/-- The close goes out once, when nothing is left to send or to be acknowledged. -/
def closeWhenDone (drive : Drive) : Drive × List Request :=
  if drive.ownerGone && !drive.closed && drive.waiting.isNone && drive.stream.unacked = 0 then
    ({ drive with closed := true }, [.close "process_exited"])
  else (drive, [])

def top (drive : Drive) : Turn :=
  let offered : Turn :=
    match drive.waiting with
    | some chunk => drive.offerChunk chunk
    | none => ⟨drive, [], [], none⟩
  let closing := offered.drive.closeWhenDone
  { offered with
    drive := { closing.1 with phase := .selecting }
    requests := offered.requests ++ closing.2 }

def lostPlace : String :=
  "the mirror lost its place in this terminal's output and stopped rather than show a gap"

/-- What is done with the stream's answer to `attached` and to `mismatch`. -/
def answer (drive : Drive) (resync : Resync) : Turn :=
  match resync with
  | .retransmit startOffset bytes =>
      ⟨{ drive with phase := .top }, sendOutput startOffset bytes drive.maxFrame, [], some resync⟩
  | .nothing => ⟨{ drive with phase := .top }, [], [], some resync⟩
  | .unrecoverable =>
      ⟨{ drive.notify (.ended lostPlace) with phase := .returned },
        [.close "publisher_desynchronised"], [], some resync⟩

/-- The event arm; `none` when the transport is gone. -/
def onEvent (drive : Drive) : Option Event → Turn
  | none => ⟨{ drive.notify (.ended "mirroring stopped") with phase := .returned }, [], [], none⟩
  | some (.attached _ nextOffset limits) =>
      let limited := drive.applyLimits limits
      let attached := limited.stream.attached nextOffset
      ({ limited with stream := attached.1 } : Drive).answer attached.2
  | some (.ack durableOffset) =>
      ⟨{ drive with stream := drive.stream.acknowledge durableOffset, phase := .top }, [], [], none⟩
  | some (.mismatch nextOffset) =>
      let refused := drive.stream.mismatch nextOffset
      ({ drive with stream := refused.1 } : Drive).answer refused.2
  | some .detached => ⟨{ drive with stream := drive.stream.detached, phase := .top }, [], [], none⟩
  | some (.input bytes) =>
      match drive.notices.trySend (.input bytes) with
      | .ok notices => ⟨{ drive with notices, phase := .top }, [], [], none⟩
      | _ => ⟨{ drive with phase := .returned }, [], [], none⟩
  | some (.resizeRequest cols rows) =>
      ⟨{ drive.notify (.resize cols rows) with phase := .top }, [], [], none⟩
  | some (.ended reason) =>
      ⟨{ drive.notify (.ended reason) with phase := .returned }, [], [], none⟩

/-- The owner's arm is polled while there is an owner and no chunk is held. -/
def takesOwner (drive : Drive) : Bool := !drive.ownerGone && drive.waiting.isNone

def onOwner (drive : Drive) : Option FromOwner → Turn
  | some (.output chunk) => { drive.offerChunk chunk with
      drive := { (drive.offerChunk chunk).drive with phase := .top } }
  | some (.resize cols rows) => ⟨{ drive with phase := .top }, [.resize cols rows], [], none⟩
  | none => ⟨{ drive with ownerGone := true, phase := .top }, [], [], none⟩

end Drive

def PartOf (sent : Bytes) (startOffset : Nat) (bytes : Bytes) : Prop :=
  ∃ earlier later, earlier.length = startOffset ∧ sent = earlier ++ (bytes ++ later)

namespace PartOf

variable {sent bytes : Bytes} {startOffset : Nat}

theorem append (part : PartOf sent startOffset bytes) (added : Bytes) :
    PartOf (sent ++ added) startOffset bytes := by
  obtain ⟨earlier, later, hstart, rfl⟩ := part
  exact ⟨earlier, later ++ added, hstart, by simp⟩

theorem drop (bound : startOffset ≤ sent.length) :
    PartOf sent startOffset (sent.drop startOffset) :=
  ⟨sent.take startOffset, [], length_take_of_le bound, by simp⟩

theorem last (sent chunk : Bytes) : PartOf (sent ++ chunk) sent.length chunk :=
  ⟨sent, [], rfl, by simp⟩

theorem take (part : PartOf sent startOffset bytes) (size : Nat) :
    PartOf sent startOffset (bytes.take size) := by
  obtain ⟨earlier, later, hstart, rfl⟩ := part
  refine ⟨earlier, bytes.drop size ++ later, hstart, ?_⟩
  rw [← append_assoc (bytes.take size), take_append_drop]

section

variable (part : PartOf sent startOffset bytes)
include part

theorem rest (size : Nat) :
    PartOf sent (startOffset + (bytes.take size).length) (bytes.drop size) := by
  obtain ⟨earlier, later, hstart, rfl⟩ := part
  refine ⟨earlier ++ bytes.take size, later, ?_, ?_⟩
  · rw [length_append, hstart]
  · rw [append_assoc, ← append_assoc (bytes.take size), take_append_drop]

theorem framed_go {size fuel : Nat} {frame : Nat × Bytes}
    (member : frame ∈ framed.go startOffset (chunks size fuel bytes)) :
    PartOf sent frame.1 frame.2 := by
  induction fuel generalizing startOffset bytes with
  | zero => cases member
  | succ fuel ih =>
    unfold chunks at member
    split at member
    · cases member
    · rcases mem_cons.mp member with rfl | hrest
      · exact part.take size
      · exact ih (part.rest size) hrest

theorem framed {size : Nat} {frame : Nat × Bytes}
    (member : frame ∈ framed size startOffset bytes) : PartOf sent frame.1 frame.2 :=
  part.framed_go member

theorem extend {accepted : Bytes}
    (before : accepted <+: sent) (start : startOffset = accepted.length) :
    accepted ++ bytes <+: sent := by
  obtain ⟨earlier, later, hstart, rfl⟩ := part
  have hsame : accepted = earlier := by
    rw [prefix_iff_eq_take, ← start, ← hstart, take_left] at before
    exact before
  rw [hsame, ← append_assoc]
  exact prefix_append _ _

end

end PartOf

def Request.PartOf (sent : Bytes) (request : Request) : Prop :=
  ∀ startOffset bytes, request = .output startOffset bytes → Publisher.PartOf sent startOffset bytes

theorem Request.PartOf.append {sent : Bytes} {request : Request} (part : request.PartOf sent)
    (added : Bytes) : request.PartOf (sent ++ added) :=
  fun startOffset bytes heq => (part startOffset bytes heq).append added

theorem sendOutput_partOf {sent bytes : Bytes} {startOffset maxFrame : Nat}
    (part : PartOf sent startOffset bytes) :
    ∀ request ∈ sendOutput startOffset bytes maxFrame, request.PartOf sent := by
  intro request member start piece heq
  obtain ⟨frame, hframe, rfl⟩ := mem_map.mp member
  cases heq
  exact part.framed hframe

/-- After what it handed over, the stream carries it, and asks for parts of it only. -/
structure Turn.Sound (turn : Turn) (sent : Bytes) : Prop where
  carries : turn.drive.stream.Carries (sent ++ turn.sent)
  requests : ∀ request ∈ turn.requests, request.PartOf (sent ++ turn.sent)

/-- Nothing the owner gave is lost on the way: it was handed over or is still held. -/
def Turn.accounts (turn : Turn) : Bytes := turn.sent ++ turn.drive.waiting.getD []

namespace Drive

variable {drive : Drive} {sent : Bytes}

@[simp] theorem stream_notify (drive : Drive) (notice : Notice) :
    (drive.notify notice).stream = drive.stream := by
  unfold notify
  split <;> rfl

@[simp] theorem waiting_notify (drive : Drive) (notice : Notice) :
    (drive.notify notice).waiting = drive.waiting := by
  unfold notify
  split <;> rfl

theorem offerChunk_sound (carries : drive.stream.Carries sent) (chunk : Bytes) :
    (drive.offerChunk chunk).Sound sent := by
  have hheld : Turn.Sound ⟨{ drive with waiting := some chunk }, [], [], none⟩ sent := by
    refine ⟨?_, fun request member => by cases member⟩
    rw [append_nil]
    exact carries
  unfold offerChunk
  split
  · split
    · rename_i hsend
      obtain ⟨hstart, hcarries⟩ := carries.send hsend
      refine ⟨hcarries, sendOutput_partOf ?_⟩
      rw [hstart]
      exact PartOf.last sent chunk
    · exact hheld
  · exact hheld

theorem offerChunk_accounts (drive : Drive) (chunk : Bytes) :
    (drive.offerChunk chunk).accounts = chunk := by
  unfold offerChunk
  split
  · split
    · simp [Turn.accounts]
    · simp [Turn.accounts]
  · simp [Turn.accounts]

theorem stream_closeWhenDone (drive : Drive) : drive.closeWhenDone.1.stream = drive.stream := by
  unfold closeWhenDone
  split <;> rfl

theorem waiting_closeWhenDone (drive : Drive) : drive.closeWhenDone.1.waiting = drive.waiting := by
  unfold closeWhenDone
  split <;> rfl

theorem closeWhenDone_partOf (drive : Drive) (sent : Bytes) :
    ∀ request ∈ drive.closeWhenDone.2, request.PartOf sent := by
  intro request member startOffset bytes heq
  unfold closeWhenDone at member
  split at member
  · rw [mem_singleton.mp member] at heq
    cases heq
  · cases member

theorem top_sound (carries : drive.stream.Carries sent) : drive.top.Sound sent := by
  have hoffered : ∀ offered : Turn, offered.Sound sent →
      Turn.Sound { offered with
        drive := { offered.drive.closeWhenDone.1 with phase := .selecting }
        requests := offered.requests ++ offered.drive.closeWhenDone.2 } sent := by
    intro offered sound
    refine ⟨?_, ?_⟩
    · dsimp only
      rw [stream_closeWhenDone]
      exact sound.carries
    · intro request member
      rcases mem_append.mp member with hold | hclose
      · exact sound.requests request hold
      · exact closeWhenDone_partOf _ _ request hclose
  unfold top
  split
  · exact hoffered _ (offerChunk_sound carries _)
  · refine hoffered _ ⟨?_, fun request member => by cases member⟩
    rw [append_nil]
    exact carries

theorem top_accounts (drive : Drive) : drive.top.accounts = drive.waiting.getD [] := by
  unfold top Turn.accounts
  rw [waiting_closeWhenDone]
  split
  · rename_i chunk hwaiting
    exact (offerChunk_accounts drive chunk).trans (by rw [hwaiting]; rfl)
  · rw [nil_append]

theorem answer_sound {resync : Resync} (carries : drive.stream.Carries sent)
    (part : ∀ startOffset bytes, resync = .retransmit startOffset bytes →
      PartOf sent startOffset bytes) : (drive.answer resync).Sound sent := by
  have hsame : sent ++ [] = sent := append_nil sent
  cases resync with
  | retransmit startOffset bytes =>
    exact ⟨hsame.symm ▸ carries, hsame.symm ▸ sendOutput_partOf (part startOffset bytes rfl)⟩
  | nothing => exact ⟨hsame.symm ▸ carries, fun request member => by cases member⟩
  | unrecoverable =>
    constructor
    · simp only [answer, stream_notify, hsame]
      exact carries
    · intro request member startOffset bytes heq
      rw [mem_singleton.mp member] at heq
      cases heq

theorem answer_fields (drive : Drive) (resync : Resync) :
    (drive.answer resync).sent = [] ∧ (drive.answer resync).drive.waiting = drive.waiting ∧
      (drive.answer resync).drive.stream = drive.stream ∧
      (drive.answer resync).resync = some resync := by
  cases resync with
  | retransmit | nothing => exact ⟨rfl, rfl, rfl, rfl⟩
  | unrecoverable => simp [answer]

end Drive

def Event.position? : Event → Option Nat
  | .attached _ nextOffset _ => some nextOffset
  | .mismatch nextOffset => some nextOffset
  | _ => none

namespace Drive

variable {drive : Drive} {sent : Bytes} {event : Event}

theorem resend_partOf {offset : Nat} :
    ∀ startOffset bytes, resend sent offset = .retransmit startOffset bytes →
      PartOf sent startOffset bytes := by
  intro startOffset bytes heq
  unfold resend at heq
  split at heq
  · rename_i hlt
    cases heq
    exact PartOf.drop hlt.le
  · cases heq

/-- A position inside what was sent is never answered with other bytes, whatever the
order in which positions arrive. -/
theorem onEvent_sound (carries : drive.stream.Carries sent)
    (bound : ∀ position, event.position? = some position → position ≤ sent.length) :
    (drive.onEvent (some event)).Sound sent := by
  have hsame : sent ++ [] = sent := append_nil sent
  have hquiet : ∀ after : Drive, after.stream.Carries sent →
      Turn.Sound ⟨after, [], [], none⟩ sent := by
    intro after hafter
    exact ⟨hsame.symm ▸ hafter, fun request member => by cases member⟩
  cases event with
  | attached terminalId nextOffset limits =>
    obtain ⟨hcarries, _, hresync⟩ :=
      (carries.setWindow limits.maxUnackedOutputBytes).attached (bound nextOffset rfl)
    apply answer_sound hcarries
    intro startOffset bytes heq
    simp only [applyLimits, hresync] at heq
    split at heq
    · cases heq
    · exact resend_partOf startOffset bytes heq
  | mismatch nextOffset =>
    obtain ⟨hcarries, hresync⟩ := carries.mismatch (bound nextOffset rfl)
    apply answer_sound hcarries
    intro startOffset bytes heq
    rw [hresync] at heq
    split at heq
    · cases heq
    · split at heq
      · cases heq
      · exact resend_partOf startOffset bytes heq
  | ack durableOffset => exact hquiet _ (carries.acknowledge durableOffset)
  | detached => exact hquiet _ carries.detached
  | input bytes =>
    simp only [onEvent]
    split
    · exact hquiet _ carries
    · exact hquiet _ carries
  | resizeRequest | ended =>
    apply hquiet
    simp only [stream_notify]
    exact carries

theorem onEvent_fields (drive : Drive) (event : Event) : (drive.onEvent (some event)).sent = [] ∧
      (drive.onEvent (some event)).drive.waiting = drive.waiting := by
  cases event with
  | attached | mismatch =>
    simp only [onEvent, (answer_fields _ _).1, (answer_fields _ _).2.1, applyLimits, and_self]
  | ack | detached => exact ⟨rfl, rfl⟩
  | resizeRequest | ended => simp [onEvent]
  | input bytes =>
    simp only [onEvent]
    split <;> exact ⟨rfl, rfl⟩

theorem start_onEvent (carries : drive.stream.Carries sent)
    (bound : ∀ position, event.position? = some position → position ≤ sent.length) :
    (drive.onEvent (some event)).drive.stream.retained.start = drive.stream.retained.start ∨
      ∃ durableOffset, event = .ack durableOffset ∧
        (drive.onEvent (some event)).drive.stream.retained.start ≤ durableOffset := by
  cases event with
  | attached terminalId nextOffset limits =>
    left
    obtain ⟨_, hstart, _⟩ :=
      (carries.setWindow limits.maxUnackedOutputBytes).attached (bound nextOffset rfl)
    simp only [onEvent, (answer_fields _ _).2.2.1]
    exact hstart
  | mismatch nextOffset =>
    left
    simp only [onEvent, (answer_fields _ _).2.2.1, Outgoing.retained_mismatch]
  | ack durableOffset =>
    rcases drive.stream.start_acknowledge durableOffset with hsame | hreleased
    · exact .inl hsame
    · exact .inr ⟨durableOffset, rfl, hreleased⟩
  | detached => exact .inl rfl
  | input bytes =>
    left
    simp only [onEvent]
    split <;> rfl
  | resizeRequest | ended =>
    left
    simp [onEvent]

theorem unrecoverable_onEvent (carries : drive.stream.Carries sent)
    (bound : ∀ position, event.position? = some position → position ≤ sent.length)
    (lost : (drive.onEvent (some event)).resync = some .unrecoverable) :
    ∃ position, event.position? = some position ∧ position < drive.stream.retained.start := by
  have hresend : ∀ offset, resend sent offset ≠ .unrecoverable := by
    intro offset heq
    unfold resend at heq
    split at heq <;> cases heq
  cases event with
  | attached terminalId nextOffset limits =>
    refine ⟨nextOffset, rfl, ?_⟩
    obtain ⟨_, _, hresync⟩ :=
      (carries.setWindow limits.maxUnackedOutputBytes).attached (bound nextOffset rfl)
    simp only [onEvent, (answer_fields _ _).2.2.2, applyLimits, Option.some.injEq, hresync] at lost
    split at lost
    · rename_i hbehind
      exact hbehind
    · exact absurd lost (hresend nextOffset)
  | mismatch nextOffset =>
    refine ⟨nextOffset, rfl, ?_⟩
    obtain ⟨_, hresync⟩ := carries.mismatch (bound nextOffset rfl)
    simp only [onEvent, (answer_fields _ _).2.2.2, Option.some.injEq, hresync] at lost
    split at lost
    · cases lost
    · split at lost
      · rename_i hbehind
        exact hbehind
      · exact absurd lost (hresend nextOffset)
  | ack | detached | resizeRequest | ended => cases lost
  | input bytes =>
    simp only [onEvent] at lost
    split at lost <;> cases lost

theorem onOwner_sound (carries : drive.stream.Carries sent) (message : Option FromOwner) :
    (drive.onOwner message).Sound sent := by
  have hsame : sent ++ [] = sent := append_nil sent
  cases message with
  | none => exact ⟨hsame.symm ▸ carries, fun request member => by cases member⟩
  | some message =>
    cases message with
    | output chunk =>
      obtain ⟨hcarries, hrequests⟩ := offerChunk_sound carries chunk
      exact ⟨hcarries, hrequests⟩
    | resize cols rows =>
      refine ⟨hsame.symm ▸ carries, ?_⟩
      intro request member startOffset bytes heq
      rw [mem_singleton.mp member] at heq
      cases heq

section

variable (drive)
include drive

theorem start_offerChunk (chunk : Bytes) :
    (drive.offerChunk chunk).drive.stream.retained.start = drive.stream.retained.start := by
  unfold offerChunk
  split
  · split
    · rename_i hsend
      have hstart := drive.stream.start_send chunk
      rw [hsend] at hstart
      exact hstart
    · rfl
  · rfl

theorem start_top : drive.top.drive.stream.retained.start = drive.stream.retained.start := by
  unfold top
  rw [stream_closeWhenDone]
  split
  · exact start_offerChunk drive _
  · rfl

theorem start_onOwner (message : Option FromOwner) :
    (drive.onOwner message).drive.stream.retained.start = drive.stream.retained.start := by
  cases message with
  | none => rfl
  | some message =>
    cases message with
    | output chunk => exact start_offerChunk drive chunk
    | resize => rfl

theorem resync_offerChunk (chunk : Bytes) : (drive.offerChunk chunk).resync = none := by
  unfold offerChunk
  split
  · split <;> rfl
  · rfl

theorem resync_top : drive.top.resync = none := by
  unfold top
  split
  · exact resync_offerChunk drive _
  · rfl

theorem resync_onOwner (message : Option FromOwner) : (drive.onOwner message).resync = none := by
  cases message with
  | none => rfl
  | some message =>
    cases message with
    | output chunk => exact resync_offerChunk drive chunk
    | resize => rfl

end

end Drive

end Hypeterm.Publisher
