import Hypeterm.Publisher.Driving

/-! When a driver tells its relay that the shell has exited: once, and after everything
it framed is settled.  A frame is settled by an acknowledgement that reaches its end, or
by an attach past all that is not settled, where an earlier publisher got further. -/
namespace Hypeterm.Publisher

open Library List Retained

def exited : Request := .close "process_exited"

def Request.ending : Request → Option Nat
  | .output startOffset bytes => some (startOffset + bytes.length)
  | _ => none

def endings (requests : List Request) : List Nat := requests.filterMap Request.ending

def DriveRecord.acknowledged (ends : List Nat) : DriveRecord → List Nat
  | .asked request => ends ++ request.ending.toList
  | .heard (some (.ack durableOffset)) => ends.filter fun ending => durableOffset < ending
  | _ => ends

/-- The frames an acknowledgement leaves, or an attach short of one of their ends. -/
def DriveRecord.settled (ends : List Nat) : DriveRecord → List Nat
  | .heard (some (.attached _ nextOffset _)) =>
      if ends.all fun ending => ending < nextOffset then [] else ends
  | entry => entry.acknowledged ends

/-- The ends of the frames that were asked for and not acknowledged since. -/
def unacknowledged (log : List DriveRecord) : List Nat := log.foldl DriveRecord.acknowledged []

/-- The ends of the frames that were asked for and not settled since. -/
def owed (log : List DriveRecord) : List Nat := log.foldl DriveRecord.settled []

/-- Neither output nor the close of a shell that exited. -/
def DriveRecord.quiet : DriveRecord → Bool
  | .asked (.output _ _) => false
  | .asked request => request ≠ exited
  | _ => true

theorem chunks_framed {size fuel startOffset : Nat} {bytes : Bytes} (positive : 0 < size)
    (enough : bytes.length ≤ fuel) :
    (∀ frame ∈ framed.go startOffset (chunks size fuel bytes),
      startOffset < frame.1 + frame.2.length ∧
        frame.1 + frame.2.length ≤ startOffset + bytes.length) ∧
      (bytes ≠ [] → ∃ frame ∈ framed.go startOffset (chunks size fuel bytes),
        frame.1 + frame.2.length = startOffset + bytes.length) := by
  induction fuel generalizing startOffset bytes with
  | zero =>
    have hempty : bytes = [] := length_eq_zero_iff.mp (Nat.le_zero.mp enough)
    refine ⟨fun frame member => ?_, fun hbytes => absurd hempty hbytes⟩
    cases member
  | succ fuel ih =>
    unfold chunks
    split
    · rename_i hempty
      refine ⟨fun frame member => ?_, fun hbytes => absurd (List.isEmpty_iff.mp hempty) hbytes⟩
      cases member
    · rename_i hbytes
      have hpos : 0 < bytes.length := length_pos_iff.mpr (by simpa using hbytes)
      have htake : (bytes.take size).length = min size bytes.length := length_take
      have hdrop : (bytes.drop size).length = bytes.length - size := length_drop
      obtain ⟨hinside, hlast⟩ := @ih (startOffset + (bytes.take size).length) (bytes.drop size)
        (by omega)
      constructor
      · intro frame member
        rcases mem_cons.mp member with rfl | hrest
        · dsimp only
          omega
        · have := hinside frame hrest
          omega
      · intro _
        by_cases hmore : bytes.drop size = []
        · refine ⟨_, mem_cons_self, ?_⟩
          rw [hmore, length_nil] at hdrop
          dsimp only
          omega
        · obtain ⟨frame, hframe, hend⟩ := hlast hmore
          exact ⟨frame, mem_cons_of_mem _ hframe, by omega⟩

theorem sendOutput_endings {startOffset maxFrame : Nat} {bytes : Bytes} (positive : 0 < maxFrame) :
    (∀ ending ∈ endings (sendOutput startOffset bytes maxFrame),
      startOffset < ending ∧ ending ≤ startOffset + bytes.length) ∧
      (bytes ≠ [] → startOffset + bytes.length ∈
        endings (sendOutput startOffset bytes maxFrame)) := by
  obtain ⟨hinside, hlast⟩ :=
    @chunks_framed maxFrame bytes.length startOffset bytes positive (Nat.le_refl _)
  constructor
  · intro ending member
    obtain ⟨request, hrequest, hending⟩ := mem_filterMap.mp member
    obtain ⟨frame, hframe, rfl⟩ := mem_map.mp hrequest
    cases hending
    exact hinside frame hframe
  · intro hbytes
    obtain ⟨frame, hframe, hend⟩ := hlast hbytes
    exact mem_filterMap.mpr ⟨_, mem_map.mpr ⟨frame, hframe, rfl⟩, congrArg some hend⟩

/-- The frames that are owed end inside what is retained. -/
def Outgoing.Owes (stream : Outgoing) (ends : List Nat) : Prop :=
  ∀ ending ∈ ends, stream.retained.start < ending ∧ ending ≤ stream.retained.endOffset

/-- If anything is retained, the frame that ends it is owed. -/
def Outgoing.Reaches (stream : Outgoing) (ends : List Nat) : Prop :=
  stream.retained.bytes ≠ [] → stream.retained.endOffset ∈ ends

namespace Outgoing

variable {stream : Outgoing} {ends : List Nat}

theorem endOffset_of_empty (empty : stream.retained.bytes = []) :
    stream.retained.endOffset = stream.retained.start := by
  rw [endOffset, empty]
  rfl

theorem Owes.eq_nil (owes : stream.Owes ends) (empty : stream.retained.bytes = []) : ends = [] := by
  rw [eq_nil_iff_forall_not_mem]
  intro ending member
  have := owes ending member
  have := endOffset_of_empty empty
  omega

theorem Owes.eq_nil_of_append {more : List Nat} (owes : stream.Owes (ends ++ more))
    (empty : stream.retained.bytes = []) : more = [] :=
  (append_eq_nil_iff.mp (owes.eq_nil empty)).2

theorem owed_nil_iff (aligned : stream.Aligned) (owes : stream.Owes ends)
    (reaches : stream.Reaches ends) : ends = [] ↔ stream.unacked = 0 := by
  rw [aligned.unacked_eq, length_eq_zero_iff]
  constructor
  · rintro rfl
    by_contra hbytes
    cases reaches hbytes
  · exact owes.eq_nil

theorem Owes.acknowledge (owes : stream.Owes ends) (durableOffset : Nat) :
    (stream.acknowledge durableOffset).Owes (ends.filter fun ending => durableOffset < ending) := by
  intro ending member
  obtain ⟨hmember, hafter⟩ := mem_filter.mp member
  obtain ⟨hstart, hend⟩ := owes ending hmember
  have hend' : (stream.acknowledge durableOffset).retained.endOffset = stream.retained.endOffset :=
    endOffset_releaseThrough _ _
  refine ⟨?_, by omega⟩
  rcases stream.start_acknowledge durableOffset with hsame | hreleased
  · rw [hsame]
    exact hstart
  · have : durableOffset < ending := by simpa using hafter
    omega

theorem retains_after_acknowledge {durableOffset : Nat}
    (left : (stream.acknowledge durableOffset).retained.bytes ≠ []) :
    stream.retained.bytes ≠ [] ∧ durableOffset < stream.retained.endOffset := by
  unfold acknowledge releaseThrough at left
  unfold endOffset
  dsimp only at left
  split at left
  · have := length_pos_iff.mpr left
    exact ⟨left, by omega⟩
  · have hpos := length_pos_iff.mpr left
    rw [length_drop] at hpos
    exact ⟨length_pos_iff.mp (by omega), by omega⟩

theorem Reaches.acknowledge (reaches : stream.Reaches ends) (durableOffset : Nat) :
    (stream.acknowledge durableOffset).Reaches
      (ends.filter fun ending => durableOffset < ending) := by
  intro hbytes
  obtain ⟨hbefore, hbeyond⟩ := retains_after_acknowledge hbytes
  have hend : (stream.acknowledge durableOffset).retained.endOffset = stream.retained.endOffset :=
    endOffset_releaseThrough _ _
  rw [hend]
  exact mem_filter.mpr ⟨reaches hbefore, by simpa using hbeyond⟩

theorem Owes.attached (aligned : stream.Aligned) (owes : stream.Owes ends)
    (reaches : stream.Reaches ends) (nextOffset : Nat) :
    (stream.attached nextOffset).1.Owes
        (if ends.all fun ending => ending < nextOffset then [] else ends) ∧
      (stream.attached nextOffset).1.Reaches
        (if ends.all fun ending => ending < nextOffset then [] else ends) := by
  obtain ⟨-, -, hretained⟩ := attached_retained aligned nextOffset
  unfold Owes Reaches
  rw [hretained]
  by_cases hbeyond : stream.retained.endOffset < nextOffset
  · have hall : (ends.all fun ending => ending < nextOffset) = true := by
      rw [all_eq_true]
      intro ending member
      have := (owes ending member).2
      simpa using Nat.lt_of_le_of_lt this hbeyond
    rw [if_pos hbeyond, if_pos hall]
    refine ⟨fun ending member => ?_, fun hbytes => absurd rfl hbytes⟩
    cases member
  · have hkept : (if ends.all fun ending => ending < nextOffset then [] else ends) = ends := by
      split
      · rename_i hall
        rw [all_eq_true] at hall
        rw [eq_comm, owed_nil_iff aligned owes reaches, aligned.unacked_eq, length_eq_zero_iff]
        by_contra hbytes
        have := hall _ (reaches hbytes)
        exact hbeyond (by simpa using this)
      · rfl
    rw [if_neg hbeyond, hkept]
    exact ⟨owes, reaches⟩

variable {startOffset maxFrame : Nat} {bytes : Bytes}

theorem resends_attached (aligned : stream.Aligned) {nextOffset : Nat}
    (resent : (stream.attached nextOffset).2 = .retransmit startOffset bytes) :
    (stream.attached nextOffset).1.retained.start ≤ startOffset ∧ bytes ≠ [] ∧
      startOffset + bytes.length = (stream.attached nextOffset).1.retained.endOffset := by
  obtain ⟨-, hcases⟩ := stream.place_cases nextOffset
  have hkept := (attached_retained aligned nextOffset).2.2
  unfold attached at resent
  dsimp only at resent
  split at resent
  · cases resent
  · split at resent
    · rename_i found hfound
      obtain ⟨hstart, hbytes, hreach⟩ := fromOffset_eq_some hfound
      split at resent
      · cases resent
      · rename_i hnonempty
        cases resent
        have hnonempty : bytes ≠ [] := by simpa using hnonempty
        have hpos := length_pos_iff.mpr hnonempty
        rcases hcases with hplace | ⟨-, -, hplace⟩
        · rw [hplace] at hstart hreach
          rw [hkept, if_neg (by dsimp only at hreach; omega)]
          exact ⟨hstart, hnonempty, hreach⟩
        · rw [hplace, drop_nil] at hbytes
          exact absurd hbytes hnonempty
    · cases resent

theorem resends_mismatch {authoritative : Nat}
    (resent : (stream.mismatch authoritative).2 = .retransmit startOffset bytes) :
    stream.retained.start ≤ startOffset ∧ bytes ≠ [] ∧
      startOffset + bytes.length = stream.retained.endOffset := by
  unfold mismatch at resent
  split at resent
  · cases resent
  · dsimp only at resent
    split at resent
    · rename_i found hfound
      obtain ⟨hstart, -, hreach⟩ := fromOffset_eq_some hfound
      split at resent
      · cases resent
      · rename_i hnonempty
        cases resent
        exact ⟨hstart, by simpa using hnonempty, hreach⟩
    · cases resent

theorem Owes.frames (owes : stream.Owes ends)
    (positive : 0 < maxFrame) (inside : stream.retained.start ≤ startOffset)
    (last : startOffset + bytes.length = stream.retained.endOffset) :
    stream.Owes (ends ++ endings (sendOutput startOffset bytes maxFrame)) := by
  intro ending member
  rcases mem_append.mp member with hold | hnew
  · exact owes ending hold
  · have := (sendOutput_endings positive).1 ending hnew
    omega

theorem reaches_frames (positive : 0 < maxFrame)
    (nonempty : bytes ≠ []) (last : startOffset + bytes.length = stream.retained.endOffset) :
    stream.Reaches (ends ++ endings (sendOutput startOffset bytes maxFrame)) := by
  intro _
  rw [← last]
  exact mem_append_right _ ((sendOutput_endings positive).2 nonempty)

theorem Reaches.append (reaches : stream.Reaches ends) (more : List Nat) :
    stream.Reaches (ends ++ more) :=
  fun nonempty => mem_append_left _ (reaches nonempty)

theorem Owes.send (aligned : stream.Aligned) (owes : stream.Owes ends)
    (reaches : stream.Reaches ends) (positioned : stream.positioned = true)
    (positive : 0 < maxFrame) (chunk : Bytes) :
    (stream.send chunk).1.Owes
        (ends ++ endings (sendOutput stream.nextOffset chunk maxFrame)) ∧
      (stream.send chunk).1.Reaches
        (ends ++ endings (sendOutput stream.nextOffset chunk maxFrame)) := by
  have hend : (stream.send chunk).1.retained.endOffset =
      stream.retained.endOffset + chunk.length := by
    rw [send_eq positioned]
    exact endOffset_append _ _
  have hstart : (stream.send chunk).1.retained.start = stream.retained.start := by
    rw [send_eq positioned]
    rfl
  have hlast : stream.nextOffset + chunk.length = (stream.send chunk).1.retained.endOffset := by
    rw [hend, aligned]
  have howes : (stream.send chunk).1.Owes ends := by
    intro ending member
    have := owes ending member
    omega
  have hinside : (stream.send chunk).1.retained.start ≤ stream.nextOffset := by
    rw [hstart, aligned]
    exact Nat.le_add_right _ _
  refine ⟨howes.frames positive hinside hlast, ?_⟩
  by_cases hchunk : chunk = []
  · have hsame : (stream.send chunk).1.retained = stream.retained := by
      rw [send_eq positioned, hchunk]
      simp [append]
    unfold Reaches
    rw [hsame]
    exact reaches.append _
  · exact reaches_frames positive hchunk hlast

end Outgoing

structure Drive.Owing (drive : Drive) (ends : List Nat) : Prop where
  aligned : drive.stream.Aligned
  owes : drive.stream.Owes ends
  reaches : drive.stream.Reaches ends
  positive : 0 < drive.maxFrame

namespace Drive

variable {drive other : Drive} {ends : List Nat}

theorem Owing.start : Owing Drive.start [] where
  aligned := .new
  owes := fun ending member => by cases member
  reaches := fun nonempty => absurd rfl nonempty
  positive := by decide

theorem Owing.of_stream (owing : drive.Owing ends) (stream_eq : other.stream = drive.stream)
    (maxFrame_eq : other.maxFrame = drive.maxFrame) : other.Owing ends where
  aligned := stream_eq ▸ owing.aligned
  owes := stream_eq ▸ owing.owes
  reaches := stream_eq ▸ owing.reaches
  positive := maxFrame_eq ▸ owing.positive

theorem Owing.offerChunk (owing : drive.Owing ends) (chunk : Bytes) :
    (drive.offerChunk chunk).drive.Owing (ends ++ endings (drive.offerChunk chunk).requests) := by
  have haligned := aligned_offerChunk owing.aligned chunk
  unfold Drive.offerChunk at haligned ⊢
  by_cases hmay : drive.stream.maySend = true
  · have hpositioned := Outgoing.positioned_of_maySend hmay
    obtain ⟨howes, hreaches⟩ :=
      owing.owes.send owing.aligned owing.reaches hpositioned owing.positive chunk
    rw [if_pos hmay, Outgoing.send_eq hpositioned] at haligned ⊢
    rw [Outgoing.send_eq hpositioned] at howes hreaches
    exact ⟨haligned, howes, hreaches, owing.positive⟩
  · rw [if_neg hmay] at haligned ⊢
    exact (append_nil ends).symm ▸ owing.of_stream rfl rfl

theorem Owing.answer (owing : drive.Owing ends) {resync : Resync}
    (resends : ∀ startOffset bytes, resync = .retransmit startOffset bytes →
      drive.stream.retained.start ≤ startOffset ∧ bytes ≠ [] ∧
        startOffset + bytes.length = drive.stream.retained.endOffset) :
    (drive.answer resync).drive.Owing (ends ++ endings (drive.answer resync).requests) := by
  cases resync with
  | retransmit startOffset bytes =>
    obtain ⟨hinside, hnonempty, hlast⟩ := resends startOffset bytes rfl
    exact ⟨owing.aligned, owing.owes.frames owing.positive hinside hlast,
      Outgoing.reaches_frames owing.positive hnonempty hlast, owing.positive⟩
  | nothing => exact (append_nil ends).symm ▸ owing.of_stream rfl rfl
  | unrecoverable =>
    exact (append_nil ends).symm ▸
      owing.of_stream (stream_notify _ _) (maxFrame_notify _ _)

theorem Owing.onEvent (owing : drive.Owing ends) (event : Option Event) :
    (drive.onEvent event).drive.Owing
      ((DriveRecord.heard event).settled ends ++ endings (drive.onEvent event).requests) := by
  have hquiet {other : Drive} (stream_eq : other.stream = drive.stream)
      (maxFrame_eq : other.maxFrame = drive.maxFrame) : other.Owing (ends ++ endings []) :=
    (append_nil ends).symm ▸ owing.of_stream stream_eq maxFrame_eq
  cases event with
  | none => exact hquiet (stream_notify _ _) (maxFrame_notify _ _)
  | some event =>
    cases event with
    | attached terminalId nextOffset limits =>
      have hwindowed : (drive.stream.setWindow limits.maxUnackedOutputBytes).Aligned :=
        owing.aligned.setWindow _
      obtain ⟨howes, hreaches⟩ :=
        @Outgoing.Owes.attached (drive.stream.setWindow limits.maxUnackedOutputBytes) ends
          hwindowed owing.owes owing.reaches nextOffset
      refine Owing.answer ⟨?_, howes, hreaches, ?_⟩ ?_
      · exact (Outgoing.attached_retained hwindowed nextOffset).1
      · exact Nat.lt_of_lt_of_le (by decide) (Nat.le_max_right _ 1024)
      · exact fun startOffset bytes resent => Outgoing.resends_attached hwindowed resent
    | ack durableOffset =>
      refine (append_nil _).symm ▸ ⟨?_, ?_, ?_, owing.positive⟩
      · exact owing.aligned.acknowledge durableOffset
      · exact owing.owes.acknowledge durableOffset
      · exact owing.reaches.acknowledge durableOffset
    | mismatch nextOffset =>
      have hretained := drive.stream.retained_mismatch nextOffset
      refine @Owing.answer { drive with stream := (drive.stream.mismatch nextOffset).1 } ends ?_ _ ?_
      · refine ⟨(owing.aligned.mismatch nextOffset).1, ?_, ?_, owing.positive⟩
        · exact fun ending member => hretained.symm ▸ owing.owes ending member
        · unfold Outgoing.Reaches
          rw [hretained]
          exact owing.reaches
      · intro startOffset bytes resent
        rw [hretained]
        exact Outgoing.resends_mismatch resent
    | detached =>
      exact (append_nil ends).symm ▸
        ⟨owing.aligned.detached, owing.owes, owing.reaches, owing.positive⟩
    | input bytes =>
      simp only [Drive.onEvent]
      split
      · exact hquiet rfl rfl
      · exact hquiet rfl rfl
    | resizeRequest cols rows => exact hquiet (stream_notify _ _) (maxFrame_notify _ _)
    | ended reason => exact hquiet (stream_notify _ _) (maxFrame_notify _ _)

theorem Owing.top (owing : drive.Owing ends) :
    drive.top.drive.Owing (ends ++ endings drive.top.requests) := by
  have hclosing (offered : Turn) (accounts : offered.drive.Owing (ends ++ endings offered.requests)) :
      ({ offered.drive.closeWhenDone.1 with phase := .selecting } : Drive).Owing
        (ends ++ endings (offered.requests ++ offered.drive.closeWhenDone.2)) := by
    unfold closeWhenDone endings
    rw [filterMap_append]
    split
    · exact (append_nil (filterMap _ _)).symm ▸ accounts.of_stream rfl rfl
    · exact (append_nil (filterMap _ _)).symm ▸ accounts.of_stream rfl rfl
  unfold Drive.top
  split
  · rename_i chunk hwaiting
    exact hclosing _ (owing.offerChunk chunk)
  · exact hclosing _ ((append_nil ends).symm ▸ owing)

theorem Owing.onOwner (owing : drive.Owing ends) (message : Option FromOwner) :
    (drive.onOwner message).drive.Owing (ends ++ endings (drive.onOwner message).requests) := by
  cases message with
  | none => exact (append_nil ends).symm ▸ owing.of_stream rfl rfl
  | some message =>
    cases message with
    | output chunk => exact (owing.offerChunk chunk).of_stream rfl rfl
    | resize cols rows => exact (append_nil ends).symm ▸ owing.of_stream rfl rfl

end Drive

theorem owed_asked (log : List DriveRecord) (requests : List Request) :
    owed (log ++ requests.map .asked) = owed log ++ endings requests := by
  unfold owed endings
  rw [foldl_append]
  generalize log.foldl DriveRecord.settled [] = ends
  induction requests generalizing ends with
  | nil => exact (append_nil ends).symm
  | cons request rest ih =>
    rw [map_cons, foldl_cons, ih]
    cases request with
    | output startOffset bytes => exact append_assoc _ _ _
    | resize | close =>
      rw [filterMap_cons_none rfl]
      exact congrArg (· ++ rest.filterMap Request.ending) (append_nil ends)

theorem owed_heard (log : List DriveRecord) (event : Option Event) :
    owed (log ++ [.heard event]) = (DriveRecord.heard event).settled (owed log) := by
  unfold owed
  rw [foldl_append]
  rfl

theorem owed_given (log : List DriveRecord) (message : Option FromOwner) :
    owed (log ++ [.given message]) = owed log := by
  unfold owed
  rw [foldl_append]
  rfl

namespace Driving

variable {driving next : Driving}

theorem endings_sends {requests : List Request}
    (closes : (driving.refused requests).all Request.isClose = true) :
    endings (driving.sends requests) = endings requests := by
  unfold refused at closes
  unfold sends
  split
  · rename_i left haccepts
    rw [haccepts] at closes
    have hrest : endings (requests.drop (left + 1)) = [] := by
      rw [endings, filterMap_eq_nil_iff]
      intro request member
      have hdrop : request ∈ requests.drop left := by
        rw [drop_add_one_eq_tail_drop] at member
        exact mem_of_mem_tail member
      have hclose := all_eq_true.mp closes request hdrop
      cases request with
      | output | resize => cases hclose
      | close reason => rfl
    conv_rhs => rw [← take_append_drop (left + 1) requests]
    unfold endings at hrest ⊢
    rw [filterMap_append, hrest, append_nil]
  · rfl

/-- A driver that retains what its record owes, all of it while its loop goes on. -/
structure Tracks (driving : Driving) : Prop where
  aligned : driving.drive.stream.Aligned
  owes : driving.drive.stream.Owes (owed driving.log)
  reaches : driving.drive.phase ≠ .returned → driving.drive.stream.Reaches (owed driving.log)
  positive : 0 < driving.drive.maxFrame

theorem Tracks.owing (tracks : driving.Tracks) (goes : driving.drive.phase ≠ .returned) :
    driving.drive.Owing (owed driving.log) :=
  ⟨tracks.aligned, tracks.owes, tracks.reaches goes, tracks.positive⟩

variable {turn : Turn}

theorem Tracks.after (owing : turn.drive.Owing (owed driving.log ++ endings turn.requests)) :
    (driving.after turn).Tracks where
  aligned := by
    rw [stream_after]
    exact owing.aligned
  owes := by
    rw [stream_after, log_after, owed_asked]
    intro ending member
    apply owing.owes ending
    rcases mem_append.mp member with hold | hnew
    · exact mem_append_left _ hold
    · exact mem_append_right _ (((driving.sends_sublist _).filterMap _).subset hnew)
  reaches := by
    intro goes
    rw [stream_after, log_after, owed_asked, endings_sends (phase_after _ _ goes).2]
    exact owing.reaches
  positive := by
    rw [maxFrame_after]
    exact owing.positive

theorem Tracks.step (tracks : driving.Tracks) {action : DrivingAction}
    (stepped : driving.step action = some next) : next.Tracks := by
  cases taken_of_step stepped with
  | top phase => exact Tracks.after (tracks.owing (by rw [phase]; decide)).top
  | event event phase =>
    apply Tracks.after
    rw [log_heard, owed_heard]
    exact (tracks.owing (by rw [phase]; decide)).onEvent event
  | owner message phase takes =>
    apply Tracks.after
    rw [log_given, owed_given]
    exact (tracks.owing (by rw [phase]; decide)).onOwner message
  | notices action notices quiet => exact ⟨tracks.aligned, tracks.owes, tracks.reaches, tracks.positive⟩

/-- After the close of a shell that exited, neither another nor any output. -/
def Final (log : List DriveRecord) : Prop :=
  log.Pairwise fun earlier later => earlier = .asked exited → later.quiet = true

/-- The flags are what the record says, and a driver that closed has nothing more to ask. -/
structure Latched (driving : Driving) : Prop where
  gone : driving.drive.ownerGone = true ↔ .given none ∈ driving.log
  flagged : .asked exited ∈ driving.log → driving.drive.closed = true
  closed : driving.drive.closed = true → driving.drive.phase ≠ .returned →
    .asked exited ∈ driving.log ∧ driving.drive.ownerGone = true ∧
      driving.drive.waiting = none ∧ driving.drive.stream.unacked = 0
  final : Final driving.log

theorem asked_mem_after {request : Request} : .asked request ∈ (driving.after turn).log ↔
      .asked request ∈ driving.log ∨ request ∈ driving.sends turn.requests := by
  simp

theorem given_mem_after {message : Option FromOwner} :
    .given message ∈ (driving.after turn).log ↔ .given message ∈ driving.log := by
  simp

theorem Final.append {log : List DriveRecord} (final : Final log) {entry : DriveRecord}
    (quiet : entry.quiet = true) : Final (log ++ [entry]) := by
  refine pairwise_append.mpr ⟨final, pairwise_singleton _ _, ?_⟩
  intro earlier _ later member _
  rw [mem_singleton.mp member]
  exact quiet

theorem Final.after (final : Final driving.log) (silent : .asked exited ∈ driving.log →
      ∀ request ∈ turn.requests, (DriveRecord.asked request).quiet = true)
    (last : turn.requests.Pairwise fun earlier later =>
      earlier = exited → (DriveRecord.asked later).quiet = true) :
    Final (driving.after turn).log := by
  have hsublist := driving.sends_sublist turn.requests
  rw [log_after]
  refine pairwise_append.mpr ⟨final, ?_, ?_⟩
  · rw [pairwise_map]
    refine (last.sublist hsublist).imp ?_
    intro earlier later quiet hearlier
    exact quiet (DriveRecord.asked.inj hearlier)
  · intro earlier hearlier later hlater heq
    obtain ⟨request, hrequest, rfl⟩ := mem_map.mp hlater
    exact silent (heq ▸ hearlier) request (hsublist.subset hrequest)

theorem Latched.after (gone : turn.drive.ownerGone = true ↔ .given none ∈ driving.log)
    (flagged : .asked exited ∈ driving.log → turn.drive.closed = true)
    (closed : turn.drive.closed = true → turn.drive.phase ≠ .returned →
      .asked exited ∈ driving.log ∧ turn.drive.ownerGone = true ∧
        turn.drive.waiting = none ∧ turn.drive.stream.unacked = 0)
    (final : Final driving.log)
    (silent : .asked exited ∈ driving.log →
      ∀ request ∈ turn.requests, (DriveRecord.asked request).quiet = true)
    (unasked : exited ∉ turn.requests) : (driving.after turn).Latched where
  gone := by
    rw [ownerGone_after, given_mem_after]
    exact gone
  flagged := by
    rw [closed_after, asked_mem_after]
    rintro (hold | hnew)
    · exact flagged hold
    · exact absurd ((driving.sends_sublist _).subset hnew) unasked
  closed := by
    rw [closed_after, ownerGone_after, waiting_after, stream_after, asked_mem_after]
    intro hclosed goes
    obtain ⟨hasked, hrest⟩ := closed hclosed (phase_after _ _ goes).1
    exact ⟨.inl hasked, hrest⟩
  final := by
    refine final.after silent (pairwise_of_forall_mem_list ?_)
    intro earlier hearlier later _ heq
    exact absurd (heq ▸ hearlier) unasked

end Driving

namespace Drive

variable {drive : Drive}

theorem outputs_offerChunk (drive : Drive) (chunk : Bytes) :
    ∀ request ∈ (drive.offerChunk chunk).requests, ∃ startOffset bytes,
      request = .output startOffset bytes := by
  intro request member
  unfold offerChunk at member
  split at member
  · split at member
    · obtain ⟨frame, -, rfl⟩ := mem_map.mp member
      exact ⟨frame.1, frame.2, rfl⟩
    · cases member
  · cases member

theorem flags_offerChunk (drive : Drive) (chunk : Bytes) :
    (drive.offerChunk chunk).drive.ownerGone = drive.ownerGone ∧
      (drive.offerChunk chunk).drive.closed = drive.closed := by
  unfold offerChunk
  split
  · split
    · exact ⟨rfl, rfl⟩
    · exact ⟨rfl, rfl⟩
  · exact ⟨rfl, rfl⟩

theorem flags_answer (drive : Drive) (resync : Resync) :
    (drive.answer resync).drive.ownerGone = drive.ownerGone ∧
      (drive.answer resync).drive.closed = drive.closed := by
  cases resync with
  | retransmit | nothing => exact ⟨rfl, rfl⟩
  | unrecoverable => simp [answer]

theorem flags_onEvent (drive : Drive) (event : Option Event) :
    (drive.onEvent event).drive.ownerGone = drive.ownerGone ∧
      (drive.onEvent event).drive.closed = drive.closed ∧
      (drive.onEvent event).drive.waiting = drive.waiting := by
  cases event with
  | none => simp [onEvent]
  | some event =>
    refine ⟨?_, ?_, (onEvent_fields drive event).2⟩
    · cases event with
      | attached | mismatch => exact (flags_answer _ _).1
      | ack | detached => rfl
      | resizeRequest | ended => simp [onEvent]
      | input bytes =>
        simp only [onEvent]
        split <;> rfl
    · cases event with
      | attached | mismatch => exact (flags_answer _ _).2
      | ack | detached => rfl
      | resizeRequest | ended => simp [onEvent]
      | input bytes =>
        simp only [onEvent]
        split <;> rfl

theorem unasked_onEvent (drive : Drive) (event : Option Event) :
    exited ∉ (drive.onEvent event).requests := by
  have hanswer (drive : Drive) (resync : Resync) : exited ∉ (drive.answer resync).requests := by
    cases resync with
    | retransmit startOffset bytes =>
      intro member
      obtain ⟨frame, -, heq⟩ := mem_map.mp member
      cases heq
    | nothing => exact not_mem_nil
    | unrecoverable =>
      intro member
      have hsame : exited = .close "publisher_desynchronised" := mem_singleton.mp member
      exact absurd hsame (by decide)
  cases event with
  | none => exact not_mem_nil
  | some event =>
    cases event with
    | attached | mismatch => exact hanswer _ _
    | ack | detached | resizeRequest | ended => exact not_mem_nil
    | input bytes =>
      simp only [onEvent]
      split
      · exact not_mem_nil
      · exact not_mem_nil

theorem silent_onEvent (owing : drive.Owing []) (event : Option Event) :
    ∀ request ∈ (drive.onEvent event).requests, (DriveRecord.asked request).quiet = true := by
  have hunasked := drive.unasked_onEvent event
  have hunacked : drive.stream.unacked = 0 :=
    (Outgoing.owed_nil_iff owing.aligned owing.owes owing.reaches).mp rfl
  have hafter := owing.onEvent event
  have hnone : endings (drive.onEvent event).requests = [] := by
    refine hafter.owes.eq_nil_of_append ?_
    rw [← length_eq_zero_iff, ← hafter.aligned.unacked_eq]
    exact Nat.le_zero.mp (hunacked ▸ unacked_onEvent owing.aligned event)
  intro request member
  have hending := filterMap_eq_nil_iff.mp hnone request member
  cases request with
  | output startOffset bytes => cases hending
  | resize cols rows => rfl
  | close reason =>
    have hdiffers : Request.close reason ≠ exited := by
      rintro heq
      exact hunasked (heq ▸ member)
    exact decide_eq_true hdiffers

theorem flags_onOwner (drive : Drive) (message : Option FromOwner) :
    (drive.onOwner message).drive.closed = drive.closed ∧
      (drive.onOwner message).drive.ownerGone = (drive.ownerGone || message.isNone) ∧
      exited ∉ (drive.onOwner message).requests := by
  cases message with
  | none => exact ⟨rfl, (Bool.or_true _).symm, not_mem_nil⟩
  | some message =>
    cases message with
    | output chunk =>
      obtain ⟨hgone, hclosed⟩ := drive.flags_offerChunk chunk
      refine ⟨hclosed, hgone.trans (Bool.or_false _).symm, fun member => ?_⟩
      obtain ⟨startOffset, bytes, heq⟩ := drive.outputs_offerChunk chunk _ member
      cases heq
    | resize cols rows =>
      refine ⟨rfl, (Bool.or_false _).symm, fun member => ?_⟩
      cases mem_singleton.mp member

theorem closeWhenDone_cases (drive : Drive) : drive.closeWhenDone = (drive, []) ∧
        ¬ (drive.ownerGone = true ∧ drive.closed = false ∧ drive.waiting = none ∧
          drive.stream.unacked = 0) ∨
      drive.closeWhenDone = ({ drive with closed := true }, [exited]) ∧ drive.ownerGone = true ∧
        drive.closed = false ∧ drive.waiting = none ∧ drive.stream.unacked = 0 := by
  unfold closeWhenDone
  split
  · rename_i hdone
    right
    refine ⟨rfl, ?_⟩
    simpa [and_assoc] using hdone
  · rename_i hpending
    left
    refine ⟨rfl, ?_⟩
    simpa [and_assoc] using hpending

theorem top_cases (drive : Drive) : ∃ outputs : List Request,
      (∀ request ∈ outputs, ∃ startOffset bytes, request = .output startOffset bytes) ∧
      drive.top.drive.ownerGone = drive.ownerGone ∧
      (drive.waiting = none → outputs = [] ∧ drive.top.drive.waiting = none ∧
        drive.top.drive.stream = drive.stream) ∧
      (drive.top.requests = outputs ∧ drive.top.drive.closed = drive.closed ∧
          ¬ (drive.ownerGone = true ∧ drive.closed = false ∧ drive.top.drive.waiting = none ∧
            drive.top.drive.stream.unacked = 0) ∨
        drive.top.requests = outputs ++ [exited] ∧ drive.closed = false ∧
          drive.top.drive.closed = true ∧ drive.ownerGone = true ∧
          drive.top.drive.waiting = none ∧ drive.top.drive.stream.unacked = 0) := by
  have hpass (offered : Turn)
      (same : drive.top = { offered with
        drive := { offered.drive.closeWhenDone.1 with phase := .selecting }
        requests := offered.requests ++ offered.drive.closeWhenDone.2 })
      (gone : offered.drive.ownerGone = drive.ownerGone)
      (closed : offered.drive.closed = drive.closed) :
      drive.top.drive.ownerGone = drive.ownerGone ∧
        drive.top.drive.waiting = offered.drive.waiting ∧
        (drive.top.requests = offered.requests ∧ drive.top.drive.closed = drive.closed ∧
            ¬ (drive.ownerGone = true ∧ drive.closed = false ∧ drive.top.drive.waiting = none ∧
              drive.top.drive.stream.unacked = 0) ∨
          drive.top.requests = offered.requests ++ [exited] ∧ drive.closed = false ∧
            drive.top.drive.closed = true ∧ drive.ownerGone = true ∧
            drive.top.drive.waiting = none ∧ drive.top.drive.stream.unacked = 0) := by
    rw [same, ← gone, ← closed]
    rcases offered.drive.closeWhenDone_cases with ⟨hsame, hpending⟩ | ⟨hsame, hdone⟩
    · rw [hsame]
      exact ⟨rfl, rfl, .inl ⟨append_nil _, rfl, hpending⟩⟩
    · rw [hsame]
      exact ⟨rfl, rfl, .inr ⟨rfl, hdone.2.1, rfl, hdone.1, hdone.2.2⟩⟩
  cases hwaiting : drive.waiting with
  | none =>
    obtain ⟨hgone, hheld, hcases⟩ := hpass ⟨drive, [], [], none⟩ (by simp [top, hwaiting]) rfl rfl
    refine ⟨[], fun request member => ?_, hgone, fun _ => ⟨rfl, hheld.trans hwaiting, ?_⟩, hcases⟩
    · cases member
    · rw [stream_top, hwaiting]
  | some chunk =>
    obtain ⟨hofferedGone, hofferedClosed⟩ := drive.flags_offerChunk chunk
    obtain ⟨hgone, -, hcases⟩ :=
      hpass (drive.offerChunk chunk) (by simp [top, hwaiting]) hofferedGone hofferedClosed
    refine ⟨_, drive.outputs_offerChunk chunk, hgone, fun heq => ?_, hcases⟩
    cases heq

end Drive

namespace Driving

variable {driving next : Driving}

theorem Latched.start (accepts : Option Nat) : Latched (Driving.start accepts) where
  gone := iff_of_false Bool.false_ne_true not_mem_nil
  flagged := fun member => by cases member
  closed := fun closed => by cases closed
  final := List.Pairwise.nil

theorem sends_close {outputs : List Request}
    (output : ∀ request ∈ outputs, ∃ startOffset bytes, request = .output startOffset bytes)
    (closes : (driving.refused (outputs ++ [exited])).all Request.isClose = true) :
    exited ∈ driving.sends (outputs ++ [exited]) := by
  have hlast : exited ∈ outputs ++ [exited] := mem_append_right _ mem_cons_self
  unfold refused at closes
  unfold sends
  split
  · rename_i left haccepts
    rw [haccepts] at closes
    by_cases hshort : left < outputs.length
    · have hmember : outputs[left] ∈ (outputs ++ [exited]).drop left := by
        rw [drop_append_of_le_length (by omega), drop_eq_getElem_cons hshort]
        exact mem_cons_self
      obtain ⟨startOffset, bytes, heq⟩ := output outputs[left] (getElem_mem hshort)
      have hclose := all_eq_true.mp closes _ hmember
      rw [heq] at hclose
      cases hclose
    · rw [take_of_length_le (by rw [length_append, length_singleton]; omega)]
      exact hlast
  · exact hlast

theorem Latched.top (latched : driving.Latched) (phase : driving.drive.phase = .top) :
    (driving.after driving.drive.top).Latched := by
  have hgoes : driving.drive.phase ≠ .returned := by
    rw [phase]
    decide
  obtain ⟨outputs, houtput, hgone, hidle, hcases⟩ := driving.drive.top_cases
  have hdiffers : ∀ request ∈ outputs, request ≠ exited := by
    rintro request member rfl
    obtain ⟨startOffset, bytes, heq⟩ := houtput _ member
    cases heq
  rcases hcases with ⟨hrequests, hclosed, -⟩ | ⟨hrequests, hopen, hclosed, howner, hwaiting, hunacked⟩
  · refine Latched.after ?_ ?_ ?_ latched.final ?_ ?_
    · rw [hgone]
      exact latched.gone
    · rw [hclosed]
      exact latched.flagged
    · rw [hclosed, hgone]
      intro closed _
      obtain ⟨hasked, howner, hheld, hunacked⟩ := latched.closed closed hgoes
      obtain ⟨-, hwaiting, hstream⟩ := hidle hheld
      rw [hstream]
      exact ⟨hasked, howner, hwaiting, hunacked⟩
    · intro hasked request member
      obtain ⟨-, -, hheld, -⟩ := latched.closed (latched.flagged hasked) hgoes
      rw [hrequests, (hidle hheld).1] at member
      cases member
    · rw [hrequests]
      exact fun member => hdiffers _ member rfl
  · have hunasked : .asked exited ∉ driving.log := by
      intro hasked
      rw [latched.flagged hasked] at hopen
      cases hopen
    constructor
    · rw [ownerGone_after, hgone, given_mem_after]
      exact latched.gone
    · intro _
      rw [closed_after]
      exact hclosed
    · intro _ goes
      have hcloses := (phase_after _ _ goes).2
      rw [hrequests] at hcloses
      rw [asked_mem_after, ownerGone_after, hgone, waiting_after, stream_after, hrequests]
      exact ⟨.inr (sends_close houtput hcloses), howner, hwaiting, hunacked⟩
    · refine latched.final.after (fun hasked => absurd hasked hunasked) ?_
      rw [hrequests, pairwise_append]
      refine ⟨?_, pairwise_singleton _ _, ?_⟩
      · refine pairwise_of_forall_mem_list ?_
        exact fun earlier member _ _ heq => absurd heq (hdiffers earlier member)
      · exact fun earlier member _ _ heq => absurd heq (hdiffers earlier member)

theorem Latched.owner (latched : driving.Latched) (phase : driving.drive.phase = .selecting)
    (takes : driving.drive.takesOwner = true) (message : Option FromOwner) :
    ((driving.given message).after (driving.drive.onOwner message)).Latched := by
  have hgoes : driving.drive.phase ≠ .returned := by
    rw [phase]
    decide
  have hthere : driving.drive.ownerGone = false := by
    unfold Drive.takesOwner at takes
    simpa using (Bool.and_eq_true_iff.mp takes).1
  have hopen : driving.drive.closed = false := by
    by_contra hclosed
    have howner := (latched.closed (by simpa using hclosed) hgoes).2.1
    rw [hthere] at howner
    cases howner
  have hunasked : .asked exited ∉ (driving.given message).log := by
    intro hasked
    have hclosed := latched.flagged (by simpa using hasked)
    rw [hopen] at hclosed
    cases hclosed
  obtain ⟨hclosed, hgone, hother⟩ := driving.drive.flags_onOwner message
  refine Latched.after ?_ (fun hasked => absurd hasked hunasked) ?_ (latched.final.append rfl)
    (fun hasked => absurd hasked hunasked) hother
  · have hbefore : .given none ∉ driving.log := by
      rw [← latched.gone, hthere]
      exact Bool.false_ne_true
    rw [hgone, hthere, Bool.false_or, log_given, mem_append, or_iff_right hbefore, mem_singleton]
    cases message with
    | none => simp
    | some message => simp
  · rw [hclosed, hopen]
    exact fun closed => by cases closed

theorem Latched.step (latched : driving.Latched) (tracks : driving.Tracks) {action : DrivingAction}
    (stepped : driving.step action = some next) : next.Latched := by
  cases taken_of_step stepped with
  | top phase => exact latched.top phase
  | event event phase =>
    have hgoes : driving.drive.phase ≠ .returned := by
      rw [phase]
      decide
    obtain ⟨hgone, hclosed, hwaiting⟩ := driving.drive.flags_onEvent event
    refine Latched.after ?_ ?_ ?_ ?_ ?_ (driving.drive.unasked_onEvent event)
    · rw [hgone, latched.gone]
      simp
    · rw [hclosed]
      intro hasked
      exact latched.flagged (by simpa using hasked)
    · rw [hclosed, hgone, hwaiting]
      intro closed _
      obtain ⟨hasked, howner, hheld, hunacked⟩ := latched.closed closed hgoes
      refine ⟨by simpa using hasked, howner, hheld, Nat.le_zero.mp ?_⟩
      exact hunacked ▸ Drive.unacked_onEvent tracks.aligned event
    · exact latched.final.append rfl
    · intro hasked
      have hclosed := latched.flagged (by simpa using hasked)
      have hunacked := (latched.closed hclosed hgoes).2.2.2
      apply Drive.silent_onEvent
      have howing := tracks.owing hgoes
      have hnone := (Outgoing.owed_nil_iff howing.aligned howing.owes howing.reaches).mpr hunacked
      exact hnone ▸ howing
  | owner message phase takes => exact latched.owner phase takes message
  | notices action notices quiet => exact ⟨latched.gone, latched.flagged, latched.closed, latched.final⟩

theorem tracks_run {accepts : Option Nat} {actions : List DrivingAction}
    (ran : run step (start accepts) actions = some driving) :
    driving.Tracks ∧ driving.Latched := by
  have hstart := Drive.Owing.start
  refine @run_invariant _ _ _ (fun driving => driving.Tracks ∧ driving.Latched) ?_ _ _ _ ?_ ran
  · intro driving action next inv stepped
    exact ⟨inv.1.step stepped, inv.2.step inv.1 stepped⟩
  · exact ⟨⟨hstart.aligned, hstart.owes, fun _ => hstart.reaches, hstart.positive⟩, .start accepts⟩

theorem settled_at_close (tracks : driving.Tracks) (latched : driving.Latched)
    {action : DrivingAction} (stepped : driving.step action = some next)
    (before : .asked exited ∉ driving.log) (asked : .asked exited ∈ next.log) :
    .given none ∈ driving.log ∧ next.drive.waiting = none ∧ owed next.log = [] := by
  have hafter := tracks.step stepped
  cases taken_of_step stepped with
  | top phase =>
    obtain ⟨outputs, houtput, -, -, hcases⟩ := driving.drive.top_cases
    rw [asked_mem_after, or_iff_right before] at asked
    have hmember := (driving.sends_sublist _).subset asked
    rcases hcases with ⟨hrequests, -, -⟩ | ⟨-, -, -, howner, hwaiting, hunacked⟩
    · rw [hrequests] at hmember
      obtain ⟨startOffset, bytes, heq⟩ := houtput _ hmember
      cases heq
    · refine ⟨latched.gone.mp howner, (waiting_after _ _).trans hwaiting, ?_⟩
      refine hafter.owes.eq_nil ?_
      rw [← length_eq_zero_iff, ← hafter.aligned.unacked_eq, stream_after]
      exact hunacked
  | event event phase =>
    rw [asked_mem_after, log_heard] at asked
    rcases asked with hold | hnew
    · exact absurd (by simpa using hold) before
    · have hmember := ((driving.heard event).sends_sublist _).subset hnew
      exact absurd hmember (driving.drive.unasked_onEvent event)
  | owner message phase takes =>
    rw [asked_mem_after, log_given] at asked
    rcases asked with hold | hnew
    · exact absurd (by simpa using hold) before
    · have hmember := ((driving.given message).sends_sublist _).subset hnew
      exact absurd hmember (driving.drive.flags_onOwner message).2.2
  | notices action notices quiet => exact absurd asked before

theorem closes_when_settled (tracks : driving.Tracks) (latched : driving.Latched)
    (phase : driving.drive.phase = .top) (ended : .given none ∈ driving.log)
    (unheld : driving.drive.waiting = none) (settled : owed driving.log = []) :
    .asked exited ∈ (driving.after driving.drive.top).log := by
  have hgoes : driving.drive.phase ≠ .returned := by
    rw [phase]
    decide
  rw [asked_mem_after]
  by_cases hclosed : driving.drive.closed = true
  · exact .inl (latched.closed hclosed hgoes).1
  · right
    obtain ⟨outputs, -, -, hidle, hcases⟩ := driving.drive.top_cases
    obtain ⟨rfl, hwaiting, hstream⟩ := hidle unheld
    have hunacked : driving.drive.stream.unacked = 0 :=
      (Outgoing.owed_nil_iff tracks.aligned tracks.owes (tracks.reaches hgoes)).mp settled
    rcases hcases with ⟨-, -, hpending⟩ | ⟨hrequests, -⟩
    · refine absurd ⟨latched.gone.mpr ended, by simpa using hclosed, hwaiting, ?_⟩ hpending
      rw [hstream]
      exact hunacked
    · rw [hrequests]
      apply @sends_close driving []
      · exact fun request member => by cases member
      · rw [all_eq_true]
        intro request member
        have := (driving.refused_sublist _).subset member
        rw [mem_singleton.mp this]
        rfl

/-- In every run, the close of a shell that exited is asked for at most once and no output
after it; the step that asks for it leaves an owner that has ended, no chunk held and
nothing owed; and from such a state the next pass has asked for it. -/
theorem exit_closed_once_settled (accepts : Option Nat) (actions : List DrivingAction)
    (driving : Driving) (ran : run step (start accepts) actions = some driving) :
    Final driving.log ∧
      (∀ action next, driving.step action = some next → .asked exited ∉ driving.log →
        .asked exited ∈ next.log →
          .given none ∈ driving.log ∧ next.drive.waiting = none ∧ owed next.log = []) ∧
      (driving.drive.phase = .top → .given none ∈ driving.log → driving.drive.waiting = none →
        owed driving.log = [] →
          ∃ next, driving.step .top = some next ∧ .asked exited ∈ next.log) := by
  obtain ⟨htracks, hlatched⟩ := tracks_run ran
  refine ⟨hlatched.final, ?_, ?_⟩
  · exact fun action next stepped => settled_at_close htracks hlatched stepped
  · intro phase ended unheld settled
    refine ⟨driving.after driving.drive.top, ?_, ?_⟩
    · simp only [step, phase]
    · exact closes_when_settled htracks hlatched phase ended unheld settled

/-- A shell that said goodbye, was acknowledged and exited. -/
def goodbye : List DrivingAction :=
  [.top, .event (some (.attached 0 0 ⟨1024, 65536⟩)), .top, .owner (some (.output [98, 121, 101])),
    .top, .event (some (.ack 3)), .top, .owner none]

theorem goodbye_closed : ∃ driving, run step (start none) goodbye = some driving ∧
      ∃ next, driving.step .top = some next ∧ .asked exited ∈ next.log :=
  ⟨_, rfl, (exit_closed_once_settled none goodbye _ rfl).2.2 rfl (by decide) rfl (by decide)⟩

/-- An attach past the end gives up what was never acknowledged, and the close follows. -/
theorem closed_unacknowledged : ∃ driving, run step (start none)
        [.top, .event (some (.attached 0 0 ⟨1024, 65536⟩)), .top,
          .owner (some (.output [98, 121, 101])), .top, .event (some .detached), .top,
          .event (some (.attached 0 10 ⟨1024, 65536⟩)), .top, .owner none, .top] = some driving ∧
      .asked exited ∈ driving.log ∧ unacknowledged driving.log = [3] :=
  ⟨_, rfl, by decide, by decide⟩

end Driving

end Hypeterm.Publisher
