import Hypeterm.Library.Runs
import Hypeterm.Publisher.Drive

/-! The driver of one terminal as a system: what its owner, its relay and its transport
do to it, in any order, and all that was said on the way. -/
namespace Hypeterm.Publisher

open Library List Retained

/-- What passed between the driver and the others, in the order it did. -/
inductive DriveRecord where
  | heard (event : Option Event)
  | given (message : Option FromOwner)
  | asked (request : Request)
  deriving DecidableEq

/-- The driver, the window last advertised to it, how many more requests the transport
will take (`none` for all of them), and the record. -/
structure Driving where
  drive : Drive
  advertised : Option Nat
  accepts : Option Nat
  log : List DriveRecord
  deriving DecidableEq

/-- `hear` and `abandon` are the owner's: it takes a notice, or stops listening. -/
inductive DrivingAction where
  | top
  | event (event : Option Event)
  | owner (message : Option FromOwner)
  | hear
  | abandon

def Event.window? : Event → Option Nat
  | .attached _ _ limits => some limits.maxUnackedOutputBytes
  | _ => none

def Request.isClose : Request → Bool
  | .close _ => true
  | _ => false

namespace Driving

def start (accepts : Option Nat) : Driving := ⟨.start, none, accepts, []⟩

/-- An attach advertises the limits of its connection. -/
def heard (driving : Driving) (event : Option Event) : Driving :=
  { driving with
    advertised := (event.bind Event.window?).or driving.advertised
    log := driving.log ++ [.heard event] }

def given (driving : Driving) (message : Option FromOwner) : Driving :=
  { driving with log := driving.log ++ [.given message] }

/-- The requests that are sent: the first that is refused is the last. -/
def sends (driving : Driving) (requests : List Request) : List Request :=
  match driving.accepts with
  | some left => requests.take (left + 1)
  | none => requests

/-- The requests that find the transport gone.  That of a close is ignored; any other
ends the loop. -/
def refused (driving : Driving) (requests : List Request) : List Request :=
  match driving.accepts with
  | some left => requests.drop left
  | none => []

def after (driving : Driving) (turn : Turn) : Driving :=
  { driving with
    drive := if (driving.refused turn.requests).all Request.isClose then turn.drive
      else { turn.drive with phase := .returned }
    accepts := driving.accepts.map (· - turn.requests.length)
    log := driving.log ++ (driving.sends turn.requests).map .asked }

def step (driving : Driving) : DrivingAction → Option Driving
  | .top =>
      match driving.drive.phase with
      | .top => some (driving.after driving.drive.top)
      | _ => none
  | .event event =>
      match driving.drive.phase with
      | .selecting => some ((driving.heard event).after (driving.drive.onEvent event))
      | _ => none
  | .owner message =>
      if driving.drive.phase = .selecting ∧ driving.drive.takesOwner then
        some ((driving.given message).after (driving.drive.onOwner message))
      else none
  | .hear =>
      driving.drive.notices.recv.map fun received =>
        { driving with drive := { driving.drive with notices := received.2 } }
  | .abandon =>
      some { driving with
        drive := { driving.drive with notices := driving.drive.notices.closeReceiver } }

inductive Taken (driving : Driving) : DrivingAction → Driving → Prop where
  | top (phase : driving.drive.phase = .top) :
      Taken driving .top (driving.after driving.drive.top)
  | event (event : Option Event) (phase : driving.drive.phase = .selecting) :
      Taken driving (.event event) ((driving.heard event).after (driving.drive.onEvent event))
  | owner (message : Option FromOwner) (phase : driving.drive.phase = .selecting)
      (takes : driving.drive.takesOwner = true) :
      Taken driving (.owner message) ((driving.given message).after (driving.drive.onOwner message))
  | notices (action : DrivingAction) (notices : Channel Notice) :
      (action = .hear ∨ action = .abandon) →
      Taken driving action { driving with drive := { driving.drive with notices } }

theorem taken_of_step {driving next : Driving} {action : DrivingAction}
    (stepped : driving.step action = some next) : Taken driving action next := by
  cases action with
  | top =>
    simp only [step] at stepped
    split at stepped
    · rename_i hphase
      cases stepped
      exact .top hphase
    · cases stepped
  | event event =>
    simp only [step] at stepped
    split at stepped
    · rename_i hphase
      cases stepped
      exact .event event hphase
    · cases stepped
  | owner message =>
    simp only [step] at stepped
    split at stepped
    · rename_i henabled
      cases stepped
      exact .owner message henabled.1 henabled.2
    · cases stepped
  | hear =>
    obtain ⟨received, -, rfl⟩ := Option.map_eq_some_iff.mp stepped
    exact .notices .hear received.2 (.inl rfl)
  | abandon =>
    cases stepped
    exact .notices .abandon _ (.inr rfl)

section
variable (driving : Driving) (turn : Turn) (event : Option Event) (message : Option FromOwner)

@[simp] theorem stream_after : (driving.after turn).drive.stream = turn.drive.stream := by
  unfold after
  split <;> rfl

@[simp] theorem maxFrame_after : (driving.after turn).drive.maxFrame = turn.drive.maxFrame := by
  unfold after
  split <;> rfl

@[simp] theorem ownerGone_after : (driving.after turn).drive.ownerGone = turn.drive.ownerGone := by
  unfold after
  split <;> rfl

@[simp] theorem closed_after : (driving.after turn).drive.closed = turn.drive.closed := by
  unfold after
  split <;> rfl

@[simp] theorem waiting_after : (driving.after turn).drive.waiting = turn.drive.waiting := by
  unfold after
  split <;> rfl

theorem phase_after (goes : (driving.after turn).drive.phase ≠ .returned) :
    turn.drive.phase ≠ .returned ∧
      (driving.refused turn.requests).all Request.isClose = true := by
  unfold after at goes
  split at goes
  · rename_i hclose
    exact ⟨goes, hclose⟩
  · exact absurd rfl goes

theorem sends_sublist (driving : Driving) (requests : List Request) :
    (driving.sends requests).Sublist requests := by
  unfold sends
  split
  · exact take_sublist _ _
  · exact Sublist.refl _

theorem refused_sublist (driving : Driving) (requests : List Request) :
    (driving.refused requests).Sublist requests := by
  unfold refused
  split
  · exact drop_sublist _ _
  · exact nil_sublist _

@[simp] theorem log_after :
    (driving.after turn).log = driving.log ++ (driving.sends turn.requests).map .asked := rfl

@[simp] theorem log_heard : (driving.heard event).log = driving.log ++ [.heard event] := rfl

@[simp] theorem log_given : (driving.given message).log = driving.log ++ [.given message] := rfl

end

end Driving

namespace Outgoing

variable {stream : Outgoing}

theorem Aligned.unacked_eq (aligned : stream.Aligned) :
    stream.unacked = stream.retained.bytes.length := by
  unfold Aligned endOffset at aligned
  rw [unacked, aligned, Nat.add_sub_cancel_left]

theorem positioned_of_maySend (may : stream.maySend = true) : stream.positioned = true :=
  (Bool.and_eq_true_iff.mp may).1

theorem send_eq (positioned : stream.positioned = true) (chunk : Bytes) : stream.send chunk =
      ({ stream with
         retained := stream.retained.append chunk
         nextOffset := stream.nextOffset + chunk.length }, some stream.nextOffset) := by
  rw [send, if_pos positioned]

theorem place_cases (stream : Outgoing) (nextOffset : Nat) :
    (stream.place nextOffset).positioned = true ∧
      (stream.place nextOffset = { stream with positioned := true, resyncTarget := none } ∨
        stream.retained = ⟨0, []⟩ ∧ stream.nextOffset = 0 ∧
          (stream.place nextOffset).retained = ⟨nextOffset, []⟩) := by
  unfold place
  dsimp only
  split
  · rename_i hfresh
    refine ⟨rfl, .inr ⟨?_, hfresh.2.2, rfl⟩⟩
    rw [← hfresh.2.1, ← List.isEmpty_iff.mp hfresh.1]
  · exact ⟨rfl, .inl rfl⟩

theorem attached_retained (aligned : stream.Aligned) (nextOffset : Nat) :
    (stream.attached nextOffset).1.Aligned ∧
      (stream.attached nextOffset).1.positioned = true ∧
      (stream.attached nextOffset).1.retained =
        if stream.retained.endOffset < nextOffset then ⟨nextOffset, []⟩ else stream.retained := by
  have hend : stream.retained.endOffset = stream.retained.start + stream.retained.bytes.length := rfl
  obtain ⟨hpositioned, hcases⟩ := stream.place_cases nextOffset
  unfold attached
  dsimp only
  rcases hcases with hplace | ⟨hretained, hnext, hplace⟩
  · have hfresh : (stream.place nextOffset).retained = stream.retained := by rw [hplace]
    rw [hfresh]
    unfold Aligned at aligned ⊢
    by_cases hbehind : nextOffset < stream.retained.start
    · rw [if_pos hbehind, if_neg (by omega)]
      exact ⟨by rw [hplace]; exact aligned, hpositioned, hfresh⟩
    · rw [if_neg hbehind]
      cases hfound : stream.retained.fromOffset nextOffset with
      | some bytes =>
        have hreach := (fromOffset_eq_some hfound).2.2
        rw [if_neg (by omega)]
        cases bytes with
        | nil =>
          have hreach : nextOffset = stream.retained.endOffset := by simpa using hreach
          exact ⟨by rw [hplace]; exact hreach, hpositioned, rfl⟩
        | cons byte rest => exact ⟨by rw [hplace]; exact hreach, hpositioned, rfl⟩
      | none =>
        have hbeyond : stream.retained.endOffset < nextOffset := by
          unfold fromOffset at hfound
          split at hfound
          · rename_i houtside
            exact houtside.resolve_left hbehind
          · cases hfound
        rw [if_pos hbeyond]
        exact ⟨rfl, hpositioned, rfl⟩
  · have hfound : (stream.place nextOffset).retained.fromOffset nextOffset = some [] := by
      rw [hplace]
      simp [fromOffset, endOffset]
    have hstart : ¬ nextOffset < (stream.place nextOffset).retained.start := by
      rw [hplace]
      exact Nat.lt_irrefl _
    rw [if_neg hstart, hfound]
    refine ⟨?_, hpositioned, ?_⟩
    · unfold Aligned
      simp [hplace, endOffset]
    · change (stream.place nextOffset).retained = _
      rw [hplace, hretained]
      split
      · rfl
      · rename_i hnone
        have hzero : nextOffset = 0 := by simpa [endOffset] using hnone
        rw [hzero]

theorem unacked_attached (aligned : stream.Aligned) (nextOffset : Nat) :
    (stream.attached nextOffset).1.unacked =
      if stream.retained.endOffset < nextOffset then 0 else stream.unacked := by
  obtain ⟨haligned, -, hretained⟩ := attached_retained aligned nextOffset
  rw [haligned.unacked_eq, hretained, aligned.unacked_eq]
  split
  · rfl
  · rfl

theorem positioned_mismatch (authoritative : Nat) :
    (stream.mismatch authoritative).1.positioned = stream.positioned := by
  unfold mismatch
  split
  · rfl
  · dsimp only
    split
    · rfl
    · rfl

theorem unacked_mismatch (aligned : stream.Aligned) (authoritative : Nat) :
    (stream.mismatch authoritative).1.unacked = stream.unacked := by
  obtain ⟨-, -, hnext, -⟩ := aligned.mismatch authoritative
  rw [unacked, unacked, retained_mismatch, hnext]

theorem unacked_acknowledge (aligned : stream.Aligned) (durableOffset : Nat) :
    (stream.acknowledge durableOffset).unacked ≤ stream.unacked := by
  rw [(aligned.acknowledge durableOffset).unacked_eq, aligned.unacked_eq]
  unfold acknowledge releaseThrough
  split
  · exact Nat.le_refl _
  · simp

end Outgoing

namespace Drive

variable {drive : Drive}

section
variable (drive : Drive) (notice : Notice)

@[simp] theorem maxFrame_notify : (drive.notify notice).maxFrame = drive.maxFrame := by
  unfold notify
  split <;> rfl

@[simp] theorem ownerGone_notify : (drive.notify notice).ownerGone = drive.ownerGone := by
  unfold notify
  split <;> rfl

@[simp] theorem closed_notify : (drive.notify notice).closed = drive.closed := by
  unfold notify
  split <;> rfl

end

theorem stream_offerChunk (drive : Drive) (chunk : Bytes) : (drive.offerChunk chunk).drive.stream =
      if drive.stream.maySend then (drive.stream.send chunk).1 else drive.stream := by
  unfold offerChunk
  split
  · rename_i hmay
    rw [Outgoing.send_eq (Outgoing.positioned_of_maySend hmay)]
  · rfl

theorem stream_top (drive : Drive) : drive.top.drive.stream =
    match drive.waiting with
    | some chunk => (drive.offerChunk chunk).drive.stream
    | none => drive.stream := by
  unfold top
  rw [stream_closeWhenDone]
  cases drive.waiting with
  | none => rfl
  | some chunk => rfl

theorem aligned_offerChunk (aligned : drive.stream.Aligned) (chunk : Bytes) :
    (drive.offerChunk chunk).drive.stream.Aligned := by
  rw [stream_offerChunk]
  split
  · exact aligned.send chunk
  · exact aligned

theorem aligned_onEvent (aligned : drive.stream.Aligned) (event : Option Event) :
    (drive.onEvent event).drive.stream.Aligned := by
  cases event with
  | none => simpa [onEvent] using aligned
  | some event =>
    cases event with
    | attached terminalId nextOffset limits =>
      simp only [onEvent, (answer_fields _ _).2.2.1]
      exact (Outgoing.attached_retained
        (aligned.setWindow limits.maxUnackedOutputBytes) nextOffset).1
    | ack durableOffset => exact aligned.acknowledge durableOffset
    | mismatch nextOffset =>
      simp only [onEvent, (answer_fields _ _).2.2.1]
      exact (aligned.mismatch nextOffset).1
    | detached => exact aligned.detached
    | input bytes =>
      simp only [onEvent]
      split
      · exact aligned
      · exact aligned
    | resizeRequest | ended => simpa [onEvent] using aligned

theorem unacked_onEvent (aligned : drive.stream.Aligned) (event : Option Event) :
    (drive.onEvent event).drive.stream.unacked ≤ drive.stream.unacked := by
  cases event with
  | none => simp [onEvent]
  | some event =>
    cases event with
    | attached terminalId nextOffset limits =>
      simp only [onEvent, (answer_fields _ _).2.2.1, applyLimits]
      rw [Outgoing.unacked_attached (aligned.setWindow limits.maxUnackedOutputBytes)]
      split
      · exact Nat.zero_le _
      · exact Nat.le_refl _
    | ack durableOffset => exact Outgoing.unacked_acknowledge aligned durableOffset
    | mismatch nextOffset =>
      simp only [onEvent, (answer_fields _ _).2.2.1, Outgoing.unacked_mismatch aligned, Nat.le_refl]
    | detached => exact Nat.le_refl _
    | input bytes =>
      simp only [onEvent]
      split
      · exact Nat.le_refl _
      · exact Nat.le_refl _
    | resizeRequest | ended => simp [onEvent]

end Drive

theorem Driving.aligned_step {driving next : Driving} {action : DrivingAction}
    (aligned : driving.drive.stream.Aligned) (stepped : driving.step action = some next) :
    next.drive.stream.Aligned := by
  cases taken_of_step stepped with
  | top phase =>
    rw [stream_after, Drive.stream_top]
    split
    · exact Drive.aligned_offerChunk aligned _
    · exact aligned
  | event event phase =>
    rw [stream_after]
    exact Drive.aligned_onEvent aligned event
  | owner message phase takes =>
    rw [stream_after]
    cases message with
    | none => exact aligned
    | some message =>
      cases message with
      | output chunk => exact Drive.aligned_offerChunk aligned chunk
      | resize cols rows => exact aligned
  | notices action notices quiet => exact aligned

theorem Driving.aligned_run {accepts : Option Nat} {actions : List DrivingAction}
    {driving : Driving} (ran : run step (start accepts) actions = some driving) :
    driving.drive.stream.Aligned :=
  @run_invariant _ _ _ (fun driving => driving.drive.stream.Aligned)
    (fun _ _ _ aligned stepped => aligned_step aligned stepped) _ _ _ .new ran

end Hypeterm.Publisher
