import Hypeterm.Publisher.Drive
import Hypeterm.Library.Runs

/-! Resynchronisation after an `Attached`.  The relay appends a frame that starts where
it is and answers every other one with where it is; both channels keep their order. -/
namespace Hypeterm.Publisher.Convergence

open Library List Drive

/-- A frame on its way to the relay.  `again` is history: the frame answers the relay's
own word on where the stream is. -/
structure Sent where
  startOffset : Nat
  bytes : Bytes
  again : Bool

/-- `nextOffset` is the relay's.  An event carries the tag of the frame it answers.  The
last three fields are history: what the stream answered to the `Attached` and to refusals,
and how many frames went out with the former. -/
structure System where
  drive : Drive
  owner : List FromOwner
  ownerDropped : Bool
  uplink : List Sent
  downlink : List (Event × Bool)
  nextOffset : Nat
  attached : Option Resync
  refused : List Resync
  attachedFrames : Nat

/-- `tell` is an event that does not say where the stream is. -/
inductive Action where
  | publish (message : FromOwner)
  | dropOwner
  | top
  | takeOwner
  | takeEvent
  | relay
  | tell (event : Event)

def Resync.isRetransmit : Resync → Bool
  | .retransmit _ _ => true
  | _ => false

def frames (again : Bool) (requests : List Request) : List Sent :=
  requests.filterMap fun
    | .output startOffset bytes => some ⟨startOffset, bytes, again⟩
    | _ => none

namespace System

def afterTurn (system : System) (turn : Turn) (again : Bool) : System :=
  { system with
    drive := turn.drive
    uplink := system.uplink ++ frames again turn.requests }

/-- The driver takes an event and the answer of its stream is recorded. -/
def hear (system : System) (event : Event) : System :=
  let turn := system.drive.onEvent (some event)
  let after := system.afterTurn turn true
  match event with
  | .attached _ _ _ =>
      { after with
        attached := turn.resync, attachedFrames := (frames true turn.requests).length }
  | _ => { after with refused := system.refused ++ turn.resync.toList }

end System

def step (system : System) : Action → Option System
  | .publish message =>
      if system.ownerDropped then none else some { system with owner := system.owner ++ [message] }
  | .dropOwner => some { system with ownerDropped := true }
  | .top =>
      match system.drive.phase with
      | .top => some (system.afterTurn system.drive.top false)
      | _ => none
  | .takeOwner =>
      if system.drive.phase = .selecting ∧ system.drive.takesOwner then
        match system.owner with
        | message :: owner =>
            some (({ system with owner } : System).afterTurn
              (system.drive.onOwner (some message)) false)
        | [] =>
            if system.ownerDropped then some (system.afterTurn (system.drive.onOwner none) false)
            else none
      else none
  | .takeEvent =>
      match system.drive.phase, system.downlink with
      | .selecting, (event, _) :: downlink => some (({ system with downlink } : System).hear event)
      | _, _ => none
  | .relay =>
      match system.uplink with
      | frame :: uplink =>
          if frame.startOffset = system.nextOffset then
            some { system with uplink, nextOffset := system.nextOffset + frame.bytes.length }
          else
            some { system with
              uplink
              downlink := system.downlink ++ [(.mismatch system.nextOffset, frame.again)] }
      | [] => none
  | .tell event =>
      match event with
      | .ack durableOffset =>
          if durableOffset ≤ system.nextOffset then
            some { system with downlink := system.downlink ++ [(event, false)] }
          else none
      | .input _ | .resizeRequest _ _ | .ended _ =>
          some { system with downlink := system.downlink ++ [(event, false)] }
      | _ => none

/-- The relay's next offset after the frames, and what its refusals of them name. -/
def settle : Nat → List Sent → Nat × List (Nat × Bool)
  | nextOffset, [] => (nextOffset, [])
  | nextOffset, frame :: rest =>
      if frame.startOffset = nextOffset then settle (nextOffset + frame.bytes.length) rest
      else
        let settled := settle nextOffset rest
        (settled.1, (nextOffset, frame.again) :: settled.2)

def refusals (downlink : List (Event × Bool)) : List (Nat × Bool) :=
  downlink.filterMap fun
    | (.mismatch nextOffset, again) => some (nextOffset, again)
    | _ => none

/-- The refusals the driver has still to hear, those of frames on their way included. -/
def System.coming (system : System) : List (Nat × Bool) :=
  refusals system.downlink ++ (settle system.nextOffset system.uplink).2

def news : Option Nat → List (Nat × Bool) → List (Nat × Bool)
  | _, [] => []
  | target, refusal :: rest =>
      if target = some refusal.1 then news target rest
      else refusal :: news (some refusal.1) rest

/-- A refusal with nothing to send again, and of a frame that was. -/
def spent (endOffset : Nat) (refusal : Nat × Bool) : Bool := refusal.2 && refusal.1 = endOffset

/-- How many of the refusals may still have bytes sent again. -/
def changes (endOffset : Nat) (target : Option Nat) (coming : List (Nat × Bool)) : Nat :=
  (news target coming).countP fun refusal => !spent endOffset refusal

def lastNamed : Option Nat → List (Nat × Bool) → Option Nat
  | target, [] => target
  | _, refusal :: rest => lastNamed (some refusal.1) rest

namespace System

/-- What the driver has still to hear about frames that were sent again names no end of
the stream, but in an echo. -/
def quiet (system : System) : Bool :=
  (news system.drive.stream.resyncTarget system.coming).all fun refusal =>
    !spent system.drive.stream.nextOffset refusal

def handsOver (system : System) : Action → Bool
  | .top => system.drive.stream.maySend && !(system.drive.waiting.getD []).isEmpty
  | .takeOwner =>
      system.drive.stream.maySend &&
        match system.owner with
        | .output chunk :: _ => !chunk.isEmpty
        | _ => false
  | _ => false

end System

/-- Fresh output follows only while no frame sent again is going to be refused with the
end of the stream. -/
def calm (system : System) (action : Action) : Bool := !system.handsOver action || system.quiet

variable (target : Option Nat)

theorem lastNamed_append (first second : List (Nat × Bool)) :
    lastNamed target (first ++ second) = lastNamed (lastNamed target first) second := by
  induction first generalizing target with
  | nil => rfl
  | cons refusal rest ih => exact ih (some refusal.1)

theorem news_append (first second : List (Nat × Bool)) :
    news target (first ++ second) = news target first ++ news (lastNamed target first) second := by
  induction first generalizing target with
  | nil => rfl
  | cons refusal rest ih =>
    simp only [cons_append, news, lastNamed]
    split
    · rename_i hsame
      rw [ih, hsame]
    · rw [ih, cons_append]

theorem news_sublist (coming : List (Nat × Bool)) : (news target coming).Sublist coming := by
  induction coming generalizing target with
  | nil => exact Sublist.refl _
  | cons refusal rest ih =>
    rw [news]
    split
    · exact (ih target).cons refusal
    · exact (ih _).cons_cons refusal

variable {named endOffset inFlight : Nat} {coming : List (Nat × Bool)} {sent : List Sent}
  {again : Bool} {system : System} {action : Action}

theorem news_same
    (same : ∀ refusal ∈ coming, refusal.1 = named) : news (some named) coming = [] := by
  induction coming with
  | nil => rfl
  | cons refusal rest ih =>
    rw [news, if_pos (by rw [same refusal mem_cons_self])]
    exact ih fun other member => same other (mem_cons_of_mem _ member)

theorem changes_append (endOffset : Nat) (target : Option Nat) (first second : List (Nat × Bool)) :
    changes endOffset target (first ++ second) =
      changes endOffset target first + changes endOffset (lastNamed target first) second := by
  unfold changes
  rw [news_append, countP_append]

theorem changes_le_length (endOffset : Nat) (target : Option Nat)
    (coming : List (Nat × Bool)) : changes endOffset target coming ≤ coming.length :=
  countP_le_length.trans (news_sublist target coming).length_le

theorem changes_same (same : ∀ refusal ∈ coming, refusal.1 = named) :
    changes endOffset (some named) coming = 0 := by
  unfold changes
  rw [news_same same]
  rfl

theorem changes_le_one (endOffset : Nat) (target : Option Nat)
    (same : ∀ refusal ∈ coming, refusal.1 = named) : changes endOffset target coming ≤ 1 := by
  cases coming with
  | nil => exact Nat.zero_le 1
  | cons refusal rest =>
    have hrest : news (some refusal.1) rest = [] := by
      apply news_same
      intro other member
      rw [same other (mem_cons_of_mem _ member), same refusal mem_cons_self]
    unfold changes
    rw [news]
    split
    · rename_i hsame
      rw [hsame, hrest]
      exact Nat.zero_le 1
    · rw [hrest]
      exact countP_le_length

theorem changes_end (same : ∀ refusal ∈ coming, refusal = (endOffset, true)) :
    changes endOffset target coming = 0 := by
  apply countP_eq_zero.mpr
  intro refusal member
  rw [same refusal ((news_sublist target coming).subset member)]
  simp [spent]

theorem changes_grow (later : Nat) {target : Option Nat}
    (quiet : ((news target coming).all fun refusal => !spent endOffset refusal) = true) :
    changes later target coming ≤ changes endOffset target coming := by
  have hall : changes endOffset target coming = (news target coming).length :=
    countP_eq_length.mpr (all_eq_true.mp quiet)
  rw [hall]
  exact countP_le_length

theorem changes_cons (endOffset : Nat) (target : Option Nat) (named : Nat) (again : Bool)
    (rest : List (Nat × Bool)) :
    changes endOffset (some named) rest +
        (if target ≠ some named ∧ named ≠ endOffset then 1 else 0) ≤
      changes endOffset target ((named, again) :: rest) := by
  unfold changes
  rw [news]
  by_cases hsame : target = some named
  · rw [if_pos hsame, hsame, if_neg (by simp)]
    exact Nat.le_refl _
  · rw [if_neg hsame, countP_cons]
    split
    · rename_i hshort
      have hcounts : (!spent endOffset (named, again)) = true := by simp [spent, hshort.2]
      rw [if_pos hcounts]
    · exact Nat.le_add_right _ _

theorem lastNamed_same {target : Option Nat}
    (same : ∀ refusal ∈ coming, refusal.1 = named) (some_named : target = some named ∨ coming ≠ []) :
    lastNamed target coming = some named := by
  induction coming generalizing target with
  | nil => exact some_named.resolve_right (by simp)
  | cons refusal rest ih =>
    apply ih fun other member => same other (mem_cons_of_mem _ member)
    rw [same refusal mem_cons_self]
    exact .inl rfl

theorem settle_append (nextOffset : Nat) (first second : List Sent) :
    settle nextOffset (first ++ second) =
      ((settle (settle nextOffset first).1 second).1,
        (settle nextOffset first).2 ++ (settle (settle nextOffset first).1 second).2) := by
  induction first generalizing nextOffset with
  | nil => rfl
  | cons frame rest ih =>
    simp only [cons_append, settle]
    split
    · exact ih _
    · rw [ih]
      rfl

theorem settle_length (nextOffset : Nat) (sent : List Sent) :
    (settle nextOffset sent).2.length ≤ sent.length ∧
      ((settle nextOffset sent).1 ≠ nextOffset →
        (settle nextOffset sent).2.length < sent.length) := by
  induction sent generalizing nextOffset with
  | nil => exact ⟨Nat.le_refl _, fun moved => absurd rfl moved⟩
  | cons frame rest ih =>
    rw [settle]
    split
    · have hrest := (ih (nextOffset + frame.bytes.length)).1
      exact ⟨hrest.trans (Nat.le_succ _), fun _ => Nat.lt_succ_of_le hrest⟩
    · exact ⟨Nat.succ_le_succ (ih nextOffset).1, fun moved => Nat.succ_lt_succ ((ih nextOffset).2 moved)⟩

theorem settle_bounds {nextOffset bound : Nat} (start : nextOffset ≤ bound)
    (fits : ∀ frame ∈ sent, frame.startOffset + frame.bytes.length ≤ bound) :
    nextOffset ≤ (settle nextOffset sent).1 ∧ (settle nextOffset sent).1 ≤ bound := by
  induction sent generalizing nextOffset with
  | nil => exact ⟨Nat.le_refl _, start⟩
  | cons frame rest ih =>
    have hrest := fun other member => fits other (mem_cons_of_mem frame member)
    rw [settle]
    split
    · rename_i hhere
      have hfirst := fits frame mem_cons_self
      rw [hhere] at hfirst
      have hbounds := ih hfirst hrest
      exact ⟨by omega, hbounds.2⟩
    · exact ih start hrest

def Contiguous (again : Bool) : Nat → List Sent → Nat → Prop
  | startOffset, [], stop => startOffset = stop
  | startOffset, frame :: rest, stop =>
      frame.startOffset = startOffset ∧ frame.again = again ∧
        Contiguous again (startOffset + frame.bytes.length) rest stop

theorem Contiguous.settle_start {startOffset stop : Nat}
    (contiguous : Contiguous again startOffset sent stop) :
    settle startOffset sent = (stop, []) := by
  induction sent generalizing startOffset with
  | nil => rw [show startOffset = stop from contiguous, settle]
  | cons frame rest ih =>
    obtain ⟨hstart, _, hrest⟩ := contiguous
    rw [settle, if_pos hstart]
    exact ih hrest

theorem Contiguous.settle_eq {startOffset stop : Nat}
    (contiguous : Contiguous again startOffset sent stop) (nextOffset : Nat) :
    (∀ refusal ∈ (settle nextOffset sent).2, refusal = (nextOffset, again)) ∧
      ((settle nextOffset sent).1 = stop ∨
        (settle nextOffset sent).1 = nextOffset ∧
          (startOffset = stop ∨ (settle nextOffset sent).2 ≠ [])) := by
  induction sent generalizing startOffset with
  | nil => exact ⟨by simp [settle], .inr ⟨rfl, .inl contiguous⟩⟩
  | cons frame rest ih =>
    obtain ⟨hstart, htag, hrest⟩ := contiguous
    by_cases hhere : frame.startOffset = nextOffset
    · have hall : settle nextOffset (frame :: rest) = (stop, []) := by
        have hcontiguous : Contiguous again startOffset (frame :: rest) stop :=
          ⟨hstart, htag, hrest⟩
        rw [← hhere, hstart]
        exact hcontiguous.settle_start
      rw [hall]
      exact ⟨by simp, .inl rfl⟩
    · obtain ⟨hnamed, hend⟩ := ih hrest
      rw [settle, if_neg hhere]
      refine ⟨?_, ?_⟩
      · intro refusal member
        rcases mem_cons.mp member with rfl | hmember
        · rw [htag]
        · exact hnamed refusal hmember
      · rcases hend with hstop | ⟨hstill, _⟩
        · exact .inl hstop
        · exact .inr ⟨hstill, .inr (by simp)⟩

theorem chunks_flatten {size fuel : Nat} {bytes : Bytes} (positive : 0 < size)
    (enough : bytes.length ≤ fuel) : (chunks size fuel bytes).flatten = bytes := by
  induction fuel generalizing bytes with
  | zero =>
    rw [length_eq_zero_iff.mp (Nat.le_zero.mp enough)]
    rfl
  | succ fuel ih =>
    rw [chunks]
    split
    · rename_i hempty
      rw [List.isEmpty_iff.mp hempty]
      rfl
    · rename_i hbytes
      rw [flatten_cons, ih (by rw [length_drop]; omega), take_append_drop]

theorem contiguous_go (again : Bool) (startOffset : Nat) (pieces : List Bytes) :
    Contiguous again startOffset
      ((framed.go startOffset pieces).map fun frame => ⟨frame.1, frame.2, again⟩)
      (startOffset + pieces.flatten.length) := by
  induction pieces generalizing startOffset with
  | nil => exact rfl
  | cons piece rest ih =>
    refine ⟨rfl, rfl, ?_⟩
    rw [flatten_cons, length_append, ← Nat.add_assoc]
    exact ih (startOffset + piece.length)

theorem frames_sendOutput (again : Bool) (startOffset : Nat) (bytes : Bytes) (maxFrame : Nat) :
    frames again (sendOutput startOffset bytes maxFrame) =
      (framed maxFrame startOffset bytes).map fun frame => ⟨frame.1, frame.2, again⟩ := by
  unfold frames sendOutput
  rw [filterMap_map]
  rw [← filterMap_eq_map]
  rfl

theorem contiguous_sendOutput {maxFrame : Nat} (positive : 0 < maxFrame) (again : Bool)
    (startOffset : Nat) (bytes : Bytes) :
    Contiguous again startOffset (frames again (sendOutput startOffset bytes maxFrame))
      (startOffset + bytes.length) := by
  have hgo := contiguous_go again startOffset (chunks maxFrame bytes.length bytes)
  rw [chunks_flatten positive (Nat.le_refl _)] at hgo
  rw [frames_sendOutput]
  exact hgo

/-- Fresh output goes out from the end of the stream on, if any does. -/
structure Fresh (drive : Drive) (hands : Bool) (turn : Turn) : Prop where
  aligned : turn.drive.stream.Aligned
  positioned : turn.drive.stream.positioned = drive.stream.positioned
  resyncTarget : turn.drive.stream.resyncTarget = drive.stream.resyncTarget
  maxFrame : turn.drive.maxFrame = drive.maxFrame
  contiguous : 0 < drive.maxFrame →
    Contiguous false drive.stream.nextOffset (frames false turn.requests)
      turn.drive.stream.nextOffset
  silent : hands = false →
    frames false turn.requests = [] ∧ turn.drive.stream.nextOffset = drive.stream.nextOffset

theorem frames_append (again : Bool) (first second : List Request) :
    frames again (first ++ second) = frames again first ++ frames again second :=
  filterMap_append

theorem frames_closeWhenDone (again : Bool) (drive : Drive) :
    frames again drive.closeWhenDone.2 = [] := by
  unfold closeWhenDone
  split <;> rfl

theorem maxFrame_closeWhenDone (drive : Drive) :
    drive.closeWhenDone.1.maxFrame = drive.maxFrame := by
  unfold closeWhenDone
  split <;> rfl

section

variable {drive : Drive}

theorem Fresh.idle (aligned : drive.stream.Aligned) (hands : Bool) {turn : Turn}
    (stream : turn.drive.stream = drive.stream) (maxFrame : turn.drive.maxFrame = drive.maxFrame)
    (idle : frames false turn.requests = []) : Fresh drive hands turn := by
  refine ⟨stream ▸ aligned, by rw [stream], by rw [stream], maxFrame, ?_, ?_⟩
  · rw [idle, stream]
    exact fun _ => rfl
  · rw [idle, stream]
    exact fun _ => ⟨rfl, rfl⟩

section

variable (aligned : drive.stream.Aligned)
include aligned

theorem fresh_offerChunk (chunk : Bytes) :
    Fresh drive (drive.stream.maySend && !chunk.isEmpty) (drive.offerChunk chunk) := by
  unfold offerChunk Outgoing.send
  split
  · rename_i hmay
    have hpositioned : drive.stream.positioned = true := by
      unfold Outgoing.maySend at hmay
      exact (Bool.and_eq_true_iff.mp hmay).1
    rw [if_pos hpositioned]
    constructor
    · have hsent := aligned.send chunk
      unfold Outgoing.send at hsent
      rw [if_pos hpositioned] at hsent
      exact hsent
    · rfl
    · rfl
    · rfl
    · exact fun positive => contiguous_sendOutput positive _ _ _
    · intro hempty
      rw [hmay, Bool.true_and, Bool.not_eq_false', List.isEmpty_iff] at hempty
      subst hempty
      exact ⟨rfl, rfl⟩
  · exact Fresh.idle aligned _ rfl rfl rfl

theorem fresh_top :
    Fresh drive (drive.stream.maySend && !(drive.waiting.getD []).isEmpty) drive.top := by
  have hclosed : ∀ {hands : Bool} {offered : Turn}, Fresh drive hands offered →
      Fresh drive hands { offered with
        drive := { offered.drive.closeWhenDone.1 with phase := .selecting }
        requests := offered.requests ++ offered.drive.closeWhenDone.2 } := by
    intro hands offered fresh
    have hframes : frames false (offered.requests ++ offered.drive.closeWhenDone.2) =
        frames false offered.requests := by
      rw [frames_append, frames_closeWhenDone, append_nil]
    constructor
    · rw [stream_closeWhenDone]
      exact fresh.aligned
    · rw [stream_closeWhenDone]
      exact fresh.positioned
    · rw [stream_closeWhenDone]
      exact fresh.resyncTarget
    · exact (maxFrame_closeWhenDone offered.drive).trans fresh.maxFrame
    · rw [stream_closeWhenDone, hframes]
      exact fresh.contiguous
    · rw [stream_closeWhenDone, hframes]
      exact fresh.silent
  unfold Drive.top
  cases hwaiting : drive.waiting with
  | some chunk => exact hclosed (fresh_offerChunk aligned chunk)
  | none =>
    apply hclosed
    exact Fresh.idle aligned _ rfl rfl rfl

theorem fresh_onOwner (hands : Bool) (message : Option FromOwner)
    (handing : ∀ chunk, message = some (.output chunk) →
      hands = (drive.stream.maySend && !chunk.isEmpty)) :
    Fresh drive hands (drive.onOwner message) := by
  cases message with
  | none => exact Fresh.idle aligned _ rfl rfl rfl
  | some message =>
    cases message with
    | output chunk =>
      have hfresh := fresh_offerChunk aligned chunk
      rw [handing chunk rfl]
      exact ⟨hfresh.aligned, hfresh.positioned, hfresh.resyncTarget, hfresh.maxFrame,
        hfresh.contiguous, hfresh.silent⟩
    | resize cols rows => exact Fresh.idle aligned _ rfl rfl rfl

theorem idle_onEvent {event : Event} (other : event.position? = none) (up : event ≠ .detached) :
    (drive.onEvent (some event)).drive.stream.Aligned ∧
      (drive.onEvent (some event)).drive.stream.resyncTarget = drive.stream.resyncTarget ∧
      (drive.onEvent (some event)).drive.stream.nextOffset = drive.stream.nextOffset ∧
      (drive.onEvent (some event)).drive.maxFrame = drive.maxFrame ∧
      (drive.onEvent (some event)).requests = [] ∧
      (drive.onEvent (some event)).resync = none := by
  have hnotify : ∀ notice, (drive.notify notice).maxFrame = drive.maxFrame := by
    intro notice
    unfold notify
    split <;> rfl
  cases event with
  | attached | mismatch => cases other
  | detached => exact absurd rfl up
  | ack durableOffset => exact ⟨aligned.acknowledge durableOffset, rfl, rfl, rfl, rfl, rfl⟩
  | input bytes =>
    simp only [onEvent]
    split <;> exact ⟨aligned, rfl, rfl, rfl, rfl, rfl⟩
  | resizeRequest | ended => simp [onEvent, hnotify, aligned]

end

end

/-! While the connection is up, every refusal that may have bytes sent again is one of a
frame that was in flight when the relay opened the terminal. -/

/-- The relay will end where the stream does, or its last refusal says where it is. -/
def Settled (endOffset : Nat) (target : Option Nat) (coming : List (Nat × Bool)) (relay : Nat) :
    Prop :=
  relay = endOffset ∨ lastNamed target coming = some relay

section

variable {endOffset relay : Nat} {target : Option Nat} {coming : List (Nat × Bool)}
  {sent : List Sent}

theorem Settled.resend (settled : Settled endOffset target coming relay) {startOffset : Nat}
    (contiguous : Contiguous true startOffset sent endOffset) (short : startOffset ≠ endOffset) :
    changes endOffset target (coming ++ (settle relay sent).2) = changes endOffset target coming ∧
      Settled endOffset target (coming ++ (settle relay sent).2) (settle relay sent).1 := by
  obtain ⟨hnamed, hreached⟩ := contiguous.settle_eq relay
  have hsame : ∀ refusal ∈ (settle relay sent).2, refusal.1 = relay :=
    fun refusal member => by rw [hnamed refusal member]
  constructor
  · rw [changes_append]
    rcases settled with rfl | hlast
    · rw [changes_end _ hnamed, Nat.add_zero]
    · rw [hlast, changes_same hsame, Nat.add_zero]
  · rcases hreached with hstop | ⟨hstill, hrefused⟩
    · exact .inl hstop
    · right
      rw [hstill, lastNamed_append]
      exact lastNamed_same hsame (Or.inr (hrefused.resolve_left short))

theorem Settled.fresh (settled : Settled endOffset target coming relay) {later : Nat}
    (contiguous : Contiguous false endOffset sent later) :
    changes later target (coming ++ (settle relay sent).2) = changes later target coming ∧
      Settled later target (coming ++ (settle relay sent).2) (settle relay sent).1 := by
  rcases settled with rfl | hlast
  · rw [contiguous.settle_start, append_nil]
    exact ⟨rfl, .inl rfl⟩
  · obtain ⟨hnamed, hreached⟩ := contiguous.settle_eq relay
    have hsame : ∀ refusal ∈ (settle relay sent).2, refusal.1 = relay :=
      fun refusal member => by rw [hnamed refusal member]
    constructor
    · rw [changes_append, hlast, changes_same hsame, Nat.add_zero]
    · rcases hreached with hstop | ⟨hstill, _⟩
      · exact .inl hstop
      · right
        rw [hstill, lastNamed_append]
        exact lastNamed_same hsame (Or.inl hlast)

end

namespace System

/-- Where the relay will be after the frames on their way. -/
def reaches (system : System) : Nat := (settle system.nextOffset system.uplink).1

end System

/-- None of the events opens the terminal again or says that the connection is gone. -/
def StaysUp (downlink : List (Event × Bool)) : Prop :=
  ∀ event ∈ downlink, event.1 ≠ .detached ∧ ∀ terminalId nextOffset limits,
    event.1 ≠ .attached terminalId nextOffset limits

structure Before (inFlight : Nat) (system : System) : Prop where
  aligned : system.drive.stream.Aligned
  positioned : system.drive.stream.positioned = false
  pending : ∃ terminalId nextOffset limits later,
    system.downlink = (.attached terminalId nextOffset limits, false) :: later ∧
      StaysUp later ∧ nextOffset ≤ system.nextOffset ∧
      system.nextOffset ≤ max nextOffset system.drive.stream.nextOffset ∧
      (refusals later).length + system.uplink.length ≤ inFlight ∧
      (system.nextOffset ≠ nextOffset →
        (refusals later).length + system.uplink.length < inFlight)
  fits : ∀ frame ∈ system.uplink,
    frame.startOffset + frame.bytes.length ≤ system.drive.stream.nextOffset
  attached : system.attached = none
  refused : system.refused = []

/-- The driver goes on, and has still to hear `coming`. -/
structure Converging (inFlight : Nat) (drive : Drive) (refused : List Resync)
    (coming : List (Nat × Bool)) (relay : Nat) : Prop where
  aligned : drive.stream.Aligned
  positive : 0 < drive.maxFrame
  count : refused.countP Resync.isRetransmit +
    changes drive.stream.nextOffset drive.stream.resyncTarget coming ≤ inFlight
  settled : Settled drive.stream.nextOffset drive.stream.resyncTarget coming relay

structure After (inFlight : Nat) (system : System) : Prop where
  up : StaysUp system.downlink
  attached : system.attached.toList.countP Resync.isRetransmit ≤ system.attachedFrames
  converging :
    Converging inFlight system.drive system.refused system.coming system.reaches

structure Over (inFlight : Nat) (system : System) : Prop where
  returned : system.drive.phase = .returned
  attached : system.attached.toList.countP Resync.isRetransmit ≤ system.attachedFrames
  count : system.refused.countP Resync.isRetransmit ≤ inFlight

def Inv (inFlight : Nat) (system : System) : Prop :=
  Before inFlight system ∨ After inFlight system ∨ Over inFlight system

theorem refusals_append (first second : List (Event × Bool)) :
    refusals (first ++ second) = refusals first ++ refusals second := filterMap_append

theorem refusals_cons (event : Event) (again : Bool) (rest : List (Event × Bool))
    (other : event.position? = none ∨ ∃ terminalId nextOffset limits,
      event = .attached terminalId nextOffset limits) :
    refusals ((event, again) :: rest) = refusals rest := by
  cases event with
  | mismatch nextOffset =>
    rcases other with hnone | ⟨_, _, _, heq⟩
    · cases hnone
    · cases heq
  | attached | ack | detached | input | resizeRequest | ended => rfl

theorem StaysUp.append {downlink : List (Event × Bool)} (up : StaysUp downlink) {event : Event}
    (stays : event ≠ .detached ∧ ∀ terminalId nextOffset limits,
      event ≠ .attached terminalId nextOffset limits) : StaysUp (downlink ++ [(event, again)]) := by
  intro other member
  rcases mem_append.mp member with hold | hnew
  · exact up other hold
  · rw [mem_singleton.mp hnew]
    exact stays

section

variable (system : System) (event : Event)

@[simp] theorem coming_afterTurn (turn : Turn) (again : Bool) :
    (system.afterTurn turn again).coming =
      system.coming ++ (settle system.reaches (frames again turn.requests)).2 := by
  simp only [System.afterTurn, System.coming, System.reaches, settle_append, append_assoc]

@[simp] theorem reaches_afterTurn (turn : Turn) (again : Bool) :
    (system.afterTurn turn again).reaches =
      (settle system.reaches (frames again turn.requests)).1 := by
  simp only [System.afterTurn, System.reaches, settle_append]

@[simp] theorem drive_hear :
    (system.hear event).drive = (system.drive.onEvent (some event)).drive := by
  cases event <;> rfl

@[simp] theorem coming_hear : (system.hear event).coming = system.coming ++
      (settle system.reaches (frames true (system.drive.onEvent (some event)).requests)).2 := by
  rw [← coming_afterTurn]
  cases event <;> rfl

@[simp] theorem reaches_hear : (system.hear event).reaches =
      (settle system.reaches (frames true (system.drive.onEvent (some event)).requests)).1 := by
  rw [← reaches_afterTurn]
  cases event <;> rfl

end

section

variable {inFlight : Nat} {system : System} {turn : Turn} {hands : Bool}

theorem Before.afterTurn (before : Before inFlight system) (fresh : Fresh system.drive hands turn)
    (quiet : hands = false) : Before inFlight (system.afterTurn turn false) := by
  obtain ⟨hframes, hend⟩ := fresh.silent quiet
  have huplink : (system.afterTurn turn false).uplink = system.uplink := by
    rw [System.afterTurn, hframes, append_nil]
  refine ⟨fresh.aligned, fresh.positioned.trans before.positioned, ?_, ?_, before.attached,
    before.refused⟩
  · rw [huplink]
    simp only [System.afterTurn, hend]
    exact before.pending
  · rw [huplink]
    simp only [System.afterTurn, hend]
    exact before.fits

theorem After.afterTurn (after : After inFlight system) (fresh : Fresh system.drive hands turn)
    (calm : hands = true → system.quiet = true) :
    After inFlight (system.afterTurn turn false) := by
  have hconverging := after.converging
  obtain ⟨hcount, hsettled⟩ :=
    hconverging.settled.fresh (fresh.contiguous hconverging.positive)
  have hgrow : changes turn.drive.stream.nextOffset system.drive.stream.resyncTarget
      system.coming ≤
      changes system.drive.stream.nextOffset system.drive.stream.resyncTarget system.coming := by
    cases hhands : hands with
    | false => rw [(fresh.silent hhands).2]
    | true => exact changes_grow _ (calm hhands)
  refine ⟨after.up, after.attached, ?_⟩
  rw [coming_afterTurn, reaches_afterTurn]
  refine ⟨fresh.aligned, fresh.maxFrame ▸ hconverging.positive, ?_, ?_⟩
  · have hbound := hconverging.count
    rw [System.afterTurn, fresh.resyncTarget, hcount]
    exact (Nat.add_le_add_left hgrow _).trans hbound
  · rw [System.afterTurn, fresh.resyncTarget]
    exact hsettled

variable {nextOffset : Nat} {later : List (Event × Bool)}

theorem Before.coming_length (before : Before inFlight system) {terminalId : Uuid} {limits : Limits}
    (arrived : system.downlink = (.attached terminalId nextOffset limits, false) :: later) :
    nextOffset ≤ system.reaches ∧
      system.reaches ≤ max nextOffset system.drive.stream.nextOffset ∧
      system.coming.length ≤ inFlight ∧
      (system.reaches ≠ nextOffset → system.coming.length < inFlight) := by
  obtain ⟨_, _, _, _, harrived, _, hlow, hhigh, hbound, hmoved⟩ := before.pending
  rw [arrived] at harrived
  cases harrived
  obtain ⟨holdLength, holdMoved⟩ := settle_length system.nextOffset system.uplink
  obtain ⟨hfrom, hupto⟩ := settle_bounds hhigh fun frame member =>
    (before.fits frame member).trans (Nat.le_max_right _ _)
  simp only [System.coming, System.reaches, arrived, length_append,
    refusals_cons _ _ _ (Or.inr ⟨_, _, _, rfl⟩)]
  refine ⟨hlow.trans hfrom, hupto, by omega, fun moved => ?_⟩
  by_cases hstill : system.nextOffset = nextOffset
  · have := holdMoved (hstill ▸ moved)
    omega
  · have := hmoved hstill
    omega

/-- What is sent again to a relay that has been moved is refused with one offset only, and
to one that has not it is not refused at all. -/
theorem converging_opened {drive : Drive} {relay : Nat} {coming : List (Nat × Bool)}
    {sent : List Sent} (aligned : drive.stream.Aligned) (positive : 0 < drive.maxFrame)
    (length : coming.length ≤ inFlight) (moved : relay ≠ nextOffset → coming.length < inFlight)
    (resent : sent = [] ∧ relay = drive.stream.nextOffset ∨
      Contiguous true nextOffset sent drive.stream.nextOffset ∧
        nextOffset ≠ drive.stream.nextOffset) :
    Converging inFlight drive [] (coming ++ (settle relay sent).2) (settle relay sent).1 := by
  have hunmoved : (settle relay sent).2 = [] → (settle relay sent).1 = drive.stream.nextOffset →
      Converging inFlight drive [] (coming ++ (settle relay sent).2) (settle relay sent).1 := by
    intro hnone hend
    refine ⟨aligned, positive, ?_, .inl hend⟩
    rw [hnone, append_nil, countP_nil, Nat.zero_add]
    exact (changes_le_length _ _ _).trans length
  rcases resent with ⟨rfl, hend⟩ | ⟨hcontiguous, hshort⟩
  · exact hunmoved rfl hend
  · by_cases hthere : relay = nextOffset
    · rw [hthere] at hunmoved ⊢
      rw [hcontiguous.settle_start] at hunmoved ⊢
      exact hunmoved rfl rfl
    · obtain ⟨hnamed, hreached⟩ := hcontiguous.settle_eq relay
      have hsame : ∀ refusal ∈ (settle relay sent).2, refusal.1 = relay :=
        fun refusal member => by rw [hnamed refusal member]
      refine ⟨aligned, positive, ?_, ?_⟩
      · have hold := changes_le_length drive.stream.nextOffset drive.stream.resyncTarget coming
        have hnew := changes_le_one drive.stream.nextOffset
          (lastNamed drive.stream.resyncTarget coming) hsame
        have hless := moved hthere
        rw [changes_append, countP_nil]
        omega
      · rcases hreached with hstop | ⟨hstill, hrefused⟩
        · exact .inl hstop
        · right
          rw [hstill, lastNamed_append]
          exact lastNamed_same hsame (Or.inr (hrefused.resolve_left hshort))

/-- The driver takes the `Attached`.  Where a frame in flight moves the relay, that frame
makes up for one refusal of what is sent again. -/
theorem Before.hear {terminalId : Uuid} {limits : Limits} (before : Before inFlight system)
    (arrived : system.downlink = (.attached terminalId nextOffset limits, false) :: later) :
    Inv inFlight (({ system with downlink := later } : System).hear
      (.attached terminalId nextOffset limits)) := by
  obtain ⟨hfrom, hupto, hlength, hless⟩ := before.coming_length arrived
  have hcoming : ({ system with downlink := later } : System).coming = system.coming := by
    simp only [System.coming, arrived, refusals_cons _ _ _ (Or.inr ⟨_, _, _, rfl⟩)]
  have hrefused : (({ system with downlink := later } : System).hear
      (.attached terminalId nextOffset limits)).refused = [] := before.refused
  have hup : StaysUp later := by
    obtain ⟨_, _, _, _, harrived, hup, _⟩ := before.pending
    rw [arrived] at harrived
    cases harrived
    exact hup
  have hlimited : (system.drive.applyLimits limits).stream.Aligned :=
    before.aligned.setWindow limits.maxUnackedOutputBytes
  by_cases hlost :
      ((system.drive.applyLimits limits).stream.attached nextOffset).2 = .unrecoverable
  · right; right
    refine ⟨?_, ?_, ?_⟩
    · rw [drive_hear]
      simp only [onEvent, hlost]
      rfl
    · simp only [System.hear, onEvent, hlost]
      exact Nat.zero_le _
    · rw [hrefused]
      exact Nat.zero_le _
  · right; left
    obtain ⟨haligned, htarget, hend, hanswer⟩ := hlimited.attached hlost
    have hpositive : 0 < (system.drive.applyLimits limits).maxFrame :=
      Nat.lt_of_lt_of_le (by decide) (Nat.le_max_right _ 1024)
    have hsame : (system.drive.applyLimits limits).stream.nextOffset =
        system.drive.stream.nextOffset := rfl
    rw [hsame] at hend hanswer
    rcases hanswer with ⟨hnothing, hbeyond⟩ | ⟨bytes, hretransmit, hbytes, hreach⟩
    · refine ⟨hup, ?_, ?_⟩
      · simp only [System.hear, onEvent, hnothing]
        exact Nat.zero_le _
      · rw [coming_hear, reaches_hear, drive_hear, hcoming, hrefused]
        simp only [onEvent, hnothing, answer]
        refine converging_opened haligned ?_ hlength hless (Or.inl ?_)
        · exact hpositive
        rw [Nat.max_eq_left hbeyond] at hend hupto
        exact ⟨rfl, (le_antisymm hupto hfrom).trans hend.symm⟩
    · have hshort : nextOffset ≠ system.drive.stream.nextOffset := by
        have := length_pos_iff.mpr hbytes
        omega
      rw [Nat.max_eq_right (by omega)] at hend
      have hcontiguous := contiguous_sendOutput hpositive true nextOffset bytes
      rw [hreach] at hcontiguous
      refine ⟨hup, ?_, ?_⟩
      · simp only [System.hear, onEvent, hretransmit, answer]
        apply length_pos_iff.mpr
        intro hnone
        rw [hnone] at hcontiguous
        exact hshort hcontiguous
      · rw [coming_hear, reaches_hear, drive_hear, hcoming, hrefused]
        simp only [onEvent, hretransmit, answer]
        refine converging_opened haligned ?_ hlength hless (Or.inr ?_)
        · exact hpositive
        rw [hend]
        exact ⟨hcontiguous, hshort⟩

theorem After.hear {event : Event} {again : Bool}
    (after : After inFlight system) (arrived : system.downlink = (event, again) :: later)
    (other : event.position? = none) :
    After inFlight (({ system with downlink := later } : System).hear event) := by
  have hconverging := after.converging
  have hcoming : ({ system with downlink := later } : System).coming = system.coming := by
    simp only [System.coming, arrived, refusals_cons _ _ _ (Or.inl other)]
  have hup := after.up
  rw [arrived] at hup
  have hrest : StaysUp later := fun event member => hup event (mem_cons_of_mem _ member)
  obtain ⟨haligned, htarget, hend, hframe, hrequests, hresync⟩ :=
    idle_onEvent hconverging.aligned other (hup _ mem_cons_self).1
  have hrefused : (({ system with downlink := later } : System).hear event).refused =
      system.refused := by
    cases event with
    | attached => cases other
    | mismatch | ack | detached | input | resizeRequest | ended =>
      simp only [System.hear, hresync, Option.toList_none, append_nil]
  refine ⟨?_, ?_, ?_⟩
  · cases event with
    | attached => cases other
    | mismatch | ack | detached | input | resizeRequest | ended => exact hrest
  · cases event with
    | attached => cases other
    | mismatch | ack | detached | input | resizeRequest | ended => exact after.attached
  · rw [coming_hear, reaches_hear, drive_hear, hcoming, hrefused, hrequests]
    simp only [frames, filterMap_nil, settle, append_nil]
    refine ⟨haligned, hframe ▸ hconverging.positive, ?_, ?_⟩
    · rw [hend, htarget]
      exact hconverging.count
    · rw [hend, htarget]
      exact hconverging.settled

theorem After.refused {authoritative : Nat} {again : Bool} (after : After inFlight system)
    (arrived : system.downlink = (.mismatch authoritative, again) :: later) :
    Inv inFlight (({ system with downlink := later } : System).hear (.mismatch authoritative)) := by
  have hrest : StaysUp later := by
    intro event member
    apply after.up
    rw [arrived]
    exact mem_cons_of_mem _ member
  have hconverging := after.converging
  obtain ⟨haligned, htarget, hend, hagain⟩ := hconverging.aligned.mismatch authoritative
  have hcoming : system.coming =
      (authoritative, again) :: ({ system with downlink := later } : System).coming := by
    simp only [System.coming, arrived]
    rfl
  have hcount := hconverging.count
  have hsettled : Settled system.drive.stream.nextOffset (some authoritative)
      ({ system with downlink := later } : System).coming system.reaches := by
    have hlast := hconverging.settled
    rw [hcoming] at hlast
    exact hlast
  have hcons := changes_cons system.drive.stream.nextOffset system.drive.stream.resyncTarget
    authoritative again ({ system with downlink := later } : System).coming
  rw [← hcoming] at hcons
  have hheard : ∀ resync, (system.drive.stream.mismatch authoritative).2 = resync →
      (({ system with downlink := later } : System).hear (.mismatch authoritative)).refused =
        system.refused ++ [resync] := by
    intro resync hresync
    simp only [System.hear, onEvent, (answer_fields _ _).2.2.2, hresync,
      Option.toList_some]
  generalize hresync : (system.drive.stream.mismatch authoritative).2 = resync at hagain hheard
  have hrefused := hheard resync rfl
  cases resync with
  | unrecoverable =>
    right; right
    refine ⟨?_, after.attached, ?_⟩
    · rw [drive_hear]
      simp only [onEvent, hresync]
      rfl
    · rw [hrefused, countP_append]
      exact (Nat.le_add_right _ _).trans hcount
  | nothing =>
    right; left
    refine ⟨hrest, after.attached, ?_⟩
    rw [coming_hear, reaches_hear, drive_hear, hrefused]
    simp only [onEvent, hresync, answer, frames, filterMap_nil, settle, append_nil]
    refine ⟨haligned, hconverging.positive, ?_, ?_⟩
    · rw [hend, htarget, countP_append]
      refine le_trans ?_ hcount
      exact Nat.add_le_add_left ((Nat.le_add_right _ _).trans hcons) _
    · rw [hend, htarget]
      exact hsettled
  | retransmit start bytes =>
    right; left
    refine ⟨hrest, after.attached, ?_⟩
    obtain ⟨rfl, hnews, hbytes, hreach⟩ := hagain start bytes rfl
    have hshort : start ≠ system.drive.stream.nextOffset := by
      have := length_pos_iff.mpr hbytes
      omega
    rw [if_pos ⟨hnews, hshort⟩] at hcons
    have hcontiguous := contiguous_sendOutput hconverging.positive true start bytes
    rw [hreach] at hcontiguous
    obtain ⟨hkept, hresent⟩ := hsettled.resend hcontiguous hshort
    rw [coming_hear, reaches_hear, drive_hear, hrefused]
    simp only [onEvent, hresync, answer]
    refine ⟨haligned, hconverging.positive, ?_, ?_⟩
    · rw [hend, htarget, countP_append]
      have hone : [Resync.retransmit start bytes].countP Resync.isRetransmit = 1 := rfl
      refine le_trans ?_ hcount
      rw [hone, Nat.add_assoc]
      apply Nat.add_le_add_left
      refine le_trans (Nat.add_le_add_left hkept.le 1) ?_
      rw [Nat.add_comm]
      exact hcons
    · rw [hend, htarget]
      exact hresent

theorem After.relay {frame : Sent} {uplink : List Sent} (after : After inFlight system)
    (queued : system.uplink = frame :: uplink) :
    (frame.startOffset = system.nextOffset → After inFlight { system with
      uplink, nextOffset := system.nextOffset + frame.bytes.length }) ∧
    (frame.startOffset ≠ system.nextOffset → After inFlight { system with
      uplink
      downlink := system.downlink ++ [(.mismatch system.nextOffset, frame.again)] }) := by
  obtain ⟨hup, hattached, hconverging⟩ := after
  simp only [System.coming, System.reaches, queued, settle] at hconverging
  constructor
  · intro hhere
    rw [if_pos hhere] at hconverging
    exact ⟨hup, hattached, hconverging⟩
  · intro hrefused
    rw [if_neg hrefused, append_cons] at hconverging
    refine ⟨hup.append ⟨?_, ?_⟩, hattached, ?_⟩
    · intro heq
      cases heq
    · intro terminalId nextOffset limits heq
      cases heq
    simp only [System.coming, System.reaches, refusals_append]
    exact hconverging

theorem Before.relay {frame : Sent} {uplink : List Sent} (before : Before inFlight system)
    (queued : system.uplink = frame :: uplink) :
    (frame.startOffset = system.nextOffset → Before inFlight { system with
      uplink, nextOffset := system.nextOffset + frame.bytes.length }) ∧
    (frame.startOffset ≠ system.nextOffset → Before inFlight { system with
      uplink
      downlink := system.downlink ++ [(.mismatch system.nextOffset, frame.again)] }) := by
  obtain ⟨haligned, hpositioned, ⟨terminalId, nextOffset, limits, later, harrived, hup, hlow, hhigh,
    hbound, hmoved⟩, hfits, hattached, hrefused⟩ := before
  rw [queued] at hfits hbound hmoved
  have hrest := fun other member => hfits other (mem_cons_of_mem frame member)
  have hfirst := hfits frame mem_cons_self
  rw [length_cons] at hbound hmoved
  constructor
  · intro hhere
    rw [hhere] at hfirst
    refine ⟨haligned, hpositioned, ⟨terminalId, nextOffset, limits, later, harrived, hup, ?_, ?_,
      ?_, ?_⟩, hrest, hattached, hrefused⟩
    · exact hlow.trans (Nat.le_add_right _ _)
    · exact hfirst.trans (Nat.le_max_right _ _)
    · exact (Nat.le_succ _).trans hbound
    · exact fun _ => hbound
  · intro hother
    have hlength : (refusals (later ++ [(.mismatch system.nextOffset, frame.again)])).length =
        (refusals later).length + 1 := by
      rw [refusals_append, length_append]
      rfl
    refine ⟨haligned, hpositioned, ⟨terminalId, nextOffset, limits,
      later ++ [(.mismatch system.nextOffset, frame.again)], ?_, hup.append ⟨?_, ?_⟩, hlow, hhigh,
      ?_, ?_⟩, hrest, hattached, hrefused⟩
    · rw [harrived, cons_append]
    · intro heq
      cases heq
    · intro terminalId nextOffset limits heq
      cases heq
    · dsimp only
      omega
    · intro moved
      have := hmoved moved
      dsimp only
      omega

theorem Inv.tell (inv : Inv inFlight system) {event : Event} (other : event.position? = none)
    (stays : event ≠ .detached) :
    Inv inFlight { system with downlink := system.downlink ++ [(event, false)] } := by
  have hsame : ∀ downlink, refusals (downlink ++ [(event, false)]) = refusals downlink := by
    intro downlink
    rw [refusals_append, refusals_cons _ _ _ (Or.inl other)]
    exact append_nil _
  have hopened : ∀ terminalId nextOffset limits,
      event ≠ .attached terminalId nextOffset limits := by
    rintro terminalId nextOffset limits rfl
    cases other
  rcases inv with hbefore | hafter | hover
  · left
    obtain ⟨terminalId, nextOffset, limits, later, harrived, hup, hbounds⟩ := hbefore.pending
    refine ⟨hbefore.aligned, hbefore.positioned, ⟨terminalId, nextOffset, limits,
      later ++ [(event, false)], ?_, hup.append ⟨stays, hopened⟩, ?_⟩, hbefore.fits, hbefore.attached, hbefore.refused⟩
    · rw [harrived, cons_append]
    · rw [hsame]
      exact hbounds
  · right; left
    refine ⟨hafter.up.append ⟨stays, hopened⟩, hafter.attached, ?_⟩
    simp only [System.coming, System.reaches, hsame]
    exact hafter.converging
  · exact .inr (Or.inr ⟨hover.returned, hover.attached, hover.count⟩)

theorem Inv.ownerSide (inv : Inv inFlight system) (owner : List FromOwner) (ownerDropped : Bool) :
    Inv inFlight { system with owner, ownerDropped } := by
  rcases inv with hbefore | hafter | hover
  · exact .inl ⟨hbefore.aligned, hbefore.positioned, hbefore.pending, hbefore.fits,
      hbefore.attached, hbefore.refused⟩
  · exact .inr (Or.inl ⟨hafter.up, hafter.attached, hafter.converging⟩)
  · exact .inr (Or.inr ⟨hover.returned, hover.attached, hover.count⟩)

theorem Inv.afterTurn (inv : Inv inFlight system) (running : system.drive.phase ≠ .returned)
    (fresh : system.drive.stream.Aligned → Fresh system.drive hands turn)
    (positioned : hands = true → system.drive.stream.positioned = true)
    (calm : hands = true → system.quiet = true) : Inv inFlight (system.afterTurn turn false) := by
  rcases inv with hbefore | hafter | hover
  · left
    apply hbefore.afterTurn (fresh hbefore.aligned)
    cases hhands : hands with
    | false => rfl
    | true => exact absurd (positioned hhands) (by simp [hbefore.positioned])
  · exact .inr (Or.inl (hafter.afterTurn (fresh hafter.converging.aligned) calm))
  · exact absurd hover.returned running

end

theorem positioned_of_handsOver
    (hands : system.handsOver action = true) : system.drive.stream.positioned = true := by
  have hmay : system.drive.stream.maySend = true := by
    cases action with
    | top | takeOwner =>
      unfold System.handsOver at hands
      exact (Bool.and_eq_true_iff.mp hands).1
    | publish | dropOwner | takeEvent | relay | tell => cases hands
  unfold Outgoing.maySend at hmay
  exact (Bool.and_eq_true_iff.mp hmay).1

theorem quiet_of_calm (allowed : calm system action = true)
    (hands : system.handsOver action = true) : system.quiet = true := by
  unfold calm at allowed
  rw [hands] at allowed
  exact allowed

theorem Inv.takeOwner (inv : Inv inFlight system) (selecting : system.drive.phase = .selecting)
    (quiet : system.handsOver .takeOwner = true → system.quiet = true)
    (owner : List FromOwner) :
    Inv inFlight (({ system with owner } : System).afterTurn
      (system.drive.onOwner system.owner.head?) false) := by
  have hrunning : system.drive.phase ≠ .returned := by
    rw [selecting]
    decide
  have hpositioned : system.handsOver .takeOwner = true → system.drive.stream.positioned = true :=
    positioned_of_handsOver
  refine (inv.ownerSide owner system.ownerDropped).afterTurn hrunning (fun aligned => ?_)
    hpositioned quiet
  apply fresh_onOwner aligned
  intro chunk heq
  cases howner : system.owner with
  | nil =>
    rw [howner] at heq
    cases heq
  | cons message rest =>
    rw [howner] at heq
    cases heq
    simp only [System.handsOver, howner]

theorem Inv.hear (inv : Inv inFlight system) {event : Event}
    {downlink : List (Event × Bool)} (selecting : system.drive.phase = .selecting)
    (arrived : system.downlink = (event, again) :: downlink) :
    Inv inFlight (({ system with downlink } : System).hear event) := by
  rcases inv with hbefore | hafter | hover
  · obtain ⟨terminalId, nextOffset, limits, _, hfirst, _⟩ := hbefore.pending
    have hevent := arrived.symm.trans hfirst
    cases hevent
    exact hbefore.hear arrived
  · have hup := hafter.up
    rw [arrived] at hup
    have hstays := hup _ mem_cons_self
    cases event with
    | attached terminalId nextOffset limits => exact absurd rfl (hstays.2 _ _ _)
    | mismatch authoritative => exact hafter.refused arrived
    | ack | detached | input | resizeRequest | ended =>
      exact .inr (Or.inl (hafter.hear arrived rfl))
  · rw [hover.returned] at selecting
    cases selecting

theorem Inv.relay (inv : Inv inFlight system) {frame : Sent}
    {uplink : List Sent} (queued : system.uplink = frame :: uplink) :
    (frame.startOffset = system.nextOffset → Inv inFlight { system with
      uplink, nextOffset := system.nextOffset + frame.bytes.length }) ∧
    (frame.startOffset ≠ system.nextOffset → Inv inFlight { system with
      uplink, downlink := system.downlink ++ [(.mismatch system.nextOffset, frame.again)] }) := by
  rcases inv with hbefore | hafter | hover
  · exact ⟨fun here => .inl ((hbefore.relay queued).1 here),
      fun other => .inl ((hbefore.relay queued).2 other)⟩
  · exact ⟨fun here => .inr (Or.inl ((hafter.relay queued).1 here)),
      fun other => .inr (Or.inl ((hafter.relay queued).2 other))⟩
  · exact ⟨fun _ => .inr (Or.inr ⟨hover.returned, hover.attached, hover.count⟩),
      fun _ => .inr (Or.inr ⟨hover.returned, hover.attached, hover.count⟩)⟩

theorem Inv.step {next : System} (inv : Inv inFlight system) (allowed : calm system action = true)
    (taken : step system action = some next) : Inv inFlight next := by
  have hpositioned : system.handsOver action = true → system.drive.stream.positioned = true :=
    positioned_of_handsOver
  have hquiet := quiet_of_calm allowed
  cases action with
  | publish message =>
    simp only [Convergence.step] at taken
    split at taken
    · cases taken
    · cases taken
      exact inv.ownerSide _ _
  | dropOwner =>
    cases taken
    exact inv.ownerSide _ _
  | top =>
    simp only [Convergence.step] at taken
    split at taken
    · rename_i hphase
      cases taken
      exact inv.afterTurn (by rw [hphase]; decide) fresh_top hpositioned hquiet
    · cases taken
  | takeOwner =>
    simp only [Convergence.step] at taken
    split at taken
    · rename_i htakes
      have htook := fun owner => inv.takeOwner htakes.1 hquiet owner
      split at taken
      · rename_i message owner hqueued
        cases taken
        rw [hqueued] at htook
        exact htook owner
      · rename_i hqueued
        split at taken
        · cases taken
          have hended : system.owner.head? = none := by rw [hqueued, head?_nil]
          rw [hended] at htook
          exact htook system.owner
        · cases taken
    · cases taken
  | takeEvent =>
    simp only [Convergence.step] at taken
    split at taken
    · rename_i event again later hphase harrived
      cases taken
      exact inv.hear hphase harrived
    · cases taken
  | relay =>
    simp only [Convergence.step] at taken
    split at taken
    · rename_i frame uplink hqueued
      split at taken
      · rename_i hhere
        cases taken
        exact (inv.relay hqueued).1 hhere
      · rename_i hother
        cases taken
        exact (inv.relay hqueued).2 hother
    · cases taken
  | tell event =>
    simp only [Convergence.step] at taken
    split at taken
    · split at taken
      · cases taken
        exact inv.tell rfl (by simp)
      · cases taken
    · cases taken
      exact inv.tell rfl (by simp)
    · cases taken
      exact inv.tell rfl (by simp)
    · cases taken
      exact inv.tell rfl (by simp)
    · cases taken

/-- The relay has just opened the terminal: it says where the stream goes on and has not
answered any of the frames on their way, which the driver sent before. -/
structure System.Starts (system : System) : Prop where
  aligned : system.drive.stream.nextOffset = system.drive.stream.retained.endOffset
  detached : system.drive.stream.positioned = false
  fits : ∀ frame ∈ system.uplink,
    frame.startOffset + frame.bytes.length ≤ system.drive.stream.nextOffset
  opened : ∃ terminalId limits,
    system.downlink = [(.attached terminalId system.nextOffset limits, false)]
  fresh : system.attached = none ∧ system.refused = [] ∧ system.attachedFrames = 0

theorem Inv.start (starts : system.Starts) : Inv system.uplink.length system := by
  left
  obtain ⟨terminalId, limits, harrived⟩ := starts.opened
  refine ⟨starts.aligned, starts.detached, ⟨terminalId, system.nextOffset, limits, [], harrived, ?_,
    Nat.le_refl _, Nat.le_max_left _ _, ?_, ?_⟩, starts.fits, starts.fresh.1, starts.fresh.2.1⟩
  · intro event member
    cases member
  · exact (Nat.zero_add _).le
  · exact fun moved => absurd rfl moved

end Hypeterm.Publisher.Convergence
