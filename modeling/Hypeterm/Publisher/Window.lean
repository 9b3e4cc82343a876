import Hypeterm.Publisher.Driving

/-! How much a driver has framed against the window the relay advertises.  The gate is
tested before a whole chunk is handed over, and a new window is compared with nothing. -/
namespace Hypeterm.Publisher

open Library Drive Outgoing

namespace Driving

def Within (driving : Driving) : Prop :=
  driving.drive.stream.positioned = true →
    ∃ window, driving.advertised = some window ∧ driving.drive.stream.unacked ≤ window

/-- A chunk that goes out now leaves the stream within the window. -/
def fits (driving : Driving) (chunk : Bytes) : Bool :=
  !driving.drive.stream.maySend ||
    driving.advertised.all fun window => driving.drive.stream.unacked + chunk.length ≤ window

/-- A chunk that is handed over fits in the rest of the window, and a window that is
advertised covers what is still retained, unless the relay is past that. -/
def keepsWindow (driving : Driving) : DrivingAction → Bool
  | .top => driving.drive.waiting.all driving.fits
  | .owner (some (.output chunk)) => driving.fits chunk
  | .event (some (.attached _ nextOffset limits)) =>
      driving.drive.stream.retained.endOffset < nextOffset ||
        driving.drive.stream.retained.bytes.length ≤ limits.maxUnackedOutputBytes
  | _ => true

variable {driving next : Driving}

theorem Within.of_stream (within : driving.Within)
    (stream_eq : next.drive.stream = driving.drive.stream)
    (advertised_eq : next.advertised = driving.advertised) : next.Within := by
  unfold Within
  rw [stream_eq, advertised_eq]
  exact within

theorem within_chunk_iff (aligned : driving.drive.stream.Aligned) (within : driving.Within)
    {chunk : Bytes}
    (stream_eq : next.drive.stream = (driving.drive.offerChunk chunk).drive.stream)
    (advertised_eq : next.advertised = driving.advertised) :
    next.Within ↔ driving.fits chunk = true := by
  rw [stream_offerChunk] at stream_eq
  unfold fits
  by_cases hmay : driving.drive.stream.maySend = true
  · have hpositioned := positioned_of_maySend hmay
    obtain ⟨window, hwindow, -⟩ := within hpositioned
    rw [if_pos hmay] at stream_eq
    have hunacked : next.drive.stream.unacked = driving.drive.stream.unacked + chunk.length := by
      rw [stream_eq, (aligned.send chunk).unacked_eq, aligned.unacked_eq,
        send_eq hpositioned]
      exact List.length_append
    have hnext : next.drive.stream.positioned = true := by
      rw [stream_eq, send_eq hpositioned]
      exact hpositioned
    rw [hmay, hwindow, Option.all_some, Bool.not_true, Bool.false_or, decide_eq_true_eq, ← hunacked]
    constructor
    · intro hwithin
      obtain ⟨window', hwindow', hle⟩ := hwithin hnext
      rw [advertised_eq, hwindow] at hwindow'
      cases hwindow'
      exact hle
    · exact fun hle _ => ⟨window, advertised_eq.trans hwindow, hle⟩
  · rw [if_neg hmay] at stream_eq
    have hmay : driving.drive.stream.maySend = false := by simpa using hmay
    rw [hmay]
    exact iff_of_true (within.of_stream stream_eq advertised_eq) rfl

theorem within_attached_iff (aligned : driving.drive.stream.Aligned) {terminalId : Uuid}
    {nextOffset : Nat} {limits : Limits}
    (stream_eq : next.drive.stream =
      ((driving.drive.stream.setWindow limits.maxUnackedOutputBytes).attached nextOffset).1)
    (advertised_eq : next.advertised = some limits.maxUnackedOutputBytes) :
    next.Within ↔
      driving.keepsWindow (.event (some (.attached terminalId nextOffset limits))) = true := by
  have hwindowed := aligned.setWindow limits.maxUnackedOutputBytes
  have hpositioned := (attached_retained hwindowed nextOffset).2.1
  have hunacked := unacked_attached hwindowed nextOffset
  have hsame : (driving.drive.stream.setWindow limits.maxUnackedOutputBytes).unacked =
      driving.drive.stream.retained.bytes.length := hwindowed.unacked_eq
  rw [← stream_eq] at hpositioned hunacked
  rw [hsame] at hunacked
  have hcondition : next.drive.stream.unacked ≤ limits.maxUnackedOutputBytes ↔
      driving.drive.stream.retained.endOffset < nextOffset ∨
        driving.drive.stream.retained.bytes.length ≤ limits.maxUnackedOutputBytes := by
    rw [hunacked]
    change (if driving.drive.stream.retained.endOffset < nextOffset then 0
      else driving.drive.stream.retained.bytes.length) ≤ _ ↔ _
    split
    · rename_i hbeyond
      exact iff_of_true (Nat.zero_le _) (.inl hbeyond)
    · rename_i hinside
      exact (or_iff_right hinside).symm
  unfold keepsWindow
  rw [Bool.or_eq_true, decide_eq_true_eq, decide_eq_true_eq, ← hcondition]
  constructor
  · intro hwithin
    obtain ⟨window, hwindow, hle⟩ := hwithin hpositioned
    rw [advertised_eq] at hwindow
    cases hwindow
    exact hle
  · exact fun hle _ => ⟨_, advertised_eq, hle⟩

theorem Within.event (aligned : driving.drive.stream.Aligned) (within : driving.Within)
    {event : Event} (quiet : event.window? = none) :
    ((driving.heard (some event)).after (driving.drive.onEvent (some event))).Within := by
  have hadvertised : ((driving.heard (some event)).after
      (driving.drive.onEvent (some event))).advertised = driving.advertised := by
    change (event.window?).or driving.advertised = driving.advertised
    rw [quiet, Option.none_or]
  have hsame (same : (driving.drive.onEvent (some event)).drive.stream = driving.drive.stream) :
      ((driving.heard (some event)).after (driving.drive.onEvent (some event))).Within :=
    within.of_stream ((stream_after _ _).trans same) hadvertised
  cases event with
  | attached terminalId nextOffset limits => cases quiet
  | ack durableOffset =>
    unfold Within
    rw [stream_after, hadvertised]
    intro positioned
    obtain ⟨window, hwindow, hle⟩ := within positioned
    exact ⟨window, hwindow, (unacked_acknowledge aligned durableOffset).trans hle⟩
  | mismatch nextOffset =>
    have hstream : (driving.drive.onEvent (some (.mismatch nextOffset))).drive.stream =
        (driving.drive.stream.mismatch nextOffset).1 := by
      simp only [onEvent, (answer_fields _ _).2.2.1]
    unfold Within
    rw [stream_after, hstream, hadvertised, positioned_mismatch,
      unacked_mismatch aligned]
    exact within
  | detached =>
    unfold Within
    rw [stream_after]
    exact fun positioned => by cases positioned
  | input bytes =>
    apply hsame
    simp only [onEvent]
    split
    · rfl
    · rfl
  | resizeRequest | ended =>
    apply hsame
    simp [onEvent]

theorem within_step_iff (aligned : driving.drive.stream.Aligned) (within : driving.Within)
    {action : DrivingAction} (stepped : driving.step action = some next) :
    next.Within ↔ driving.keepsWindow action = true := by
  cases taken_of_step stepped with
  | top phase =>
    have hstream := (stream_after driving driving.drive.top).trans
      (stream_top driving.drive)
    cases hwaiting : driving.drive.waiting with
    | none =>
      rw [hwaiting] at hstream
      exact iff_of_true (within.of_stream hstream rfl) (by simp [keepsWindow, hwaiting])
    | some chunk =>
      rw [hwaiting] at hstream
      simp only [keepsWindow, hwaiting, Option.all_some]
      exact within_chunk_iff aligned within hstream rfl
  | event event phase =>
    cases event with
    | none =>
      refine iff_of_true (within.of_stream ?_ rfl) rfl
      simp [onEvent]
    | some event =>
      cases event with
      | attached terminalId nextOffset limits =>
        refine @within_attached_iff _ _ aligned terminalId nextOffset limits ?_ rfl
        simp only [stream_after, onEvent, (answer_fields _ _).2.2.1, applyLimits]
      | ack | input | resizeRequest | mismatch | detached | ended =>
        exact iff_of_true (within.event aligned rfl) rfl
  | owner message phase takes =>
    cases message with
    | none => exact iff_of_true (within.of_stream (stream_after _ _) rfl) rfl
    | some message =>
      cases message with
      | output chunk => exact within_chunk_iff aligned within (stream_after _ _) rfl
      | resize cols rows => exact iff_of_true (within.of_stream (stream_after _ _) rfl) rfl
  | notices action notices quiet =>
    have hwithin : Within { driving with drive := { driving.drive with notices } } :=
      within.of_stream rfl rfl
    rcases quiet with rfl | rfl
    · exact iff_of_true hwithin rfl
    · exact iff_of_true hwithin rfl

/-- A run stays within the window exactly when every step of it keeps to it. -/
theorem within_always_iff (accepts : Option Nat) (actions : List DrivingAction)
    (driving : Driving) (ran : run step (start accepts) actions = some driving) :
    (∀ earlier later middle, actions = earlier ++ later →
      run step (start accepts) earlier = some middle → middle.Within) ↔
      run (restrict step fun driving action => driving.keepsWindow action = true)
        (start accepts) actions = some driving := by
  have hexact : ∀ state action next,
      (state.drive.stream.Aligned ∧ state.Within) → step state action = some next →
        ((next.drive.stream.Aligned ∧ next.Within) ↔ state.keepsWindow action = true) := by
    intro state action next good stepped
    rw [and_iff_right (aligned_step good.1 stepped)]
    exact within_step_iff good.1 good.2 stepped
  have hstart : (start accepts).Within := fun positioned => by cases positioned
  rw [← always_iff_restrict hexact ⟨.new, hstart⟩ ran]
  constructor
  · intro always earlier later middle hsplit hmiddle
    exact ⟨aligned_run hmiddle, always earlier later middle hsplit hmiddle⟩
  · intro always earlier later middle hsplit hmiddle
    exact (always earlier later middle hsplit hmiddle).2

def narrowest : Limits := ⟨1024, 65536⟩

def oneChunk (limits : Limits) (chunk : Bytes) : List DrivingAction :=
  [.top, .event (some (.attached 0 0 limits)), .top, .owner (some (.output chunk))]

theorem one_chunk_within : (run step (start none) (oneChunk narrowest [104, 105])).isSome = true ∧
      ∀ earlier later middle, oneChunk narrowest [104, 105] = earlier ++ later →
        run step (start none) earlier = some middle → middle.Within :=
  ⟨rfl, (within_always_iff none (oneChunk narrowest [104, 105]) _ rfl).mpr (by decide)⟩

/-- The same with an attach, after a detach, whose window is the narrowest. -/
def narrowed (chunk : Bytes) : List DrivingAction :=
  oneChunk ⟨1024, 131072⟩ chunk ++
    [.top, .event (some .detached), .top, .event (some (.attached 0 0 narrowest))]

theorem one_chunk_overruns {chunk : Bytes} (long : 65536 < chunk.length) :
    ∃ driving, run step (start none) (oneChunk narrowest chunk) = some driving ∧
      ¬ driving.Within := by
  refine ⟨_, rfl, fun within => ?_⟩
  obtain ⟨window, hwindow, hle⟩ := within rfl
  cases (Option.some.inj hwindow : 65536 = window)
  have hle : 0 + chunk.length - 0 ≤ 65536 := hle
  omega

theorem narrowed_overruns {byte : UInt8} {rest : Bytes} (long : 65536 ≤ rest.length) :
    ∃ driving, run step (start none) (narrowed (byte :: rest)) = some driving ∧
      ¬ driving.Within := by
  refine ⟨_, rfl, fun within => ?_⟩
  obtain ⟨window, hwindow, hle⟩ := within rfl
  cases (Option.some.inj hwindow : 65536 = window)
  have hle : 0 + (rest.length + 1) - 0 ≤ 65536 := hle
  omega

/-- The gate is open until the window is full, whatever the size of the chunk; and a
window that shrinks is not compared with what is already framed. -/
theorem window_overrun :
    (∃ driving, run step (start none) (oneChunk narrowest (List.replicate 65537 0)) =
        some driving ∧ ¬ driving.Within) ∧
      ∃ driving, run step (start none) (narrowed (0 :: List.replicate 65536 0)) = some driving ∧
        ¬ driving.Within := by
  constructor
  · apply one_chunk_overruns
    rw [List.length_replicate]
    omega
  · apply narrowed_overruns
    rw [List.length_replicate]

end Driving

end Hypeterm.Publisher
