import Hypeterm.Relay.InputSequence

/-! What one subscription's input frames become.  The model is run beside a record of
the frames the subscription received and of what the relay did for it, in the order it
did it: the frames that entered a publisher's channel and the answers written back. -/
namespace Hypeterm.Relay.Input

open Library List MirrorInputFrame

inductive Event where
  | enqueued (frame : MirrorInputFrame)
  | answered (message : ServerMessage)

def Event.frame : Event → Option MirrorInputFrame
  | .enqueued frame => some frame
  | .answered _ => none

def Event.answer : Event → Option ServerMessage
  | .enqueued _ => none
  | .answered message => some message

structure Watched where
  system : System
  received : List MirrorInputFrame
  events : List Event

/-- The frames of the subscription that entered a publisher's channel. -/
def enqueuedBy (system : System) (id : Nat) : List MirrorInputFrame :=
  (system.delivered.filter fun delivered => delivered.mirror = id).map fun delivered =>
    ⟨delivered.clientSequence, delivered.payload⟩

def answersTo (system : System) (id : Nat) : List ServerMessage :=
  ((system.mirrors id).map Mirror.sent).getD []

/-- The frame that reaches the subscription in a step. -/
def arrivedIn (id : Nat) : Action → Option Bytes
  | .frame mirror bytes _ => if mirror = id then some bytes else none
  | _ => none

def decodedOf (arrived : Option Bytes) : List MirrorInputFrame :=
  (arrived.bind fun bytes => (decodeMirrorInputFrame bytes).toOption).toList

theorem decodedOf_none : decodedOf none = [] := rfl

/-- What one section did for the subscription.  The channel takes a frame before the
acknowledgement is written. -/
def eventsIn (id : Nat) (system next : System) : List Event :=
  ((enqueuedBy next id).drop (enqueuedBy system id).length).map Event.enqueued ++
    ((answersTo next id).drop (answersTo system id).length).map Event.answered

def Watched.initial : Watched := ⟨System.initial, [], []⟩

def watch (id : Nat) (watched : Watched) (action : Action) : Option Watched :=
  (step watched.system action).map fun next =>
    ⟨next, watched.received ++ decodedOf (arrivedIn id action),
      watched.events ++ eventsIn id watched.system next⟩

theorem watch_eq_some {id : Nat} {watched after : Watched} {action : Action} :
    watch id watched action = some after ↔
      ∃ next, step watched.system action = some next ∧
        after = ⟨next, watched.received ++ decodedOf (arrivedIn id action),
          watched.events ++ eventsIn id watched.system next⟩ := by
  unfold watch
  rw [Option.map_eq_some_iff]
  constructor
  · rintro ⟨next, hstep, rfl⟩
    exact ⟨next, hstep, rfl⟩
  · rintro ⟨next, hstep, rfl⟩
    exact ⟨next, hstep, rfl⟩

theorem run_watch (id : Nat) (watched : Watched) (actions : List Action) :
    (run (watch id) watched actions).map Watched.system = run step watched.system actions := by
  induction actions generalizing watched with
  | nil => rfl
  | cons action rest ih =>
    simp only [run, watch]
    cases step watched.system action with
    | none => rfl
    | some next => exact ih _

def Mirror.held (mirror : Mirror) : List MirrorInputFrame :=
  match mirror.phase with
  | .permitted _ decoded | .accepted _ decoded | .approved decoded | .claimed decoded _ => [decoded]
  | .waiting | .ended => []

/-- The frame whose sequence was checked against the expected one. -/
def Mirror.due (mirror : Mirror) : Option MirrorInputFrame :=
  match mirror.phase with
  | .approved decoded | .claimed decoded _ => some decoded
  | _ => none

def ServerMessage.isError : ServerMessage → Bool
  | .error _ _ _ => true
  | .inputAck _ _ => false

/-- A section that enqueues nothing.  It passes the frame on, refuses it, or ends the
subscription because what arrived is no input frame. -/
inductive Outcome (arrived : Option Bytes) (mirror after : Mirror) : Prop
  | passed (sent_eq : after.sent = mirror.sent) (held_eq : after.held = mirror.held ++ decodedOf arrived)
  | refused (decoded : MirrorInputFrame) (code message : String) (terminalId : Option Uuid)
      (busy : mirror.held ++ decodedOf arrived = [decoded])
      (sent_eq : after.sent = mirror.sent ++ [.error code message terminalId])
      (held_eq : after.held = [])
      (mismatch : code = "input_sequence_mismatch" →
        decoded.clientSequence ≠ mirror.state.expectedSequence)
  | malformed (bytes : Bytes) (error : FrameError) (message : String) (arrived_eq : arrived = some bytes)
      (undecoded : decodeMirrorInputFrame bytes = .error error)
      (sent_eq : after.sent = mirror.sent ++ [.error "invalid_message" message none])
      (held_eq : after.held = [])

structure Quiet (arrived : Option Bytes) (mirror after : Mirror) : Prop where
  state_eq : after.state = mirror.state
  outcome : Outcome arrived mirror after
  due : ∀ decoded, after.due = some decoded →
    mirror.due = some decoded ∨ decoded.clientSequence = mirror.state.expectedSequence

variable {mirror after : Mirror} {arrived : Option Bytes}

variable {decoded : MirrorInputFrame} {handle : TerminalHandle} {relaySequence other : Nat}

theorem Quiet.refuse (busy : mirror.held ++ decodedOf arrived = [decoded])
    {code : String} (message : String)
    (mismatch : code = "input_sequence_mismatch" →
      decoded.clientSequence ≠ mirror.state.expectedSequence) :
    Quiet arrived mirror (mirror.refuse code message) where
  state_eq := rfl
  outcome := .refused decoded code message (some mirror.terminalId) busy rfl rfl mismatch
  due := by
    intro decoded h
    cases h

theorem Quiet.advance {phase : Phase}
    (held_eq : ({ mirror with phase := phase } : Mirror).held = mirror.held ++ decodedOf arrived)
    (due : ∀ decoded, ({ mirror with phase := phase } : Mirror).due = some decoded →
      mirror.due = some decoded ∨ decoded.clientSequence = mirror.state.expectedSequence) :
    Quiet arrived mirror { mirror with phase := phase } where
  state_eq := rfl
  outcome := .passed rfl held_eq
  due := due

theorem takeFrame_quiet (bytes : Bytes) (settings : Settings) (waiting : mirror.phase = .waiting) :
    Quiet (some bytes) mirror (mirror.takeFrame bytes settings) := by
  have hheld : mirror.held = [] := by simp [Mirror.held, waiting]
  unfold Mirror.takeFrame
  cases hdecoded : decodeMirrorInputFrame bytes with
  | error error =>
    split
    · exact {
        state_eq := rfl
        outcome := .malformed bytes error _ rfl hdecoded rfl rfl
        due := by
          intro decoded h
          cases h }
    · exact {
        state_eq := rfl
        outcome := .malformed bytes error _ rfl hdecoded rfl rfl
        due := by
          intro decoded h
          cases h }
  | ok decoded =>
    have hbusy : mirror.held ++ decodedOf (some bytes) = [decoded] := by
      simp [hheld, decodedOf, hdecoded, Except.toOption]
    split
    · exact {
        state_eq := rfl
        outcome := .refused decoded _ _ none hbusy rfl rfl (fun h => absurd h (by decide))
        due := by
          intro decoded h
          cases h }
    simp only
    split
    · exact Quiet.refuse hbusy _ fun h => absurd h (by decide)
    split
    · exact Quiet.refuse hbusy _ fun h => absurd h (by decide)
    refine Quiet.advance ?_ ?_
    · rw [hbusy]
      rfl
    · intro _ h
      cases h

theorem checkAccepts_quiet {settings : Settings}
    (phase_eq : mirror.phase = .permitted settings decoded) :
    Quiet none mirror (mirror.checkAccepts settings decoded handle) := by
  have hbusy : mirror.held ++ decodedOf none = [decoded] := by
    simp [Mirror.held, phase_eq, decodedOf]
  unfold Mirror.checkAccepts
  split
  · exact Quiet.refuse hbusy _ fun h => absurd h (by decide)
  refine Quiet.advance ?_ ?_
  · rw [hbusy]
    rfl
  · intro _ h
    cases h

theorem checkFrame_quiet {settings : Settings}
    (phase_eq : mirror.phase = .accepted settings decoded)
    (framesTaken bytesTaken : Bool) :
    Quiet none mirror (mirror.checkFrame settings decoded handle framesTaken bytesTaken) := by
  have hbusy : mirror.held ++ decodedOf none = [decoded] := by
    simp [Mirror.held, phase_eq, decodedOf]
  unfold Mirror.checkFrame
  split
  · exact Quiet.refuse hbusy _ fun h => absurd h (by decide)
  split
  · exact Quiet.refuse hbusy _ fun h => absurd h (by decide)
  split
  · exact Quiet.refuse hbusy _ fun h => absurd h (by decide)
  split
  · rename_i hsequence
    exact Quiet.refuse hbusy _ fun _ => hsequence
  rename_i hsequence
  split
  · exact Quiet.refuse hbusy _ fun h => absurd h (by decide)
  refine Quiet.advance ?_ ?_
  · rw [hbusy]
    rfl
  · intro other h
    cases h
    exact .inr (not_not.mp hsequence)

theorem claimed_quiet (phase_eq : mirror.phase = .approved decoded) (relaySequence : Nat) :
    Quiet none mirror { mirror with phase := .claimed decoded relaySequence } := by
  refine Quiet.advance ?_ ?_
  · simp [Mirror.held, phase_eq, decodedOf]
  · intro other h
    cases h
    exact .inl (by simp [Mirror.due, phase_eq])

theorem refuseDelivery_quiet
    (phase_eq : mirror.phase = .claimed decoded relaySequence) (error : InputDeliveryError) :
    Quiet none mirror (mirror.refuseDelivery error) := by
  have hbusy : mirror.held ++ decodedOf none = [decoded] := by
    simp [Mirror.held, phase_eq, decodedOf]
  cases error with
  | noPublisher => exact Quiet.refuse hbusy _ fun h => absurd h (by decide)
  | backpressure => exact Quiet.refuse hbusy _ fun h => absurd h (by decide)

theorem ended_quiet (waiting : mirror.phase = .waiting) :
    Quiet none mirror { mirror with phase := .ended } := by
  refine Quiet.advance ?_ ?_
  · simp [Mirror.held, waiting, decodedOf]
  · intro _ h
    cases h

theorem Quiet.sent (quiet : Quiet arrived mirror after) :
    ∃ errors, after.sent = mirror.sent ++ errors ∧ ∀ message ∈ errors, message.isError = true := by
  cases quiet.outcome with
  | passed hsent => exact ⟨[], by simp [hsent]⟩
  | refused decoded code message terminalId _ hsent =>
    exact ⟨_, hsent, by simp [ServerMessage.isError]⟩
  | malformed bytes error message _ _ hsent =>
    exact ⟨_, hsent, by simp [ServerMessage.isError]⟩

theorem Quiet.held (quiet : Quiet arrived mirror after) :
    after.held.Sublist (mirror.held ++ decodedOf arrived) := by
  cases quiet.outcome with
  | passed _ hheld =>
    rw [hheld]
  | refused _ _ _ _ _ _ hheld =>
    rw [hheld]
    exact nil_sublist _
  | malformed _ _ _ _ _ _ hheld =>
    rw [hheld]
    exact nil_sublist _

inductive Move (id : Nat) (system next : System) : Action → Prop
  | apart {action : Action} (mirror_eq : next.mirrors id = system.mirrors id)
      (enqueued_eq : enqueuedBy next id = enqueuedBy system id)
      (arrived_eq : arrivedIn id action = none) : Move id system next action
  | opened {action : Action} (mirror : Mirror) (state_eq : mirror.state = InputState.new)
      (phase_eq : mirror.phase = .waiting) (sent_eq : mirror.sent = [])
      (next_eq : next.mirrors id = some mirror) (fresh : system.nextMirror = id)
      (counted : next.nextMirror = id + 1)
      (enqueued_eq : enqueuedBy next id = enqueuedBy system id)
      (arrived_eq : arrivedIn id action = none) : Move id system next action
  | quiet {action : Action} (mirror after : Mirror) (known : system.mirrors id = some mirror)
      (next_eq : next.mirrors id = some after) (quiet : Quiet (arrivedIn id action) mirror after)
      (enqueued_eq : enqueuedBy next id = enqueuedBy system id) : Move id system next action
  | delivered {action : Action} (mirror : Mirror) (decoded : MirrorInputFrame) (relaySequence : Nat)
      (known : system.mirrors id = some mirror) (phase_eq : mirror.phase = .claimed decoded relaySequence)
      (next_eq : next.mirrors id = some (mirror.acknowledge decoded relaySequence))
      (enqueued_eq : enqueuedBy next id = enqueuedBy system id ++ [decoded])
      (arrived_eq : arrivedIn id action = none) : Move id system next action

variable {system next : System} {id : Nat} {action : Action}

theorem setMirror_mirrors (id other : Nat) : (system.setMirror other mirror).mirrors id =
      if id = other then some mirror else system.mirrors id := by
  simp [System.setMirror, Function.update_apply]

theorem Move.of_quiet (known : system.mirrors other = some mirror)
    (quiet : Quiet (arrivedIn other action) mirror after)
    (arrived_eq : other ≠ id → arrivedIn id action = none)
    (mirrors_eq : next.mirrors = (system.setMirror other after).mirrors)
    (delivered_eq : next.delivered = system.delivered) : Move id system next action := by
  have henqueued : enqueuedBy next id = enqueuedBy system id := by
    unfold enqueuedBy
    rw [delivered_eq]
  by_cases hother : other = id
  · subst hother
    exact .quiet mirror after known (by rw [mirrors_eq, setMirror_mirrors, if_pos rfl]) quiet henqueued
  · refine .apart ?_ henqueued (arrived_eq hother)
    rw [mirrors_eq, setMirror_mirrors, if_neg (Ne.symm hother)]

theorem deliverToPublisher_ok {registry sent : Registry} {deviceId : Uuid}
    {delivery : PublisherDelivery} (ok : registry.deliverToPublisher deviceId delivery = .ok sent) :
    ∃ slot, registry.publishers deviceId = some slot := by
  unfold Registry.deliverToPublisher at ok
  split at ok
  · cases ok
  · rename_i slot hslot
    exact ⟨slot, hslot⟩

theorem deliver_move (known : system.mirrors other = some mirror)
    (phase_eq : mirror.phase = .claimed decoded relaySequence) (framesTaken bytesTaken : Bool) :
    Move id system (system.deliver other mirror handle decoded relaySequence)
      (.proceed other framesTaken bytesTaken) := by
  unfold System.deliver
  split
  · rename_i registry hok
    obtain ⟨slot, hslot⟩ := deliverToPublisher_ok hok
    by_cases hother : other = id
    · subst hother
      refine .delivered mirror decoded relaySequence known phase_eq ?_ ?_ rfl
      · rw [setMirror_mirrors, if_pos rfl]
      · simp [enqueuedBy, System.setMirror, hslot]
    · refine .apart ?_ ?_ rfl
      · rw [setMirror_mirrors, if_neg (Ne.symm hother)]
      · simp [enqueuedBy, System.setMirror, hslot, hother]
  · rename_i error _
    exact Move.of_quiet known (refuseDelivery_quiet phase_eq error) (fun _ => rfl) rfl rfl

theorem proceed_move {framesTaken bytesTaken : Bool} (known : system.mirrors other = some mirror)
    (taken : system.proceed other mirror handle framesTaken bytesTaken = some next) :
    Move id system next (.proceed other framesTaken bytesTaken) := by
  unfold System.proceed at taken
  split at taken
  · rename_i settings decoded hphase
    cases taken
    exact Move.of_quiet known (checkAccepts_quiet hphase) (fun _ => rfl) rfl rfl
  · rename_i settings decoded hphase
    cases taken
    exact Move.of_quiet known (checkFrame_quiet hphase framesTaken bytesTaken) (fun _ => rfl) rfl rfl
  · rename_i decoded hphase
    cases taken
    exact Move.of_quiet known (claimed_quiet hphase _) (fun _ => rfl) rfl rfl
  · rename_i decoded relaySequence hphase
    cases taken
    exact deliver_move known hphase framesTaken bytesTaken
  · cases taken
  · cases taken

theorem step_move (id : Nat) (taken : step system action = some next) : Move id system next action := by
  cases action with
  | load row capacity retained =>
    simp only [step] at taken
    split at taken
    · cases taken
      exact .apart rfl rfl rfl
    · cases taken
  | handle terminalId op =>
    simp only [step] at taken
    split at taken
    · split at taken
      · cases taken
      · cases taken
        exact .apart rfl rfl rfl
    · cases taken
  | attach | detach | closeReceiver =>
    cases taken
    exact .apart rfl rfl rfl
  | receive generation =>
    simp only [step] at taken
    split at taken
    · cases taken
      exact .apart rfl rfl rfl
    · cases taken
  | connect terminalId version maySendInput =>
    simp only [step] at taken
    split at taken
    · cases taken
      by_cases hid : system.nextMirror = id
      · refine .opened ⟨terminalId, version, maySendInput, InputState.new, .waiting, []⟩ rfl rfl rfl
          ?_ hid (congrArg (· + 1) hid) rfl rfl
        rw [setMirror_mirrors, if_pos hid.symm]
      · refine .apart ?_ rfl rfl
        rw [setMirror_mirrors, if_neg (Ne.symm hid)]
    · cases taken
  | frame other bytes settings =>
    simp only [step] at taken
    split at taken
    · rename_i mirror hmirror
      split at taken
      · rename_i hwaiting
        cases taken
        refine Move.of_quiet hmirror ?_ ?_ rfl rfl
        · rw [arrivedIn, if_pos rfl]
          exact takeFrame_quiet bytes settings hwaiting
        · intro hother
          rw [arrivedIn, if_neg hother]
      · cases taken
    · cases taken
  | proceed other framesTaken bytesTaken =>
    simp only [step] at taken
    split at taken
    · rename_i hmirror
      split at taken
      · exact proceed_move hmirror taken
      · cases taken
    · cases taken
  | disconnect other =>
    simp only [step] at taken
    split at taken
    · rename_i mirror hmirror
      split at taken
      · rename_i hwaiting
        cases taken
        exact Move.of_quiet hmirror (ended_quiet hwaiting) (fun _ => rfl) rfl rfl
      · cases taken
    · cases taken

theorem proceed_nextMirror {framesTaken bytesTaken : Bool}
    (taken : system.proceed other mirror handle framesTaken bytesTaken = some next) :
    next.nextMirror = system.nextMirror := by
  unfold System.proceed at taken
  split at taken
  · cases taken
    rfl
  · cases taken
    rfl
  · cases taken
    rfl
  · cases taken
    unfold System.deliver
    split <;> rfl
  · cases taken
  · cases taken

theorem step_nextMirror (taken : step system action = some next) :
    system.nextMirror ≤ next.nextMirror := by
  cases action with
  | attach | detach | closeReceiver =>
    cases taken
    exact Nat.le_refl _
  | load | receive | connect | disconnect | frame | handle =>
    simp only [step] at taken
    repeat' split at taken
    all_goals cases taken
    all_goals first
      | exact Nat.le_refl _
      | exact Nat.le_succ _
  | proceed =>
    simp only [step] at taken
    split at taken
    · split at taken
      · exact Nat.le_of_eq (proceed_nextMirror taken).symm
      · cases taken
    · cases taken

/-- Every acknowledgement comes after the frames it covers: those enqueued before it
carry exactly the sequences up to its own. -/
def AcksFollow : List Event → Prop :=
  EachAfter fun earlier event => ∀ acceptedThrough relaySequence,
    event = .answered (.inputAck acceptedThrough relaySequence) →
      (earlier.filterMap Event.frame).map clientSequence =
        range' 1 acceptedThrough

structure Recorded (mirror : Mirror) (enqueued received : List MirrorInputFrame)
    (events : List Event) : Prop where
  sequences : enqueued.map clientSequence =
    range' 1 mirror.state.acceptedThrough
  expected : mirror.state.expectedSequence = mirror.state.acceptedThrough + 1
  held : (enqueued ++ mirror.held).Sublist received
  due : ∀ decoded, mirror.due = some decoded →
    decoded.clientSequence = mirror.state.expectedSequence
  frames : events.filterMap Event.frame = enqueued
  answers : events.filterMap Event.answer = mirror.sent
  acks : AcksFollow events

structure InOrder (id : Nat) (watched : Watched) : Prop where
  mirror_lt : ∀ mirror, watched.system.mirrors id = some mirror → id < watched.system.nextMirror
  absent : watched.system.mirrors id = none →
    enqueuedBy watched.system id = [] ∧ watched.events = []
  recorded : ∀ mirror, watched.system.mirrors id = some mirror →
    Recorded mirror (enqueuedBy watched.system id) watched.received watched.events

variable {events more : List Event} {enqueued received : List MirrorInputFrame} {event : Event}

theorem AcksFollow.errors (follow : AcksFollow events) {errors : List ServerMessage}
    (areErrors : ∀ message ∈ errors, message.isError = true) :
    AcksFollow (events ++ errors.map Event.answered) := by
  induction errors generalizing events with
  | nil => simpa using follow
  | cons message rest ih =>
    have hfirst : AcksFollow (events ++ [.answered message]) := by
      refine EachAfter.concat follow ?_
      intro acceptedThrough relaySequence hevent
      cases hevent
      cases areErrors _ mem_cons_self
    have hrest := ih hfirst fun other hother => areErrors other (mem_cons_of_mem _ hother)
    rwa [append_assoc] at hrest

theorem filterMap_frame_answered (messages : List ServerMessage) :
    (messages.map Event.answered).filterMap Event.frame = [] := by
  induction messages with
  | nil => rfl
  | cons message rest ih => exact ih

theorem filterMap_answer_answered (messages : List ServerMessage) :
    (messages.map Event.answered).filterMap Event.answer = messages := by
  induction messages with
  | nil => rfl
  | cons message rest ih => exact congrArg (message :: ·) ih

theorem Recorded.quiet (recorded : Recorded mirror enqueued received events)
    (quiet : Quiet arrived mirror after) :
    Recorded after enqueued (received ++ decodedOf arrived)
      (events ++ (after.sent.drop mirror.sent.length).map Event.answered) := by
  obtain ⟨errors, hsent, herrors⟩ := quiet.sent
  rw [hsent, drop_left]
  exact {
    sequences := by rw [quiet.state_eq, recorded.sequences]
    expected := by rw [quiet.state_eq, recorded.expected]
    held := by
      have hheld := (Sublist.refl enqueued).append quiet.held
      rw [← append_assoc] at hheld
      exact hheld.trans (recorded.held.append (Sublist.refl _))
    due := by
      intro decoded hdue
      rw [quiet.state_eq]
      rcases quiet.due decoded hdue with hbefore | hchecked
      · exact recorded.due decoded hbefore
      · exact hchecked
    frames := by
      rw [filterMap_append, filterMap_frame_answered, append_nil, recorded.frames]
    answers := by
      rw [filterMap_append, filterMap_answer_answered, recorded.answers, hsent]
    acks := recorded.acks.errors herrors }

theorem Recorded.delivered (recorded : Recorded mirror enqueued received events)
    (phase_eq : mirror.phase = .claimed decoded relaySequence) :
    Recorded (mirror.acknowledge decoded relaySequence) (enqueued ++ [decoded]) received
      (events ++ [.enqueued decoded, .answered (.inputAck decoded.clientSequence relaySequence)]) := by
  have hdue : decoded.clientSequence = mirror.state.acceptedThrough + 1 := by
    rw [← recorded.expected]
    exact recorded.due decoded (by simp [Mirror.due, phase_eq])
  have hsequences : (enqueued ++ [decoded]).map clientSequence =
      range' 1 decoded.clientSequence := by
    rw [map_append, recorded.sequences, hdue, List.range'_1_concat, Nat.add_comm 1, ← hdue]
    rfl
  exact {
    sequences := hsequences
    expected := by
      simp only [Mirror.acknowledge]
      rw [hdue, recorded.expected]
    held := by simpa [Mirror.held, phase_eq, Mirror.acknowledge] using recorded.held
    due := by
      intro other hother
      cases hother
    frames := by
      rw [filterMap_append, recorded.frames]
      rfl
    answers := by
      rw [filterMap_append, recorded.answers]
      rfl
    acks := by
      have hframe : AcksFollow (events ++ [.enqueued decoded]) := by
        refine EachAfter.concat recorded.acks ?_
        intro acceptedThrough relaySequence' hevent
        cases hevent
      have hack : AcksFollow (events ++ [.enqueued decoded] ++
          [.answered (.inputAck decoded.clientSequence relaySequence)]) := by
        refine EachAfter.concat hframe ?_
        intro acceptedThrough relaySequence' hevent
        cases hevent
        rw [filterMap_append, recorded.frames]
        exact hsequences
      rwa [append_assoc] at hack }

theorem answersTo_eq (known : system.mirrors id = some mirror) : answersTo system id = mirror.sent := by
  simp [answersTo, known]

theorem InOrder.step {watched : Watched} (inOrder : InOrder id watched)
    (taken : Input.step watched.system action = some next) :
    InOrder id ⟨next, watched.received ++ decodedOf (arrivedIn id action),
      watched.events ++ eventsIn id watched.system next⟩ := by
  obtain ⟨system, received, events⟩ := watched
  obtain ⟨hlt, habsent, hrecorded⟩ := inOrder
  have hnext := step_nextMirror taken
  cases step_move id taken with
  | apart hmirror henqueued harrived =>
    have hevents : eventsIn id system next = [] := by
      simp [eventsIn, henqueued, answersTo, hmirror]
    refine { mirror_lt := ?_, absent := ?_, recorded := ?_ }
    all_goals simp only [hmirror, henqueued, harrived, decodedOf_none, hevents, append_nil]
    · intro mirror hknown
      exact Nat.lt_of_lt_of_le (hlt mirror hknown) hnext
    · exact habsent
    · exact hrecorded
  | opened mirror hstate hphase hsent hknown hfresh hcounted henqueued harrived =>
    have hnone : system.mirrors id = none := by
      cases hbefore : system.mirrors id with
      | none => rfl
      | some other =>
        have hbound : id < system.nextMirror := hlt other hbefore
        rw [hfresh] at hbound
        exact absurd hbound (Nat.lt_irrefl _)
    obtain ⟨hnil, rfl⟩ := habsent hnone
    have hnew : eventsIn id system next = [] := by
      simp [eventsIn, henqueued, answersTo, hknown, hsent]
    refine { mirror_lt := ?_, absent := ?_, recorded := ?_ }
    · intro _ _
      exact Nat.lt_of_lt_of_le (Nat.lt_succ_self id) (Nat.le_of_eq hcounted.symm)
    · intro h
      rw [hknown] at h
      cases h
    · intro other hother
      rw [hknown] at hother
      cases hother
      simp only [henqueued, hnil, hnew, append_nil]
      exact {
        sequences := by rw [hstate]; rfl
        expected := by rw [hstate]; rfl
        held := by simp [Mirror.held, hphase]
        due := by simp [Mirror.due, hphase]
        frames := rfl
        answers := hsent.symm
        acks := EachAfter.nil }
  | quiet mirror after hknown hafter hquiet henqueued =>
    have hevents : eventsIn id system next =
        (after.sent.drop mirror.sent.length).map Event.answered := by
      simp [eventsIn, henqueued, answersTo_eq hknown, answersTo_eq hafter]
    refine { mirror_lt := ?_, absent := ?_, recorded := ?_ }
    · intro _ _
      exact Nat.lt_of_lt_of_le (hlt mirror hknown) hnext
    · intro h
      rw [hafter] at h
      cases h
    · intro other hother
      rw [hafter] at hother
      cases hother
      simp only [henqueued, hevents]
      exact (hrecorded mirror hknown).quiet hquiet
  | delivered mirror decoded relaySequence hknown hphase hafter henqueued harrived =>
    have hevents : eventsIn id system next =
        [.enqueued decoded, .answered (.inputAck decoded.clientSequence relaySequence)] := by
      simp [eventsIn, henqueued, answersTo_eq hknown, answersTo_eq hafter, Mirror.acknowledge]
    refine { mirror_lt := ?_, absent := ?_, recorded := ?_ }
    · intro _ _
      exact Nat.lt_of_lt_of_le (hlt mirror hknown) hnext
    · intro h
      rw [hafter] at h
      cases h
    · intro other hother
      rw [hafter] at hother
      cases hother
      simp only [henqueued, hevents, harrived, decodedOf_none, append_nil]
      exact (hrecorded mirror hknown).delivered hphase

theorem InOrder.initial (id : Nat) : InOrder id Watched.initial where
  mirror_lt := by simp [Watched.initial, System.initial]
  absent := fun _ => ⟨rfl, rfl⟩
  recorded := by simp [Watched.initial, System.initial]

theorem refused_keeps_sequences {code message : String} {terminalId : Option Uuid}
    (known : system.mirrors id = some mirror) (taken : step system action = some next)
    (next_eq : next.mirrors id = some after)
    (refused : after.sent = mirror.sent ++ [.error code message terminalId]) :
    after.state = mirror.state ∧ enqueuedBy next id = enqueuedBy system id := by
  cases step_move id taken with
  | apart hmirror henqueued =>
    rw [hmirror, known] at next_eq
    cases next_eq
    exact ⟨rfl, henqueued⟩
  | opened other hstate hphase hsent hnext hfresh hcounted henqueued =>
    rw [hnext] at next_eq
    cases next_eq
    rw [hsent] at refused
    simp at refused
  | quiet _ _ hknown hnext hquiet henqueued =>
    rw [known] at hknown
    rw [hnext] at next_eq
    cases hknown
    cases next_eq
    exact ⟨hquiet.state_eq, henqueued⟩
  | delivered _ decoded relaySequence hknown _ hnext =>
    rw [known] at hknown
    rw [hnext] at next_eq
    cases hknown
    cases next_eq
    simp [Mirror.acknowledge] at refused

/-- In every run of the relay the frames a subscription gets into the publisher's channel
carry the sequences 1, 2, …, k in that order and are frames it received, as they were
received; its sequence state is k and k + 1; every acknowledgement follows the frames it
covers; and a refusal changes nothing. -/
theorem input_enqueued_in_order {actions : List Action} {watched : Watched}
    (taken : run (watch id) Watched.initial actions = some watched)
    (known : watched.system.mirrors id = some mirror) :
    (enqueuedBy watched.system id).map clientSequence =
        range' 1 (enqueuedBy watched.system id).length ∧
      (enqueuedBy watched.system id).Sublist watched.received ∧
      mirror.state.acceptedThrough = (enqueuedBy watched.system id).length ∧
      mirror.state.expectedSequence = (enqueuedBy watched.system id).length + 1 ∧
      watched.events.filterMap Event.frame = enqueuedBy watched.system id ∧
      watched.events.filterMap Event.answer = mirror.sent ∧ AcksFollow watched.events ∧
      ∀ action next after code message terminalId, step watched.system action = some next →
        next.mirrors id = some after →
        after.sent = mirror.sent ++ [.error code message terminalId] →
        after.state = mirror.state ∧
          enqueuedBy next id = enqueuedBy watched.system id := by
  have hkept : ∀ state action next, InOrder id state → watch id state action = some next →
      InOrder id next := by
    intro state action next inOrder hwatch
    obtain ⟨after, hstep, rfl⟩ := watch_eq_some.mp hwatch
    exact inOrder.step hstep
  have hrecorded := (run_invariant hkept (InOrder.initial id) taken).recorded mirror known
  have hcount : mirror.state.acceptedThrough = (enqueuedBy watched.system id).length := by
    have := congrArg List.length hrecorded.sequences
    simpa using this.symm
  refine ⟨hcount ▸ hrecorded.sequences, ?_, hcount, hcount ▸ hrecorded.expected, hrecorded.frames,
    hrecorded.answers, hrecorded.acks, ?_⟩
  · exact (sublist_append_left _ _).trans hrecorded.held
  · intro action next after code message terminalId hstep hnext hrefused
    exact refused_keeps_sequences known hstep hnext hrefused

/-- A frame accepted, its sequence sent again and refused, and the next one accepted. -/
def resentRun : List Action :=
  inputSetup ++ approval 0 1 ++ forwarding 0 ++ [.receive 1] ++ approval 0 1 ++ approval 0 2 ++
    forwarding 0

theorem input_enqueued_in_order_in_resentRun :
    ∃ watched mirror, run (watch 0) Watched.initial resentRun = some watched ∧
      watched.system.mirrors 0 = some mirror ∧
      enqueuedBy watched.system 0 = [⟨1, [0x61]⟩, ⟨2, [0x61]⟩] ∧ watched.received.length = 3 ∧
      (enqueuedBy watched.system 0).Sublist watched.received ∧
      mirror.state.acceptedThrough = 2 := by
  have hoverall : (run (watch 0) Watched.initial resentRun).map (fun watched =>
      (enqueuedBy watched.system 0, watched.received.length, (watched.system.mirrors 0).isSome)) =
      some ([⟨1, [0x61]⟩, ⟨2, [0x61]⟩], 3, true) := by decide +kernel
  obtain ⟨watched, hrun, hall⟩ := Option.map_eq_some_iff.mp hoverall
  obtain ⟨henqueued, hall⟩ := Prod.mk.inj hall
  obtain ⟨hreceived, hknown⟩ := Prod.mk.inj hall
  obtain ⟨mirror, hmirror⟩ := Option.isSome_iff_exists.mp hknown
  obtain ⟨-, hsublist, haccepted, -⟩ := input_enqueued_in_order hrun hmirror
  exact ⟨watched, mirror, hrun, hmirror, henqueued, hreceived, hsublist, by rw [haccepted, henqueued]; rfl⟩

end Hypeterm.Relay.Input
