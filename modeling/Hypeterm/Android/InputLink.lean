import Hypeterm.Library.Pipeline
import Hypeterm.Relay.InOrder
import Hypeterm.Android.Mirror

/-! Input from the phone to the relay.  The mirror session numbers its input frames and
pipelines them; the relay answers each one.  Both directions of the connection keep their
order, and the relay's settings, publishers and other subscriptions move in between. -/
namespace Hypeterm.Android

open Library List Pipeline
open Relay (MirrorInputFrame decodeMirrorInputFrame encodeMirrorInputFrame)
open Relay.Input (answersTo enqueuedBy arrivedIn decodedOf InOrder)

/-- The part of a mirror session that concerns input. -/
structure InputSession where
  subscribed : Bool
  inputAvailable : Bool
  maxInputFrameBytes : Nat
  nextClientSequence : Nat
  acceptedThrough : Nat

inductive SendRefusal where
  | notAttached
  | emptyFrame
  | readOnly
  | tooLong

namespace InputSession

def connect (maxInputFrameBytes : Nat) : InputSession := ⟨false, false, maxInputFrameBytes, 1, 0⟩

def resetInputSequencing (session : InputSession) : InputSession :=
  { session with nextClientSequence := session.acceptedThrough + 1 }

def handleSubscribed (session : InputSession) (inputAvailable : Bool) : InputSession :=
  ({ session with subscribed := true, inputAvailable, acceptedThrough := 0 } :
    InputSession).resetInputSequencing

def handleInputAck (session : InputSession) (accepted : Nat) : InputSession :=
  let acceptedThrough := max session.acceptedThrough accepted
  { session with
    acceptedThrough
    nextClientSequence := max session.nextClientSequence (acceptedThrough + 1) }

/-- Refusals of input leave the subscription usable; every other error ends it. -/
def handleError (session : InputSession) (code : String) : Option InputSession :=
  if refusesInput code then some session.resetInputSequencing else none

def handleMessage (session : InputSession) : Relay.Input.ServerMessage → Option InputSession
  | .inputAck acceptedThrough _ => some (session.handleInputAck acceptedThrough)
  | .error code _ _ => session.handleError code

/-- The frame to be written, and the session once it is written. -/
def sendInput (session : InputSession) (bytes : Bytes) :
    Except SendRefusal (Bytes × InputSession) :=
  if !session.subscribed then .error .notAttached
  else if bytes.isEmpty then .error .emptyFrame
  else if !session.inputAvailable then .error .readOnly
  else if session.maxInputFrameBytes < bytes.length then .error .tooLong
  else .ok (encodeMirrorInputFrame session.nextClientSequence bytes,
    { session with nextClientSequence := session.nextClientSequence + 1 })

end InputSession

/-- The connection between one mirror session and its subscription at the relay, and what
went over it: the frames sent, each with the number of refusals heard before it, and the
answers heard. -/
structure InputLink where
  relay : Relay.Input.System
  session : Option InputSession
  uplink : List Bytes
  downlink : List Relay.Input.ServerMessage
  sent : List (Numbered Bytes)
  heard : List Relay.Input.ServerMessage

/-- `relay` is any step of the relay but the arrival of a frame of this subscription. -/
inductive LinkAction where
  | relay (action : Relay.Input.Action)
  | subscribed (inputAvailable : Bool) (maxInputFrameBytes : Nat)
  | send (payload : Bytes)
  | receive (settings : Relay.Input.Settings)
  | hear

namespace InputLink

def accepts (message : Relay.Input.ServerMessage) : Bool := !message.isError

def mismatches : Relay.Input.ServerMessage → Bool
  | .error code _ _ => code = "input_sequence_mismatch"
  | .inputAck _ _ => false

def initial : InputLink := ⟨Relay.Input.System.initial, none, [], [], [], []⟩

def refusals (link : InputLink) : Nat := (link.heard.filter fun message => !accepts message).length

/-- The relay's side after a step of the relay: what it wrote is on its way. -/
def relayed (id : Nat) (link : InputLink) (next : Relay.Input.System) : InputLink :=
  { link with
    relay := next
    downlink := link.downlink ++ (answersTo next id).drop (answersTo link.relay id).length }

/-- The session's counter is a 64-bit one; it does not live to send 2 ^ 64 frames. -/
def step (id : Nat) (link : InputLink) : LinkAction → Option InputLink
  | .relay action =>
      if arrivedIn id action = none then
        (Relay.Input.step link.relay action).map (link.relayed id)
      else none
  | .subscribed inputAvailable maxInputFrameBytes =>
      if (link.relay.mirrors id).isSome ∧ link.session = none ∧ link.sent = [] then
        some { link with
          session :=
            some ((InputSession.connect maxInputFrameBytes).handleSubscribed inputAvailable) }
      else none
  | .send payload =>
      match link.session with
      | some session =>
          if session.nextClientSequence < 2 ^ 64 then
            match session.sendInput payload with
            | .ok (frame, after) =>
                some { link with
                  session := some after
                  uplink := link.uplink ++ [frame]
                  sent := link.sent ++ [⟨session.nextClientSequence, link.refusals, payload⟩] }
            | .error _ => some link
          else none
      | none => none
  | .receive settings =>
      match link.uplink with
      | frame :: rest =>
          (Relay.Input.step link.relay (.frame id frame settings)).map fun next =>
            { link.relayed id next with uplink := rest }
      | [] => none
  | .hear =>
      match link.session, link.downlink with
      | some session, message :: rest =>
          some { link with
            session := session.handleMessage message
            downlink := rest
            heard := link.heard ++ [message] }
      | _, _ => none

/-- Every frame without an answer that was sent before the last refusal heard comes from a
batch in which a refusal was heard, so none of them can be accepted any more. -/
def settled (link : InputLink) : Bool :=
  (link.sent.drop link.heard.length).all fun request =>
    decide (link.refusals ≤ request.batch) ||
      (link.sent.zip link.heard).any fun pair =>
        decide (pair.1.batch = request.batch) && !accepts pair.2

/-- Nothing is sent while a frame that may still be accepted carries the next number. -/
def sendsSettled (link : InputLink) : LinkAction → Bool
  | .send _ => link.settled
  | _ => true

def frameOf (request : Numbered Bytes) : MirrorInputFrame := ⟨request.sequence, request.value⟩

def heldBy (relay : Relay.Input.System) (id : Nat) : List MirrorInputFrame :=
  ((relay.mirrors id).map Relay.Input.Mirror.held).getD []

/-- What the relay's answers say about the frames sent: the ones enqueued are those
acknowledged, in the order sent; the others are refused or still on their way; and a frame
sent after a refusal is refused for its number only behind another refusal that its sender
could not know of. -/
structure Agreed (id : Nat) (link : InputLink) : Prop where
  subsequence : ((enqueuedBy link.relay id).map MirrorInputFrame.payload).Sublist
    (link.sent.map Numbered.value)
  enqueued : enqueuedBy link.relay id =
    ((link.sent.zip (answersTo link.relay id)).filter fun pair => accepts pair.2).map fun pair =>
      frameOf pair.1
  accounted : link.sent.length =
    (answersTo link.relay id).length + (heldBy link.relay id).length + link.uplink.length
  answers : answersTo link.relay id = link.heard ++ link.downlink
  mismatched : EachAfter
    (fun earlier pair => 1 ≤ pair.1.batch → mismatches pair.2 = true →
      ∃ before ∈ earlier, before.1.batch = pair.1.batch ∧ accepts before.2 = false)
    (link.sent.zip (answersTo link.relay id))

def expectedBy (relay : Relay.Input.System) (id : Nat) : Nat :=
  ((relay.mirrors id).map fun mirror => mirror.state.expectedSequence).getD 1

/-- One step of the relay: the frame in its hands goes on, is refused or is enqueued. -/
inductive Turn (id : Nat) (relay next : Relay.Input.System) (arrived : Option Bytes) : Prop
  | passed (answers_eq : answersTo next id = answersTo relay id)
      (held_eq : heldBy next id = heldBy relay id ++ decodedOf arrived)
      (expected_eq : expectedBy next id = expectedBy relay id)
      (enqueued_eq : enqueuedBy next id = enqueuedBy relay id)
  | answered (decoded : MirrorInputFrame) (message : Relay.Input.ServerMessage)
      (busy : heldBy relay id ++ decodedOf arrived = [decoded])
      (answers_eq : answersTo next id = answersTo relay id ++ [message])
      (held_eq : heldBy next id = [])
      (expected_eq : expectedBy next id =
        if accepts message then expectedBy relay id + 1 else expectedBy relay id)
      (enqueued_eq : enqueuedBy next id =
        enqueuedBy relay id ++ if accepts message then [decoded] else [])
      (accepted : accepts message = true → decoded.clientSequence = expectedBy relay id)
      (mismatch : mismatches message = true → decoded.clientSequence ≠ expectedBy relay id)
      (covers : ∀ acceptedThrough relaySequence,
        message = .inputAck acceptedThrough relaySequence → acceptedThrough = decoded.clientSequence)
  | malformed (bytes : Bytes) (error : Relay.FrameError) (arrived_eq : arrived = some bytes)
      (undecoded : decodeMirrorInputFrame bytes = .error error)

variable {id : Nat} {relay next : Relay.Input.System} {action : Relay.Input.Action}

theorem views_eq {mirror : Relay.Input.Mirror} (known : relay.mirrors id = some mirror) :
    answersTo relay id = mirror.sent ∧ heldBy relay id = mirror.held ∧
      expectedBy relay id = mirror.state.expectedSequence := by
  simp [answersTo, heldBy, expectedBy, known]

theorem views_absent (absent : relay.mirrors id = none) :
    answersTo relay id = [] ∧ heldBy relay id = [] ∧ expectedBy relay id = 1 := by
  simp [answersTo, heldBy, expectedBy, absent]

theorem turn_of_outcome {mirror after : Relay.Input.Mirror} {arrived : Option Bytes}
    (known : relay.mirrors id = some mirror) (next_eq : next.mirrors id = some after)
    (quiet : Relay.Input.Quiet arrived mirror after)
    (enqueued_eq : enqueuedBy next id = enqueuedBy relay id) : Turn id relay next arrived := by
  obtain ⟨hanswers, hheld, hexpected⟩ := views_eq known
  obtain ⟨hanswers', hheld', hexpected'⟩ := views_eq next_eq
  have hsame : expectedBy next id = expectedBy relay id := by
    rw [hexpected, hexpected', quiet.state_eq]
  cases quiet.outcome with
  | passed hsent hafter =>
    exact .passed (by rw [hanswers', hsent, hanswers]) (by rw [hheld', hafter, hheld]) hsame
      enqueued_eq
  | refused decoded code message terminalId hbusy hsent hafter hmismatch =>
    refine .answered decoded (.error code message terminalId) (by rw [hheld, hbusy])
      (by rw [hanswers', hsent, hanswers]) (by rw [hheld', hafter]) hsame
      (by rw [enqueued_eq]; exact (append_nil _).symm) ?_ ?_ ?_
    · intro haccepts
      cases haccepts
    · intro hcode
      rw [hexpected]
      exact hmismatch (of_decide_eq_true hcode)
    · intro _ _ hack
      cases hack
  | malformed bytes error message harrived hundecoded =>
    exact .malformed bytes error harrived hundecoded

theorem step_turn {watched : Relay.Input.Watched} (inOrder : InOrder id watched)
    (taken : Relay.Input.step watched.system action = some next) :
    Turn id watched.system next (arrivedIn id action) := by
  cases Relay.Input.step_move id taken with
  | apart hmirror henqueued harrived =>
    rw [harrived]
    exact .passed (by simp [answersTo, hmirror]) (by simp [heldBy, hmirror, decodedOf])
      (by simp [expectedBy, hmirror]) henqueued
  | opened mirror hstate hphase hsent hnext hfresh hcounted henqueued harrived =>
    have habsent : watched.system.mirrors id = none := by
      cases hbefore : watched.system.mirrors id with
      | none => rfl
      | some other =>
        have hlt := inOrder.mirror_lt other hbefore
        rw [hfresh] at hlt
        exact absurd hlt (Nat.lt_irrefl _)
    obtain ⟨hanswers, hheld, hexpected⟩ := views_absent habsent
    obtain ⟨hanswers', hheld', hexpected'⟩ := views_eq hnext
    rw [harrived]
    refine .passed (by rw [hanswers, hanswers', hsent]) ?_ ?_ henqueued
    · rw [hheld, hheld']
      simp [Relay.Input.Mirror.held, hphase, decodedOf]
    · rw [hexpected, hexpected', hstate]
      rfl
  | quiet mirror after hknown hnext hquiet henqueued =>
    exact turn_of_outcome hknown hnext hquiet henqueued
  | delivered mirror decoded relaySequence hknown hphase hnext henqueued harrived =>
    obtain ⟨hanswers, hheld, hexpected⟩ := views_eq hknown
    obtain ⟨hanswers', hheld', hexpected'⟩ := views_eq hnext
    have hdue := (inOrder.recorded mirror hknown).due decoded
      (by simp [Relay.Input.Mirror.due, hphase])
    rw [harrived]
    refine .answered decoded (.inputAck decoded.clientSequence relaySequence) ?_
      (by rw [hanswers', hanswers]; rfl) (by rw [hheld']; rfl) (by rw [hexpected', hexpected]; rfl)
      henqueued (fun _ => by rw [hexpected, hdue]) ?_ ?_
    · rw [hheld]
      simp [Relay.Input.Mirror.held, hphase, decodedOf]
    · intro hmismatch
      cases hmismatch
    · intro _ _ hack
      cases hack
      rfl

def encodeRequest (request : Numbered Bytes) : Bytes :=
  encodeMirrorInputFrame request.sequence request.value

structure Tracks (id : Nat) (link : InputLink)
    (pipeline : Pipeline Bytes Relay.Input.ServerMessage) : Prop where
  sent_eq : link.sent = pipeline.requests
  heard_eq : link.heard = pipeline.heard.map Prod.snd
  downlink_eq : link.downlink = pipeline.unheard.map Prod.snd
  answers_eq : answersTo link.relay id = pipeline.answered.map Prod.snd
  expected_eq : expectedBy link.relay id = pipeline.expected
  enqueued_eq : enqueuedBy link.relay id =
    (pipeline.answered.filter fun pair => accepts pair.2).map fun pair => frameOf pair.1
  pending : ∃ front flying, pipeline.pending = front ++ flying ∧
    front.map frameOf = heldBy link.relay id ∧ link.uplink = flying.map encodeRequest
  covers : ∀ pair ∈ pipeline.answered, ∀ acceptedThrough relaySequence,
    pair.2 = .inputAck acceptedThrough relaySequence → acceptedThrough = pair.1.sequence
  small : ∀ request ∈ pipeline.pending, request.sequence < 2 ^ 64
  session : ∀ session, link.session = some session →
    session.nextClientSequence = pipeline.next ∧ session.acceptedThrough = pipeline.accepted

structure Sound (pipeline : Pipeline Bytes Relay.Input.ServerMessage) : Prop where
  aligned : pipeline.Aligned accepts
  explained : Pipeline.Explained accepts mismatches pipeline.answered

structure Invariant (id : Nat) (link : InputLink) : Prop where
  tracked : ∃ pipeline, Tracks id link pipeline ∧ Sound pipeline
  inOrder : ∃ received events, InOrder id ⟨link.relay, received, events⟩

variable {link after : InputLink} {pipeline : Pipeline Bytes Relay.Input.ServerMessage}

theorem Invariant.initial (id : Nat) : Invariant id initial where
  tracked := by
    refine ⟨Pipeline.initial, ?_, Pipeline.Aligned.initial, EachAfter.nil⟩
    exact {
      sent_eq := rfl
      heard_eq := rfl
      downlink_eq := rfl
      answers_eq := rfl
      expected_eq := rfl
      enqueued_eq := rfl
      pending := ⟨[], [], rfl, rfl, rfl⟩
      covers := by simp [Pipeline.initial, Pipeline.answered]
      small := by simp [Pipeline.initial]
      session := by simp [InputLink.initial] }
  inOrder := ⟨[], [], InOrder.initial id⟩

theorem decode_encodeRequest {request : Numbered Bytes} (small : request.sequence < 2 ^ 64) :
    decodeMirrorInputFrame (encodeRequest request) = .ok (frameOf request) :=
  Relay.decodeMirrorInputFrame_encode small request.value

/-- The relay takes a step with the frames of `arriving` off the uplink. -/
theorem Tracks.turn {arrived : Option Bytes} {front arriving flying : List (Numbered Bytes)}
    (tracks : Tracks id link pipeline) (sound : Sound pipeline)
    (turn : Turn id link.relay next arrived)
    (pending_eq : pipeline.pending = front ++ arriving ++ flying)
    (front_eq : front.map frameOf = heldBy link.relay id)
    (arriving_eq : arriving.map frameOf = decodedOf arrived)
    (decodable : ∀ bytes, arrived = some bytes →
      ∃ decoded, decodeMirrorInputFrame bytes = .ok decoded) :
    ∃ pipeline', Tracks id { link.relayed id next with uplink := flying.map encodeRequest } pipeline' ∧
      Sound pipeline' := by
  have hfront : (front ++ arriving).map frameOf = heldBy link.relay id ++ decodedOf arrived := by
    rw [map_append, front_eq, arriving_eq]
  cases turn with
  | passed hanswers hheld hexpected henqueued =>
    refine ⟨pipeline, ?_, sound⟩
    exact {
      sent_eq := tracks.sent_eq
      heard_eq := tracks.heard_eq
      downlink_eq := by
        simp only [relayed, hanswers, drop_length, append_nil]
        exact tracks.downlink_eq
      answers_eq := hanswers.trans tracks.answers_eq
      expected_eq := hexpected.trans tracks.expected_eq
      enqueued_eq := henqueued.trans tracks.enqueued_eq
      pending := ⟨front ++ arriving, flying, pending_eq, hfront.trans hheld.symm, rfl⟩
      covers := tracks.covers
      small := tracks.small
      session := tracks.session }
  | answered decoded message hbusy hanswers hheld hexpected henqueued haccepted hmismatch hcovers =>
    obtain ⟨request, hone, rfl⟩ : ∃ request, front ++ arriving = [request] ∧
        frameOf request = decoded := by
      rw [hbusy] at hfront
      exact map_eq_singleton_iff.mp hfront
    have hpending : pipeline.pending = request :: flying := by
      rw [pending_eq, hone]
      rfl
    rw [tracks.expected_eq] at haccepted hmismatch
    refine ⟨pipeline.answer accepts request flying message, ?_,
      sound.aligned.answer hpending haccepted,
      sound.explained.answer sound.aligned hpending hmismatch⟩
    exact {
      sent_eq := by
        rw [requests_answer hpending]
        exact tracks.sent_eq
      heard_eq := tracks.heard_eq
      downlink_eq := by
        simp only [relayed, hanswers, drop_left, tracks.downlink_eq, answer, map_append]
        rfl
      answers_eq := by
        rw [answered_answer, map_append, ← tracks.answers_eq]
        exact hanswers
      expected_eq := by
        rw [tracks.expected_eq] at hexpected
        exact hexpected
      enqueued_eq := by
        rw [answered_answer, filter_append, map_append, ← tracks.enqueued_eq]
        refine henqueued.trans ?_
        cases haccepts : accepts message <;> simp [haccepts]
      pending := ⟨[], flying, rfl, hheld.symm, rfl⟩
      covers := by
        intro pair hmem
        rw [answered_answer] at hmem
        rcases mem_append.mp hmem with hbefore | hlast
        · exact tracks.covers pair hbefore
        · rw [mem_singleton.mp hlast]
          exact hcovers
      small := fun other hmem => tracks.small other (hpending ▸ mem_cons_of_mem _ hmem)
      session := tracks.session }
  | malformed bytes error harrived hundecoded =>
    obtain ⟨decoded, hdecoded⟩ := decodable bytes harrived
    rw [hundecoded] at hdecoded
    cases hdecoded

theorem InOrder.kept {received : List MirrorInputFrame} {events : List Relay.Input.Event}
    (inOrder : InOrder id ⟨relay, received, events⟩)
    (taken : Relay.Input.step relay action = some next) :
    ∃ received events, InOrder id ⟨next, received, events⟩ :=
  ⟨_, _, inOrder.step taken⟩

theorem Invariant.relayed (inv : Invariant id link) (apart : arrivedIn id action = none)
    (taken : Relay.Input.step link.relay action = some next) : Invariant id (link.relayed id next) := by
  obtain ⟨⟨pipeline, tracks, sound⟩, received, events, inOrder⟩ := inv
  refine ⟨?_, InOrder.kept inOrder taken⟩
  obtain ⟨front, flying, hpending, hfront, huplink⟩ := tracks.pending
  have hturn := step_turn inOrder taken
  rw [apart] at hturn
  have hmoved : front ++ [] ++ flying = pipeline.pending := by rw [append_nil, hpending]
  have htracked := tracks.turn sound hturn hmoved.symm hfront rfl (by simp)
  rw [← huplink] at htracked
  exact htracked

theorem Invariant.receive (inv : Invariant id link) {frame : Bytes} {rest : List Bytes}
    {settings : Relay.Input.Settings} (uplink_eq : link.uplink = frame :: rest)
    (taken : Relay.Input.step link.relay (.frame id frame settings) = some next) :
    Invariant id { link.relayed id next with uplink := rest } := by
  obtain ⟨⟨pipeline, tracks, sound⟩, received, events, inOrder⟩ := inv
  refine ⟨?_, InOrder.kept inOrder taken⟩
  obtain ⟨front, flying, hpending, hfront, huplink⟩ := tracks.pending
  rw [uplink_eq] at huplink
  obtain ⟨request, flying, rfl, rfl, rfl⟩ := map_eq_cons_iff.mp huplink.symm
  have hdecoded : decodeMirrorInputFrame (encodeRequest request) = .ok (frameOf request) :=
    decode_encodeRequest (tracks.small request (by simp [hpending]))
  have hturn := step_turn inOrder taken
  rw [arrivedIn, if_pos rfl] at hturn
  have hmoved : front ++ [request] ++ flying = pipeline.pending := by simp [hpending]
  refine tracks.turn sound hturn hmoved.symm hfront ?_ ?_
  · simp [decodedOf, hdecoded, Except.toOption]
  · intro bytes harrived
    cases harrived
    exact ⟨_, hdecoded⟩

theorem zip_map_append {first second : Type} (pairs : List (first × second)) (more : List first) :
    (pairs.map Prod.fst ++ more).zip (pairs.map Prod.snd) = pairs := by
  induction pairs with
  | nil => simp
  | cons pair rest ih => exact congrArg (pair :: ·) ih

theorem Tracks.refusals_eq (tracks : Tracks id link pipeline) :
    link.refusals = pipeline.batch accepts := by
  unfold refusals batch
  rw [tracks.heard_eq, filter_map, length_map]
  rfl

theorem Tracks.settled_iff (tracks : Tracks id link pipeline) :
    link.settled = true ↔ pipeline.Settled accepts := by
  have hlength : link.heard.length = (pipeline.heard.map Prod.fst).length := by
    rw [tracks.heard_eq, length_map, length_map]
  have hdrop : link.sent.drop link.heard.length = pipeline.unanswered := by
    rw [hlength, tracks.sent_eq, requests, drop_left]
  have hzip : link.sent.zip link.heard = pipeline.heard := by
    rw [tracks.sent_eq, tracks.heard_eq, requests, zip_map_append]
  unfold settled Pipeline.Settled
  rw [hdrop, hzip, all_eq_true, tracks.refusals_eq]
  refine forall_congr' fun request => forall_congr' fun _ => ?_
  simp only [Bool.or_eq_true, decide_eq_true_eq, any_eq_true, Bool.and_eq_true,
    Bool.not_eq_true', Pipeline.Broken]
  constructor
  · rintro (hle | hbroken) hlt
    · exact absurd hlt (Nat.not_lt.mpr hle)
    · exact hbroken
  · intro hbroken
    rcases Nat.lt_or_ge request.batch (pipeline.batch accepts) with hlt | hge
    · exact .inr (hbroken hlt)
    · exact .inl hge

theorem Invariant.send (inv : Invariant id link) {session : InputSession} {payload : Bytes}
    (open_eq : link.session = some session) (small : session.nextClientSequence < 2 ^ 64)
    (settled : link.settled = true) :
    Invariant id { link with
      session := some { session with nextClientSequence := session.nextClientSequence + 1 }
      uplink := link.uplink ++ [encodeMirrorInputFrame session.nextClientSequence payload]
      sent := link.sent ++ [⟨session.nextClientSequence, link.refusals, payload⟩] } := by
  obtain ⟨⟨pipeline, tracks, sound⟩, inOrder⟩ := inv
  obtain ⟨hnext, haccepted⟩ := tracks.session session open_eq
  obtain ⟨front, flying, hpending, hfront, huplink⟩ := tracks.pending
  refine ⟨⟨pipeline.send accepts payload, ?_, sound.aligned.send (tracks.settled_iff.mp settled) payload,
    sound.explained⟩, inOrder⟩
  exact {
    sent_eq := by
      rw [requests_send, ← tracks.sent_eq, hnext, tracks.refusals_eq]
    heard_eq := tracks.heard_eq
    downlink_eq := tracks.downlink_eq
    answers_eq := tracks.answers_eq
    expected_eq := tracks.expected_eq
    enqueued_eq := tracks.enqueued_eq
    pending := by
      refine ⟨front, flying ++ [⟨pipeline.next, pipeline.batch accepts, payload⟩], ?_, hfront, ?_⟩
      · simp [Pipeline.send, hpending]
      · simp [huplink, hnext, encodeRequest]
    covers := tracks.covers
    small := by
      intro request hmem
      rcases mem_append.mp hmem with hbefore | hlast
      · exact tracks.small request hbefore
      · rw [mem_singleton.mp hlast, ← hnext]
        exact small
    session := by
      intro after hafter
      cases hafter
      exact ⟨congrArg (· + 1) hnext, haccepted⟩ }

theorem handleMessage_tracks {session after : InputSession} {pair : Numbered Bytes × Relay.Input.ServerMessage}
    {rest : List (Numbered Bytes × Relay.Input.ServerMessage)}
    (counters : session.nextClientSequence = pipeline.next ∧ session.acceptedThrough = pipeline.accepted)
    (covers : ∀ acceptedThrough relaySequence,
      pair.2 = .inputAck acceptedThrough relaySequence → acceptedThrough = pair.1.sequence)
    (handled : session.handleMessage pair.2 = some after) :
    after.nextClientSequence = (pipeline.hear accepts pair rest).next ∧
      after.acceptedThrough = (pipeline.hear accepts pair rest).accepted := by
  obtain ⟨hnext, haccepted⟩ := counters
  cases hmessage : pair.2 with
  | inputAck acceptedThrough relaySequence =>
    obtain rfl := covers acceptedThrough relaySequence hmessage
    rw [hmessage] at handled
    cases handled
    have hok : accepts pair.2 = true := by rw [hmessage]; rfl
    rw [Pipeline.hear, if_pos hok]
    simp only [InputSession.handleInputAck, hnext, haccepted]
    exact ⟨trivial, trivial⟩
  | error code message terminalId =>
    rw [hmessage] at handled
    have hrefused : ¬ accepts pair.2 = true := by simp [hmessage, accepts, Relay.Input.ServerMessage.isError]
    rw [Pipeline.hear, if_neg hrefused]
    simp only [InputSession.handleMessage, InputSession.handleError] at handled
    split at handled
    · cases handled
      exact ⟨congrArg (· + 1) haccepted, haccepted⟩
    · cases handled

theorem Invariant.hear (inv : Invariant id link) {session : InputSession}
    {message : Relay.Input.ServerMessage} {rest : List Relay.Input.ServerMessage}
    (open_eq : link.session = some session) (downlink_eq : link.downlink = message :: rest) :
    Invariant id { link with
      session := session.handleMessage message
      downlink := rest
      heard := link.heard ++ [message] } := by
  obtain ⟨⟨pipeline, tracks, sound⟩, inOrder⟩ := inv
  have hdownlink := tracks.downlink_eq
  rw [downlink_eq] at hdownlink
  obtain ⟨pair, others, hunheard, rfl, rfl⟩ := map_eq_cons_iff.mp hdownlink.symm
  obtain ⟨hexpected, hpending⟩ := pipeline.hear_kept accepts pair others
  have hanswered : (pipeline.hear accepts pair others).answered = pipeline.answered :=
    answered_hear hunheard
  have haligned : (pipeline.hear accepts pair others).Aligned accepts := by
    cases haccepts : accepts pair.2 with
    | true => exact sound.aligned.hear_accepted hunheard haccepts
    | false => exact sound.aligned.hear_refused hunheard haccepts
  refine ⟨⟨pipeline.hear accepts pair others, ?_, haligned, by
    rw [hanswered]
    exact sound.explained⟩, inOrder⟩
  exact {
    sent_eq := by
      rw [requests_hear hunheard]
      exact tracks.sent_eq
    heard_eq := by
      rw [tracks.heard_eq]
      unfold Pipeline.hear
      split <;> simp
    downlink_eq := by
      unfold Pipeline.hear
      split <;> rfl
    answers_eq := by
      rw [hanswered]
      exact tracks.answers_eq
    expected_eq := by
      rw [hexpected]
      exact tracks.expected_eq
    enqueued_eq := by
      rw [hanswered]
      exact tracks.enqueued_eq
    pending := by
      rw [hpending]
      exact tracks.pending
    covers := by
      rw [hanswered]
      exact tracks.covers
    small := by
      rw [hpending]
      exact tracks.small
    session := by
      intro after hafter
      refine handleMessage_tracks (tracks.session session open_eq) ?_ hafter
      exact tracks.covers pair (mem_append_right _ (hunheard ▸ mem_cons_self)) }

theorem Invariant.subscribed (inv : Invariant id link) (unsent : link.sent = [])
    (inputAvailable : Bool) (maxInputFrameBytes : Nat) :
    Invariant id { link with
      session := some ((InputSession.connect maxInputFrameBytes).handleSubscribed inputAvailable) } := by
  obtain ⟨⟨pipeline, tracks, sound⟩, inOrder⟩ := inv
  have hnone : pipeline.requests = [] := tracks.sent_eq.symm.trans unsent
  have hheard : pipeline.heard = [] := by
    rw [requests, append_eq_nil_iff] at hnone
    exact map_eq_nil_iff.mp hnone.1
  have haccepted : pipeline.accepted = 0 := by
    rw [sound.aligned.accepted_eq, hheard]
    rfl
  have hnext : pipeline.next = 1 := by
    rw [sound.aligned.idle, haccepted]
    rintro ⟨request, hmem, -⟩
    rw [hnone] at hmem
    cases hmem
  refine ⟨⟨pipeline, ?_, sound⟩, inOrder⟩
  exact {
    tracks with
    session := by
      intro session hsession
      cases hsession
      exact ⟨hnext.symm, haccepted.symm⟩ }

theorem Invariant.step (inv : Invariant id link) {action : LinkAction}
    (allowed : sendsSettled link action = true) (taken : InputLink.step id link action = some after) :
    Invariant id after := by
  cases action with
  | relay action =>
    simp only [InputLink.step] at taken
    split at taken
    · rename_i hapart
      obtain ⟨next, hstep, rfl⟩ := Option.map_eq_some_iff.mp taken
      exact inv.relayed hapart hstep
    · cases taken
  | subscribed inputAvailable maxInputFrameBytes =>
    simp only [InputLink.step] at taken
    split at taken
    · rename_i hfresh
      cases taken
      exact inv.subscribed hfresh.2.2 inputAvailable maxInputFrameBytes
    · cases taken
  | send payload =>
    simp only [InputLink.step] at taken
    split at taken
    · rename_i session hsession
      split at taken
      · rename_i hsmall
        split at taken
        · rename_i frame next hsent
          cases taken
          unfold InputSession.sendInput at hsent
          repeat' split at hsent
          all_goals cases hsent
          exact inv.send hsession hsmall allowed
        · cases taken
          exact inv
      · cases taken
    · cases taken
  | receive settings =>
    simp only [InputLink.step] at taken
    split at taken
    · rename_i frame rest huplink
      obtain ⟨next, hstep, rfl⟩ := Option.map_eq_some_iff.mp taken
      exact inv.receive huplink hstep
    · cases taken
  | hear =>
    simp only [InputLink.step] at taken
    split at taken
    · rename_i session message rest hsession hdownlink
      cases taken
      exact inv.hear hsession hdownlink
    · cases taken

theorem Invariant.agreed (inv : Invariant id link) : Agreed id link := by
  obtain ⟨⟨pipeline, tracks, sound⟩, -⟩ := inv
  have hsent : link.sent = pipeline.answered.map Prod.fst ++ pipeline.pending := by
    rw [tracks.sent_eq, requests, unanswered, Pipeline.answered, map_append,
      append_assoc]
  have hzip : link.sent.zip (answersTo link.relay id) = pipeline.answered := by
    rw [hsent, tracks.answers_eq, zip_map_append]
  obtain ⟨front, flying, hpending, hfront, huplink⟩ := tracks.pending
  exact {
    subsequence := by
      rw [tracks.enqueued_eq, hsent, map_map, map_append, map_map]
      refine Sublist.trans (Sublist.map _ filter_sublist) ?_
      exact sublist_append_left _ _
    enqueued := by
      rw [hzip]
      exact tracks.enqueued_eq
    accounted := by
      rw [hsent, hpending, tracks.answers_eq, ← hfront, huplink]
      simp only [length_append, length_map]
      omega
    answers := by
      rw [tracks.answers_eq, tracks.heard_eq, tracks.downlink_eq, Pipeline.answered, map_append]
    mismatched := by
      rw [hzip]
      intro earlier pair later hsplit _ hmismatch
      exact sound.explained earlier pair later hsplit hmismatch }

/-- In every run in which nothing is sent while a frame that may still be accepted carries
the next number, the session and the relay agree on what was delivered. -/
theorem input_agreed {actions : List LinkAction}
    (taken : run (restrict (step id) fun link action => sendsSettled link action = true) initial
      actions = some link) : Agreed id link := by
  have hkept : ∀ state action after, Invariant id state → sendsSettled state action = true →
      step id state action = some after → Invariant id after :=
    fun _ _ _ inv allowed hstep => inv.step allowed hstep
  exact (restrict_invariant hkept (Invariant.initial id) taken).agreed

open Relay.Input (inputSetup)

/-- Terminal 7 with a connected publisher, and the subscription confirmed to the session. -/
def linkSetup : List LinkAction := inputSetup.map .relay ++ [.subscribed true 16]

/-- The relay takes the next frame up to its check, and is asked for the rate. -/
def checking (framesTaken : Bool) : List LinkAction :=
  [.receive ⟨true, 16⟩, .relay (.proceed 0 true true), .relay (.proceed 0 framesTaken true)]

/-- The relay enqueues the checked frame, and the publisher takes it. -/
def enqueuing : List LinkAction :=
  [.relay (.proceed 0 true true), .relay (.proceed 0 true true), .relay (.receive 1)]

/-- Two frames refused, both answers heard, and both sent again. -/
def resentLink : List LinkAction :=
  linkSetup ++ [.send [0x61], .send [0x62]] ++ checking false ++ checking true ++ [.hear, .hear] ++
    [.send [0x61], .send [0x62]] ++ checking true ++ enqueuing ++ checking true ++ enqueuing

theorem input_agreed_in_resentLink :
    ∃ link, run (restrict (step 0) fun link action => sendsSettled link action = true) initial
        resentLink = some link ∧
      (enqueuedBy link.relay 0).map MirrorInputFrame.payload = [[0x61], [0x62]] ∧
      link.sent.map Numbered.batch = [0, 0, 2, 2] ∧ Agreed 0 link := by
  have hoverall : (run (restrict (step 0) fun link action => sendsSettled link action = true) initial
      resentLink).map (fun link =>
        ((enqueuedBy link.relay 0).map MirrorInputFrame.payload, link.sent.map Numbered.batch)) =
      some ([[0x61], [0x62]], [0, 0, 2, 2]) := by decide +kernel
  obtain ⟨link, hrun, hboth⟩ := Option.map_eq_some_iff.mp hoverall
  obtain ⟨henqueued, hbatches⟩ := Prod.mk.inj hboth
  exact ⟨link, hrun, henqueued, hbatches, input_agreed hrun⟩

/-- Of three frames the second is refused, and so the third.  The fourth is sent after the
first refusal; the refusal of the third comes late, and the fifth gets the fourth's number. -/
def lateRefusalLink : List LinkAction :=
  linkSetup ++ [.send [0x61], .send [0x62], .send [0x63]] ++ checking true ++ enqueuing ++
    checking false ++ checking true ++ [.hear, .hear, .send [0x64], .hear, .send [0x65]] ++
    checking true ++ enqueuing ++ checking true

/-- The fifth frame is refused for its number, and nothing else of its batch is. -/
theorem late_refusal_misnumbers : ¬ ∀ (actions : List LinkAction) (link : InputLink),
      run (step 0) initial actions = some link → Agreed 0 link := by
  intro claim
  have hoverall : (run (step 0) initial lateRefusalLink).map
      (fun link => link.sent.zip (answersTo link.relay 0)) =
      some ([(⟨1, 0, [0x61]⟩, .inputAck 1 1),
        (⟨2, 0, [0x62]⟩, .error "rate_limited" "input rate limit exceeded for this subscription"
          (some 7)),
        (⟨3, 0, [0x63]⟩, .error "input_sequence_mismatch" "expected client sequence 2" (some 7)),
        (⟨2, 1, [0x64]⟩, .inputAck 2 2)] ++
        (⟨2, 2, [0x65]⟩, .error "input_sequence_mismatch" "expected client sequence 3" (some 7)) ::
          []) := by
    decide +kernel
  obtain ⟨link, hrun, hanswered⟩ := Option.map_eq_some_iff.mp hoverall
  obtain ⟨before, hmem, hbatch, hrefused⟩ :=
    (claim lateRefusalLink link hrun).mismatched _ _ _ hanswered (by decide) (by decide)
  simp only [mem_cons, not_mem_nil, or_false] at hmem
  rcases hmem with rfl | rfl | rfl | rfl
  all_goals exact absurd hbatch (by decide)

end InputLink

end Hypeterm.Android
