import Hypeterm.Publisher.Session
import Hypeterm.Library.Runs

/-! What the multiplexer has to tell its terminals, against what gets into their queues. -/
namespace Hypeterm.Publisher

open Library List Option

/-- The events whose refusal by a full queue nobody looks at. -/
def Event.bare : Event → Bool
  | .mismatch _ | .detached => true
  | _ => false

namespace Hosted

def full (hosted : Hosted) : Bool :=
  hosted.events.receiverAlive && decide (hosted.events.capacity ≤ hosted.events.queue.length)

/-- While the entry stays open and its owner is there, all that was due got into the queue. -/
def Follows (hosted : Hosted) (due : List Event) : Prop :=
  hosted.closing = none → hosted.events.receiverAlive = true → hosted.events.sent = due

end Hosted

def Multiplexer.addressed (mux : Multiplexer) (limits : Limits) : Frame → Option (String × Event)
  | .text (some (.terminalOpened requestId terminalId nextOffset)) =>
      (mux.get requestId).map fun _ => (requestId, .attached terminalId nextOffset limits)
  | .text (some (.outputAck terminalId durableOffset)) =>
      (mux.localRefOf terminalId).map fun localRef => (localRef, .ack durableOffset)
  | .text (some (.terminalResizeRequest terminalId cols rows)) =>
      (mux.localRefOf terminalId).map fun localRef =>
        (localRef, .resizeRequest (clampSize cols) (clampSize rows))
  | .text (some (.error code _ terminalId requestId (some nextOffset))) =>
      if code = "offset_mismatch" then
        (mux.errorTarget terminalId requestId).map fun localRef => (localRef, .mismatch nextOffset)
      else none
  | .binary bytes =>
      match decodeInputFrame bytes with
      | .ok input =>
          (mux.localRefOf input.terminalId).map fun localRef => (localRef, .input input.payload)
      | .error _ => none
  | _ => none

namespace Session

/-- What a step has to tell the terminal of a `local_ref`, but for its end. -/
def tells (session : Session) (action : SessionAction) (localRef : String) : List Event :=
  match action, session.stage with
  | .frame frame, .connected connection =>
      match (session.mux.onFrame connection.limits session.allowRemoteOpen frame).2.2 with
      | .failed _ => [.detached]
      | _ =>
          ((session.mux.addressed connection.limits frame).filter fun told =>
            told.1 = localRef).toList.map Prod.snd
  | .hangUp, _ => [.detached]
  | .refused, _ => [.detached]
  | _, _ => []

def inserts (session : Session) : SessionAction → Option (String × Channel Event)
  | .control (.open spec events) =>
      match session.stage with
      | .connected connection =>
          if connection.maxTerminals ≤ session.mux.terminals.length ∨
              (session.mux.get spec.localRef).isSome then none
          else some (spec.localRef, events)
      | _ => some (spec.localRef, events)
  | _ => none

end Session

/-- The session, and what was due to the entry of each `local_ref` since it was made. -/
structure Deliveries where
  session : Session
  due : String → List Event

/-- `take` and `leave` are an owner's: it takes an event, or goes away. -/
inductive DeliveryAction where
  | session (action : SessionAction)
  | take (localRef : String)
  | leave (localRef : String)

namespace Deliveries

def initial (openRequests : Option (Channel OpenRequest)) (allowRemoteOpen : Bool) : Deliveries :=
  ⟨.initial openRequests allowRemoteOpen, fun _ => []⟩

def dueAfter (deliveries : Deliveries) (action : SessionAction) (localRef : String) : List Event :=
  match (deliveries.session.inserts action).filter fun entry => entry.1 = localRef with
  | some entry => entry.2.sent
  | none => deliveries.due localRef ++ deliveries.session.tells action localRef

/-- The owner of a `local_ref` does something to its end of the queue. -/
def receive (deliveries : Deliveries) (localRef : String) (f : Channel Event → Channel Event) :
    Deliveries :=
  { deliveries with session := { deliveries.session with
      mux := deliveries.session.mux.modify localRef fun hosted =>
        { hosted with events := f hosted.events } } }

def taken (events : Channel Event) : Channel Event :=
  match events.recv with
  | some received => received.2
  | none => events

def step (deliveries : Deliveries) : DeliveryAction → Option Deliveries
  | .session action =>
      (deliveries.session.step action).map fun result =>
        ⟨result.1, deliveries.dueAfter action⟩
  | .take localRef => some (deliveries.receive localRef taken)
  | .leave localRef => some (deliveries.receive localRef Channel.closeReceiver)

/-- No terminal whose entry stays open has missed an event. -/
def Complete (deliveries : Deliveries) : Prop :=
  ∀ hosted ∈ deliveries.session.mux.terminals, hosted.Follows (deliveries.due hosted.localRef)

/-- No refusal and no disconnection is to be told to an open terminal whose queue is full. -/
def heeds (deliveries : Deliveries) : DeliveryAction → Bool
  | .session action =>
      deliveries.session.mux.terminals.all fun hosted =>
        hosted.closing.isSome || !hosted.full ||
          (deliveries.session.tells action hosted.localRef).all fun event => !event.bare
  | _ => true

end Deliveries

namespace Hosted

variable {hosted : Hosted} {due : List Event}

theorem trySend_of_not_full (alive : hosted.events.receiverAlive = true)
    (room : hosted.full = false) (event : Event) :
    hosted.events.trySend event = .ok { hosted.events with
      queue := hosted.events.queue ++ [event], sent := hosted.events.sent ++ [event] } := by
  unfold full at room
  rw [alive, Bool.true_and, decide_eq_false_iff_not] at room
  have hthere : ¬ (!hosted.events.receiverAlive) = true := by
    rw [alive]
    decide
  unfold Channel.trySend
  rw [if_neg hthere, if_neg room]

theorem trySend_of_full (full : hosted.full = true) (event : Event) :
    hosted.events.trySend event = .full := by
  obtain ⟨halive, hroom⟩ := Bool.and_eq_true_iff.mp full
  unfold Channel.trySend
  rw [halive, if_neg (by decide), if_pos (of_decide_eq_true hroom)]

theorem trySend_of_gone (gone : hosted.events.receiverAlive = false) (event : Event) :
    hosted.events.trySend event = .closed := by
  unfold Channel.trySend
  rw [gone]
  rfl

theorem Follows.deliver (follows : hosted.Follows due) (event : Event) :
    (hosted.deliver event).Follows (due ++ [event]) := by
  unfold Hosted.deliver
  by_cases halive : hosted.events.receiverAlive = true
  · by_cases hfull : hosted.full = true
    · rw [trySend_of_full hfull]
      intro hopen
      cases hclosing : hosted.closing with
      | none => simp [hclosing] at hopen
      | some reason => simp [hclosing] at hopen
    · rw [trySend_of_not_full halive (by simpa using hfull)]
      intro hopen _
      rw [follows hopen halive]
  · have hgone : hosted.events.receiverAlive = false := by simpa using halive
    rw [trySend_of_gone hgone]
    exact fun _ alive => absurd alive halive

theorem follows_offer_iff (follows : hosted.Follows due) (event : Event) :
    (hosted.offer event).Follows (due ++ [event]) ↔
      (hosted.closing.isSome || !hosted.full) = true := by
  unfold Hosted.offer
  by_cases halive : hosted.events.receiverAlive = true
  · by_cases hfull : hosted.full = true
    · rw [trySend_of_full hfull, hfull, Bool.not_true, Bool.or_false]
      constructor
      · intro hafter
        cases hclosing : hosted.closing with
        | some reason => rfl
        | none =>
          have hsent : hosted.events.sent = due ++ [event] := hafter hclosing halive
          rw [follows hclosing halive] at hsent
          simp at hsent
      · intro hclosing hopen
        rw [hopen] at hclosing
        cases hclosing
    · have hfull : hosted.full = false := by simpa using hfull
      rw [trySend_of_not_full halive hfull, hfull, Bool.not_false, Bool.or_true]
      refine iff_of_true ?_ rfl
      intro hopen _
      rw [follows hopen halive]
  · have hgone : hosted.events.receiverAlive = false := by simpa using halive
    have hfull : hosted.full = false := by
      unfold full
      rw [hgone, Bool.false_and]
    rw [trySend_of_gone hgone, hfull, Bool.not_false, Bool.or_true]
    exact iff_of_true (fun _ alive => absurd alive halive) rfl

theorem Follows.of_eq {other : Hosted} (follows : hosted.Follows due)
    (events_eq : other.events = hosted.events) (closing_eq : other.closing = hosted.closing) :
    other.Follows due := by
  unfold Follows
  rw [events_eq, closing_eq]
  exact follows

theorem Follows.of_closing (closing : hosted.closing.isSome = true) : hosted.Follows due := by
  intro hopen
  rw [hopen] at closing
  cases closing

theorem isSome_closing_setClosing (hosted : Hosted) (reason : String) :
    (hosted.setClosing reason).closing.isSome = true := by
  unfold setClosing
  cases hosted.closing with
  | none => rfl
  | some earlier => rfl

theorem isSome_closing_deliver (closing : hosted.closing.isSome = true) (event : Event) :
    (hosted.deliver event).closing.isSome = true := by
  unfold Hosted.deliver
  split
  · exact closing
  · exact closing
  · exact hosted.isSome_closing_setClosing "publisher_unresponsive"

end Hosted

namespace Multiplexer

variable {mux : Multiplexer}

/-- A frame has nothing to tell, or tells one terminal, through `deliver` or not. -/
inductive Handled (mux : Multiplexer) (limits : Limits) (allowRemoteOpen : Bool) (frame : Frame) :
    Prop where
  | silent (addressed : mux.addressed limits frame = none)
      (subset : ∀ hosted ∈ (mux.onFrame limits allowRemoteOpen frame).1.terminals,
        hosted ∈ mux.terminals)
      (failed : ∀ error, (mux.onFrame limits allowRemoteOpen frame).2.2 = .failed error →
        (mux.onFrame limits allowRemoteOpen frame).1.terminals = mux.terminals)
  | delivers (localRef : String) (event : Event) (f : Hosted → Hosted)
      (addressed : mux.addressed limits frame = some (localRef, event)) (loud : event.bare = false)
      (continues : (mux.onFrame limits allowRemoteOpen frame).2.2 = .continues)
      (terminals : (mux.onFrame limits allowRemoteOpen frame).1.terminals =
        update Hosted.localRef localRef (fun hosted => (f hosted).deliver event) mux.terminals)
      (keeps : ∀ hosted, (f hosted).localRef = hosted.localRef ∧
        (f hosted).events = hosted.events ∧ (f hosted).closing = hosted.closing)
  | offers (localRef : String) (event : Event)
      (addressed : mux.addressed limits frame = some (localRef, event)) (bare : event.bare = true)
      (continues : (mux.onFrame limits allowRemoteOpen frame).2.2 = .continues)
      (terminals : (mux.onFrame limits allowRemoteOpen frame).1.terminals =
        update Hosted.localRef localRef (fun hosted => hosted.offer event) mux.terminals)

section
variable {limits : Limits} {allowRemoteOpen : Bool}

theorem Handled.deliverTo {frame : Frame} {terminalId : Uuid} {event : Event}
    (addressed : mux.addressed limits frame =
      (mux.localRefOf terminalId).map fun localRef => (localRef, event))
    (handled : mux.onFrame limits allowRemoteOpen frame =
      (mux.deliverTo terminalId event, [], .continues))
    (loud : event.bare = false) : mux.Handled limits allowRemoteOpen frame := by
  unfold Multiplexer.deliverTo at handled
  cases hfound : mux.localRefOf terminalId with
  | none =>
    rw [hfound] at addressed handled
    refine .silent addressed ?_ ?_
    · rw [handled]
      exact fun hosted member => member
    · rw [handled]
      exact fun error heq => rfl
  | some localRef =>
    rw [hfound] at addressed handled
    refine .delivers localRef event id addressed loud ?_ ?_ (fun hosted => ⟨rfl, rfl, rfl⟩)
    · rw [handled]
    · rw [handled]
      rfl

theorem Handled.silence {frame : Frame} {next : Multiplexer} {written : List Outbound}
    {outcome : Outcome} (addressed : mux.addressed limits frame = none)
    (handled : mux.onFrame limits allowRemoteOpen frame = (next, written, outcome))
    (same : next.terminals = mux.terminals) : mux.Handled limits allowRemoteOpen frame := by
  refine .silent addressed ?_ ?_
  · rw [handled]
    exact fun hosted member => same ▸ member
  · rw [handled]
    exact fun error heq => same

theorem Handled.depart {frame : Frame} {localRef : String} {last : Event}
    {written : List Outbound} (addressed : mux.addressed limits frame = none)
    (handled : mux.onFrame limits allowRemoteOpen frame =
      (mux.depart localRef last, written, .continues)) :
    mux.Handled limits allowRemoteOpen frame := by
  refine .silent addressed ?_ ?_
  · rw [handled]
    unfold Multiplexer.depart
    split
    · exact fun hosted member => (mem_filter.mp member).1
    · exact fun hosted member => member
  · rw [handled]
    exact fun error heq => by cases heq

theorem handled_opened (requestId : String) (terminalId : Uuid) (nextOffset : Nat) :
    mux.Handled limits allowRemoteOpen (.text (some (.terminalOpened requestId terminalId nextOffset))) := by
  cases hfound : mux.get requestId with
  | none =>
    refine @Handled.silence _ _ _ _ mux [] .continues ?_ ?_ rfl
    · simp only [addressed, hfound, map_none]
    · simp only [Multiplexer.onFrame, onMessage, onOpened, hfound]
  | some entry =>
    refine .delivers requestId (.attached terminalId nextOffset limits)
      (fun hosted => { hosted with terminalId := some terminalId }) ?_ rfl rfl ?_
      (fun hosted => ⟨rfl, rfl, rfl⟩)
    · simp only [addressed, hfound, map_some]
    · simp only [Multiplexer.onFrame, onMessage, onOpened, hfound]
      exact update_update Hosted.localRef requestId
        (fun hosted => { hosted with terminalId := some terminalId })
        (fun hosted => hosted.deliver (.attached terminalId nextOffset limits))
        (fun hosted => rfl) mux.terminals

theorem handled_error (code message : String) (terminalId : Option Uuid)
    (requestId : Option String) (authoritative : Option Nat) :
    mux.Handled limits allowRemoteOpen
      (.text (some (.error code message terminalId requestId authoritative))) := by
  by_cases hsuperseded : code = "superseded"
  · refine @Handled.silence _ _ _ _ mux [] (.over supersededReason) ?_ ?_ rfl
    · rw [hsuperseded]
      cases authoritative with
      | none => rfl
      | some nextOffset => rfl
    · simp only [Multiplexer.onFrame, onMessage, if_pos hsuperseded]
  · have hhandled : mux.onFrame limits allowRemoteOpen
        (.text (some (.error code message terminalId requestId authoritative))) =
          ((mux.onTerminalError code message terminalId requestId authoritative).1,
            (mux.onTerminalError code message terminalId requestId authoritative).2.1,
            if (mux.onTerminalError code message terminalId requestId authoritative).2.2
              then .continues else .failed (.refused (code ++ ": " ++ message))) := by
      simp only [Multiplexer.onFrame, onMessage, if_neg hsuperseded]
    unfold Multiplexer.onTerminalError at hhandled
    cases htarget : mux.errorTarget terminalId requestId with
    | none =>
      rw [htarget] at hhandled
      refine Handled.silence ?_ hhandled rfl
      cases authoritative with
      | none => rfl
      | some nextOffset => simp [addressed, htarget]
    | some localRef =>
      rw [htarget] at hhandled
      by_cases hmismatch : code = "offset_mismatch"
      · cases authoritative with
        | none =>
          simp only [if_pos hmismatch] at hhandled
          exact Handled.depart rfl hhandled
        | some nextOffset =>
          simp only [if_pos hmismatch] at hhandled
          refine .offers localRef (.mismatch nextOffset) ?_ rfl ?_ ?_
          · simp [addressed, hmismatch, htarget]
          · rw [hhandled]
            rfl
          · rw [hhandled]
            rfl
      · simp only [if_neg hmismatch] at hhandled
        refine Handled.depart ?_ hhandled
        cases authoritative with
        | none => rfl
        | some nextOffset => simp [addressed, hmismatch]

end

theorem handled (mux : Multiplexer) (limits : Limits) (allowRemoteOpen : Bool) (frame : Frame) :
    mux.Handled limits allowRemoteOpen frame := by
  cases frame with
  | text message =>
    cases message with
    | none => exact .silence rfl rfl rfl
    | some message =>
      cases message with
      | ready | notice | ping | unrecognised => exact .silence rfl rfl rfl
      | terminalOpened requestId terminalId nextOffset =>
        exact handled_opened requestId terminalId nextOffset
      | outputAck terminalId durableOffset => exact .deliverTo rfl rfl rfl
      | terminalOpenRequest requestId label cols rows =>
        refine .silence rfl rfl ?_
        unfold onOpenRequest
        split
        · rfl
        · split
          · rfl
          · split
            · rfl
            · rfl
      | terminalResizeRequest terminalId cols rows => exact .deliverTo rfl rfl rfl
      | terminalClosed terminalId reason =>
        cases hfound : mux.localRefOf terminalId with
        | none =>
          refine @Handled.silence _ _ _ _ mux [] .continues rfl ?_ rfl
          simp only [Multiplexer.onFrame, onMessage, hfound]
        | some localRef =>
          refine @Handled.depart _ _ _ _ localRef
            (.ended ("the relay closed the terminal: " ++ reason)) [] rfl ?_
          simp only [Multiplexer.onFrame, onMessage, hfound]
      | error code message terminalId requestId authoritative =>
        exact handled_error code message terminalId requestId authoritative
  | binary bytes =>
    cases hdecoded : decodeInputFrame bytes with
    | ok input =>
      refine @Handled.deliverTo _ _ _ _ input.terminalId (.input input.payload) ?_ ?_ rfl
      · simp only [addressed, hdecoded]
      · simp only [Multiplexer.onFrame, hdecoded]
    | error error =>
      refine @Handled.silence _ _ _ _ mux [] .continues ?_ ?_ rfl
      · simp only [addressed, hdecoded]
      · simp only [Multiplexer.onFrame, hdecoded]
  | ping | pong | close => exact .silence rfl rfl rfl

end Multiplexer

namespace Session

theorem terminals_top (session : Session) (connection : Connection) (mux : Multiplexer)
    (written : List Outbound) :
    (session.top connection mux written).1.mux.terminals =
      mux.terminals.filter fun hosted => !hosted.finished := by
  unfold top
  dsimp only
  split
  · rename_i hidle
    rw [Bool.and_eq_true] at hidle
    exact (List.isEmpty_iff.mp hidle.1).symm
  · rfl

end Session

namespace Deliveries

variable {deliveries : Deliveries}

variable {action : SessionAction} {next : Deliveries}

theorem heeds_of_silent (silent : ∀ localRef, deliveries.session.tells action localRef = []) :
    deliveries.heeds (.session action) = true := by
  unfold heeds
  rw [List.all_eq_true]
  intro hosted _
  rw [silent, all_nil, Bool.or_true]

section

variable (complete : deliveries.Complete)
include complete

theorem Complete.of_subset
    (subset : ∀ hosted ∈ next.session.mux.terminals, hosted ∈ deliveries.session.mux.terminals)
    (due_eq : ∀ hosted ∈ next.session.mux.terminals,
      next.due hosted.localRef = deliveries.due hosted.localRef) : next.Complete := by
  intro hosted member
  rw [due_eq hosted member]
  exact complete hosted (subset hosted member)

theorem complete_detach_iff {mux : Multiplexer}
    (tells : ∀ localRef, deliveries.session.tells action localRef = [.detached])
    (same : mux.terminals = deliveries.session.mux.terminals)
    (terminals : next.session.mux.terminals = mux.detach.terminals)
    (due : ∀ localRef, next.due localRef = deliveries.due localRef ++ [.detached]) :
    next.Complete ↔ deliveries.heeds (.session action) = true := by
  have hentry : ∀ hosted ∈ deliveries.session.mux.terminals,
      ((({ hosted with terminalId := none } : Hosted).offer .detached).Follows
        (deliveries.due hosted.localRef ++ [.detached]) ↔
          (hosted.closing.isSome || !hosted.full) = true) := by
    intro hosted member
    have hfollows : ({ hosted with terminalId := none } : Hosted).Follows
        (deliveries.due hosted.localRef) := (complete hosted member).of_eq rfl rfl
    exact Hosted.follows_offer_iff hfollows .detached
  unfold Complete heeds
  rw [terminals, Multiplexer.detach, List.forall_mem_map, same, List.all_eq_true]
  refine forall₂_congr fun hosted member => ?_
  have hheeds : (hosted.closing.isSome || !hosted.full || [Event.detached].all fun event =>
      !event.bare) = (hosted.closing.isSome || !hosted.full) := Bool.or_false _
  rw [due, tells, hheeds, Hosted.localRef_offer]
  exact hentry hosted member

theorem complete_told_iff {told : String} {event : Event} {g : Hosted → Hosted}
    (tells : ∀ localRef, deliveries.session.tells action localRef =
      if told = localRef then [event] else [])
    (terminals : next.session.mux.terminals =
      (update Hosted.localRef told g deliveries.session.mux.terminals).filter fun hosted =>
        !hosted.finished)
    (due : ∀ localRef, next.due localRef =
      deliveries.due localRef ++ if told = localRef then [event] else [])
    (keeps : ∀ hosted, (g hosted).localRef = hosted.localRef)
    (exactly : ∀ hosted ∈ deliveries.session.mux.terminals, hosted.localRef = told →
      ((g hosted).Follows (deliveries.due told ++ [event]) ↔
        (hosted.closing.isSome || !hosted.full || !event.bare) = true))
    (stays : ∀ hosted, event.bare = true → (g hosted).closing = hosted.closing) :
    next.Complete ↔ deliveries.heeds (.session action) = true := by
  unfold Complete heeds
  rw [terminals, List.all_eq_true]
  constructor
  · intro hcomplete hosted member
    rw [tells]
    by_cases htold : told = hosted.localRef
    · rw [if_pos htold, all_cons, all_nil, Bool.and_true]
      cases hbare : event.bare with
      | false => rw [Bool.not_false, Bool.or_true]
      | true =>
        cases hclosing : hosted.closing with
        | some reason => rfl
        | none =>
          have hopen : (g hosted).closing = none := (stays hosted hbare).trans hclosing
          have hmember : g hosted ∈ (update Hosted.localRef told g
              deliveries.session.mux.terminals).filter fun hosted => !hosted.finished := by
            refine mem_filter.mpr ⟨List.mem_map.mpr ⟨hosted, member, if_pos htold.symm⟩, ?_⟩
            unfold Hosted.finished
            rw [hopen]
            rfl
          have hfollows := hcomplete (g hosted) hmember
          rw [keeps, ← htold, due, if_pos rfl] at hfollows
          have hheeds := (exactly hosted member htold.symm).mp hfollows
          rwa [hclosing, hbare] at hheeds
    · rw [if_neg htold, all_nil, Bool.or_true]
  · intro hheeds hosted member
    obtain ⟨before, hbefore, rfl⟩ := List.mem_map.mp (mem_filter.mp member).1
    have hheed := hheeds before hbefore
    rw [tells] at hheed
    by_cases htold : before.localRef = told
    · rw [if_pos htold.symm, all_cons, all_nil, Bool.and_true] at hheed
      rw [if_pos htold, keeps, htold, due, if_pos rfl]
      exact (exactly before hbefore htold).mpr hheed
    · rw [if_neg htold, due, if_neg (Ne.symm htold), append_nil]
      exact complete before hbefore

theorem Complete.insert {spec : TerminalSpec} {events : Channel Event}
    (subset : ∀ hosted ∈ next.session.mux.terminals,
      hosted ∈ (deliveries.session.mux.insert spec events).terminals)
    (due : ∀ localRef, next.due localRef =
      if spec.localRef = localRef then events.sent else deliveries.due localRef) :
    next.Complete := by
  intro hosted member
  rw [due]
  rcases mem_append.mp (subset hosted member) with hold | hnew
  · obtain ⟨hmember, hdiffers⟩ := mem_filter.mp hold
    have hdiffers : hosted.localRef ≠ spec.localRef := of_decide_eq_true hdiffers
    rw [if_neg hdiffers.symm]
    exact complete hosted hmember
  · rw [mem_singleton.mp hnew, if_pos (show spec.localRef = Hosted.localRef _ from rfl)]
    exact fun _ _ => rfl

end

theorem Complete.modify (complete : deliveries.Complete) {target : String} {g : Hosted → Hosted}
    (subset : ∀ hosted ∈ next.session.mux.terminals,
      hosted ∈ (deliveries.session.mux.modify target g).terminals)
    (due : ∀ localRef, next.due localRef = deliveries.due localRef)
    (keeps : ∀ hosted, (g hosted).localRef = hosted.localRef)
    (follows : ∀ hosted ∈ deliveries.session.mux.terminals, hosted.localRef = target →
      (g hosted).Follows (deliveries.due target)) : next.Complete := by
  intro hosted member
  rw [due]
  obtain ⟨before, hbefore, rfl⟩ := List.mem_map.mp (subset hosted member)
  by_cases htarget : before.localRef = target
  · rw [if_pos htarget, keeps, htarget]
    exact follows before hbefore htarget
  · rw [if_neg htarget]
    exact complete before hbefore

theorem dueAfter_inserts {inserted : String} {events : Channel Event}
    (inserts : deliveries.session.inserts action = some (inserted, events))
    (silent : ∀ localRef, deliveries.session.tells action localRef = []) (localRef : String) :
    deliveries.dueAfter action localRef =
      if inserted = localRef then events.sent else deliveries.due localRef := by
  unfold dueAfter
  rw [inserts, filter_some, silent, append_nil]
  by_cases hsame : inserted = localRef
  · rw [if_pos hsame, if_pos (decide_eq_true hsame)]
  · rw [if_neg hsame, if_neg (by simpa using hsame)]

theorem complete_frame_iff (complete : deliveries.Complete) {frame : Frame}
    {connection : Connection} (stage : deliveries.session.stage = .connected connection) :
    Complete ⟨(deliveries.session.onFrame connection frame).1, deliveries.dueAfter (.frame frame)⟩ ↔
      deliveries.heeds (.session (.frame frame)) = true := by
  have hcontinues (continues : (deliveries.session.mux.onFrame connection.limits
      deliveries.session.allowRemoteOpen frame).2.2 = .continues) :
      (deliveries.session.onFrame connection frame).1.mux.terminals =
        (deliveries.session.mux.onFrame connection.limits deliveries.session.allowRemoteOpen
          frame).1.terminals.filter fun hosted => !hosted.finished := by
    unfold Session.onFrame
    dsimp only
    rw [continues]
    exact Session.terminals_top _ _ _ _
  have htold {told : String} {event : Event}
      (addressed : deliveries.session.mux.addressed connection.limits frame = some (told, event))
      (continues : (deliveries.session.mux.onFrame connection.limits
        deliveries.session.allowRemoteOpen frame).2.2 = .continues) (localRef : String) :
      deliveries.session.tells (.frame frame) localRef =
        if told = localRef then [event] else [] := by
    simp only [Session.tells, stage, continues, addressed, filter_some]
    by_cases hsame : told = localRef
    · rw [if_pos hsame, if_pos (decide_eq_true hsame)]
      rfl
    · rw [if_neg hsame, if_neg (by simpa using hsame)]
      rfl
  cases deliveries.session.mux.handled connection.limits deliveries.session.allowRemoteOpen frame with
  | silent addressed subset failed =>
    cases houtcome : (deliveries.session.mux.onFrame connection.limits
        deliveries.session.allowRemoteOpen frame).2.2 with
    | failed error =>
      have htells : ∀ localRef, deliveries.session.tells (.frame frame) localRef = [.detached] := by
        intro localRef
        simp only [Session.tells, stage, houtcome]
      refine complete_detach_iff complete htells (failed error houtcome) ?_ fun localRef => ?_
      · simp only [Session.onFrame, houtcome]
        rfl
      · exact congrArg (deliveries.due localRef ++ ·) (htells localRef)
    | continues =>
      have hsilent : ∀ localRef, deliveries.session.tells (.frame frame) localRef = [] := by
        intro localRef
        simp only [Session.tells, stage, houtcome, addressed, filter_none, toList_none, map_nil]
      refine iff_of_true (complete.of_subset ?_ fun hosted _ => ?_) (heeds_of_silent hsilent)
      · dsimp only
        rw [hcontinues houtcome]
        exact fun hosted member => subset hosted (mem_filter.mp member).1
      · exact (congrArg (deliveries.due hosted.localRef ++ ·) (hsilent _)).trans (append_nil _)
    | «over» reason =>
      have hsilent : ∀ localRef, deliveries.session.tells (.frame frame) localRef = [] := by
        intro localRef
        simp only [Session.tells, stage, houtcome, addressed, filter_none, toList_none, map_nil]
      refine iff_of_true ?_ (heeds_of_silent hsilent)
      simp only [Complete, Session.onFrame, houtcome]
      exact fun hosted member => by cases member
  | delivers told event f addressed loud continues terminals keeps =>
    refine complete_told_iff complete (htold addressed continues)
      ((hcontinues continues).trans (by rw [terminals])) ?_ ?_ ?_ ?_
    · exact fun localRef => congrArg (deliveries.due localRef ++ ·) (htold addressed continues localRef)
    · exact fun hosted => (Hosted.localRef_deliver _ _).trans (keeps hosted).1
    · intro hosted member htarget
      rw [loud, Bool.not_false, Bool.or_true]
      refine iff_of_true (Hosted.Follows.deliver ?_ event) rfl
      exact htarget ▸ (complete hosted member).of_eq (keeps hosted).2.1 (keeps hosted).2.2
    · intro hosted bare
      rw [loud] at bare
      cases bare
  | offers told event addressed bare continues terminals =>
    refine complete_told_iff complete (htold addressed continues)
      ((hcontinues continues).trans (by rw [terminals])) ?_ ?_ ?_ ?_
    · exact fun localRef => congrArg (deliveries.due localRef ++ ·) (htold addressed continues localRef)
    · exact fun hosted => Hosted.localRef_offer _ _
    · intro hosted member htarget
      rw [bare, Bool.not_true, Bool.or_false]
      exact Hosted.follows_offer_iff (htarget ▸ complete hosted member) event
    · exact fun hosted _ => Hosted.closing_offer _ _

theorem complete_session_iff (complete : deliveries.Complete)
    {result : Session × List Outbound} (taken : deliveries.session.step action = some result) :
    Complete ⟨result.1, deliveries.dueAfter action⟩ ↔
      deliveries.heeds (.session action) = true := by
  have hkept (silent : ∀ localRef, deliveries.session.tells action localRef = [])
      (none : deliveries.session.inserts action = none)
      (subset : ∀ hosted ∈ result.1.mux.terminals, hosted ∈ deliveries.session.mux.terminals) :
      Complete ⟨result.1, deliveries.dueAfter action⟩ ↔
        deliveries.heeds (.session action) = true := by
    refine iff_of_true (complete.of_subset subset ?_) (heeds_of_silent silent)
    intro hosted _
    simp only [dueAfter, none, filter_none, silent, append_nil]
  cases Session.step_stepped taken with
  | connects limits maxActiveTerminals previouslyOpen _ hstage hresult =>
    refine hkept (fun localRef => rfl) rfl ?_
    rw [hresult]
    unfold Session.connect
    rw [Session.terminals_top]
    exact fun hosted member => (mem_filter.mp member).1
  | refuses _ hstage hresult =>
    refine complete_detach_iff complete (fun localRef => rfl) rfl ?_ (fun localRef => rfl)
    rw [hresult]
    rfl
  | controls message connection _ hstage hresult =>
    have hsilent : ∀ localRef, deliveries.session.tells (.control message) localRef = [] :=
      fun localRef => rfl
    have hsubset : ∀ hosted ∈ result.1.mux.terminals, hosted ∈
        (deliveries.session.mux.onControl connection.limits connection.maxTerminals
          message).1.terminals := by
      rw [hresult, Session.terminals_top]
      exact fun hosted member => (mem_filter.mp member).1
    cases message with
    | «open» spec events =>
      by_cases hrefused : connection.maxTerminals ≤ deliveries.session.mux.terminals.length ∨
          (deliveries.session.mux.get spec.localRef).isSome
      · refine hkept hsilent ?_ fun hosted member => ?_
        · simp only [Session.inserts, hstage, if_pos hrefused]
        · have hmember := hsubset hosted member
          unfold Multiplexer.onControl at hmember
          dsimp only at hmember
          split at hmember
          · exact hmember
          · rename_i hroom
            rw [if_pos (hrefused.resolve_left hroom)] at hmember
            exact hmember
      · have hinserts : deliveries.session.inserts (.control (.open spec events)) =
            some (spec.localRef, events) := by
          simp only [Session.inserts, hstage, if_neg hrefused]
        obtain ⟨hroom, hfresh⟩ := not_or.mp hrefused
        refine iff_of_true (complete.insert ?_ (dueAfter_inserts hinserts hsilent))
          (heeds_of_silent hsilent)
        intro hosted member
        have hmember := hsubset hosted member
        simp only [Multiplexer.onControl, if_neg hroom, if_neg hfresh] at hmember
        exact hmember
    | output localRef startOffset bytes => exact hkept hsilent rfl hsubset
    | resize localRef cols rows =>
      refine iff_of_true (complete.modify hsubset ?_ (fun hosted => rfl) ?_)
        (heeds_of_silent hsilent)
      · exact fun _ => append_nil _
      · intro hosted member htarget
        exact htarget ▸ (complete hosted member).of_eq rfl rfl
    | close localRef reason =>
      have hterminals : (deliveries.session.mux.onControl connection.limits connection.maxTerminals
          (.close localRef reason)).1.terminals = (deliveries.session.mux.modify localRef fun hosted =>
            (hosted.setClosing reason).deliver (.ended "the terminal ended")).terminals :=
        update_update Hosted.localRef localRef (fun hosted => hosted.setClosing reason)
          (fun hosted => hosted.deliver (.ended "the terminal ended")) (fun hosted => rfl)
          deliveries.session.mux.terminals
      rw [hterminals] at hsubset
      refine iff_of_true (complete.modify hsubset ?_ (fun hosted => ?_) ?_)
        (heeds_of_silent hsilent)
      · exact fun _ => append_nil _
      · exact Hosted.localRef_deliver _ _
      · exact fun hosted _ _ => .of_closing (Hosted.isSome_closing_deliver
          (Hosted.isSome_closing_setClosing hosted reason) _)
    | decline requestId reason => exact hkept hsilent rfl hsubset
  | stashes message _ hstage hresult =>
    have hsilent : ∀ localRef, deliveries.session.tells (.control message) localRef = [] :=
      fun localRef => rfl
    have hsubset : ∀ hosted ∈ result.1.mux.terminals, hosted ∈
        (deliveries.session.mux.stash message).terminals := by
      rw [hresult]
      exact fun hosted member => member
    cases message with
    | «open» spec events =>
      have hinserts : deliveries.session.inserts (.control (.open spec events)) =
          some (spec.localRef, events) := by
        simp only [Session.inserts, hstage]
      exact iff_of_true (complete.insert hsubset (dueAfter_inserts hinserts hsilent))
        (heeds_of_silent hsilent)
    | output localRef startOffset bytes => exact hkept hsilent rfl hsubset
    | resize localRef cols rows =>
      refine iff_of_true (complete.modify hsubset ?_ (fun hosted => rfl) ?_)
        (heeds_of_silent hsilent)
      · exact fun _ => append_nil _
      · intro hosted member htarget
        exact htarget ▸ (complete hosted member).of_eq rfl rfl
    | close localRef reason =>
      refine iff_of_true (complete.modify hsubset ?_ (fun hosted => ?_) ?_)
        (heeds_of_silent hsilent)
      · exact fun _ => append_nil _
      · exact Hosted.localRef_offer _ _
      · intro hosted _ _
        apply Hosted.Follows.of_closing
        rw [Hosted.closing_offer]
        exact Hosted.isSome_closing_setClosing hosted reason
    | decline requestId reason => exact hkept hsilent rfl hsubset
  | lastHandle connection _ hstage hresult =>
    refine hkept (fun localRef => rfl) rfl ?_
    rw [hresult, Session.terminals_top]
    exact fun hosted member => (mem_filter.mp member).1
  | closes _ hstage hresult =>
    refine hkept (fun localRef => rfl) rfl ?_
    rw [hresult]
    exact fun hosted member => member
  | receives frame connection _ hstage hresult =>
    rw [hresult]
    exact complete_frame_iff complete hstage
  | hangsUp connection _ hstage hresult =>
    refine complete_detach_iff complete (fun localRef => rfl) rfl ?_ (fun localRef => rfl)
    rw [hresult]
    rfl
  | settles connection _ hstage harmed hresult =>
    refine hkept (fun localRef => rfl) rfl ?_
    rw [hresult, Session.terminals_top]
    exact fun hosted member => (mem_filter.mp member).1
  | retries closed _ hstage hresult =>
    refine hkept (fun localRef => rfl) rfl ?_
    rw [hresult]
    exact fun hosted member => (mem_filter.mp member).1
  | returns closed _ hstage hresult =>
    refine hkept (fun localRef => rfl) rfl ?_
    rw [hresult]
    exact fun hosted member => by cases member

theorem Complete.receive (complete : deliveries.Complete) (localRef : String)
    {f : Channel Event → Channel Event} (sent : ∀ events, (f events).sent = events.sent)
    (alive : ∀ events, (f events).receiverAlive = true → events.receiverAlive = true) :
    (deliveries.receive localRef f).Complete := by
  refine @Complete.modify _ (deliveries.receive localRef f) complete localRef
    (fun hosted => { hosted with events := f hosted.events }) (fun _ member => member)
    (fun _ => rfl) (fun _ => rfl) ?_
  intro hosted member htarget hopen halive
  rw [sent, ← htarget]
  exact complete hosted member hopen (alive _ halive)

theorem complete_step_iff (complete : deliveries.Complete) {action : DeliveryAction}
    (stepped : deliveries.step action = some next) :
    next.Complete ↔ deliveries.heeds action = true := by
  cases action with
  | session action =>
    obtain ⟨result, hresult, rfl⟩ := map_eq_some_iff.mp stepped
    exact complete_session_iff complete hresult
  | take localRef =>
    cases stepped
    refine iff_of_true (complete.receive localRef ?_ ?_) rfl
    · intro events
      unfold taken
      cases hreceived : events.recv with
      | none => rfl
      | some received => exact Channel.sent_recv hreceived
    · intro events
      unfold taken Channel.recv
      cases events.queue with
      | nil => exact id
      | cons event rest => exact id
  | leave localRef =>
    cases stepped
    refine iff_of_true (complete.receive localRef (fun events => rfl) ?_) rfl
    exact fun events halive => by cases halive

/-- In a run, no terminal whose entry stays open has ever missed an event exactly when each
step heeds the terminals that have no room. -/
theorem complete_always_iff (openRequests : Option (Channel OpenRequest)) (allowRemoteOpen : Bool)
    (actions : List DeliveryAction) (deliveries : Deliveries)
    (ran : run step (initial openRequests allowRemoteOpen) actions = some deliveries) :
    (∀ earlier later middle, actions = earlier ++ later →
      run step (initial openRequests allowRemoteOpen) earlier = some middle → middle.Complete) ↔
      run (restrict step fun deliveries action => deliveries.heeds action = true)
        (initial openRequests allowRemoteOpen) actions = some deliveries := by
  refine always_iff_restrict ?_ ?_ ran
  · exact fun state action next complete stepped => complete_step_iff complete stepped
  · exact fun hosted member => by cases member

/-- A terminal that is opened, named by the relay and told of `count` acknowledgements. -/
def acknowledged (count : Nat) : List DeliveryAction :=
  [.session (.ready ⟨1024, 65536⟩ 0 []),
    .session (.control (.open ⟨"shell", "shell", 80, 24, "xterm-256color", none⟩ (.new 256))),
    .session (.frame (.text (some (.terminalOpened "shell" 7 0))))] ++
    List.replicate count (.session (.frame (.text (some (.outputAck 7 0)))))

theorem acknowledged_complete : (run step (initial none false)
        (acknowledged 2 ++ [.take "shell", .session .hangUp])).isSome = true ∧
      ∀ earlier later middle,
        acknowledged 2 ++ [.take "shell", .session .hangUp] = earlier ++ later →
          run step (initial none false) earlier = some middle → middle.Complete :=
  ⟨rfl, (complete_always_iff none false _ _ rfl).mpr (by rfl)⟩

/-- Each entry: whether it closes, whether its owner is there, and whether all that was due
got into its queue. -/
def overview (deliveries : Deliveries) : List (Option String × Bool × Bool) :=
  deliveries.session.mux.terminals.map fun hosted =>
    (hosted.closing, hosted.events.receiverAlive,
      decide (hosted.events.sent = deliveries.due hosted.localRef))

/-- With a full queue the refusal is lost, and so is the disconnection; the entry stays open. -/
theorem refusal_is_lost : (run step (initial none false) (acknowledged 255 ++
        [.session (.frame (.text (some (.error "offset_mismatch" "" (some 7) none (some 0)))))])).map
          overview = some [(none, true, false)] ∧
      (run step (initial none false) (acknowledged 255 ++ [.session .hangUp])).map overview =
        some [(none, true, false)] := by
  decide +kernel

end Deliveries

end Hypeterm.Publisher
