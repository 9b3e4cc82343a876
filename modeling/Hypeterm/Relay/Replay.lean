import Hypeterm.Relay.Checkpoint

/-! The stream one subscriber sees.  Its replay frames and the output events put
in its queue are one contiguous part of the accepted bytes; durable offsets and
the close take their places in that order. -/
namespace Hypeterm.Relay

open Library List Function Option
open Db (getTerminal)

def MirrorEvent.frame? : MirrorEvent → Option (Nat × Bytes)
  | .output startOffset payload => some (startOffset, payload)
  | _ => none

def MirrorEvent.durable? : MirrorEvent → Option Nat
  | .durable durableOffset => some durableOffset
  | _ => none

def MirrorEvent.isClosed : MirrorEvent → Bool
  | .closed _ _ _ => true
  | _ => false

def outputs (events : List MirrorEvent) : List (Nat × Bytes) := events.filterMap MirrorEvent.frame?

def durables (events : List MirrorEvent) : List Nat := events.filterMap MirrorEvent.durable?

def frameSegment (frame : Nat × Bytes) : Segment UInt8 :=
  ⟨frame.1, frame.1 + frame.2.length, frame.2⟩

/-- The end offset reached by frames that begin at `start`. -/
def queuedEnd (start : Nat) (frames : List (Nat × Bytes)) : Nat :=
  start + (frames.map fun frame => frame.2.length).sum

/-- `events`, sent after `replay`, continue one stream: the frames tile a part of
it, durable offsets rise and never pass what was queued before them, and nothing
but durable offsets and sizes follows a close. -/
structure Follows (stream : Bytes) (start : Nat) (replay : List (Nat × Bytes))
    (events : List MirrorEvent) : Prop where
  tiles : Tiles stream start ((replay ++ outputs events).map frameSegment)
    (queuedEnd start (replay ++ outputs events))
  durables_increase : (durables events).Pairwise (· < ·)
  durables_queued : ∀ earlier durableOffset later,
    events = earlier ++ .durable durableOffset :: later →
      durableOffset ≤ queuedEnd start (replay ++ outputs earlier)
  closed_last : ∀ earlier reason nextOffset durableOffset later,
    events = earlier ++ .closed reason nextOffset durableOffset :: later →
      outputs later = [] ∧ ∀ event ∈ later, event.isClosed = false

theorem split_concat {α : Type*} {events earlier later : List α} {event other : α}
    (split : events ++ [event] = earlier ++ other :: later) :
    (later = [] ∧ other = event ∧ earlier = events) ∨
      ∃ rest, later = rest ++ [event] ∧ events = earlier ++ other :: rest := by
  rcases eq_nil_or_concat later with rfl | ⟨rest, last, rfl⟩
  · obtain ⟨hevents, hevent⟩ := append_inj' split rfl
    exact .inl ⟨rfl, (singleton_inj.mp hevent).symm, hevents.symm⟩
  · have hsplit : events ++ [event] = (earlier ++ other :: rest) ++ [last] := by
      rw [split]
      simp
    obtain ⟨hevents, hevent⟩ := append_inj' hsplit rfl
    exact .inr ⟨rest, by rw [singleton_inj.mp hevent, concat_eq_append], hevents⟩

theorem outputs_concat (events : List MirrorEvent) (event : MirrorEvent) :
    outputs (events ++ [event]) = outputs events ++ event.frame?.toList := by
  unfold outputs
  rw [filterMap_append]
  cases event <;> rfl

theorem durables_concat (events : List MirrorEvent) (event : MirrorEvent) :
    durables (events ++ [event]) = durables events ++ event.durable?.toList := by
  unfold durables
  rw [filterMap_append]
  cases event <;> rfl

theorem queuedEnd_concat (start : Nat) (frames : List (Nat × Bytes)) (frame : Nat × Bytes) :
    queuedEnd start (frames ++ [frame]) = queuedEnd start frames + frame.2.length := by
  simp [queuedEnd, Nat.add_assoc]

variable {stream added : Bytes} {start subscriberId : Nat} {replay : List (Nat × Bytes)}
  {events : List MirrorEvent} {event : MirrorEvent} {subscriber : Subscriber}
  {handle after : TerminalHandle} {record : Subscribed} {system next : System} {action : Action}
  {terminalId : Uuid}

theorem queuedEnd_of_tiles {stop : Nat} {frames : List (Nat × Bytes)}
    (tiles : Tiles stream start (frames.map frameSegment) stop) : stop = queuedEnd start frames := by
  induction frames generalizing start with
  | nil =>
    have hbound : start = stop := tiles
    simp [queuedEnd, hbound]
  | cons frame rest ih =>
    obtain ⟨hstart, _, _, _, hrest⟩ := tiles
    change frame.1 = start at hstart
    rw [ih hrest]
    simp only [queuedEnd, frameSegment, map_cons, sum_cons, hstart]
    omega

section

variable (follows : Follows stream start replay events)
include follows

theorem Follows.stream_append (added : Bytes)
    (bound : queuedEnd start (replay ++ outputs events) ≤ stream.length) :
    Follows (stream ++ added) start replay events :=
  { follows with tiles := follows.tiles.append added bound }

theorem Follows.concat
    (tiles : Tiles stream start ((replay ++ outputs (events ++ [event])).map frameSegment)
      (queuedEnd start (replay ++ outputs (events ++ [event]))))
    (rises : ∀ durableOffset, event = .durable durableOffset →
      (∀ earlier ∈ durables events, earlier < durableOffset) ∧
        durableOffset ≤ queuedEnd start (replay ++ outputs events))
    (closes : event.frame?.isSome ∨ event.isClosed → ∀ earlier ∈ events, earlier.isClosed = false) :
    Follows stream start replay (events ++ [event]) := by
  refine ⟨tiles, ?_, ?_, ?_⟩
  · rw [durables_concat]
    cases event with
    | durable durableOffset =>
      rw [pairwise_append]
      refine ⟨follows.durables_increase, pairwise_singleton _ _, ?_⟩
      intro earlier member last hlast
      rw [mem_singleton.mp hlast]
      exact (rises durableOffset rfl).1 earlier member
    | output | resize | closed =>
      simp only [MirrorEvent.durable?, toList_none, append_nil]
      exact follows.durables_increase
  · intro earlier durableOffset later split
    rcases split_concat split with ⟨_, hevent, hearlier⟩ | ⟨rest, _, hevents⟩
    · rw [hearlier]
      exact (rises durableOffset hevent.symm).2
    · exact follows.durables_queued earlier durableOffset rest hevents
  · intro earlier reason nextOffset durableOffset later split
    rcases split_concat split with ⟨hlater, _, _⟩ | ⟨rest, hlater, hevents⟩
    · rw [hlater]
      exact ⟨rfl, fun event member => nomatch member⟩
    · obtain ⟨houtputs, hclosed⟩ :=
        follows.closed_last earlier reason nextOffset durableOffset rest hevents
      have hopen : ¬ (event.frame?.isSome ∨ event.isClosed) := by
        intro hevent
        have := closes hevent (.closed reason nextOffset durableOffset) (by rw [hevents]; simp)
        cases this
      rw [not_or] at hopen
      have hframe : event.frame? = none := by simpa using hopen.1
      have hnotClosed : event.isClosed = false := by simpa using hopen.2
      rw [hlater, outputs_concat, houtputs, hframe]
      refine ⟨rfl, ?_⟩
      intro other member
      rcases mem_append.mp member with hrest | hlast
      · exact hclosed other hrest
      · rw [mem_singleton.mp hlast]
        exact hnotClosed

theorem Follows.tiles_concat (no_frame : event.frame? = none) :
    Tiles stream start ((replay ++ outputs (events ++ [event])).map frameSegment)
      (queuedEnd start (replay ++ outputs (events ++ [event]))) := by
  rw [outputs_concat, no_frame, toList_none, append_nil]
  exact follows.tiles

theorem Follows.output {payload : Bytes}
    (current : queuedEnd start (replay ++ outputs events) = stream.length) (nonempty : payload ≠ [])
    (opened : ∀ event ∈ events, event.isClosed = false) :
    Follows (stream ++ payload) start replay (events ++ [.output stream.length payload]) ∧
      queuedEnd start (replay ++ outputs (events ++ [.output stream.length payload])) =
        (stream ++ payload).length := by
  have hframes : replay ++ outputs (events ++ [.output stream.length payload]) =
      (replay ++ outputs events) ++ [(stream.length, payload)] := by
    rw [outputs_concat, append_assoc]
    rfl
  have hend : queuedEnd start (replay ++ outputs (events ++ [.output stream.length payload])) =
      (stream ++ payload).length := by
    rw [hframes, queuedEnd_concat, current, length_append]
  have hlength : 0 < payload.length := length_pos_iff.mpr nonempty
  have hold := follows.stream_append payload (Nat.le_of_eq current)
  refine ⟨?_, hend⟩
  apply hold.concat
  · have htiles := hold.tiles
    rw [current] at htiles
    have hsnoc := htiles.snoc (show stream.length < stream.length + payload.length by omega)
      (by rw [length_append])
    rw [slice_append_right] at hsnoc
    rw [hend, hframes, map_append, length_append]
    exact hsnoc
  · intro durableOffset hevent
    cases hevent
  · exact fun _ => opened

theorem Follows.durable {durableOffset : Nat}
    (rises : ∀ earlier ∈ durables events, earlier < durableOffset)
    (queued : durableOffset ≤ queuedEnd start (replay ++ outputs events)) :
    Follows stream start replay (events ++ [.durable durableOffset]) := by
  apply follows.concat (follows.tiles_concat rfl)
  · intro other hevent
    cases hevent
    exact ⟨rises, queued⟩
  · intro hevent
    rcases hevent with hframe | hclosed
    · cases hframe
    · cases hclosed

theorem Follows.resize (cols rows : Nat) :
    Follows stream start replay (events ++ [.resize cols rows]) := by
  apply follows.concat (follows.tiles_concat rfl)
  · intro other hevent
    cases hevent
  · intro hevent
    rcases hevent with hframe | hclosed
    · cases hframe
    · cases hclosed

theorem Follows.closed (reason : String)
    (nextOffset durableOffset : Nat) (opened : ∀ event ∈ events, event.isClosed = false) :
    Follows stream start replay (events ++ [.closed reason nextOffset durableOffset]) := by
  apply follows.concat (follows.tiles_concat rfl)
  · intro other hevent
    cases hevent
  · exact fun _ => opened

end

def TerminalHandle.subscriberIds (handle : TerminalHandle) : List Nat :=
  handle.inner.subscribers.map Subscriber.id

def TerminalHandle.sentTo (handle : TerminalHandle) (subscriberId : Nat) : List MirrorEvent :=
  (handle.mailboxes subscriberId).channel.sent

structure Roster (handle : TerminalHandle) : Prop where
  nodup : handle.subscriberIds.Nodup
  below : ∀ subscriberId ∈ handle.subscriberIds, subscriberId < handle.inner.nextSubscriberId

theorem offer_kept {mailbox : Mailbox} (kept : (offer event subscriber mailbox).2 = false) :
    (offer event subscriber mailbox).1.channel.sent = mailbox.channel.sent ++ [event] := by
  unfold offer at kept ⊢
  dsimp only at kept ⊢
  split
  · rename_i hover
    rw [if_pos hover] at kept
    cases kept
  · rename_i hroom
    rw [if_neg hroom] at kept
    cases hsend : mailbox.channel.trySend event with
    | ok channel =>
      obtain ⟨_, _, rfl⟩ := Channel.trySend_ok hsend
      rfl
    | full | closed =>
      rw [hsend] at kept
      cases kept

theorem offer_dropped {mailbox : Mailbox} (dropped : (offer event subscriber mailbox).2 = true) :
    (offer event subscriber mailbox).1.channel.sent = mailbox.channel.sent := by
  unfold offer at dropped ⊢
  dsimp only at dropped ⊢
  split
  · rfl
  · rename_i hroom
    rw [if_neg hroom] at dropped
    cases hsend : mailbox.channel.trySend event with
    | ok channel =>
      rw [hsend] at dropped
      cases dropped
    | full | closed => rfl

theorem offerAll_other (event : MirrorEvent) {subscribers : List Subscriber}
    (absent : subscriberId ∉ subscribers.map Subscriber.id) (mailboxes : Nat → Mailbox) :
    (offerAll event subscribers mailboxes).1 subscriberId = mailboxes subscriberId ∧
      subscriberId ∉ (offerAll event subscribers mailboxes).2 := by
  induction subscribers generalizing mailboxes with
  | nil => exact ⟨rfl, not_mem_nil⟩
  | cons subscriber rest ih =>
    rw [map_cons, mem_cons, not_or] at absent
    obtain ⟨hmailbox, hdropped⟩ := ih absent.2
      (Function.update mailboxes subscriber.id (offer event subscriber (mailboxes subscriber.id)).1)
    simp only [offerAll]
    rw [hmailbox, update_of_ne absent.1]
    refine ⟨rfl, ?_⟩
    split
    · rw [mem_cons, not_or]
      exact ⟨absent.1, hdropped⟩
    · exact hdropped

theorem offerAll_member (event : MirrorEvent) {subscribers : List Subscriber}
    (nodup : (subscribers.map Subscriber.id).Nodup)
    (member : subscriber ∈ subscribers) (mailboxes : Nat → Mailbox) :
    (offerAll event subscribers mailboxes).1 subscriber.id =
        (offer event subscriber (mailboxes subscriber.id)).1 ∧
      (subscriber.id ∈ (offerAll event subscribers mailboxes).2 ↔
        (offer event subscriber (mailboxes subscriber.id)).2 = true) := by
  induction subscribers generalizing mailboxes with
  | nil => cases member
  | cons first rest ih =>
    obtain ⟨hfresh, hrest⟩ := nodup_cons.mp nodup
    simp only [offerAll]
    rcases mem_cons.mp member with rfl | member
    · obtain ⟨hmailbox, hdropped⟩ := offerAll_other event hfresh
        (Function.update mailboxes subscriber.id
          (offer event subscriber (mailboxes subscriber.id)).1)
      rw [hmailbox, update_self]
      refine ⟨rfl, ?_⟩
      split
      · rename_i hoffer
        simp [hoffer]
      · rename_i hoffer
        simp [hoffer, hdropped]
    · have hdifferent : subscriber.id ≠ first.id := by
        intro heq
        exact hfresh (heq ▸ List.mem_map_of_mem member)
      obtain ⟨hmailbox, hdropped⟩ := ih hrest member
        (Function.update mailboxes first.id (offer event first (mailboxes first.id)).1)
      rw [update_of_ne hdifferent] at hmailbox hdropped
      refine ⟨hmailbox, ?_⟩
      split
      · rw [mem_cons, hdropped]
        exact or_iff_right hdifferent
      · exact hdropped

theorem subscriberIds_fanOut (handle : TerminalHandle) (event : MirrorEvent) :
    (handle.fanOut event).subscriberIds = handle.subscriberIds.filter fun subscriberId =>
      !(offerAll event handle.inner.subscribers handle.mailboxes).2.contains subscriberId := by
  unfold TerminalHandle.subscriberIds TerminalHandle.fanOut
  rw [List.filter_map]
  rfl

theorem Roster.fanOut (roster : Roster handle) (event : MirrorEvent) :
    Roster (handle.fanOut event) where
  nodup := by
    rw [subscriberIds_fanOut]
    exact roster.nodup.filter _
  below := by
    intro subscriberId member
    rw [subscriberIds_fanOut] at member
    exact roster.below subscriberId (mem_filter.mp member).1

theorem fanOut_cases (roster : Roster handle) (event : MirrorEvent) (subscriberId : Nat) :
    (subscriberId ∈ handle.subscriberIds ∧
        subscriberId ∈ (handle.fanOut event).subscriberIds ∧
        (handle.fanOut event).sentTo subscriberId = handle.sentTo subscriberId ++ [event]) ∨
      (subscriberId ∉ (handle.fanOut event).subscriberIds ∧
        (handle.fanOut event).sentTo subscriberId = handle.sentTo subscriberId) := by
  rw [subscriberIds_fanOut, mem_filter]
  by_cases hmember : subscriberId ∈ handle.subscriberIds
  · obtain ⟨subscriber, hsubscriber, rfl⟩ := List.mem_map.mp hmember
    obtain ⟨hmailbox, hdropped⟩ :=
      offerAll_member event roster.nodup hsubscriber handle.mailboxes
    cases hoffer : (offer event subscriber (handle.mailboxes subscriber.id)).2 with
    | false =>
      left
      refine ⟨hmember, ⟨hmember, ?_⟩, ?_⟩
      · rw [hoffer] at hdropped
        simpa using hdropped
      · have hsent := offer_kept hoffer
        rw [← hmailbox] at hsent
        exact hsent
    | true =>
      right
      constructor
      · rw [hoffer] at hdropped
        simpa using fun _ => hdropped
      · have hsent := offer_dropped hoffer
        rw [← hmailbox] at hsent
        exact hsent
  · right
    refine ⟨fun h => hmember h.1, ?_⟩
    exact congrArg (fun mailbox => mailbox.channel.sent)
      (offerAll_other event hmember handle.mailboxes).1

/-- A list of events that a subscription's queue may have received by now. -/
structure Heard (inner : TerminalInner) (stream : Bytes) (record : Subscribed)
    (events : List MirrorEvent) : Prop where
  follows : Follows stream record.subscription.replayStartOffset record.subscription.replay events
  durables_le : ∀ durableOffset ∈ durables events, durableOffset ≤ inner.durableOffset
  closed : (∃ event ∈ events, event.isClosed = true) → ∃ reason, inner.lifecycle = .closed reason

def Subscribed.queuedEnd (record : Subscribed) (events : List MirrorEvent) : Nat :=
  Relay.queuedEnd record.subscription.replayStartOffset (record.subscription.replay ++ outputs events)

theorem Subscribed.queuedEnd_concat (record : Subscribed) (events : List MirrorEvent)
    (no_frame : event.frame? = none) :
    record.queuedEnd (events ++ [event]) = record.queuedEnd events := by
  unfold Subscribed.queuedEnd
  rw [outputs_concat, no_frame, toList_none, append_nil]

theorem Heard.concat {inner : TerminalInner} (heard : Heard inner stream record events)
    (follows : Follows stream record.subscription.replayStartOffset record.subscription.replay
      (events ++ [event]))
    (durable : ∀ durableOffset, event = .durable durableOffset →
      durableOffset ≤ inner.durableOffset)
    (closed : event.isClosed = true → ∃ reason, inner.lifecycle = .closed reason) :
    Heard inner stream record (events ++ [event]) := by
  refine ⟨follows, ?_, ?_⟩
  · intro durableOffset member
    rw [durables_concat, mem_append] at member
    rcases member with hold | hlast
    · exact heard.durables_le durableOffset hold
    · cases event with
      | durable target =>
        rw [mem_singleton.mp hlast]
        exact durable target rfl
      | output | resize | closed => cases hlast
  · rintro ⟨other, member, hclosed⟩
    rcases mem_append.mp member with hold | hlast
    · exact heard.closed ⟨other, hold, hclosed⟩
    · rw [mem_singleton.mp hlast] at hclosed
      exact closed hclosed

/-- The stream of one subscription; one that is still registered has been sent
everything accepted so far. -/
structure Hears (handle : TerminalHandle) (stream : Bytes) (record : Subscribed) : Prop where
  id_lt : record.subscription.subscriberId < handle.inner.nextSubscriberId
  heard : Heard handle.inner stream record (handle.sentTo record.subscription.subscriberId)
  queued_le : record.queuedEnd (handle.sentTo record.subscription.subscriberId) ≤ stream.length
  live : record.subscription.subscriberId ∈ handle.subscriberIds →
    record.queuedEnd (handle.sentTo record.subscription.subscriberId) = stream.length

/-- A step that queues nothing and registers no subscriber under an id in use. -/
structure Quiet (before after : TerminalHandle) : Prop where
  next_le : before.inner.nextSubscriberId ≤ after.inner.nextSubscriberId
  ids : ∀ subscriberId, subscriberId < before.inner.nextSubscriberId →
    subscriberId ∈ after.subscriberIds → subscriberId ∈ before.subscriberIds
  sent : ∀ subscriberId, subscriberId < before.inner.nextSubscriberId →
    after.sentTo subscriberId = before.sentTo subscriberId
  durable_eq : after.inner.durableOffset = before.inner.durableOffset
  closed : ∀ reason, before.inner.lifecycle = .closed reason → after.inner.lifecycle = .closed reason

theorem Quiet.refl (handle : TerminalHandle) : Quiet handle handle :=
  ⟨Nat.le_refl _, fun _ _ member => member, fun _ _ => rfl, rfl, fun _ closed => closed⟩

theorem Hears.quiet {before : TerminalHandle}
    (hears : Hears before stream record) (quiet : Quiet before after) :
    Hears after stream record := by
  have hsent := quiet.sent _ hears.id_lt
  refine ⟨Nat.lt_of_lt_of_le hears.id_lt quiet.next_le, ⟨?_, ?_, ?_⟩, ?_, ?_⟩
  · rw [hsent]
    exact hears.heard.follows
  · rw [hsent, quiet.durable_eq]
    exact hears.heard.durables_le
  · rw [hsent]
    intro hclosed
    obtain ⟨reason, hreason⟩ := hears.heard.closed hclosed
    exact ⟨reason, quiet.closed reason hreason⟩
  · rw [hsent]
    exact hears.queued_le
  · rw [hsent]
    intro member
    exact hears.live (quiet.ids _ hears.id_lt member)

theorem Hears.fanOut (roster : Roster handle)
    (id_lt : record.subscription.subscriberId < handle.inner.nextSubscriberId)
    (dropped : Heard handle.inner stream record (handle.sentTo record.subscription.subscriberId))
    (dropped_le : record.queuedEnd (handle.sentTo record.subscription.subscriberId) ≤ stream.length)
    (kept : record.subscription.subscriberId ∈ handle.subscriberIds →
      Heard handle.inner stream record (handle.sentTo record.subscription.subscriberId ++ [event]) ∧
        record.queuedEnd (handle.sentTo record.subscription.subscriberId ++ [event]) =
          stream.length) :
    Hears (handle.fanOut event) stream record := by
  rcases fanOut_cases roster event record.subscription.subscriberId with
    ⟨hmember, _, hsent⟩ | ⟨habsent, hsent⟩
  · obtain ⟨hheard, hend⟩ := kept hmember
    rw [← hsent] at hheard hend
    exact ⟨id_lt, ⟨hheard.follows, hheard.durables_le, hheard.closed⟩, Nat.le_of_eq hend, fun _ => hend⟩
  · rw [← hsent] at dropped dropped_le
    exact ⟨id_lt, ⟨dropped.follows, dropped.durables_le, dropped.closed⟩, dropped_le,
      fun member => absurd member habsent⟩

section

variable (hears : Hears handle stream record)
include hears

theorem Hears.opened (not_closed : ∀ reason, handle.inner.lifecycle ≠ .closed reason) :
    ∀ event ∈ handle.sentTo record.subscription.subscriberId, event.isClosed = false := by
  intro event member
  cases hclosed : event.isClosed with
  | false => rfl
  | true =>
    obtain ⟨reason, hreason⟩ := hears.heard.closed ⟨event, member, hclosed⟩
    exact absurd hreason (not_closed reason)

theorem Hears.resize (roster : Roster handle) (cols rows : Nat) :
    Hears (handle.resize cols rows).1 stream record := by
  unfold TerminalHandle.resize
  split
  · exact hears
  · refine Hears.fanOut ⟨roster.nodup, roster.below⟩ hears.id_lt
      ⟨hears.heard.follows, hears.heard.durables_le, hears.heard.closed⟩ hears.queued_le ?_
    intro member
    refine ⟨Heard.concat ?_ (hears.heard.follows.resize cols rows) ?_ ?_, ?_⟩
    · exact ⟨hears.heard.follows, hears.heard.durables_le, hears.heard.closed⟩
    · intro durableOffset hevent
      cases hevent
    · intro hclosed
      cases hclosed
    · exact (record.queuedEnd_concat _ rfl).trans (hears.live member)

theorem Hears.accept (roster : Roster handle)
    (next : handle.inner.nextOffset = stream.length) (opened : handle.inner.lifecycle = .opened)
    {payload : Bytes} (nonempty : payload ≠ []) (capacity : Nat) :
    Hears (handle.accept payload capacity) (stream ++ payload) record := by
  have hopened := hears.opened (by
    intro reason hreason
    rw [opened] at hreason
    cases hreason)
  have hold := hears.heard.follows.stream_append payload hears.queued_le
  unfold TerminalHandle.accept
  refine Hears.fanOut ⟨roster.nodup, roster.below⟩ hears.id_lt
    ⟨hold, hears.heard.durables_le, hears.heard.closed⟩ ?_ ?_
  · rw [length_append]
    exact hears.queued_le.trans (Nat.le_add_right _ _)
  · intro member
    rw [next]
    obtain ⟨hfollows, hend⟩ := hears.heard.follows.output (hears.live member) nonempty hopened
    refine ⟨Heard.concat ?_ hfollows ?_ ?_, hend⟩
    · exact ⟨hold, hears.heard.durables_le, hears.heard.closed⟩
    · intro durableOffset hevent
      cases hevent
    · intro hclosed
      cases hclosed

theorem Hears.append (roster : Roster handle)
    (next : handle.inner.nextOffset = stream.length) (expectedOffset : Nat) (payload : Bytes)
    (capacity : Nat) :
    Hears (handle.append expectedOffset payload capacity).1
      (stream ++ handle.acceptedBytes (.append expectedOffset payload capacity)) record := by
  simp only [TerminalHandle.acceptedBytes, TerminalHandle.append]
  split
  · rw [append_nil]
    exact hears
  · rename_i hopen
    split
    · rw [append_nil]
      exact hears
    · split
      · rename_i hempty
        rw [List.isEmpty_iff.mp hempty, append_nil]
        exact ⟨hears.id_lt, ⟨hears.heard.follows, hears.heard.durables_le, hears.heard.closed⟩,
          hears.queued_le, hears.live⟩
      · rename_i hnonempty
        exact hears.accept roster next (by simpa using hopen) (by simpa using hnonempty) capacity

end

theorem replayChunks_tiles {ring : Ring} {chunkBytes fuel cursor : Nat}
    (exposes : ring.Exposes stream) (positive : 0 < chunkBytes) (low : ring.earliestOffset ≤ cursor)
    (high : cursor ≤ stream.length) (enough : stream.length - cursor ≤ fuel) :
    Tiles stream cursor ((replayChunks ring chunkBytes stream.length fuel cursor).map frameSegment)
      stream.length := by
  induction fuel generalizing cursor with
  | zero =>
    have hdone : cursor = stream.length := by omega
    exact hdone
  | succ fuel ih =>
    unfold replayChunks
    by_cases hmore : cursor < stream.length
    · have hread := exposes.readRange (show cursor ≤ min (cursor + chunkBytes) stream.length by omega)
        low (Nat.min_le_right _ _)
      have hlength : (slice stream cursor (min (cursor + chunkBytes) stream.length)).length =
          min (cursor + chunkBytes) stream.length - cursor := length_slice (Nat.min_le_right _ _)
      have hstop : cursor + (slice stream cursor
          (min (cursor + chunkBytes) stream.length)).length =
          min (cursor + chunkBytes) stream.length := by omega
      have hrest := ih (show ring.earliestOffset ≤ min (cursor + chunkBytes) stream.length by omega)
        (Nat.min_le_right _ _) (by omega)
      simp only [hmore, ↓reduceIte, hread, map_cons]
      refine ⟨rfl, ?_, ?_, ?_, ?_⟩
      · simp only [frameSegment, hstop]
        omega
      · simp only [frameSegment, hstop]
        omega
      · simp only [frameSegment, hstop]
      · simp only [frameSegment, hstop]
        exact hrest
    · simp only [hmore, ↓reduceIte]
      have hdone : cursor = stream.length := by omega
      exact hdone

/-- The replay begins at the requested offset or at the window's, whichever is
later, and a gap is reported exactly when that is the window's. -/
structure Subscribed.WellStarted (record : Subscribed) : Prop where
  start_eq : record.subscription.replayStartOffset =
    max record.requested record.subscription.offsets.earliestOffset
  gap_eq : record.subscription.gap =
    if record.requested < record.subscription.offsets.earliestOffset then
      some (record.requested, record.subscription.offsets.earliestOffset) else none

theorem Hears.registered (id_lt : record.subscription.subscriberId < handle.inner.nextSubscriberId)
    (unsent : handle.sentTo record.subscription.subscriberId = [])
    (tiles : Tiles stream record.subscription.replayStartOffset
      (record.subscription.replay.map frameSegment) stream.length) :
    Hears handle stream record := by
  have hend := queuedEnd_of_tiles tiles
  have hqueued : record.queuedEnd [] = stream.length := by
    unfold Subscribed.queuedEnd
    rw [hend]
    simp [outputs]
  refine ⟨id_lt, ⟨⟨?_, ?_, ?_, ?_⟩, ?_, ?_⟩, ?_, ?_⟩
  · rw [unsent]
    change Tiles _ _ _ (record.queuedEnd [])
    rw [hqueued]
    simpa [outputs] using tiles
  · rw [unsent]
    exact List.Pairwise.nil
  · intro earlier durableOffset later split
    rw [unsent] at split
    simp at split
  · intro earlier reason nextOffset durableOffset later split
    rw [unsent] at split
    simp at split
  · rw [unsent]
    intro durableOffset member
    cases member
  · rw [unsent]
    rintro ⟨event, member, _⟩
    cases member
  · rw [unsent, hqueued]
  · intro _
    rw [unsent, hqueued]

theorem subscribe_spec {fromOffset : Option Nat}
    {chunkBytes queueMessages queueBytes : Nat} (exposes : handle.inner.ring.Exposes stream)
    (next : handle.inner.nextOffset = stream.length)
    (member : record ∈ handle.subscribedBy (.subscribe fromOffset chunkBytes queueMessages queueBytes)) :
    record.terminalId = handle.terminalId ∧ record.WellStarted ∧
      Hears (handle.apply (.subscribe fromOffset chunkBytes queueMessages queueBytes)) stream
        record := by
  simp only [TerminalHandle.subscribedBy, TerminalHandle.apply, TerminalHandle.subscribe] at member ⊢
  split at member
  · rename_i subscribed subscription hok
    split at hok
    · cases hok
    · rename_i hnotAhead
      cases hok
      rw [mem_singleton.mp member]
      have hearliest := exposes.earliest_le
      have htiles : Tiles stream
          (if fromOffset.getD handle.inner.ring.earliestOffset < handle.inner.ring.earliestOffset then
            handle.inner.ring.earliestOffset else fromOffset.getD handle.inner.ring.earliestOffset)
          ((replayChunks handle.inner.ring (max chunkBytes 1) handle.inner.nextOffset
            handle.inner.nextOffset
            (if fromOffset.getD handle.inner.ring.earliestOffset < handle.inner.ring.earliestOffset
              then handle.inner.ring.earliestOffset
              else fromOffset.getD handle.inner.ring.earliestOffset)).map frameSegment)
          stream.length := by
        rw [next] at hnotAhead ⊢
        apply replayChunks_tiles exposes
        · omega
        · split <;> omega
        · split <;> omega
        · omega
      refine ⟨rfl, ⟨?_, rfl⟩, ?_⟩
      · dsimp only [TerminalHandle.offsets]
        split <;> omega
      · apply Hears.registered (Nat.lt_succ_self _) _ htiles
        simp [TerminalHandle.sentTo, Mailbox.new, Channel.new]
  · cases member

theorem subscribe_quiet (roster : Roster handle) (fromOffset : Option Nat)
    (chunkBytes queueMessages queueBytes : Nat) :
    Quiet handle (handle.apply (.subscribe fromOffset chunkBytes queueMessages queueBytes)) ∧
      Roster (handle.apply (.subscribe fromOffset chunkBytes queueMessages queueBytes)) := by
  simp only [TerminalHandle.apply, TerminalHandle.subscribe]
  split
  · rename_i hok
    split at hok
    · cases hok
    · cases hok
      have hids : TerminalHandle.subscriberIds
          { handle with
            inner := { handle.inner with
              subscribers := handle.inner.subscribers ++
                [⟨handle.inner.nextSubscriberId, queueBytes⟩]
              nextSubscriberId := handle.inner.nextSubscriberId + 1 }
            mailboxes := Function.update handle.mailboxes handle.inner.nextSubscriberId
              (Mailbox.new queueMessages) } =
          handle.subscriberIds ++ [handle.inner.nextSubscriberId] := by
        simp [TerminalHandle.subscriberIds]
      refine ⟨⟨Nat.le_succ _, ?_, ?_, rfl, fun _ closed => closed⟩, ⟨?_, ?_⟩⟩
      · intro subscriberId hlt member
        rw [hids, mem_append, mem_singleton] at member
        exact member.resolve_right (Nat.ne_of_lt hlt)
      · intro subscriberId hlt
        simp only [TerminalHandle.sentTo]
        rw [update_of_ne (Nat.ne_of_lt hlt)]
      · rw [hids, ← concat_eq_append]
        apply roster.nodup.concat
        intro member
        exact absurd (roster.below _ member) (Nat.lt_irrefl _)
      · intro subscriberId member
        rw [hids, mem_append, mem_singleton] at member
        rcases member with hold | rfl
        · exact Nat.lt_succ_of_lt (roster.below subscriberId hold)
        · exact Nat.lt_succ_self _
  · exact ⟨Quiet.refl handle, roster⟩

theorem sent_receive (mailbox : Mailbox) : mailbox.receive.channel.sent = mailbox.channel.sent := by
  unfold Mailbox.receive
  split
  · rename_i hreceived
    exact Channel.sent_recv hreceived
  · rfl

theorem sent_release (bytes : Nat) (mailbox : Mailbox) :
    (mailbox.release bytes).channel.sent = mailbox.channel.sent := rfl

theorem sent_dropReceiver (mailbox : Mailbox) :
    mailbox.dropReceiver.channel.sent = mailbox.channel.sent := rfl

section

variable (handle)
include handle

theorem updateMailbox_quiet (subscriberId : Nat) {f : Mailbox → Mailbox}
    (keeps : ∀ mailbox, (f mailbox).channel.sent = mailbox.channel.sent) :
    Quiet handle (handle.updateMailbox subscriberId f) := by
  refine ⟨Nat.le_refl _, fun _ _ member => member, ?_, rfl, fun _ closed => closed⟩
  intro other _
  simp only [TerminalHandle.sentTo, TerminalHandle.updateMailbox]
  by_cases hsame : other = subscriberId
  · subst hsame
    rw [update_self, keeps]
  · rw [update_of_ne hsame]

theorem terminate_quiet (termination : Termination) :
    Quiet handle (handle.terminateSubscribers termination) := by
  refine ⟨Nat.le_refl _, ?_, ?_, rfl, fun _ closed => closed⟩
  · intro subscriberId _ member
    cases member
  · intro subscriberId _
    simp only [TerminalHandle.sentTo, TerminalHandle.terminateSubscribers]
    split <;> rfl

theorem unsubscribe_quiet (subscriberId : Nat) :
    Quiet handle (handle.unsubscribe subscriberId) := by
  refine ⟨Nat.le_refl _, ?_, fun _ _ => rfl, rfl, fun _ closed => closed⟩
  intro other _ member
  obtain ⟨subscriber, hsubscriber, rfl⟩ := List.mem_map.mp member
  exact List.mem_map_of_mem (mem_filter.mp hsubscriber).1

theorem beginClose_quiet (reason : String) : Quiet handle (handle.beginClose reason).1 := by
  unfold TerminalHandle.beginClose
  split
  · exact Quiet.refl handle
  · rename_i hopen
    refine ⟨Nat.le_refl _, fun _ _ member => member, fun _ _ => rfl, rfl, ?_⟩
    intro other hclosed
    exact absurd (by simp [hclosed]) hopen

theorem shrink_quiet (capacity : Nat) : Quiet handle (handle.shrinkToCapacity capacity) := by
  unfold TerminalHandle.shrinkToCapacity
  split
  · exact Quiet.refl handle
  · exact ⟨Nat.le_refl _, fun _ _ member => member, fun _ _ => rfl, rfl, fun _ closed => closed⟩

end

theorem apply_quiet (roster : Roster handle) {op : HandleOp}
    (not_append : ∀ expectedOffset payload capacity, op ≠ .append expectedOffset payload capacity)
    (not_resize : ∀ cols rows, op ≠ .resize cols rows) :
    Quiet handle (handle.apply op) ∧ handle.acceptedBytes op = [] := by
  cases op with
  | append expectedOffset payload capacity =>
    exact absurd rfl (not_append expectedOffset payload capacity)
  | resize cols rows => exact absurd rfl (not_resize cols rows)
  | subscribe => exact ⟨(subscribe_quiet roster _ _ _ _).1, rfl⟩
  | shrinkToCapacity capacity => exact ⟨shrink_quiet handle capacity, rfl⟩
  | unsubscribe subscriberId => exact ⟨unsubscribe_quiet handle subscriberId, rfl⟩
  | beginClose reason => exact ⟨beginClose_quiet handle reason, rfl⟩
  | terminateSubscribers termination => exact ⟨terminate_quiet handle termination, rfl⟩
  | receive subscriberId => exact ⟨updateMailbox_quiet handle subscriberId sent_receive, rfl⟩
  | release subscriberId bytes =>
    exact ⟨updateMailbox_quiet handle subscriberId (sent_release bytes), rfl⟩
  | dropReceiver subscriberId =>
    exact ⟨updateMailbox_quiet handle subscriberId sent_dropReceiver, rfl⟩
  | updateMetadata | nextInputSequence =>
    exact ⟨⟨Nat.le_refl _, fun _ _ member => member, fun _ _ => rfl, rfl, fun _ closed => closed⟩, rfl⟩

theorem Hears.apply (hears : Hears handle stream record) (roster : Roster handle)
    (next : handle.inner.nextOffset = stream.length) (op : HandleOp) :
    Hears (handle.apply op) (stream ++ handle.acceptedBytes op) record := by
  by_cases happend : ∃ expectedOffset payload capacity, op = .append expectedOffset payload capacity
  · obtain ⟨expectedOffset, payload, capacity, rfl⟩ := happend
    exact hears.append roster next expectedOffset payload capacity
  · by_cases hresize : ∃ cols rows, op = .resize cols rows
    · obtain ⟨cols, rows, rfl⟩ := hresize
      rw [show handle.acceptedBytes (.resize cols rows) = [] from rfl, append_nil]
      exact hears.resize roster cols rows
    · have hquiet := apply_quiet roster
        (fun expectedOffset payload capacity heq =>
          happend ⟨expectedOffset, payload, capacity, heq⟩)
        (fun cols rows heq => hresize ⟨cols, rows, heq⟩)
      rw [hquiet.2, append_nil]
      exact hears.quiet hquiet.1

theorem Roster.apply (roster : Roster handle) (op : HandleOp) : Roster (handle.apply op) := by
  cases op with
  | append expectedOffset payload capacity =>
    simp only [TerminalHandle.apply, TerminalHandle.append]
    split
    · exact roster
    · split
      · exact roster
      · split
        · exact ⟨roster.nodup, roster.below⟩
        · unfold TerminalHandle.accept
          apply Roster.fanOut
          exact ⟨roster.nodup, roster.below⟩
  | resize cols rows =>
    simp only [TerminalHandle.apply, TerminalHandle.resize]
    split
    · exact roster
    · apply Roster.fanOut
      exact ⟨roster.nodup, roster.below⟩
  | subscribe => exact (subscribe_quiet roster _ _ _ _).2
  | shrinkToCapacity capacity =>
    simp only [TerminalHandle.apply, TerminalHandle.shrinkToCapacity]
    split
    · exact roster
    · exact ⟨roster.nodup, roster.below⟩
  | unsubscribe subscriberId =>
    have hids : (handle.apply (.unsubscribe subscriberId)).subscriberIds =
        handle.subscriberIds.filter fun other => other ≠ subscriberId := by
      simp only [TerminalHandle.apply, TerminalHandle.subscriberIds, TerminalHandle.unsubscribe]
      rw [List.filter_map]
      rfl
    constructor
    · rw [hids]
      exact roster.nodup.filter _
    · intro other member
      rw [hids] at member
      exact roster.below other (mem_filter.mp member).1
  | beginClose reason =>
    simp only [TerminalHandle.apply, TerminalHandle.beginClose]
    split
    · exact roster
    · exact ⟨roster.nodup, roster.below⟩
  | terminateSubscribers termination =>
    refine ⟨nodup_nil, ?_⟩
    intro other member
    cases member
  | updateMetadata | nextInputSequence | receive | release | dropReceiver =>
    exact ⟨roster.nodup, roster.below⟩

theorem Roster.advanceDurable (roster : Roster handle)
    (durableTarget : Nat) : Roster (handle.advanceDurable durableTarget) := by
  unfold TerminalHandle.advanceDurable
  split
  · have hroster : Roster { handle with
        inner := { handle.inner with durableOffset := durableTarget } } :=
      ⟨roster.nodup, roster.below⟩
    exact ⟨(hroster.fanOut _).nodup, (hroster.fanOut _).below⟩
  · exact ⟨roster.nodup, roster.below⟩

theorem Roster.commitDurable (roster : Roster handle)
    (durableTarget : Nat) (closed : Option String) :
    Roster (handle.commitDurable durableTarget closed) := by
  have hadvanced := roster.advanceDurable durableTarget
  unfold TerminalHandle.commitDurable
  cases closed with
  | none => exact hadvanced
  | some reason =>
    have hmarked : Roster { handle.advanceDurable durableTarget with
        inner := { (handle.advanceDurable durableTarget).inner with lifecycle := .closed reason } } :=
      ⟨hadvanced.nodup, hadvanced.below⟩
    exact ⟨(hmarked.fanOut _).nodup, (hmarked.fanOut _).below⟩

theorem Hears.advanceDurable
    (hears : Hears handle stream record) (roster : Roster handle) {durableTarget : Nat}
    (bound : durableTarget ≤ stream.length) :
    Hears (handle.advanceDurable durableTarget) stream record := by
  unfold TerminalHandle.advanceDurable
  split
  · rename_i hmoves
    have hheard : Heard { handle.inner with durableOffset := durableTarget } stream record
        (handle.sentTo record.subscription.subscriberId) := by
      refine ⟨hears.heard.follows, ?_, hears.heard.closed⟩
      intro durableOffset member
      exact (hears.heard.durables_le durableOffset member).trans hmoves.le
    have hfan : Hears (TerminalHandle.fanOut { handle with
        inner := { handle.inner with durableOffset := durableTarget } } (.durable durableTarget)) stream record := by
      refine Hears.fanOut ⟨roster.nodup, roster.below⟩ hears.id_lt hheard hears.queued_le ?_
      intro member
      have hend := hears.live member
      refine ⟨Heard.concat hheard ?_ ?_ ?_, ?_⟩
      · apply hears.heard.follows.durable
        · intro earlier hearlier
          exact Nat.lt_of_le_of_lt (hears.heard.durables_le earlier hearlier) hmoves
        · exact bound.trans (Nat.le_of_eq hend.symm)
      · intro durableOffset hevent
        cases hevent
        exact Nat.le_refl _
      · intro hclosed
        cases hclosed
      · exact (record.queuedEnd_concat _ rfl).trans hend
    exact ⟨hfan.id_lt, ⟨hfan.heard.follows, hfan.heard.durables_le, hfan.heard.closed⟩,
      hfan.queued_le, hfan.live⟩
  · exact ⟨hears.id_lt, ⟨hears.heard.follows, hears.heard.durables_le, hears.heard.closed⟩,
      hears.queued_le, hears.live⟩

theorem lifecycle_advanceDurable (handle : TerminalHandle) (durableTarget : Nat) :
    (handle.advanceDurable durableTarget).inner.lifecycle = handle.inner.lifecycle := by
  unfold TerminalHandle.advanceDurable
  split <;> rfl

theorem Hears.commitDurable
    (hears : Hears handle stream record) (roster : Roster handle) {durableTarget : Nat}
    {closed : Option String} (bound : durableTarget ≤ stream.length)
    (closing : ∀ reason, closed = some reason → handle.inner.lifecycle = .closing reason) :
    Hears (handle.commitDurable durableTarget closed) stream record := by
  have hadvanced := hears.advanceDurable roster bound
  have hroster := roster.advanceDurable durableTarget
  unfold TerminalHandle.commitDurable
  cases closed with
  | none => exact hadvanced
  | some reason =>
    -- The terminal was closing until now, so no close is queued yet.
    have hopened := hadvanced.opened (by
      intro other hother
      rw [lifecycle_advanceDurable, closing reason rfl] at hother
      cases hother)
    have hheard : Heard { (handle.advanceDurable durableTarget).inner with
        lifecycle := .closed reason } stream record
        ((handle.advanceDurable durableTarget).sentTo record.subscription.subscriberId) :=
      ⟨hadvanced.heard.follows, hadvanced.heard.durables_le, fun _ => ⟨reason, rfl⟩⟩
    have hfan : Hears (TerminalHandle.fanOut { handle.advanceDurable durableTarget with
        inner := { (handle.advanceDurable durableTarget).inner with lifecycle := .closed reason } }
        (.closed reason (handle.advanceDurable durableTarget).inner.nextOffset
          (handle.advanceDurable durableTarget).inner.durableOffset)) stream record := by
      refine Hears.fanOut ⟨hroster.nodup, hroster.below⟩ hadvanced.id_lt hheard
        hadvanced.queued_le ?_
      intro member
      refine ⟨Heard.concat hheard ?_ ?_ ?_, ?_⟩
      · exact hadvanced.heard.follows.closed reason _ _ hopened
      · intro durableOffset hevent
        cases hevent
      · exact fun _ => ⟨reason, rfl⟩
      · exact (record.queuedEnd_concat _ rfl).trans (hadvanced.live member)
    exact ⟨hfan.id_lt, ⟨hfan.heard.follows, hfan.heard.durables_le, hfan.heard.closed⟩,
      hfan.queued_le, hfan.live⟩

structure Silent (handle : TerminalHandle) (subscriberId : Nat) (events : List MirrorEvent) :
    Prop where
  id_lt : subscriberId < handle.inner.nextSubscriberId
  dropped : subscriberId ∉ handle.subscriberIds
  sent_eq : handle.sentTo subscriberId = events

theorem Silent.quiet {before : TerminalHandle} (silent : Silent before subscriberId events)
    (quiet : Quiet before after) : Silent after subscriberId events where
  id_lt := Nat.lt_of_lt_of_le silent.id_lt quiet.next_le
  dropped := fun member => silent.dropped (quiet.ids _ silent.id_lt member)
  sent_eq := (quiet.sent _ silent.id_lt).trans silent.sent_eq

theorem Silent.fanOut
    (silent : Silent handle subscriberId events) (roster : Roster handle) (event : MirrorEvent) :
    Silent (handle.fanOut event) subscriberId events := by
  rcases fanOut_cases roster event subscriberId with ⟨hmember, _, _⟩ | ⟨habsent, hsent⟩
  · exact absurd hmember silent.dropped
  · exact ⟨silent.id_lt, habsent, hsent.trans silent.sent_eq⟩

theorem Silent.apply
    (silent : Silent handle subscriberId events) (roster : Roster handle) (op : HandleOp) :
    Silent (handle.apply op) subscriberId events := by
  by_cases happend : ∃ expectedOffset payload capacity, op = .append expectedOffset payload capacity
  · obtain ⟨expectedOffset, payload, capacity, rfl⟩ := happend
    simp only [TerminalHandle.apply, TerminalHandle.append]
    split
    · exact silent
    · split
      · exact silent
      · split
        · exact ⟨silent.id_lt, silent.dropped, silent.sent_eq⟩
        · unfold TerminalHandle.accept
          apply Silent.fanOut
          · exact ⟨silent.id_lt, silent.dropped, silent.sent_eq⟩
          · exact ⟨roster.nodup, roster.below⟩
  · by_cases hresize : ∃ cols rows, op = .resize cols rows
    · obtain ⟨cols, rows, rfl⟩ := hresize
      simp only [TerminalHandle.apply, TerminalHandle.resize]
      split
      · exact silent
      · apply Silent.fanOut
        · exact ⟨silent.id_lt, silent.dropped, silent.sent_eq⟩
        · exact ⟨roster.nodup, roster.below⟩
    · exact silent.quiet (apply_quiet roster
        (fun expectedOffset payload capacity heq =>
          happend ⟨expectedOffset, payload, capacity, heq⟩)
        (fun cols rows heq => hresize ⟨cols, rows, heq⟩)).1

theorem Silent.advanceDurable (silent : Silent handle subscriberId events)
    (roster : Roster handle) (durableTarget : Nat) :
    Silent (handle.advanceDurable durableTarget) subscriberId events := by
  unfold TerminalHandle.advanceDurable
  split
  · have hfan : Silent (TerminalHandle.fanOut { handle with
        inner := { handle.inner with durableOffset := durableTarget } } (.durable durableTarget)) subscriberId events := by
      apply Silent.fanOut
      · exact ⟨silent.id_lt, silent.dropped, silent.sent_eq⟩
      · exact ⟨roster.nodup, roster.below⟩
    exact ⟨hfan.id_lt, hfan.dropped, hfan.sent_eq⟩
  · exact ⟨silent.id_lt, silent.dropped, silent.sent_eq⟩

theorem Silent.commitDurable (silent : Silent handle subscriberId events)
    (roster : Roster handle) (durableTarget : Nat) (closed : Option String) :
    Silent (handle.commitDurable durableTarget closed) subscriberId events := by
  have hadvanced := silent.advanceDurable roster durableTarget
  have hroster := roster.advanceDurable durableTarget
  unfold TerminalHandle.commitDurable
  cases closed with
  | none => exact hadvanced
  | some reason =>
    have hfan : Silent (TerminalHandle.fanOut { handle.advanceDurable durableTarget with
        inner := { (handle.advanceDurable durableTarget).inner with lifecycle := .closed reason } }
        (.closed reason (handle.advanceDurable durableTarget).inner.nextOffset
          (handle.advanceDurable durableTarget).inner.durableOffset)) subscriberId events := by
      apply Silent.fanOut
      · exact ⟨hadvanced.id_lt, hadvanced.dropped, hadvanced.sent_eq⟩
      · exact ⟨hroster.nodup, hroster.below⟩
    exact ⟨hfan.id_lt, hfan.dropped, hfan.sent_eq⟩

/-- What one action of the system does to a resident handle and its stream. -/
inductive Moves (system : System) (handle : TerminalHandle) : Bytes → TerminalHandle → Prop where
  | same : Moves system handle [] handle
  | apply (op : HandleOp) : Moves system handle (handle.acceptedBytes op) (handle.apply op)
  | publish (checkpoint : PendingCheckpoint) (committed : checkpoint ∈ system.flush.committed)
      (own : checkpoint.terminalId = handle.terminalId) :
      Moves system handle []
        (handle.commitDurable checkpoint.durableTarget checkpoint.closeReason)

/-- What one action does to the resident handles, the streams and the records. -/
inductive Effect (system next : System) (action : Action) : Prop where
  | still (terminals_eq : next.terminals = system.terminals)
      (accepted_eq : next.accepted = system.accepted)
      (subscribed_eq : next.subscribed = system.subscribed)
  | loads (handle : TerminalHandle) (terminals_eq : next.terminals = system.terminals ++ [handle])
      (fresh : handle.inner.subscribers = []) (accepted_eq : next.accepted = system.accepted)
      (subscribed_eq : next.subscribed = system.subscribed)
  | applies (handle : TerminalHandle) (op : HandleOp)
      (found : system.resident handle.terminalId = some handle)
      (next_eq : next = system.applyOp handle op)
      (action_eq : action = .handle handle.terminalId op)
  | publishes (checkpoint : PendingCheckpoint) (rest : List PendingCheckpoint)
      (publishing : system.flush = .publishing (checkpoint :: rest))
      (next_eq : next = system.publish checkpoint rest)
  | crashes (crash : action = .crash) (next_eq : next = system.crash)

theorem load_effect (system : System) (terminalId : Uuid) (capacity : Nat) :
    Effect system (system.load terminalId capacity) (.load terminalId capacity) := by
  unfold System.load
  split
  · split
    · exact .loads _ rfl rfl rfl rfl
    · exact .still rfl rfl rfl
  · exact .still rfl rfl rfl

theorem step_effect (taken : step system action = some next) : Effect system next action := by
  cases step_stepped taken with
  | inserts =>
    unfold System.insertTerminal
    split <;> exact .still rfl rfl rfl
  | loads terminalId capacity => exact load_effect system terminalId capacity
  | applies terminalId op handle found =>
    have hid := terminalId_of_resident found
    subst hid
    exact .applies handle op found rfl rfl
  | begins | takes | took | commits | refuses | fails | published => exact .still rfl rfl rfl
  | publishes checkpoint rest publishing => exact .publishes checkpoint rest publishing rfl
  | crashes => exact .crashes rfl rfl

theorem resident_applyOp (system : System) (handle : TerminalHandle) (op : HandleOp)
    (terminalId : Uuid) :
    (system.applyOp handle op).resident terminalId =
      if terminalId = handle.terminalId then
        (system.resident handle.terminalId).map fun stored => stored.apply op
      else system.resident terminalId :=
  resident_update (fun stored => terminalId_apply stored op) rfl terminalId

theorem resident_publish (system : System) (checkpoint : PendingCheckpoint)
    (rest : List PendingCheckpoint) (terminalId : Uuid) :
    (system.publish checkpoint rest).resident terminalId =
      if terminalId = checkpoint.terminalId then
        (system.resident checkpoint.terminalId).map fun stored =>
          stored.commitDurable checkpoint.durableTarget checkpoint.closeReason
      else system.resident terminalId :=
  resident_update (fun stored => (commitDurable_spec stored _ _).1) rfl terminalId

theorem step_moves (taken : step system action = some next) (running : action ≠ .crash)
    (found : system.resident terminalId = some handle) :
    ∃ after added, next.resident terminalId = some after ∧
      next.accepted terminalId = system.accepted terminalId ++ added ∧
      Moves system handle added after := by
  have hstay : next.resident terminalId = some handle →
      next.accepted terminalId = system.accepted terminalId →
      ∃ after added, next.resident terminalId = some after ∧
        next.accepted terminalId = system.accepted terminalId ++ added ∧
        Moves system handle added after := by
    intro hresident haccepted
    exact ⟨handle, [], hresident, haccepted.trans (append_nil _).symm, .same⟩
  cases step_effect taken with
  | still hterminals haccepted _ =>
    apply hstay
    · unfold System.resident at found ⊢
      rw [hterminals, found]
    · rw [haccepted]
  | loads loaded hterminals _ haccepted _ =>
    apply hstay
    · unfold System.resident at found ⊢
      rw [hterminals, Library.lookup_append, found, some_or]
    · rw [haccepted]
  | applies stored op hstored hnext =>
    subst hnext
    by_cases hsame : terminalId = stored.terminalId
    · subst hsame
      cases found.symm.trans hstored
      refine ⟨handle.apply op, handle.acceptedBytes op, ?_, update_self _ _ _, .apply op⟩
      rw [resident_applyOp, if_pos rfl, found, map_some]
    · apply hstay
      · rw [resident_applyOp, if_neg hsame, found]
      · exact update_of_ne hsame _ _
  | publishes checkpoint rest hpublishing hnext =>
    subst hnext
    by_cases hsame : terminalId = checkpoint.terminalId
    · refine ⟨_, [], ?_, (append_nil _).symm, .publish checkpoint ?_ ?_⟩
      · rw [resident_publish, if_pos hsame, ← hsame, found, map_some]
      · rw [hpublishing]
        exact mem_cons_self
      · rw [terminalId_of_resident found, hsame]
    · exact hstay (by rw [resident_publish, if_neg hsame, found]) rfl
  | crashes hcrash => exact absurd hcrash running

theorem step_loads (taken : step system action = some next)
    (missing : system.resident terminalId = none) (found : next.resident terminalId = some handle) :
    handle.inner.subscribers = [] := by
  cases step_effect taken with
  | still hterminals =>
    unfold System.resident at missing found
    rw [hterminals, missing] at found
    cases found
  | loads loaded hterminals hfresh =>
    unfold System.resident at missing found
    rw [hterminals, Library.lookup_append, missing, none_or, Library.lookup_cons] at found
    split at found
    · cases found
      exact hfresh
    · cases found
  | applies stored op hstored hnext =>
    subst hnext
    rw [resident_applyOp] at found
    split at found
    · rename_i hsame
      rw [← hsame, missing] at found
      cases found
    · rw [missing] at found
      cases found
  | publishes checkpoint rest hpublishing hnext =>
    subst hnext
    rw [resident_publish] at found
    split at found
    · rename_i hsame
      rw [← hsame, missing] at found
      cases found
    · rw [missing] at found
      cases found
  | crashes _ hnext =>
    subst hnext
    cases found

/-- Every recorded subscription belongs to a resident handle and follows its stream. -/
structure ReplayInv (system : System) : Prop where
  roster : ∀ terminalId handle, system.resident terminalId = some handle → Roster handle
  records : ∀ record ∈ system.subscribed, record.WellStarted ∧
    ∃ handle, system.resident record.terminalId = some handle ∧
      Hears handle (system.accepted record.terminalId) record

theorem ReplayInv.initial : ReplayInv System.initial where
  roster := by
    intro terminalId handle found
    cases found
  records := by
    intro record member
    cases member

theorem Moves.roster
    (moves : Moves system handle added after) (roster : Roster handle) : Roster after := by
  cases moves with
  | same => exact roster
  | apply op => exact roster.apply op
  | publish checkpoint => exact roster.commitDurable _ _

theorem Moves.silent (moves : Moves system handle added after)
    (roster : Roster handle) (silent : Silent handle subscriberId events) :
    Silent after subscriberId events := by
  cases moves with
  | same => exact silent
  | apply op => exact silent.apply roster op
  | publish checkpoint => exact silent.commitDurable roster _ _

theorem Moves.hears {row : Db.TerminalRow} (moves : Moves system handle added after)
    (roster : Roster handle) (resident : Resident system.flush handle row stream)
    (bound : row.durableOffset ≤ stream.length) (hears : Hears handle stream record) :
    Hears after (stream ++ added) record := by
  cases moves with
  | same =>
    rw [append_nil]
    exact hears
  | apply op => exact hears.apply roster resident.nextOffset_eq op
  | publish checkpoint committed own =>
    rw [append_nil]
    apply hears.commitDurable roster
    · exact (resident.committed checkpoint committed own).1 ▸ bound
    · exact resident.closing checkpoint (mem_append_right _ committed) own

theorem ReplayInv.step (inv : Inv system)
    (replay : ReplayInv system) (taken : step system action = some next) : ReplayInv next := by
  by_cases hcrash : action = .crash
  · subst hcrash
    cases taken
    refine ⟨?_, ?_⟩
    · intro terminalId handle found
      cases found
    · intro record member
      cases member
  · refine ⟨?_, ?_⟩
    · intro terminalId handle found
      cases hbefore : system.resident terminalId with
      | none =>
        have hempty := step_loads taken hbefore found
        have hids : handle.subscriberIds = [] := by
          unfold TerminalHandle.subscriberIds
          rw [hempty]
          rfl
        refine ⟨by rw [hids]; exact nodup_nil, ?_⟩
        intro subscriberId member
        rw [hids] at member
        cases member
      | some stored =>
        obtain ⟨after, added, hafter, _, hmoves⟩ := step_moves taken hcrash hbefore
        cases hafter.symm.trans found
        exact hmoves.roster (replay.roster terminalId stored hbefore)
    · -- A record from before follows its handle; a new one was made by `subscribe`.
      have hold : ∀ record ∈ system.subscribed, record.WellStarted ∧
          ∃ handle, next.resident record.terminalId = some handle ∧
            Hears handle (next.accepted record.terminalId) record := by
        intro record member
        obtain ⟨hstarted, handle, hfound, hhears⟩ := replay.records record member
        obtain ⟨after, added, hafter, haccepted, hmoves⟩ := step_moves taken hcrash hfound
        obtain ⟨row, hrow, hresident⟩ := (inv.terminal _).resident handle hfound
        refine ⟨hstarted, after, hafter, ?_⟩
        rw [haccepted]
        exact hmoves.hears (replay.roster _ handle hfound) hresident
          ((inv.terminal _).stored row hrow).2 hhears
      intro record member
      cases step_effect taken with
      | still _ _ hsubscribed =>
        rw [hsubscribed] at member
        exact hold record member
      | loads _ _ _ _ hsubscribed =>
        rw [hsubscribed] at member
        exact hold record member
      | publishes _ _ _ hnext =>
        subst hnext
        exact hold record member
      | crashes hcrashed => exact absurd hcrashed hcrash
      | applies handle op hfound hnext =>
        subst hnext
        rcases mem_append.mp member with hmember | hnew
        · exact hold record hmember
        · obtain ⟨row, hrow, hresident⟩ := (inv.terminal _).resident handle hfound
          cases op with
          | subscribe fromOffset chunkBytes queueMessages queueBytes =>
            obtain ⟨hid, hstarted, hhears⟩ :=
              subscribe_spec hresident.exposes hresident.nextOffset_eq hnew
            refine ⟨hstarted,
              handle.apply (.subscribe fromOffset chunkBytes queueMessages queueBytes), ?_, ?_⟩
            · rw [hid, resident_applyOp, if_pos rfl, hfound, map_some]
            · have haccepted : (system.applyOp handle (.subscribe fromOffset chunkBytes
                  queueMessages queueBytes)).accepted handle.terminalId =
                  system.accepted handle.terminalId ++ [] := update_self _ _ _
              rw [hid, haccepted, append_nil]
              exact hhears
          | append | shrinkToCapacity | resize | updateMetadata | nextInputSequence | unsubscribe
          | beginClose | terminateSubscribers | receive | release | dropReceiver => cases hnew

theorem ReplayInv.run {actions : List Action}
    (taken : run Relay.step System.initial actions = some system) :
    Inv system ∧ ReplayInv system := by
  have hpreserved : ∀ before action after, Inv before ∧ ReplayInv before →
      Relay.step before action = some after → Inv after ∧ ReplayInv after := by
    intro before action after invs hstep
    exact ⟨invs.1.step hstep, ReplayInv.step invs.1 invs.2 hstep⟩
  exact run_invariant hpreserved ⟨Inv.initial, ReplayInv.initial⟩ taken

theorem silent_run {later : System} {rest : List Action} (inv : Inv system)
    (replay : ReplayInv system) (found : system.resident terminalId = some handle)
    (silent : Silent handle subscriberId events) (running : .crash ∉ rest)
    (taken : run Relay.step system rest = some later) :
    ∃ after, later.resident terminalId = some after ∧ Silent after subscriberId events := by
  induction rest generalizing system handle with
  | nil =>
    cases taken
    exact ⟨handle, found, silent⟩
  | cons action rest ih =>
    rw [mem_cons, not_or] at running
    obtain ⟨next, hstep, hrest⟩ := run_cons_eq_some.mp taken
    obtain ⟨after, added, hafter, _, hmoves⟩ := step_moves hstep (Ne.symm running.1) found
    exact ih (inv.step hstep) (ReplayInv.step inv replay hstep) hafter
      (hmoves.silent (replay.roster terminalId handle found) silent) running.2 hrest

/-- For every subscription of every run, the replay frames and then the output
events put in its queue are one gapless part of the accepted bytes.  While it is
registered that part ends where the stream does; once dropped, its queue never
receives anything again. -/
theorem subscriber_sees_one_seamless_stream {actions : List Action} {system : System}
    {record : Subscribed} (taken : Library.run step System.initial actions = some system)
    (member : record ∈ system.subscribed) :
    record.subscription.replayStartOffset =
        max record.requested record.subscription.offsets.earliestOffset ∧
      record.subscription.gap =
        (if record.requested < record.subscription.offsets.earliestOffset then
          some (record.requested, record.subscription.offsets.earliestOffset) else none) ∧
      ∃ handle, system.resident record.terminalId = some handle ∧
        Follows (system.accepted record.terminalId) record.subscription.replayStartOffset
          record.subscription.replay (handle.sentTo record.subscription.subscriberId) ∧
        (record.subscription.subscriberId ∈ handle.subscriberIds →
          record.queuedEnd (handle.sentTo record.subscription.subscriberId) =
            handle.inner.nextOffset) ∧
        (record.subscription.subscriberId ∉ handle.subscriberIds →
          ∀ rest later, .crash ∉ rest → Library.run step system rest = some later →
            ∃ after, later.resident record.terminalId = some after ∧
              record.subscription.subscriberId ∉ after.subscriberIds ∧
              after.sentTo record.subscription.subscriberId =
                handle.sentTo record.subscription.subscriberId) := by
  obtain ⟨hinv, hreplay⟩ := ReplayInv.run taken
  obtain ⟨hstarted, handle, hfound, hhears⟩ := hreplay.records record member
  obtain ⟨row, _, hresident⟩ := (hinv.terminal _).resident handle hfound
  refine ⟨hstarted.start_eq, hstarted.gap_eq, handle, hfound, hhears.heard.follows, ?_, ?_⟩
  · intro hmember
    rw [hresident.nextOffset_eq]
    exact hhears.live hmember
  · intro habsent rest later hrunning hlater
    obtain ⟨after, hafter, hsilent⟩ :=
      silent_run hinv hreplay hfound ⟨hhears.id_lt, habsent, rfl⟩ hrunning hlater
    exact ⟨after, hafter, hsilent.dropped, hsilent.sent_eq⟩

/-- A replay with a gap in two chunks, live output, a checkpoint and a close. -/
def seamRun : List Action :=
  [.insertTerminal 7 1 "owner" "shell" "shell" none none none true, .load 7 4,
    .handle 7 (.append 0 [1, 2, 3, 4, 5] 4), .handle 7 (.subscribe (some 0) 3 8 100),
    .handle 7 (.append 5 [6] 4), .handle 7 (.resize 80 24), .handle 7 (.beginClose "exit"),
    .flushBegin [7], .flushTake, .flushTake, .flushCommit, .flushPublish]

theorem subscriber_sees_seamRun :
    ∃ system record handle, Library.run step System.initial seamRun = some system ∧
      record ∈ system.subscribed ∧ system.resident 7 = some handle ∧
      record.subscription.gap = some (0, 1) ∧
      record.subscription.replay = [(1, [2, 3, 4]), (4, [5])] ∧
      handle.sentTo 1 = [.output 5 [6], .resize 80 24, .durable 6, .closed "exit" 6 6] ∧
      Follows (system.accepted 7) 1 record.subscription.replay (handle.sentTo 1) := by
  refine ⟨_, _, _, rfl, mem_cons_self, rfl, rfl, rfl, rfl, ?_⟩
  obtain ⟨_, _, handle, hfound, hfollows, _⟩ := subscriber_sees_one_seamless_stream
    (show Library.run step System.initial seamRun = some _ from rfl) mem_cons_self
  cases hfound
  exact hfollows

end Hypeterm.Relay
