import Hypeterm.Relay.DirtyOutput
import Hypeterm.Settings.Snapshot

/-! One output frame and a subscriber with nothing queued.  The frame limit of a publisher
and the byte bound of a subscriber come from two settings, which the combination check does
not compare. -/
namespace Hypeterm.Relay.IdleSubscriber

open Library List Function Option TerminalHandle
open Settings Keys
open Relay.Backpressure (Connection NegotiatedLimits Phase)

def mirrorReplayChunkBytes : String := "mirror.replay_chunk_bytes"
def mirrorSubscriberQueueMessages : String := "mirror.subscriber_queue_messages"
def mirrorSubscriberQueueBytes : String := "mirror.subscriber_queue_bytes"

def negotiated (snapshot : Values) : NegotiatedLimits :=
  ⟨Snapshot.u64 snapshot limitsMaxOutputFrameBytes,
    Snapshot.u64 snapshot limitsMaxUnackedOutputBytes⟩

def effective (limits : NegotiatedLimits) (snapshot : Values) : NegotiatedLimits :=
  ⟨min limits.maxFrameBytes (Snapshot.u64 snapshot limitsMaxOutputFrameBytes),
    min limits.maxUnackedBytes (Snapshot.u64 snapshot limitsMaxUnackedOutputBytes)⟩

def subscribeOp (values : Values) (fromOffset : Option Nat) : HandleOp :=
  .subscribe fromOffset (Snapshot.u64 values mirrorReplayChunkBytes)
    (Snapshot.u64 values mirrorSubscriberQueueMessages)
    (Snapshot.u64 values mirrorSubscriberQueueBytes)

/-- `created` is history: the subscribers of each terminal that were created under the
combination. -/
structure System where
  output : Backpressure.System
  created : Uuid → List Nat

def System.initial : System := ⟨Backpressure.System.initial, fun _ => []⟩

/-- `output` is anything at all: frames accepted under other limits and subscribers with
other bounds among them. -/
inductive Action where
  | subscribe (terminalId : Uuid) (fromOffset : Option Nat)
  | output (action : Backpressure.Action)

def createdBy (system : Backpressure.System) (terminalId : Uuid) (op : HandleOp) : List Nat :=
  match system.relay.resident terminalId with
  | some handle => (handle.subscribedBy op).map fun record => record.subscription.subscriberId
  | none => []

def step (values : Values) (system : System) : Action → Option System
  | .subscribe terminalId fromOffset =>
      let op := subscribeOp values fromOffset
      (Backpressure.step (Snapshot.replayCapacity values) system.output
        (.relay (.handle terminalId op))).map fun output =>
          { output
            created := Function.update system.created terminalId
              (system.created terminalId ++ createdBy system.output terminalId op) }
  | .output action =>
      (Backpressure.step (Snapshot.replayCapacity values) system.output action).map fun output =>
        { output, created := if action = .relay .crash then fun _ => [] else system.created }

/-- Its task is there and has taken everything, and no byte is counted as queued. -/
structure Idle (mailbox : Mailbox) : Prop where
  receiving : mailbox.channel.receiverAlive = true
  nothing : mailbox.channel.queue = []
  no_bytes : mailbox.queuedBytes = 0

structure Enqueued (handle after : TerminalHandle) (subscriber : Subscriber) (payload : Bytes) :
    Prop where
  registered : subscriber ∈ after.inner.subscribers
  queued : (after.mailboxes subscriber.id).channel.queue =
    [.output handle.inner.nextOffset payload]
  overflowed_eq : (after.mailboxes subscriber.id).overflowed =
    (handle.mailboxes subscriber.id).overflowed

/-- Each frame that `on_binary` takes under the limits of `values` and appends reaches every
subscriber that was created under `values` and is idle. -/
def KeepsIdle (values : Values) : Prop :=
  ∀ system actions, run (step values) System.initial actions = some system →
  ∀ deviceId connection frame atConnect handle subscriber nextOffset durableOffset,
    system.output.connections deviceId = some connection →
    connection.phase = .appending frame (effective (negotiated atConnect) values) →
    system.output.relay.resident frame.terminalId = some handle →
    frame.payload ≠ [] →
    (handle.append frame.expectedOffset frame.payload (Snapshot.replayCapacity values)).2 =
      .accepted nextOffset durableOffset →
    subscriber ∈ handle.inner.subscribers →
    subscriber.id ∈ system.created frame.terminalId →
    Idle (handle.mailboxes subscriber.id) →
    ∀ timedOut storageFailing next,
      step values system (.output (.proceed deviceId timedOut storageFailing)) = some next →
      ∃ after, next.output.relay.resident frame.terminalId = some after ∧
        Enqueued handle after subscriber frame.payload

/-- Ids are not used again, a subscriber is at most removed, and its channel keeps its
capacity. -/
structure Steady (before after : TerminalHandle) : Prop where
  next_le : before.inner.nextSubscriberId ≤ after.inner.nextSubscriberId
  subscribers : ∀ subscriber ∈ after.inner.subscribers,
    subscriber.id < before.inner.nextSubscriberId → subscriber ∈ before.inner.subscribers
  capacity_eq : ∀ subscriberId, subscriberId < before.inner.nextSubscriberId →
    (after.mailboxes subscriberId).channel.capacity =
      (before.mailboxes subscriberId).channel.capacity

variable (handle : TerminalHandle)

theorem Steady.refl : Steady handle handle :=
  ⟨Nat.le_refl _, fun _ member _ => member, fun _ _ => rfl⟩

theorem Steady.trans {first second third : TerminalHandle} (left : Steady first second)
    (right : Steady second third) : Steady first third where
  next_le := left.next_le.trans right.next_le
  subscribers := by
    intro subscriber member below
    have hsecond := right.subscribers subscriber member (below.trans_le left.next_le)
    exact left.subscribers subscriber hsecond below
  capacity_eq := by
    intro subscriberId below
    rw [right.capacity_eq subscriberId (below.trans_le left.next_le),
      left.capacity_eq subscriberId below]

theorem capacity_offer (event : MirrorEvent) (subscriber : Subscriber) (mailbox : Mailbox) :
    (offer event subscriber mailbox).1.channel.capacity = mailbox.channel.capacity := by
  unfold offer
  dsimp only
  split
  · rfl
  · cases hsend : mailbox.channel.trySend event with
    | ok channel =>
      obtain ⟨_, _, rfl⟩ := Channel.trySend_ok hsend
      rfl
    | full | closed => rfl

theorem capacity_offerAll (event : MirrorEvent) (subscribers : List Subscriber)
    (mailboxes : Nat → Mailbox) (subscriberId : Nat) :
    ((offerAll event subscribers mailboxes).1 subscriberId).channel.capacity =
      (mailboxes subscriberId).channel.capacity := by
  induction subscribers generalizing mailboxes with
  | nil => rfl
  | cons subscriber rest ih =>
    simp only [offerAll]
    rw [ih]
    by_cases hsame : subscriberId = subscriber.id
    · subst hsame
      rw [update_self, capacity_offer]
    · rw [update_of_ne hsame]

theorem Steady.fanOut (event : MirrorEvent) : Steady handle (handle.fanOut event) where
  next_le := Nat.le_refl _
  subscribers := by
    intro subscriber member _
    exact (mem_filter.mp member).1
  capacity_eq := by
    intro subscriberId _
    exact capacity_offerAll event _ _ subscriberId

theorem Steady.updateMailbox (subscriberId : Nat) {f : Mailbox → Mailbox}
    (keeps : ∀ mailbox, (f mailbox).channel.capacity = mailbox.channel.capacity) :
    Steady handle (handle.updateMailbox subscriberId f) where
  next_le := Nat.le_refl _
  subscribers := fun _ member _ => member
  capacity_eq := by
    intro other _
    simp only [TerminalHandle.updateMailbox]
    by_cases hsame : other = subscriberId
    · subst hsame
      rw [update_self, keeps]
    · rw [update_of_ne hsame]

theorem capacity_receive (mailbox : Mailbox) :
    mailbox.receive.channel.capacity = mailbox.channel.capacity := by
  unfold Mailbox.receive Channel.recv
  cases mailbox.channel.queue <;> rfl

def grown (handle : TerminalHandle) (payload : Bytes) (capacity : Nat) : TerminalHandle :=
  { handle with
    inner := { handle.inner with
      ring := ((handle.inner.ring.setCapacity capacity).1.append payload).1
      nextOffset := handle.inner.nextOffset + payload.length
      framesSinceCheckpoint := handle.inner.framesSinceCheckpoint + 1 } }

theorem accept_eq (payload : Bytes) (capacity : Nat) : handle.accept payload capacity =
      (grown handle payload capacity).fanOut (.output handle.inner.nextOffset payload) := rfl

theorem Steady.append (expectedOffset : Nat) (payload : Bytes)
    (capacity : Nat) : Steady handle (handle.append expectedOffset payload capacity).1 := by
  unfold TerminalHandle.append
  dsimp only
  split
  · exact .refl handle
  · split
    · exact .refl handle
    · split
      · exact ⟨Nat.le_refl _, fun _ member _ => member, fun _ _ => rfl⟩
      · have hfan := Steady.fanOut (grown handle payload capacity)
          (.output handle.inner.nextOffset payload)
        exact ⟨hfan.next_le, hfan.subscribers, hfan.capacity_eq⟩

variable {handle : TerminalHandle} {values : Values} {terminalId deviceId : Uuid} {capacity : Nat}
  {system next : Backpressure.System} {connection : Connection} {timedOut storageFailing : Bool}
  {action : Backpressure.Action} {frame : PublisherOutputFrame} {limits : NegotiatedLimits}
  {event : MirrorEvent} {subscriber : Subscriber} {payload : Bytes}

theorem Steady.subscribe {subscribed : TerminalHandle} {subscription : Subscription}
    {fromOffset : Option Nat} {chunkBytes queueMessages queueBytes : Nat}
    (ok : handle.subscribe fromOffset chunkBytes queueMessages queueBytes =
      .ok (subscribed, subscription)) : Steady handle subscribed := by
  unfold TerminalHandle.subscribe at ok
  dsimp only at ok
  split at ok
  · cases ok
  · cases ok
    refine ⟨Nat.le_succ _, ?_, ?_⟩
    · intro subscriber member below
      rcases mem_append.mp member with hold | hnew
      · exact hold
      · rw [mem_singleton.mp hnew] at below
        exact absurd below (Nat.lt_irrefl _)
    · intro subscriberId below
      dsimp only
      rw [update_of_ne (Nat.ne_of_lt below)]

theorem Steady.apply (handle : TerminalHandle) (op : HandleOp) :
    Steady handle (handle.apply op) := by
  cases op with
  | append expectedOffset payload capacity => exact .append handle expectedOffset payload capacity
  | shrinkToCapacity capacity =>
    simp only [TerminalHandle.apply, TerminalHandle.shrinkToCapacity]
    split
    · exact .refl handle
    · exact ⟨Nat.le_refl _, fun _ member _ => member, fun _ _ => rfl⟩
  | resize cols rows =>
    simp only [TerminalHandle.apply, TerminalHandle.resize]
    split
    · exact .refl handle
    · have hfan := Steady.fanOut
        { handle with inner := { handle.inner with cols := some cols, rows := some rows } }
        (.resize cols rows)
      exact ⟨hfan.next_le, hfan.subscribers, hfan.capacity_eq⟩
  | subscribe fromOffset chunkBytes queueMessages queueBytes =>
    simp only [TerminalHandle.apply]
    split
    · rename_i hok
      exact .subscribe hok
    · exact .refl handle
  | unsubscribe subscriberId =>
    refine ⟨Nat.le_refl _, ?_, fun _ _ => rfl⟩
    intro subscriber member _
    exact (mem_filter.mp member).1
  | beginClose reason =>
    simp only [TerminalHandle.apply, TerminalHandle.beginClose]
    split
    · exact .refl handle
    · exact ⟨Nat.le_refl _, fun _ member _ => member, fun _ _ => rfl⟩
  | terminateSubscribers termination =>
    refine ⟨Nat.le_refl _, ?_, ?_⟩
    · intro subscriber member
      cases member
    · intro subscriberId _
      simp only [TerminalHandle.apply, TerminalHandle.terminateSubscribers]
      split <;> rfl
  | receive subscriberId => exact .updateMailbox handle subscriberId capacity_receive
  | release subscriberId bytes =>
    exact .updateMailbox handle subscriberId (f := fun mailbox => mailbox.release bytes)
      fun _ => rfl
  | dropReceiver subscriberId =>
    exact .updateMailbox handle subscriberId (f := Mailbox.dropReceiver) fun _ => rfl
  | updateMetadata | nextInputSequence =>
    exact ⟨Nat.le_refl _, fun _ member _ => member, fun _ _ => rfl⟩

theorem Steady.advanceDurable (handle : TerminalHandle) (durableTarget : Nat) :
    Steady handle (handle.advanceDurable durableTarget) := by
  unfold TerminalHandle.advanceDurable
  split
  · have hfan := Steady.fanOut
      { handle with inner := { handle.inner with durableOffset := durableTarget } }
      (.durable durableTarget)
    exact ⟨hfan.next_le, hfan.subscribers, hfan.capacity_eq⟩
  · exact ⟨Nat.le_refl _, fun _ member _ => member, fun _ _ => rfl⟩

theorem Steady.commitDurable (handle : TerminalHandle) (durableTarget : Nat)
    (closed : Option String) : Steady handle (handle.commitDurable durableTarget closed) := by
  have hadvanced := Steady.advanceDurable handle durableTarget
  unfold TerminalHandle.commitDurable
  cases closed with
  | none => exact hadvanced
  | some reason =>
    have hfan := Steady.fanOut
      { handle.advanceDurable durableTarget with
        inner := { (handle.advanceDurable durableTarget).inner with lifecycle := .closed reason } }
      (.closed reason (handle.advanceDurable durableTarget).inner.nextOffset
        (handle.advanceDurable durableTarget).inner.durableOffset)
    exact hadvanced.trans ⟨hfan.next_le, hfan.subscribers, hfan.capacity_eq⟩

structure Created (values : Values) (handle : TerminalHandle) (created : List Nat) : Prop where
  below : ∀ subscriberId ∈ created, subscriberId < handle.inner.nextSubscriberId
  bound : ∀ subscriber ∈ handle.inner.subscribers, subscriber.id ∈ created →
    subscriber.maxQueuedBytes = Snapshot.u64 values mirrorSubscriberQueueBytes
  room : ∀ subscriberId ∈ created, 0 < (handle.mailboxes subscriberId).channel.capacity

theorem Created.nil (values : Values) (handle : TerminalHandle) : Created values handle [] := by
  constructor
  · intro subscriberId member
    cases member
  · intro subscriber _ member
    cases member
  · intro subscriberId member
    cases member

theorem Created.steady {before after : TerminalHandle} {created : List Nat}
    (kept : Created values before created) (steady : Steady before after) :
    Created values after created where
  below := by
    intro subscriberId member
    exact (kept.below subscriberId member).trans_le steady.next_le
  bound := by
    intro subscriber member hcreated
    have hbefore := steady.subscribers subscriber member (kept.below subscriber.id hcreated)
    exact kept.bound subscriber hbefore hcreated
  room := by
    intro subscriberId member
    rw [steady.capacity_eq subscriberId (kept.below subscriberId member)]
    exact kept.room subscriberId member

theorem Created.subscribe {created : List Nat}
    (kept : Created values handle created) (roster : Roster handle) (fromOffset : Option Nat) :
    Created values (handle.apply (subscribeOp values fromOffset))
      (created ++ (handle.subscribedBy (subscribeOp values fromOffset)).map
        fun record => record.subscription.subscriberId) := by
  have hsteady := kept.steady (Steady.apply handle (subscribeOp values fromOffset))
  unfold subscribeOp at hsteady ⊢
  simp only [TerminalHandle.apply, subscribedBy] at hsteady ⊢
  cases hok : handle.subscribe fromOffset (Snapshot.u64 values mirrorReplayChunkBytes)
      (Snapshot.u64 values mirrorSubscriberQueueMessages)
      (Snapshot.u64 values mirrorSubscriberQueueBytes) with
  | error =>
    simp only [hok, map_nil, append_nil] at hsteady ⊢
    exact hsteady
  | ok made =>
    obtain ⟨subscribed, subscription⟩ := made
    simp only [hok, map_cons, map_nil] at hsteady ⊢
    unfold TerminalHandle.subscribe at hok
    dsimp only at hok
    split at hok
    · cases hok
    · cases hok
      constructor
      · intro subscriberId member
        rcases mem_append.mp member with hold | hnew
        · exact hsteady.below subscriberId hold
        · rw [mem_singleton.mp hnew]
          exact Nat.lt_succ_self _
      · intro subscriber member hcreated
        rcases mem_append.mp member with hold | hnew
        · rcases mem_append.mp hcreated with hbefore | hsame
          · exact kept.bound subscriber hold hbefore
          · have hold := roster.below subscriber.id (List.mem_map_of_mem hold)
            rw [mem_singleton.mp hsame] at hold
            exact absurd hold (Nat.lt_irrefl _)
        · rw [mem_singleton.mp hnew]
      · intro subscriberId member
        rcases mem_append.mp member with hold | hnew
        · exact hsteady.room subscriberId hold
        · rw [mem_singleton.mp hnew]
          dsimp only
          rw [update_self]
          exact Nat.lt_of_lt_of_le Nat.one_pos (Nat.le_max_right _ _)

def taken? : Phase → Option (PublisherOutputFrame × NegotiatedLimits)
  | .lookingUp frame limits | .holding frame limits | .windowFull frame limits
  | .waiting frame limits _ | .rechecking frame limits | .appending frame limits =>
      some (frame, limits)
  | .ready | .closed => none

structure Inv (values : Values) (system : System) : Prop where
  roster : ∀ terminalId handle, system.output.relay.resident terminalId = some handle →
    Roster handle
  created : ∀ terminalId handle, system.output.relay.resident terminalId = some handle →
    Created values handle (system.created terminalId)
  absent : ∀ terminalId, system.output.relay.resident terminalId = none →
    system.created terminalId = []
  within : ∀ deviceId connection, system.output.connections deviceId = some connection →
    ∀ frame limits, taken? connection.phase = some (frame, limits) →
      frame.payload.length ≤ limits.maxFrameBytes

theorem Inv.initial (values : Values) : Inv values System.initial where
  roster := by
    intro terminalId handle found
    cases found
  created := by
    intro terminalId handle found
    cases found
  absent := fun _ _ => rfl
  within := by
    intro deviceId connection found
    cases found

theorem resident_load_fresh {system : Relay.System} (missing : system.resident terminalId = none)
    (found : (system.load terminalId capacity).resident terminalId = some handle) :
    handle.inner.subscribers = [] := by
  unfold System.load at found
  rw [missing] at found
  cases hrow : Db.getTerminal system.store terminalId with
  | none =>
    rw [hrow] at found
    cases missing.symm.trans found
  | some row =>
    rw [hrow] at found
    dsimp only at found
    split at found
    · unfold System.resident at missing found
      rw [Library.lookup_append, missing, none_or] at found
      rw [mem_singleton.mp (mem_of_lookup found)]
      rfl
    · cases missing.symm.trans found

theorem handle_step {system next : Relay.System} {action : Relay.Action}
    {after : TerminalHandle} (taken : Relay.step system action = some next)
    (found : next.resident terminalId = some after) :
    (∃ before, system.resident terminalId = some before ∧ Steady before after ∧
        (Roster before → Roster after)) ∨
      system.resident terminalId = none ∧ after.inner.subscribers = [] := by
  by_cases hcrash : action = .crash
  · subst hcrash
    cases taken
    cases found
  · rcases resident_of_next taken found with ⟨before, hbefore⟩ | ⟨capacity, rfl, rfl⟩
    · left
      obtain ⟨later, hlater, hlives⟩ := step_lives taken hcrash hbefore
      cases found.symm.trans hlater
      refine ⟨before, hbefore, ?_⟩
      cases hlives with
      | same hafter =>
        rw [hafter]
        exact ⟨.refl before, id⟩
      | apply op hafter =>
        rw [hafter]
        exact ⟨.apply before op, fun roster => roster.apply op⟩
      | publish checkpoint rest _ _ _ hafter =>
        rw [hafter]
        exact ⟨.commitDurable before _ _, fun roster => roster.commitDurable _ _⟩
    · cases hbefore : system.resident terminalId with
      | some before =>
        cases found.symm.trans (resident_load hbefore)
        exact .inl ⟨after, rfl, .refl after, id⟩
      | none => exact .inr ⟨rfl, resident_load_fresh hbefore found⟩

theorem Roster.of_none (none : handle.inner.subscribers = []) : Roster handle := by
  have hids : handle.subscriberIds = [] := by rw [subscriberIds, none, map_nil]
  constructor
  · rw [hids]
    exact nodup_nil
  · rw [hids]
    intro subscriberId member
    cases member

/-- What a section of `on_binary` changes: its own connection, which keeps its frame or lets
it go, and the relay, by at most one step. -/
structure Section (before after : Backpressure.System) (deviceId : Uuid)
    (connection changed : Connection) : Prop where
  connections_eq : after.connections = Function.update before.connections deviceId (some changed)
  taken_eq : taken? changed.phase = none ∨ taken? changed.phase = taken? connection.phase
  relay : after.relay = before.relay ∨ ∃ action,
    Relay.step before.relay action = some after.relay ∧ action ≠ .crash

theorem Section.set {changed : Connection}
    (taken_eq : taken? changed.phase = none ∨ taken? changed.phase = taken? connection.phase) :
    Section system (system.setConnection deviceId changed) deviceId connection changed :=
  ⟨rfl, taken_eq, .inl rfl⟩

theorem proceed_section
    (taken : system.proceed capacity deviceId connection timedOut storageFailing = some next) :
    ∃ changed, Section system next deviceId connection changed := by
  unfold Backpressure.System.proceed at taken
  split at taken
  · cases taken
  · cases taken
  · rename_i frame limits hphase
    cases taken
    have hload : Relay.step system.relay (.load frame.terminalId capacity) =
      some (system.relay.load frame.terminalId capacity) := rfl
    unfold Backpressure.System.lookUp
    dsimp only
    split
    · exact ⟨_, rfl, .inr (by rw [hphase]; rfl), .inr ⟨_, hload, by simp⟩⟩
    · exact ⟨_, rfl, .inl rfl, .inr ⟨_, hload, by simp⟩⟩
  · rename_i frame limits hphase
    obtain ⟨handle, _, rfl⟩ := map_eq_some_iff.mp taken
    unfold Backpressure.System.checkDirty
    split <;> exact ⟨_, .set (Or.inr (by rw [hphase]; rfl))⟩
  · rename_i frame limits hphase
    obtain ⟨handle, _, rfl⟩ := map_eq_some_iff.mp taken
    exact ⟨_, .set (Or.inr (by rw [hphase]; rfl))⟩
  · rename_i frame limits target hphase
    obtain ⟨handle, _, hwait⟩ := bind_eq_some_iff.mp taken
    split at hwait
    · cases hwait
      exact ⟨_, .set (Or.inr (by rw [hphase]; rfl))⟩
    · cases hwait
  · rename_i frame limits hphase
    obtain ⟨handle, _, rfl⟩ := map_eq_some_iff.mp taken
    unfold Backpressure.System.checkDirty
    split
    · exact ⟨_, .set (Or.inr (by rw [hphase]; rfl))⟩
    · exact ⟨_, .set (Or.inl rfl)⟩
  · rename_i frame limits hphase
    obtain ⟨handle, hfound, rfl⟩ := map_eq_some_iff.mp taken
    have hstep : Relay.step system.relay (.handle frame.terminalId
        (.append frame.expectedOffset frame.payload capacity)) =
        some (system.relay.applyOp handle (.append frame.expectedOffset frame.payload capacity)) := by
      simp only [Relay.step, hfound, map_some]
    unfold Backpressure.System.append
    split <;> exact ⟨_, rfl, .inl rfl, .inr ⟨_, hstep, by simp⟩⟩

/-- A frame that `on_binary` goes on with is within the limits it was taken under. -/
theorem onBinary_section (system : Backpressure.System) (deviceId : Uuid) (connection : Connection)
    (bytes : Bytes) (limits : NegotiatedLimits) :
    (system.onBinary deviceId connection bytes limits).relay = system.relay ∧
      ∃ changed, (system.onBinary deviceId connection bytes limits).connections =
          Function.update system.connections deviceId (some changed) ∧
        ∀ frame others, taken? changed.phase = some (frame, others) →
          frame.payload.length ≤ others.maxFrameBytes := by
  unfold Backpressure.System.onBinary
  split
  · refine ⟨rfl, _, rfl, ?_⟩
    intro frame others htaken
    cases htaken
  · dsimp only
    split
    · split
      all_goals
        refine ⟨rfl, _, rfl, ?_⟩
        intro frame others htaken
        cases htaken
    · rename_i frame _ hlength
      refine ⟨rfl, _, rfl, ?_⟩
      intro other others htaken
      cases htaken
      exact Nat.le_of_not_lt hlength

theorem relay_of_step (taken : Backpressure.step capacity system action = some next) :
    next.relay = system.relay ∨ ∃ relayAction,
      Relay.step system.relay relayAction = some next.relay ∧
        (relayAction = .crash → action = .relay .crash) := by
  cases action with
  | relay relayAction =>
    simp only [Backpressure.step] at taken
    split at taken
    · obtain ⟨relay, hrelay, rfl⟩ := map_eq_some_iff.mp taken
      right
      refine ⟨relayAction, ?_, fun hcrash => by rw [hcrash]⟩
      rw [Backpressure.afterRelay_relay, hrelay]
    · cases taken
  | connect deviceId =>
    simp only [Backpressure.step] at taken
    split at taken
    · cases taken
      exact .inl rfl
    · cases taken
  | disconnect deviceId =>
    cases taken
    exact .inl rfl
  | onBinary deviceId bytes limits =>
    simp only [Backpressure.step] at taken
    split at taken
    · split at taken
      · cases taken
        exact .inl (onBinary_section _ _ _ _ _).1
      · cases taken
    · cases taken
  | proceed deviceId timedOut storageFailing =>
    obtain ⟨connection, _, hproceed⟩ := bind_eq_some_iff.mp taken
    obtain ⟨changed, hsection⟩ := proceed_section hproceed
    refine hsection.relay.imp_right ?_
    rintro ⟨relayAction, hstep, hrunning⟩
    exact ⟨relayAction, hstep, fun hcrash => absurd hcrash hrunning⟩

theorem taken_of_step (taken : Backpressure.step capacity system action = some next)
    (found : next.connections deviceId = some connection)
    (carries : taken? connection.phase = some (frame, limits)) :
    (∃ before, system.connections deviceId = some before ∧
        taken? before.phase = some (frame, limits)) ∨
      frame.payload.length ≤ limits.maxFrameBytes := by
  cases action with
  | relay relayAction =>
    simp only [Backpressure.step] at taken
    split at taken
    · obtain ⟨relay, hrelay, rfl⟩ := map_eq_some_iff.mp taken
      by_cases hcrash : relayAction = .crash
      · subst hcrash
        cases found
      · rw [Backpressure.connections_afterRelay relay hcrash] at found
        exact .inl ⟨connection, found, carries⟩
    · cases taken
  | connect other =>
    simp only [Backpressure.step] at taken
    split at taken
    · cases taken
      simp only [Backpressure.System.setConnection, update_apply] at found
      split at found
      · cases found
        cases carries
      · exact .inl ⟨connection, found, carries⟩
    · cases taken
  | disconnect other =>
    cases taken
    simp only [update_apply] at found
    split at found
    · cases found
    · exact .inl ⟨connection, found, carries⟩
  | onBinary other bytes limits' =>
    simp only [Backpressure.step] at taken
    split at taken
    · split at taken
      · cases taken
        obtain ⟨_, changed, hconnections, hwithin⟩ := onBinary_section system other _ bytes limits'
        rw [hconnections, update_apply] at found
        split at found
        · cases found
          exact .inr (hwithin frame limits carries)
        · exact .inl ⟨connection, found, carries⟩
      · cases taken
    · cases taken
  | proceed other timedOut storageFailing =>
    obtain ⟨before, hbefore, hproceed⟩ := bind_eq_some_iff.mp taken
    obtain ⟨changed, hsection⟩ := proceed_section hproceed
    rw [hsection.connections_eq, update_apply] at found
    split at found
    · rename_i hsame
      subst hsame
      cases found
      rcases hsection.taken_eq with hnone | hsame
      · cases hnone.symm.trans carries
      · exact .inl ⟨before, hbefore, hsame.symm.trans carries⟩
    · exact .inl ⟨connection, found, carries⟩

theorem Inv.withinStep {system : System} (inv : Inv values system)
    (taken : Backpressure.step capacity system.output action = some next) :
    ∀ deviceId connection, next.connections deviceId = some connection →
      ∀ frame limits, taken? connection.phase = some (frame, limits) →
        frame.payload.length ≤ limits.maxFrameBytes := by
  intro deviceId connection found frame limits carries
  rcases taken_of_step taken found carries with ⟨before, hbefore, hcarries⟩ | hwithin
  · exact inv.within deviceId before hbefore frame limits hcarries
  · exact hwithin

theorem Inv.output {system : System} (inv : Inv values system)
    (taken : Backpressure.step capacity system.output action = some next) :
    Inv values
      { output := next
        created := if action = .relay .crash then fun _ => [] else system.created } := by
  have hhandle : ∀ terminalId after, next.relay.resident terminalId = some after →
      Roster after ∧ Created values after (system.created terminalId) := by
    intro terminalId after found
    have hkept : (∃ before, system.output.relay.resident terminalId = some before ∧
        Steady before after ∧ (Roster before → Roster after)) ∨
        system.output.relay.resident terminalId = none ∧ after.inner.subscribers = [] := by
      rcases relay_of_step taken with hsame | ⟨relayAction, hstep, _⟩
      · rw [hsame] at found
        exact .inl ⟨after, found, .refl after, id⟩
      · exact handle_step hstep found
    rcases hkept with ⟨before, hbefore, hsteady, hroster⟩ | ⟨hmissing, hnone⟩
    · exact ⟨hroster (inv.roster terminalId before hbefore),
        (inv.created terminalId before hbefore).steady hsteady⟩
    · rw [inv.absent terminalId hmissing]
      exact ⟨Roster.of_none hnone, Created.nil values after⟩
  constructor
  · exact fun terminalId after found => (hhandle terminalId after found).1
  · intro terminalId after found
    split
    · exact Created.nil values after
    · exact (hhandle terminalId after found).2
  · intro terminalId hmissing
    split
    · rfl
    · rename_i hrunning
      apply inv.absent
      cases hbefore : system.output.relay.resident terminalId with
      | none => rfl
      | some before =>
        rcases relay_of_step taken with hsame | ⟨relayAction, hstep, hcrash⟩
        · rw [hsame, hbefore] at hmissing
          cases hmissing
        · obtain ⟨after, hafter, _⟩ := step_lives hstep (fun heq => hrunning (hcrash heq)) hbefore
          cases hmissing.symm.trans hafter
  · exact inv.withinStep taken

theorem Inv.subscribe {system next : System} {fromOffset : Option Nat} (inv : Inv values system)
    (taken : step values system (.subscribe terminalId fromOffset) = some next) :
    Inv values next := by
  obtain ⟨output, houtput, rfl⟩ := map_eq_some_iff.mp taken
  have hplain := inv.output houtput
  rw [if_neg (by simp)] at hplain
  obtain ⟨handle, hfound, hrelay⟩ : ∃ handle,
      system.output.relay.resident terminalId = some handle ∧
        output.relay = system.output.relay.applyOp handle (subscribeOp values fromOffset) := by
    simp only [Backpressure.step] at houtput
    split at houtput
    · obtain ⟨relay, hstep, rfl⟩ := map_eq_some_iff.mp houtput
      obtain ⟨handle, hfound, rfl⟩ := map_eq_some_iff.mp hstep
      exact ⟨handle, hfound, Backpressure.afterRelay_relay _ _ _⟩
    · cases houtput
  have hid := terminalId_of_resident hfound
  refine ⟨hplain.roster, ?_, ?_, hplain.within⟩
  · intro other after found
    dsimp only at found ⊢
    by_cases hsame : other = terminalId
    · subst hsame
      rw [hrelay, resident_applyOp, if_pos hid.symm, hid, hfound, map_some] at found
      cases found
      rw [update_self, createdBy, hfound]
      exact (inv.created other handle hfound).subscribe (inv.roster other handle hfound) fromOffset
    · rw [update_of_ne hsame]
      exact hplain.created other after found
  · intro other hmissing
    dsimp only at hmissing ⊢
    rw [hrelay, resident_applyOp] at hmissing
    split at hmissing
    · rw [hid, hfound] at hmissing
      cases hmissing
    · rename_i hother
      rw [update_of_ne (fun heq => hother (heq.trans hid.symm))]
      exact inv.absent other hmissing

theorem Inv.step {system next : System} {action : Action}
    (inv : Inv values system) (taken : IdleSubscriber.step values system action = some next) :
    Inv values next := by
  cases action with
  | subscribe terminalId fromOffset => exact inv.subscribe taken
  | output action =>
    obtain ⟨output, houtput, rfl⟩ := map_eq_some_iff.mp taken
    exact inv.output houtput

theorem offer_idle {mailbox : Mailbox} (idle : Idle mailbox) (room : 0 < mailbox.channel.capacity)
    (fits : event.queueCost ≤ subscriber.maxQueuedBytes) :
    (offer event subscriber mailbox).2 = false ∧
      (offer event subscriber mailbox).1.channel.queue = [event] ∧
      (offer event subscriber mailbox).1.overflowed = mailbox.overflowed := by
  have hcost : ¬ subscriber.maxQueuedBytes < mailbox.queuedBytes + event.queueCost := by
    rw [idle.no_bytes]
    omega
  have hsend : mailbox.channel.trySend event =
      .ok { mailbox.channel with
        queue := mailbox.channel.queue ++ [event], sent := mailbox.channel.sent ++ [event] } := by
    unfold Channel.trySend
    rw [if_neg (by simp [idle.receiving]), if_neg (by simpa [idle.nothing] using Nat.ne_of_gt room)]
  unfold offer
  rw [if_neg hcost, hsend]
  exact ⟨rfl, by rw [idle.nothing, nil_append], rfl⟩

theorem offer_over (mailbox : Mailbox) (exceeded : subscriber.maxQueuedBytes < event.queueCost) :
    (offer event subscriber mailbox).2 = true := by
  unfold offer
  rw [if_pos (by omega)]

theorem fanOut_idle (roster : Roster handle) (member : subscriber ∈ handle.inner.subscribers)
    (idle : Idle (handle.mailboxes subscriber.id))
    (room : 0 < (handle.mailboxes subscriber.id).channel.capacity)
    (fits : event.queueCost ≤ subscriber.maxQueuedBytes) :
    subscriber ∈ (handle.fanOut event).inner.subscribers ∧
      ((handle.fanOut event).mailboxes subscriber.id).channel.queue = [event] ∧
      ((handle.fanOut event).mailboxes subscriber.id).overflowed =
        (handle.mailboxes subscriber.id).overflowed := by
  obtain ⟨hkept, hqueue, hoverflowed⟩ := offer_idle idle room fits
  obtain ⟨hmailbox, hdropped⟩ := offerAll_member event roster.nodup member handle.mailboxes
  refine ⟨?_, ?_, ?_⟩
  · refine mem_filter.mpr ⟨member, ?_⟩
    rw [hkept] at hdropped
    simpa using hdropped
  · exact (congrArg (fun mailbox => mailbox.channel.queue) hmailbox).trans hqueue
  · exact (congrArg Mailbox.overflowed hmailbox).trans hoverflowed

theorem append_accepted {expectedOffset : Nat}
    {nextOffset durableOffset : Nat} (nonempty : payload ≠ [])
    (accepted : (handle.append expectedOffset payload capacity).2 =
      .accepted nextOffset durableOffset) :
    (handle.append expectedOffset payload capacity).1 = handle.accept payload capacity := by
  unfold TerminalHandle.append at accepted ⊢
  dsimp only at accepted ⊢
  split
  · rename_i hclosed
    rw [if_pos hclosed] at accepted
    cases accepted
  · rename_i hopen
    rw [if_neg hopen] at accepted
    split
    · rename_i hmismatch
      rw [if_pos hmismatch] at accepted
      cases accepted
    · rw [if_neg (by simpa using nonempty)]

section

variable (roster : Roster handle) (member : subscriber ∈ handle.inner.subscribers)
include roster member

theorem accept_idle (idle : Idle (handle.mailboxes subscriber.id))
    (room : 0 < (handle.mailboxes subscriber.id).channel.capacity)
    (fits : payload.length ≤ subscriber.maxQueuedBytes) :
    Enqueued handle (handle.accept payload capacity) subscriber payload := by
  have hroster : Roster (grown handle payload capacity) := ⟨roster.nodup, roster.below⟩
  have hfits : (MirrorEvent.output handle.inner.nextOffset payload).queueCost ≤
      subscriber.maxQueuedBytes := fits
  obtain ⟨hregistered, hqueued, hoverflowed⟩ := fanOut_idle hroster member idle room hfits
  exact ⟨hregistered, hqueued, hoverflowed⟩

theorem fanOut_over (exceeded : subscriber.maxQueuedBytes < event.queueCost) :
    subscriber ∉ (handle.fanOut event).inner.subscribers := by
  have hdropped := (offerAll_member event roster.nodup member handle.mailboxes).2.mpr
    (offer_over (handle.mailboxes subscriber.id) exceeded)
  intro hkept
  have hstayed := (mem_filter.mp hkept).2
  simp [hdropped] at hstayed

theorem accept_over (exceeded : subscriber.maxQueuedBytes < payload.length) :
    subscriber ∉ (handle.accept payload capacity).inner.subscribers := by
  have hroster : Roster (grown handle payload capacity) := ⟨roster.nodup, roster.below⟩
  rw [accept_eq]
  exact fanOut_over hroster member exceeded

end

theorem resident_append


    (phase_eq : connection.phase = .appending frame limits)
    (found : system.relay.resident frame.terminalId = some handle)
    (taken : system.proceed capacity deviceId connection timedOut storageFailing = some next) :
    next.relay.resident frame.terminalId =
      some (handle.append frame.expectedOffset frame.payload capacity).1 := by
  have hid := terminalId_of_resident found
  have happlied : (system.relay.applyOp handle
      (.append frame.expectedOffset frame.payload capacity)).resident frame.terminalId =
        some (handle.append frame.expectedOffset frame.payload capacity).1 := by
    rw [resident_applyOp, if_pos hid.symm, hid, found]
    rfl
  unfold Backpressure.System.proceed at taken
  rw [phase_eq] at taken
  dsimp only at taken
  rw [found, map_some] at taken
  cases taken
  unfold Backpressure.System.append
  split <;> exact happlied

theorem keepsIdle_of_le (enough : Snapshot.u64 values limitsMaxOutputFrameBytes ≤
      Snapshot.u64 values mirrorSubscriberQueueBytes) : KeepsIdle values := by
  intro system actions taken deviceId connection frame atConnect handle subscriber nextOffset
    durableOffset hconnection hphase hfound nonempty accepted member hcreated idle timedOut
    storageFailing next hstep
  have inv : Inv values system :=
    run_invariant (fun _ _ _ before moved => before.step moved) (Inv.initial values) taken
  have hkept := inv.created _ handle hfound
  have hwithin : frame.payload.length ≤ (effective (negotiated atConnect) values).maxFrameBytes :=
    inv.within deviceId connection hconnection frame _ (by rw [hphase]; rfl)
  have hfits : frame.payload.length ≤ subscriber.maxQueuedBytes := by
    rw [hkept.bound subscriber member hcreated]
    exact hwithin.trans ((Nat.min_le_right _ _).trans enough)
  obtain ⟨output, houtput, rfl⟩ := map_eq_some_iff.mp hstep
  obtain ⟨before, hbefore, hproceed⟩ := bind_eq_some_iff.mp houtput
  cases hconnection.symm.trans hbefore
  refine ⟨_, resident_append hphase hfound hproceed, ?_⟩
  rw [append_accepted nonempty accepted]
  exact accept_idle (inv.roster _ handle hfound) member idle
    (hkept.room subscriber.id hcreated) hfits

/-- The limits that the publisher of the run below connects and stays under. -/
def agreed (values : Values) : NegotiatedLimits := effective (negotiated values) values

/-- A terminal is opened and loaded, a mirror task subscribes and the publisher connects. -/
def watchedRun (values : Values) : List Action :=
  [.output (.relay (.insertTerminal 7 1 "owner" "shell" "shell" none none none true)),
    .output (.relay (.load 7 (Snapshot.replayCapacity values))), .subscribe 7 none,
    .output (.connect 1)]

/-- A frame at the limit goes through the checks of `on_binary` up to the append. -/
def fullFrameRun (values : Values) : List Action :=
  let payload : Bytes :=
    List.replicate (Snapshot.u64 values limitsMaxOutputFrameBytes) 0
  watchedRun values ++
    [.output (.onBinary 1 (encodePublisherFrame 7 0 payload) (agreed values)),
      .output (.proceed 1 false false), .output (.proceed 1 false false)]

def fullFrame (values : Values) : PublisherOutputFrame :=
  ⟨7, 0, List.replicate (Snapshot.u64 values limitsMaxOutputFrameBytes) 0⟩

def openedRow : Db.TerminalRow :=
  ⟨7, 1, "owner", "shell", "shell", .opened, none, none, none, true, none, 0, 0⟩

def watchedHandle (values : Values) : TerminalHandle :=
  (fromRow openedRow (Snapshot.replayCapacity values) []).apply
    (subscribeOp values none)

def watchedRelay (values : Values) : Relay.System :=
  ((Relay.System.initial.insertTerminal 7 1 "owner" "shell" "shell" none none none true).load 7
    (Snapshot.replayCapacity values)).applyOp
    (fromRow openedRow (Snapshot.replayCapacity values) []) (subscribeOp values none)

theorem resident_watchedRelay (values : Values) :
    (watchedRelay values).resident 7 = some (watchedHandle values) := rfl

theorem load_watchedRelay (values : Values) (capacity : Nat) :
    (watchedRelay values).load 7 capacity = watchedRelay values := rfl

def connected (values : Values) (phase : Phase) : System where
  output :=
    { relay := watchedRelay values
      connections := Function.update (fun _ => none) 1 (some ⟨0, 0, 0, [], phase⟩)
      oversized := fun _ => none }
  created := Function.update (fun _ => []) 7 [1]

theorem setConnection_connected (values : Values) (phase phase' : Phase) :
    (connected values phase).output.setConnection 1 ⟨0, 0, 0, [], phase'⟩ =
      (connected values phase').output := by
  simp only [connected, Backpressure.System.setConnection, update_idem]

theorem payload_fullFrame (values : Values) :
    (fullFrame values).payload.length = (agreed values).maxFrameBytes := by
  simp only [fullFrame, agreed, effective, negotiated, length_replicate, Nat.min_self]

theorem onBinary_fullFrame (values : Values) :
    (connected values .ready).output.onBinary 1 ⟨0, 0, 0, [], .ready⟩
        (encodePublisherFrame 7 0 (fullFrame values).payload) (agreed values) =
      (connected values (.lookingUp (fullFrame values) (agreed values))).output := by
  unfold Backpressure.System.onBinary
  rw [decodePublisherFrame_encode (Nat.two_pow_pos 64) 7 (fullFrame values).payload]
  dsimp only
  rw [if_neg (by rw [payload_fullFrame]; exact Nat.lt_irrefl _)]
  exact setConnection_connected values _ _

theorem lookUp_own (loaded : system.relay.load frame.terminalId capacity = system.relay)
    (found : system.relay.resident frame.terminalId = some handle)
    (own : handle.deviceId = deviceId) :
    system.lookUp capacity deviceId connection frame limits =
      system.setConnection deviceId { connection with phase := .holding frame limits } := by
  unfold Backpressure.System.lookUp
  rw [loaded]
  dsimp only
  rw [found]
  exact if_pos (decide_eq_true own)

theorem checkDirty_fullFrame (values : Values) (full : Connection) :
    (connected values (.holding (fullFrame values) (agreed values))).output.checkDirty
        (Snapshot.replayCapacity values) 1
        ⟨0, 0, 0, [], .holding (fullFrame values) (agreed values)⟩ (fullFrame values)
        (agreed values) (watchedHandle values) full =
      (connected values (.appending (fullFrame values) (agreed values))).output := by
  have hclean : (watchedHandle values).dirtyBytes ≤ Backpressure.targetDirtyHeadroom
      (Snapshot.replayCapacity values) (agreed values) (fullFrame values) := Nat.zero_le _
  exact (if_pos hclean).trans (setConnection_connected values _ _)

theorem step_proceed {phase : Phase}
    (moved : (connected values phase).output.proceed (Snapshot.replayCapacity values) 1
      ⟨0, 0, 0, [], phase⟩ timedOut storageFailing = some next) :
    step values (connected values phase) (.output (.proceed 1 timedOut storageFailing)) =
      some ⟨next, (connected values phase).created⟩ := by
  have hfound : (connected values phase).output.connections 1 = some ⟨0, 0, 0, [], phase⟩ := rfl
  simp only [step, Backpressure.step, hfound, bind_some, moved, map_some]
  rfl

theorem run_watchedRun (values : Values) :
    run (step values) System.initial (watchedRun values) = some (connected values .ready) := by
  have hload : step values ⟨⟨Relay.System.initial.insertTerminal 7 1 "owner" "shell" "shell" none
      none none true, fun _ => none, fun _ => none⟩, fun _ => []⟩
      (.output (.relay (.load 7 (Snapshot.replayCapacity values)))) =
      some ⟨⟨(Relay.System.initial.insertTerminal 7 1 "owner" "shell" "shell" none none none
        true).load 7 (Snapshot.replayCapacity values), fun _ => none, fun _ => none⟩,
        fun _ => []⟩ := by
    simp only [step, Backpressure.step, Backpressure.permitted, decide_true, if_true]
    rfl
  exact run_cons_eq_some.mpr ⟨_, rfl, run_cons_eq_some.mpr ⟨_, hload,
    run_cons_eq_some.mpr ⟨_, rfl, run_cons_eq_some.mpr ⟨_, rfl, rfl⟩⟩⟩⟩

theorem run_fullFrameRun (values : Values) :
    run (step values) System.initial (fullFrameRun values) =
      some (connected values (.appending (fullFrame values) (agreed values))) := by
  refine run_append (run_watchedRun values) ?_
  refine run_cons_eq_some.mpr ⟨connected values (.lookingUp (fullFrame values) (agreed values)),
    ?_, run_cons_eq_some.mpr ⟨connected values (.holding (fullFrame values) (agreed values)), ?_,
      run_cons_eq_some.mpr ⟨_, ?_, rfl⟩⟩⟩
  · exact congrArg (fun output => some (⟨output, (connected values .ready).created⟩ : System))
      (onBinary_fullFrame values)
  · apply step_proceed
    exact congrArg some ((lookUp_own (load_watchedRelay values _) (resident_watchedRelay values)
      (show (watchedHandle values).deviceId = 1 from rfl)).trans
        (setConnection_connected values _ _))
  · apply step_proceed
    exact congrArg some (checkDirty_fullFrame values _)

theorem append_fullFrame (nonempty : (fullFrame values).payload ≠ []) :
    ((watchedHandle values).append (fullFrame values).expectedOffset (fullFrame values).payload
      (Snapshot.replayCapacity values)).2 = .accepted (0 + (fullFrame values).payload.length) 0 := by
  have hlifecycle : ¬ (watchedHandle values).inner.lifecycle ≠ .opened := not_not_intro rfl
  have hexpected : ¬ (fullFrame values).expectedOffset ≠ (watchedHandle values).inner.nextOffset :=
    not_not_intro rfl
  unfold TerminalHandle.append
  rw [if_neg hlifecycle, if_neg hexpected, if_neg (by simpa using nonempty)]
  rfl

theorem le_of_keepsIdle (keeps : KeepsIdle values) : Snapshot.u64 values limitsMaxOutputFrameBytes ≤
      Snapshot.u64 values mirrorSubscriberQueueBytes := by
  by_contra hover
  have hlength : (fullFrame values).payload.length =
      Snapshot.u64 values limitsMaxOutputFrameBytes := length_replicate
  have hnonempty : (fullFrame values).payload ≠ [] := length_pos_iff.mp (by omega)
  have haccepted := append_fullFrame hnonempty
  have hmember : (⟨1, Snapshot.u64 values mirrorSubscriberQueueBytes⟩ : Subscriber) ∈
      (watchedHandle values).inner.subscribers := mem_singleton_self _
  have hproceed : (connected values (.appending (fullFrame values) (agreed values))).output.proceed
      (Snapshot.replayCapacity values) 1
      ⟨0, 0, 0, [], .appending (fullFrame values) (agreed values)⟩ false false =
        some ((connected values (.appending (fullFrame values) (agreed values))).output.append
          (Snapshot.replayCapacity values) 1
          ⟨0, 0, 0, [], .appending (fullFrame values) (agreed values)⟩ (fullFrame values)
          (watchedHandle values)) := rfl
  obtain ⟨after, hafter, henqueued⟩ := keeps _ _ (run_fullFrameRun values) 1 _ (fullFrame values)
    values (watchedHandle values) _ _ _ rfl rfl (resident_watchedRelay values) hnonempty haccepted
    hmember (mem_singleton_self 1) ⟨rfl, rfl, rfl⟩ false false _ (step_proceed hproceed)
  cases hafter.symm.trans (resident_append rfl (resident_watchedRelay values) hproceed)
  have hregistered := henqueued.registered
  rw [append_accepted hnonempty haccepted] at hregistered
  have hroster : Roster (watchedHandle values) :=
    (Roster.of_none rfl).apply (subscribeOp values none)
  exact accept_over hroster hmember (by dsimp only; omega) hregistered

/-- The combination check compares the frame limit with the publisher's own window only. -/
theorem idle_subscriber_kept_iff (values : Values) : KeepsIdle values ↔
      Snapshot.u64 values limitsMaxOutputFrameBytes ≤
        Snapshot.u64 values mirrorSubscriberQueueBytes :=
  ⟨le_of_keepsIdle, keepsIdle_of_le⟩

/-- The declared defaults, but for the smallest queue bound that is allowed. -/
def narrowQueue : Values :=
  Values.insert (fun name => (findDef name).map SettingDef.defaultValue)
    mirrorSubscriberQueueBytes (.int 65536)

theorem narrow_queue_drops_idle :
    (∀ definition ∈ defs, ∃ value, narrowQueue definition.name = some value ∧
        validateValue definition value = .ok ()) ∧
      validateCombination (fun _ => false) narrowQueue = .ok () ∧ ¬ KeepsIdle narrowQueue := by
  have hnarrow : ∀ definition ∈ defs, definition.name = mirrorSubscriberQueueBytes →
      validateValue definition (.int 65536) = .ok () := by
    decide +kernel
  have hcombination : validateCombination (fun _ => false) narrowQueue = .ok () := by
    decide
  have hover : ¬ Snapshot.u64 narrowQueue limitsMaxOutputFrameBytes ≤
      Snapshot.u64 narrowQueue mirrorSubscriberQueueBytes := by
    decide
  refine ⟨?_, hcombination, fun keeps => hover (le_of_keepsIdle keeps)⟩
  intro definition declared
  by_cases hname : definition.name = mirrorSubscriberQueueBytes
  · refine ⟨.int 65536, ?_, hnarrow definition declared hname⟩
    rw [hname, narrowQueue, Values.insert, update_self]
  · refine ⟨definition.defaultValue, ?_, defs_default_valid definition declared⟩
    rw [narrowQueue, Values.insert, update_of_ne hname, findDef_of_mem declared, map_some]

end Hypeterm.Relay.IdleSubscriber
