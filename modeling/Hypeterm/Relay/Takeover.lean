import Hypeterm.Library.Runs
import Hypeterm.Relay.PublisherLoop

/-! What stops a replaced publisher connection. The supersede signal stops one that waits in its
select; the closed input channel stops a version 2 connection wherever it stands before the
delivery arm. -/
namespace Hypeterm.Relay.PublisherLoop

open Library Function List Option

/-- Once its slot has been notified and dropped, the connection takes no further
message: it is out of the loop, it will next poll a supersede future that was woken, or
it will poll the closed channel before it polls its stream. -/
def Loop.stops (loop : Loop) : Bool :=
  match loop.phase with
  | .left => true
  | .polling .supersede notified | .parked notified => notified || loop.version.supportsInput
  | .polling .sleep _ | .polling .incoming _ => false
  | _ => loop.version.supportsInput

/-- When an attach drops the slot it replaced, the connection of that slot stops. -/
def stopsWhenReplaced (system : System) : Action → Bool
  | .takeover generation =>
      match system.takeovers generation with
      | some ⟨_, previous, .dropping⟩ =>
          match system.loops previous.generation with
          | some loop => loop.stops
          | none => true
      | _ => true
  | _ => true

/-- No message was taken, and nothing done to a terminal, on account of a message that
reached a connection after it had been superseded. -/
def SupersededAreStopped (system : System) : Prop :=
  (∀ taken ∈ system.taken, taken.late = false) ∧
    ∀ performed ∈ system.performed, performed.late = false

/-- A slot names the channel and the version of its own connection. -/
structure Slotted (system : System) (slot : PublisherSlot) : Prop where
  inputTx : slot.inputTx = if slot.version.supportsInput then some slot.generation else none
  loop : ∃ loop, system.loops slot.generation = some loop ∧ loop.version = slot.version

structure Stopping (system : System) (generation : Nat) (loop : Loop) : Prop where
  stops : loop.stops = true
  closed : loop.version.supportsInput = true →
    (system.registry.channels generation).senderAlive = false

structure TakeoverInv (system : System) : Prop where
  loop_lt : ∀ generation loop, system.loops generation = some loop →
    generation < system.registry.nextGeneration
  slotted : ∀ deviceId slot, system.registry.publishers deviceId = some slot → Slotted system slot
  replaced : ∀ generation takeover, system.takeovers generation = some takeover →
    Slotted system takeover.previous
  stopping : ∀ generation, system.superseded generation = true →
    ∃ loop, system.loops generation = some loop ∧ Stopping system generation loop
  handling : ∀ generation loop message, system.loops generation = some loop →
    loop.phase ≠ .handling message true
  stopped : SupersededAreStopped system

variable {system next : System} {generation : Nat} {loop : Loop}

theorem TakeoverInv.initial : TakeoverInv System.initial where
  loop_lt := by simp [System.initial]
  slotted := by simp [System.initial, Registry.new]
  replaced := by simp [System.initial]
  stopping := by simp [System.initial]
  handling := by simp [System.initial]
  stopped := by simp [System.initial, SupersededAreStopped]

variable {slot : PublisherSlot} {notified : Bool}

theorem Slotted.of_loops (slotted : Slotted system slot)
    (loops : next.loops = system.loops) : Slotted next slot where
  inputTx := slotted.inputTx
  loop := loops ▸ slotted.loop

section

variable (inv : TakeoverInv system)
include inv

theorem TakeoverInv.of_loops (loops : next.loops = system.loops)
    (superseded : next.superseded = system.superseded)
    (stopped : SupersededAreStopped next)
    (generations : next.registry.nextGeneration = system.registry.nextGeneration)
    (slotted : ∀ deviceId slot, next.registry.publishers deviceId = some slot →
      Slotted system slot)
    (replaced : ∀ generation takeover, next.takeovers generation = some takeover →
      Slotted system takeover.previous)
    (senders : ∀ generation, (system.registry.channels generation).senderAlive = false →
      (next.registry.channels generation).senderAlive = false) : TakeoverInv next where
  loop_lt := by
    intro generation loop found
    rw [loops] at found
    exact generations ▸ inv.loop_lt generation loop found
  slotted := fun deviceId slot found => (slotted deviceId slot found).of_loops loops
  replaced := fun generation takeover found => (replaced generation takeover found).of_loops loops
  stopping := by
    intro generation hsuperseded
    rw [superseded] at hsuperseded
    obtain ⟨loop, hloop, hstops, hclosed⟩ := inv.stopping generation hsuperseded
    exact ⟨loop, loops ▸ hloop, hstops, fun version => senders generation (hclosed version)⟩
  handling := by
    rw [loops]
    exact inv.handling
  stopped := stopped

theorem TakeoverInv.withRegistry {registry : Registry}
    (generations : registry.nextGeneration = system.registry.nextGeneration)
    (slots : ∀ deviceId slot, registry.publishers deviceId = some slot →
      system.registry.publishers deviceId = some slot)
    (senders : ∀ generation, (system.registry.channels generation).senderAlive = false →
      (registry.channels generation).senderAlive = false) :
    TakeoverInv { system with registry := registry } :=
  inv.of_loops rfl rfl inv.stopped generations
    (fun deviceId slot found => inv.slotted deviceId slot (slots deviceId slot found))
    inv.replaced senders

theorem TakeoverInv.withTakeovers {takeovers : Nat → Option Takeover}
    (slotted : ∀ generation takeover, takeovers generation = some takeover →
      Slotted system takeover.previous) : TakeoverInv { system with takeovers := takeovers } :=
  inv.of_loops rfl rfl inv.stopped rfl inv.slotted slotted fun _ closed => closed

theorem TakeoverInv.withRevocations (revocations : Nat → Option Takeover) :
    TakeoverInv { system with revocations := revocations } :=
  inv.of_loops rfl rfl inv.stopped rfl inv.slotted inv.replaced fun _ closed => closed

theorem TakeoverInv.updateChannel {f : Channel PublisherDelivery → Channel PublisherDelivery}
    (sender : (system.registry.channels generation).senderAlive = false →
      (f (system.registry.channels generation)).senderAlive = false) :
    TakeoverInv (system.updateChannel generation f) := by
  refine inv.withRegistry rfl (fun _ _ found => found) ?_
  intro other closed
  by_cases hsame : other = generation
  · subst hsame
    simpa using sender closed
  · simpa [hsame] using closed

theorem TakeoverInv.dropSlot (slot : PublisherSlot) : TakeoverInv (system.dropSlot slot) := by
  unfold System.dropSlot
  split
  · exact inv.updateChannel fun _ => rfl
  · exact inv

end

theorem Slotted.setPhase (slotted : Slotted system slot)
    (found : system.loops generation = some loop) (phase : Phase) :
    Slotted (system.setPhase generation loop phase) slot := by
  obtain ⟨hinput, owner, howner, hversion⟩ := slotted
  refine ⟨hinput, ?_⟩
  by_cases hsame : slot.generation = generation
  · refine ⟨{ loop with phase := phase }, by simp [System.setPhase, hsame], ?_⟩
    rw [hsame, found] at howner
    cases howner
    exact hversion
  · exact ⟨owner, by simpa [System.setPhase, hsame] using howner, hversion⟩

theorem TakeoverInv.setPhase (inv : TakeoverInv system)
    (found : system.loops generation = some loop) {phase : Phase}
    (stops : system.superseded generation = true →
      Loop.stops { loop with phase := phase } = true)
    (early : ∀ message, phase ≠ .handling message true) :
    TakeoverInv (system.setPhase generation loop phase) where
  loop_lt := by
    intro other owner howner
    by_cases hsame : other = generation
    · exact hsame ▸ inv.loop_lt generation loop found
    · exact inv.loop_lt other owner (by simpa [System.setPhase, hsame] using howner)
  slotted := fun deviceId slot hslot => (inv.slotted deviceId slot hslot).setPhase found phase
  replaced := fun other takeover htakeover =>
    (inv.replaced other takeover htakeover).setPhase found phase
  stopping := by
    intro other superseded
    obtain ⟨owner, howner, hstops, hclosed⟩ := inv.stopping other superseded
    by_cases hsame : other = generation
    · subst hsame
      rw [found] at howner
      cases howner
      exact ⟨{ loop with phase := phase }, by simp [System.setPhase], stops superseded, hclosed⟩
    · exact ⟨owner, by simpa [System.setPhase, hsame] using howner, hstops, hclosed⟩
  handling := by
    intro other owner message howner
    by_cases hsame : other = generation
    · simp only [System.setPhase, hsame, update_self, Option.some.injEq] at howner
      subst howner
      exact early message
    · exact inv.handling other owner message (by simpa [System.setPhase, hsame] using howner)
  stopped := inv.stopped

theorem Loop.stops_notify (stops : loop.stops = true) :
    Loop.stops { loop with phase := loop.phase.notify } = true := by
  obtain ⟨deviceId, version, phase⟩ := loop
  cases phase with
  | polling arm notified =>
    cases arm <;> simp_all [Loop.stops, Phase.notify]
  | parked notified => simp [Loop.stops, Phase.notify]
  | starting | top | body | handling | left => exact stops

theorem Phase.notify_early {phase : Phase} {message : Message}
    (early : phase ≠ .handling message true) : phase.notify ≠ .handling message true := by
  cases phase with
  | polling | parked => simp [Phase.notify]
  | starting | top | body | handling | left => exact early

theorem TakeoverInv.stops (inv : TakeoverInv system) (found : system.loops generation = some loop)
    (superseded : system.superseded generation = true) : Stopping system generation loop := by
  obtain ⟨owner, howner, hstopping⟩ := inv.stopping generation superseded
  rw [found] at howner
  cases howner
  exact hstopping

theorem TakeoverInv.notifyWaiters (inv : TakeoverInv system) (generation : Nat) :
    TakeoverInv (system.notifyWaiters generation) := by
  unfold System.notifyWaiters
  split
  · rename_i loop hloop
    exact inv.setPhase hloop (fun superseded => Loop.stops_notify (inv.stops hloop superseded).stops)
      fun message => Phase.notify_early (inv.handling generation loop message hloop)
  · exact inv

theorem TakeoverInv.terminateAll (inv : TakeoverInv system) : TakeoverInv system.terminateAll where
  loop_lt := by
    intro generation loop found
    obtain ⟨owner, howner, -⟩ := map_eq_some_iff.mp found
    exact inv.loop_lt generation owner howner
  slotted := by
    intro deviceId slot found
    obtain ⟨hinput, owner, howner, hversion⟩ := inv.slotted deviceId slot found
    refine ⟨hinput, _, map_eq_some_iff.mpr ⟨owner, howner, rfl⟩, ?_⟩
    split <;> exact hversion
  replaced := by
    intro generation takeover found
    obtain ⟨hinput, owner, howner, hversion⟩ := inv.replaced generation takeover found
    refine ⟨hinput, _, map_eq_some_iff.mpr ⟨owner, howner, rfl⟩, ?_⟩
    split <;> exact hversion
  stopping := by
    intro generation superseded
    obtain ⟨owner, howner, hstops, hclosed⟩ := inv.stopping generation superseded
    refine ⟨_, map_eq_some_iff.mpr ⟨owner, howner, rfl⟩, ?_⟩
    split
    · exact ⟨Loop.stops_notify hstops, hclosed⟩
    · exact ⟨hstops, hclosed⟩
  handling := by
    intro generation loop message found
    obtain ⟨owner, howner, rfl⟩ := map_eq_some_iff.mp found
    have hearly := inv.handling generation owner message howner
    split
    · exact Phase.notify_early hearly
    · exact hearly
  stopped := inv.stopped

theorem Slotted.attach (slotted : Slotted system slot)
    (older : slot.generation < system.registry.nextGeneration) (deviceId : Uuid)
    (connectionId : String) (version : ProtocolVersion) (inputQueue : Nat) :
    Slotted (system.attach deviceId connectionId version inputQueue) slot where
  inputTx := slotted.inputTx
  loop := by
    obtain ⟨loop, hloop, hversion⟩ := slotted.loop
    refine ⟨loop, ?_, hversion⟩
    have hother : slot.generation ≠ system.registry.nextGeneration := Nat.ne_of_lt older
    simpa [System.attach, Registry.attachPublisher, hother] using hloop

theorem TakeoverInv.slot_lt (inv : TakeoverInv system)
    (slotted : Slotted system slot) : slot.generation < system.registry.nextGeneration := by
  obtain ⟨loop, hloop, -⟩ := slotted.loop
  exact inv.loop_lt slot.generation loop hloop

theorem attach_loops (deviceId : Uuid) (connectionId : String) (version : ProtocolVersion)
    (inputQueue : Nat) :
    (system.attach deviceId connectionId version inputQueue).loops =
      Function.update system.loops system.registry.nextGeneration
        (some ⟨deviceId, version, .starting⟩) := rfl

theorem attach_channels_of_lt {deviceId : Uuid} {connectionId : String}
    {version : ProtocolVersion} {inputQueue : Nat}
    (older : generation < system.registry.nextGeneration) :
    (system.attach deviceId connectionId version inputQueue).registry.channels generation =
      system.registry.channels generation := by
  have hother : generation ≠ system.registry.nextGeneration := Nat.ne_of_lt older
  cases version with
  | v1 => rfl
  | v2 => simp [System.attach, Registry.attachPublisher, ProtocolVersion.supportsInput, hother]

theorem TakeoverInv.attach (inv : TakeoverInv system) (deviceId : Uuid) (connectionId : String)
    (version : ProtocolVersion) (inputQueue : Nat) :
    TakeoverInv (system.attach deviceId connectionId version inputQueue) where
  loop_lt := by
    intro generation loop found
    rw [attach_loops] at found
    by_cases hsame : generation = system.registry.nextGeneration
    · exact hsame ▸ Nat.lt_succ_self _
    · rw [update_of_ne hsame] at found
      exact Nat.lt_succ_of_lt (inv.loop_lt generation loop found)
  slotted := by
    intro other slot found
    by_cases hsame : other = deviceId
    · simp only [System.attach, Registry.attachPublisher, hsame, update_self,
        Option.some.injEq] at found
      subst found
      refine ⟨?_, ⟨deviceId, version, .starting⟩, by simp [attach_loops], rfl⟩
      cases version <;> rfl
    · simp only [System.attach, Registry.attachPublisher, ne_eq, hsame, not_false_eq_true,
        update_of_ne] at found
      have hslotted := inv.slotted other slot found
      exact hslotted.attach (inv.slot_lt hslotted) deviceId connectionId version inputQueue
  replaced := by
    intro generation takeover found
    have hslotted : Slotted system takeover.previous := by
      by_cases hsame : generation = system.registry.nextGeneration
      · simp only [System.attach, Registry.attachPublisher, hsame, update_self,
          map_eq_some_iff] at found
        obtain ⟨previous, hprevious, rfl⟩ := found
        exact inv.slotted deviceId previous hprevious
      · simp only [System.attach, Registry.attachPublisher, ne_eq, hsame, not_false_eq_true,
          update_of_ne] at found
        exact inv.replaced generation takeover found
    exact hslotted.attach (inv.slot_lt hslotted) deviceId connectionId version inputQueue
  stopping := by
    intro generation superseded
    obtain ⟨loop, hloop, hstops, hclosed⟩ := inv.stopping generation superseded
    have holder := inv.loop_lt generation loop hloop
    refine ⟨loop, ?_, hstops, ?_⟩
    · rw [attach_loops, update_of_ne (Nat.ne_of_lt holder)]
      exact hloop
    · rw [attach_channels_of_lt holder]
      exact hclosed
  handling := by
    intro generation loop message found
    rw [attach_loops] at found
    by_cases hsame : generation = system.registry.nextGeneration
    · rw [hsame, update_self] at found
      cases found
      simp
    · rw [update_of_ne hsame] at found
      exact inv.handling generation loop message found
  stopped := inv.stopped

theorem dropSlot_loops (slot : PublisherSlot) : (system.dropSlot slot).loops = system.loops := by
  unfold System.dropSlot
  split <;> rfl

theorem dropSlot_superseded (slot : PublisherSlot) :
    (system.dropSlot slot).superseded = system.superseded := by
  unfold System.dropSlot
  split <;> rfl

theorem dropSlot_closed (slotted : Slotted system slot)
    (version : slot.version.supportsInput = true) :
    ((system.dropSlot slot).registry.channels slot.generation).senderAlive = false := by
  have hinput := slotted.inputTx
  rw [version, if_pos rfl] at hinput
  simp [System.dropSlot, hinput, System.updateChannel, Channel.closeSender]

theorem TakeoverInv.supersede (inv : TakeoverInv system)
    (found : system.loops generation = some loop) (stopping : Stopping system generation loop) :
    TakeoverInv { system with superseded := Function.update system.superseded generation true } where
  loop_lt := inv.loop_lt
  slotted := fun deviceId slot hslot => (inv.slotted deviceId slot hslot).of_loops rfl
  replaced := fun other takeover htakeover => (inv.replaced other takeover htakeover).of_loops rfl
  stopping := by
    intro other superseded
    by_cases hsame : other = generation
    · subst hsame
      exact ⟨loop, found, stopping.stops, stopping.closed⟩
    · obtain ⟨owner, howner, hstops, hclosed⟩ :=
        inv.stopping other (by simpa [hsame] using superseded)
      exact ⟨owner, howner, hstops, hclosed⟩
  handling := inv.handling
  stopped := inv.stopped

theorem TakeoverInv.dropReplaced (inv : TakeoverInv system) {takeover : Takeover}
    (slotted : Slotted system takeover.previous)
    (found : system.loops takeover.previous.generation = some loop) (stops : loop.stops = true) :
    TakeoverInv
      { system.dropSlot takeover.previous with
        takeovers := Function.update system.takeovers generation none
        superseded := Function.update system.superseded takeover.previous.generation true } := by
  have hversion : loop.version = takeover.previous.version := by
    obtain ⟨owner, howner, hversion⟩ := slotted.loop
    rw [found] at howner
    cases howner
    exact hversion
  have hrest : TakeoverInv
      { system.dropSlot takeover.previous with
        takeovers := Function.update system.takeovers generation none } := by
    refine (inv.dropSlot takeover.previous).withTakeovers ?_
    intro other kept hkept
    by_cases hsame : other = generation
    · simp [hsame] at hkept
    · rw [update_of_ne hsame] at hkept
      exact (inv.replaced other kept hkept).of_loops (dropSlot_loops _)
  have hfound : (system.dropSlot takeover.previous).loops takeover.previous.generation =
      some loop := (congrFun (dropSlot_loops takeover.previous) _).trans found
  have hsuperseded := hrest.supersede hfound
    ⟨stops, fun version => dropSlot_closed slotted (hversion ▸ version)⟩
  simpa only [dropSlot_superseded] using hsuperseded

theorem Slotted.notifyWaiters (slotted : Slotted system slot)
    (generation : Nat) : Slotted (system.notifyWaiters generation) slot := by
  unfold System.notifyWaiters
  split
  · rename_i loop hloop
    exact slotted.setPhase hloop _
  · exact slotted

theorem TakeoverInv.takeover (inv : TakeoverInv system) {takeover : Takeover}
    (found : system.takeovers generation = some takeover)
    (allowed : stopsWhenReplaced system (.takeover generation) = true) :
    TakeoverInv (system.takeover generation takeover) := by
  have hslotted := inv.replaced generation takeover found
  -- What stays in the table of takeovers was there before, up to its stage.
  have hkept : ∀ stage other kept,
      Function.update system.takeovers generation (some { takeover with stage := stage }) other =
        some kept → Slotted system kept.previous := by
    intro stage other kept hkept
    by_cases hsame : other = generation
    · rw [hsame, update_self] at hkept
      cases hkept
      exact hslotted
    · rw [update_of_ne hsame] at hkept
      exact inv.replaced other kept hkept
  obtain ⟨deviceId, previous, stage⟩ := takeover
  cases stage with
  | failing =>
    exact inv.of_loops rfl rfl inv.stopped rfl inv.slotted (hkept .notifying) fun _ closed => closed
  | notifying =>
    exact (inv.notifyWaiters previous.generation).withTakeovers
      fun other kept h => (hkept .dropping other kept h).notifyWaiters previous.generation
  | dropping =>
    obtain ⟨loop, hloop, -⟩ := hslotted.loop
    have hstops : loop.stops = true := by simpa [stopsWhenReplaced, found, hloop] using allowed
    exact inv.dropReplaced hslotted hloop hstops

theorem TakeoverInv.revocation (inv : TakeoverInv system) (generation : Nat)
    (revocation : Takeover) : TakeoverInv (system.revocation generation revocation) := by
  unfold System.revocation
  split
  · exact (inv.notifyWaiters _).withRevocations _
  · exact (inv.notifyWaiters _).withRevocations _
  · exact (inv.dropSlot _).withRevocations _

theorem TakeoverInv.pollDelivery (inv : TakeoverInv system)
    (found : system.loops generation = some loop)
    (phase : loop.phase = .polling .delivery notified) :
    TakeoverInv (system.pollDelivery generation loop notified) := by
  have hstops : system.superseded generation = true → loop.version.supportsInput = true := by
    intro superseded
    have := (inv.stops found superseded).stops
    simpa [Loop.stops, phase] using this
  unfold System.pollDelivery
  split
  · rename_i hversion
    split
    · rename_i channel hrecv
      have hchannel : TakeoverInv (system.updateChannel generation fun _ => channel) := by
        refine inv.updateChannel fun closed => ?_
        rw [Channel.senderAlive_recv hrecv]
        exact closed
      refine TakeoverInv.setPhase hchannel found (fun _ => ?_) (by simp)
      simpa [Loop.stops] using hversion
    · split
      · rename_i halive
        -- The channel still has a sender, so nothing has superseded the connection.
        refine inv.setPhase found (fun superseded => ?_) (by simp)
        rw [(inv.stops found superseded).closed hversion] at halive
        cases halive
      · exact inv.setPhase found (fun _ => rfl) (by simp)
  · rename_i hversion
    refine inv.setPhase found (fun superseded => ?_) (by simp)
    exact absurd (hstops superseded) hversion

theorem TakeoverInv.take (inv : TakeoverInv system) (found : system.loops generation = some loop)
    (phase : loop.phase = .polling .incoming notified) (message : Message) :
    TakeoverInv (system.take generation loop message) := by
  have hcurrent : system.superseded generation = false := by
    cases hsuperseded : system.superseded generation with
    | false => rfl
    | true =>
      have := (inv.stops found hsuperseded).stops
      simp [Loop.stops, phase] at this
  unfold System.take
  rw [hcurrent]
  have hphase : TakeoverInv (system.setPhase generation loop (Phase.take message false)) := by
    refine inv.setPhase found (fun superseded => ?_) ?_
    · rw [hcurrent] at superseded
      cases superseded
    · intro other
      cases message <;> simp [Phase.take]
  refine hphase.of_loops rfl rfl ?_ rfl hphase.slotted hphase.replaced fun _ closed => closed
  refine ⟨?_, inv.stopped.2⟩
  intro taken htaken
  simp only [mem_append, mem_singleton] at htaken
  cases htaken with
  | inl hearlier => exact inv.stopped.1 taken hearlier
  | inr hnew => rw [hnew]

section

variable (inv : TakeoverInv system) (found : system.loops generation = some loop)
include inv found

theorem TakeoverInv.poll {arm : Arm} (phase : loop.phase = .polling arm notified) {answer : Answer}
    (polled : system.poll generation loop arm notified answer = some next) : TakeoverInv next := by
  have hstops := fun superseded => (inv.stops found superseded).stops
  simp only [Loop.stops, phase] at hstops
  unfold System.poll at polled
  split at polled
  all_goals cases polled
  · refine inv.setPhase found ?_ ?_
    · intro superseded
      have := hstops superseded
      cases notified <;> simp_all [Loop.stops]
    · cases notified <;> simp
  · exact inv.setPhase found hstops (by simp)
  · rename_i shutdown
    refine inv.setPhase found ?_ ?_
    · cases shutdown
      · exact hstops
      · exact fun _ => rfl
    · cases shutdown <;> simp
  · exact inv.setPhase found hstops (by simp)
  · exact inv.setPhase found hstops (by simp)
  · exact inv.pollDelivery found phase
  · exact inv.setPhase found (fun superseded => absurd (hstops superseded) (by simp)) (by simp)
  · rename_i expired
    refine inv.setPhase found (fun superseded => absurd (hstops superseded) (by simp)) ?_
    cases expired <;> simp
  · exact inv.setPhase found (fun superseded => absurd (hstops superseded) (by simp)) (by simp)
  · exact inv.take found phase _
  · exact inv.setPhase found (fun _ => rfl) (by simp)

theorem TakeoverInv.finish
    (stops : system.superseded generation = true → loop.version.supportsInput = true)
    (continues : Bool) :
    TakeoverInv (system.setPhase generation loop (if continues then .top else .left)) := by
  cases continues with
  | false => exact inv.setPhase found (fun _ => rfl) (by simp)
  | true => exact inv.setPhase found stops (by simp)

theorem TakeoverInv.perform {message : Message} {late : Bool}
    (phase : loop.phase = .handling message late) (operation : Operation) :
    TakeoverInv
      { system with performed := system.performed ++ [⟨generation, operation, late⟩] } := by
  have hearly : late = false := by
    cases late with
    | false => rfl
    | true => exact absurd phase (inv.handling generation loop message found)
  refine inv.of_loops rfl rfl ?_ rfl inv.slotted inv.replaced fun _ closed => closed
  refine ⟨inv.stopped.1, ?_⟩
  intro performed hperformed
  simp only [mem_append, mem_singleton] at hperformed
  cases hperformed with
  | inl hearlier => exact inv.stopped.2 performed hearlier
  | inr hnew => rw [hnew, hearly]

end

theorem TakeoverInv.detach (inv : TakeoverInv system) (deviceId : Uuid) (generation : Nat) :
    TakeoverInv
      { system with registry := (system.registry.detachPublisher deviceId generation).1 } := by
  unfold Registry.detachPublisher
  split
  · split
    · exact inv
    · refine inv.withRegistry rfl ?_ fun _ closed => closed
      intro other slot found
      by_cases hsame : other = deviceId
      · simp [hsame] at found
      · simpa [hsame] using found
  · exact inv

theorem TakeoverInv.deliver (inv : TakeoverInv system) {deviceId : Uuid}
    {delivery : PublisherDelivery} {registry : Registry}
    (delivered : system.registry.deliverToPublisher deviceId delivery = .ok registry) :
    TakeoverInv { system with registry := registry } := by
  unfold Registry.deliverToPublisher at delivered
  split at delivered
  · cases delivered
  · split at delivered
    · cases delivered
    · split at delivered
      · rename_i inputTx _ _ channel hsend
        cases delivered
        have hchannel : TakeoverInv (system.updateChannel inputTx fun _ => channel) := by
          refine inv.updateChannel fun closed => ?_
          rw [(Channel.trySend_ok hsend).2.2]
          exact closed
        exact hchannel
      · cases delivered
      · cases delivered

theorem TakeoverInv.enforceRevocation (inv : TakeoverInv system) (deviceId : Uuid) :
    TakeoverInv (system.enforceRevocation deviceId) := by
  unfold System.enforceRevocation
  split
  · refine inv.of_loops rfl rfl inv.stopped rfl ?_ inv.replaced fun _ closed => closed
    intro other slot found
    by_cases hsame : other = deviceId
    · simp [hsame] at found
    · exact inv.slotted other slot (by simpa [hsame] using found)
  · exact inv

theorem TakeoverInv.step (inv : TakeoverInv system) {action : Action}
    (allowed : stopsWhenReplaced system action = true)
    (taken : PublisherLoop.step system action = some next) : TakeoverInv next := by
  cases action with
  | attach deviceId connectionId version inputQueue =>
    cases taken
    exact inv.attach deviceId connectionId version inputQueue
  | takeover generation =>
    obtain ⟨takeover, htakeover, rfl⟩ := map_eq_some_iff.mp taken
    exact inv.takeover htakeover allowed
  | upgrade generation =>
    simp only [PublisherLoop.step] at taken
    split at taken
    · rename_i loop hloop
      split at taken
      · rename_i hstarting
        cases taken
        refine inv.setPhase hloop (fun superseded => ?_) (by simp)
        simpa [Loop.stops, hstarting.1] using (inv.stops hloop superseded).stops
      · cases taken
    · cases taken
  | select generation =>
    simp only [PublisherLoop.step] at taken
    split at taken
    · rename_i loop hloop
      split at taken
      · rename_i htop
        cases taken
        refine inv.setPhase hloop (fun superseded => ?_) (by simp)
        simpa [Loop.stops, htop] using (inv.stops hloop superseded).stops
      · cases taken
    · cases taken
  | poll generation answer =>
    simp only [PublisherLoop.step] at taken
    split at taken
    · rename_i loop hloop
      split at taken
      · rename_i hphase
        exact inv.poll hloop hphase taken
      · cases taken
    · cases taken
  | wake generation =>
    simp only [PublisherLoop.step] at taken
    split at taken
    · rename_i loop hloop
      split at taken
      · rename_i hphase
        cases taken
        refine inv.setPhase hloop (fun superseded => ?_) (by simp)
        simpa [Loop.stops, hphase] using (inv.stops hloop superseded).stops
      · cases taken
    · cases taken
  | perform generation operation =>
    simp only [PublisherLoop.step] at taken
    split at taken
    · rename_i loop hloop
      split at taken
      · rename_i hphase
        split at taken
        · cases taken
          exact inv.perform hloop hphase operation
        · cases taken
      · cases taken
    · cases taken
  | finish generation continues =>
    simp only [PublisherLoop.step] at taken
    split at taken
    · rename_i loop hloop
      split at taken
      · rename_i hphase
        cases taken
        refine inv.finish hloop (fun superseded => ?_) continues
        simpa [Loop.stops, hphase] using (inv.stops hloop superseded).stops
      · rename_i hphase
        cases taken
        refine inv.finish hloop (fun superseded => ?_) continues
        simpa [Loop.stops, hphase] using (inv.stops hloop superseded).stops
      · cases taken
    · cases taken
  | closeReceiver generation =>
    simp only [PublisherLoop.step] at taken
    split at taken
    · split at taken
      · cases taken
        exact inv.updateChannel fun closed => closed
      · cases taken
    · cases taken
  | detach generation =>
    simp only [PublisherLoop.step] at taken
    split at taken
    · rename_i loop hloop
      split at taken
      · cases taken
        exact inv.detach loop.deviceId generation
      · cases taken
    · cases taken
  | deliver deviceId delivery =>
    simp only [PublisherLoop.step] at taken
    split at taken
    · rename_i hdelivered
      cases taken
      exact inv.deliver hdelivered
    · cases taken
  | failOpenRequests deviceId =>
    cases taken
    exact inv.of_loops rfl rfl inv.stopped rfl inv.slotted inv.replaced fun _ closed => closed
  | enforceRevocation deviceId =>
    cases taken
    exact inv.enforceRevocation deviceId
  | revocation generation =>
    obtain ⟨revocation, -, rfl⟩ := map_eq_some_iff.mp taken
    exact inv.revocation generation revocation
  | terminateAll =>
    cases taken
    exact inv.terminateAll

/-- A connection of device 1 attaches and starts its loop; its first recheck is due at
once. -/
def connecting (generation : Nat) (version : ProtocolVersion) : List Action :=
  [.attach 1 "conn" version 8, .upgrade generation, .select generation, .poll generation .pending,
    .poll generation .pending, .poll generation .tick, .finish generation true]

def quietPass (generation : Nat) : List Action :=
  [.select generation, .poll generation .pending, .poll generation .pending,
    .poll generation .pending, .poll generation .pending, .poll generation .pending]

def message : Message := .binary [1]

/-- A newer connection of device 1, up to the end of its attach. -/
def takingOver (generation : Nat) (version : ProtocolVersion) : List Action :=
  [.attach 1 "newer" version 8, .takeover generation, .takeover generation, .takeover generation]

/-- A waiting version 1 connection is replaced, and so is a version 2 connection that
is handling a message.  Both leave without taking another one. -/
def replacedRun : List Action :=
  connecting 1 .v1 ++ quietPass 1 ++ [.poll 1 .pending] ++ takingOver 2 .v2 ++
    [.wake 1, .poll 1 .pending] ++
    [.upgrade 2] ++ quietPass 2 ++ [.poll 2 (.message message), .perform 2 .append] ++
    takingOver 3 .v1 ++
    [.finish 2 true, .select 2, .poll 2 .pending, .poll 2 .pending, .poll 2 .pending,
      .poll 2 .pending]

end Hypeterm.Relay.PublisherLoop
