import Hypeterm.Http.OneRequest

/-! Who fails a pending request. A request belongs to the connection that owned the slot when it
was registered and delivered. -/
namespace Hypeterm.Http

open Library List
open Relay
open Function (update_apply)

/-- A request registered and delivered under one connection failed after that
connection had left the slot. -/
def Failure.Departed (failure : Failure) : Prop :=
  ∀ generation, failure.origin.registeredUnder = some generation →
    failure.origin.deliveredTo = some generation → failure.slot ≠ some generation

/-- Some connection of the device is between taking the slot and failing what its
predecessor left. -/
def takeoverUnfinished (system : System) (deviceId : Uuid) : Bool :=
  (range system.registry.nextGeneration).any fun generation =>
    match system.connections generation with
    | some connection => connection.deviceId = deviceId ∧ connection.phase = .attaching
    | none => false

/-- A detach fails the device's requests only when the slot is empty or nothing is
pending; no request is registered during a takeover; a call whose send failed finds
no entry but its own. -/
def failsDeparted (env : Env) (system : System) : Action → Bool
  | .detachFail generation =>
      match system.connections generation with
      | some connection =>
          (system.registry.publishers connection.deviceId).isNone ||
            system.registry.pendingOpens.all fun entry => entry.deviceId ≠ connection.deviceId
      | none => true
  | .caller id _ =>
      match system.calls id with
      | some (call, .admitted _) =>
          (system.registry.pendingOpen call.deviceId (call.requestId env)).isSome ||
            !takeoverUnfinished system call.deviceId
      | some (call, .undelivered watch) =>
          (system.registry.pendingOpen call.deviceId (call.requestId env)).all fun entry =>
            entry.tx = watch
      | _ => true
  | _ => true

/-- The watch of a call that has registered its request and not delivered it. -/
def CallPhase.sending : CallPhase → Option Nat
  | .registered _ watch | .undelivered watch => some watch
  | .start | .parsed _ | .owned _ | .admitted _ | .waiting _ _ | .refused _ _ _ | .answered _ _ _
  | .storing _ _ _ | .stored _ _ _ | .done _ => none

/-- Generations grow, a slot holds its device's newest one, and every pending request
was registered before any takeover still under way. -/
structure Departs (system : System) : Prop where
  connection_lt : ∀ generation connection, system.connections generation = some connection →
    generation < system.registry.nextGeneration
  slot_lt : ∀ deviceId slot, system.registry.publishers deviceId = some slot →
    slot.generation < system.registry.nextGeneration
  newest : ∀ generation connection slot, system.connections generation = some connection →
    system.registry.publishers connection.deviceId = some slot → generation ≤ slot.generation
  origin_lt : ∀ watch generation, (system.origins watch).registeredUnder = some generation →
    generation < system.registry.nextGeneration
  pending_lt : ∀ entry ∈ system.registry.pendingOpens, entry.tx < system.registry.nextWatch
  earlier : ∀ entry ∈ system.registry.pendingOpens, ∀ registered,
    (system.origins entry.tx).registeredUnder = some registered →
    ∀ generation connection, system.connections generation = some connection →
      connection.phase = .attaching → connection.deviceId = entry.deviceId → registered < generation
  sending : ∀ id call phase watch, system.calls id = some (call, phase) →
    phase.sending = some watch →
      watch < system.registry.nextWatch ∧ (system.origins watch).deliveredTo = none
  sender : ∀ id₁ id₂ call₁ call₂ phase₁ phase₂ watch, system.calls id₁ = some (call₁, phase₁) →
    system.calls id₂ = some (call₂, phase₂) → phase₁.sending = some watch →
    phase₂.sending = some watch → id₁ = id₂
  departed : ∀ failure ∈ system.failures, failure.Departed

variable {env : Env} {system next : System} {id : Nat} {call : Call}

theorem Departs.initial : Departs System.initial where
  connection_lt := by simp [System.initial]
  slot_lt := by simp [System.initial, Registry.new]
  newest := by simp [System.initial]
  origin_lt := by simp [System.initial]
  pending_lt := by simp [System.initial, Registry.new]
  earlier := by simp [System.initial, Registry.new]
  sending := by simp [System.initial]
  sender := by simp [System.initial]
  departed := by simp [System.initial]

theorem Departs.of_le (departs : Departs system)
    (publishers : ∀ deviceId slot, next.registry.publishers deviceId = some slot →
      ∃ before, system.registry.publishers deviceId = some before ∧
        before.generation = slot.generation)
    (nextGeneration_eq : next.registry.nextGeneration = system.registry.nextGeneration)
    (connections : ∀ generation connection, next.connections generation = some connection →
      ∃ before, system.connections generation = some before ∧
        before.deviceId = connection.deviceId ∧
        (connection.phase = .attaching → before.phase = .attaching))
    (pending : ∀ entry ∈ next.registry.pendingOpens, entry ∈ system.registry.pendingOpens)
    (nextWatch_eq : next.registry.nextWatch = system.registry.nextWatch)
    (origins_eq : next.origins = system.origins) (calls_eq : next.calls = system.calls)
    (departed : ∀ failure ∈ next.failures, failure.Departed) : Departs next where
  connection_lt := by
    intro generation connection hconnection
    obtain ⟨before, hbefore, -⟩ := connections _ _ hconnection
    rw [nextGeneration_eq]
    exact departs.connection_lt _ _ hbefore
  slot_lt := by
    intro deviceId slot hslot
    obtain ⟨before, hbefore, hgeneration⟩ := publishers _ _ hslot
    rw [nextGeneration_eq, ← hgeneration]
    exact departs.slot_lt _ _ hbefore
  newest := by
    intro generation connection slot hconnection hslot
    obtain ⟨before, hbefore, hdevice, -⟩ := connections _ _ hconnection
    obtain ⟨slotBefore, hslotBefore, hgeneration⟩ := publishers _ _ hslot
    rw [← hgeneration]
    exact departs.newest _ _ _ hbefore (hdevice ▸ hslotBefore)
  origin_lt := by
    rw [origins_eq, nextGeneration_eq]
    exact departs.origin_lt
  pending_lt := by
    rw [nextWatch_eq]
    exact fun entry hentry => departs.pending_lt entry (pending entry hentry)
  earlier := by
    intro entry hentry registered hregistered generation connection hconnection hphase hdevice
    obtain ⟨before, hbefore, hdeviceBefore, hphaseBefore⟩ := connections _ _ hconnection
    rw [origins_eq] at hregistered
    exact departs.earlier entry (pending entry hentry) registered hregistered _ _ hbefore
      (hphaseBefore hphase) (hdeviceBefore.trans hdevice)
  sending := by
    rw [calls_eq, nextWatch_eq, origins_eq]
    exact departs.sending
  sender := by
    rw [calls_eq]
    exact departs.sender
  departed := departed

theorem slots_kept (registry : Registry) :
    ∀ deviceId slot, registry.publishers deviceId = some slot →
      ∃ before, registry.publishers deviceId = some before ∧ before.generation = slot.generation :=
  fun _ slot hslot => ⟨slot, hslot, rfl⟩

theorem connections_kept (system : System) :
    ∀ generation connection, system.connections generation = some connection →
      ∃ before, system.connections generation = some before ∧
        before.deviceId = connection.deviceId ∧
        (connection.phase = .attaching → before.phase = .attaching) :=
  fun _ connection hconnection => ⟨connection, hconnection, rfl, fun h => h⟩

variable {generation watch : Nat} {deviceId : Uuid} {connection : Connection}

theorem connections_moved {before after : Connection}
    (here : system.connections generation = some before) (device_eq : before.deviceId = after.deviceId)
    (phase : after.phase = .attaching → before.phase = .attaching) :
    ∀ other connection, (system.setConnection generation after).connections other =
      some connection →
      ∃ before, system.connections other = some before ∧ before.deviceId = connection.deviceId ∧
        (connection.phase = .attaching → before.phase = .attaching) := by
  intro other connection hconnection
  simp only [System.setConnection, update_apply] at hconnection
  split at hconnection
  · rename_i hother
    cases hconnection
    exact ⟨before, hother ▸ here, device_eq, phase⟩
  · exact ⟨connection, hconnection, rfl, fun h => h⟩

section

variable (departs : Departs system)
include departs

theorem Departs.setPhase {after : CallPhase} (sending : ∀ watch, after.sending = some watch →
      ∃ before, system.calls id = some (call, before) ∧ before.sending = some watch) :
    Departs (system.setPhase id call after) := by
  -- Every call after the move stands for a call before it that sends the same watch.
  have hcalls : ∀ other call' phase watch,
      (system.setPhase id call after).calls other = some (call', phase) →
      phase.sending = some watch → ∃ call₀ phase₀, system.calls other = some (call₀, phase₀) ∧
        phase₀.sending = some watch := by
    intro other call' phase watch hcall hsending
    simp only [System.setPhase, update_apply] at hcall
    split at hcall
    · rename_i hother
      cases hcall
      obtain ⟨before, hbefore, hsending⟩ := sending _ hsending
      exact ⟨_, before, hother ▸ hbefore, hsending⟩
    · exact ⟨_, _, hcall, hsending⟩
  exact {
    connection_lt := departs.connection_lt
    slot_lt := departs.slot_lt
    newest := departs.newest
    origin_lt := departs.origin_lt
    pending_lt := departs.pending_lt
    earlier := departs.earlier
    sending := by
      intro other call' phase watch hcall hsending
      obtain ⟨_, _, hcall₀, hsending₀⟩ := hcalls _ _ _ _ hcall hsending
      exact departs.sending _ _ _ _ hcall₀ hsending₀
    sender := by
      intro id₁ id₂ call₁ call₂ phase₁ phase₂ watch hcall₁ hcall₂ hsending₁ hsending₂
      obtain ⟨_, _, hcall₁', hsending₁'⟩ := hcalls _ _ _ _ hcall₁ hsending₁
      obtain ⟨_, _, hcall₂', hsending₂'⟩ := hcalls _ _ _ _ hcall₂ hsending₂
      exact departs.sender _ _ _ _ _ _ _ hcall₁' hcall₂' hsending₁' hsending₂'
    departed := departs.departed }

theorem Departs.respond (watch : Nat) (result : Except ApiError (Nat × TerminalResponse)) :
    Departs (system.respond id call watch result) := by
  have hdropped : Departs
      { system with registry := system.registry.updateWatch watch Watch.dropReceiver } :=
    departs.of_le (slots_kept _) rfl (connections_kept _) (fun _ h => h) rfl rfl rfl departs.departed
  exact hdropped.setPhase fun _ h => by cases h

theorem Departs.retire (owns : Bool) : Departs (system.retire env call owns) := by
  unfold System.retire Registry.finishOpenRequest
  split
  · split
    · exact departs
    · exact departs.of_le (slots_kept _) rfl (connections_kept _)
        (fun _ hentry => (mem_filter.mp hentry).1) rfl rfl rfl departs.departed
  · exact departs

theorem Departs.failDevice {cause : FailureCause}
    (departed : ∀ failure ∈ system.failuresOf deviceId cause, failure.Departed) :
    Departs (system.failDevice deviceId cause) := by
  refine departs.of_le (slots_kept _) rfl (connections_kept _)
    (fun _ hentry => (mem_filter.mp hentry).1) rfl rfl rfl ?_
  intro failure hfailure
  cases mem_append.mp hfailure with
  | inl old => exact departs.departed failure old
  | inr new => exact departed failure new

end

theorem mem_failuresOf {cause : FailureCause} {failure : Failure}
    (mem : failure ∈ system.failuresOf deviceId cause) :
    ∃ entry ∈ system.registry.pendingOpens, entry.deviceId = deviceId ∧
      failure.origin = system.origins entry.tx ∧ failure.slot = system.slotGeneration deviceId := by
  simp only [System.failuresOf, mem_map, mem_filter, decide_eq_true_eq] at mem
  obtain ⟨entry, ⟨hentry, hdevice⟩, rfl⟩ := mem
  exact ⟨entry, hentry, hdevice, rfl, rfl⟩

theorem no_takeover (departs : Departs system)
    (finished : takeoverUnfinished system deviceId = false) :
    ∀ generation connection, system.connections generation = some connection →
      connection.phase = .attaching → connection.deviceId ≠ deviceId := by
  intro generation connection hconnection hphase hdevice
  simp only [takeoverUnfinished, any_eq_false, mem_range] at finished
  have := finished generation (departs.connection_lt _ _ hconnection)
  simp [hconnection, hphase, hdevice] at this

theorem slotGeneration_eq_some (owned : system.slotGeneration deviceId = some generation) :
    ∃ slot, system.registry.publishers deviceId = some slot ∧ slot.generation = generation := by
  simpa [System.slotGeneration] using owned

theorem Departs.registers (departs : Departs system) (request : CreateTerminalRequest)
    (finished : takeoverUnfinished system call.deviceId = false) :
    Departs ((system.registerFresh env call).setPhase id call
      (.registered request system.registry.nextWatch)) := by
  have htakeover := no_takeover departs finished
  have horigin : ∀ watch, watch < system.registry.nextWatch →
      (system.registerFresh env call).origins watch = system.origins watch := by
    intro watch hwatch
    simp only [System.registerFresh, update_apply]
    rw [if_neg (by omega)]
  have hsending : ∀ other call' phase watch, ((system.registerFresh env call).setPhase id call
        (.registered request system.registry.nextWatch)).calls other = some (call', phase) →
      phase.sending = some watch →
      (other = id ∧ watch = system.registry.nextWatch) ∨
        (system.calls other = some (call', phase) ∧ watch < system.registry.nextWatch) := by
    intro other call' phase watch hcall hphase
    simp only [System.setPhase, update_apply] at hcall
    split at hcall
    · cases hcall
      cases hphase
      exact .inl ⟨by assumption, rfl⟩
    · exact .inr ⟨hcall, (departs.sending _ _ _ _ hcall hphase).1⟩
  exact {
    connection_lt := departs.connection_lt
    slot_lt := departs.slot_lt
    newest := departs.newest
    origin_lt := by
      intro watch generation hregistered
      simp only [System.setPhase, System.registerFresh, update_apply] at hregistered
      split at hregistered
      · obtain ⟨slot, hslot, rfl⟩ := slotGeneration_eq_some hregistered
        exact departs.slot_lt _ _ hslot
      · exact departs.origin_lt _ _ hregistered
    pending_lt := by
      intro entry hentry
      simp only [System.setPhase, System.registerFresh, mem_append, mem_singleton] at hentry
      change entry.tx < system.registry.nextWatch + 1
      cases hentry with
      | inl old =>
        have := departs.pending_lt entry old
        omega
      | inr new =>
        rw [new]
        exact Nat.lt_succ_self _
    earlier := by
      intro entry hentry registered hregistered generation connection hconnection hphase hdevice
      simp only [System.setPhase, System.registerFresh, mem_append, mem_singleton] at hentry
      cases hentry with
      | inl old =>
        have hregistered := (congrArg Origin.registeredUnder
          (horigin _ (departs.pending_lt entry old))).symm.trans hregistered
        exact departs.earlier entry old registered hregistered _ _ hconnection hphase hdevice
      | inr new =>
        rw [new] at hdevice
        exact absurd hdevice (htakeover _ _ hconnection hphase)
    sending := by
      intro other call' phase watch hcall hphase
      change watch < system.registry.nextWatch + 1 ∧ _
      cases hsending _ _ _ _ hcall hphase with
      | inl new =>
        rw [new.2]
        exact ⟨Nat.lt_succ_self _, by simp [System.setPhase, System.registerFresh]⟩
      | inr old =>
        refine ⟨Nat.lt_succ_of_lt old.2, ?_⟩
        change ((system.registerFresh env call).origins watch).deliveredTo = none
        rw [horigin _ old.2]
        exact (departs.sending _ _ _ _ old.1 hphase).2
    sender := by
      intro id₁ id₂ call₁ call₂ phase₁ phase₂ watch hcall₁ hcall₂ hphase₁ hphase₂
      cases hsending _ _ _ _ hcall₁ hphase₁ with
      | inl new₁ =>
        cases hsending _ _ _ _ hcall₂ hphase₂ with
        | inl new₂ => rw [new₁.1, new₂.1]
        | inr old₂ =>
          have := new₁.2
          have := old₂.2
          omega
      | inr old₁ =>
        cases hsending _ _ _ _ hcall₂ hphase₂ with
        | inl new₂ =>
          have := new₂.2
          have := old₁.2
          omega
        | inr old₂ => exact departs.sender _ _ _ _ _ _ _ old₁.1 old₂.1 hphase₁ hphase₂
    departed := departs.departed }

theorem Departs.delivers (departs : Departs system) {request : CreateTerminalRequest}
    (here : system.calls id = some (call, .registered request watch)) (slot : PublisherSlot)
    (inputTx : Nat) (channel : Channel PublisherDelivery) :
    Departs ((system.enqueue env call watch slot inputTx channel).setPhase id call
      (.waiting watch true)) := by
  have haside : Departs (system.setPhase id call (.waiting watch true)) :=
    departs.setPhase fun _ h => by cases h
  have hregistered : ∀ other, ((system.enqueue env call watch slot inputTx channel).origins
      other).registeredUnder = (system.origins other).registeredUnder := by
    intro other
    simp only [System.enqueue, update_apply]
    split
    · rename_i hother
      rw [hother]
    · rfl
  exact {
    connection_lt := departs.connection_lt
    slot_lt := departs.slot_lt
    newest := departs.newest
    origin_lt := fun other generation horigin =>
      departs.origin_lt other generation ((hregistered other).symm.trans horigin)
    pending_lt := departs.pending_lt
    earlier := fun entry hentry registered horigin =>
      departs.earlier entry hentry registered ((hregistered entry.tx).symm.trans horigin)
    sending := by
      intro other call' phase sent hcall hphase
      obtain ⟨hsent, hundelivered⟩ := haside.sending _ _ _ _ hcall hphase
      refine ⟨hsent, ?_⟩
      simp only [System.setPhase, System.enqueue, update_apply]
      split
      · -- Only the delivering call sends this watch, and it no longer does.
        rename_i hwatch
        simp only [System.setPhase, update_apply] at hcall
        split at hcall
        · cases hcall
          cases hphase
        · rename_i hother
          subst hwatch
          exact absurd (departs.sender _ _ _ _ _ _ _ hcall here hphase rfl) hother
      · exact hundelivered
    sender := haside.sender
    departed := departs.departed }

theorem Departs.abandons (departs : Departs system) {input : CallInput}
    (here : system.calls id = some (call, .undelivered watch))
    (allowed : failsDeparted env system (.caller id input) = true) :
    Departs (system.abandon env id call watch) := by
  have hundelivered := (departs.sending _ _ _ watch here rfl).2
  have hresolved : Departs { system with
      registry := (system.registry.resolveOpenRequest call.deviceId (call.requestId env)
        .unavailable).1
      failures := system.failures ++
        (system.registry.pendingOpen call.deviceId (call.requestId env)).toList.map fun entry =>
          ⟨call.deviceId, call.requestId env, system.origins entry.tx,
            system.slotGeneration call.deviceId, .send id⟩ } := by
    have hdeparted : ∀ failure ∈ system.failures ++
        (system.registry.pendingOpen call.deviceId (call.requestId env)).toList.map fun entry =>
          (⟨call.deviceId, call.requestId env, system.origins entry.tx,
            system.slotGeneration call.deviceId, .send id⟩ : Failure), failure.Departed := by
      intro failure hfailure
      cases mem_append.mp hfailure with
      | inl old => exact departs.departed failure old
      | inr new =>
        simp only [mem_map, Option.mem_toList] at new
        obtain ⟨entry, hentry, rfl⟩ := new
        simp only [failsDeparted, here, hentry, Option.all_some, decide_eq_true_eq] at allowed
        intro generation _ hdelivered
        simp only [allowed, hundelivered] at hdelivered
        cases hdelivered
    unfold Registry.resolveOpenRequest
    split
    · exact departs.of_le (slots_kept _) rfl (connections_kept _) (fun _ h => h) rfl rfl rfl hdeparted
    · exact departs.of_le (slots_kept _) rfl (connections_kept _) (fun _ h => h) rfl rfl rfl hdeparted
  exact hresolved.respond watch _

theorem Moves.sending {before after : CallPhase} (move : Moves env system call before after)
    (sending : after.sending = some watch) : before.sending = some watch := by
  cases move with
  | undelivers => exact sending
  | fails | replays | parses | owns | admits | refuses | hears | reads => cases sending

theorem Departs.advance (departs : Departs system) {phase : CallPhase} {input : CallInput}
    (here : system.calls id = some (call, phase))
    (allowed : failsDeparted env system (.caller id input) = true)
    (taken : Section env system id call phase next) : Departs next := by
  cases taken with
  | moves move => exact departs.setPhase fun _ hsending => ⟨_, here, move.sending hsending⟩
  | registers request absent =>
    refine departs.registers request ?_
    simpa [failsDeparted, here, absent] using allowed
  | @joins request entry present =>
    have hjoined : Departs
        { system with registry := system.registry.updateWatch entry.tx Watch.subscribe } :=
      departs.of_le (slots_kept _) rfl (connections_kept _) (fun _ h => h) rfl rfl rfl
        departs.departed
    exact hjoined.setPhase fun _ h => by cases h
  | delivers => exact departs.delivers here _ _ _
  | abandons => exact departs.abandons here allowed
  | returns => exact departs.respond _ _
  | retires watch owns error =>
    exact (departs.retire owns).respond _ _
  | stores watch owns response =>
    have hstored : Departs { system with
        idempotency := putIdempotent system.idempotency
          ⟨call.requestId env, call.identityId, env.sha256Bytes call.body, response.status,
            response⟩ } :=
      departs.of_le (slots_kept _) rfl (connections_kept _) (fun _ h => h) rfl rfl rfl
        departs.departed
    exact hstored.setPhase fun _ h => by cases h
  | completes watch owns response =>
    exact (departs.retire owns).respond _ _

theorem Departs.attach (departs : Departs system) (deviceId : Uuid) (connectionId : String)
    (version : ProtocolVersion) (inputQueue : Nat) :
    Departs (system.attach deviceId connectionId version inputQueue) where
  connection_lt := by
    intro generation connection hconnection
    simp only [System.attach, System.setConnection, Registry.attachPublisher,
      update_apply] at hconnection ⊢
    split at hconnection
    · omega
    · exact Nat.lt_succ_of_lt (departs.connection_lt _ _ hconnection)
  slot_lt := by
    intro device slot hslot
    simp only [System.attach, System.setConnection, Registry.attachPublisher,
      update_apply] at hslot ⊢
    split at hslot
    · cases hslot
      exact Nat.lt_succ_self _
    · exact Nat.lt_succ_of_lt (departs.slot_lt _ _ hslot)
  newest := by
    intro generation connection slot hconnection hslot
    simp only [System.attach, System.setConnection, Registry.attachPublisher,
      update_apply] at hconnection hslot
    split at hslot
    · cases hslot
      split at hconnection
      · rename_i hgeneration
        exact Nat.le_of_eq hgeneration
      · exact Nat.le_of_lt (departs.connection_lt _ _ hconnection)
    · rename_i hdevice
      split at hconnection
      · cases hconnection
        exact absurd rfl hdevice
      · exact departs.newest _ _ _ hconnection hslot
  origin_lt := fun watch generation hregistered =>
    Nat.lt_succ_of_lt (departs.origin_lt watch generation hregistered)
  pending_lt := departs.pending_lt
  earlier := by
    intro entry hentry registered hregistered generation connection hconnection hphase hdevice
    simp only [System.attach, System.setConnection, Registry.attachPublisher,
      update_apply] at hconnection
    split at hconnection
    · rename_i hgeneration
      rw [hgeneration]
      exact departs.origin_lt _ _ hregistered
    · exact departs.earlier entry hentry registered hregistered _ _ hconnection hphase hdevice
  sending := departs.sending
  sender := departs.sender
  departed := departs.departed

theorem Departs.takeover_departed (departs : Departs system)
    (here : system.connections generation = some connection)
    (phase : connection.phase = .attaching) (cause : FailureCause) :
    ∀ failure ∈ system.failuresOf connection.deviceId cause, failure.Departed := by
  intro failure hfailure registered hregistered _ hslot
  obtain ⟨entry, hentry, hdevice, horigin, hslotEq⟩ := mem_failuresOf hfailure
  rw [horigin] at hregistered
  rw [hslotEq] at hslot
  obtain ⟨slot, howner, hgeneration⟩ := slotGeneration_eq_some hslot
  have hearlier := departs.earlier entry hentry _ hregistered _ _ here phase hdevice.symm
  have hnewest := departs.newest _ _ _ here howner
  omega

theorem Departs.detach_departed (here : system.connections generation = some connection)
    (allowed : failsDeparted env system (.detachFail generation) = true) (cause : FailureCause) :
    ∀ failure ∈ system.failuresOf connection.deviceId cause, failure.Departed := by
  intro failure hfailure registered _ _ hslot
  obtain ⟨entry, hentry, hdevice, -, hslotEq⟩ := mem_failuresOf hfailure
  rw [hslotEq] at hslot
  obtain ⟨slot, hslot, -⟩ := slotGeneration_eq_some hslot
  simp only [failsDeparted, here, hslot, Option.isNone_some, Bool.false_or, all_eq_true,
    decide_eq_true_eq] at allowed
  exact allowed entry hentry hdevice

theorem Departs.capabilities (departs : Departs system) (connection : Connection) (on : Bool) :
    Departs (system.capabilities connection on) := by
  unfold System.capabilities Registry.setPublisherOpenRequests
  split
  · exact departs
  split
  · rename_i slot hslot
    split
    · refine departs.of_le ?_ rfl (connections_kept _) (fun _ h => h) rfl rfl rfl departs.departed
      intro deviceId other hother
      simp only [update_apply] at hother
      split at hother
      · rename_i hdevice
        cases hother
        exact ⟨slot, hdevice ▸ hslot, rfl⟩
      · exact ⟨other, hother, rfl⟩
    · exact departs
  · exact departs

theorem Departs.receive (departs : Departs system)
    (here : system.connections generation = some connection)
    (taken : system.receive generation connection = some next) : Departs next := by
  unfold System.receive at taken
  split at taken
  · cases taken
  · split at taken
    · cases taken
      exact departs.of_le (slots_kept _) rfl (connections_moved here rfl fun h => h) (fun _ h => h) rfl
        rfl rfl departs.departed
    · cases taken
      exact departs.of_le (slots_kept _) rfl (connections_kept _) (fun _ h => h) rfl rfl rfl
        departs.departed

theorem Departs.answer (departs : Departs system)
    (here : system.connections generation = some connection) (requestId : Digest)
    (outcome : OpenOutcome) : Departs (system.answer generation connection requestId outcome) := by
  unfold System.answer Registry.resolveOpenRequest
  split
  · exact departs.of_le (slots_kept _) rfl (connections_moved here rfl fun h => h) (fun _ h => h) rfl
      rfl rfl departs.departed
  · exact departs.of_le (slots_kept _) rfl (connections_moved here rfl fun h => h) (fun _ h => h) rfl
      rfl rfl departs.departed

theorem Departs.detachRemove (departs : Departs system)
    {before after : Connection} (here : system.connections generation = some before)
    (device_eq : before.deviceId = after.deviceId)
    (phase : after.phase = .attaching → before.phase = .attaching) :
    Departs (({ system with
      registry := (system.registry.detachPublisher before.deviceId generation).1 }
        : System).setConnection generation after) := by
  unfold Registry.detachPublisher
  split
  · split
    · exact departs.of_le (slots_kept _) rfl (connections_moved here device_eq phase) (fun _ h => h)
        rfl rfl rfl departs.departed
    · refine departs.of_le ?_ rfl (connections_moved here device_eq phase) (fun _ h => h) rfl rfl rfl
        departs.departed
      intro deviceId slot hslot
      simp only [System.setConnection, update_apply] at hslot
      split at hslot
      · cases hslot
      · exact ⟨slot, hslot, rfl⟩
  · exact departs.of_le (slots_kept _) rfl (connections_moved here device_eq phase) (fun _ h => h) rfl
      rfl rfl departs.departed

theorem Departs.step (departs : Departs system) {action : Action}
    (allowed : failsDeparted env system action = true)
    (taken : Http.step env system action = some next) : Departs next := by
  cases step_stepped taken with
  | call call =>
    have hcounted : Departs { system with nextCall := system.nextCall + 1 } :=
      departs.of_le (slots_kept _) rfl (connections_kept _) (fun _ h => h) rfl rfl rfl
        departs.departed
    exact hcounted.setPhase fun _ h => by cases h
  | caller here moved => exact departs.advance here allowed moved
  | attach => exact departs.attach _ _ _ _
  | attachFail generation here =>
    have hfailed := departs.failDevice (departs.takeover_departed here rfl (.attach generation))
    exact hfailed.of_le (slots_kept _) rfl (connections_moved here rfl (fun h => by cases h))
      (fun _ h => h) rfl rfl rfl hfailed.departed
  | capabilities => exact departs.capabilities _ _
  | receive here taken => exact departs.receive here taken
  | answer requestId outcome here => exact departs.answer here _ _
  | dropLease here =>
    exact departs.of_le (slots_kept _) rfl (connections_moved here rfl (fun h => by cases h))
      (fun _ h => h) rfl rfl rfl departs.departed
  | closeReceiver =>
    exact departs.of_le (slots_kept _) rfl (connections_kept _) (fun _ h => h) rfl rfl rfl
      departs.departed
  | detachFail generation here =>
    have hfailed := departs.failDevice (Departs.detach_departed here allowed (.detach generation))
    exact hfailed.of_le (slots_kept _) rfl (connections_moved here rfl (fun h => by cases h))
      (fun _ h => h) rfl rfl rfl hfailed.departed
  | detachRemove here => exact departs.detachRemove here rfl (fun h => by cases h)

/-- In every run that keeps to `failsDeparted`, a request registered and delivered
under one connection fails only after that connection has left the slot. -/
theorem request_fails_after_its_connection {actions : List Action}
    (taken : run (restrict (step env) fun system action => failsDeparted env system action)
      System.initial actions = some system)
    {failure : Failure} (failed : failure ∈ system.failures) {generation : Nat}
    (registered : failure.origin.registeredUnder = some generation)
    (delivered : failure.origin.deliveredTo = some generation) :
    failure.slot ≠ some generation := by
  have hkept : ∀ state action after, Departs state → failsDeparted env state action = true →
      step env state action = some after → Departs after :=
    fun _ _ _ departs allowed hstep => departs.step allowed hstep
  exact (restrict_invariant hkept Departs.initial taken).departed failure failed generation registered
    delivered

def replacedRun : List Action :=
  [.attach 1 "first" .v2 4, .capabilities 1 true] ++ admission 0 ++
    [.caller 0 .proceed, .caller 0 .proceed, .attach 1 "second" .v2 4, .attachFail 2]

theorem request_fails_in_replacedRun :
    ∃ system failure, run (restrict (step keyedEnv) fun system action =>
        failsDeparted keyedEnv system action) System.initial replacedRun = some system ∧
      system.failures = [failure] ∧ failure.origin = ⟨some 1, some 1⟩ ∧ failure.slot ≠ some 1 :=
  ⟨_, _, rfl, rfl, rfl, request_fails_after_its_connection
    (show run (restrict (step keyedEnv) fun system action => failsDeparted keyedEnv system action)
      System.initial replacedRun = some _ from rfl) (mem_singleton.mpr rfl) rfl rfl⟩

/-- The first connection was replaced before the second is asked; its detach comes
late. -/
def lateDetachRun : List Action :=
  [.attach 1 "first" .v2 4, .attach 1 "second" .v2 4, .attachFail 2, .capabilities 2 true] ++
    admission 0 ++ [.caller 0 .proceed, .caller 0 .proceed, .dropLease 1, .detachFail 1]

/-- The late detach of a replaced connection fails a request of its successor. -/
theorem late_detach_fails_a_live_request : ¬ ∀ (actions : List Action) (system : System),
      run (step keyedEnv) System.initial actions = some system →
      ∀ failure ∈ system.failures, ∀ generation, failure.origin.registeredUnder = some generation →
        failure.origin.deliveredTo = some generation → failure.slot ≠ some generation := by
  intro claim
  exact claim lateDetachRun _ rfl
    ⟨1, keyedCall.requestId keyedEnv, ⟨some 2, some 2⟩, some 2, .detach 1⟩
    (mem_singleton.mpr rfl) 2 rfl rfl rfl

end Hypeterm.Http
