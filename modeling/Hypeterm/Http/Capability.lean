import Hypeterm.Http.OneRequest

/-! The capability at delivery.  A call tests the capability once and enqueues two
sections later; the answer to the test stays true only while nobody takes the slot
over and its owner does not withdraw. -/
namespace Hypeterm.Http

open Library List
open Relay

/-- The call has passed the capability test and has not tried to deliver. -/
def CallPhase.tested : CallPhase → Bool
  | .admitted _ | .registered _ _ => true
  | .start | .parsed _ | .owned _ | .undelivered _ | .waiting _ _ | .refused _ _ _ | .answered _ _ _
  | .storing _ _ _ | .stored _ _ _ | .done _ => false

def testedCalls (system : System) (deviceId : Uuid) : Bool :=
  (range system.nextCall).any fun id =>
    match system.calls id with
    | some (call, phase) => call.deviceId = deviceId ∧ phase.tested = true
    | none => false

/-- No takeover, and no withdrawal by the slot's owner, comes between a call's test
and its delivery. -/
def keepsCapability (system : System) : Action → Bool
  | .attach deviceId _ _ _ => !testedCalls system deviceId
  | .capabilities generation false =>
      match system.connections generation with
      | some connection =>
          ((system.registry.publishers connection.deviceId).all fun slot =>
            slot.connectionId ≠ connection.connectionId) ||
          !testedCalls system connection.deviceId
      | none => true
  | _ => true

structure Capable (system : System) : Prop where
  call_lt : ∀ id call phase, system.calls id = some (call, phase) → id < system.nextCall
  capable : ∀ id call phase slot, system.calls id = some (call, phase) → phase.tested = true →
    system.registry.publishers call.deviceId = some slot → slot.openRequests = true
  asked : ∀ enqueued ∈ system.enqueued, enqueued.openRequests = true

variable {env : Env} {system next : System} {id : Nat} {call : Call}

theorem Capable.initial : Capable System.initial where
  call_lt := by simp [System.initial]
  capable := by simp [System.initial]
  asked := by simp [System.initial]

section

variable (capable : Capable system)
include capable

theorem Capable.of_le (calls_eq : next.calls = system.calls)
    (nextCall_le : system.nextCall ≤ next.nextCall) (enqueued_eq : next.enqueued = system.enqueued)
    (publishers : ∀ deviceId slot, next.registry.publishers deviceId = some slot →
      system.registry.publishers deviceId = some slot) : Capable next where
  call_lt := by
    rw [calls_eq]
    exact fun _ _ _ hcall => Nat.lt_of_lt_of_le (capable.call_lt _ _ _ hcall) nextCall_le
  capable := by
    rw [calls_eq]
    exact fun _ _ _ _ hcall htested hslot =>
      capable.capable _ _ _ _ hcall htested (publishers _ _ hslot)
  asked := by
    rw [enqueued_eq]
    exact capable.asked

theorem Capable.setPhase {phase : CallPhase} (known : id < system.nextCall)
    (tested : phase.tested = true → ∀ slot, system.registry.publishers call.deviceId = some slot →
      slot.openRequests = true) :
    Capable (system.setPhase id call phase) where
  call_lt := by
    intro other call' phase' hcall
    simp only [System.setPhase, Function.update_apply] at hcall
    split at hcall
    · rename_i hother
      exact hother ▸ known
    · exact capable.call_lt _ _ _ hcall
  capable := by
    intro other call' phase' slot hcall htested hslot
    simp only [System.setPhase, Function.update_apply] at hcall
    split at hcall
    · cases hcall
      exact tested htested slot hslot
    · exact capable.capable _ _ _ _ hcall htested hslot
  asked := capable.asked

theorem Capable.respond (known : id < system.nextCall) (watch : Nat)
    (result : Except ApiError (Nat × TerminalResponse)) :
    Capable (system.respond id call watch result) := by
  have hdropped : Capable
      { system with registry := system.registry.updateWatch watch Watch.dropReceiver } :=
    capable.of_le rfl (Nat.le_refl _) rfl fun _ _ h => h
  exact hdropped.setPhase known fun h => by cases h

theorem Capable.retire (owns : Bool) : Capable (system.retire env call owns) := by
  unfold System.retire Registry.finishOpenRequest
  split
  · split
    · exact capable
    · exact capable.of_le rfl (Nat.le_refl _) rfl fun _ _ h => h
  · exact capable

end

theorem retire_nextCall (owns : Bool) :
    (system.retire env call owns).nextCall = system.nextCall := by
  cases owns <;> rfl

theorem Moves.tested {before after : CallPhase} (move : Moves env system call before after)
    (tested : after.tested = true) :
    system.registry.publisherSupportsOpenRequest call.deviceId = true := by
  cases move with
  | admits request capable => exact capable
  | fails | replays | parses | owns | undelivers | refuses | hears | reads => cases tested

theorem openRequests_of_supports {registry : Registry} {deviceId : Uuid} {slot : PublisherSlot}
    (supports : registry.publisherSupportsOpenRequest deviceId = true)
    (owned : registry.publishers deviceId = some slot) : slot.openRequests = true := by
  simp only [Registry.publisherSupportsOpenRequest, owned, Bool.and_eq_true] at supports
  exact supports.1.1

section

variable (capable : Capable system)
include capable

theorem Capable.resolve (deviceId : Uuid) (requestId : Digest)
    (outcome : OpenOutcome) (failures : List Failure) :
    Capable { system with
      registry := (system.registry.resolveOpenRequest deviceId requestId outcome).1
      failures } := by
  unfold Registry.resolveOpenRequest
  split
  · exact capable.of_le rfl (Nat.le_refl _) rfl fun _ _ h => h
  · exact capable.of_le rfl (Nat.le_refl _) rfl fun _ _ h => h

theorem Capable.advance {phase : CallPhase} (here : system.calls id = some (call, phase))
    (taken : Section env system id call phase next) : Capable next := by
  have hknown := capable.call_lt _ _ _ here
  cases taken with
  | moves move =>
    exact capable.setPhase hknown fun htested _ hslot =>
      openRequests_of_supports (move.tested htested) hslot
  | registers request absent =>
    have hregistered : Capable (system.registerFresh env call) :=
      capable.of_le rfl (Nat.le_refl _) rfl fun _ _ h => h
    exact hregistered.setPhase hknown fun _ slot hslot => capable.capable _ _ _ slot here rfl hslot
  | @joins request entry present =>
    have hjoined : Capable
        { system with registry := system.registry.updateWatch entry.tx Watch.subscribe } :=
      capable.of_le rfl (Nat.le_refl _) rfl fun _ _ h => h
    exact hjoined.setPhase hknown fun h => by cases h
  | @delivers request watch slot inputTx channel connected open_eq sent =>
    have hcapable := capable.capable _ _ _ slot here rfl connected
    have henqueued : Capable (system.enqueue env call watch slot inputTx channel) := {
      call_lt := capable.call_lt
      capable := capable.capable
      asked := by
        intro enqueued hmem
        simp only [System.enqueue, mem_append, mem_singleton] at hmem
        cases hmem with
        | inl old => exact capable.asked _ old
        | inr new =>
          rw [new]
          exact hcapable }
    exact henqueued.setPhase hknown fun h => by cases h
  | abandons watch => exact (capable.resolve _ _ _ _).respond hknown watch _
  | returns => exact capable.respond hknown _ _
  | retires watch owns error =>
    exact (capable.retire owns).respond ((retire_nextCall owns).symm ▸ hknown) watch _
  | stores watch owns response =>
    have hstored : Capable { system with
        idempotency := putIdempotent system.idempotency
          ⟨call.requestId env, call.identityId, env.sha256Bytes call.body, response.status,
            response⟩ } :=
      capable.of_le rfl (Nat.le_refl _) rfl fun _ _ h => h
    exact hstored.setPhase hknown fun h => by cases h
  | completes watch owns response =>
    exact (capable.retire owns).respond ((retire_nextCall owns).symm ▸ hknown) watch _

theorem untested {deviceId : Uuid}
    (none_tested : testedCalls system deviceId = false) {phase : CallPhase}
    (here : system.calls id = some (call, phase)) (tested : phase.tested = true) :
    call.deviceId ≠ deviceId := by
  intro hdevice
  simp only [testedCalls, any_eq_false, mem_range] at none_tested
  have := none_tested id (capable.call_lt _ _ _ here)
  simp [here, hdevice, tested] at this

theorem Capable.replaceSlot {deviceId : Uuid} {slot : PublisherSlot}
    (calls_eq : next.calls = system.calls) (nextCall_eq : next.nextCall = system.nextCall)
    (enqueued_eq : next.enqueued = system.enqueued)
    (publishers_eq : next.registry.publishers =
      Function.update system.registry.publishers deviceId (some slot))
    (allowed : slot.openRequests = true ∨ testedCalls system deviceId = false) : Capable next where
  call_lt := by
    rw [calls_eq, nextCall_eq]
    exact capable.call_lt
  capable := by
    rw [calls_eq, publishers_eq]
    intro id call phase other hcall htested hslot
    simp only [Function.update_apply] at hslot
    split at hslot
    · rename_i hdevice
      cases hslot
      cases allowed with
      | inl granted => exact granted
      | inr none_tested => exact absurd hdevice (untested capable none_tested hcall htested)
    · exact capable.capable _ _ _ _ hcall htested hslot
  asked := by
    rw [enqueued_eq]
    exact capable.asked

end

theorem Capable.capabilities (capable : Capable system) {generation : Nat} {connection : Connection}
    {on : Bool} (here : system.connections generation = some connection)
    (allowed : keepsCapability system (.capabilities generation on) = true) :
    Capable (system.capabilities connection on) := by
  unfold System.capabilities Registry.setPublisherOpenRequests
  split
  · exact capable
  split
  · rename_i slot hslot
    split
    · rename_i howner
      refine capable.replaceSlot rfl rfl rfl rfl ?_
      cases on with
      | true => exact .inl rfl
      | false => exact .inr (by simpa [keepsCapability, here, hslot, howner] using allowed)
    · exact capable
  · exact capable

theorem Capable.step (capable : Capable system) {action : Action}
    (allowed : keepsCapability system action = true)
    (taken : Http.step env system action = some next) : Capable next := by
  cases step_stepped taken with
  | call call =>
    have hcounted : Capable { system with nextCall := system.nextCall + 1 } :=
      capable.of_le rfl (Nat.le_succ _) rfl fun _ _ h => h
    exact hcounted.setPhase (Nat.lt_succ_self _) fun h => by cases h
  | caller here moved => exact capable.advance here moved
  | attach deviceId connectionId version inputQueue =>
    exact capable.replaceSlot rfl rfl rfl rfl (.inr (by simpa [keepsCapability] using allowed))
  | capabilities on here => exact capable.capabilities here allowed
  | receive here taken =>
    simp only [System.receive] at taken
    split at taken
    · cases taken
    · split at taken
      · cases taken
        exact capable.of_le rfl (Nat.le_refl _) rfl fun _ _ h => h
      · cases taken
        exact capable.of_le rfl (Nat.le_refl _) rfl fun _ _ h => h
  | answer requestId outcome here =>
    exact (capable.resolve _ requestId outcome system.failures).of_le rfl (Nat.le_refl _) rfl
      fun _ _ h => h
  | attachFail | dropLease | detachFail | closeReceiver =>
    exact capable.of_le rfl (Nat.le_refl _) rfl fun _ _ h => h
  | detachRemove here =>
    refine capable.of_le rfl (Nat.le_refl _) rfl ?_
    intro deviceId slot hslot
    simp only [System.setConnection, Registry.detachPublisher] at hslot
    split at hslot
    · split at hslot
      · exact hslot
      · simp only [Function.update_apply] at hslot
        split at hslot
        · cases hslot
        · exact hslot
    · exact hslot

/-- In every run where no takeover and no withdrawal comes between a call's test and
its delivery, every request enters the channel of a slot whose flag is up. -/
theorem asked_only_when_capable {actions : List Action}
    (taken : run (restrict (step env) fun system action => keepsCapability system action)
      System.initial actions = some system)
    {enqueued : Enqueued} (asked : enqueued ∈ system.enqueued) : enqueued.openRequests = true := by
  have hkept : ∀ state action after, Capable state → keepsCapability state action = true →
      step env state action = some after → Capable after :=
    fun _ _ _ capable allowed hstep => capable.step allowed hstep
  exact (restrict_invariant hkept Capable.initial taken).asked enqueued asked

/-- A request is delivered, and then the capability withdrawn and the slot taken over. -/
def withdrawnAfterRun : List Action :=
  [.attach 1 "first" .v2 4, .capabilities 1 true] ++ admission 0 ++
    [.caller 0 .proceed, .caller 0 .proceed, .capabilities 1 false, .attach 1 "second" .v2 4]

theorem asked_when_capable_in_withdrawnAfterRun :
    ∃ system enqueued, run (restrict (step keyedEnv) fun system action =>
        keepsCapability system action) System.initial withdrawnAfterRun = some system ∧
      system.enqueued = [enqueued] ∧ enqueued.openRequests = true :=
  ⟨_, _, rfl, rfl, asked_only_when_capable
    (show run (restrict (step keyedEnv) fun system action => keepsCapability system action)
      System.initial withdrawnAfterRun = some _ from rfl) (mem_singleton.mpr rfl)⟩

/-- The slot is taken over after the test; the new owner has asserted nothing. -/
def takenOverRun : List Action :=
  [.attach 1 "first" .v2 4, .capabilities 1 true] ++ admission 0 ++
    [.attach 1 "second" .v2 4, .attachFail 2, .caller 0 .proceed, .caller 0 .proceed]

theorem asked_without_capability : ¬ ∀ (actions : List Action) (system : System),
      run (step keyedEnv) System.initial actions = some system →
      ∀ enqueued ∈ system.enqueued, enqueued.openRequests = true := by
  intro claim
  have hasked := claim takenOverRun _ rfl ⟨1, keyedCall.requestId keyedEnv, 2, false⟩
    (mem_singleton.mpr rfl)
  cases hasked

end Hypeterm.Http
