import Hypeterm.Http.OneRequest

/-! A request whose send fails.  The call registered it, nobody carries it, and the failure
path publishes an outcome to its entry but leaves the entry in the table. -/
namespace Hypeterm.Http

open Library
open Relay

section Table

variable {registry : Registry} {deviceId : Uuid} {requestId : Digest}

theorem pendingOpen_eq_none : registry.pendingOpen deviceId requestId = none ↔
      ∀ entry ∈ registry.pendingOpens, ¬ (entry.deviceId = deviceId ∧ entry.requestId = requestId) := by
  simp [Registry.pendingOpen, List.find?_eq_none]

theorem pendingOpens_resolve (outcome : OpenOutcome) :
    (registry.resolveOpenRequest deviceId requestId outcome).1.pendingOpens =
      registry.pendingOpens := by
  unfold Registry.resolveOpenRequest
  split <;> rfl

def otherOpens (registry : Registry) (deviceId : Uuid) (requestId : Digest) : List PendingOpen :=
  registry.pendingOpens.filter fun entry =>
    ¬ (entry.deviceId = deviceId ∧ entry.requestId = requestId)

theorem otherOpens_eq_self (absent : registry.pendingOpen deviceId requestId = none) :
    otherOpens registry deviceId requestId = registry.pendingOpens := by
  unfold otherOpens
  rw [List.filter_eq_self]
  intro entry member
  exact decide_eq_true (pendingOpen_eq_none.mp absent entry member)

theorem beginOpenRequest_fresh (absent : registry.pendingOpen deviceId requestId = none)
    (principalId : String) {maxPerDevice maxTotal : Nat}
    (total : registry.pendingOpens.length < maxTotal)
    (perDevice : registry.pendingOpens.countP (fun entry => entry.deviceId = deviceId) <
      maxPerDevice) :
    ∃ after, registry.beginOpenRequest deviceId requestId principalId maxPerDevice maxTotal =
      .ok (after, .fresh registry.nextWatch) := by
  unfold Registry.beginOpenRequest
  rw [absent]
  rw [if_neg (Nat.not_le.mpr total), if_neg (Nat.not_le.mpr perDevice)]
  exact ⟨_, rfl⟩

end Table

/-- The table holds nothing under the call's key: a later call registers afresh whenever the
limits leave room, and the counts the limits look at are those of the other keys. -/
structure Cleared (env : Env) (call : Call) (registry : Registry) : Prop where
  gone : registry.pendingOpen call.deviceId (call.requestId env) = none
  fresh : ∀ principalId maxPerDevice maxTotal, registry.pendingOpens.length < maxTotal →
    registry.pendingOpens.countP (fun entry => entry.deviceId = call.deviceId) < maxPerDevice →
    ∃ after watch, registry.beginOpenRequest call.deviceId (call.requestId env) principalId
      maxPerDevice maxTotal = .ok (after, .fresh watch)
  total : registry.pendingOpens.length =
    (otherOpens registry call.deviceId (call.requestId env)).length
  perDevice : registry.pendingOpens.countP (fun entry => entry.deviceId = call.deviceId) =
    (otherOpens registry call.deviceId (call.requestId env)).countP
      fun entry => entry.deviceId = call.deviceId

theorem cleared_iff {env : Env} {call : Call} {registry : Registry} : Cleared env call registry ↔
      registry.pendingOpen call.deviceId (call.requestId env) = none := by
  refine ⟨Cleared.gone, fun absent => ⟨absent, ?_, ?_, ?_⟩⟩
  · intro principalId maxPerDevice maxTotal total perDevice
    obtain ⟨after, hbegun⟩ := beginOpenRequest_fresh absent principalId total perDevice
    exact ⟨after, _, hbegun⟩
  · rw [otherOpens_eq_self absent]
  · rw [otherOpens_eq_self absent]

/-- The last four moments of a call: in `before` it is about to register, its send fails, in
`last` it is about to give up and in `after` it has returned.  Other tasks take the steps
`earlier` before the send and `later` after it. -/
structure FailedSend (env : Env) (id : Nat) (call : Call) (earlier later : List Action)
    (before last after : System) : Prop where
  admitted : ∃ request, before.calls id = some (call, .admitted request)
  others : ∀ input, .caller id input ∉ earlier ++ later
  taken : run (step env) before
    ([.caller id .proceed] ++ earlier ++ [.caller id .proceed] ++ later) = some last
  failed : ∃ watch, last.calls id = some (call, .undelivered watch)
  returned : step env last (.caller id .proceed) = some after

variable {env : Env} {id : Nat} {call : Call} {earlier later : List Action}
  {before last after : System}

theorem FailedSend.pendingOpens_eq (sent : FailedSend env id call earlier later before last after) :
    after.registry.pendingOpens = last.registry.pendingOpens := by
  obtain ⟨watch, hfailed⟩ := sent.failed
  have hreturned := sent.returned
  simp only [step, hfailed, System.advance, Option.some.injEq] at hreturned
  subst hreturned
  exact pendingOpens_resolve .unavailable

theorem step_caller {system next : System} {input : CallInput}
    (taken : step env system (.caller id input) = some next) :
    ∃ call phase, system.calls id = some (call, phase) ∧ Section env system id call phase next := by
  cases step_stepped taken with
  | caller here moved => exact ⟨_, _, here, moved⟩

theorem Section.of_undelivered {system next : System} {other : Call} {phase : CallPhase}
    {watch : Nat} (moved : Section env system id other phase next)
    (failed : next.calls id = some (call, .undelivered watch)) :
    (∃ request, phase = .registered request watch) ∧ other = call ∧
      next.registry = system.registry := by
  cases moved with
  | moves move =>
    simp only [System.setPhase, Function.update_self, Option.some.injEq, Prod.mk.injEq] at failed
    obtain ⟨rfl, hafter⟩ := failed
    cases move with
    | undelivers request =>
      cases hafter
      exact ⟨⟨request, rfl⟩, rfl, rfl⟩
    | fails | replays | parses | owns | admits | refuses | hears | reads => cases hafter
  | registers | joins | delivers | abandons | returns | retires | stores | completes =>
    simp [System.setPhase, System.abandon, System.respond, System.storeResponse] at failed

theorem Section.of_registered {system next : System} {other : Call} {phase : CallPhase}
    {request : CreateTerminalRequest} {watch : Nat}
    (moved : Section env system id other phase next)
    (registered : next.calls id = some (call, .registered request watch)) :
    ∃ entry : PendingOpen, entry.deviceId = call.deviceId ∧ entry.requestId = call.requestId env ∧
      next.registry.pendingOpens = system.registry.pendingOpens ++ [entry] := by
  cases moved with
  | registers =>
    simp only [System.setPhase, Function.update_self, Option.some.injEq, Prod.mk.injEq] at registered
    obtain ⟨rfl, -⟩ := registered
    exact ⟨_, rfl, rfl, rfl⟩
  | moves move =>
    simp only [System.setPhase, Function.update_self, Option.some.injEq, Prod.mk.injEq] at registered
    cases move with
    | fails | replays | parses | owns | admits | undelivers | refuses | hears | reads =>
      cases registered.2
  | joins | delivers | abandons | returns | retires | stores | completes =>
    simp [System.setPhase, System.abandon, System.respond, System.storeResponse] at registered

theorem FailedSend.quiet (sent : FailedSend env id call [] [] before last after) :
    ∃ entry : PendingOpen, entry.deviceId = call.deviceId ∧ entry.requestId = call.requestId env ∧
      last.registry.pendingOpens = before.registry.pendingOpens ++ [entry] := by
  obtain ⟨watch, hfailed⟩ := sent.failed
  obtain ⟨middle, hfirst, hrest⟩ := run_cons_eq_some.mp sent.taken
  obtain ⟨final, hsecond, hnil⟩ := run_cons_eq_some.mp hrest
  cases hnil
  obtain ⟨other, phase, hmiddle, hdeliver⟩ := step_caller hsecond
  obtain ⟨⟨request, rfl⟩, rfl, hregistry⟩ := hdeliver.of_undelivered hfailed
  obtain ⟨_, _, _, hregister⟩ := step_caller hfirst
  rw [hregistry]
  exact hregister.of_registered hmiddle

/-- A failed send clears its key exactly when some other task removed the entry before the
call gives up; when no other task runs it stays, and every count is one too high. -/
theorem failed_send_clears_iff (sent : FailedSend env id call earlier later before last after) :
    (Cleared env call after.registry ↔
      last.registry.pendingOpen call.deviceId (call.requestId env) = none) ∧
    (earlier = [] → later = [] →
      ¬ Cleared env call after.registry ∧
      after.registry.pendingOpens.length = before.registry.pendingOpens.length + 1 ∧
      after.registry.pendingOpens.countP (fun entry => entry.deviceId = call.deviceId) =
        before.registry.pendingOpens.countP (fun entry => entry.deviceId = call.deviceId) + 1) := by
  have hsame := sent.pendingOpens_eq
  refine ⟨?_, ?_⟩
  · rw [cleared_iff, pendingOpen_eq_none, pendingOpen_eq_none, hsame]
  · rintro rfl rfl
    obtain ⟨entry, hdevice, hrequest, hlast⟩ := sent.quiet
    rw [cleared_iff, pendingOpen_eq_none, hsame, hlast]
    refine ⟨?_, by simp, by simp [hdevice]⟩
    intro absent
    exact absent entry (by simp) ⟨hdevice, hrequest⟩

/-- The publisher's connection is dropped after the capability test; its slot still stands. -/
def droppedRun : List Action :=
  [.attach 1 "conn" .v2 4, .capabilities 1 true] ++ admission 0 ++
    [.dropLease 1, .closeReceiver 1]

def droppedSystem : System := (run (step keyedEnv) System.initial droppedRun).getD System.initial

/-- The connection's own detach comes between the failed send and the end of the call. -/
theorem failed_send_clears_after_detach :
    ∃ last after : System, Cleared keyedEnv keyedCall after.registry ∧
      FailedSend keyedEnv 0 keyedCall [] [.detachFail 1] droppedSystem last after :=
  have sent : FailedSend keyedEnv 0 keyedCall [] [.detachFail 1] droppedSystem _ _ :=
    ⟨⟨_, rfl⟩, by simp, rfl, ⟨_, rfl⟩, rfl⟩
  ⟨_, _, (failed_send_clears_iff sent).1.mpr rfl, sent⟩

/-- Left to itself the entry stays, and a retry joins a request that nobody carries. -/
theorem failed_send_leaves_its_entry :
    ¬ ∀ (earlier later : List Action) (before last after : System),
      FailedSend keyedEnv 0 keyedCall earlier later before last after →
        Cleared keyedEnv keyedCall after.registry := by
  intro claim
  have sent : FailedSend keyedEnv 0 keyedCall [] [] droppedSystem _ _ :=
    ⟨⟨_, rfl⟩, by simp, rfl, ⟨_, rfl⟩, rfl⟩
  have hcleared := claim [] [] _ _ _ sent
  exact absurd hcleared.gone (by decide)

end Hypeterm.Http
