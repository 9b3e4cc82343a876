import Hypeterm.Http.FailedSend

/-! One idempotency key, two bodies.  The digest of a body is compared with the stored
record only, and a call that finds its key in flight joins whatever was asked for. -/
namespace Hypeterm.Http

open Library List Option
open Relay

/-- A request as it was registered: its key and the digest of the body it came with. -/
structure Asked where
  requestId : Digest
  requestHash : Digest
  deriving DecidableEq

def Call.asked (env : Env) (call : Call) : Asked :=
  ⟨call.requestId env, env.sha256Bytes call.body⟩

/-- `asked` and `opened` are histories: what each watch was registered for, and the requests
that a publisher answered with a terminal. -/
structure Watched where
  system : System
  asked : Nat → Asked
  opened : List Asked

namespace Watched

def initial : Watched := ⟨System.initial, fun _ => ⟨0, 0⟩, []⟩

def askedAfter (env : Env) (watched : Watched) : Action → Nat → Asked
  | .caller id _ =>
      match watched.system.calls id with
      | some (call, .admitted _) =>
          Function.update watched.asked watched.system.registry.nextWatch (call.asked env)
      | _ => watched.asked
  | _ => watched.asked

def opens (watched : Watched) : Action → List Asked
  | .answer generation requestId (.opened _ _) =>
      ((watched.system.connections generation).bind fun connection =>
        watched.system.registry.pendingOpen connection.deviceId requestId).toList.map fun entry =>
          watched.asked entry.tx
  | _ => []

def step (env : Env) (watched : Watched) (action : Action) : Option Watched :=
  (Http.step env watched.system action).map fun next =>
    ⟨next, watched.askedAfter env action, watched.opened ++ watched.opens action⟩

end Watched

/-- A call registers or joins only if the requests of its key that are in flight, and those
that were answered with a terminal, came with its body. -/
def keepsBody (env : Env) (watched : Watched) : Action → Bool
  | .caller id _ =>
      match watched.system.calls id with
      | some (call, .admitted _) =>
          (watched.system.registry.pendingOpens.all fun entry =>
            entry.requestId != call.requestId env ||
              watched.asked entry.tx == call.asked env) &&
          watched.opened.all fun asked =>
            asked.requestId != call.requestId env || asked == call.asked env
      | _ => true
  | _ => true

def keyConflict : ApiError :=
  .new 409 "idempotency_key_conflict"
    "this Idempotency-Key was already used with a different request body"

def Call.looksUp (call : Call) : Prop :=
  call.scopes.contains "terminals:create" = true ∧ call.createEnabled = true ∧
    call.idempotencyKey.isSome = true

/-- No call reports success after a terminal was opened for its key and another body, and a
call that finds the record of another body is answered with a conflict. -/
structure BodiesApart (env : Env) (watched : Watched) : Prop where
  answered : ∀ id call status response,
    watched.system.calls id = some (call, .done (.ok (status, response))) →
    ∀ asked ∈ watched.opened, asked.requestId = call.requestId env →
      asked.requestHash = env.sha256Bytes call.body
  conflict : ∀ id call, watched.system.calls id = some (call, .start) → call.looksUp →
    ∀ record ∈ watched.system.idempotency, record.keyHash = call.requestId env →
      record.principalId = call.identityId → record.requestHash ≠ env.sha256Bytes call.body →
      ∃ next, step env watched.system (.caller id .proceed) = some next ∧
        next.calls id = some (call, .done (.error keyConflict))

def CallPhase.Knows (phase : CallPhase) (watched : Watched) (asked : Asked) : Prop :=
  (∀ watch, phase.watch = some watch →
    watch < watched.system.registry.nextWatch ∧ watched.asked watch = asked) ∧
  (phase.terminalId.isSome = true → asked ∈ watched.opened)

/-- Everything that bears a key agrees on the body. -/
structure OneBody (env : Env) (watched : Watched) : Prop where
  calls : ∀ id call phase, watched.system.calls id = some (call, phase) →
    phase.Knows watched (call.asked env)
  entries : ∀ entry ∈ watched.system.registry.pendingOpens,
    entry.tx < watched.system.registry.nextWatch ∧
      (watched.asked entry.tx).requestId = entry.requestId
  inFlight : ∀ entry ∈ watched.system.registry.pendingOpens,
    ∀ other ∈ watched.system.registry.pendingOpens, entry.requestId = other.requestId →
      watched.asked entry.tx = watched.asked other.tx
  settled : ∀ entry ∈ watched.system.registry.pendingOpens, ∀ asked ∈ watched.opened,
    asked.requestId = entry.requestId → asked = watched.asked entry.tx
  opened : ∀ asked ∈ watched.opened, ∀ other ∈ watched.opened,
    asked.requestId = other.requestId → asked = other
  values : ∀ watch terminalId deduplicated,
    (watched.system.registry.watches watch).value = some (.opened terminalId deduplicated) →
      watch < watched.system.registry.nextWatch ∧ watched.asked watch ∈ watched.opened
  records : ∀ record ∈ watched.system.idempotency,
    (⟨record.keyHash, record.requestHash⟩ : Asked) ∈ watched.opened

variable {env : Env} {system next : System} {asked : Nat → Asked} {opened : List Asked} {id : Nat}
  {call : Call}

theorem OneBody.initial : OneBody env Watched.initial where
  calls := by simp [Watched.initial, System.initial]
  entries := by simp [Watched.initial, System.initial, Registry.new]
  inFlight := by simp [Watched.initial, System.initial, Registry.new]
  settled := by simp [Watched.initial]
  opened := by simp [Watched.initial]
  values := by simp [Watched.initial, System.initial, Registry.new, Watch.new]
  records := by simp [Watched.initial, System.initial]

theorem OneBody.prepare (inv : OneBody env ⟨system, asked, opened⟩) (entered : Asked) :
    OneBody env ⟨system, Function.update asked system.registry.nextWatch entered, opened⟩ := by
  have hkept : ∀ watch, watch < system.registry.nextWatch →
      Function.update asked system.registry.nextWatch entered watch = asked watch :=
    fun watch hlt => Function.update_of_ne (Nat.ne_of_lt hlt) _ _
  constructor
  · intro id call phase hcall
    obtain ⟨hwatch, hterminal⟩ := inv.calls id call phase hcall
    refine ⟨?_, hterminal⟩
    intro watch held
    obtain ⟨hlt, hasked⟩ := hwatch watch held
    exact ⟨hlt, (hkept watch hlt).trans hasked⟩
  · intro entry member
    obtain ⟨hlt, hasked⟩ := inv.entries entry member
    exact ⟨hlt, (congrArg Asked.requestId (hkept _ hlt)).trans hasked⟩
  · intro entry member other member' hsame
    have hentry := hkept _ (inv.entries entry member).1
    have hother := hkept _ (inv.entries other member').1
    exact hentry.trans ((inv.inFlight entry member other member' hsame).trans hother.symm)
  · intro entry member other hother hsame
    have hentry := hkept _ (inv.entries entry member).1
    exact (inv.settled entry member other hother hsame).trans hentry.symm
  · exact inv.opened
  · intro watch terminalId deduplicated hvalue
    obtain ⟨hlt, hopened⟩ := inv.values watch terminalId deduplicated hvalue
    exact ⟨hlt, (congrArg (· ∈ opened) (hkept _ hlt)).mpr hopened⟩
  · exact inv.records

/-- Entries go, watches are answered with something else, and nothing else of what the invariant
looks at changes. -/
structure Narrows (system next : System) : Prop where
  calls : next.calls = system.calls
  idempotency : next.idempotency = system.idempotency
  nextWatch : next.registry.nextWatch = system.registry.nextWatch
  entries : ∀ entry ∈ next.registry.pendingOpens, entry ∈ system.registry.pendingOpens
  values : ∀ watch terminalId deduplicated,
    (next.registry.watches watch).value = some (.opened terminalId deduplicated) →
      (system.registry.watches watch).value = some (.opened terminalId deduplicated)

theorem Narrows.of_eq (calls : next.calls = system.calls)
    (idempotency : next.idempotency = system.idempotency)
    (nextWatch : next.registry.nextWatch = system.registry.nextWatch)
    (pendingOpens : next.registry.pendingOpens = system.registry.pendingOpens)
    (watches : next.registry.watches = system.registry.watches) : Narrows system next :=
  ⟨calls, idempotency, nextWatch, fun _ member => pendingOpens ▸ member,
    fun _ _ _ hvalue => watches ▸ hvalue⟩

theorem OneBody.narrow (inv : OneBody env ⟨system, asked, opened⟩) (narrows : Narrows system next) :
    OneBody env ⟨next, asked, opened⟩ := by
  constructor
  · intro id call phase hcall
    rw [narrows.calls] at hcall
    obtain ⟨hwatch, hterminal⟩ := inv.calls id call phase hcall
    refine ⟨?_, hterminal⟩
    rw [narrows.nextWatch]
    exact hwatch
  · intro entry member
    rw [narrows.nextWatch]
    exact inv.entries entry (narrows.entries entry member)
  · intro entry member other member'
    exact inv.inFlight entry (narrows.entries entry member) other (narrows.entries other member')
  · intro entry member
    exact inv.settled entry (narrows.entries entry member)
  · exact inv.opened
  · intro watch terminalId deduplicated hvalue
    rw [narrows.nextWatch]
    exact inv.values watch terminalId deduplicated (narrows.values _ _ _ hvalue)
  · intro record member
    rw [narrows.idempotency] at member
    exact inv.records record member

variable {phase : CallPhase} {entry : PendingOpen} {watched : Watched}

theorem OneBody.setPhase (inv : OneBody env ⟨system, asked, opened⟩)
    (knows : phase.Knows ⟨system, asked, opened⟩ (call.asked env)) :
    OneBody env ⟨system.setPhase id call phase, asked, opened⟩ := by
  refine { inv with calls := ?_ }
  intro other call' phase' hcall
  simp only [System.setPhase, Function.update_apply] at hcall
  split at hcall
  · cases hcall
    exact knows
  · exact inv.calls other call' phase' hcall

theorem updateWatch_narrows (system : System) (watch : Nat)
    {f : Watch OpenOutcome → Watch OpenOutcome}
    (values : ∀ (before : Watch OpenOutcome) terminalId deduplicated,
      (f before).value = some (.opened terminalId deduplicated) →
        before.value = some (.opened terminalId deduplicated)) :
    Narrows system { system with registry := system.registry.updateWatch watch f } := by
  refine ⟨rfl, rfl, rfl, fun _ member => member, ?_⟩
  intro other terminalId deduplicated hvalue
  simp only [Registry.updateWatch, Function.update_apply] at hvalue
  split at hvalue
  · rename_i heq
    rw [heq]
    exact values _ _ _ hvalue
  · exact hvalue

theorem OneBody.respond (inv : OneBody env ⟨system, asked, opened⟩) {watch : Nat}
    {result : Except ApiError (Nat × TerminalResponse)}
    (knows : ((.done result : CallPhase)).Knows ⟨system, asked, opened⟩ (call.asked env)) :
    OneBody env ⟨system.respond id call watch result, asked, opened⟩ := by
  have hdropped := inv.narrow (updateWatch_narrows system watch (f := Watch.dropReceiver)
    fun _ _ _ hvalue => hvalue)
  exact hdropped.setPhase knows

theorem retire_narrows (system : System) (env : Env) (call : Call) (owns : Bool) :
    Narrows system (system.retire env call owns) := by
  unfold System.retire Registry.finishOpenRequest
  split
  · split
    · exact .of_eq rfl rfl rfl rfl rfl
    · rename_i entry _
      have hdropped := updateWatch_narrows system entry.tx (f := Watch.dropSender)
        fun _ _ _ hvalue => hvalue
      exact ⟨rfl, rfl, rfl, fun _ member => (mem_filter.mp member).1, hdropped.values⟩
  · exact .of_eq rfl rfl rfl rfl rfl

theorem value_send {watch : Watch OpenOutcome} {outcome : OpenOutcome} {terminalId : Uuid}
    {deduplicated : Bool}
    (sent : (watch.send outcome).value = some (.opened terminalId deduplicated)) :
    outcome = .opened terminalId deduplicated ∨
      watch.value = some (.opened terminalId deduplicated) := by
  unfold Watch.send at sent
  split at sent
  · exact .inr sent
  · exact .inl (Option.some.inj sent)

theorem resolve_narrows (system : System) (deviceId : Uuid) (requestId : Digest)
    (outcome : OpenOutcome) (refusal : ∀ terminalId deduplicated,
      outcome ≠ .opened terminalId deduplicated) :
    Narrows system { system with
      registry := (system.registry.resolveOpenRequest deviceId requestId outcome).1 } := by
  unfold Registry.resolveOpenRequest
  split
  · exact .of_eq rfl rfl rfl rfl rfl
  · rename_i entry _
    refine updateWatch_narrows system entry.tx (f := fun watch => watch.send outcome) ?_
    intro before terminalId deduplicated hvalue
    exact (value_send hvalue).resolve_left (refusal terminalId deduplicated)

theorem failDevice_narrows (system : System) (deviceId : Uuid) (cause : FailureCause) :
    Narrows system (system.failDevice deviceId cause) := by
  refine ⟨rfl, rfl, rfl, fun _ member => (mem_filter.mp member).1, ?_⟩
  intro watch terminalId deduplicated hvalue
  simp only [System.failDevice, Registry.failOpenRequestsForDevice] at hvalue
  split at hvalue
  · exact (value_send hvalue).resolve_left (by simp)
  · exact hvalue

theorem entry_of_pendingOpen {registry : Registry} {deviceId : Uuid} {requestId : Digest}
    (found : registry.pendingOpen deviceId requestId = some entry) :
    entry ∈ registry.pendingOpens ∧ entry.requestId = requestId := by
  have hkey := find?_some found
  exact ⟨mem_of_find?_eq_some found, (of_decide_eq_true hkey).2⟩

/-- What the condition says about a call that is about to register. -/
structure Ready (env : Env) (system : System) (asked : Nat → Asked) (opened : List Asked)
    (call : Call) : Prop where
  next : asked system.registry.nextWatch = call.asked env
  entries : ∀ entry ∈ system.registry.pendingOpens, entry.requestId = call.requestId env →
    asked entry.tx = call.asked env
  opened : ∀ other ∈ opened, other.requestId = call.requestId env → other = call.asked env

theorem OneBody.registers (inv : OneBody env ⟨system, asked, opened⟩)
    (ready : Ready env system asked opened call) (request : CreateTerminalRequest) :
    OneBody env ⟨(system.registerFresh env call).setPhase id call
      (.registered request system.registry.nextWatch), asked, opened⟩ := by
  have hregistered : OneBody env ⟨system.registerFresh env call, asked, opened⟩ := by
    constructor
    · intro other call' phase hcall
      obtain ⟨hwatch, hterminal⟩ := inv.calls other call' phase hcall
      refine ⟨?_, hterminal⟩
      intro watch held
      obtain ⟨hlt, hasked⟩ := hwatch watch held
      exact ⟨Nat.lt_succ_of_lt hlt, hasked⟩
    · intro entry member
      rcases mem_append.mp member with hold | hnew
      · obtain ⟨hlt, hasked⟩ := inv.entries entry hold
        exact ⟨Nat.lt_succ_of_lt hlt, hasked⟩
      · rw [mem_singleton.mp hnew]
        exact ⟨Nat.lt_succ_self _, congrArg Asked.requestId ready.next⟩
    · intro entry member other member' hsame
      rcases mem_append.mp member with hold | hnew
      · rcases mem_append.mp member' with hold' | hnew'
        · exact inv.inFlight entry hold other hold' hsame
        · rw [mem_singleton.mp hnew'] at hsame ⊢
          exact (ready.entries entry hold hsame).trans ready.next.symm
      · rw [mem_singleton.mp hnew] at hsame ⊢
        rcases mem_append.mp member' with hold' | hnew'
        · exact ready.next.trans (ready.entries other hold' hsame.symm).symm
        · rw [mem_singleton.mp hnew']
    · intro entry member other hother hsame
      rcases mem_append.mp member with hold | hnew
      · exact inv.settled entry hold other hother hsame
      · rw [mem_singleton.mp hnew] at hsame ⊢
        exact (ready.opened other hother hsame).trans ready.next.symm
    · exact inv.opened
    · intro watch terminalId deduplicated hvalue
      simp only [System.registerFresh, Function.update_apply] at hvalue
      split at hvalue
      · cases hvalue
      · obtain ⟨hlt, hopened⟩ := inv.values watch terminalId deduplicated hvalue
        exact ⟨Nat.lt_succ_of_lt hlt, hopened⟩
    · exact inv.records
  apply hregistered.setPhase
  refine ⟨?_, by simp [CallPhase.terminalId]⟩
  intro watch held
  cases held
  exact ⟨Nat.lt_succ_self _, ready.next⟩

theorem OneBody.moves (inv : OneBody env ⟨system, asked, opened⟩) {before after : CallPhase}
    (here : system.calls id = some (call, before)) (move : Moves env system call before after) :
    after.Knows ⟨system, asked, opened⟩ (call.asked env) := by
  obtain ⟨hwatch, hterminal⟩ := inv.calls id call before here
  cases move with
  | fails => exact ⟨by simp [CallPhase.watch], by simp [CallPhase.terminalId]⟩
  | replays found =>
    refine ⟨by simp [CallPhase.watch], ?_⟩
    intro _
    unfold lookupIdempotent at found
    split at found
    · cases found
    · rename_i record hrecord
      split at found
      · cases found
      · rename_i hhash
        have hfound := find?_some hrecord
        have hkey := (of_decide_eq_true hfound).1
        have hstored := inv.records record (mem_of_find?_eq_some hrecord)
        rw [hkey, not_not.mp hhash] at hstored
        exact hstored
  | parses | owns | admits => exact ⟨by simp [CallPhase.watch], by simp [CallPhase.terminalId]⟩
  | undelivers request watch | refuses => exact ⟨hwatch, by simp [CallPhase.terminalId]⟩
  | @hears watch owns terminalId deduplicated published =>
    refine ⟨hwatch, ?_⟩
    intro _
    obtain ⟨-, hopened⟩ := inv.values watch terminalId deduplicated published
    rw [← (hwatch watch rfl).2]
    exact hopened
  | reads => exact ⟨hwatch, hterminal⟩

section

variable (inv : OneBody env ⟨system, asked, opened⟩)
include inv

theorem OneBody.section
    (here : system.calls id = some (call, phase)) (moved : Section env system id call phase next)
    (ready : ∀ request, phase = .admitted request → Ready env system asked opened call) :
    OneBody env ⟨next, asked, opened⟩ := by
  obtain ⟨hwatch, hterminal⟩ := inv.calls id call phase here
  cases moved with
  | moves move => exact inv.setPhase (inv.moves here move)
  | registers request => exact inv.registers (ready request rfl) request
  | @joins request entry present =>
    obtain ⟨hmember, hkey⟩ := entry_of_pendingOpen present
    have hjoined := inv.narrow (updateWatch_narrows system entry.tx (f := Watch.subscribe)
      fun _ _ _ hvalue => hvalue)
    apply hjoined.setPhase
    refine ⟨?_, by simp [CallPhase.terminalId]⟩
    intro watch held
    cases held
    exact ⟨(inv.entries _ hmember).1, (ready request rfl).entries _ hmember hkey⟩
  | @delivers request watch slot inputTx channel =>
    have hsent := inv.narrow (.of_eq rfl rfl rfl rfl rfl : Narrows system
      (system.enqueue env call watch slot inputTx channel))
    exact hsent.setPhase ⟨hwatch, by simp [CallPhase.terminalId]⟩
  | abandons watch =>
    have hresolved := resolve_narrows system call.deviceId (call.requestId env) .unavailable
      (by simp)
    have hlogged := inv.narrow (⟨rfl, rfl, hresolved.nextWatch, hresolved.entries,
      hresolved.values⟩ : Narrows system
        { system with
          registry := (system.registry.resolveOpenRequest call.deviceId (call.requestId env)
            .unavailable).1
          failures := system.failures ++
            (system.registry.pendingOpen call.deviceId (call.requestId env)).toList.map
              fun entry => ⟨call.deviceId, call.requestId env, system.origins entry.tx,
                system.slotGeneration call.deviceId, .send id⟩ })
    exact hlogged.respond ⟨by simp [CallPhase.watch], by simp [CallPhase.terminalId]⟩
  | returns error held =>
    exact inv.respond ⟨by simp [CallPhase.watch], by simp [CallPhase.terminalId]⟩
  | retires watch owns error =>
    have hretired := inv.narrow (retire_narrows system env call owns)
    exact hretired.respond ⟨by simp [CallPhase.watch], by simp [CallPhase.terminalId]⟩
  | stores watch owns response =>
    have hopened : call.asked env ∈ opened := hterminal rfl
    unfold System.storeResponse
    have hstored : OneBody env ⟨{ system with
        idempotency := putIdempotent system.idempotency ⟨call.requestId env, call.identityId,
          env.sha256Bytes call.body, response.status, response⟩ }, asked, opened⟩ := by
      refine { inv with records := ?_ }
      intro record member
      unfold putIdempotent at member
      split at member
      · exact inv.records record member
      · rcases mem_append.mp member with hold | hnew
        · exact inv.records record hold
        · rw [mem_singleton.mp hnew]
          exact hopened
    exact hstored.setPhase ⟨hwatch, hterminal⟩
  | completes watch owns response =>
    have hretired := inv.narrow (retire_narrows system env call owns)
    exact hretired.respond ⟨by simp [CallPhase.watch], hterminal⟩

theorem OneBody.opens (pending : entry ∈ system.registry.pendingOpens) :
    OneBody env ⟨system, asked, opened ++ [asked entry.tx]⟩ := by
  have hkey := (inv.entries entry pending).2
  constructor
  · intro id call phase hcall
    obtain ⟨hwatch, hterminal⟩ := inv.calls id call phase hcall
    exact ⟨hwatch, fun named => mem_append_left _ (hterminal named)⟩
  · exact inv.entries
  · exact inv.inFlight
  · intro other member asked' hasked hsame
    rcases mem_append.mp hasked with hold | hnew
    · exact inv.settled other member asked' hold hsame
    · rw [mem_singleton.mp hnew] at hsame ⊢
      exact inv.inFlight entry pending other member (hkey.symm.trans hsame)
  · intro first member second member' hsame
    rcases mem_append.mp member with hold | hnew
    · rcases mem_append.mp member' with hold' | hnew'
      · exact inv.opened first hold second hold' hsame
      · rw [mem_singleton.mp hnew'] at hsame ⊢
        exact inv.settled entry pending first hold (hsame.trans hkey)
    · rw [mem_singleton.mp hnew] at hsame ⊢
      rcases mem_append.mp member' with hold' | hnew'
      · exact (inv.settled entry pending second hold' (hsame.symm.trans hkey)).symm
      · rw [mem_singleton.mp hnew']
  · intro watch terminalId deduplicated hvalue
    obtain ⟨hlt, hopened⟩ := inv.values watch terminalId deduplicated hvalue
    exact ⟨hlt, mem_append_left _ hopened⟩
  · intro record member
    exact mem_append_left _ (inv.records record member)

theorem OneBody.publish
    (pending : entry ∈ system.registry.pendingOpens) (known : asked entry.tx ∈ opened)
    (outcome : OpenOutcome) :
    OneBody env ⟨{ system with
      registry := system.registry.updateWatch entry.tx fun watch => watch.send outcome },
      asked, opened⟩ := by
  refine { inv with values := ?_ }
  intro watch terminalId deduplicated hvalue
  simp only [Registry.updateWatch, Function.update_apply] at hvalue
  split at hvalue
  · rename_i heq
    rw [heq]
    exact ⟨(inv.entries entry pending).1, known⟩
  · exact inv.values watch terminalId deduplicated hvalue

end

theorem OneBody.answer (inv : OneBody env ⟨system, asked, opened⟩) {generation : Nat}
    {connection : Connection} (here : system.connections generation = some connection)
    (requestId : Digest) (outcome : OpenOutcome) :
    OneBody env ⟨system.answer generation connection requestId outcome, asked,
      opened ++ (⟨system, asked, opened⟩ : Watched).opens (.answer generation requestId outcome)⟩ := by
  have hresolved : OneBody env ⟨{ system with
      registry := (system.registry.resolveOpenRequest connection.deviceId requestId outcome).1 },
      asked, opened ++ (⟨system, asked, opened⟩ : Watched).opens
        (.answer generation requestId outcome)⟩ := by
    cases outcome with
    | opened terminalId deduplicated =>
      cases hfound : system.registry.pendingOpen connection.deviceId requestId with
      | none =>
        simp only [Watched.opens, here, bind_some, hfound, toList_none, map_nil,
          append_nil, Registry.resolveOpenRequest]
        exact inv
      | some entry =>
        simp only [Watched.opens, here, bind_some, hfound, toList_some, map_cons,
          map_nil, Registry.resolveOpenRequest]
        have hpending := (entry_of_pendingOpen hfound).1
        exact (inv.opens hpending).publish hpending (by simp) _
    | declined | failed | unavailable =>
      simp only [Watched.opens, append_nil]
      exact inv.narrow (resolve_narrows system _ _ _ (by simp))
  exact hresolved.narrow (.of_eq rfl rfl rfl rfl rfl)

theorem receive_narrows {generation : Nat} {connection : Connection}
    (taken : system.receive generation connection = some next) : Narrows system next := by
  unfold System.receive at taken
  split at taken
  · cases taken
  · dsimp only at taken
    split at taken
    · cases taken
      exact .of_eq rfl rfl rfl rfl rfl
    · cases taken
      exact .of_eq rfl rfl rfl rfl rfl

theorem capabilities_narrows (system : System) (connection : Connection) (on : Bool) :
    Narrows system (system.capabilities connection on) := by
  unfold System.capabilities Registry.setPublisherOpenRequests
  split
  · exact .of_eq rfl rfl rfl rfl rfl
  · split
    · split
      · exact .of_eq rfl rfl rfl rfl rfl
      · exact .of_eq rfl rfl rfl rfl rfl
    · exact .of_eq rfl rfl rfl rfl rfl

theorem detachPublisher_narrows (system : System) (deviceId : Uuid) (generation : Nat) :
    Narrows system { system with
      registry := (system.registry.detachPublisher deviceId generation).1 } := by
  unfold Registry.detachPublisher
  split
  · split
    · exact .of_eq rfl rfl rfl rfl rfl
    · exact .of_eq rfl rfl rfl rfl rfl
  · exact .of_eq rfl rfl rfl rfl rfl

theorem OneBody.caller (inv : OneBody env ⟨system, asked, opened⟩)
    {input : CallInput} (here : system.calls id = some (call, phase))
    (moved : Section env system id call phase next)
    (allowed : keepsBody env ⟨system, asked, opened⟩ (.caller id input) = true) :
    OneBody env ⟨next, (⟨system, asked, opened⟩ : Watched).askedAfter env (.caller id input),
      opened⟩ := by
  by_cases hadmitted : ∃ request, phase = .admitted request
  · obtain ⟨request, rfl⟩ := hadmitted
    simp only [keepsBody, here, Bool.and_eq_true, List.all_eq_true, Bool.or_eq_true, bne_iff_ne,
      beq_iff_eq] at allowed
    simp only [Watched.askedAfter, here]
    refine (inv.prepare (call.asked env)).section here moved ?_
    intro _ _
    refine ⟨Function.update_self .., ?_, ?_⟩
    · intro entry member hsame
      rw [Function.update_of_ne (Nat.ne_of_lt (inv.entries entry member).1)]
      exact (allowed.1 entry member).resolve_left fun hother => hother hsame
    · intro other member hsame
      exact (allowed.2 other member).resolve_left fun hother => hother hsame
  · have hasked : (⟨system, asked, opened⟩ : Watched).askedAfter env (.caller id input) = asked := by
      simp only [Watched.askedAfter, here]
      split
      · rename_i heq
        cases heq
        exact absurd ⟨_, rfl⟩ hadmitted
      · rfl
    rw [hasked]
    exact inv.section here moved fun request heq => absurd ⟨request, heq⟩ hadmitted

theorem OneBody.step {after : Watched} {action : Action} (inv : OneBody env watched)
    (allowed : keepsBody env watched action = true)
    (taken : Watched.step env watched action = some after) : OneBody env after := by
  obtain ⟨system, asked, opened⟩ := watched
  obtain ⟨next, htaken, rfl⟩ := map_eq_some_iff.mp taken
  cases step_stepped htaken with
  | call call =>
    simp only [Watched.askedAfter, Watched.opens, append_nil]
    have hcounted := inv.narrow (.of_eq rfl rfl rfl rfl rfl : Narrows system
      { system with nextCall := system.nextCall + 1 })
    exact hcounted.setPhase ⟨by simp [CallPhase.watch], by simp [CallPhase.terminalId]⟩
  | caller here moved =>
    simp only [Watched.opens, append_nil]
    exact inv.caller here moved allowed
  | answer requestId outcome here => exact inv.answer here requestId outcome
  | attach | dropLease | closeReceiver =>
    simp only [Watched.askedAfter, Watched.opens, append_nil]
    exact inv.narrow (.of_eq rfl rfl rfl rfl rfl)
  | @attachFail generation deviceId =>
    simp only [Watched.askedAfter, Watched.opens, append_nil]
    have hfailed := inv.narrow (failDevice_narrows system deviceId (.attach generation))
    exact hfailed.narrow (.of_eq rfl rfl rfl rfl rfl)
  | @detachFail generation deviceId =>
    simp only [Watched.askedAfter, Watched.opens, append_nil]
    have hfailed := inv.narrow (failDevice_narrows system deviceId (.detach generation))
    exact hfailed.narrow (.of_eq rfl rfl rfl rfl rfl)
  | capabilities =>
    simp only [Watched.askedAfter, Watched.opens, append_nil]
    exact inv.narrow (capabilities_narrows system _ _)
  | receive here received =>
    simp only [Watched.askedAfter, Watched.opens, append_nil]
    exact inv.narrow (receive_narrows received)
  | detachRemove =>
    simp only [Watched.askedAfter, Watched.opens, append_nil]
    exact (inv.narrow (detachPublisher_narrows system _ _)).narrow (.of_eq rfl rfl rfl rfl rfl)

theorem OneBody.conflict (inv : OneBody env watched) {record : IdempotentResponse TerminalResponse}
    (stored : record ∈ watched.system.idempotency) (key : record.keyHash = call.requestId env)
    (owner : record.principalId = call.identityId)
    (other : record.requestHash ≠ env.sha256Bytes call.body) :
    lookupIdempotent watched.system.idempotency (call.requestId env) call.identityId
      (env.sha256Bytes call.body) = .error keyConflict := by
  unfold lookupIdempotent
  split
  · rename_i hmissing
    have := find?_eq_none.mp hmissing record stored
    simp [key, owner] at this
  · rename_i existing hexisting
    have hfound := find?_some hexisting
    obtain ⟨hkey, -⟩ := of_decide_eq_true hfound
    have hsame := inv.opened _ (inv.records existing (mem_of_find?_eq_some hexisting)) _
      (inv.records record stored) (hkey.trans key.symm)
    have hhash : existing.requestHash = record.requestHash := congrArg Asked.requestHash hsame
    rw [if_pos (hhash ▸ other)]
    rfl

theorem OneBody.bodiesApart (inv : OneBody env watched) : BodiesApart env watched := by
  constructor
  · intro id call status response hdone asked hasked hsame
    have hown : call.asked env ∈ watched.opened := (inv.calls _ _ _ hdone).2 rfl
    exact congrArg Asked.requestHash (inv.opened asked hasked _ hown hsame)
  · intro id call hstart hlooks record hstored hkey howner hother
    obtain ⟨hscope, henabled, hpresent⟩ := hlooks
    refine ⟨watched.system.setPhase id call (.done (.error keyConflict)), ?_, ?_⟩
    · have hnotNone : call.idempotencyKey.isNone = false := by
        rw [← not_isSome, hpresent]
        rfl
      simp only [Http.step, hstart, System.advance, System.lookupStored, hscope, henabled, hnotNone,
        inv.conflict hstored hkey howner hother, not_true_eq_false, Bool.false_eq_true, if_false]
    · simp [System.setPhase]

/-- In every run in which no call registers or joins while its key is in flight, or was answered
with a terminal, for another body: no success is reported for a key that stands for another
body, and a call that finds the other body's record is answered with a conflict. -/
theorem reused_key_conflicts {actions : List Action} {watched : Watched}
    (taken : run (restrict (Watched.step env) fun watched action =>
      keepsBody env watched action = true) Watched.initial actions = some watched) :
    BodiesApart env watched := by
  have hkept : ∀ state action after, OneBody env state → keepsBody env state action = true →
      Watched.step env state action = some after → OneBody env after :=
    fun _ _ _ inv hallowed hstep => inv.step hallowed hstep
  exact (restrict_invariant hkept OneBody.initial taken).bodiesApart

def otherCall : Call :=
  { keyedCall with body := [0x7B, 0x22, 0x63, 0x6F, 0x6C, 0x73, 0x22, 0x3A, 0x38, 0x30, 0x7D] }

def twoBodies : Env where
  sha256Text := keyedEnv.sha256Text
  sha256Bytes := fun body =>
    if body = otherCall.body then
      0x34d365c4c7e20bc325db55ed824aab2241255b802c4165b89e86699fd07f165d#256
    else keyedEnv.sha256Bytes body
  parse := fun body =>
    if body = otherCall.body then .ok ⟨none, some 80, none⟩ else .ok ⟨none, none, none⟩

/-- The second body is sent after the first one's record was stored. -/
def storedRun : List Action :=
  [.attach 1 "conn" .v2 4, .capabilities 1 true] ++ admission 0 ++ exchange 0 71 ++
    [.call otherCall, .caller 1 .proceed]

theorem reused_key_conflicts_in_storedRun :
    ∃ watched, run (restrict (Watched.step twoBodies) fun watched action =>
        keepsBody twoBodies watched action = true) Watched.initial storedRun = some watched ∧
      watched.system.calls 1 = some (otherCall, .done (.error keyConflict)) ∧
      BodiesApart twoBodies watched :=
  ⟨_, rfl, rfl, @reused_key_conflicts twoBodies storedRun _ rfl⟩

def joinedRun : List Action :=
  [.attach 1 "conn" .v2 4, .capabilities 1 true] ++ admission 0 ++
    [.caller 0 .proceed, .caller 0 .proceed, .call otherCall, .caller 1 .proceed,
      .caller 1 (.device (some ⟨1, "owner", .publisher, none⟩)), .caller 1 .proceed,
      .caller 1 .proceed, .receive 1,
      .answer 1 (keyedCall.requestId twoBodies) (.opened 71 false)] ++
    List.replicate 4 (.caller 0 .proceed) ++ List.replicate 4 (.caller 1 .proceed)

theorem other_body_joins : ¬ ∀ (actions : List Action) (watched : Watched),
      run (Watched.step twoBodies) Watched.initial actions = some watched →
        BodiesApart twoBodies watched := by
  intro claim
  have hapart := claim joinedRun _ rfl
  have hsame := hapart.answered 1 otherCall 201 ⟨71, false⟩ rfl (keyedCall.asked twoBodies)
    (mem_singleton_self _) rfl
  exact absurd hsame (by decide)

end Hypeterm.Http
