import Hypeterm.Http.Sections

/-! One idempotency key, one open request.  A call that missed the stored record
may still register after the record was stored and the entry retired; in every run
where no call does, a key is asked for once and every success names one terminal. -/
namespace Hypeterm.Http

open Library List Option
open Relay
open Function (update_apply update_self)

def SameKey (target call : Call) : Prop :=
  call.identityId = target.identityId ∧ call.deviceId = target.deviceId ∧
    call.idempotencyKey = target.idempotencyKey ∧ call.body = target.body

instance (target call : Call) : Decidable (SameKey target call) :=
  inferInstanceAs (Decidable (_ ∧ _ ∧ _ ∧ _))

theorem SameKey.requestId_eq {target call : Call} (same : SameKey target call) (env : Env) :
    call.requestId env = target.requestId env := by
  obtain ⟨hidentity, hdevice, hkey, -⟩ := same
  unfold Call.requestId Call.path
  rw [hidentity, hdevice, hkey]

/-- Calls under one key, and one connection that stays and opens a terminal for
each request it was handed. -/
def oneKey (target : Call) (system : System) : Action → Bool
  | .call call => decide (SameKey target call)
  | .attach deviceId _ _ _ =>
      decide (deviceId = target.deviceId ∧ system.registry.nextGeneration = 1)
  | .answer generation requestId (.opened _ _) =>
      match system.connections generation with
      | some connection => connection.unanswered.contains requestId
      | none => false
  | .caller _ _ | .capabilities _ _ | .receive _ => true
  | .answer _ _ _ | .attachFail _ | .dropLease _ | .closeReceiver _ | .detachFail _
  | .detachRemove _ => false

/-- A call registers only while the entry of its key is pending, or before any
response was stored under the key. -/
def registersInTime (env : Env) (system : System) : Action → Bool
  | .caller id _ =>
      match system.calls id with
      | some (call, .admitted _) =>
          (system.registry.pendingOpen call.deviceId (call.requestId env)).isSome ||
            !(system.idempotency.any fun record => record.keyHash = call.requestId env)
      | _ => true
  | _ => true

def Recorded (env : Env) (target : Call) (system : System) : Prop :=
  ∃ record ∈ system.idempotency, record.keyHash = target.requestId env

/-- Requests in the channel of the one connection, or received and not answered. -/
def outstanding (system : System) : Nat :=
  (system.registry.channels 1).queue.length +
    ((system.connections 1).map fun connection => connection.unanswered.length).getD 0

/-- What a call's phase says, when the only watch is watch 0 and `named` is the only
terminal any answer has named. -/
def Fits (env : Env) (target : Call) (named : Option Uuid) (system : System) : CallPhase → Prop
  | .start | .parsed _ | .owned _ | .admitted _ | .done (.error _) => True
  | .registered _ watch | .undelivered watch =>
      watch = 0 ∧ system.registry.nextWatch = 1 ∧ system.enqueued = []
  | .waiting watch _ => watch = 0 ∧ system.registry.nextWatch = 1
  | .refused watch owns _ => watch = 0 ∧ system.registry.nextWatch = 1 ∧ owns = false
  | .answered watch _ response | .storing watch _ response =>
      watch = 0 ∧ system.registry.nextWatch = 1 ∧ named = some response.terminalId
  | .stored watch _ response =>
      watch = 0 ∧ system.registry.nextWatch = 1 ∧ named = some response.terminalId ∧
        Recorded env target system
  | .done (.ok (_, response)) => named = some response.terminalId

def Ownerless (system : System) : Prop :=
  ∀ id call phase, system.calls id = some (call, phase) → phase.owns = false

structure Once (env : Env) (target : Call) (named : Option Uuid) (system : System) : Prop where
  same : ∀ id call phase, system.calls id = some (call, phase) → SameKey target call
  fits : ∀ id call phase, system.calls id = some (call, phase) → Fits env target named system phase
  owner : ∀ id₁ id₂ call₁ call₂ phase₁ phase₂, system.calls id₁ = some (call₁, phase₁) →
    system.calls id₂ = some (call₂, phase₂) → phase₁.owns = true → phase₂.owns = true → id₁ = id₂
  pending : ∀ entry ∈ system.registry.pendingOpens, entry.deviceId = target.deviceId ∧
    entry.requestId = target.requestId env ∧ entry.tx = 0
  begun : system.registry.nextWatch ≤ 1
  untouched : system.registry.nextWatch = 0 →
    system.registry.pendingOpens = [] ∧ system.idempotency = [] ∧ system.enqueued = []
  retired : system.registry.nextWatch = 1 → system.registry.pendingOpens = [] →
    Recorded env target system
  outcome : ∀ outcome, (system.registry.watches 0).value = some outcome →
    (outcome = .unavailable ∧ Ownerless system) ∨
      ∃ terminalId deduplicated, outcome = .opened terminalId deduplicated ∧ named = some terminalId
  records : ∀ record ∈ system.idempotency, named = some record.body.terminalId
  asked : system.enqueued.length ≤ 1
  balance : outstanding system + named.toList.length ≤ system.enqueued.length
  channel : ∀ deviceId slot inputTx, system.registry.publishers deviceId = some slot →
    slot.inputTx = some inputTx → inputTx = 1
  connection : ∀ generation connection, system.connections generation = some connection →
    generation = 1

variable {env : Env} {target : Call} {named : Option Uuid} {system next : System} {id : Nat}
  {call : Call}

variable {phase before : CallPhase} {watch generation : Nat} {request : CreateTerminalRequest}

theorem Fits.mono {named' : Option Uuid} (fits : Fits env target named system phase)
    (nextWatch : system.registry.nextWatch = 1 → next.registry.nextWatch = 1)
    (enqueued : phase.owns = true → system.enqueued = [] → next.enqueued = [])
    (recorded : Recorded env target system → Recorded env target next)
    (named_mono : ∀ terminalId, named = some terminalId → named' = some terminalId) :
    Fits env target named' next phase := by
  cases phase with
  | start | parsed | owned | admitted => trivial
  | registered | undelivered => exact ⟨fits.1, nextWatch fits.2.1, enqueued rfl fits.2.2⟩
  | waiting => exact ⟨fits.1, nextWatch fits.2⟩
  | refused => exact ⟨fits.1, nextWatch fits.2.1, fits.2.2⟩
  | answered | storing => exact ⟨fits.1, nextWatch fits.2.1, named_mono _ fits.2.2⟩
  | stored =>
    exact ⟨fits.1, nextWatch fits.2.1, named_mono _ fits.2.2.1, recorded fits.2.2.2⟩
  | done result =>
    cases result with
    | error => trivial
    | ok => exact named_mono _ fits

theorem Fits.of_watch (fits : Fits env target named system phase)
    (held : phase.watch = some watch) : watch = 0 ∧ system.registry.nextWatch = 1 := by
  cases phase with
  | start | parsed | owned | admitted | done => cases held
  | waiting =>
    cases held
    exact fits
  | registered | undelivered | refused | answered | storing | stored =>
    cases held
    exact ⟨fits.1, fits.2.1⟩

theorem CallPhase.watch_of_owns (owns : phase.owns = true) : ∃ watch, phase.watch = some watch := by
  cases phase with
  | start | parsed | owned | admitted | done => cases owns
  | registered | undelivered | waiting | refused | answered | storing | stored => exact ⟨_, rfl⟩

theorem Once.unowned (once : Once env target named system)
    (untouched : system.registry.nextWatch = 0) : Ownerless system := by
  intro id call phase hcall
  cases howns : phase.owns with
  | false => rfl
  | true =>
    obtain ⟨watch, hwatch⟩ := phase.watch_of_owns howns
    have := ((once.fits id call phase hcall).of_watch hwatch).2
    omega

theorem Once.initial : Once env target none System.initial where
  same := by simp [System.initial]
  fits := by simp [System.initial]
  owner := by simp [System.initial]
  pending := by simp [System.initial, Registry.new]
  begun := by simp [System.initial, Registry.new]
  untouched := by simp [System.initial, Registry.new]
  retired := by simp [System.initial, Registry.new]
  outcome := by simp [System.initial, Registry.new, Watch.new]
  records := by simp [System.initial]
  asked := by simp [System.initial]
  balance := by simp [System.initial, outstanding, Registry.new, Channel.closeReceiver]
  channel := by simp [System.initial, Registry.new]
  connection := by simp [System.initial]

section

variable (once : Once env target named system)
include once

/-- A call's own move: it keeps what the others rely on when it neither becomes an
owner nor contradicts the state. -/
theorem Once.setPhase (same : SameKey target call) (fits : Fits env target named system phase)
    (owner : phase.owns = true → ∀ other call' phase', other ≠ id →
      system.calls other = some (call', phase') → phase'.owns = false)
    (unavailable : phase.owns = true → (system.registry.watches 0).value ≠ some .unavailable) :
    Once env target named (system.setPhase id call phase) where
  same := by
    intro other call' phase' hcall
    simp only [System.setPhase, update_apply] at hcall
    split at hcall
    · cases hcall
      exact same
    · exact once.same _ _ _ hcall
  fits := by
    intro other call' phase' hcall
    simp only [System.setPhase, update_apply] at hcall
    split at hcall
    · cases hcall
      exact fits
    · exact once.fits _ _ _ hcall
  owner := by
    intro id₁ id₂ call₁ call₂ phase₁ phase₂ hcall₁ hcall₂ howns₁ howns₂
    simp only [System.setPhase, update_apply] at hcall₁ hcall₂
    split at hcall₁
    · rename_i hid₁
      split at hcall₂
      · rename_i hid₂
        rw [hid₁, hid₂]
      · rename_i hid₂
        cases hcall₁
        have := owner howns₁ _ _ _ hid₂ hcall₂
        rw [howns₂] at this
        cases this
    · rename_i hid₁
      split at hcall₂
      · cases hcall₂
        have := owner howns₂ _ _ _ hid₁ hcall₁
        rw [howns₁] at this
        cases this
      · exact once.owner _ _ _ _ _ _ hcall₁ hcall₂ howns₁ howns₂
  pending := once.pending
  begun := once.begun
  untouched := once.untouched
  retired := once.retired
  outcome := by
    intro outcome hvalue
    cases once.outcome outcome hvalue with
    | inr opened => exact .inr opened
    | inl failed =>
      refine .inl ⟨failed.1, ?_⟩
      intro other call' phase' hcall
      simp only [System.setPhase, update_apply] at hcall
      split at hcall
      · cases hcall
        cases howns : phase.owns with
        | false => rfl
        | true => exact absurd (failed.1 ▸ hvalue) (unavailable howns)
      · exact failed.2 _ _ _ hcall
  records := once.records
  asked := once.asked
  balance := once.balance
  channel := once.channel
  connection := once.connection

theorem Once.setPhase_of_owns {after : CallPhase}
    (here : system.calls id = some (call, before)) (fits : Fits env target named system after)
    (owns : after.owns = true → before.owns = true) :
    Once env target named (system.setPhase id call after) := by
  refine once.setPhase (once.same _ _ _ here) fits ?_ ?_
  · intro howns other call' phase' hother hcall
    cases howns' : phase'.owns with
    | false => rfl
    | true => exact absurd (once.owner _ _ _ _ _ _ hcall here howns' (owns howns)) hother
  · intro howns hvalue
    cases once.outcome _ hvalue with
    | inl failed =>
      have := failed.2 _ _ _ here
      rw [owns howns] at this
      cases this
    | inr opened =>
      obtain ⟨_, _, hopened, -⟩ := opened
      cases hopened

theorem Once.updateWatch (watch : Nat)
    {f : Watch OpenOutcome → Watch OpenOutcome} (keeps : ∀ watch, (f watch).value = watch.value) :
    Once env target named { system with registry := system.registry.updateWatch watch f } where
  same := once.same
  fits := once.fits
  owner := once.owner
  pending := once.pending
  begun := once.begun
  untouched := once.untouched
  retired := once.retired
  outcome := by
    intro outcome hvalue
    apply once.outcome
    simp only [Registry.updateWatch, update_apply] at hvalue
    split at hvalue
    · rename_i hwatch
      rw [keeps] at hvalue
      rwa [hwatch]
    · exact hvalue
  records := once.records
  asked := once.asked
  balance := once.balance
  channel := once.channel
  connection := once.connection

theorem Once.respond (watch : Nat) {result : Except ApiError (Nat × TerminalResponse)}
    (here : system.calls id = some (call, before))
    (fits : Fits env target named system (.done result)) :
    Once env target named (system.respond id call watch result) := by
  have hdropped := once.updateWatch watch (f := Watch.dropReceiver) fun _ => rfl
  exact hdropped.setPhase_of_owns here fits fun howns => by cases howns

theorem Once.pendingOpens_eq_nil
    (absent : system.registry.pendingOpen target.deviceId (target.requestId env) = none) :
    system.registry.pendingOpens = [] := by
  apply eq_nil_iff_forall_not_mem.mpr
  intro entry hentry
  obtain ⟨hdevice, hrequest, -⟩ := once.pending entry hentry
  have := find?_eq_none.mp absent entry hentry
  simp [hdevice, hrequest] at this

theorem Once.tx_eq_zero {deviceId : Uuid} {requestId : Digest}
    {entry : PendingOpen} (present : system.registry.pendingOpen deviceId requestId = some entry) :
    entry.tx = 0 ∧ system.registry.nextWatch = 1 := by
  have hmem : entry ∈ system.registry.pendingOpens := mem_of_find?_eq_some present
  refine ⟨(once.pending entry hmem).2.2, ?_⟩
  have hbegun := once.begun
  have : system.registry.nextWatch ≠ 0 := by
    intro huntouched
    rw [(once.untouched huntouched).1] at hmem
    cases hmem
  omega

theorem Once.registers (here : system.calls id = some (call, .admitted request))
    (untouched : system.registry.nextWatch = 0) :
    Once env target named ((system.registerFresh env call).setPhase id call
      (.registered request system.registry.nextWatch)) := by
  have hsame := once.same _ _ _ here
  have hunowned := once.unowned untouched
  obtain ⟨hpending, hrecords, henqueued⟩ := once.untouched untouched
  have hregistered : Once env target named (system.registerFresh env call) := {
    same := once.same
    fits := by
      intro other call' phase hcall
      exact (once.fits _ _ _ hcall).mono (by omega) (fun _ h => h) (fun h => h) (fun _ h => h)
    owner := once.owner
    pending := by
      intro entry hentry
      simp only [System.registerFresh, hpending, nil_append, mem_singleton] at hentry
      rw [hentry]
      exact ⟨hsame.2.1, hsame.requestId_eq env, untouched⟩
    begun := by simp [System.registerFresh, untouched]
    untouched := by simp [System.registerFresh]
    retired := by simp [System.registerFresh]
    outcome := by simp [System.registerFresh, untouched, Watch.new]
    records := once.records
    asked := once.asked
    balance := once.balance
    channel := once.channel
    connection := once.connection }
  refine hregistered.setPhase hsame ⟨untouched, by simp [System.registerFresh, untouched], henqueued⟩
    ?_ ?_
  · intro _ other call' phase' _ hcall
    exact hunowned _ _ _ hcall
  · intro _ hvalue
    simp [System.registerFresh, untouched, Watch.new] at hvalue

theorem Once.nextWatch_of_registersInTime {input : CallInput}
    (here : system.calls id = some (call, .admitted request))
    (absent : system.registry.pendingOpen call.deviceId (call.requestId env) = none)
    (inTime : registersInTime env system (.caller id input) = true) :
    system.registry.nextWatch = 0 := by
  have hsame := once.same _ _ _ here
  have hbegun := once.begun
  have hunrecorded : ¬ Recorded env target system := by
    rintro ⟨record, hrecord, hkey⟩
    simp only [registersInTime, here, absent, isSome_none, Bool.false_or, Bool.not_eq_true',
      List.any_eq_false, decide_eq_true_eq] at inTime
    exact inTime record hrecord (hkey.trans (hsame.requestId_eq env).symm)
  have hnil : system.registry.pendingOpens = [] := by
    apply once.pendingOpens_eq_nil
    rw [← hsame.2.1, ← hsame.requestId_eq env]
    exact absent
  have : system.registry.nextWatch ≠ 1 := fun hone => hunrecorded (once.retired hone hnil)
  omega

end

theorem Once.delivers (once : Once env target named system)
    {slot : PublisherSlot} {inputTx : Nat} {channel : Channel PublisherDelivery}
    {delivery : PublisherDelivery}
    (here : system.calls id = some (call, .registered request watch))
    (connected : system.registry.publishers call.deviceId = some slot)
    (open_eq : slot.inputTx = some inputTx)
    (sent : (system.registry.channels inputTx).trySend delivery = .ok channel) :
    Once env target named ((system.enqueue env call watch slot inputTx channel).setPhase id call
      (.waiting watch true)) := by
  have hinputTx := once.channel _ _ _ connected open_eq
  subst hinputTx
  obtain ⟨-, -, hchannel⟩ := Channel.trySend_ok sent
  have hfits : watch = 0 ∧ system.registry.nextWatch = 1 ∧ system.enqueued = [] :=
    once.fits _ _ _ here
  have hothers : ∀ other call' phase', other ≠ id → system.calls other = some (call', phase') →
      phase'.owns = false := by
    intro other call' phase' hother hcall
    cases howns : phase'.owns with
    | false => rfl
    | true => exact absurd (once.owner _ _ _ _ _ _ hcall here howns rfl) hother
  -- The call stands aside while the request enters the channel: its old phase says
  -- that nothing has been enqueued.
  have haside : Once env target named (system.setPhase id call (.waiting watch true)) :=
    once.setPhase_of_owns here ⟨hfits.1, hfits.2.1⟩ fun _ => rfl
  exact {
    same := haside.same
    fits := by
      intro other call' phase' hcall
      have hbefore := haside.fits _ _ _ hcall
      simp only [System.setPhase, update_apply] at hcall
      split at hcall
      · cases hcall
        exact hbefore
      · rename_i hother
        refine hbefore.mono (fun h => h) ?_ (fun h => h) (fun _ h => h)
        intro howns
        rw [hothers _ _ _ hother hcall] at howns
        cases howns
    owner := haside.owner
    pending := haside.pending
    begun := haside.begun
    untouched := fun huntouched => by
      have : system.registry.nextWatch = 0 := huntouched
      omega
    retired := haside.retired
    outcome := haside.outcome
    records := haside.records
    asked := by simp [System.enqueue, System.setPhase, hfits.2.2]
    balance := by
      have hbalance := once.balance
      simp only [outstanding, System.setPhase, System.enqueue, update_self, hchannel,
        length_append, length_singleton] at hbalance ⊢
      omega
    channel := haside.channel
    connection := haside.connection }

theorem Once.resolve (once : Once env target named system) (deviceId : Uuid) (requestId : Digest)
    {outcome : OpenOutcome} (failures : List Failure)
    (agrees : (outcome = .unavailable ∧ Ownerless system) ∨
      ∃ terminalId deduplicated, outcome = .opened terminalId deduplicated ∧
        named = some terminalId) :
    Once env target named { system with
      registry := (system.registry.resolveOpenRequest deviceId requestId outcome).1
      failures } := by
  unfold Registry.resolveOpenRequest
  split
  · exact ⟨once.same, once.fits, once.owner, once.pending, once.begun, once.untouched, once.retired,
      once.outcome, once.records, once.asked, once.balance, once.channel, once.connection⟩
  · rename_i entry hpresent
    have htx := (once.tx_eq_zero hpresent).1
    exact {
      same := once.same
      fits := once.fits
      owner := once.owner
      pending := once.pending
      begun := once.begun
      untouched := once.untouched
      retired := once.retired
      outcome := by
        intro published hvalue
        simp only [Registry.updateWatch, htx, update_self, Watch.send] at hvalue
        split at hvalue
        · exact once.outcome _ hvalue
        · cases hvalue
          exact agrees
      records := once.records
      asked := once.asked
      balance := once.balance
      channel := once.channel
      connection := once.connection }

theorem Once.abandons (once : Once env target named system)
    (here : system.calls id = some (call, .undelivered watch)) :
    Once env target named (system.abandon env id call watch) := by
  -- The owner leaves first; what it publishes then meets no owner.
  have hleft : Once env target named (system.setPhase id call (.done (.error
      (.publisherUnavailable "that device could not be reached")))) :=
    once.setPhase_of_owns here trivial fun howns => by cases howns
  have hownerless : Ownerless (system.setPhase id call (.done (.error
      (.publisherUnavailable "that device could not be reached")))) := by
    intro other call' phase' hcall
    simp only [System.setPhase, update_apply] at hcall
    split at hcall
    · cases hcall
      rfl
    · rename_i hother
      cases howns : phase'.owns with
      | false => rfl
      | true => exact absurd (once.owner _ _ _ _ _ _ hcall here howns rfl) hother
  have hresolved := hleft.resolve call.deviceId (call.requestId env) (system.failures ++
    (system.registry.pendingOpen call.deviceId (call.requestId env)).toList.map fun entry =>
      ⟨call.deviceId, call.requestId env, system.origins entry.tx,
        system.slotGeneration call.deviceId, .send id⟩) (.inl ⟨rfl, hownerless⟩)
  exact hresolved.updateWatch watch (f := Watch.dropReceiver) fun _ => rfl

theorem recorded_put (record : IdempotentResponse TerminalResponse)
    (key_eq : record.keyHash = target.requestId env) :
    Recorded env target
      { system with idempotency := putIdempotent system.idempotency record } := by
  unfold Recorded putIdempotent
  split
  · rename_i hany
    simpa [key_eq] using hany
  · exact ⟨record, by simp, key_eq⟩

theorem mem_putIdempotent {records : List (IdempotentResponse TerminalResponse)}
    {record stored : IdempotentResponse TerminalResponse}
    (mem : stored ∈ putIdempotent records record) : stored ∈ records ∨ stored = record := by
  unfold putIdempotent at mem
  split at mem
  · exact .inl mem
  · simpa using mem

theorem Recorded.put (recorded : Recorded env target system)
    (record : IdempotentResponse TerminalResponse) :
    Recorded env target
      { system with idempotency := putIdempotent system.idempotency record } := by
  obtain ⟨stored, hstored, hkey⟩ := recorded
  refine ⟨stored, ?_, hkey⟩
  simp only [putIdempotent]
  split
  · exact hstored
  · exact mem_append_left _ hstored

theorem Once.stores (once : Once env target named system) {owns : Bool}
    {response : TerminalResponse}
    (here : system.calls id = some (call, .storing watch owns response)) :
    Once env target named (system.storeResponse env id call watch owns response) := by
  have hkey := (once.same _ _ _ here).requestId_eq env
  have hfits : watch = 0 ∧ system.registry.nextWatch = 1 ∧ named = some response.terminalId :=
    once.fits _ _ _ here
  have hput : Once env target named { system with
      idempotency := putIdempotent system.idempotency
        ⟨call.requestId env, call.identityId, env.sha256Bytes call.body, response.status,
          response⟩ } := {
    same := once.same
    fits := by
      intro other call' phase' hcall
      exact (once.fits _ _ _ hcall).mono (fun h => h) (fun _ h => h) (fun h => h.put _) fun _ h => h
    owner := once.owner
    pending := once.pending
    begun := once.begun
    untouched := fun huntouched => by
      have : system.registry.nextWatch = 0 := huntouched
      omega
    retired := fun _ _ => recorded_put _ hkey
    outcome := once.outcome
    records := by
      intro stored hstored
      cases mem_putIdempotent hstored with
      | inl old => exact once.records _ old
      | inr new =>
        rw [new]
        exact hfits.2.2
    asked := once.asked
    balance := once.balance
    channel := once.channel
    connection := once.connection }
  exact hput.setPhase_of_owns here ⟨hfits.1, hfits.2.1, hfits.2.2, recorded_put _ hkey⟩ fun h => h

theorem Once.retire (once : Once env target named system) (owns : Bool)
    (recorded : Recorded env target system) : Once env target named (system.retire env call owns) := by
  cases owns with
  | false => exact once
  | true =>
    simp only [System.retire, ↓reduceIte, Registry.finishOpenRequest]
    split
    · exact once
    · rename_i entry hpresent
      have hnext := (once.tx_eq_zero hpresent).2
      have hdropped := once.updateWatch entry.tx (f := Watch.dropSender) fun _ => rfl
      exact {
        same := once.same
        fits := once.fits
        owner := once.owner
        pending := fun _ hentry => once.pending _ (mem_filter.mp hentry).1
        begun := once.begun
        untouched := fun huntouched => by
          have : system.registry.nextWatch = 0 := huntouched
          omega
        retired := fun _ _ => recorded
        outcome := hdropped.outcome
        records := once.records
        asked := once.asked
        balance := once.balance
        channel := once.channel
        connection := once.connection }

theorem lookupIdempotent_some {Body : Type} {records : List (IdempotentResponse Body)}
    {hash requestHash : Digest} {scope : String} {replayed : Nat × Body}
    (found : lookupIdempotent records hash scope requestHash = .ok (some replayed)) :
    ∃ record ∈ records, record.body = replayed.2 := by
  unfold lookupIdempotent at found
  split at found
  · cases found
  · rename_i record hrecord
    split at found
    · cases found
    · cases found
      exact ⟨record, mem_of_find?_eq_some hrecord, rfl⟩

theorem Once.moves (once : Once env target named system) {after : CallPhase}
    (here : system.calls id = some (call, before)) (move : Moves env system call before after) :
    Once env target named (system.setPhase id call after) := by
  have hfits := once.fits _ _ _ here
  cases move with
  | fails => exact once.setPhase_of_owns here trivial fun howns => by cases howns
  | replays found =>
    obtain ⟨record, hrecord, hbody⟩ := lookupIdempotent_some found
    have hnamed := once.records record hrecord
    rw [hbody] at hnamed
    exact once.setPhase_of_owns here hnamed fun howns => by cases howns
  | parses | owns | admits =>
    exact once.setPhase_of_owns here trivial fun howns => by cases howns
  | undelivers => exact once.setPhase_of_owns here hfits fun _ => rfl
  | refuses owns error published refusal =>
    obtain ⟨rfl, hnext⟩ := hfits
    cases once.outcome _ published with
    | inl failed =>
      exact once.setPhase_of_owns here ⟨rfl, hnext, failed.2 _ _ _ here⟩ fun howns => howns
    | inr opened =>
      obtain ⟨terminalId, deduplicated, hopened, -⟩ := opened
      exact absurd hopened (refusal _ _)
  | hears owns published =>
    obtain ⟨rfl, hnext⟩ := hfits
    cases once.outcome _ published with
    | inl failed => cases failed.1
    | inr opened =>
      obtain ⟨_, _, hopened, hnamed⟩ := opened
      cases hopened
      exact once.setPhase_of_owns here ⟨rfl, hnext, hnamed⟩ fun howns => howns
  | reads => exact once.setPhase_of_owns here hfits fun howns => howns

theorem Once.advance (once : Once env target named system) {input : CallInput}
    (here : system.calls id = some (call, phase))
    (inTime : registersInTime env system (.caller id input) = true)
    (taken : Section env system id call phase next) : Once env target named next := by
  cases taken with
  | moves move => exact once.moves here move
  | registers request absent =>
    exact once.registers here (once.nextWatch_of_registersInTime here absent inTime)
  | @joins request entry present =>
    have hjoined := once.updateWatch entry.tx (f := Watch.subscribe) fun _ => rfl
    exact hjoined.setPhase_of_owns here (once.tx_eq_zero present) fun howns => by cases howns
  | delivers request watch connected open_eq sent => exact once.delivers here connected open_eq sent
  | abandons => exact once.abandons here
  | returns => exact once.respond _ here trivial
  | retires watch owns error =>
    have hfits : watch = 0 ∧ system.registry.nextWatch = 1 ∧ owns = false := once.fits _ _ _ here
    rw [hfits.2.2]
    exact once.respond _ here trivial
  | stores => exact once.stores here
  | completes watch owns response =>
    have hfits : watch = 0 ∧ system.registry.nextWatch = 1 ∧ named = some response.terminalId ∧
        Recorded env target system := once.fits _ _ _ here
    have hretired : Once env target named (system.retire env call owns) :=
      once.retire owns hfits.2.2.2
    have hcalls : (system.retire env call owns).calls = system.calls := by
      cases owns <;> rfl
    exact hretired.respond _ (hcalls ▸ here) hfits.2.2.1

theorem Once.of_eq (once : Once env target named system)
    (calls_eq : next.calls = system.calls) (idempotency_eq : next.idempotency = system.idempotency)
    (enqueued_eq : next.enqueued = system.enqueued)
    (pendingOpens_eq : next.registry.pendingOpens = system.registry.pendingOpens)
    (watches_eq : next.registry.watches = system.registry.watches)
    (nextWatch_eq : next.registry.nextWatch = system.registry.nextWatch)
    (outstanding_le : outstanding next ≤ outstanding system)
    (channel : ∀ deviceId slot inputTx, next.registry.publishers deviceId = some slot →
      slot.inputTx = some inputTx → inputTx = 1)
    (connection : ∀ generation connection, next.connections generation = some connection →
      generation = 1) :
    Once env target named next := by
  have hrecorded : Recorded env target system → Recorded env target next := by
    unfold Recorded
    rw [idempotency_eq]
    exact fun h => h
  have hownerless : Ownerless system → Ownerless next := by
    unfold Ownerless
    rw [calls_eq]
    exact fun h => h
  refine
    { same := calls_eq ▸ once.same, fits := ?_, owner := calls_eq ▸ once.owner
      pending := pendingOpens_eq ▸ once.pending, begun := nextWatch_eq ▸ once.begun
      untouched := ?_, retired := ?_, outcome := ?_, records := idempotency_eq ▸ once.records
      asked := enqueued_eq ▸ once.asked, balance := ?_, channel, connection }
  · intro id call phase hcall
    rw [calls_eq] at hcall
    exact (once.fits _ _ _ hcall).mono (by rw [nextWatch_eq]; exact fun h => h)
      (by rw [enqueued_eq]; exact fun _ h => h) hrecorded fun _ h => h
  · rw [nextWatch_eq, pendingOpens_eq, idempotency_eq, enqueued_eq]
    exact once.untouched
  · rw [nextWatch_eq, pendingOpens_eq]
    exact fun hnext hnil => hrecorded (once.retired hnext hnil)
  · intro outcome hvalue
    rw [watches_eq] at hvalue
    cases once.outcome _ hvalue with
    | inl failed => exact .inl ⟨failed.1, hownerless failed.2⟩
    | inr opened => exact .inr opened
  · have hbalance := once.balance
    rw [enqueued_eq]
    omega

theorem Once.attach (once : Once env target named system)
    (first : system.registry.nextGeneration = 1) (deviceId : Uuid) (connectionId : String)
    (version : ProtocolVersion) (inputQueue : Nat) :
    Once env target named (system.attach deviceId connectionId version inputQueue) := by
  refine once.of_eq rfl rfl rfl rfl rfl rfl ?_ ?_ ?_
  · simp only [outstanding, System.attach, System.setConnection, Registry.attachPublisher, first,
      update_self, map_some, getD_some, length_nil]
    cases version.supportsInput
    · simp
    · simp [Channel.new]
  · intro device slot inputTx hslot htx
    simp only [System.attach, System.setConnection, Registry.attachPublisher, first,
      update_apply] at hslot
    split at hslot
    · cases hslot
      simp only [map_eq_some_iff] at htx
      obtain ⟨_, _, htx⟩ := htx
      exact htx.symm
    · exact once.channel _ _ _ hslot htx
  · intro generation connection hconnection
    simp only [System.attach, System.setConnection, Registry.attachPublisher, first,
      update_apply] at hconnection
    split at hconnection
    · assumption
    · exact once.connection _ _ hconnection

theorem Once.capabilities (once : Once env target named system) (connection : Connection)
    (on : Bool) : Once env target named (system.capabilities connection on) := by
  unfold System.capabilities Registry.setPublisherOpenRequests
  split
  · exact once
  split
  · rename_i slot hslot
    split
    · refine once.of_eq rfl rfl rfl rfl rfl rfl (Nat.le_refl _) ?_ once.connection
      intro device other inputTx hother htx
      simp only [update_apply] at hother
      split at hother
      · cases hother
        exact once.channel _ _ _ hslot htx
      · exact once.channel _ _ _ hother htx
    · exact once
  · exact once

theorem Once.setConnection_mem (once : Once env target named system)
    {before after : Connection} (here : system.connections generation = some before) :
    ∀ other connection, (system.setConnection generation after).connections other =
      some connection → other = 1 := by
  intro other connection hconnection
  simp only [System.setConnection, update_apply] at hconnection
  split at hconnection
  · rename_i hother
    rw [hother]
    exact once.connection _ _ here
  · exact once.connection _ _ hconnection

theorem Once.receive (once : Once env target named system)
    {connection : Connection} (here : system.connections generation = some connection)
    (taken : system.receive generation connection = some next) : Once env target named next := by
  have hgeneration := once.connection _ _ here
  subst hgeneration
  unfold System.receive Channel.recv at taken
  cases hqueue : (system.registry.channels 1).queue with
  | nil => simp [hqueue] at taken
  | cons delivery rest =>
    simp only [hqueue] at taken
    split at taken
    · cases taken
      refine once.of_eq rfl rfl rfl rfl rfl rfl ?_ once.channel (once.setConnection_mem here)
      simp only [outstanding, System.setConnection, update_self, here, hqueue,
        map_some, getD_some, length_append, length_cons]
      simp only [length_nil]
      omega
    · cases taken
      refine once.of_eq rfl rfl rfl rfl rfl rfl ?_ once.channel once.connection
      simp only [outstanding, update_self, hqueue, length_cons]
      omega

theorem Once.name (once : Once env target none system) (terminalId : Uuid)
    (room : outstanding system < system.enqueued.length) :
    Once env target (some terminalId) system where
  same := once.same
  fits := fun _ _ _ hcall => (once.fits _ _ _ hcall).mono (fun h => h) (fun _ h => h) (fun h => h)
    fun _ h => by cases h
  owner := once.owner
  pending := once.pending
  begun := once.begun
  untouched := once.untouched
  retired := once.retired
  outcome := by
    intro outcome hvalue
    cases once.outcome _ hvalue with
    | inl failed => exact .inl failed
    | inr opened =>
      obtain ⟨_, _, _, hnamed⟩ := opened
      cases hnamed
  records := by
    intro record hrecord
    cases once.records record hrecord
  asked := once.asked
  balance := by
    simp only [toList_some, length_singleton]
    omega
  channel := once.channel
  connection := once.connection

theorem Once.answer (once : Once env target named system) {connection : Connection}
    (here : system.connections generation = some connection) {requestId : Digest}
    (asked : requestId ∈ connection.unanswered) (terminalId : Uuid) (deduplicated : Bool) :
    Once env target (some terminalId)
      (system.answer generation connection requestId (.opened terminalId deduplicated)) := by
  have hgeneration := once.connection _ _ here
  subst hgeneration
  have hlength := length_erase_of_mem asked
  have hpositive := length_pos_of_mem asked
  -- One request was enqueued and it is this one, so no answer came before.
  have hbefore : outstanding system =
      (system.registry.channels 1).queue.length + connection.unanswered.length := by
    simp only [outstanding, here, map_some, getD_some]
  have hafter : outstanding (system.setConnection 1
      { connection with unanswered := connection.unanswered.erase requestId }) + 1 =
        outstanding system := by
    rw [hbefore]
    simp only [outstanding, System.setConnection, update_self, map_some, getD_some, hlength]
    omega
  have hbalance := once.balance
  have hasked := once.asked
  have hnamed : named = none := by
    apply eq_none_of_isNone
    cases named with
    | none => rfl
    | some _ =>
      simp only [toList_some, length_singleton] at hbalance
      omega
  subst hnamed
  have herased : Once env target none (system.setConnection 1
      { connection with unanswered := connection.unanswered.erase requestId }) :=
    once.of_eq rfl rfl rfl rfl rfl rfl (by omega) once.channel (once.setConnection_mem here)
  have henqueued : (system.setConnection 1
      { connection with unanswered := connection.unanswered.erase requestId }).enqueued =
        system.enqueued := rfl
  have hroom : outstanding system ≤ system.enqueued.length := by
    simpa using hbalance
  have hnamed := herased.name terminalId (by rw [henqueued]; omega)
  exact hnamed.resolve connection.deviceId requestId _ (.inr ⟨terminalId, deduplicated, rfl, rfl⟩)

theorem Once.step (once : Once env target named system) {action : Action}
    (allowed : oneKey target system action = true)
    (inTime : registersInTime env system action = true)
    (taken : Http.step env system action = some next) : ∃ named', Once env target named' next := by
  cases step_stepped taken with
  | call call =>
    have hsame : SameKey target call := by simpa [oneKey] using allowed
    have hcounted : Once env target named { system with nextCall := system.nextCall + 1 } :=
      once.of_eq rfl rfl rfl rfl rfl rfl (Nat.le_refl _) once.channel once.connection
    exact ⟨named, hcounted.setPhase hsame trivial (fun howns => by cases howns)
      fun howns => by cases howns⟩
  | caller here moved => exact ⟨named, once.advance here inTime moved⟩
  | attach =>
    simp only [oneKey, decide_eq_true_eq] at allowed
    exact ⟨named, once.attach allowed.2 _ _ _ _⟩
  | capabilities => exact ⟨named, once.capabilities _ _⟩
  | receive here taken => exact ⟨named, once.receive here taken⟩
  | answer requestId outcome here =>
    cases outcome with
    | opened terminalId deduplicated =>
      simp only [oneKey, here, contains_iff_mem] at allowed
      exact ⟨_, once.answer here allowed terminalId deduplicated⟩
    | declined | failed | unavailable => cases allowed
  | attachFail | dropLease | closeReceiver | detachFail | detachRemove => cases allowed

/-- In every run of calls under one key, with a publisher that stays and opens what
it is asked for, in which no call registers after the key's record was stored and its
entry retired: one request is enqueued and every success names one terminal. -/
theorem one_request_one_terminal {actions : List Action}
    (taken : run (restrict (step env) fun system action =>
      oneKey target system action && registersInTime env system action) System.initial actions =
        some system) :
    system.enqueued.length ≤ 1 ∧
    ∀ id₁ id₂ call₁ call₂ status₁ status₂ response₁ response₂,
      system.calls id₁ = some (call₁, .done (.ok (status₁, response₁))) →
      system.calls id₂ = some (call₂, .done (.ok (status₂, response₂))) →
      response₁.terminalId = response₂.terminalId := by
  have hkept : ∀ state action after, (∃ named, Once env target named state) →
      (oneKey target state action && registersInTime env state action) = true →
      step env state action = some after → ∃ named, Once env target named after := by
    rintro state action after ⟨named, once⟩ hallowed hstep
    simp only [Bool.and_eq_true] at hallowed
    exact once.step hallowed.1 hallowed.2 hstep
  obtain ⟨named, once⟩ := restrict_invariant hkept ⟨none, Once.initial⟩ taken
  refine ⟨once.asked, ?_⟩
  intro id₁ id₂ call₁ call₂ status₁ status₂ response₁ response₂ hdone₁ hdone₂
  have hnamed₁ : named = some response₁.terminalId := once.fits _ _ _ hdone₁
  have hnamed₂ : named = some response₂.terminalId := once.fits _ _ _ hdone₂
  exact Option.some.inj (hnamed₁.symm.trans hnamed₂)

def keyedCall : Call :=
  ⟨"owner", "owner", ["terminals:create"], 1, some "key", [0x7B, 0x7D], true, 200, false, 4, 16⟩

/-- The library functions at `keyedCall`: the digests of its key text and of its body. -/
def keyedEnv : Env where
  sha256Text := fun _ => 0x67f7340f2d9e890db0441adabc8f38307e015b8ab6204a4d6cb1629fa3288029#256
  sha256Bytes := fun _ => 0x44136fa355b3678a1146ad16f7e8649e94fb4fc21fe77e8310c060f61caaff8a#256
  parse := fun _ => .ok ⟨none, none, none⟩

/-- The sections of a call up to the capability test. -/
def admission (id : Nat) : List Action :=
  [.call keyedCall, .caller id .proceed, .caller id (.device (some ⟨1, "owner", .publisher, none⟩)),
    .caller id .proceed]

/-- Registration and delivery, the publisher's answer, and the way to the response. -/
def exchange (id : Nat) (terminalId : Uuid) : List Action :=
  [.caller id .proceed, .caller id .proceed, .receive 1,
    .answer 1 (keyedCall.requestId keyedEnv) (.opened terminalId false), .caller id .proceed,
    .caller id .proceed, .caller id .proceed, .caller id .proceed]

def joiningRun : List Action :=
  [.attach 1 "conn" .v2 4, .capabilities 1 true] ++ admission 0 ++ admission 1 ++
    [.caller 0 .proceed, .caller 0 .proceed, .caller 1 .proceed, .receive 1,
      .answer 1 (keyedCall.requestId keyedEnv) (.opened 71 false)] ++
    List.replicate 4 (.caller 0 .proceed) ++ List.replicate 4 (.caller 1 .proceed)

theorem one_terminal_in_joiningRun : ∃ system, run (restrict (step keyedEnv) fun system action =>
      oneKey keyedCall system action && registersInTime keyedEnv system action) System.initial
        joiningRun = some system ∧
      system.calls 1 = some (keyedCall, .done (.ok (201, ⟨71, false⟩))) ∧
      system.enqueued.length ≤ 1 :=
  ⟨_, rfl, rfl, (@one_request_one_terminal keyedEnv keyedCall _ joiningRun rfl).1⟩

/-- Both calls miss the record; the second one registers after the first is done. -/
def racingRun : List Action :=
  [.attach 1 "conn" .v2 4, .capabilities 1 true] ++ admission 0 ++ admission 1 ++
    exchange 0 71 ++ exchange 1 72

/-- Without the condition a key is asked for twice and names two terminals. -/
theorem two_requests_two_terminals : ¬ ∀ (actions : List Action) (system : System),
      run (restrict (step keyedEnv) fun system action => oneKey keyedCall system action)
        System.initial actions = some system →
      system.enqueued.length ≤ 1 ∧
      ∀ id₁ id₂ call₁ call₂ status₁ status₂ response₁ response₂,
        system.calls id₁ = some (call₁, .done (.ok (status₁, response₁))) →
        system.calls id₂ = some (call₂, .done (.ok (status₂, response₂))) →
        response₁.terminalId = response₂.terminalId := by
  intro claim
  have hnamed := (claim racingRun _ rfl).2 0 1 _ _ _ _ _ _ rfl rfl
  exact absurd hnamed (by decide)

end Hypeterm.Http
