import Hypeterm.Http.CreateTerminal

/-! What one section of a call, and one step of the system, can do.  Invariants of the
request life cycle are case analyses over `Section` and `Stepped`; none of them unfolds
the handler again. -/
namespace Hypeterm.Http

open Library
open Relay
open Db (Device)

def CallPhase.watch : CallPhase → Option Nat
  | .registered _ watch | .undelivered watch | .waiting watch _ | .refused watch _ _
  | .answered watch _ _ | .storing watch _ _ | .stored watch _ _ => some watch
  | .start | .parsed _ | .owned _ | .admitted _ | .done _ => none

/-- The call registered the request and has yet to retire it. -/
def CallPhase.owns : CallPhase → Bool
  | .registered _ _ | .undelivered _ => true
  | .waiting _ owns | .refused _ owns _ | .answered _ owns _ | .storing _ owns _
  | .stored _ owns _ => owns
  | .start | .parsed _ | .owned _ | .admitted _ | .done _ => false

/-- The terminal a call is about to report, or has reported. -/
def CallPhase.terminalId : CallPhase → Option Uuid
  | .answered _ _ response | .storing _ _ response | .stored _ _ response => some response.terminalId
  | .done (.ok (_, response)) => some response.terminalId
  | .start | .parsed _ | .owned _ | .admitted _ | .registered _ _ | .undelivered _ | .waiting _ _
  | .refused _ _ _ | .done (.error _) => none

namespace System

/-- The same registry with a new entry, whose history starts at the current slot. -/
def registerFresh (system : System) (env : Env) (call : Call) : System :=
  { system with
    registry := { system.registry with
      pendingOpens := system.registry.pendingOpens ++
        [⟨call.deviceId, call.requestId env, system.registry.nextWatch, call.principalId⟩]
      watches := Function.update system.registry.watches system.registry.nextWatch Watch.new
      nextWatch := system.registry.nextWatch + 1 }
    origins := Function.update system.origins system.registry.nextWatch
      ⟨system.slotGeneration call.deviceId, none⟩ }

def enqueue (system : System) (env : Env) (call : Call) (watch : Nat) (slot : PublisherSlot)
    (inputTx : Nat) (channel : Channel PublisherDelivery) : System :=
  { system with
    registry := { system.registry with
      channels := Function.update system.registry.channels inputTx channel }
    origins := Function.update system.origins watch
      { system.origins watch with deliveredTo := some slot.generation }
    enqueued := system.enqueued ++
      [⟨call.deviceId, call.requestId env, slot.generation, slot.openRequests⟩] }

end System

/-- A section that changes nothing but the phase of its call. -/
inductive Moves (env : Env) (system : System) (call : Call) : CallPhase → CallPhase → Prop where
  | fails {before : CallPhase} (error : ApiError) (idle : before.watch = none) :
      Moves env system call before (.done (.error error))
  | replays {replayed : Nat × TerminalResponse}
      (found : lookupIdempotent system.idempotency (call.requestId env) call.identityId
        (env.sha256Bytes call.body) = .ok (some replayed)) :
      Moves env system call .start (.done (.ok replayed))
  | parses (request : CreateTerminalRequest) : Moves env system call .start (.parsed request)
  | owns (request : CreateTerminalRequest) : Moves env system call (.parsed request) (.owned request)
  | admits (request : CreateTerminalRequest)
      (capable : system.registry.publisherSupportsOpenRequest call.deviceId = true) :
      Moves env system call (.owned request) (.admitted request)
  | undelivers (request : CreateTerminalRequest) (watch : Nat) :
      Moves env system call (.registered request watch) (.undelivered watch)
  | refuses {watch : Nat} (owns : Bool) (error : ApiError) {outcome : OpenOutcome}
      (published : (system.registry.watches watch).value = some outcome)
      (refusal : ∀ terminalId deduplicated, outcome ≠ .opened terminalId deduplicated) :
      Moves env system call (.waiting watch owns) (.refused watch owns error)
  | hears {watch : Nat} (owns : Bool) {terminalId : Uuid} {deduplicated : Bool}
      (published : (system.registry.watches watch).value = some (.opened terminalId deduplicated)) :
      Moves env system call (.waiting watch owns) (.answered watch owns ⟨terminalId, deduplicated⟩)
  | reads (watch : Nat) (owns : Bool) (response : TerminalResponse) :
      Moves env system call (.answered watch owns response) (.storing watch owns response)

inductive Section (env : Env) (system : System) (id : Nat) (call : Call) :
    CallPhase → System → Prop where
  | moves {before after : CallPhase} (move : Moves env system call before after) :
      Section env system id call before (system.setPhase id call after)
  | registers (request : CreateTerminalRequest)
      (absent : system.registry.pendingOpen call.deviceId (call.requestId env) = none) :
      Section env system id call (.admitted request)
        ((system.registerFresh env call).setPhase id call
          (.registered request system.registry.nextWatch))
  | joins (request : CreateTerminalRequest) {entry : PendingOpen}
      (present : system.registry.pendingOpen call.deviceId (call.requestId env) = some entry) :
      Section env system id call (.admitted request)
        (({ system with registry := system.registry.updateWatch entry.tx Watch.subscribe }
          : System).setPhase id call (.waiting entry.tx false))
  | delivers (request : CreateTerminalRequest) (watch : Nat) {slot : PublisherSlot} {inputTx : Nat}
      {channel : Channel PublisherDelivery}
      (connected : system.registry.publishers call.deviceId = some slot)
      (open_eq : slot.inputTx = some inputTx)
      (sent : (system.registry.channels inputTx).trySend
        (.openRequestDelivery (call.requestId env) request.label request.cols request.rows) =
          .ok channel) :
      Section env system id call (.registered request watch)
        ((system.enqueue env call watch slot inputTx channel).setPhase id call (.waiting watch true))
  | abandons (watch : Nat) :
      Section env system id call (.undelivered watch) (system.abandon env id call watch)
  | returns {before : CallPhase} {watch : Nat} (error : ApiError) (held : before.watch = some watch) :
      Section env system id call before (system.respond id call watch (.error error))
  | retires (watch : Nat) (owns : Bool) (error : ApiError) :
      Section env system id call (.refused watch owns error)
        ((system.retire env call owns).respond id call watch (.error error))
  | stores (watch : Nat) (owns : Bool) (response : TerminalResponse) :
      Section env system id call (.storing watch owns response)
        (system.storeResponse env id call watch owns response)
  | completes (watch : Nat) (owns : Bool) (response : TerminalResponse) :
      Section env system id call (.stored watch owns response)
        ((system.retire env call owns).respond id call watch (.ok (response.status, response)))

variable {env : Env} {system next : System} {id : Nat} {call : Call}

theorem lookupStored_section :
    Section env system id call .start (system.lookupStored env id call) := by
  unfold System.lookupStored
  split
  · exact .moves (.fails _ rfl)
  split
  · exact .moves (.fails _ rfl)
  split
  · exact .moves (.fails _ rfl)
  split
  · exact .moves (.fails _ rfl)
  · rename_i hfound
    exact .moves (.replays hfound)
  · split
    · exact .moves (.fails _ rfl)
    · split
      · exact .moves (.fails _ rfl)
      · exact .moves (.parses _)

section

variable (request : CreateTerminalRequest)
include request

theorem checkDevice_section (device : Option Device) :
    Section env system id call (.parsed request) (system.checkDevice id call request device) := by
  unfold System.checkDevice
  split
  · split
    · exact .moves (.owns request)
    · exact .moves (.fails _ rfl)
  · exact .moves (.fails _ rfl)

theorem checkCapability_section :
    Section env system id call (.owned request) (system.checkCapability id call request) := by
  unfold System.checkCapability
  split
  · rename_i hcapable
    exact .moves (.admits request hcapable)
  · exact .moves (.fails _ rfl)

theorem register_section :
    Section env system id call (.admitted request) (system.register env id call request) := by
  cases hpending : system.registry.pendingOpen call.deviceId (call.requestId env) with
  | some entry =>
    simp only [System.register, Registry.beginOpenRequest, hpending]
    exact .joins request hpending
  | none =>
    simp only [System.register, Registry.beginOpenRequest, hpending]
    by_cases htotal : call.maxPendingTotal ≤ system.registry.pendingOpens.length
    · simp only [htotal, ↓reduceIte]
      exact .moves (.fails _ rfl)
    by_cases hdevice : call.maxPendingPerDevice ≤
        system.registry.pendingOpens.countP fun entry => entry.deviceId = call.deviceId
    · simp only [htotal, hdevice, ↓reduceIte]
      exact .moves (.fails _ rfl)
    · simp only [htotal, hdevice, ↓reduceIte]
      exact .registers request hpending

theorem deliver_section (watch : Nat) : Section env system id call (.registered request watch)
      (system.deliver env id call request watch) := by
  cases hslot : system.registry.publishers call.deviceId with
  | none =>
    simp only [System.deliver, Registry.deliverToPublisher, hslot]
    exact .moves (.undelivers request watch)
  | some slot =>
    cases hopen : slot.inputTx with
    | none =>
      simp only [System.deliver, Registry.deliverToPublisher, hslot, hopen]
      exact .moves (.undelivers request watch)
    | some inputTx =>
      cases hsent : (system.registry.channels inputTx).trySend
          (.openRequestDelivery (call.requestId env) request.label request.cols request.rows) with
      | ok channel =>
        simp only [System.deliver, Registry.deliverToPublisher, System.slotGeneration, hslot, hopen,
          hsent]
        exact .delivers request watch hslot hopen hsent
      | full | closed =>
        simp only [System.deliver, Registry.deliverToPublisher, hslot, hopen, hsent]
        exact .moves (.undelivers request watch)

end

theorem observe_section {watch : Nat} {owns : Bool}
    (taken : system.observe id call watch owns = some next) :
    Section env system id call (.waiting watch owns) next := by
  unfold System.observe at taken
  split at taken
  · rename_i hvalue
    cases taken
    exact .moves (.hears owns hvalue)
  · rename_i hvalue
    cases taken
    exact .moves (.refuses owns _ hvalue (by simp))
  · rename_i hvalue
    cases taken
    exact .moves (.refuses owns _ hvalue (by simp))
  · rename_i hvalue
    cases taken
    exact .moves (.refuses owns _ hvalue (by simp))
  · split at taken
    · cases taken
    · cases taken
      exact .returns _ rfl

theorem giveUp_section {watch : Nat} {owns : Bool}
    (taken : system.giveUp id call watch = some next) :
    Section env system id call (.waiting watch owns) next := by
  unfold System.giveUp at taken
  split at taken
  · cases taken
  · cases taken
    exact .returns _ rfl

theorem advance_section {phase : CallPhase} {input : CallInput}
    (taken : system.advance env id call phase input = some next) :
    Section env system id call phase next := by
  unfold System.advance at taken
  split at taken
  · cases taken
    exact lookupStored_section
  · cases taken
    exact .moves (.fails _ rfl)
  · cases taken
    exact checkDevice_section _ _
  · cases taken
    exact .moves (.fails _ rfl)
  · split at taken
    · cases taken
      exact .moves (.fails _ rfl)
    · cases taken
  · cases taken
    exact checkCapability_section _
  · cases taken
    exact register_section _
  · cases taken
    exact deliver_section _ _
  · cases taken
    exact .abandons _
  · exact observe_section taken
  · exact giveUp_section taken
  · cases taken
    exact .retires _ _ _
  · cases taken
    exact .moves (.reads _ _ _)
  · cases taken
    exact .returns _ rfl
  · cases taken
    exact .returns _ rfl
  · cases taken
    exact .stores _ _ _
  · cases taken
    exact .returns _ rfl
  · cases taken
    exact .completes _ _ _
  · cases taken

/-- What one step of the system can do. -/
inductive Stepped (env : Env) (system : System) : Action → System → Prop
  | call (call : Call) :
      Stepped env system (.call call)
        (({ system with nextCall := system.nextCall + 1 } : System).setPhase system.nextCall call
          .start)
  | caller {id : Nat} {call : Call} {phase : CallPhase} {input : CallInput} {next : System}
      (here : system.calls id = some (call, phase)) (moved : Section env system id call phase next) :
      Stepped env system (.caller id input) next
  | attach (deviceId : Uuid) (connectionId : String) (version : ProtocolVersion)
      (inputQueue : Nat) :
      Stepped env system (.attach deviceId connectionId version inputQueue)
        (system.attach deviceId connectionId version inputQueue)
  | attachFail (generation : Nat) {deviceId : Uuid} {connectionId : String}
      {version : ProtocolVersion} {unanswered : List Digest}
      (here : system.connections generation =
        some ⟨deviceId, connectionId, version, .attaching, unanswered⟩) :
      Stepped env system (.attachFail generation)
        ((system.failDevice deviceId (.attach generation)).setConnection generation
          ⟨deviceId, connectionId, version, .live, unanswered⟩)
  | capabilities {generation : Nat} {connection : Connection} (on : Bool)
      (here : system.connections generation = some connection) :
      Stepped env system (.capabilities generation on) (system.capabilities connection on)
  | receive {generation : Nat} {connection : Connection} {next : System}
      (here : system.connections generation = some connection)
      (taken : system.receive generation connection = some next) :
      Stepped env system (.receive generation) next
  | answer {generation : Nat} {connection : Connection} (requestId : Digest)
      (outcome : OpenOutcome) (here : system.connections generation = some connection) :
      Stepped env system (.answer generation requestId outcome)
        (system.answer generation connection requestId outcome)
  | dropLease {generation : Nat} {deviceId : Uuid} {connectionId : String}
      {version : ProtocolVersion} {unanswered : List Digest}
      (here : system.connections generation =
        some ⟨deviceId, connectionId, version, .live, unanswered⟩) :
      Stepped env system (.dropLease generation)
        (system.setConnection generation ⟨deviceId, connectionId, version, .dropped, unanswered⟩)
  | closeReceiver (generation : Nat) :
      Stepped env system (.closeReceiver generation)
        { system with
          registry := { system.registry with
            channels := Function.update system.registry.channels generation
              (system.registry.channels generation).closeReceiver } }
  | detachFail (generation : Nat) {deviceId : Uuid} {connectionId : String}
      {version : ProtocolVersion} {unanswered : List Digest}
      (here : system.connections generation =
        some ⟨deviceId, connectionId, version, .dropped, unanswered⟩) :
      Stepped env system (.detachFail generation)
        ((system.failDevice deviceId (.detach generation)).setConnection generation
          ⟨deviceId, connectionId, version, .detaching, unanswered⟩)
  | detachRemove {generation : Nat} {deviceId : Uuid} {connectionId : String}
      {version : ProtocolVersion} {unanswered : List Digest}
      (here : system.connections generation =
        some ⟨deviceId, connectionId, version, .detaching, unanswered⟩) :
      Stepped env system (.detachRemove generation)
        (({ system with
            registry := (system.registry.detachPublisher deviceId generation).1 }
          : System).setConnection generation
            ⟨deviceId, connectionId, version, .gone, unanswered⟩)

theorem step_stepped {action : Action} (taken : step env system action = some next) :
    Stepped env system action next := by
  cases action with
  | call call =>
    cases taken
    exact .call call
  | caller id input =>
    simp only [step] at taken
    split at taken
    · rename_i here
      exact .caller here (advance_section taken)
    · cases taken
  | attach deviceId connectionId version inputQueue =>
    cases taken
    exact .attach deviceId connectionId version inputQueue
  | attachFail generation =>
    simp only [step] at taken
    split at taken
    · rename_i here
      cases taken
      exact .attachFail generation here
    · cases taken
  | capabilities generation on =>
    simp only [step] at taken
    split at taken
    · rename_i here
      cases taken
      exact .capabilities on here
    · cases taken
  | receive generation =>
    simp only [step] at taken
    split at taken
    · rename_i here
      exact .receive here taken
    · cases taken
  | answer generation requestId outcome =>
    simp only [step] at taken
    split at taken
    · rename_i here
      split at taken
      · cases taken
      · cases taken
        exact .answer requestId outcome here
    · cases taken
  | dropLease generation =>
    simp only [step] at taken
    split at taken
    · rename_i here
      cases taken
      exact .dropLease here
    · cases taken
  | closeReceiver generation =>
    simp only [step] at taken
    split at taken
    · cases taken
    · cases taken
    · cases taken
    · cases taken
      exact .closeReceiver generation
  | detachFail generation =>
    simp only [step] at taken
    split at taken
    · rename_i here
      cases taken
      exact .detachFail generation here
    · cases taken
  | detachRemove generation =>
    simp only [step] at taken
    split at taken
    · rename_i here
      cases taken
      exact .detachRemove here
    · cases taken

end Hypeterm.Http
