import Hypeterm.Publisher.Hosting
import Hypeterm.Http.Handover
import Hypeterm.Http.OneRequest

/-! A retry and the process it asks for. The relay's side is the whole system of callers and
connections; of this machine's daemon it is the queue of requests and the tasks that host them. -/
namespace Hypeterm.Publisher.Retries

open Library List Option
open Relay (Registry)
open Hypeterm.Http (Env Call Written)

/-- Lower-case hexadecimal, as a request id is written. -/
def digestText (digest : Digest) : String :=
  String.ofList ((range 64).map fun i => Nat.digitChar (digest.toNat / 16 ^ (63 - i) % 16))

def openRequestQueue : Nat := 8

def pendingOpenMaxAge : Nat := 60000

/-- `created` is when the request of a watch was registered.  `wire` holds what the
connections have written and the daemon has not read. -/
structure System where
  relay : Http.System
  created : Nat → Nat
  wire : List Written
  mux : Multiplexer
  host : Host

inductive Action where
  | relay (action : Http.Action)
  | sweep
  | arrive (generation : Nat)
  | lose (generation : Nat)
  | dequeue
  | host (action : HostAction)

def openRequestOf (sent : Written) : OpenRequest where
  requestId := digestText sent.requestId
  label := sent.label
  cols := sent.cols.map Multiplexer.clampSize
  rows := sent.rows.map Multiplexer.clampSize

namespace System

def initial (remote : RemoteOpenConfig) : System where
  relay := Http.System.initial
  created := fun _ => 0
  wire := []
  mux := Multiplexer.new (some (Channel.new openRequestQueue))
  host := Host.initial remote

/-- A step of the relay, which may write to a socket and may register a request. -/
def relayStep (env : Env) (system : System) (action : Http.Action) : Option System :=
  (Http.step env system.relay action).map fun relay =>
    { system with
      relay
      created :=
        if relay.registry.nextWatch = system.relay.registry.nextWatch then system.created
        else Function.update system.created system.relay.registry.nextWatch system.host.now
      wire := system.wire ++ system.relay.writes action }

def sweep (system : System) : System :=
  { system with
    relay := { system.relay with
      registry := system.relay.registry.sweepPendingOpens fun entry =>
        pendingOpenMaxAge ≤ system.host.now - system.created entry.tx } }

def arrive (deviceId : Uuid) (system : System) (generation : Nat) : Option System :=
  match system.relay.connections generation, system.wire.find? (·.generation = generation) with
  | some connection, some sent =>
      if connection.deviceId = deviceId then
        some { system with
          wire := system.wire.erase sent
          mux := (system.mux.onOpenRequest system.host.remote.enabled (openRequestOf sent)).1 }
      else none
  | _, _ => none

/-- The daemon's loop takes a request and starts its task. -/
def dequeue (system : System) : Option System :=
  match system.mux.openRequests.bind Channel.recv with
  | some (request, openRequests) =>
      (system.host.step (.request request)).map fun host =>
        { system with host, mux := { system.mux with openRequests := some openRequests } }
  | none => none

def hostStep (system : System) (action : HostAction) : Option System :=
  match action with
  | .request _ => none
  | action => (system.host.step action).map fun host => { system with host }

end System

/-- `deviceId` is the device of this machine.  A socket that is lost takes with it what was
written to it and not read. -/
def step (env : Env) (deviceId : Uuid) (system : System) : Action → Option System
  | .relay action => system.relayStep env action
  | .sweep => some system.sweep
  | .arrive generation => system.arrive deviceId generation
  | .lose generation =>
      some { system with wire := system.wire.filter fun sent => sent.generation ≠ generation }
  | .dequeue => system.dequeue
  | .host action => system.hostStep action

def holds (key : String) (task : HostTask) : Bool :=
  task.request.requestId = key &&
    match task.phase with
    | .declined _ => false
    | _ => true

def runs (key : String) (task : HostTask) : Bool :=
  task.request.requestId = key && task.phase.child.isSome

namespace System

def onWire (system : System) (key : String) : Nat :=
  system.wire.countP fun sent => digestText sent.requestId = key

def inQueue (system : System) (key : String) : Nat :=
  (system.mux.openRequests.map fun openRequests =>
    openRequests.queue.countP fun request => request.requestId = key).getD 0

/-- Where a request under this id still is: with a connection of the relay, on the wire, in
the daemon's queue, or with a task that has not declined it. -/
def copies (system : System) (key : String) : Nat :=
  system.relay.handed (fun digest => digestText digest = key) + system.onWire key +
    system.inQueue key + system.host.count (holds key)

def shells (system : System) (key : String) : Nat := system.host.count (runs key)

end System

/-- A request is delivered only when no copy of it is left from an earlier delivery. -/
def asksOnce (env : Env) (key : String) (system : System) : Action → Bool
  | .relay action =>
      !system.relay.delivers env (fun digest => digestText digest = key) action ||
        system.copies key = 0
  | _ => true

variable {env : Env} {deviceId : Uuid} {key : String}

theorem host_moves {host next : Host} {action : HostAction}
    (old : ∀ request, action ≠ .request request) (taken : host.step action = some next) :
    next.nextTask = host.nextTask ∧
      (next.tasks = host.tasks ∨ ∃ id task phase, host.tasks id = some task ∧
        next.tasks = Function.update host.tasks id (some { task with phase }) ∧
        ∀ reason, task.phase ≠ .declined reason) := by
  cases action with
  | request request => exact absurd rfl (old request)
  | proceed id succeeds =>
    obtain ⟨⟨request, phase⟩, hfound, hproceed⟩ := bind_eq_some_iff.mp taken
    cases phase with
    | requested =>
      cases hproceed
      unfold Host.checkSwitch
      split
      · exact ⟨rfl, .inr ⟨id, _, _, hfound, rfl, by simp⟩⟩
      · exact ⟨rfl, .inr ⟨id, _, _, hfound, rfl, by simp⟩⟩
    | permitted =>
      cases hproceed
      unfold Host.checkRate
      dsimp only
      split
      · exact ⟨rfl, .inr ⟨id, _, _, hfound, rfl, by simp⟩⟩
      · exact ⟨rfl, .inr ⟨id, _, _, hfound, rfl, by simp⟩⟩
    | counted =>
      cases hproceed
      unfold Host.checkLimit
      dsimp only
      split
      · exact ⟨rfl, .inr ⟨id, _, _, hfound, rfl, by simp⟩⟩
      · exact ⟨rfl, .inr ⟨id, _, _, hfound, rfl, by simp⟩⟩
    | admitted =>
      cases hproceed
      unfold Host.begin
      split
      · exact ⟨rfl, .inr ⟨id, _, _, hfound, rfl, by simp⟩⟩
      · exact ⟨rfl, .inr ⟨id, _, _, hfound, rfl, by simp⟩⟩
    | spawning child =>
      cases hproceed
      unfold Host.spawned
      split
      · exact ⟨rfl, .inr ⟨id, _, _, hfound, rfl, by simp⟩⟩
      · exact ⟨rfl, .inr ⟨id, _, _, hfound, rfl, by simp⟩⟩
    | hosting child due =>
      simp only [Host.proceed] at hproceed
      split at hproceed
      · cases hproceed
        exact ⟨rfl, .inr ⟨id, _, _, hfound, rfl, by simp⟩⟩
      · cases hproceed
    | settled | declined => cases hproceed
  | attach id localRef =>
    obtain ⟨task, hfound, hattach⟩ := bind_eq_some_iff.mp taken
    split at hattach
    · rename_i hstarting
      obtain ⟨claimed, hclaim, rfl⟩ := map_eq_some_iff.mp hattach
      unfold Host.claim at hclaim
      split at hclaim
      · cases hclaim
      · cases hclaim
        refine ⟨rfl, .inr ⟨id, task, _, hfound, rfl, ?_⟩⟩
        intro reason hphase
        simp [HostTask.isStarting, hphase, HostPhase.child] at hstarting
    · cases hattach
  | exit id =>
    obtain ⟨task, hfound, hexit⟩ := bind_eq_some_iff.mp taken
    split at hexit
    · rename_i hchild
      cases hexit
      refine ⟨rfl, .inr ⟨id, task, _, hfound, rfl, ?_⟩⟩
      intro reason hphase
      simp [hphase, HostPhase.child] at hchild
    · cases hexit
  | claim localRef =>
    simp only [Host.step, Host.claim] at taken
    split at taken
    · cases taken
    · cases taken
      exact ⟨rfl, .inl rfl⟩
  | release localRef =>
    cases taken
    exact ⟨rfl, .inl rfl⟩
  | tick elapsed =>
    cases taken
    exact ⟨rfl, .inl rfl⟩

def Numbered (host : Host) : Prop := ∀ id task, host.tasks id = some task → id < host.nextTask

theorem host_spec (key : String) {host next : Host} {action : HostAction} (numbered : Numbered host)
    (old : ∀ request, action ≠ .request request) (taken : host.step action = some next) :
    Numbered next ∧ next.count (holds key) ≤ host.count (holds key) := by
  obtain ⟨hnext, htasks | ⟨id, task, phase, hfound, htasks, hundeclined⟩⟩ := host_moves old taken
  · unfold Numbered Host.count
    rw [hnext, htasks]
    exact ⟨numbered, Nat.le_refl _⟩
  · have hbelow := numbered id task hfound
    constructor
    · intro other found hother
      rw [hnext]
      simp only [htasks, Function.update_apply] at hother
      split at hother
      · rename_i heq
        rw [heq]
        exact hbelow
      · exact numbered other found hother
    · have hmoved := countTasks_update (holds key) hfound hbelow { task with phase }
      have hheld : holds key { task with phase } = true → holds key task = true := by
        intro hlater
        have hkey : task.request.requestId = key :=
          of_decide_eq_true (Bool.and_eq_true_iff.mp hlater).1
        obtain ⟨request, before⟩ := task
        cases before with
        | declined reason => exact absurd rfl (hundeclined reason)
        | requested | permitted | counted | admitted | spawning | hosting | settled =>
          simpa [holds] using hkey
      unfold Host.count
      rw [hnext, htasks]
      by_cases hlater : holds key { task with phase } = true
      · rw [if_pos hlater, if_pos (hheld hlater)] at hmoved
        omega
      · rw [if_neg hlater] at hmoved
        omega

theorem request_spec (key : String) {host next : Host} {request : OpenRequest} (numbered : Numbered host)
    (taken : host.step (.request request) = some next) :
    Numbered next ∧ next.count (holds key) ≤
      host.count (holds key) + if request.requestId = key then 1 else 0 := by
  cases taken
  constructor
  · intro other task hother
    simp only [Function.update_apply] at hother
    split at hother
    · rename_i heq
      rw [heq]
      exact Nat.lt_succ_self _
    · exact (numbered other task hother).trans (Nat.lt_succ_self _)
  · have hstart := countTasks_start (holds key) host.tasks host.nextTask ⟨request, .requested⟩
    have hshare : (if holds key ⟨request, .requested⟩ = true then 1 else 0) =
        if request.requestId = key then 1 else 0 := by simp [holds]
    exact (hstart.trans (congrArg _ hshare)).le

theorem inQueue_onOpenRequest (key : String) (mux : Multiplexer) (allowRemoteOpen : Bool) (request : OpenRequest)
    (system : System) :
    ({ system with mux := (mux.onOpenRequest allowRemoteOpen request).1 } : System).inQueue key ≤
      ({ system with mux } : System).inQueue key + if request.requestId = key then 1 else 0 := by
  unfold Multiplexer.onOpenRequest
  split
  · exact Nat.le_add_right _ _
  split
  · exact Nat.le_add_right _ _
  · rename_i openRequests hqueue
    split
    · rename_i sent hsent
      obtain ⟨-, -, rfl⟩ := Channel.trySend_ok hsent
      simp only [System.inQueue, hqueue, map_some, getD_some, countP_append,
        countP_singleton, decide_eq_true_iff]
      exact Nat.le_refl _
    · exact Nat.le_add_right _ _

structure Inv (key : String) (system : System) : Prop where
  named : system.relay.Named
  numbered : Numbered system.host
  once : system.copies key ≤ 1

theorem Inv.initial (remote : RemoteOpenConfig) : Inv key (System.initial remote) where
  named := Http.System.Named.initial
  numbered := by
    intro id task found
    cases found
  once := by
    simp [System.copies, System.onWire, System.inQueue, System.initial, Http.System.handed,
      Http.System.queued, Http.System.initial, Http.reads, Multiplexer.new, Channel.new, Host.count,
      Host.initial, countTasks_none]

variable {system next : System}

section

variable (inv : Inv key system)
include inv

theorem Inv.relayStep {action : Http.Action}
    (allowed : asksOnce env key system (.relay action) = true)
    (taken : system.relayStep env action = some next) : Inv key next := by
  obtain ⟨relay, hstep, rfl⟩ := map_eq_some_iff.mp taken
  obtain ⟨hnamed, hhanded⟩ :=
    Http.System.step_spec (fun digest => digestText digest = key) inv.named hstep
  refine ⟨hnamed, inv.numbered, ?_⟩
  have honce := inv.once
  simp only [asksOnce, Bool.or_eq_true, Bool.not_eq_true', decide_eq_true_iff] at allowed
  simp only [System.copies, System.onWire, System.inQueue, countP_append] at honce allowed ⊢
  rcases allowed with hkept | hnone
  · rw [hkept, Bool.toNat_false] at hhanded
    omega
  · have hone := Bool.toNat_le
      (system.relay.delivers env (fun digest => digestText digest = key) action)
    omega

theorem Inv.sweep : Inv key system.sweep := by
  have haside : Http.System.Aside system.relay system.sweep.relay := .of_eq rfl rfl rfl rfl
  refine ⟨haside.named inv.named, inv.numbered, ?_⟩
  have honce := inv.once
  simp only [System.copies] at honce ⊢
  rw [haside.handed]
  exact honce

theorem Inv.arrive {generation : Nat}
    (taken : system.arrive deviceId generation = some next) : Inv key next := by
  unfold System.arrive at taken
  split at taken
  · rename_i connection sent hconnection hsent
    split at taken
    · cases taken
      refine ⟨inv.named, inv.numbered, ?_⟩
      have hmember : sent ∈ system.wire := mem_of_find?_eq_some hsent
      have hwire := countP_erase (fun other => decide (digestText other.requestId = key))
        system.wire sent
      have hqueue := inQueue_onOpenRequest key system.mux system.host.remote.enabled
        (openRequestOf sent) system
      have honce := inv.once
      simp only [System.copies, System.onWire, System.inQueue] at honce hqueue ⊢
      rw [hwire]
      by_cases hkey : digestText sent.requestId = key
      · have hpos : 0 < system.wire.countP fun other => decide (digestText other.requestId = key) :=
          countP_pos_iff.mpr ⟨sent, hmember, decide_eq_true hkey⟩
        have hcounted : sent ∈ system.wire ∧ decide (digestText sent.requestId = key) = true :=
          ⟨hmember, decide_eq_true hkey⟩
        rw [if_pos hcounted]
        rw [if_pos (show (openRequestOf sent).requestId = key from hkey)] at hqueue
        omega
      · rw [if_neg (show (openRequestOf sent).requestId ≠ key from hkey)] at hqueue
        omega
    · cases taken
  · cases taken

theorem Inv.dequeue (taken : system.dequeue = some next) : Inv key next := by
  unfold System.dequeue at taken
  split at taken
  · rename_i request rest hrecv
    obtain ⟨openRequests, hqueue, hrecv⟩ := bind_eq_some_iff.mp hrecv
    obtain ⟨host, hstep, rfl⟩ := map_eq_some_iff.mp taken
    obtain ⟨hnumbered, hheld⟩ := request_spec key inv.numbered hstep
    refine ⟨inv.named, hnumbered, ?_⟩
    have hpopped : openRequests.queue = request :: rest.queue := by
      unfold Channel.recv at hrecv
      split at hrecv
      · cases hrecv
      · rename_i heq
        cases hrecv
        exact heq
    have honce := inv.once
    simp only [System.copies, System.onWire, System.inQueue, hqueue, map_some,
      getD_some, hpopped, countP_cons, decide_eq_true_iff] at honce ⊢
    omega
  · cases taken

theorem Inv.hostStep {action : HostAction}
    (taken : system.hostStep action = some next) : Inv key next := by
  unfold System.hostStep at taken
  split at taken
  · cases taken
  · rename_i hold
    obtain ⟨host, hstep, rfl⟩ := map_eq_some_iff.mp taken
    obtain ⟨hnumbered, hheld⟩ := host_spec key inv.numbered hold hstep
    refine ⟨inv.named, hnumbered, ?_⟩
    have honce := inv.once
    simp only [System.copies, System.onWire, System.inQueue] at honce ⊢
    omega

end

theorem Inv.step {action : Action} (inv : Inv key system)
    (allowed : asksOnce env key system action = true)
    (taken : step env deviceId system action = some next) : Inv key next := by
  cases action with
  | relay action => exact inv.relayStep allowed taken
  | sweep =>
    cases taken
    exact inv.sweep
  | arrive generation => exact inv.arrive taken
  | lose generation =>
    cases taken
    refine ⟨inv.named, inv.numbered, ?_⟩
    have honce := inv.once
    have hwire := (filter_sublist (l := system.wire)
      (p := fun sent => sent.generation ≠ generation)).countP_le
      (p := fun sent => digestText sent.requestId = key)
    simp only [System.copies, System.onWire, System.inQueue] at honce ⊢
    omega
  | dequeue => exact inv.dequeue taken
  | host action => exact inv.hostStep taken

def connects (generation : Nat) : List Action :=
  [.relay (.attach 1 ("conn" ++ toString generation) .v2 4), .relay (.capabilities generation true)]

/-- The sections of a call up to its delivery, which a connection then writes. -/
def asks (id generation : Nat) : List Action :=
  (Http.admission id).map Action.relay ++
    [.relay (.caller id .proceed), .relay (.caller id .proceed), .relay (.receive generation)]

end Hypeterm.Publisher.Retries
