import Hypeterm.Http.Sections
import Hypeterm.Library.Tasks

/-! What the relay has handed to the publishers' connections and they have not written yet.
A section of a call adds at most one request, and only by a delivery; a connection takes
them out one by one, and what it has not taken when it is dropped is lost. -/
namespace Hypeterm.Http

open Library List
open Relay
open Function (update_of_ne update_apply)

/-- A request as it is written to a publisher's socket. -/
structure Written where
  generation : Nat
  requestId : Digest
  label : Option String
  cols : Option Nat
  rows : Option Nat
  deriving DecidableEq

def reads : Option Connection → Bool
  | some connection => connection.phase = .attaching || connection.phase = .live
  | none => false

def asksFor (key : Digest → Bool) : PublisherDelivery → Bool
  | .openRequestDelivery requestId _ _ _ => key requestId
  | _ => false

namespace System

/-- Requests in one channel that somebody is going to read. -/
def queued (system : System) (key : Digest → Bool) (generation : Nat) : Nat :=
  if reads (system.connections generation) then
    (system.registry.channels generation).queue.countP (asksFor key)
  else 0

def handed (system : System) (key : Digest → Bool) : Nat :=
  ∑ generation ∈ Finset.range system.registry.nextGeneration, system.queued key generation

def writes (system : System) : Action → List Written
  | .receive generation =>
      match (system.registry.channels generation).recv with
      | some (.openRequestDelivery requestId label cols rows, _) =>
          [⟨generation, requestId, label, cols, rows⟩]
      | _ => []
  | _ => []

/-- The step is a delivery of a request, and the publisher's connection takes it. -/
def delivers (system : System) (env : Env) (key : Digest → Bool) : Action → Bool
  | .caller id _ =>
      match system.calls id with
      | some (call, .registered request _) =>
          key (call.requestId env) &&
            (system.registry.deliverToPublisher call.deviceId
              (.openRequestDelivery (call.requestId env) request.label request.cols
                request.rows)).isOk
      | _ => false
  | _ => false

/-- Connections, and the channels they brought, are named by generations that were given
out. -/
structure Named (system : System) : Prop where
  connection_lt : ∀ generation connection, system.connections generation = some connection →
    generation < system.registry.nextGeneration
  slot_lt : ∀ deviceId slot inputTx, system.registry.publishers deviceId = some slot →
    slot.inputTx = some inputTx → inputTx < system.registry.nextGeneration
  fresh : ∀ generation, system.registry.nextGeneration ≤ generation →
    (system.registry.channels generation).queue = []

variable {env : Env} {system next : System} {key : Digest → Bool} {id : Nat} {call : Call}

theorem Named.initial : Named initial where
  connection_lt := by simp [System.initial]
  slot_lt := by simp [System.initial, Registry.new]
  fresh := by simp [System.initial, Registry.new, Channel.closeReceiver]

/-- Channels and connections are left alone, and slots may go. -/
structure Aside (system next : System) : Prop where
  connections : next.connections = system.connections
  publishers : ∀ deviceId slot inputTx, next.registry.publishers deviceId = some slot →
    slot.inputTx = some inputTx →
      ∃ before, system.registry.publishers deviceId = some before ∧ before.inputTx = some inputTx
  channels : next.registry.channels = system.registry.channels
  nextGeneration : next.registry.nextGeneration = system.registry.nextGeneration

theorem Aside.of_eq (connections : next.connections = system.connections)
    (publishers : next.registry.publishers = system.registry.publishers)
    (channels : next.registry.channels = system.registry.channels)
    (nextGeneration : next.registry.nextGeneration = system.registry.nextGeneration) :
    Aside system next := by
  refine ⟨connections, ?_, channels, nextGeneration⟩
  intro deviceId slot inputTx hslot hinput
  exact ⟨slot, publishers ▸ hslot, hinput⟩

theorem Aside.named (aside : Aside system next) (named : Named system) : Named next where
  connection_lt := by
    rw [aside.connections, aside.nextGeneration]
    exact named.connection_lt
  slot_lt := by
    intro deviceId slot inputTx hslot hinput
    obtain ⟨before, hbefore, hinputBefore⟩ := aside.publishers _ _ _ hslot hinput
    rw [aside.nextGeneration]
    exact named.slot_lt _ _ _ hbefore hinputBefore
  fresh := by
    rw [aside.channels, aside.nextGeneration]
    exact named.fresh

theorem Aside.handed (aside : Aside system next) : next.handed key = system.handed key := by
  unfold System.handed queued
  rw [aside.connections, aside.channels, aside.nextGeneration]

theorem retire_aside (system : System) (env : Env) (call : Call) (owns : Bool) (id watch : Nat)
    (result : Except ApiError (Nat × TerminalResponse)) :
    Aside system ((system.retire env call owns).respond id call watch result) := by
  unfold System.retire Registry.finishOpenRequest
  split
  · split
    · exact .of_eq rfl rfl rfl rfl
    · exact .of_eq rfl rfl rfl rfl
  · exact .of_eq rfl rfl rfl rfl

theorem resolveOpenRequest_aside (system : System) (deviceId : Uuid) (requestId : Digest)
    (outcome : OpenOutcome) :
    Aside system { system with
      registry := (system.registry.resolveOpenRequest deviceId requestId outcome).1 } := by
  unfold Registry.resolveOpenRequest
  split
  · exact .of_eq rfl rfl rfl rfl
  · exact .of_eq rfl rfl rfl rfl

theorem abandon_aside (system : System) (env : Env) (id : Nat) (call : Call) (watch : Nat) :
    Aside system (system.abandon env id call watch) := by
  have hresolve := resolveOpenRequest_aside system call.deviceId (call.requestId env) .unavailable
  exact ⟨hresolve.connections, hresolve.publishers, hresolve.channels, hresolve.nextGeneration⟩

theorem capabilities_aside (system : System) (connection : Connection) (on : Bool) :
    Aside system (system.capabilities connection on) := by
  unfold System.capabilities Registry.setPublisherOpenRequests
  split
  · exact .of_eq rfl rfl rfl rfl
  · split
    · rename_i slot hslot
      split
      · refine ⟨rfl, ?_, rfl, rfl⟩
        intro other after inputTx hafter hinput
        simp only [update_apply] at hafter
        split at hafter
        · rename_i hother
          cases hafter
          exact ⟨slot, hother ▸ hslot, hinput⟩
        · exact ⟨after, hafter, hinput⟩
      · exact .of_eq rfl rfl rfl rfl
    · exact .of_eq rfl rfl rfl rfl

theorem detachPublisher_aside (system : System) (deviceId : Uuid) (generation : Nat) :
    Aside system { system with
      registry := (system.registry.detachPublisher deviceId generation).1 } := by
  unfold Registry.detachPublisher
  split
  · split
    · exact .of_eq rfl rfl rfl rfl
    · refine ⟨rfl, ?_, rfl, rfl⟩
      intro other slot inputTx hslot hinput
      simp only [update_apply] at hslot
      split at hslot
      · cases hslot
      · exact ⟨slot, hslot, hinput⟩
  · exact .of_eq rfl rfl rfl rfl

theorem Aside.setConnection_spec {base : System} (aside : Aside system base) (named : Named system)
    {generation : Nat} {before : Connection} (after : Connection)
    (here : system.connections generation = some before)
    (reading : reads (some after) = true → reads (some before) = true) :
    Named (base.setConnection generation after) ∧
      (base.setConnection generation after).handed key ≤ system.handed key := by
  have hnamed := aside.named named
  refine ⟨⟨?_, hnamed.slot_lt, hnamed.fresh⟩, ?_⟩
  · intro other connection hother
    simp only [setConnection, update_apply] at hother
    split at hother
    · rename_i heq
      rw [heq]
      exact hnamed.connection_lt generation before (aside.connections ▸ here)
    · exact hnamed.connection_lt other connection hother
  · refine le_of_le_of_eq ?_ aside.handed
    apply Finset.sum_le_sum
    intro other _
    unfold queued
    by_cases heq : other = generation
    · subst heq
      rw [aside.connections, here]
      simp only [setConnection, Function.update_self]
      split
      · rename_i hreads
        rw [if_pos (reading hreads)]
      · exact Nat.zero_le _
    · simp only [setConnection, update_of_ne heq]
      exact Nat.le_refl _

section

variable (named : Named system)
include named

theorem enqueue_spec {request : CreateTerminalRequest} {watch : Nat}
    {slot : PublisherSlot} {inputTx : Nat} {channel : Channel PublisherDelivery}
    (connected : system.registry.publishers call.deviceId = some slot)
    (open_eq : slot.inputTx = some inputTx)
    (sent : (system.registry.channels inputTx).trySend
      (.openRequestDelivery (call.requestId env) request.label request.cols request.rows) =
        .ok channel) :
    Named (system.enqueue env call watch slot inputTx channel) ∧
      (system.enqueue env call watch slot inputTx channel).handed key ≤
        system.handed key + (key (call.requestId env)).toNat := by
  have hbelow := named.slot_lt _ _ _ connected open_eq
  obtain ⟨-, -, rfl⟩ := Channel.trySend_ok sent
  refine ⟨⟨named.connection_lt, named.slot_lt, ?_⟩, ?_⟩
  · intro generation hfresh
    have hother : generation ≠ inputTx := by
      rintro rfl
      exact absurd hbelow (Nat.not_lt.mpr hfresh)
    simp only [enqueue, update_of_ne hother]
    exact named.fresh generation hfresh
  · refine sum_shares_le _ _ (key (call.requestId env)).toNat 0 hbelow ?_ ?_
    · intro other hother
      unfold queued
      simp only [enqueue, update_of_ne hother]
      exact Nat.le_refl _
    · unfold queued
      simp only [enqueue, Function.update_self, countP_append, countP_singleton]
      split
      · split
        · rename_i hasks
          have hkey : key (call.requestId env) = true := hasks
          rw [hkey]
          exact Nat.le_refl _
        · exact Nat.le_add_right _ _
      · exact Nat.zero_le _

theorem section_spec {phase : CallPhase}
    (here : system.calls id = some (call, phase)) (moved : Section env system id call phase next)
    (input : CallInput) :
    Named next ∧
      next.handed key ≤ system.handed key + (system.delivers env key (.caller id input)).toNat := by
  have haside : ∀ {after : System}, Aside system after → Named after ∧
      after.handed key ≤ system.handed key +
        (system.delivers env key (.caller id input)).toNat := by
    intro after aside
    exact ⟨aside.named named, aside.handed.trans_le (Nat.le_add_right _ _)⟩
  cases moved with
  | moves move => exact haside (.of_eq rfl rfl rfl rfl)
  | registers request absent => exact haside (.of_eq rfl rfl rfl rfl)
  | joins request present => exact haside (.of_eq rfl rfl rfl rfl)
  | @delivers request watch slot inputTx channel connected open_eq sent =>
    have hdelivers : system.delivers env key (.caller id input) = key (call.requestId env) := by
      simp only [delivers, here, Registry.deliverToPublisher, connected, open_eq, sent, Except.isOk,
        Except.toBool, Bool.and_true]
    obtain ⟨hnamed, hhanded⟩ : Named (system.enqueue env call watch slot inputTx channel) ∧
        (system.enqueue env call watch slot inputTx channel).handed key ≤
          system.handed key + (key (call.requestId env)).toNat :=
      enqueue_spec named connected open_eq sent
    have hphase : Aside (system.enqueue env call watch slot inputTx channel)
        ((system.enqueue env call watch slot inputTx channel).setPhase id call
          (.waiting watch true)) := .of_eq rfl rfl rfl rfl
    rw [hdelivers]
    exact ⟨hphase.named hnamed, hphase.handed.trans_le hhanded⟩
  | abandons watch => exact haside (abandon_aside _ _ _ _ _)
  | returns error held => exact haside (.of_eq rfl rfl rfl rfl)
  | retires watch owns error => exact haside (retire_aside _ _ _ _ _ _ _)
  | stores watch owns response => exact haside (.of_eq rfl rfl rfl rfl)
  | completes watch owns response => exact haside (retire_aside _ _ _ _ _ _ _)

theorem attach_spec (deviceId : Uuid) (connectionId : String)
    (version : ProtocolVersion) (inputQueue : Nat) :
    Named (system.attach deviceId connectionId version inputQueue) ∧
      (system.attach deviceId connectionId version inputQueue).handed key ≤ system.handed key := by
  -- Only the channel of the new generation changes, and it is empty before and after.
  have hchannels : ∀ generation,
      ((system.attach deviceId connectionId version inputQueue).registry.channels
        generation).queue = (system.registry.channels generation).queue := by
    intro generation
    by_cases heq : generation = system.registry.nextGeneration
    · subst heq
      rw [named.fresh _ (Nat.le_refl _)]
      by_cases hinput : version.supportsInput = true
      · simp [attach, setConnection, Registry.attachPublisher, hinput, Channel.new]
      · simp [attach, setConnection, Registry.attachPublisher, hinput,
          named.fresh _ (Nat.le_refl _)]
    · by_cases hinput : version.supportsInput = true
      · simp [attach, setConnection, Registry.attachPublisher, hinput, update_of_ne heq]
      · simp [attach, setConnection, Registry.attachPublisher, hinput]
  have hnext : (system.attach deviceId connectionId version inputQueue).registry.nextGeneration =
      system.registry.nextGeneration + 1 := rfl
  refine ⟨⟨?_, ?_, ?_⟩, ?_⟩
  · intro generation connection hconnection
    rw [hnext]
    simp only [attach, setConnection, Registry.attachPublisher, update_apply] at hconnection
    split at hconnection
    · rename_i heq
      rw [heq]
      exact Nat.lt_succ_self _
    · exact (named.connection_lt _ _ hconnection).trans (Nat.lt_succ_self _)
  · intro other slot inputTx hslot hinput
    rw [hnext]
    simp only [attach, setConnection, Registry.attachPublisher, update_apply] at hslot
    split at hslot
    · cases hslot
      simp only [Option.map_eq_some_iff] at hinput
      obtain ⟨_, _, rfl⟩ := hinput
      exact Nat.lt_succ_self _
    · exact (named.slot_lt _ _ _ hslot hinput).trans (Nat.lt_succ_self _)
  · intro generation hfresh
    rw [hnext] at hfresh
    rw [hchannels]
    exact named.fresh generation (Nat.le_of_succ_le hfresh)
  · unfold System.handed
    rw [hnext, Finset.sum_range_succ]
    have hnew : (system.attach deviceId connectionId version inputQueue).queued key
        system.registry.nextGeneration = 0 := by
      unfold queued
      rw [hchannels, named.fresh _ (Nat.le_refl _)]
      simp
    rw [hnew, Nat.add_zero]
    apply Finset.sum_le_sum
    intro generation member
    have hold : generation ≠ system.registry.nextGeneration :=
      Nat.ne_of_lt (Finset.mem_range.mp member)
    have hconnection : (system.attach deviceId connectionId version inputQueue).connections
        generation = system.connections generation := by
      simp only [attach, setConnection, Registry.attachPublisher, update_of_ne hold]
    unfold queued
    rw [hchannels, hconnection]

theorem receive_spec {generation : Nat} {connection : Connection}
    (here : system.connections generation = some connection)
    (reading : reads (some connection) = true)
    (taken : system.receive generation connection = some next) :
    Named next ∧
      next.handed key +
          ((system.writes (.receive generation)).countP fun sent => key sent.requestId) ≤
        system.handed key := by
  have hbelow := named.connection_lt generation connection here
  cases hrecv : (system.registry.channels generation).recv with
  | none =>
    rw [System.receive, hrecv] at taken
    cases taken
  | some received =>
    obtain ⟨delivery, channel⟩ := received
    have hqueue : (system.registry.channels generation).queue = delivery :: channel.queue := by
      unfold Channel.recv at hrecv
      split at hrecv
      · cases hrecv
      · rename_i heq
        cases hrecv
        exact heq
    have hwrites : ((system.writes (.receive generation)).countP fun sent => key sent.requestId) =
        if asksFor key delivery then 1 else 0 := by
      simp only [writes, hrecv]
      cases delivery with
      | openRequestDelivery requestId label cols rows => exact countP_singleton
      | input | resizeRequest => rfl
    obtain ⟨hchannels, hconnection, hothers, hpublishers, hnext⟩ :
        next.registry.channels = Function.update system.registry.channels generation channel ∧
          (∃ after, next.connections generation = some after ∧ after.phase = connection.phase) ∧
          (∀ other, other ≠ generation → next.connections other = system.connections other) ∧
          next.registry.publishers = system.registry.publishers ∧
          next.registry.nextGeneration = system.registry.nextGeneration := by
      rw [System.receive, hrecv] at taken
      cases delivery with
      | openRequestDelivery requestId label cols rows =>
        cases taken
        refine ⟨rfl, ⟨_, Function.update_self _ _ _, rfl⟩, ?_, rfl, rfl⟩
        intro other hother
        exact update_of_ne hother _ _
      | input | resizeRequest =>
        cases taken
        exact ⟨rfl, ⟨connection, here, rfl⟩, fun _ _ => rfl, rfl, rfl⟩
    refine ⟨⟨?_, ?_, ?_⟩, ?_⟩
    · intro other found hfound
      rw [hnext]
      by_cases heq : other = generation
      · rw [heq]
        exact hbelow
      · rw [hothers other heq] at hfound
        exact named.connection_lt other found hfound
    · rw [hpublishers, hnext]
      exact named.slot_lt
    · intro other hfresh
      rw [hnext] at hfresh
      have hother : other ≠ generation := by
        rintro rfl
        exact absurd hbelow (Nat.not_lt.mpr hfresh)
      rw [hchannels, update_of_ne hother]
      exact named.fresh other hfresh
    · unfold System.handed
      rw [hnext]
      refine sum_shares_le _ _ 0 _ hbelow ?_ ?_
      · intro other hother
        unfold queued
        rw [hchannels, update_of_ne hother, hothers other hother]
      · obtain ⟨after, hafter, hphase⟩ := hconnection
        have hreading : reads (some after) = true := by
          rw [reads, hphase]
          exact reading
        unfold queued
        rw [hchannels, hafter, here, if_pos hreading, if_pos reading, Function.update_self, hqueue,
          countP_cons, hwrites]
        exact Nat.le_refl _

theorem closeReceiver_spec (generation : Nat) :
    let closed : System := { system with
      registry := { system.registry with
        channels := Function.update system.registry.channels generation
          (system.registry.channels generation).closeReceiver } }
    Named closed ∧ closed.handed key ≤ system.handed key := by
  intro closed
  refine ⟨⟨named.connection_lt, named.slot_lt, ?_⟩, ?_⟩
  · intro other hfresh
    simp only [closed, update_apply]
    split
    · rfl
    · exact named.fresh other hfresh
  · apply Finset.sum_le_sum
    intro other _
    unfold queued
    by_cases heq : other = generation
    · subst heq
      simp [closed, Channel.closeReceiver]
    · simp only [closed, update_of_ne heq]
      exact Nat.le_refl _

end

theorem step_spec (key : Digest → Bool) (named : Named system) {action : Action}
    (taken : step env system action = some next) :
    Named next ∧
      next.handed key + ((system.writes action).countP fun sent => key sent.requestId) ≤
        system.handed key + (system.delivers env key action).toNat := by
  have hless : ∀ {after : System}, Named after ∧ after.handed key ≤ system.handed key →
      Named after ∧ after.handed key + 0 ≤ system.handed key + 0 := fun spec => spec
  cases step_stepped taken with
  | call call => exact hless ⟨⟨named.connection_lt, named.slot_lt, named.fresh⟩, Nat.le_refl _⟩
  | caller here moved => exact section_spec named here moved _
  | attach deviceId connectionId version inputQueue =>
    exact hless (attach_spec named deviceId connectionId version inputQueue)
  | @attachFail generation deviceId _ _ _ here =>
    have haside : Aside system (system.failDevice deviceId (.attach generation)) :=
      .of_eq rfl rfl rfl rfl
    exact hless (haside.setConnection_spec named _ here fun _ => rfl)
  | @capabilities generation connection on here =>
    have haside := capabilities_aside system connection on
    exact hless ⟨haside.named named, haside.handed.le⟩
  | @receive generation connection _ here received =>
    have hlive : reads (some connection) = true := by
      simp only [step, here] at taken
      split at taken
      · rename_i heq
        cases heq
        rfl
      · cases taken
    exact receive_spec named here hlive received
  | @answer generation connection requestId outcome here =>
    exact hless ((resolveOpenRequest_aside system connection.deviceId requestId
      outcome).setConnection_spec named _ here fun hreads => hreads)
  | dropLease here =>
    have haside : Aside system system := .of_eq rfl rfl rfl rfl
    exact hless (haside.setConnection_spec named _ here fun _ => rfl)
  | closeReceiver generation => exact hless (closeReceiver_spec named generation)
  | @detachFail generation deviceId _ _ _ here =>
    have haside : Aside system (system.failDevice deviceId (.detach generation)) :=
      .of_eq rfl rfl rfl rfl
    exact hless (haside.setConnection_spec named _ here fun hreads => hreads)
  | @detachRemove generation deviceId _ _ _ here =>
    exact hless ((detachPublisher_aside system deviceId generation).setConnection_spec named _ here
      fun hreads => hreads)

end System

end Hypeterm.Http
