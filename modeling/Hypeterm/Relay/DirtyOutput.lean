import Hypeterm.Relay.Backpressure

/-! Backpressure keeps dirty output in the replay window. -/
namespace Hypeterm.Relay

open Library
open Db

theorem Ring.earliestOffset_append (ring : Ring) {data : Bytes} (nonempty : data ≠ []) :
    (ring.append data).1.earliestOffset =
      max ring.earliestOffset (ring.endOffset + data.length - ring.capacity) := by
  have hdata : data.isEmpty = false := by simpa using nonempty
  unfold Ring.append Ring.endOffset
  rw [hdata]
  simp only [Bool.false_eq_true, if_false]
  split
  · dsimp only
    omega
  · dsimp only
    omega

theorem Ring.setCapacity_fixed {ring : Ring} {capacity : Nat}
    (fixed : ring.capacity = max capacity 1) : (ring.setCapacity capacity).1 = ring := by
  unfold Ring.setCapacity
  rw [if_pos fixed.symm]

theorem Ring.capacity_append (ring : Ring) (data : Bytes) :
    (ring.append data).1.capacity = ring.capacity := by
  unfold Ring.append
  split
  · rfl
  · split <;> rfl

theorem deviceId_apply (handle : TerminalHandle) (op : HandleOp) :
    (handle.apply op).deviceId = handle.deviceId := by
  obtain ⟨inner, mailboxes, happly⟩ := apply_eq handle op
  rw [happly]

theorem deviceId_commitDurable (handle : TerminalHandle) (durableTarget : Nat)
    (closed : Option String) :
    (handle.commitDurable durableTarget closed).deviceId = handle.deviceId := by
  unfold TerminalHandle.commitDurable TerminalHandle.advanceDurable
  cases closed with
  | none =>
    split <;> rfl
  | some reason =>
    dsimp only [TerminalHandle.fanOut]
    split <;> rfl

end Hypeterm.Relay

namespace Hypeterm.Relay.Backpressure

open Library
open Db

/-- Neither the window nor what is accepted moved. -/
structure Still (before after : TerminalHandle) : Prop where
  deviceId_eq : after.deviceId = before.deviceId
  ring_eq : after.inner.ring = before.inner.ring
  nextOffset_eq : after.inner.nextOffset = before.inner.nextOffset

theorem Still.refl (handle : TerminalHandle) : Still handle handle := ⟨rfl, rfl, rfl⟩

variable {capacity : Nat} {handle after before : TerminalHandle} {terminalId deviceId : Uuid}
  {system next : System} {action : Relay.Action} {flush : FlushPhase}
  {oversized : Option Oversized} {relay : Relay.System} {phase : Phase} {connection : Connection}
  {frame : PublisherOutputFrame} {limits : NegotiatedLimits}

theorem apply_still {op : HandleOp} (fixed : handle.inner.ring.capacity = max capacity 1)
    (allowed : permitted capacity (.handle terminalId op) = true) :
    Still handle (handle.apply op) ∧
      (handle.apply op).inner.durableOffset = handle.inner.durableOffset := by
  refine ⟨⟨deviceId_apply handle op, ?_, ?_⟩, ?_⟩
  all_goals
    cases op with
    | append => cases allowed
    | shrinkToCapacity other =>
      have hother : other = capacity := of_decide_eq_true allowed
      subst hother
      simp only [TerminalHandle.apply, TerminalHandle.shrinkToCapacity,
        Ring.setCapacity_fixed fixed]
      split <;> rfl
    | resize cols rows =>
      simp only [TerminalHandle.apply, TerminalHandle.resize]
      split <;> rfl
    | subscribe fromOffset chunkBytes queueMessages queueBytes =>
      simp only [TerminalHandle.apply, TerminalHandle.subscribe]
      split
      · rename_i hok
        split at hok
        · cases hok
        · cases hok
          rfl
      · rfl
    | beginClose reason =>
      simp only [TerminalHandle.apply, TerminalHandle.beginClose]
      split <;> rfl
    | updateMetadata | nextInputSequence | unsubscribe | terminateSubscribers | receive | release
    | dropReceiver => rfl

/-- The handle is the one that the head of the published checkpoints belongs to. -/
def Publishes (system : Relay.System) (action : Relay.Action) (terminalId : Uuid)
    (checkpoint : PendingCheckpoint) : Prop :=
  action = .flushPublish ∧ checkpoint.terminalId = terminalId ∧
    ∃ rest, system.flush = .publishing (checkpoint :: rest)

/-- What a step outside `on_binary` does to a resident handle. -/
theorem relay_still {system next : Relay.System} (taken : Relay.step system action = some next)
    (allowed : permitted capacity action = true) (running : action ≠ .crash)
    (found : system.resident terminalId = some handle)
    (fixed : handle.inner.ring.capacity = max capacity 1) :
    ∃ after, next.resident terminalId = some after ∧ Still handle after ∧
      (after.inner.durableOffset = handle.inner.durableOffset ∧
          (∀ checkpoint, ¬ Publishes system action terminalId checkpoint) ∨
        ∃ checkpoint, Publishes system action terminalId checkpoint ∧
          after.inner.durableOffset =
            max handle.inner.durableOffset checkpoint.durableTarget) := by
  have hstay : next.resident terminalId = some handle →
      (∀ checkpoint, ¬ Publishes system action terminalId checkpoint) →
      ∃ after, next.resident terminalId = some after ∧ Still handle after ∧
        (after.inner.durableOffset = handle.inner.durableOffset ∧
            (∀ checkpoint, ¬ Publishes system action terminalId checkpoint) ∨
          ∃ checkpoint, Publishes system action terminalId checkpoint ∧
            after.inner.durableOffset =
              max handle.inner.durableOffset checkpoint.durableTarget) := by
    intro hsame hother
    exact ⟨handle, hsame, Still.refl handle, .inl ⟨rfl, hother⟩⟩
  cases step_stepped taken with
  | applies target op stored hstored =>
    have htarget := terminalId_of_resident hstored
    subst htarget
    by_cases hsame : terminalId = stored.terminalId
    · subst hsame
      cases found.symm.trans hstored
      obtain ⟨hstill, hdurable⟩ := apply_still fixed allowed
      refine ⟨handle.apply op, ?_, hstill, .inl ⟨hdurable, by simp [Publishes]⟩⟩
      rw [resident_applyOp, if_pos rfl, found, Option.map_some]
    · refine hstay ?_ (by simp [Publishes])
      rw [resident_applyOp, if_neg hsame, found]
  | loads => exact hstay (resident_load found) (by simp [Publishes])
  | publishes checkpoint rest publishing =>
    by_cases hsame : terminalId = checkpoint.terminalId
    · obtain ⟨_, hring, hnext, hdurable⟩ :=
        commitDurable_spec handle checkpoint.durableTarget checkpoint.closeReason
      refine ⟨_, ?_, ⟨deviceId_commitDurable handle _ _, hring, hnext⟩,
        Or.inr ⟨checkpoint, ⟨rfl, hsame.symm, rest, publishing⟩, hdurable⟩⟩
      rw [resident_publish, if_pos hsame, ← hsame, found, Option.map_some]
    · refine hstay ?_ ?_
      · rw [resident_publish, if_neg hsame, found]
      · rintro other ⟨_, hid, rest', hother⟩
        cases publishing.symm.trans hother
        exact hsame hid.symm
  | published publishing =>
    refine hstay found ?_
    rintro other ⟨_, _, rest', hother⟩
    cases publishing.symm.trans hother
  | inserts =>
    refine hstay ?_ (by simp [Publishes])
    unfold System.resident
    rw [terminals_insertTerminal]
    exact found
  | begins | takes | took | commits | refuses | fails =>
    exact hstay found (by simp [Publishes])
  | crashes => exact absurd rfl running

/-- After an oversized frame and before the next checkpoint of the terminal: nothing but
that frame is dirty, and a checkpoint in flight covers all of it. -/
structure Overhang (capacity : Nat) (flush : FlushPhase) (handle : TerminalHandle)
    (frame : Oversized) : Prop where
  large : capacity ≤ frame.length
  length_pos : 0 < frame.length
  durable_eq : handle.inner.durableOffset = frame.start
  next_eq : handle.inner.nextOffset = frame.start + frame.length
  earliest_le : handle.inner.ring.earliestOffset ≤ frame.start + (frame.length - capacity)
  covered : ∀ checkpoint ∈ flush.pending, checkpoint.terminalId = handle.terminalId →
    checkpoint.durableTarget = handle.inner.nextOffset

structure Guarded (capacity : Nat) (flush : FlushPhase) (oversized : Option Oversized)
    (handle : TerminalHandle) : Prop where
  capacity_eq : handle.inner.ring.capacity = max capacity 1
  dirty : ∀ checkpoint ∈ flush.pending, checkpoint.terminalId = handle.terminalId →
    checkpoint.closeReason = none → handle.inner.durableOffset < checkpoint.durableTarget
  window : handle.inner.ring.earliestOffset ≤ handle.inner.durableOffset ∨
    ∃ frame, oversized = some frame ∧ Overhang capacity flush handle frame

def Phase.frame? : Phase → Option PublisherOutputFrame
  | .holding frame _ | .windowFull frame _ | .waiting frame _ _ | .rechecking frame _
  | .appending frame _ => some frame
  | .ready | .lookingUp _ _ | .closed => none

structure Holds (capacity : Nat) (relay : Relay.System) (deviceId : Uuid) (phase : Phase) :
    Prop where
  own : ∀ frame, phase.frame? = some frame →
    ∃ handle, relay.resident frame.terminalId = some handle ∧ handle.deviceId = deviceId
  room : ∀ frame limits, phase = .appending frame limits →
    ∀ handle, relay.resident frame.terminalId = some handle →
      handle.dirtyBytes ≤ targetDirtyHeadroom capacity limits frame

structure Protected (capacity : Nat) (system : System) : Prop where
  relay : Relay.Inv system.relay
  guarded : ∀ terminalId handle, system.relay.resident terminalId = some handle →
    Guarded capacity system.relay.flush (system.oversized terminalId) handle
  holds : ∀ deviceId connection, system.connections deviceId = some connection →
    Holds capacity system.relay deviceId connection.phase

theorem Protected.initial (capacity : Nat) : Protected capacity System.initial where
  relay := Relay.Inv.initial
  guarded := by
    intro terminalId handle found
    cases found
  holds := by
    intro deviceId connection found
    cases found

theorem Guarded.still {flush' : FlushPhase} (guarded : Guarded capacity flush oversized handle)
    (terminalId_eq : after.terminalId = handle.terminalId) (still : Still handle after)
    (durable_eq : after.inner.durableOffset = handle.inner.durableOffset)
    (pending : ∀ checkpoint ∈ flush'.pending, checkpoint.terminalId = handle.terminalId →
      checkpoint ∈ flush.pending ∨ handle.takeCheckpoint = some checkpoint) :
    Guarded capacity flush' oversized after where
  capacity_eq := by rw [still.ring_eq, guarded.capacity_eq]
  dirty := by
    intro checkpoint member same hopen
    rw [terminalId_eq] at same
    rw [durable_eq]
    rcases pending checkpoint member same with hold | hnew
    · exact guarded.dirty checkpoint hold same hopen
    · obtain ⟨_, htarget, hdirty⟩ := takeCheckpoint_fields hnew
      rw [htarget]
      exact hdirty hopen
  window := by
    rw [still.ring_eq, durable_eq]
    refine guarded.window.imp_right ?_
    rintro ⟨frame, hframe, overhang⟩
    refine ⟨frame, hframe, ?_⟩
    constructor
    · exact overhang.large
    · exact overhang.length_pos
    · rw [durable_eq, overhang.durable_eq]
    · rw [still.nextOffset_eq, overhang.next_eq]
    · rw [still.ring_eq]
      exact overhang.earliest_le
    · intro checkpoint member same
      rw [terminalId_eq] at same
      rw [still.nextOffset_eq]
      rcases pending checkpoint member same with hold | hnew
      · exact overhang.covered checkpoint hold same
      · exact (takeCheckpoint_fields hnew).2.1

theorem Guarded.publish {flush' : FlushPhase} {oversized' : Option Oversized}
    {checkpoint : PendingCheckpoint} (guarded : Guarded capacity flush oversized handle)
    (order : handle.inner.ring.earliestOffset ≤ handle.inner.nextOffset)
    (still : Still handle after) (member : checkpoint ∈ flush.pending)
    (same : checkpoint.terminalId = handle.terminalId)
    (durable_eq : after.inner.durableOffset =
      max handle.inner.durableOffset checkpoint.durableTarget)
    (others : ∀ other ∈ flush'.pending, other.terminalId ≠ after.terminalId) :
    Guarded capacity flush' oversized' after where
  capacity_eq := by rw [still.ring_eq, guarded.capacity_eq]
  dirty := by
    intro other hmember hsame
    exact absurd hsame (others other hmember)
  window := by
    left
    rw [still.ring_eq, durable_eq]
    rcases guarded.window with hwindow | ⟨frame, _, overhang⟩
    · exact hwindow.trans (Nat.le_max_left _ _)
    · rw [overhang.covered checkpoint member same]
      exact order.trans (Nat.le_max_right _ _)

theorem Guarded.loaded (inv : Relay.Inv relay) (missing : relay.resident terminalId = none)
    (found : (relay.load terminalId capacity).resident terminalId = some handle)
    (oversized : Option Oversized) : Guarded capacity relay.flush oversized handle := by
  cases hknown : getTerminal relay.store terminalId with
  | none =>
    unfold System.load at found
    rw [missing, hknown] at found
    cases missing.symm.trans found
  | some row =>
    have hrowId : row.terminalId = terminalId := key_of_lookup hknown
    rw [inv.load_eq hknown missing capacity] at found
    unfold System.resident at found missing
    rw [lookup_append, missing, Option.none_or, lookup_cons] at found
    rw [if_pos (show (TerminalHandle.fromRow row capacity _).terminalId = terminalId from hrowId)]
      at found
    cases found
    obtain ⟨⟨segments, _, htiles⟩, hbound⟩ := (inv.terminal terminalId).stored row hknown
    obtain ⟨hnext, hend, hdurable, hcapacity, _⟩ := fromRow_recovered capacity htiles.le hbound
    refine ⟨hcapacity, ?_, .inl ?_⟩
    · intro checkpoint member same
      exact absurd (same.trans hrowId) (inv.not_flushed missing checkpoint member)
    · unfold Ring.endOffset at hend
      omega

theorem Holds.of_still {before after : Relay.System} (holds : Holds capacity before deviceId phase)
    (still : ∀ terminalId handle, before.resident terminalId = some handle →
      ∃ later, after.resident terminalId = some later ∧ later.deviceId = handle.deviceId ∧
        (handle.deviceId = deviceId → later.dirtyBytes ≤ handle.dirtyBytes)) :
    Holds capacity after deviceId phase where
  own := by
    intro frame hframe
    obtain ⟨handle, hfound, hdevice⟩ := holds.own frame hframe
    obtain ⟨later, hlater, hsame, _⟩ := still _ handle hfound
    exact ⟨later, hlater, hsame.trans hdevice⟩
  room := by
    intro frame limits hphase handle hfound
    obtain ⟨holder, hholder, hdevice⟩ := holds.own frame (by rw [hphase]; rfl)
    obtain ⟨later, hlater, _, hdirty⟩ := still _ holder hholder
    cases hfound.symm.trans hlater
    exact (hdirty hdevice).trans (holds.room frame limits hphase holder hholder)

theorem Still.dirtyBytes_le (still : Still before after)
    (durable_le : before.inner.durableOffset ≤ after.inner.durableOffset) :
    after.dirtyBytes ≤ before.dirtyBytes := by
  unfold TerminalHandle.dirtyBytes
  rw [still.nextOffset_eq]
  omega

theorem afterRelay_relay (system : System) (action : Relay.Action) (relay : Relay.System) :
    (system.afterRelay action relay).relay = relay := by
  unfold System.afterRelay
  split <;> rfl

theorem connections_afterRelay (relay : Relay.System) (running : action ≠ .crash) :
    (system.afterRelay action relay).connections = system.connections := by
  unfold System.afterRelay
  split
  · exact absurd rfl running
  · rfl
  · rfl

theorem oversized_afterRelay (relay : Relay.System) (running : action ≠ .crash)
    (unpublished : ∀ checkpoint, ¬ Publishes system.relay action terminalId checkpoint) :
    (system.afterRelay action relay).oversized terminalId = system.oversized terminalId := by
  unfold System.afterRelay
  split
  · exact absurd rfl running
  · rename_i checkpoint rest hflush
    have hother : checkpoint.terminalId ≠ terminalId :=
      fun heq => unpublished checkpoint ⟨rfl, heq, rest, hflush⟩
    exact Function.update_of_ne hother.symm _ _
  · rfl

section

variable (inv : Protected capacity system)
include inv

theorem Protected.crash : Protected capacity (system.afterRelay .crash system.relay.crash) where
  relay := inv.relay.crash
  guarded := by
    intro terminalId handle found
    cases found
  holds := by
    intro deviceId connection found
    cases found

theorem Protected.guardedLoad
    (found : (system.relay.load terminalId capacity).resident terminalId = some handle) :
    Guarded capacity (system.relay.load terminalId capacity).flush (system.oversized terminalId)
      handle := by
  rw [flush_load]
  cases hmissing : system.relay.resident terminalId with
  | none => exact Guarded.loaded inv.relay hmissing found _
  | some before =>
    cases found.symm.trans (resident_load hmissing)
    exact inv.guarded terminalId handle hmissing

/-- A terminal that stays resident stays guarded, whether the step publishes its checkpoint
or leaves its handle where it was. -/
theorem Protected.guardedStep (allowed : permitted capacity action = true)
    (running : action ≠ .crash) (taken : Relay.step system.relay action = some relay)
    (hbefore : system.relay.resident terminalId = some before)
    (found : relay.resident terminalId = some handle) :
    Guarded capacity relay.flush ((system.afterRelay action relay).oversized terminalId)
      handle := by
  have hguarded := inv.guarded terminalId before hbefore
  have hid := terminalId_of_resident hbefore
  obtain ⟨after, hafter, hstill, hcases⟩ :=
    relay_still taken allowed running hbefore hguarded.capacity_eq
  cases found.symm.trans hafter
  have hsameId := (terminalId_of_resident found).trans hid.symm
  rcases hcases with ⟨hdurable, hnot⟩ | ⟨checkpoint, ⟨rfl, hcheckpoint, rest, hflush⟩, hdurable⟩
  · rw [oversized_afterRelay relay running hnot]
    apply hguarded.still hsameId hstill hdurable
    intro pending member same
    refine (pending_step taken member).imp_right ?_
    rintro ⟨holder, holderId, hholder, htake⟩
    have hsame : holderId = terminalId := by
      rw [← terminalId_of_resident hholder, ← (takeCheckpoint_fields htake).1, same, hid]
    subst hsame
    cases hholder.symm.trans hbefore
    exact htake
  · have hmember : checkpoint ∈ system.relay.flush.pending := by
      rw [hflush]
      exact List.mem_append_right _ List.mem_cons_self
    apply hguarded.publish (inv.relay.ordered hbefore).earliest_le_next hstill hmember
      (hcheckpoint.trans hid.symm) hdurable
    -- A terminal has one checkpoint in a flush, so none is left of this one.
    intro other member heq
    have hnodup := inv.relay.flush_nodup
    simp only [Relay.step, hflush, Option.some.injEq] at taken
    subst taken
    rw [hflush] at hnodup
    apply (List.nodup_cons.mp hnodup).1
    rw [hcheckpoint, ← hid, ← hsameId, ← heq]
    exact List.mem_map_of_mem (by simpa [FlushPhase.pending, FlushPhase.taken,
      FlushPhase.committed, System.publish] using member)

theorem Protected.relayStep (allowed : permitted capacity action = true)
    (taken : Relay.step system.relay action = some relay) :
    Protected capacity (system.afterRelay action relay) := by
  by_cases hcrash : action = .crash
  · subst hcrash
    cases taken
    exact inv.crash
  constructor
  · rw [afterRelay_relay]
    exact inv.relay.step taken
  · intro terminalId handle found
    rw [afterRelay_relay] at found ⊢
    rcases resident_of_next taken found with ⟨before, hbefore⟩ | ⟨other, rfl, hload⟩
    · exact inv.guardedStep allowed hcrash taken hbefore found
    · have hother : other = capacity := of_decide_eq_true allowed
      subst hother
      subst hload
      exact inv.guardedLoad found
  · intro deviceId connection hconnection
    rw [connections_afterRelay relay hcrash] at hconnection
    rw [afterRelay_relay]
    apply (inv.holds deviceId connection hconnection).of_still
    intro terminalId handle found
    obtain ⟨after, hafter, hstill, hcases⟩ := relay_still taken allowed hcrash found
      (inv.guarded terminalId handle found).capacity_eq
    refine ⟨after, hafter, hstill.deviceId_eq, fun _ => hstill.dirtyBytes_le ?_⟩
    rcases hcases with ⟨hdurable, _⟩ | ⟨checkpoint, _, hdurable⟩
    · rw [hdurable]
    · rw [hdurable]
      exact Nat.le_max_left _ _

theorem Protected.setConnection (holds : Holds capacity system.relay deviceId connection.phase) :
    Protected capacity (system.setConnection deviceId connection) where
  relay := inv.relay
  guarded := inv.guarded
  holds := by
    intro other stored found
    by_cases hsame : other = deviceId
    · subst hsame
      simp only [System.setConnection, Function.update_self, Option.some.injEq] at found
      subst found
      exact holds
    · simp only [System.setConnection, Function.update_of_ne hsame] at found
      exact inv.holds other stored found

end

theorem Holds.of_no_frame (free : phase.frame? = none) : Holds capacity relay deviceId phase where
  own := by
    intro frame hframe
    cases free.symm.trans hframe
  room := by
    intro frame limits hphase
    subst hphase
    cases free

theorem Holds.of_frame
    (found : relay.resident frame.terminalId = some handle) (own : handle.deviceId = deviceId)
    (same : phase.frame? = some frame) (room : ∀ limits, phase = .appending frame limits →
      handle.dirtyBytes ≤ targetDirtyHeadroom capacity limits frame) :
    Holds capacity relay deviceId phase where
  own := by
    intro other hother
    cases same.symm.trans hother
    exact ⟨handle, found, own⟩
  room := by
    intro other limits hphase stored hstored
    subst hphase
    cases same
    cases hstored.symm.trans found
    exact room limits rfl

theorem Protected.onBinary (inv : Protected capacity system)
    (deviceId : Uuid) (connection : Connection) (bytes : Bytes) (limits : NegotiatedLimits) :
    Protected capacity (system.onBinary deviceId connection bytes limits) := by
  unfold System.onBinary
  split
  · exact inv.setConnection (.of_no_frame rfl)
  · dsimp only
    split
    · split <;> exact inv.setConnection (.of_no_frame rfl)
    · exact inv.setConnection (.of_no_frame rfl)

theorem Protected.lookUp (inv : Protected capacity system)
    (deviceId : Uuid) (connection : Connection) (frame : PublisherOutputFrame)
    (limits : NegotiatedLimits) :
    Protected capacity (system.lookUp capacity deviceId connection frame limits) := by
  have hload : Relay.step system.relay (.load frame.terminalId capacity) =
      some (system.relay.load frame.terminalId capacity) := rfl
  have hloaded : Protected capacity
      { system with relay := system.relay.load frame.terminalId capacity } :=
    inv.relayStep (by simp [permitted]) hload
  unfold System.lookUp
  dsimp only
  split
  · rename_i hown
    obtain ⟨handle, hfound, hdevice⟩ := (Option.any_eq_true _ _).mp hown
    exact hloaded.setConnection
      (.of_frame hfound (of_decide_eq_true hdevice) rfl fun _ hphase => nomatch hphase)
  · exact hloaded.setConnection (.of_no_frame rfl)

theorem Protected.checkDirty (inv : Protected capacity system) {full : Connection}
    (found : system.relay.resident frame.terminalId = some handle)
    (own : handle.deviceId = deviceId)
    (full_holds : Holds capacity system.relay deviceId full.phase) :
    Protected capacity
      (system.checkDirty capacity deviceId connection frame limits handle full) := by
  unfold System.checkDirty
  split
  · rename_i hroom
    refine inv.setConnection (.of_frame found own rfl ?_)
    intro other hphase
    cases hphase
    exact hroom
  · exact inv.setConnection full_holds

/-- What an append does under the one capacity, with its outcome. -/
inductive Appended (handle : TerminalHandle) (payload : Bytes) :
    TerminalHandle × AppendOutcome → Prop where
  | notOpen : Appended handle payload (handle, .notOpen)
  | mismatch : Appended handle payload
      (handle, .offsetMismatch handle.inner.nextOffset handle.inner.durableOffset)
  | empty (nothing : payload = []) : Appended handle payload
      (handle, .accepted handle.inner.nextOffset handle.inner.durableOffset)
  | grown (after : TerminalHandle) (nonempty : payload ≠ [])
      (opened : handle.inner.lifecycle = .opened)
      (ring_eq : after.inner.ring = (handle.inner.ring.append payload).1)
      (next_eq : after.inner.nextOffset = handle.inner.nextOffset + payload.length)
      (durable_eq : after.inner.durableOffset = handle.inner.durableOffset) :
      Appended handle payload (after,
        .accepted (handle.inner.nextOffset + payload.length) handle.inner.durableOffset)

theorem append_appended
    (fixed : handle.inner.ring.capacity = max capacity 1) (expectedOffset : Nat) (payload : Bytes) :
    Appended handle payload (handle.append expectedOffset payload capacity) := by
  unfold TerminalHandle.append
  dsimp only
  split
  · exact .notOpen
  · rename_i hopen
    split
    · exact .mismatch
    · split
      · rename_i hempty
        rw [Ring.setCapacity_fixed fixed]
        exact .empty (List.isEmpty_iff.mp hempty)
      · rename_i hnonempty
        refine .grown _ (fun hnil => hnonempty (by simp [hnil])) (by simpa using hopen) ?_ rfl rfl
        simp only [TerminalHandle.accept, TerminalHandle.fanOut, Ring.setCapacity_fixed fixed]

theorem window_of_headroom {earliest next durable : Nat}
    (durable_le : durable ≤ next) (nonempty : frame.payload ≠ [])
    (room : next - durable ≤ targetDirtyHeadroom capacity limits frame)
    (window : earliest ≤ durable ∨ max capacity 1 ≤ next - durable) :
    earliest ≤ durable ∧
      (frame.payload.length < capacity →
        next + frame.payload.length - max capacity 1 ≤ durable) ∧
      (capacity ≤ frame.payload.length → durable = next) := by
  have hpos : 0 < frame.payload.length := List.length_pos_of_ne_nil nonempty
  unfold targetDirtyHeadroom at room
  split at room
  · omega
  · omega

theorem Guarded.clear_or_large (guarded : Guarded capacity flush oversized handle) :
    handle.inner.ring.earliestOffset ≤ handle.inner.durableOffset ∨
      max capacity 1 ≤ handle.inner.nextOffset - handle.inner.durableOffset := by
  refine guarded.window.imp_right ?_
  rintro ⟨frame, _, overhang⟩
  have hlarge := overhang.large
  have hpos := overhang.length_pos
  rw [overhang.next_eq, overhang.durable_eq]
  omega

theorem Guarded.not_pending {system : Relay.System} (inv : Relay.Inv system)
    (guarded : Guarded capacity system.flush oversized handle)
    (found : system.resident terminalId = some handle)
    (opened : handle.inner.lifecycle = .opened)
    (clean : handle.inner.durableOffset = handle.inner.nextOffset) :
    ∀ checkpoint ∈ system.flush.pending, checkpoint.terminalId ≠ handle.terminalId := by
  intro checkpoint member same
  obtain ⟨row, hrow, hresident⟩ := (inv.terminal terminalId).resident handle found
  have hbound := ((inv.terminal terminalId).stored row hrow).2
  have htarget : checkpoint.durableTarget ≤ handle.inner.nextOffset := by
    rw [hresident.nextOffset_eq]
    rcases List.mem_append.mp member with htaken | hcommitted
    · exact (hresident.taken checkpoint htaken same).1.target_le
    · rw [← (hresident.committed checkpoint hcommitted same).1]
      exact hbound
  cases hreason : checkpoint.closeReason with
  | none =>
    have hdirty := guarded.dirty checkpoint member same hreason
    omega
  | some reason =>
    have hclosing := hresident.closing checkpoint member same reason hreason
    rw [opened] at hclosing
    cases hclosing

/-- A frame that found enough room keeps the window at the durable offset, or replaces
all of a window that is clean. -/
theorem Guarded.append {system : Relay.System}
    (inv : Relay.Inv system) (guarded : Guarded capacity system.flush oversized handle)
    (found : system.resident frame.terminalId = some handle)
    (room : handle.dirtyBytes ≤ targetDirtyHeadroom capacity limits frame)
    (nonempty : frame.payload ≠ []) (opened : handle.inner.lifecycle = .opened)
    (terminalId_eq : after.terminalId = handle.terminalId)
    (ring_eq : after.inner.ring = (handle.inner.ring.append frame.payload).1)
    (next_eq : after.inner.nextOffset = handle.inner.nextOffset + frame.payload.length)
    (durable_eq : after.inner.durableOffset = handle.inner.durableOffset) :
    Guarded capacity system.flush
      (if capacity ≤ frame.payload.length then
        some ⟨handle.inner.nextOffset, frame.payload.length⟩ else oversized) after := by
  have hordered := inv.ordered found
  have hearliest : after.inner.ring.earliestOffset = max handle.inner.ring.earliestOffset
      (handle.inner.nextOffset + frame.payload.length - max capacity 1) := by
    rw [ring_eq, Ring.earliestOffset_append _ nonempty, guarded.capacity_eq, hordered.next_eq_end]
  obtain ⟨hclear, hsmall, hlarge⟩ :=
    window_of_headroom hordered.durable_le_next nonempty room guarded.clear_or_large
  constructor
  · rw [ring_eq, Ring.capacity_append, guarded.capacity_eq]
  · rw [terminalId_eq, durable_eq]
    exact guarded.dirty
  · by_cases hsize : capacity ≤ frame.payload.length
    · right
      rw [if_pos hsize]
      have hclean := hlarge hsize
      have hpos := List.length_pos_of_ne_nil nonempty
      refine ⟨_, rfl, hsize, hpos, ?_, next_eq, ?_, ?_⟩
      · rw [durable_eq, hclean]
      · dsimp only
        omega
      · intro checkpoint member same
        rw [terminalId_eq] at same
        exact absurd same (guarded.not_pending inv found opened hclean checkpoint member)
    · left
      have hwindow := hsmall (Nat.lt_of_not_le hsize)
      omega

theorem Protected.appended (inv : Protected capacity system) {op : HandleOp}
    {oversized : Uuid → Option Oversized}
    (found : system.relay.resident handle.terminalId = some handle)
    (own : handle.deviceId = deviceId) (idle : connection.phase.frame? = none)
    (guarded : Guarded capacity system.relay.flush (oversized handle.terminalId) (handle.apply op))
    (others : ∀ other, other ≠ handle.terminalId → oversized other = system.oversized other) :
    Protected capacity
      { relay := system.relay.applyOp handle op
        connections := Function.update system.connections deviceId (some connection)
        oversized } where
  relay := inv.relay.applyOp found op
  guarded := by
    intro terminalId stored hstored
    dsimp only at hstored ⊢
    rw [resident_applyOp] at hstored
    split at hstored
    · rename_i hsame
      subst hsame
      rw [found, Option.map_some] at hstored
      cases hstored
      exact guarded
    · rename_i hother
      rw [others terminalId hother]
      exact inv.guarded terminalId stored hstored
  holds := by
    intro other stored hstored
    dsimp only at hstored ⊢
    by_cases hsame : other = deviceId
    · subst hsame
      rw [Function.update_self] at hstored
      cases hstored
      exact .of_no_frame idle
    · rw [Function.update_of_ne hsame] at hstored
      apply (inv.holds other stored hstored).of_still
      intro terminalId holder hholder
      rw [resident_applyOp]
      by_cases hterminal : terminalId = handle.terminalId
      · subst hterminal
        cases hholder.symm.trans found
        rw [if_pos rfl, found, Option.map_some]
        refine ⟨_, rfl, deviceId_apply handle op, fun hdevice => ?_⟩
        exact absurd (hdevice.symm.trans own) hsame
      · rw [if_neg hterminal]
        exact ⟨holder, hholder, rfl, fun _ => Nat.le_refl _⟩

theorem Guarded.reset (guarded : Guarded capacity flush oversized handle)
    (clear : handle.inner.ring.earliestOffset ≤ handle.inner.durableOffset)
    (other : Option Oversized) : Guarded capacity flush other handle :=
  { guarded with window := Or.inl clear }

theorem Protected.append (inv : Protected capacity system)


    (found : system.relay.resident frame.terminalId = some handle)
    (own : handle.deviceId = deviceId)
    (room : handle.dirtyBytes ≤ targetDirtyHeadroom capacity limits frame) :
    Protected capacity (system.append capacity deviceId connection frame handle) := by
  have hid := terminalId_of_resident found
  have hfound : system.relay.resident handle.terminalId = some handle := by rw [hid, found]
  have hguarded := inv.guarded handle.terminalId handle hfound
  have happended := append_appended hguarded.capacity_eq frame.expectedOffset frame.payload
  have hupdated : ∀ other, other ≠ handle.terminalId →
      (if capacity ≤ frame.payload.length then
        Function.update system.oversized frame.terminalId
          (some ⟨handle.inner.nextOffset, frame.payload.length⟩)
      else system.oversized) other = system.oversized other := by
    intro other different
    split
    · rw [← hid]
      exact Function.update_of_ne different _ _
    · rfl
  unfold System.append
  generalize happend :
    handle.append frame.expectedOffset frame.payload capacity = appended at happended
  have hafter : handle.apply (.append frame.expectedOffset frame.payload capacity) = appended.1 :=
    congrArg Prod.fst happend
  cases happended with
  | notOpen => exact inv.appended hfound own rfl (hafter ▸ hguarded) fun _ _ => rfl
  | mismatch => exact inv.appended hfound own rfl (hafter ▸ hguarded) fun _ _ => rfl
  | empty hnothing =>
    refine inv.appended hfound own rfl ?_ hupdated
    rw [hafter]
    split
    · rename_i hsize
      apply hguarded.reset
      unfold targetDirtyHeadroom TerminalHandle.dirtyBytes at room
      rw [if_pos hsize] at room
      exact hguarded.clear_or_large.resolve_right (by omega)
    · exact hguarded
  | grown after hnonempty hopened hring hnext hdurable =>
    refine inv.appended hfound own rfl ?_ hupdated
    rw [hafter]
    have hterminal : after.terminalId = handle.terminalId := by
      rw [← terminalId_apply handle (.append frame.expectedOffset frame.payload capacity), hafter]
    have hgrown := hguarded.append inv.relay found room hnonempty hopened hterminal hring hnext
      hdurable
    split
    · rename_i hsize
      rw [if_pos hsize] at hgrown
      rw [hid, Function.update_self]
      exact hgrown
    · rename_i hsize
      rw [if_neg hsize] at hgrown
      exact hgrown

theorem Protected.proceed (inv : Protected capacity system) {timedOut storageFailing : Bool}
    (connected : system.connections deviceId = some connection)
    (taken : system.proceed capacity deviceId connection timedOut storageFailing = some next) :
    Protected capacity next := by
  have hholds := inv.holds deviceId connection connected
  have hown : ∀ frame, connection.phase.frame? = some frame → ∀ handle,
      system.relay.resident frame.terminalId = some handle → handle.deviceId = deviceId := by
    intro frame hframe handle hfound
    obtain ⟨holder, hholder, hdevice⟩ := hholds.own frame hframe
    cases hfound.symm.trans hholder
    exact hdevice
  unfold System.proceed at taken
  cases hphase : connection.phase with
  | ready | closed =>
    rw [hphase] at taken
    cases taken
  | lookingUp frame limits =>
    rw [hphase] at taken
    cases taken
    exact inv.lookUp deviceId connection frame limits
  | holding frame limits =>
    rw [hphase] at taken
    obtain ⟨handle, hfound, rfl⟩ := Option.map_eq_some_iff.mp taken
    have hdevice := hown frame (by rw [hphase]; rfl) handle hfound
    exact inv.checkDirty hfound hdevice (.of_frame hfound hdevice rfl fun _ h => nomatch h)
  | windowFull frame limits =>
    rw [hphase] at taken
    obtain ⟨handle, hfound, rfl⟩ := Option.map_eq_some_iff.mp taken
    have hdevice := hown frame (by rw [hphase]; rfl) handle hfound
    exact inv.setConnection (.of_frame hfound hdevice rfl fun _ h => nomatch h)
  | waiting frame limits target =>
    rw [hphase] at taken
    obtain ⟨handle, hfound, hwake⟩ := Option.bind_eq_some_iff.mp taken
    have hdevice := hown frame (by rw [hphase]; rfl) handle hfound
    split at hwake
    · cases hwake
      exact inv.setConnection (.of_frame hfound hdevice rfl fun _ h => nomatch h)
    · cases hwake
  | rechecking frame limits =>
    rw [hphase] at taken
    obtain ⟨handle, hfound, rfl⟩ := Option.map_eq_some_iff.mp taken
    have hdevice := hown frame (by rw [hphase]; rfl) handle hfound
    exact inv.checkDirty hfound hdevice (.of_no_frame rfl)
  | appending frame limits =>
    rw [hphase] at taken
    obtain ⟨handle, hfound, rfl⟩ := Option.map_eq_some_iff.mp taken
    have hdevice := hown frame (by rw [hphase]; rfl) handle hfound
    exact inv.append hfound hdevice (hholds.room frame limits hphase handle hfound)

theorem Protected.step {action : Action}
    (inv : Protected capacity system) (taken : step capacity system action = some next) :
    Protected capacity next := by
  cases action with
  | relay action =>
    simp only [Backpressure.step] at taken
    split at taken
    · rename_i hallowed
      obtain ⟨relay, hstep, rfl⟩ := Option.map_eq_some_iff.mp taken
      exact inv.relayStep hallowed hstep
    · cases taken
  | connect deviceId =>
    simp only [Backpressure.step] at taken
    split at taken
    · cases taken
      exact inv.setConnection (.of_no_frame rfl)
    · cases taken
  | disconnect deviceId =>
    cases taken
    refine { inv with holds := ?_ }
    intro other connection hconnection
    dsimp only at hconnection
    by_cases hsame : other = deviceId
    · subst hsame
      rw [Function.update_self] at hconnection
      cases hconnection
    · rw [Function.update_of_ne hsame] at hconnection
      exact inv.holds other connection hconnection
  | onBinary deviceId bytes limits =>
    simp only [Backpressure.step] at taken
    split at taken
    · split at taken
      · cases taken
        exact inv.onBinary deviceId _ bytes limits
      · cases taken
    · cases taken
  | proceed deviceId timedOut storageFailing =>
    obtain ⟨connection, hconnected, hproceed⟩ := Option.bind_eq_some_iff.mp taken
    exact inv.proceed hconnected hproceed

theorem step_appends {action : Action} (taken : step capacity system action = some next) :
    next.relay = system.relay ∨
      (∃ own, permitted capacity own = true ∧ Relay.step system.relay own = some next.relay) ∨
      ∃ deviceId connection frame limits handle, system.connections deviceId = some connection ∧
        connection.phase = .appending frame limits ∧
        system.relay.resident frame.terminalId = some handle ∧
        next = system.append capacity deviceId connection frame handle := by
  cases action with
  | relay action =>
    simp only [step] at taken
    split at taken
    · rename_i hallowed
      obtain ⟨relay, hstep, rfl⟩ := Option.map_eq_some_iff.mp taken
      rw [afterRelay_relay]
      exact .inr (Or.inl ⟨action, hallowed, hstep⟩)
    · cases taken
  | connect deviceId =>
    simp only [step] at taken
    split at taken
    · cases taken
      exact .inl rfl
    · cases taken
  | disconnect deviceId =>
    cases taken
    exact .inl rfl
  | onBinary deviceId bytes limits =>
    simp only [step] at taken
    split at taken
    · split at taken
      · cases taken
        left
        unfold System.onBinary
        split
        · rfl
        · dsimp only
          split
          · split <;> rfl
          · rfl
      · cases taken
    · cases taken
  | proceed deviceId timedOut storageFailing =>
    obtain ⟨connection, hconnected, hproceed⟩ := Option.bind_eq_some_iff.mp taken
    unfold System.proceed at hproceed
    split at hproceed
    · cases hproceed
    · cases hproceed
    · rename_i frame limits hphase
      cases hproceed
      refine .inr (Or.inl ⟨.load frame.terminalId capacity, by simp [permitted], ?_⟩)
      unfold System.lookUp
      dsimp only
      split <;> rfl
    · obtain ⟨handle, _, rfl⟩ := Option.map_eq_some_iff.mp hproceed
      left
      unfold System.checkDirty
      split <;> rfl
    · obtain ⟨handle, _, rfl⟩ := Option.map_eq_some_iff.mp hproceed
      exact .inl rfl
    · obtain ⟨handle, _, hwake⟩ := Option.bind_eq_some_iff.mp hproceed
      split at hwake
      · cases hwake
        exact .inl rfl
      · cases hwake
    · obtain ⟨handle, _, rfl⟩ := Option.map_eq_some_iff.mp hproceed
      left
      unfold System.checkDirty
      split <;> rfl
    · rename_i frame limits hphase
      obtain ⟨handle, hfound, rfl⟩ := Option.map_eq_some_iff.mp hproceed
      exact .inr (Or.inr ⟨deviceId, connection, frame, limits, handle, hconnected, hphase, hfound,
        rfl⟩)

theorem append_relay (capacity : Nat) (system : System) (deviceId : Uuid) (connection : Connection)
    (frame : PublisherOutputFrame) (handle : TerminalHandle) :
    (system.append capacity deviceId connection frame handle).relay =
      system.relay.applyOp handle (.append frame.expectedOffset frame.payload capacity) := by
  unfold System.append
  split <;> rfl

/-- A step that moves the start of a replay window past dirty bytes accepts a frame as
large as the window, and loses no more than the frame's own beginning. -/
theorem Protected.evicts {action : Action} {offset : Nat}
    (inv : Protected capacity system) (taken : Backpressure.step capacity system action = some next)
    (found : system.relay.resident terminalId = some before)
    (later : next.relay.resident terminalId = some after)
    (held : before.inner.ring.earliestOffset ≤ offset)
    (evicted : offset < after.inner.ring.earliestOffset)
    (dirty : after.inner.durableOffset ≤ offset) :
    ∃ frame, next.oversized terminalId = some frame ∧ capacity ≤ frame.length ∧
      frame.start = before.inner.nextOffset ∧
      frame.start + frame.length = after.inner.nextOffset ∧
      frame.start ≤ offset ∧ offset < frame.start + (frame.length - capacity) := by
  have hfixed := (inv.guarded terminalId before found).capacity_eq
  have hunmoved : after.inner.ring = before.inner.ring → False := by
    intro hring
    rw [hring] at evicted
    exact absurd held (Nat.not_le_of_lt evicted)
  rcases step_appends taken with hsame | ⟨own, hallowed, hstep⟩ |
      ⟨deviceId, connection, frame, limits, handle, hconnected, hphase, hfound, rfl⟩
  · rw [hsame] at later
    cases found.symm.trans later
    exact (hunmoved rfl).elim
  · have hrunning : own ≠ .crash := by
      rintro rfl
      have hcrashed : system.relay.crash = next.relay := Option.some.inj hstep
      rw [← hcrashed] at later
      cases later
    obtain ⟨still, hstill, hsame, _⟩ := relay_still hstep hallowed hrunning found hfixed
    cases later.symm.trans hstill
    exact (hunmoved hsame.ring_eq).elim
  · have hid := terminalId_of_resident hfound
    rw [append_relay, resident_applyOp] at later
    split at later
    · rename_i hterminal
      have hsameId : terminalId = frame.terminalId := hterminal.trans hid
      subst hsameId
      cases found.symm.trans hfound
      rw [hid, found, Option.map_some, Option.some.injEq] at later
      have hroom := (inv.holds deviceId connection hconnected).room frame limits hphase before found
      have hordered := inv.relay.ordered found
      have happended := append_appended hfixed frame.expectedOffset frame.payload
      unfold System.append
      generalize happend :
        before.append frame.expectedOffset frame.payload capacity = appended at happended
      have hafter : after = appended.1 := later.symm.trans (congrArg Prod.fst happend)
      subst hafter
      cases happended with
      | notOpen | mismatch | empty => exact (hunmoved rfl).elim
      | grown grown hnonempty hopened hring hnext hdurable =>
        obtain ⟨hclear, hsmall, hlarge⟩ := window_of_headroom hordered.durable_le_next hnonempty
          hroom (inv.guarded _ before found).clear_or_large
        have hearliest : grown.inner.ring.earliestOffset =
            max before.inner.ring.earliestOffset
              (before.inner.nextOffset + frame.payload.length - max capacity 1) := by
          rw [hring, Ring.earliestOffset_append _ hnonempty, hfixed, hordered.next_eq_end]
        dsimp only at evicted dirty ⊢
        by_cases hsize : capacity ≤ frame.payload.length
        · have hclean := hlarge hsize
          rw [if_pos hsize, Function.update_self]
          exact ⟨_, rfl, hsize, rfl, hnext.symm, by dsimp only; omega, by dsimp only; omega⟩
        · have hwindow := hsmall (Nat.lt_of_not_le hsize)
          omega
    · cases found.symm.trans later
      exact (hunmoved rfl).elim

/-- Under a constant replay capacity and with one publisher connection for each terminal,
in every state of every run the window of a resident terminal starts at or below the
durable offset, unless a frame as large as the window was accepted and no checkpoint of
the terminal has followed; and no step evicts an accepted byte that is not durable, but
for the beginning of such a frame. -/
theorem dirty_output_stays_in_the_window {capacity : Nat} {actions : List Action} {system : System}
    (taken : run (step capacity) System.initial actions = some system) :
    (∀ terminalId handle, system.relay.resident terminalId = some handle →
      handle.inner.ring.earliestOffset ≤ handle.inner.durableOffset ∨
        ∃ frame, system.oversized terminalId = some frame ∧ capacity ≤ frame.length ∧
          handle.inner.durableOffset = frame.start ∧
          handle.inner.nextOffset = frame.start + frame.length ∧
          handle.inner.ring.earliestOffset ≤ frame.start + (frame.length - capacity)) ∧
    ∀ action next terminalId before after, step capacity system action = some next →
      system.relay.resident terminalId = some before →
      next.relay.resident terminalId = some after →
      ∀ offset, before.inner.ring.earliestOffset ≤ offset →
        offset < after.inner.ring.earliestOffset → after.inner.durableOffset ≤ offset →
        ∃ frame, next.oversized terminalId = some frame ∧ capacity ≤ frame.length ∧
          frame.start = before.inner.nextOffset ∧
          frame.start + frame.length = after.inner.nextOffset ∧
          frame.start ≤ offset ∧ offset < frame.start + (frame.length - capacity) := by
  have hinv : Protected capacity system :=
    run_invariant (fun _ _ _ inv hstep => inv.step hstep) (Protected.initial capacity) taken
  constructor
  · intro terminalId handle hfound
    refine (hinv.guarded terminalId handle hfound).window.imp_right ?_
    rintro ⟨frame, hframe, overhang⟩
    exact ⟨frame, hframe, overhang.large, overhang.durable_eq, overhang.next_eq,
      overhang.earliest_le⟩
  · intro action next terminalId before after hstep hbefore hafter offset hheld hevicted hdirty
    exact hinv.evicts hstep hbefore hafter hheld hevicted hdirty

/-- A checkpointed frame, an oversized one on a clean window, and a frame that has to wait. -/
def oversizedRun : List Action :=
  [.relay (.insertTerminal 7 1 "owner" "shell" "shell" none none none true), .connect 1,
    .onBinary 1 (encodePublisherFrame 7 0 [1, 2]) ⟨16, 8⟩, .proceed 1 false false,
    .proceed 1 false false, .proceed 1 false false, .relay (.flushBegin [7]), .relay .flushTake,
    .relay .flushTake, .relay .flushCommit, .relay .flushPublish, .relay .flushPublish,
    .onBinary 1 (encodePublisherFrame 7 2 [3, 4, 5, 6, 7, 8]) ⟨16, 8⟩, .proceed 1 false false,
    .proceed 1 false false, .proceed 1 false false,
    .onBinary 1 (encodePublisherFrame 7 8 [9]) ⟨16, 8⟩, .proceed 1 false false,
    .proceed 1 false false]

theorem dirty_output_after_oversizedRun :
    ∃ system handle, run (step 4) System.initial oversizedRun = some system ∧
      system.relay.resident 7 = some handle ∧ handle.inner.ring.earliestOffset = 4 ∧
      handle.inner.durableOffset = 2 ∧
      (system.connections 1).map Connection.phase = some (.windowFull ⟨7, 8, [9]⟩ ⟨16, 8⟩) ∧
      ∃ frame, system.oversized 7 = some frame ∧ 4 ≤ frame.length ∧
        handle.inner.ring.earliestOffset ≤ frame.start + (frame.length - 4) := by
  have hrun : (run (step 4) System.initial oversizedRun).map (fun system =>
      ((system.relay.resident 7).map fun handle =>
        (handle.inner.ring.earliestOffset, handle.inner.durableOffset),
      (system.connections 1).map Connection.phase)) =
      some (some (4, 2), some (.windowFull ⟨7, 8, [9]⟩ ⟨16, 8⟩)) := by
    decide
  obtain ⟨system, htaken, hview⟩ := Option.map_eq_some_iff.mp hrun
  obtain ⟨hresident, hphase⟩ := Prod.mk.inj hview
  obtain ⟨handle, hfound, hoffsets⟩ := Option.map_eq_some_iff.mp hresident
  obtain ⟨hearliest, hdurable⟩ := Prod.mk.inj hoffsets
  refine ⟨system, handle, htaken, hfound, hearliest, hdurable, hphase, ?_⟩
  have hwindow := (dirty_output_stays_in_the_window htaken).1 7 handle hfound
  obtain ⟨frame, hframe, hlarge, _, _, hle⟩ := hwindow.resolve_left (by omega)
  exact ⟨frame, hframe, hlarge, hle⟩

end Hypeterm.Relay.Backpressure
