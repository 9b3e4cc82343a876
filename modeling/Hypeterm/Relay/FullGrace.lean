import Hypeterm.Relay.Grace

/-! Which closes come a full grace period after the device was last connected.  Every
detach sleeps out a period of its own and none is cancelled by a reconnect, so an old
task that wakes after a second disconnect closes the terminals early; and a task that
has made its check closes them whoever attaches meanwhile. -/
namespace Hypeterm.Relay.Grace

open Library List Option

/-- The task has made its check and is closing the device's terminals. -/
def Phase.closes : Phase → Bool
  | .listing | .closing _ | .loaded _ _ | .missing _ _ => true
  | _ => false

/-- The task has emptied the slot and is not finished. -/
def Phase.pending : Phase → Bool
  | .removed | .sleeping _ => true
  | phase => phase.closes

def hasTask (system : System) (deviceId : Uuid) (test : Phase → Bool) : Bool :=
  (range system.registry.nextGeneration).any fun generation =>
    match system.tasks generation with
    | some task => task.deviceId = deviceId && test task.phase
    | none => false

def holdsSlot (system : System) (deviceId : Uuid) (generation : Nat) : Bool :=
  (system.registry.publishers deviceId).any fun slot => slot.generation = generation

/-- A slot is emptied only when no earlier task of the device is still pending, and
taken only when none is closing. -/
def graceUndisturbed (system : System) : Action → Bool
  | .attach deviceId _ _ _ => !hasTask system deviceId Phase.closes
  | .proceed generation _ =>
      match system.tasks generation with
      | some ⟨deviceId, .removing⟩ =>
          !(holdsSlot system deviceId generation && hasTask system deviceId Phase.pending)
      | _ => true
  | _ => true

/-- From a moment on, whatever device was connected at that moment has its terminals
closed no sooner than a grace period later. -/
def FullGrace (grace : Nat) (moment system : System) : Prop :=
  ∀ deviceId, moment.registry.publisherConnected deviceId = true →
    ∀ closed ∈ system.closed.drop moment.closed.length, closed.deviceId = deviceId →
      moment.now + grace ≤ closed.time

def Phase.notBefore (due now : Nat) : Phase → Prop
  | .sleeping deadline => due ≤ deadline
  | .listing | .closing _ | .loaded _ _ | .missing _ _ => due ≤ now
  | _ => True

/-- What holds of a device that was connected when `count` closes had been made and a
period ended at `due`: until it is disconnected again the tasks that wake find it
connected, and from then on none of them closes before `due`. -/
structure GraceInv (grace due count : Nat) (deviceId : Uuid) (system : System) : Prop where
  task_lt : ∀ generation task, system.tasks generation = some task →
    generation < system.registry.nextGeneration
  unattended : ∀ generation task, system.tasks generation = some task →
    system.registry.publisherConnected task.deviceId = true → task.phase.closes = false
  due_le : due ≤ system.now + grace
  count_le : count ≤ system.closed.length
  late : ∀ closed ∈ system.closed.drop count, closed.deviceId = deviceId → due ≤ closed.time
  tasks : system.registry.publisherConnected deviceId = false →
    ∀ generation task, system.tasks generation = some task → task.deviceId = deviceId →
      task.phase.notBefore due system.now

variable {grace due count : Nat} {moment system next : System} {deviceId : Uuid}
  {generation : Nat} {task : Task}

theorem GraceInv.initial (grace : Nat) (deviceId : Uuid) :
    GraceInv grace 0 0 deviceId System.initial where
  task_lt := by simp [System.initial]
  unattended := by simp [System.initial]
  due_le := Nat.zero_le _
  count_le := Nat.zero_le _
  late := by simp [System.initial]
  tasks := by simp [System.initial]

theorem GraceInv.connected (inv : GraceInv grace due count deviceId system) {other : Uuid}
    (connected : system.registry.publisherConnected other = true) :
    GraceInv grace (system.now + grace) system.closed.length other system where
  task_lt := inv.task_lt
  unattended := inv.unattended
  due_le := Nat.le_refl _
  count_le := Nat.le_refl _
  late := by simp
  tasks := by
    intro disconnected
    rw [connected] at disconnected
    cases disconnected

theorem GraceInv.hasTask_of (inv : GraceInv grace due count deviceId system) {test : Phase → Bool}
    (found : system.tasks generation = some task) (holds : test task.phase = true) :
    hasTask system task.deviceId test = true := by
  have hlt := inv.task_lt generation task found
  simp only [hasTask, List.any_eq_true, mem_range]
  exact ⟨generation, hlt, by simp [found, holds]⟩

theorem GraceInv.disconnected (inv : GraceInv grace due count deviceId system)
    (found : system.tasks generation = some task) (closes : task.phase.closes = true) :
    system.registry.publisherConnected task.deviceId = false := by
  cases hconnected : system.registry.publisherConnected task.deviceId with
  | false => rfl
  | true =>
    rw [inv.unattended generation task found hconnected] at closes
    cases closes

variable {due now : Nat} {phase : Phase} {owner : Uuid}

theorem Phase.notBefore_mono {later : Nat} (le : now ≤ later)
    (notBefore : phase.notBefore due now) : phase.notBefore due later := by
  cases phase with
  | listing | closing | loaded | missing => exact Nat.le_trans notBefore le
  | sleeping => exact notBefore
  | held | failing | removing | removed | done => trivial

theorem Phase.due_le (closes : phase.closes = true)
    (notBefore : phase.notBefore due now) : due ≤ now := by
  cases phase with
  | listing | closing | loaded | missing => exact notBefore
  | held | failing | removing | removed | sleeping | done => cases closes

theorem Phase.notBefore_of_closes (closes : phase.closes = true)
    (le : due ≤ now) : phase.notBefore due now := by
  cases phase with
  | listing | closing | loaded | missing => exact le
  | held | failing | removing | removed | sleeping | done => cases closes

theorem Phase.notBefore_of_not_pending
    (idle : phase.pending = false) : phase.notBefore due now := by
  cases phase with
  | held | failing | removing | done => trivial
  | removed | sleeping | listing | closing | loaded | missing => cases idle

section

variable (inv : GraceInv grace due count deviceId system)
include inv

theorem GraceInv.due_le_now
    (found : system.tasks generation = some task) (closes : task.phase.closes = true)
    (device : task.deviceId = deviceId) : due ≤ system.now :=
  Phase.due_le closes
    (inv.tasks (device ▸ inv.disconnected found closes) generation task found device)

theorem GraceInv.of_tasks (tasks : next.tasks = system.tasks) (closed : next.closed = system.closed)
    (generations : next.registry.nextGeneration = system.registry.nextGeneration)
    (slots : next.registry.publishers = system.registry.publishers)
    (later : system.now ≤ next.now) : GraceInv grace due count deviceId next where
  task_lt := by
    rw [tasks, generations]
    exact inv.task_lt
  unattended := by
    unfold Registry.publisherConnected
    rw [tasks, slots]
    exact inv.unattended
  due_le := by
    have := inv.due_le
    omega
  count_le := closed ▸ inv.count_le
  late := closed ▸ inv.late
  tasks := by
    unfold Registry.publisherConnected
    rw [tasks, slots]
    intro disconnected generation task found device
    exact Phase.notBefore_mono later (inv.tasks disconnected generation task found device)

theorem GraceInv.close {relay : Relay.System} {added : List Closed}
    (late : ∀ closed ∈ added, closed.deviceId = deviceId → due ≤ closed.time) :
    GraceInv grace due count deviceId
      { system with relay := relay, closed := system.closed ++ added } where
  task_lt := inv.task_lt
  unattended := inv.unattended
  due_le := inv.due_le
  count_le := by
    rw [length_append]
    exact Nat.le_trans inv.count_le (Nat.le_add_right _ _)
  late := by
    intro closed hclosed device
    rw [drop_append_of_le_length inv.count_le, mem_append] at hclosed
    cases hclosed with
    | inl hearlier => exact inv.late closed hearlier device
    | inr hadded => exact late closed hadded device
  tasks := inv.tasks

theorem GraceInv.setTask (lt : generation < system.registry.nextGeneration)
    (idle : system.registry.publisherConnected owner = true → phase.closes = false)
    (notBefore : system.registry.publisherConnected deviceId = false → owner = deviceId →
      phase.notBefore due system.now) :
    GraceInv grace due count deviceId (system.setTask generation owner phase) where
  task_lt := by
    intro other task found
    by_cases hsame : other = generation
    · exact hsame ▸ lt
    · exact inv.task_lt other task (by simpa [System.setTask, hsame] using found)
  unattended := by
    intro other task found connected
    by_cases hsame : other = generation
    · simp only [System.setTask, hsame, Function.update_self, Option.some.injEq] at found
      subst found
      exact idle connected
    · exact inv.unattended other task (by simpa [System.setTask, hsame] using found) connected
  due_le := inv.due_le
  count_le := inv.count_le
  late := inv.late
  tasks := by
    intro disconnected other task found device
    by_cases hsame : other = generation
    · simp only [System.setTask, hsame, Function.update_self, Option.some.injEq] at found
      subst found
      exact notBefore disconnected device
    · exact inv.tasks disconnected other task (by simpa [System.setTask, hsame] using found) device

theorem GraceInv.moveOn
    (found : system.tasks generation = some task) (closes : task.phase.closes = true)
    (moves : phase.closes = true ∨ phase = .done) :
    GraceInv grace due count deviceId (system.setTask generation task.deviceId phase) := by
  refine inv.setTask (inv.task_lt generation task found) ?_ ?_
  · intro connected
    rw [inv.disconnected found closes] at connected
    cases connected
  · intro _ device
    cases moves with
    | inl hcloses => exact Phase.notBefore_of_closes hcloses (inv.due_le_now found closes device)
    | inr hdone =>
      rw [hdone]
      trivial

theorem GraceInv.setIdle (lt : generation < system.registry.nextGeneration)
    (idle : phase.pending = false) :
    GraceInv grace due count deviceId (system.setTask generation owner phase) := by
  refine inv.setTask lt (fun _ => ?_) fun _ _ => Phase.notBefore_of_not_pending idle
  cases phase with
  | held | failing | removing | done => rfl
  | removed | sleeping | listing | closing | loaded | missing => cases idle

end

theorem connected_attach (deviceId other : Uuid) (connectionId : String)
    (version : ProtocolVersion) (inputQueue : Option Nat) (registry : Registry) :
    (registry.attachPublisher deviceId connectionId version inputQueue).1.publisherConnected other =
      (decide (other = deviceId) || registry.publisherConnected other) := by
  by_cases hsame : other = deviceId
  · simp [Registry.publisherConnected, Registry.attachPublisher, hsame]
  · simp [Registry.publisherConnected, Registry.attachPublisher, hsame]

theorem GraceInv.attach (inv : GraceInv grace due count deviceId system)
    (free : hasTask system owner Phase.closes = false) (connectionId : String)
    (version : ProtocolVersion) (inputQueue : Nat) :
    GraceInv grace due count deviceId (system.attach owner connectionId version inputQueue) := by
  have hattached : GraceInv grace due count deviceId
      { system with
        registry := (system.registry.attachPublisher owner connectionId version
          (if version.supportsInput then some inputQueue else none)).1 } := by
    constructor
    case task_lt =>
      intro generation task found
      exact Nat.lt_succ_of_lt (inv.task_lt generation task found)
    case unattended =>
      intro generation task found connected
      rw [connected_attach, Bool.or_eq_true, decide_eq_true_eq] at connected
      cases connected with
      | inl howner =>
        cases hcloses : task.phase.closes with
        | false => rfl
        | true =>
          have := inv.hasTask_of found hcloses
          rw [howner, free] at this
          cases this
      | inr hconnected => exact inv.unattended generation task found hconnected
    case due_le => exact inv.due_le
    case count_le => exact inv.count_le
    case late => exact inv.late
    case tasks =>
      intro disconnected
      rw [connected_attach, Bool.or_eq_false_iff] at disconnected
      exact inv.tasks disconnected.2
  exact hattached.setIdle (Nat.lt_succ_self _) rfl

theorem detachPublisher_of_holdsSlot (holds : holdsSlot system deviceId generation = true) :
    system.registry.detachPublisher deviceId generation =
      ({ system.registry with
         publishers := Function.update system.registry.publishers deviceId none }, true) := by
  unfold holdsSlot at holds
  unfold Registry.detachPublisher
  cases hslot : system.registry.publishers deviceId with
  | none => simp [hslot] at holds
  | some slot =>
    simp only [hslot, any_some, decide_eq_true_eq] at holds
    simp [holds]

theorem detachPublisher_of_not_holdsSlot (other : holdsSlot system deviceId generation = false) :
    system.registry.detachPublisher deviceId generation = (system.registry, false) := by
  unfold holdsSlot at other
  unfold Registry.detachPublisher
  cases hslot : system.registry.publishers deviceId with
  | none => rfl
  | some slot =>
    simp only [hslot, any_some, decide_eq_false_iff_not] at other
    simp [other]

section

variable (inv : GraceInv grace due count deviceId system)
  (found : system.tasks generation = some task)
include inv found

theorem GraceInv.remove (free : holdsSlot system task.deviceId generation = true →
      hasTask system task.deviceId Phase.pending = false) :
    GraceInv grace due count deviceId (system.remove generation task.deviceId) := by
  have hlt := inv.task_lt generation task found
  cases hholds : holdsSlot system task.deviceId generation with
  | false =>
    unfold System.remove
    rw [detachPublisher_of_not_holdsSlot hholds]
    exact inv.setIdle hlt rfl
  | true =>
    have hidle : ∀ other stored, system.tasks other = some stored →
        stored.deviceId = task.deviceId → stored.phase.pending = false := by
      intro other stored hstored hdevice
      cases hpending : stored.phase.pending with
      | false => rfl
      | true =>
        have := inv.hasTask_of hstored hpending
        rw [hdevice, free hholds] at this
        cases this
    have hremoved : GraceInv grace due count deviceId
        { system with
          registry := { system.registry with
            publishers := Function.update system.registry.publishers task.deviceId none } } := by
      constructor
      case task_lt => exact inv.task_lt
      case unattended =>
        intro other stored hstored connected
        refine inv.unattended other stored hstored ?_
        by_cases hdevice : stored.deviceId = task.deviceId
        · simp [Registry.publisherConnected, hdevice] at connected
        · simpa [Registry.publisherConnected, hdevice] using connected
      case due_le => exact inv.due_le
      case count_le => exact inv.count_le
      case late => exact inv.late
      case tasks =>
        intro disconnected other stored hstored device
        by_cases hdevice : stored.deviceId = task.deviceId
        · exact Phase.notBefore_of_not_pending (hidle other stored hstored hdevice)
        · refine inv.tasks ?_ other stored hstored device
          simpa [Registry.publisherConnected, ← device, hdevice] using disconnected
    unfold System.remove
    rw [detachPublisher_of_holdsSlot hholds]
    exact hremoved.setTask hlt (fun _ => rfl) fun _ _ => trivial

theorem GraceInv.expire {deadline : Nat}
    (phase : task.phase = .sleeping deadline) (reached : deadline ≤ system.now) :
    GraceInv grace due count deviceId (system.expire generation task.deviceId) := by
  have hlt := inv.task_lt generation task found
  unfold System.expire
  cases hconnected : system.registry.publisherConnected task.deviceId with
  | true =>
    rw [Bool.true_or, if_pos rfl]
    exact inv.setIdle hlt rfl
  | false =>
    cases hshutting : system.shuttingDown with
    | true => exact inv.setIdle hlt rfl
    | false =>
      refine inv.setTask hlt ?_ ?_
      · intro connected
        rw [hconnected] at connected
        cases connected
      · intro disconnected device
        have hdeadline := inv.tasks disconnected generation task found device
        rw [phase] at hdeadline
        exact Nat.le_trans hdeadline reached

theorem GraceInv.getOrLoad (closes : task.phase.closes = true)
    (terminalId : Uuid) (rest : List Uuid) (capacity : Nat) :
    GraceInv grace due count deviceId
      (system.getOrLoad generation task.deviceId terminalId rest capacity) := by
  unfold System.getOrLoad
  split
  · exact inv.moveOn found closes (.inl rfl)
  · exact inv.moveOn found closes (.inl rfl)
  · dsimp only
    split
    · have hloaded : GraceInv grace due count deviceId
          { system with relay := system.relay.load terminalId capacity } :=
        inv.of_tasks rfl rfl rfl rfl (Nat.le_refl _)
      exact hloaded.moveOn found closes (.inl rfl)
    · exact inv.moveOn found closes (.inr rfl)

theorem GraceInv.closeOne (closes : task.phase.closes = true)
    (relay : Relay.System) (terminalId : Uuid) (recorded : Bool) (rest : List Uuid) :
    GraceInv grace due count deviceId
      (({ system with
          relay := relay
          closed := system.closed ++
            if recorded then [⟨task.deviceId, terminalId, system.now⟩] else [] }
        : System).setTask generation task.deviceId (.closing rest)) := by
  have hlate : ∀ closed ∈ (if recorded then [⟨task.deviceId, terminalId, system.now⟩] else []
      : List Closed), closed.deviceId = deviceId → due ≤ closed.time := by
    intro closed hclosed device
    split at hclosed
    · rw [mem_singleton] at hclosed
      subst hclosed
      exact inv.due_le_now found closes device
    · cases hclosed
  exact GraceInv.moveOn (inv.close hlate) found closes (.inl rfl)

theorem GraceInv.proceed {capacity : Nat}
    (allowed : graceUndisturbed system (.proceed generation capacity) = true)
    (taken : system.proceed grace generation task capacity = some next) :
    GraceInv grace due count deviceId next := by
  have hlt := inv.task_lt generation task found
  unfold System.proceed at taken
  split at taken
  case h_1 => cases taken
  case h_2 =>
    cases taken
    have hfailed : GraceInv grace due count deviceId
        { system with
          registry := system.registry.failOpenRequestsForDevice task.deviceId } :=
      inv.of_tasks rfl rfl rfl rfl (Nat.le_refl _)
    exact hfailed.setIdle hlt rfl
  case h_3 hphase =>
    cases taken
    refine inv.remove found fun holds => ?_
    obtain ⟨owner, phase⟩ := task
    cases hphase
    simpa [graceUndisturbed, found, holds] using allowed
  case h_4 =>
    cases taken
    cases system.shuttingDown with
    | true => exact inv.setIdle hlt rfl
    | false => exact inv.setTask hlt (fun _ => rfl) fun _ _ => inv.due_le
  case h_5 deadline hphase =>
    split at taken
    · cases taken
    · rename_i hreached
      cases taken
      exact inv.expire found hphase (Nat.le_of_not_lt hreached)
  case h_6 hphase =>
    cases taken
    exact inv.moveOn found (by rw [hphase]; rfl) (.inl rfl)
  case h_7 hphase =>
    cases taken
    exact inv.moveOn found (by rw [hphase]; rfl) (.inr rfl)
  case h_8 terminalId rest hphase =>
    cases taken
    exact inv.getOrLoad found (by rw [hphase]; rfl) terminalId rest capacity
  case h_9 terminalId rest hphase =>
    obtain ⟨handle, -, rfl⟩ := map_eq_some_iff.mp taken
    exact inv.closeOne found (by rw [hphase]; rfl) _ _ _ rest
  case h_10 terminalId rest hphase =>
    cases taken
    exact inv.closeOne found (by rw [hphase]; rfl) _ _ _ rest
  case h_11 => cases taken

end

theorem GraceInv.step (inv : GraceInv grace due count deviceId system) {action : Action}
    (allowed : graceUndisturbed system action = true)
    (taken : Grace.step grace system action = some next) :
    GraceInv grace due count deviceId next := by
  cases action with
  | elapse units =>
    cases taken
    exact inv.of_tasks rfl rfl rfl rfl (Nat.le_add_right _ _)
  | attach owner connectionId version inputQueue =>
    cases taken
    refine inv.attach ?_ connectionId version inputQueue
    simpa [graceUndisturbed] using allowed
  | dropLease generation =>
    simp only [Grace.step] at taken
    split at taken
    · rename_i hfound
      cases taken
      exact inv.setIdle (inv.task_lt _ _ hfound) rfl
    · cases taken
  | proceed generation capacity =>
    obtain ⟨task, hfound, hproceed⟩ := bind_eq_some_iff.mp taken
    exact inv.proceed hfound allowed hproceed
  | databaseFails generation =>
    simp only [Grace.step] at taken
    split at taken
    case h_4 => cases taken
    all_goals
      rename_i hfound
      cases taken
      exact inv.setIdle (inv.task_lt _ _ hfound) rfl
  | beginShutdown =>
    cases taken
    exact inv.of_tasks rfl rfl rfl rfl (Nat.le_refl _)
  | relay action =>
    obtain ⟨relay, -, rfl⟩ := map_eq_some_iff.mp taken
    exact inv.of_tasks rfl rfl rfl rfl (Nat.le_refl _)

/-- In every run where no slot is emptied while an earlier task of its device is
pending and none is taken while one is closing: a device connected at some moment has
no terminal closed for the disconnect before a full grace period has passed. -/
theorem terminals_get_full_grace {earlier later : List Action}
    (before : run (restrict (step grace) fun system action => graceUndisturbed system action)
      System.initial earlier = some moment)
    (after : run (restrict (step grace) fun system action => graceUndisturbed system action)
      moment later = some system) : FullGrace grace moment system := by
  have hkept : ∀ due count deviceId state action next, GraceInv grace due count deviceId state →
      graceUndisturbed state action = true → step grace state action = some next →
      GraceInv grace due count deviceId next :=
    fun _ _ _ _ _ _ inv allowed hstep => inv.step allowed hstep
  intro deviceId connected
  have hmoment := restrict_invariant (hkept 0 0 deviceId) (GraceInv.initial grace deviceId) before
  exact (restrict_invariant (hkept _ _ deviceId) (hmoment.connected connected) after).late

def connectedRun : List Action :=
  [.attach 1 "first" .v2 8, .relay (.insertTerminal 7 1 "owner" "shell" "shell" none none none false),
    .relay (.load 7 16)]

/-- The connection goes away, and its task empties the slot and falls asleep. -/
def detaching (generation : Nat) : List Action :=
  [.dropLease generation, .proceed generation 16, .proceed generation 16, .proceed generation 16]

/-- The task wakes, finds nobody and closes the one terminal. -/
def closingPass (generation : Nat) : List Action :=
  [.proceed generation 16, .proceed generation 16, .proceed generation 16, .proceed generation 16,
    .proceed generation 16]

/-- A second connection is there when the first period ends. -/
def reconnectedRun : List Action :=
  connectedRun ++ detaching 1 ++ [.elapse 2, .attach 1 "second" .v2 8, .elapse 1, .proceed 1 16]

def abandonedRun : List Action := detaching 2 ++ [.elapse 3] ++ closingPass 2

theorem full_grace_after_reconnectedRun : ∃ moment system,
      run (restrict (step 3) fun system action => graceUndisturbed system action) System.initial
        reconnectedRun = some moment ∧
      run (restrict (step 3) fun system action => graceUndisturbed system action) moment
        abandonedRun = some system ∧
      moment.registry.publisherConnected 1 = true ∧ moment.now = 3 ∧
      system.closed = [⟨1, 7, 6⟩] ∧ FullGrace 3 moment system := by
  have hfirst : (run (restrict (step 3) fun system action => graceUndisturbed system action)
      System.initial reconnectedRun).map (fun moment =>
        (moment.registry.publisherConnected 1, moment.now,
          (run (restrict (step 3) fun system action => graceUndisturbed system action) moment
            abandonedRun).map fun system => system.closed)) =
      some (true, 3, some [⟨1, 7, 6⟩]) := by decide
  obtain ⟨moment, hmoment, hrest⟩ := map_eq_some_iff.mp hfirst
  simp only [Prod.mk.injEq] at hrest
  obtain ⟨hconnected, hnow, hsecond⟩ := hrest
  obtain ⟨system, hsystem, hclosed⟩ := map_eq_some_iff.mp hsecond
  exact ⟨moment, system, hmoment, hsystem, hconnected, hnow, hclosed,
    terminals_get_full_grace hmoment hsystem⟩

/-- The second connection goes away before the first period is over. -/
def interruptedRun : List Action := connectedRun ++ detaching 1 ++ [.elapse 2, .attach 1 "second" .v2 8]

/-- The task of the first connection wakes one unit after the second one left. -/
def staleTimerRun : List Action := detaching 2 ++ [.elapse 1] ++ closingPass 1

/-- A timer that a reconnect should have cancelled cuts the next period short. -/
theorem stale_timer_closes_early :
    ¬ ∀ (grace : Nat) (earlier later : List Action) (moment system : System),
      run (step grace) System.initial earlier = some moment →
      run (step grace) moment later = some system → FullGrace grace moment system := by
  intro claim
  have hfirst : (run (step 3) System.initial interruptedRun).map (fun moment =>
      (moment.registry.publisherConnected 1, moment.now, moment.closed,
        (run (step 3) moment staleTimerRun).map fun system => system.closed)) =
      some (true, 2, [], some [⟨1, 7, 3⟩]) := by decide
  obtain ⟨moment, hmoment, hrest⟩ := map_eq_some_iff.mp hfirst
  simp only [Prod.mk.injEq] at hrest
  obtain ⟨hconnected, hnow, hnone, hsecond⟩ := hrest
  obtain ⟨system, hsystem, hclosed⟩ := map_eq_some_iff.mp hsecond
  have hearly := claim 3 interruptedRun staleTimerRun moment system hmoment hsystem 1 hconnected
    ⟨1, 7, 3⟩ (by simp [hnone, hclosed]) rfl
  rw [hnow] at hearly
  exact absurd hearly (by decide)

end Hypeterm.Relay.Grace
