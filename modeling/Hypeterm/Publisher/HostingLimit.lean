import Hypeterm.Publisher.Hosting

/-! The limit on the terminals that a phone may hold here.  It is tested against the number
of claimed `local_ref`s and the counter of hosted shells. -/
namespace Hypeterm.Publisher

open Library List

/-- Its timer has run out before its child attached. -/
def HostTask.isLate (task : HostTask) : Bool := task.isStarting && !task.isCounted

/-- Its child has attached or ended, and its timer still runs. -/
def HostTask.isStale (task : HostTask) : Bool := task.isCounted && !task.isStarting

/-- A test of the limit admits a request only if room is left for those that other tasks
have been admitted for and for the children whose timer has run out, and refuses one only
if the children that are no longer starting are not what fills the counter.  No other
client takes the room that a task between its test and its increment counts on. -/
def orderly (host : Host) : HostAction → Bool
  | .proceed id _ =>
      match host.tasks id with
      | some ⟨_, .counted⟩ =>
          let live := host.claimed.length + host.hosting
          if host.remote.maxTerminals ≤ live then
            host.remote.maxTerminals + host.count HostTask.isStale ≤ live
          else
            live + host.count HostTask.isAdmitted + host.count HostTask.isLate <
              host.remote.maxTerminals
      | _ => true
  | .claim _ =>
      host.count HostTask.isAdmitted = 0 ||
        host.terminals + host.count HostTask.isAdmitted < host.remote.maxTerminals
  | _ => true

namespace Host

theorem count_counted (host : Host) : host.count HostTask.isStarting + host.count HostTask.isStale =
      host.count HostTask.isCounted + host.count HostTask.isLate := by
  apply countTasks_balance
  intro task
  unfold HostTask.isStale HostTask.isLate
  cases task.isStarting <;> cases task.isCounted <;> rfl

structure Inv (remote : RemoteOpenConfig) (host : Host) : Prop where
  remote_eq : host.remote = remote
  below : ∀ id task, host.tasks id = some task → id < host.nextTask
  counter : host.hosting = host.count HostTask.isCounted
  room : host.count HostTask.isAdmitted = 0 ∨
    host.terminals + host.count HostTask.isAdmitted ≤ remote.maxTerminals
  started : ∀ count ∈ host.startedWith, count ≤ remote.maxTerminals
  refused : ∀ count ∈ host.refusedWith, remote.maxTerminals ≤ count

variable {remote : RemoteOpenConfig} {host next : Host} {id : Nat} {task : HostTask}

theorem Inv.initial (remote : RemoteOpenConfig) : Inv remote (initial remote) where
  remote_eq := rfl
  below := by
    intro id task found
    cases found
  counter := rfl
  room := Or.inl rfl
  started := by
    intro count member
    cases member
  refused := by
    intro count member
    cases member

theorem count_setPhase (found : host.tasks id = some task) (below : id < host.nextTask)
    (test : HostTask → Bool) (phase : HostPhase) :
    (host.setPhase id task phase).count test + (test task).toNat =
      host.count test + (test { task with phase }).toNat := by
  have hone : ∀ share : Bool, (if share = true then 1 else 0) = share.toNat := by decide
  have hmoved := countTasks_update test found below { task with phase }
  rw [hone, hone] at hmoved
  exact hmoved

theorem Inv.setPhase (inv : Inv remote host) (found : host.tasks id = some task)
    {base : Host} (phase : HostPhase)
    (same : base.remote = host.remote ∧ base.tasks = host.tasks ∧ base.nextTask = host.nextTask)
    (counter : base.hosting + task.isCounted.toNat =
      host.hosting + (HostTask.isCounted { task with phase }).toNat)
    (room : base.claimed.length + (HostTask.isStarting { task with phase }).toNat +
          (HostTask.isAdmitted { task with phase }).toNat ≤
        host.claimed.length + task.isStarting.toNat + task.isAdmitted.toNat ∧
        (HostTask.isAdmitted { task with phase }).toNat ≤ task.isAdmitted.toNat ∨
      base.claimed.length + host.count HostTask.isStarting +
          (HostTask.isStarting { task with phase }).toNat +
          (host.count HostTask.isAdmitted + (HostTask.isAdmitted { task with phase }).toNat) ≤
        remote.maxTerminals)
    (started : ∀ count ∈ base.startedWith, count ≤ remote.maxTerminals)
    (refused : ∀ count ∈ base.refusedWith, remote.maxTerminals ≤ count) :
    Inv remote (base.setPhase id task phase) := by
  obtain ⟨hremote, htasks, hnext⟩ := same
  have hbelow := inv.below id task found
  have hfound : base.tasks id = some task := htasks ▸ found
  have hcount : ∀ test, base.count test = host.count test := by
    intro test
    unfold Host.count
    rw [htasks, hnext]
  have hmove := fun test =>
    count_setPhase hfound (hnext ▸ hbelow) test phase
  have hcounted := hmove HostTask.isCounted
  have hstarting := hmove HostTask.isStarting
  have hadmitted := hmove HostTask.isAdmitted
  rw [hcount] at hcounted hstarting hadmitted
  refine ⟨hremote.trans inv.remote_eq, ?_, ?_, ?_, started, refused⟩
  · intro other otherTask hother
    simp only [Host.setPhase, Function.update_apply, htasks] at hother
    split at hother
    · rename_i hid
      rw [hid]
      exact hnext ▸ hbelow
    · exact hnext ▸ inv.below other otherTask hother
  · have hcounter := inv.counter
    simp only [Host.setPhase] at hcounted ⊢
    omega
  · have hroom := inv.room
    simp only [Host.terminals, Host.setPhase] at hroom hcounted hstarting hadmitted ⊢
    omega

theorem Inv.keep (inv : Inv remote host) (found : host.tasks id = some task) (phase : HostPhase)
    (counted : (HostTask.isCounted { task with phase }) = task.isCounted)
    (room : (HostTask.isStarting { task with phase }).toNat +
        (HostTask.isAdmitted { task with phase }).toNat ≤
      task.isStarting.toNat + task.isAdmitted.toNat ∧
        (HostTask.isAdmitted { task with phase }).toNat ≤ task.isAdmitted.toNat) :
    Inv remote (host.setPhase id task phase) := by
  refine inv.setPhase found phase ⟨rfl, rfl, rfl⟩ (by rw [counted]) (Or.inl ?_) inv.started
    inv.refused
  omega

theorem Inv.checkLimit (inv : Inv remote host) {request : OpenRequest}
    (found : host.tasks id = some ⟨request, .counted⟩) {succeeds : Bool}
    (allowed : orderly host (.proceed id succeeds) = true) :
    Inv remote (host.checkLimit id ⟨request, .counted⟩) := by
  have hbalance := host.count_counted
  have hcounter := inv.counter
  simp only [orderly, found] at allowed
  unfold Host.checkLimit
  dsimp only
  split
  · rename_i hfull
    rw [if_pos hfull, decide_eq_true_iff, inv.remote_eq] at allowed
    refine inv.setPhase found _ ⟨rfl, rfl, rfl⟩ rfl (Or.inl ⟨Nat.le_refl _, Nat.le_refl _⟩)
      inv.started ?_
    intro count member
    rcases mem_append.mp member with hold | hnew
    · exact inv.refused count hold
    · rw [mem_singleton.mp hnew]
      unfold Host.terminals
      omega
  · rename_i hroom
    rw [if_neg hroom, decide_eq_true_iff, inv.remote_eq] at allowed
    refine inv.setPhase found .admitted ⟨rfl, rfl, rfl⟩ rfl (Or.inr ?_) inv.started inv.refused
    dsimp only
    have hone : (HostTask.isAdmitted ⟨request, .admitted⟩).toNat = 1 := rfl
    have hzero : (HostTask.isStarting ⟨request, .admitted⟩).toNat = 0 := rfl
    omega

theorem Inv.begin (inv : Inv remote host) {request : OpenRequest}
    (found : host.tasks id = some ⟨request, .admitted⟩) :
    Inv remote (host.begin id ⟨request, .admitted⟩) := by
  have hadmitted := count_setPhase found (inv.below id _ found) HostTask.isAdmitted (.declined "")
  have hone : (HostTask.isAdmitted ⟨request, .admitted⟩).toNat = 1 := rfl
  have hzero : (HostTask.isAdmitted ⟨request, .declined ""⟩).toNat = 0 := rfl
  have hroom := inv.room
  dsimp only at hadmitted
  unfold Host.begin
  split
  · refine inv.setPhase found (.spawning .starting) ⟨rfl, rfl, rfl⟩ rfl
      (Or.inl ⟨Nat.le_refl _, Nat.zero_le _⟩) ?_ inv.refused
    intro count member
    rcases mem_append.mp member with hold | hnew
    · exact inv.started count hold
    · rw [mem_singleton.mp hnew]
      omega
  · exact inv.keep found _ rfl ⟨Nat.zero_le _, Nat.zero_le _⟩

theorem Inv.release (inv : Inv remote host) {request : OpenRequest} {before after : HostPhase}
    (found : host.tasks id = some ⟨request, before⟩)
    (counted : HostTask.isCounted ⟨request, before⟩ = true)
    (given_back : HostTask.isCounted ⟨request, after⟩ = false)
    (room : (HostTask.isStarting ⟨request, after⟩).toNat ≤
        (HostTask.isStarting ⟨request, before⟩).toNat ∧
      HostTask.isAdmitted ⟨request, after⟩ = false) :
    Inv remote (({ host with hosting := host.hosting - 1 } : Host).setPhase id ⟨request, before⟩
      after) := by
  have hcounted := count_setPhase found (inv.below id _ found) HostTask.isCounted (.declined "")
  have hcounter := inv.counter
  have hzero : (HostTask.isCounted ⟨request, .declined ""⟩).toNat = 0 := rfl
  rw [counted, Bool.toNat_true, hzero] at hcounted
  refine inv.setPhase found after ⟨rfl, rfl, rfl⟩ ?_ (Or.inl ?_) inv.started inv.refused
  · rw [counted, given_back, Bool.toNat_true, Bool.toNat_false]
    dsimp only
    omega
  · dsimp only
    rw [room.2, Bool.toNat_false]
    omega

theorem Inv.proceed (inv : Inv remote host) (found : host.tasks id = some task) {succeeds : Bool}
    (allowed : orderly host (.proceed id succeeds) = true)
    (taken : host.proceed id task succeeds = some next) : Inv remote next := by
  obtain ⟨request, phase⟩ := task
  cases phase with
  | requested =>
    cases taken
    unfold checkSwitch
    split
    · exact inv.keep found _ rfl ⟨Nat.le_refl _, Nat.le_refl _⟩
    · exact inv.keep found _ rfl ⟨Nat.le_refl _, Nat.le_refl _⟩
  | permitted =>
    cases taken
    unfold checkRate
    dsimp only
    split
    · exact inv.setPhase found _ ⟨rfl, rfl, rfl⟩ rfl (Or.inl ⟨Nat.le_refl _, Nat.le_refl _⟩)
        inv.started inv.refused
    · exact inv.setPhase found _ ⟨rfl, rfl, rfl⟩ rfl (Or.inl ⟨Nat.le_refl _, Nat.le_refl _⟩)
        inv.started inv.refused
  | counted =>
    cases taken
    exact inv.checkLimit found allowed
  | admitted =>
    cases taken
    exact inv.begin found
  | spawning child =>
    cases taken
    unfold spawned
    split
    · exact inv.keep found _ rfl ⟨Nat.le_refl _, Nat.le_refl _⟩
    · exact inv.release found rfl rfl ⟨Nat.zero_le _, rfl⟩
  | hosting child due =>
    simp only [Host.proceed] at taken
    split at taken
    · cases taken
      exact inv.release found rfl rfl ⟨Nat.le_refl _, rfl⟩
    · cases taken
  | settled | declined => cases taken

theorem Inv.claimed (inv : Inv remote host) {claimed : List String}
    (room : claimed.length ≤ host.claimed.length ∨ host.count HostTask.isAdmitted = 0 ∨
      claimed.length + host.count HostTask.isStarting + host.count HostTask.isAdmitted ≤
        remote.maxTerminals) : Inv remote { host with claimed } := by
  refine ⟨inv.remote_eq, inv.below, inv.counter, ?_, inv.started, inv.refused⟩
  have hroom := inv.room
  have hcount : ∀ test, ({ host with claimed } : Host).count test = host.count test := fun _ => rfl
  unfold Host.terminals at hroom ⊢
  rw [hcount, hcount]
  dsimp only
  omega

theorem Inv.request (inv : Inv remote host) (request : OpenRequest) : Inv remote { host with
      tasks := Function.update host.tasks host.nextTask (some ⟨request, .requested⟩)
      nextTask := host.nextTask + 1 } := by
  have hcount : ∀ test : HostTask → Bool, test ⟨request, .requested⟩ = false →
      countTasks test (Function.update host.tasks host.nextTask (some ⟨request, .requested⟩))
        (host.nextTask + 1) = host.count test := by
    intro test huncounted
    rw [countTasks_start, huncounted]
    rfl
  refine ⟨inv.remote_eq, ?_, ?_, ?_, inv.started, inv.refused⟩
  · intro other task hother
    simp only [Function.update_apply] at hother
    split at hother
    · rename_i hid
      rw [hid]
      exact Nat.lt_succ_self _
    · exact (inv.below other task hother).trans (Nat.lt_succ_self _)
  · rw [Host.count, hcount _ rfl]
    exact inv.counter
  · rw [Host.terminals, Host.count, Host.count, hcount _ rfl, hcount _ rfl]
    exact inv.room

theorem Inv.attach (inv : Inv remote host) (found : host.tasks id = some task)
    (starting : task.isStarting = true) (localRef : String) :
    Inv remote (({ host with claimed := host.claimed ++ [localRef] } : Host).setPhase id task
      (task.phase.setChild .attached)) := by
  obtain ⟨request, phase⟩ := task
  have hlength : (host.claimed ++ [localRef]).length = host.claimed.length + 1 := by simp
  cases phase with
  | requested | permitted | counted | admitted | declined => cases starting
  | spawning child | hosting child due | settled child =>
    refine inv.setPhase found _ ⟨rfl, rfl, rfl⟩ rfl (Or.inl ⟨?_, Nat.le_refl _⟩) inv.started
      inv.refused
    rw [starting, hlength]
    exact Nat.le_refl _

theorem Inv.exit (inv : Inv remote host) (found : host.tasks id = some task) :
    Inv remote (host.setPhase id task (task.phase.setChild .ended)) := by
  obtain ⟨request, phase⟩ := task
  cases phase with
  | requested | permitted | counted | admitted | declined =>
    exact inv.keep found _ rfl ⟨Nat.le_refl _, Nat.le_refl _⟩
  | spawning | hosting | settled => exact inv.keep found _ rfl ⟨Nat.zero_le _, Nat.le_refl _⟩

theorem Inv.step {action : HostAction} (inv : Inv remote host)
    (allowed : orderly host action = true) (taken : host.step action = some next) :
    Inv remote next := by
  cases action with
  | request request =>
    cases taken
    exact inv.request request
  | proceed id succeeds =>
    obtain ⟨task, hfound, hproceed⟩ := Option.bind_eq_some_iff.mp taken
    exact inv.proceed hfound allowed hproceed
  | attach id localRef =>
    obtain ⟨task, hfound, hattach⟩ := Option.bind_eq_some_iff.mp taken
    split at hattach
    · rename_i hstarting
      obtain ⟨claimed, hclaim, rfl⟩ := Option.map_eq_some_iff.mp hattach
      unfold Host.claim at hclaim
      split at hclaim
      · cases hclaim
      · cases hclaim
        exact inv.attach hfound hstarting localRef
    · cases hattach
  | exit id =>
    obtain ⟨task, hfound, hexit⟩ := Option.bind_eq_some_iff.mp taken
    split at hexit
    · cases hexit
      exact inv.exit hfound
    · cases hexit
  | claim localRef =>
    simp only [Host.step, Host.claim] at taken
    split at taken
    · cases taken
    · cases taken
      apply inv.claimed
      right
      simp only [orderly, Bool.or_eq_true, decide_eq_true_iff, inv.remote_eq, terminals] at allowed
      rw [length_append, length_singleton]
      omega
  | release localRef =>
    cases taken
    apply inv.claimed
    left
    exact length_erase_le
  | tick elapsed =>
    cases taken
    exact ⟨inv.remote_eq, inv.below, inv.counter, inv.room, inv.started, inv.refused⟩

end Host

/-- In every run whose steps are orderly a shell is started for a request only within the
limit, and a request is refused as one too many only when that many terminals are attached
or starting, each of them counted once. -/
theorem phone_terminals_respect_the_limit {remote : RemoteOpenConfig} {host : Host}
    {actions : List HostAction}
    (taken : run (restrict Host.step fun host action => orderly host action = true)
      (Host.initial remote) actions = some host) :
    (∀ count ∈ host.startedWith, count ≤ remote.maxTerminals) ∧
      ∀ count ∈ host.refusedWith, remote.maxTerminals ≤ count := by
  have hinv : Host.Inv remote host := by
    refine restrict_invariant ?_ (Host.Inv.initial remote) taken
    intro before action after inv allowed hstep
    exact inv.step allowed hstep
  exact ⟨hinv.started, hinv.refused⟩

def openRequest (requestId : String) : OpenRequest := ⟨requestId, none, none, none⟩

def admission (id : Nat) : List HostAction :=
  [HostAction.proceed id true, .proceed id true, .proceed id true, .proceed id true]

/-- One shell is started and attaches; its timer runs out before the next request, and the
third finds two attached. -/
def twoShells : List HostAction :=
  [HostAction.request (openRequest "one")] ++ admission 0 ++
  [HostAction.proceed 0 true, .attach 0 "first", .tick 30000, .proceed 0 true,
    .request (openRequest "two")] ++ admission 1 ++
  [HostAction.proceed 1 true, .attach 1 "second", .tick 30000, .proceed 1 true,
    .request (openRequest "three"), .proceed 2 true, .proceed 2 true, .proceed 2 true]

theorem phone_terminals_respect_the_limit_in_twoShells :
    ∃ host, run (restrict Host.step fun host action => orderly host action = true)
        (Host.initial ⟨true, 2⟩) twoShells = some host ∧
      host.startedWith = [1, 2] ∧ host.refusedWith = [2] ∧
      (∀ count ∈ host.startedWith, count ≤ 2) ∧ ∀ count ∈ host.refusedWith, 2 ≤ count := by
  obtain ⟨host, htaken, hstarted, hrefused⟩ : ∃ host,
      run (restrict Host.step fun host action => orderly host action = true)
          (Host.initial ⟨true, 2⟩) twoShells = some host ∧
        host.startedWith = [1, 2] ∧ host.refusedWith = [2] :=
    ⟨_, rfl, by decide, by decide⟩
  exact ⟨host, htaken, hstarted, hrefused, phone_terminals_respect_the_limit htaken⟩

/-- Two tasks pass the test before either raises the counter. -/
def racingTasks : List HostAction :=
  [HostAction.request (openRequest "one"), .request (openRequest "two"), .proceed 0 true,
    .proceed 1 true, .proceed 0 true, .proceed 1 true, .proceed 0 true, .proceed 1 true,
    .proceed 0 true, .proceed 1 true]

/-- The only shell has attached and its timer still runs. -/
def countedTwice : List HostAction :=
  [HostAction.request (openRequest "one")] ++ admission 0 ++
  [HostAction.proceed 0 true, .attach 0 "first", .request (openRequest "two"), .proceed 1 true,
    .proceed 1 true, .proceed 1 true]

theorem limit_is_passed_and_not_reached :
    (∃ host, run Host.step (Host.initial ⟨true, 1⟩) racingTasks = some host ∧
      host.startedWith = [1, 2]) ∧
    ∃ host, run Host.step (Host.initial ⟨true, 2⟩) countedTwice = some host ∧
      host.refusedWith = [1] :=
  ⟨⟨_, rfl, by decide⟩, _, rfl, by decide⟩

end Hypeterm.Publisher
