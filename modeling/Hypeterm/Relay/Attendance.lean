import Hypeterm.Relay.Custody
import Hypeterm.Relay.Sealed

/-! Every open terminal is looked after, as long as it was inserted while somebody was there
to close it and no close that should have visited it failed. -/
namespace Hypeterm.Relay.Custody

open Library List Function Option
open Db
open Relay.Opening (CallShape)

/-- A call of `get_or_load` for the terminal; when it has the handle, the terminal is
resident or closed for good. -/
def Serves (relay : Relay.System) (terminalId : Uuid) : Opening.Phase → Prop
  | .looking target | .reading target => target = terminalId
  | .held row origin | .locking row origin | .locked row origin | .loading row origin
  | .built row _ origin => row.terminalId = terminalId ∧ origin = .load
  | .obtained _ origin _ => origin = .load ∧ Present relay terminalId
  | .returned => Present relay terminalId
  | .missing | .failed _ => True
  | .finding _ | .counting _ | .inserting _ | .refinding _ _ => False

variable {terminalId : Uuid} {phase : Phase} {system next : System} {row : TerminalRow}
  {id : TaskId} {task : Task} {rest : List Uuid} {call : Nat} {opening : Opening.System}

theorem Serves.present {relay : Relay.System} {phase : Opening.Phase}
    (serves : Serves relay terminalId phase) (has : hasHandle phase = true) :
    Present relay terminalId := by
  cases phase with
  | returned => exact serves
  | obtained => exact serves.2
  | finding | counting | inserting | refinding | looking | reading | held | locking | locked
  | loading | built | missing | failed => cases has

theorem Serves.moved {relay next : Relay.System} {phase : Opening.Phase}
    (serves : Serves relay terminalId phase)
    (present : Present relay terminalId → Present next terminalId) :
    Serves next terminalId phase := by
  cases phase with
  | returned => exact present serves
  | obtained => exact ⟨serves.1, present serves.2⟩
  | finding | counting | inserting | refinding | looking | reading | held | locking | locked
  | loading | built | missing | failed => exact serves

section Serving

variable {maxTerminals : Nat} {opening next : Opening.System} {id : Nat} {call : Opening.Call}
  {terminalId : Uuid}

theorem serves_proceed {fresh : Uuid} (shape : CallShape opening)
    (found : opening.calls id = some call)
    (taken : opening.proceed maxTerminals id call fresh = some next)
    (serves : Serves opening.relay terminalId call.phase) :
    ∃ later, next.calls id = some later ∧ Serves next.relay terminalId later.phase := by
  have hset : ∀ phase, Serves opening.relay terminalId phase →
      ∃ later, (opening.setPhase id call phase).calls id = some later ∧
        Serves opening.relay terminalId later.phase := by
    intro phase hserves
    exact ⟨_, (Opening.calls_setPhase opening id call phase id).trans (if_pos rfl), hserves⟩
  cases Opening.proceed_proceeded taken with
  | finds request phase_eq | counts request phase_eq | inserts request phase_eq
  | refinds request error phase_eq =>
    rw [phase_eq] at serves
    exact serves.elim
  | looks target handle phase_eq hresident =>
    rw [phase_eq] at serves
    have htarget : target = terminalId := serves
    subst htarget
    exact hset .returned (Or.inl ⟨handle, hresident⟩)
  | misses target phase_eq =>
    rw [phase_eq] at serves
    exact hset (.reading target) serves
  | reads target row phase_eq known =>
    rw [phase_eq] at serves
    have htarget : target = terminalId := serves
    subst htarget
    exact hset (.held row .load) ⟨key_of_lookup known, rfl⟩
  | unknown => exact hset .missing trivial
  | obtains row origin handle phase_eq hresident | releases row origin handle phase_eq hresident =>
    rw [phase_eq] at serves
    obtain ⟨hid, hload⟩ := serves
    exact hset (.obtained row origin none) ⟨hload, .inl ⟨handle, hid ▸ hresident⟩⟩
  | waits row origin phase_eq =>
    rw [phase_eq] at serves
    exact hset (.locking row origin) serves
  | acquires row origin phase_eq =>
    rw [phase_eq] at serves
    exact hset (.locked row origin) serves
  | loads row origin phase_eq =>
    rw [phase_eq] at serves
    exact hset (.loading row origin) serves
  | builds row origin retained phase_eq =>
    rw [phase_eq] at serves
    exact hset (.built row retained origin) serves
  | corrupt row origin error => exact hset (.failed error) trivial
  | attaches row retained origin phase_eq =>
    rw [phase_eq] at serves
    obtain ⟨hid, hload⟩ := serves
    have hmissing := shape.absent id call row found (by rw [phase_eq]; rfl)
    refine ⟨{ call with phase := .obtained row origin none }, update_self _ _ _, hload, ?_⟩
    left
    unfold Opening.System.insertHandle
    rw [Relay.filter_of_missing hmissing]
    exact ⟨_, (resident_insert hmissing terminalId).trans (if_pos hid.symm)⟩
  | finishesEvicted row origin handle phase_eq | finishes row origin handle phase_eq =>
    rw [phase_eq] at serves
    obtain ⟨rfl, hpresent⟩ := serves
    exact ⟨_, update_self _ _ _, hpresent⟩

theorem serves_step {action : Opening.Action} (shape : CallShape opening)
    (sealed : Sealed opening.relay) (taken : Opening.step maxTerminals opening action = some next)
    (running : action ≠ .relay .crash) (found : opening.calls id = some call)
    (serves : Serves opening.relay terminalId call.phase) :
    ∃ later, next.calls id = some later ∧ Serves next.relay terminalId later.phase := by
  have hmoved : Serves next.relay terminalId call.phase := serves.moved fun present =>
    present.moved sealed shape.relay (Opening.moved_step shape taken running)
  have hkept : next.calls id = opening.calls id →
      ∃ later, next.calls id = some later ∧ Serves next.relay terminalId later.phase := by
    intro hsame
    exact ⟨call, hsame.trans found, hmoved⟩
  have hbelow := shape.below id call found
  have hfailed : ∀ {other : Nat} {stored : Opening.Call} {error : ApiError},
      next.calls = Function.update opening.calls other (some { stored with phase := .failed error }) →
        ∃ later, next.calls id = some later ∧ Serves next.relay terminalId later.phase := by
    intro other stored error hcalls
    by_cases hsame : id = other
    · subst hsame
      exact ⟨{ stored with phase := .failed error }, by rw [hcalls, update_self], trivial⟩
    · exact hkept (by rw [hcalls, update_of_ne hsame])
  cases Opening.step_stepped taken with
  | opens | loads => exact hkept (update_of_ne hbelow.ne _ _)
  | proceeds other fresh stored hstored hproceed =>
    by_cases hsame : id = other
    · subst hsame
      cases found.symm.trans hstored
      exact serves_proceed shape found hproceed serves
    · obtain ⟨⟨later, hcalls⟩, _⟩ := Opening.calls_proceed hproceed
      apply hkept
      rw [hcalls, update_of_ne hsame]
  | fails | abandons => exact hfailed rfl
  | retries other stored request error hstored hphase =>
    by_cases hsame : id = other
    · subst hsame
      cases found.symm.trans hstored
      rw [hphase] at serves
      exact serves.elim
    · exact hkept (update_of_ne hsame _ _)
  | evicts =>
    refine ⟨Opening.System.keepEvicted opening.relay call, ?_, ?_⟩
    · change (opening.calls id).map _ = _
      rw [found, map_some]
    · unfold Opening.System.keepEvicted
      split
      · rename_i hphase
        rw [hphase] at hmoved
        exact hmoved
      · exact hmoved
  | relays => exact hkept rfl
  | crashes => exact absurd rfl running

end Serving

/-- The terminal is closing in memory, or somebody looks after it. -/
def Kept (system : System) (row : TerminalRow) : Prop :=
  Closing system.opening.relay row.terminalId ∨
    system.registry.publisherConnected row.deviceId = true ∨
    ∃ id task, system.tasks id = some task ∧ task.deviceId = row.deviceId ∧
      task.phase.willVisit row.terminalId = true

structure Attended (system : System) : Prop where
  shape : CallShape system.opening
  sealed : Sealed system.opening.relay
  leases : ∀ generation task, system.tasks (.lease generation) = some task →
    generation < system.registry.nextGeneration
  revocations : ∀ id task, system.tasks (.revocation id) = some task → id < system.nextRevocation
  visits : ∀ id task terminalId call rest, system.tasks id = some task →
    task.phase = .visiting terminalId call rest →
    ∃ made, system.opening.calls call = some made ∧
      Serves system.opening.relay terminalId made.phase
  kept : ∀ row ∈ system.opening.relay.store.terminals, row.state = .opened →
    row.terminalId ∉ system.late → row.terminalId ∉ system.abandoned → Kept system row

theorem Attended.initial : Attended System.initial where
  shape := CallShape.initial
  sealed := Sealed.initial
  leases := fun _ _ found => nomatch found
  revocations := fun _ _ found => nomatch found
  visits := fun _ _ _ _ _ found => nomatch found
  kept := fun _ member => nomatch member

theorem willVisit_of_willList (lists : phase.willList = true) (terminalId : Uuid) :
    phase.willVisit terminalId = true := by
  cases phase with
  | removed | sleeping | revoking | revoked | listing => rfl
  | held | failing | removing | closing | visiting | done => cases lists

theorem Attended.anyTask_iff (attended : Attended system) (deviceId : Uuid) (test : Phase → Bool) :
    system.anyTask deviceId test = true ↔ ∃ id task, system.tasks id = some task ∧
      task.deviceId = deviceId ∧ test task.phase = true := by
  unfold System.anyTask
  rw [List.any_eq_true]
  constructor
  · rintro ⟨id, _, hany⟩
    obtain ⟨task, htask, htest⟩ := (Option.any_eq_true _ _).mp hany
    simp only [Bool.and_eq_true, decide_eq_true_eq] at htest
    exact ⟨id, task, htask, htest.1, htest.2⟩
  · rintro ⟨id, task, htask, hdevice, htest⟩
    refine ⟨id, ?_, ?_⟩
    · unfold System.taskIds
      cases id with
      | lease generation =>
        exact mem_append_left _ (List.mem_map_of_mem
          (mem_range.mpr (attended.leases generation task htask)))
      | revocation id =>
        exact mem_append_right _ (List.mem_map_of_mem
          (mem_range.mpr (attended.revocations id task htask)))
    · rw [htask, any_some, hdevice, htest]
      simp

theorem Attended.getTerminal (attended : Attended system)
    (member : row ∈ system.opening.relay.store.terminals) :
    Db.getTerminal system.opening.relay.store row.terminalId = some row :=
  lookup_of_mem attended.shape.relay.distinct member

/-- What a section of a task changes: the phase of the task, and around it as much as the
open terminals can bear. -/
structure Section (system next : System) (id : TaskId) (task : Task) (phase : Phase) : Prop where
  shape : CallShape next.opening
  sealed : Sealed next.opening.relay
  tasks_eq : next.tasks = Function.update system.tasks id (some { task with phase })
  nextGeneration_eq : next.registry.nextGeneration = system.registry.nextGeneration
  nextRevocation_eq : next.nextRevocation = system.nextRevocation
  late_eq : next.late = system.late
  abandoned_of : ∀ terminalId ∈ system.abandoned, terminalId ∈ next.abandoned
  serves : ∀ call made terminalId, system.opening.calls call = some made →
    Serves system.opening.relay terminalId made.phase →
    ∃ later, next.opening.calls call = some later ∧
      Serves next.opening.relay terminalId later.phase
  visits : ∀ terminalId call rest, phase = .visiting terminalId call rest →
    ∃ made, next.opening.calls call = some made ∧
      Serves next.opening.relay terminalId made.phase
  rows : ∀ row ∈ next.opening.relay.store.terminals, row.state = .opened →
    ∃ before ∈ system.opening.relay.store.terminals, before.terminalId = row.terminalId ∧
      before.deviceId = row.deviceId ∧ before.state = .opened
  closing : ∀ row ∈ next.opening.relay.store.terminals, row.state = .opened →
    Closing system.opening.relay row.terminalId → Closing next.opening.relay row.terminalId
  connected : ∀ row ∈ next.opening.relay.store.terminals, row.state = .opened →
    system.registry.publisherConnected row.deviceId = true →
    next.registry.publisherConnected row.deviceId = true ∨
      (task.deviceId = row.deviceId ∧ phase.willVisit row.terminalId = true)
  hands : ∀ row ∈ next.opening.relay.store.terminals, row.state = .opened →
    task.deviceId = row.deviceId → task.phase.willVisit row.terminalId = true →
    row.terminalId ∉ next.abandoned →
    phase.willVisit row.terminalId = true ∨ Closing next.opening.relay row.terminalId ∨
      next.registry.publisherConnected row.deviceId = true

theorem Section.attended (moves : Section system next id task phase) (attended : Attended system)
    (found : system.tasks id = some task) : Attended next where
  shape := moves.shape
  sealed := moves.sealed
  leases := by
    intro generation stored hstored
    rw [moves.nextGeneration_eq]
    rw [moves.tasks_eq, update_apply] at hstored
    split at hstored
    · rename_i hsame
      rw [← hsame] at found
      exact attended.leases generation task found
    · exact attended.leases generation stored hstored
  revocations := by
    intro revocation stored hstored
    rw [moves.nextRevocation_eq]
    rw [moves.tasks_eq, update_apply] at hstored
    split at hstored
    · rename_i hsame
      rw [← hsame] at found
      exact attended.revocations revocation task found
    · exact attended.revocations revocation stored hstored
  visits := by
    intro other stored terminalId call rest hstored hvisiting
    rw [moves.tasks_eq, update_apply] at hstored
    split at hstored
    · cases hstored
      exact moves.visits terminalId call rest hvisiting
    · obtain ⟨made, hmade, hserves⟩ :=
        attended.visits other stored terminalId call rest hstored hvisiting
      exact moves.serves call made terminalId hmade hserves
  kept := by
    intro row member opened hlate habandoned
    obtain ⟨before, hbefore, hid, hdevice, hopen⟩ := moves.rows row member opened
    have hkept := attended.kept before hbefore hopen
      (by rw [hid, ← moves.late_eq]; exact hlate)
      (by rw [hid]; exact fun hold => habandoned (moves.abandoned_of _ hold))
    unfold Kept at hkept
    rw [hid, hdevice] at hkept
    have hown : next.tasks id = some { task with phase } := by
      rw [moves.tasks_eq, update_self]
    rcases hkept with hclosing | hconnected | ⟨other, stored, hstored, howner, hvisits⟩
    · exact .inl (moves.closing row member opened hclosing)
    · rcases moves.connected row member opened hconnected with hstill | ⟨howner, hvisits⟩
      · exact .inr (Or.inl hstill)
      · exact .inr (Or.inr ⟨id, { task with phase }, hown, howner, hvisits⟩)
    · by_cases hsame : other = id
      · subst hsame
        cases found.symm.trans hstored
        rcases moves.hands row member opened howner hvisits habandoned with
          hstill | hclosing | hconnected
        · exact .inr (Or.inr ⟨other, { task with phase }, hown, howner, hstill⟩)
        · exact .inl hclosing
        · exact .inr (Or.inl hconnected)
      · refine .inr (Or.inr ⟨other, stored, ?_, howner, hvisits⟩)
        rw [moves.tasks_eq, update_of_ne hsame, hstored]

section

variable (attended : Attended system)
include attended

theorem Attended.quiet (found : system.tasks id = some task)
    (opening_eq : next.opening = system.opening)
    (tasks_eq : next.tasks = Function.update system.tasks id (some { task with phase }))
    (nextGeneration_eq : next.registry.nextGeneration = system.registry.nextGeneration)
    (nextRevocation_eq : next.nextRevocation = system.nextRevocation)
    (late_eq : next.late = system.late)
    (abandoned_of : ∀ terminalId ∈ system.abandoned, terminalId ∈ next.abandoned)
    (unvisited : ∀ terminalId call rest, phase ≠ .visiting terminalId call rest)
    (connected : ∀ deviceId, system.registry.publisherConnected deviceId = true →
      next.registry.publisherConnected deviceId = true ∨
        (task.deviceId = deviceId ∧ phase.willList = true))
    (hands : ∀ row ∈ system.opening.relay.store.terminals, row.state = .opened →
      task.deviceId = row.deviceId → task.phase.willVisit row.terminalId = true →
      row.terminalId ∉ next.abandoned →
      phase.willVisit row.terminalId = true ∨
        next.registry.publisherConnected row.deviceId = true) : Attended next := by
  have hsection : Section system next id task phase :=
    { shape := opening_eq ▸ attended.shape
      sealed := opening_eq ▸ attended.sealed
      tasks_eq, nextGeneration_eq, nextRevocation_eq, late_eq, abandoned_of
      serves := by
        intro call made terminalId hmade hserves
        rw [opening_eq]
        exact ⟨made, hmade, hserves⟩
      visits := fun terminalId call rest hvisiting =>
        absurd hvisiting (unvisited terminalId call rest)
      rows := by
        intro row member opened
        rw [opening_eq] at member
        exact ⟨row, member, rfl, rfl, opened⟩
      closing := by
        intro row _ _ hclosing
        rw [opening_eq]
        exact hclosing
      connected := by
        intro row _ _ hconnected
        refine (connected row.deviceId hconnected).imp_right ?_
        rintro ⟨howner, hlists⟩
        exact ⟨howner, willVisit_of_willList hlists row.terminalId⟩
      hands := by
        intro row member opened howner hvisits habandoned
        rw [opening_eq] at member
        exact (hands row member opened howner hvisits habandoned).imp_right Or.inr }
  exact hsection.attended attended found

theorem Attended.remove {generation : Nat} (found : system.tasks (.lease generation) = some task)
    (removing : task.phase = .removing) :
    Attended (system.remove (.lease generation) task generation) := by
  unfold System.remove Registry.detachPublisher
  cases hslot : system.registry.publishers task.deviceId with
  | none =>
    refine attended.quiet found rfl rfl rfl rfl rfl (fun _ => id) nofun (fun _ => .inl) ?_
    intro row _ _ _ hvisits
    rw [removing] at hvisits
    cases hvisits
  | some slot =>
    dsimp only
    split
    · refine attended.quiet found rfl rfl rfl rfl rfl (fun _ => id) nofun (fun _ => .inl) ?_
      intro row _ _ _ hvisits
      rw [removing] at hvisits
      cases hvisits
    · refine attended.quiet found rfl rfl rfl rfl rfl (fun _ => id) nofun ?_ ?_
      · intro deviceId hconnected
        by_cases hown : task.deviceId = deviceId
        · exact .inr ⟨hown, rfl⟩
        · left
          change (Function.update system.registry.publishers task.deviceId none deviceId).isSome = true
          rw [update_of_ne (Ne.symm hown)]
          exact hconnected
      · intro row _ _ _ hvisits
        rw [removing] at hvisits
        cases hvisits

/-- `get_or_load` is called for a terminal on the list. -/
theorem Attended.visit (found : system.tasks id = some task)
    (closing : task.phase = .closing (terminalId :: rest)) (capacity : Nat) :
    Attended (system.visit id task terminalId rest capacity) := by
  have hsection : Section system (system.visit id task terminalId rest capacity) id task
      (.visiting terminalId system.opening.nextCall rest) :=
    { shape := attended.shape.begin capacity rfl
      sealed := attended.sealed
      tasks_eq := rfl
      nextGeneration_eq := rfl
      nextRevocation_eq := rfl
      late_eq := rfl
      abandoned_of := fun _ member => member
      serves := by
        intro call made target hmade hserves
        refine ⟨made, ?_, hserves⟩
        change Function.update system.opening.calls _ _ call = _
        rw [update_of_ne (attended.shape.below call made hmade).ne, hmade]
      visits := by
        intro target call others hvisiting
        cases hvisiting
        exact ⟨_, update_self _ _ _, rfl⟩
      rows := fun row member opened => ⟨row, member, rfl, rfl, opened⟩
      closing := fun _ _ _ hclosing => hclosing
      connected := fun _ _ _ hconnected => .inl hconnected
      hands := by
        intro row _ _ _ hvisits _
        left
        rw [closing] at hvisits
        simpa [Phase.willVisit] using hvisits }
  exact hsection.attended attended found

theorem Attended.beginClose
    (found : system.tasks id = some task) (visiting : task.phase = .visiting terminalId call rest)
    (present : Present system.opening.relay terminalId) :
    Attended (system.beginClose id task terminalId rest) := by
  have hrest : ∀ row : TerminalRow, task.phase.willVisit row.terminalId = true →
      row.terminalId = terminalId ∨ (Phase.closing rest).willVisit row.terminalId = true := by
    intro row hvisits
    rw [visiting] at hvisits
    simpa [Phase.willVisit] using hvisits
  unfold System.beginClose
  cases hresident : system.opening.relay.resident terminalId with
  | none =>
    refine attended.quiet found rfl rfl rfl rfl rfl (fun _ member => member) nofun
      (fun _ => .inl) ?_
    intro row member opened _ hvisits _
    rcases hrest row hvisits with hown | hlisted
    · rcases present with ⟨handle, hhandle⟩ | ⟨stored, hstored, hclosed⟩
      · cases hresident.symm.trans hhandle
      · have hrow := attended.getTerminal member
        rw [hown, hstored] at hrow
        cases hrow
        cases opened.symm.trans hclosed
    · exact .inl hlisted
  | some handle =>
    have hid := terminalId_of_resident hresident
    have hstep : Relay.step system.opening.relay (.handle terminalId (.beginClose task.reason)) =
        some (system.opening.relay.applyOp handle (.beginClose task.reason)) := by
      simp only [Relay.step, hresident, map_some]
    have hafter : (system.opening.relay.applyOp handle (.beginClose task.reason)).resident
        terminalId = some (handle.apply (.beginClose task.reason)) := by
      rw [resident_applyOp, if_pos hid.symm, hid, hresident, map_some]
    have hsection : Section system ((system.withRelay (system.opening.relay.applyOp handle
        (.beginClose task.reason))).setTask id task (.closing rest)) id task (.closing rest) :=
      { shape := attended.shape.relayStep hstep (by simp)
        sealed := attended.sealed.step attended.shape.relay hstep (by simp) (by simp)
        tasks_eq := rfl
        nextGeneration_eq := rfl
        nextRevocation_eq := rfl
        late_eq := rfl
        abandoned_of := fun _ member => member
        serves := by
          intro call made target hmade hserves
          exact ⟨made, hmade, hserves.moved fun hpresent => hpresent.step hstep (by simp)⟩
        visits := by simp
        rows := fun row member opened => ⟨row, member, rfl, rfl, opened⟩
        closing := by
          intro row member opened hclosing
          exact hclosing.step attended.sealed attended.shape.relay hstep (by simp)
            (attended.getTerminal member) opened
        connected := fun _ _ _ hconnected => .inl hconnected
        hands := by
          intro row member opened _ hvisits _
          rcases hrest row hvisits with hown | hlisted
          · right
            left
            rw [hown]
            cases hlifecycle : handle.inner.lifecycle with
            | opened =>
              refine ⟨_, task.reason, hafter, ?_⟩
              simp [TerminalHandle.apply, TerminalHandle.beginClose, hlifecycle]
            | closing reason =>
              refine ⟨_, reason, hafter, ?_⟩
              simp [TerminalHandle.apply, TerminalHandle.beginClose, hlifecycle]
            | closed reason =>
              have hrow := attended.getTerminal member
              rw [hown] at hrow
              have hclosed := attended.sealed.closed terminalId handle reason row hresident
                hlifecycle hrow
              cases opened.symm.trans hclosed
          · exact .inl hlisted }
    exact hsection.attended attended found

end

theorem keepsRows_close (terminalId : Uuid) (reason : String) :
    KeepsRows fun row => if row.terminalId = terminalId then
      (if row.state = .opened then { row with state := .closed, closeReason := some reason }
        else row) else row := by
  constructor
  · intro row
    split
    · split <;> rfl
    · rfl
  · intro row
    split
    · split <;> rfl
    · rfl
  · intro row
    split
    · split <;> rfl
    · rfl
  · intro row closed
    split
    · split
      · rfl
      · exact closed
    · exact closed

theorem Attended.closeWithoutOutput (attended : Attended system)
    (found : system.tasks id = some task) (visiting : task.phase = .visiting terminalId call rest) :
    Attended (system.closeWithoutOutput id task terminalId rest) := by
  have hkeeps := keepsRows_close terminalId task.reason
  have hterminals : (closeTerminalWithoutOutput system.opening.relay.store terminalId
      task.reason).terminals = system.opening.relay.store.terminals.map _ := rfl
  have hsection : Section system (system.closeWithoutOutput id task terminalId rest) id task
      (.closing rest) :=
    { shape := attended.shape.withRelay (attended.shape.relay.mapStore hkeeps hterminals)
        attended.shape.absent fun _ stays => stays.mapStore hkeeps hterminals
      sealed := attended.sealed.mapStore hkeeps hterminals
      tasks_eq := rfl
      nextGeneration_eq := rfl
      nextRevocation_eq := rfl
      late_eq := rfl
      abandoned_of := fun _ member => member
      serves := by
        intro call made target hmade hserves
        exact ⟨made, hmade, hserves.moved fun present => present.mapStore hkeeps hterminals⟩
      visits := nofun
      rows := by
        intro row member opened
        obtain ⟨before, hbefore, rfl⟩ := List.mem_map.mp member
        refine ⟨before, hbefore, (hkeeps.terminalId_eq before).symm,
          (hkeeps.deviceId_eq before).symm, ?_⟩
        cases hstate : before.state with
        | opened => rfl
        | closed => cases opened.symm.trans (hkeeps.closed before hstate)
      closing := fun _ _ _ hclosing => hclosing
      connected := fun _ _ _ hconnected => .inl hconnected
      hands := by
        intro row member opened _ hvisits _
        rw [visiting] at hvisits
        simp only [Phase.willVisit, Bool.or_eq_true, decide_eq_true_eq] at hvisits
        refine .inl (hvisits.resolve_left ?_)
        intro hown
        obtain ⟨before, _, rfl⟩ := List.mem_map.mp member
        rw [hkeeps.terminalId_eq] at hown
        rw [if_pos hown] at opened
        cases hstate : before.state with
        | opened => simp [hstate] at opened
        | closed => simp [hstate] at opened }
  exact hsection.attended attended found

theorem Attended.abandon (attended : Attended system)
    (found : system.tasks id = some task) {rows : List Uuid}
    (visits : ∀ row ∈ system.opening.relay.store.terminals, row.state = .opened →
      task.deviceId = row.deviceId → task.phase.willVisit row.terminalId = true →
      row.terminalId ∈ rows) : Attended (system.abandon id task rows) := by
  refine attended.quiet found rfl rfl rfl rfl rfl
    (fun _ member => mem_append_left _ member) nofun (fun _ => .inl) ?_
  intro row member opened howner hvisits habandoned
  exact absurd (mem_append_right _ (visits row member opened howner hvisits)) habandoned

theorem mem_listOpenTerminals {store : Store} (member : row ∈ store.terminals)
    (opened : row.state = .opened) {deviceId : Uuid} (owner : deviceId = row.deviceId) :
    row.terminalId ∈ (listOpenTerminalsForDevice store deviceId).map TerminalRow.terminalId :=
  List.mem_map_of_mem (mem_filter.mpr ⟨member, decide_eq_true ⟨owner.symm, opened⟩⟩)

section

variable (attended : Attended system)
include attended

theorem Attended.proceedVisit
    (found : system.tasks id = some task) (visiting : task.phase = .visiting terminalId call rest)
    (taken : system.proceedVisit id task terminalId call rest = some next) : Attended next := by
  obtain ⟨made, hmade, hserves⟩ := attended.visits id task terminalId call rest found visiting
  unfold System.proceedVisit at taken
  rw [hmade, map_some] at taken
  split at taken
  · rename_i hphase
    cases taken
    have hreturned : made.phase = .returned := Option.some.inj hphase
    exact attended.beginClose found visiting (hserves.present (by rw [hreturned]; rfl))
  · rename_i row origin hphase
    cases taken
    have hobtained : made.phase = .obtained row origin none := Option.some.inj hphase
    exact attended.beginClose found visiting (hserves.present (by rw [hobtained]; rfl))
  · cases taken
    exact attended.closeWithoutOutput found visiting
  · cases taken
    apply attended.abandon found
    intro row _ _ _ hvisits
    rw [visiting] at hvisits
    simpa [Phase.willVisit] using hvisits
  · cases taken

theorem Attended.proceed {grace : Nat} {capacity : Nat} (found : system.tasks id = some task)
    (taken : system.proceed grace id task capacity = some next) : Attended next := by
  unfold System.proceed at taken
  split at taken
  · rename_i hphase
    cases taken
    refine attended.quiet found rfl rfl rfl rfl rfl (fun _ member => member) nofun
      (fun _ => .inl) ?_
    intro row _ _ _ hvisits
    rw [hphase] at hvisits
    cases hvisits
  · rename_i generation hphase
    cases taken
    exact attended.remove found hphase
  · cases taken
    exact attended.quiet found rfl rfl rfl rfl rfl (fun _ member => member) nofun
      (fun _ => .inl) fun _ _ _ _ _ _ => .inl rfl
  · split at taken
    · cases taken
    · cases taken
      -- Whoever holds the slot now looks after the terminals.
      cases hconnected : system.registry.publisherConnected task.deviceId with
      | true =>
        refine attended.quiet found rfl rfl rfl rfl rfl (fun _ member => member) nofun
          (fun _ => .inl) ?_
        intro row _ _ howner _ _
        exact .inr (howner ▸ hconnected)
      | false =>
        exact attended.quiet found rfl rfl rfl rfl rfl (fun _ member => member) nofun
          (fun _ => .inl) fun _ _ _ _ _ _ => .inl rfl
  · cases taken
    refine attended.quiet found rfl rfl rfl rfl rfl (fun _ member => member) nofun ?_
      fun _ _ _ _ _ _ => .inl rfl
    intro deviceId hconnected
    by_cases hown : task.deviceId = deviceId
    · exact .inr ⟨hown, rfl⟩
    · left
      change (Function.update system.registry.publishers task.deviceId none deviceId).isSome = true
      rw [update_of_ne (Ne.symm hown)]
      exact hconnected
  · cases taken
    exact attended.quiet found rfl rfl rfl rfl rfl (fun _ member => member) nofun
      (fun _ => .inl) fun _ _ _ _ _ _ => .inl rfl
  · cases taken
    refine attended.quiet found rfl rfl rfl rfl rfl (fun _ member => member) nofun
      (fun _ => .inl) ?_
    intro row member opened howner _ _
    exact .inl (contains_iff_mem.mpr (mem_listOpenTerminals member opened howner))
  · rename_i hphase
    cases taken
    refine attended.quiet found rfl rfl rfl rfl rfl (fun _ member => member) nofun
      (fun _ => .inl) ?_
    intro row _ _ _ hvisits
    rw [hphase] at hvisits
    cases hvisits
  · rename_i terminalId rest hphase
    cases taken
    exact attended.visit found hphase capacity
  · rename_i terminalId call rest hphase
    exact attended.proceedVisit found hphase taken
  · cases taken

theorem Attended.databaseFails (found : system.tasks id = some task)
    (taken : system.databaseFails id task = some next) : Attended next := by
  unfold System.databaseFails at taken
  split at taken
  · cases taken
    apply attended.abandon found
    intro row member opened howner _
    exact mem_listOpenTerminals member opened howner
  · rename_i terminalId call rest hphase
    split at taken
    · cases taken
      apply attended.abandon found
      intro row _ _ _ hvisits
      rw [hphase] at hvisits
      simpa [Phase.willVisit] using hvisits
    · cases taken
  · cases taken

theorem Attended.startTask
    (fresh : system.tasks id = none) (opening_eq : next.opening = system.opening)
    (tasks_eq : next.tasks = Function.update system.tasks id (some task))
    (late_eq : next.late = system.late) (abandoned_eq : next.abandoned = system.abandoned)
    (leases : ∀ generation, (id = .lease generation ∨ generation < system.registry.nextGeneration) →
      generation < next.registry.nextGeneration)
    (revocations : ∀ revocation, (id = .revocation revocation ∨ revocation < system.nextRevocation) →
      revocation < next.nextRevocation)
    (unvisited : ∀ terminalId call rest, task.phase ≠ .visiting terminalId call rest)
    (connected : ∀ deviceId, system.registry.publisherConnected deviceId = true →
      next.registry.publisherConnected deviceId = true) : Attended next where
  shape := opening_eq ▸ attended.shape
  sealed := opening_eq ▸ attended.sealed
  leases := by
    intro generation stored hstored
    rw [tasks_eq, update_apply] at hstored
    split at hstored
    · rename_i hsame
      exact leases generation (Or.inl hsame.symm)
    · exact leases generation (Or.inr (attended.leases generation stored hstored))
  revocations := by
    intro revocation stored hstored
    rw [tasks_eq, update_apply] at hstored
    split at hstored
    · rename_i hsame
      exact revocations revocation (Or.inl hsame.symm)
    · exact revocations revocation (Or.inr (attended.revocations revocation stored hstored))
  visits := by
    intro other stored terminalId call rest hstored hvisiting
    rw [tasks_eq, update_apply] at hstored
    rw [opening_eq]
    split at hstored
    · cases hstored
      exact absurd hvisiting (unvisited terminalId call rest)
    · exact attended.visits other stored terminalId call rest hstored hvisiting
  kept := by
    rw [opening_eq, late_eq, abandoned_eq]
    intro row member opened hlate habandoned
    unfold Kept
    rw [opening_eq]
    rcases attended.kept row member opened hlate habandoned with
      hclosing | hconnected | ⟨other, stored, hstored, howner, hvisits⟩
    · exact .inl hclosing
    · exact .inr (Or.inl (connected _ hconnected))
    · refine .inr (Or.inr ⟨other, stored, ?_, howner, hvisits⟩)
      rw [tasks_eq, update_of_ne, hstored]
      rintro rfl
      cases fresh.symm.trans hstored

theorem Attended.attach (deviceId : Uuid)
    (connectionId : String) (version : ProtocolVersion) (inputQueue : Nat) :
    Attended (system.attach deviceId connectionId version inputQueue) := by
  have hfresh : system.tasks (.lease system.registry.nextGeneration) = none := by
    cases hstored : system.tasks (.lease system.registry.nextGeneration) with
    | none => rfl
    | some task => exact absurd (attended.leases _ task hstored) (Nat.lt_irrefl _)
  refine attended.startTask hfresh rfl rfl rfl rfl ?_ ?_ nofun ?_
  · rintro generation (hsame | hbelow)
    · cases hsame
      exact Nat.lt_succ_self _
    · exact Nat.lt_succ_of_lt hbelow
  · rintro revocation (hsame | hbelow)
    · cases hsame
    · exact hbelow
  · intro other hconnected
    change (Function.update system.registry.publishers deviceId (some _) other).isSome = true
    rw [update_apply]
    split
    · rfl
    · exact hconnected

theorem Attended.revoke (deviceId : Uuid) : Attended (system.revoke deviceId) := by
  have hfresh : system.tasks (.revocation system.nextRevocation) = none := by
    cases hstored : system.tasks (.revocation system.nextRevocation) with
    | none => rfl
    | some task => exact absurd (attended.revocations _ task hstored) (Nat.lt_irrefl _)
  refine attended.startTask hfresh rfl rfl rfl rfl ?_ ?_ nofun fun _ hconnected => hconnected
  · rintro generation (hsame | hbelow)
    · cases hsame
    · exact hbelow
  · rintro revocation (hsame | hbelow)
    · cases hsame
      exact Nat.lt_succ_self _
    · exact Nat.lt_succ_of_lt hbelow

theorem Attended.openTerminal (generation : Nat) (request : Opening.OpenRequest) (capacity : Nat) :
    Attended (system.openTerminal generation request capacity) where
  shape := attended.shape.begin capacity rfl
  sealed := attended.sealed
  leases := attended.leases
  revocations := attended.revocations
  visits := by
    intro id task terminalId call rest found hvisiting
    obtain ⟨made, hmade, hserves⟩ := attended.visits id task terminalId call rest found hvisiting
    refine ⟨made, ?_, hserves⟩
    change Function.update system.opening.calls _ _ call = _
    rw [update_of_ne (attended.shape.below call made hmade).ne, hmade]
  kept := attended.kept

end

theorem passEvicted_cases (opening : Opening.System) (task : Task) :
    System.passEvicted opening task = task ∨
      ∃ terminalId call rest, task.phase = .visiting terminalId call rest ∧
        opening.relay.evicts terminalId = true ∧
        System.passEvicted opening task = { task with phase := .closing rest } := by
  unfold System.passEvicted
  split
  · rename_i terminalId call rest hphase
    split
    · rename_i hevicts
      exact .inr ⟨terminalId, call, rest, hphase, (Bool.and_eq_true_iff.mp hevicts).1, rfl⟩
    · exact .inl rfl
  · exact .inl rfl

/-- Every task after a step of the opening system was there before, and visits what it did
visit but for evicted terminals. -/
theorem tasks_afterOpening (action : Opening.Action) (opening : Opening.System)
    (found : system.tasks id = some task) :
    ∃ later, (system.afterOpening action opening).tasks id = some later ∧
      later.deviceId = task.deviceId ∧
      ∀ terminalId, task.phase.willVisit terminalId = true →
        later.phase.willVisit terminalId = true ∨
          system.opening.relay.evicts terminalId = true := by
  unfold System.afterOpening
  split
  · refine ⟨System.passEvicted system.opening task, congrArg (Option.map _) found, ?_⟩
    rcases passEvicted_cases system.opening task with
      hsame | ⟨terminalId, call, rest, hphase, hevicts, hpassed⟩
    · rw [hsame]
      exact ⟨rfl, fun _ => .inl⟩
    · rw [hpassed]
      refine ⟨rfl, ?_⟩
      intro target hvisits
      rw [hphase] at hvisits
      simp only [Phase.willVisit, Bool.or_eq_true, decide_eq_true_eq] at hvisits
      rcases hvisits with hown | hlisted
      · exact .inr (hown ▸ hevicts)
      · exact .inl hlisted
  · exact ⟨task, found, rfl, fun _ => .inl⟩

theorem tasks_of_afterOpening {action : Opening.Action} {later : Task}
    (found : (system.afterOpening action opening).tasks id = some later) :
    ∃ task, system.tasks id = some task ∧ ∀ terminalId call rest,
      later.phase = .visiting terminalId call rest → task.phase = .visiting terminalId call rest := by
  unfold System.afterOpening at found
  split at found
  · obtain ⟨task, htask, rfl⟩ := map_eq_some_iff.mp found
    refine ⟨task, htask, ?_⟩
    rcases passEvicted_cases system.opening task with hsame | ⟨_, _, _, _, _, hpassed⟩
    · rw [hsame]
      exact fun _ _ _ hphase => hphase
    · rw [hpassed]
      nofun
  · exact ⟨later, found, fun _ _ _ hphase => hphase⟩

theorem awaits_of_prompt {id : Nat} {request : Opening.OpenRequest}
    (inserting : (system.opening.calls id).map Opening.Call.phase = some (.inserting request))
    (owner : row.deviceId = request.deviceId)
    (missing : Db.getTerminal system.opening.relay.store row.terminalId = none)
    (stored : Db.getTerminal opening.relay.store row.terminalId = some row)
    (prompt : row.terminalId ∉
      (system.afterOpening (.proceed id row.terminalId) opening).late) :
    system.awaits row.deviceId = true := by
  have hinserted : System.insertedBy system.opening opening (.proceed id row.terminalId) =
      some (row.terminalId, request.deviceId) := by
    simp only [System.insertedBy, inserting, missing, stored, isNone_none,
      isSome_some, Bool.and_self, ↓reduceIte]
  unfold System.afterOpening at prompt
  rw [hinserted, ← owner] at prompt
  dsimp only at prompt
  split at prompt
  · rename_i hawaits
    exact hawaits
  · exact absurd (mem_append_right _ (mem_singleton.mpr rfl)) prompt

theorem Attended.afterOpening {maxTerminals : Nat} (attended : Attended system)
    {action : Opening.Action}
    (taken : Opening.step maxTerminals system.opening action = some opening)
    (running : action ≠ .relay .crash) : Attended (system.afterOpening action opening) := by
  have hshape := attended.shape.step taken
  have hmoved := Opening.moved_step attended.shape taken running
  refine ⟨hshape, attended.sealed.moved attended.shape.relay hmoved, ?_, ?_, ?_, ?_⟩
  · intro generation later hlater
    obtain ⟨task, htask, _⟩ := tasks_of_afterOpening hlater
    exact attended.leases generation task htask
  · intro revocation later hlater
    obtain ⟨task, htask, _⟩ := tasks_of_afterOpening hlater
    exact attended.revocations revocation task htask
  · intro id later terminalId call rest hlater hvisiting
    obtain ⟨task, htask, hwas⟩ := tasks_of_afterOpening hlater
    obtain ⟨made, hmade, hserves⟩ := attended.visits id task terminalId call rest htask
      (hwas terminalId call rest hvisiting)
    exact serves_step attended.shape attended.sealed taken running hmade hserves
  · intro row member opened hlate habandoned
    change row ∈ opening.relay.store.terminals at member
    have hrow : Db.getTerminal opening.relay.store row.terminalId = some row :=
      lookup_of_mem hshape.relay.distinct member
    rcases Opening.open_row_step taken member opened with
      ⟨before, hbefore, hid, hdevice, hopen⟩ |
      ⟨id, request, rfl, hinserting, howner, hmissing, hstored⟩
    · have hkept := attended.kept before hbefore hopen
        (by rw [hid]; exact fun hold => hlate (mem_append_left _ hold))
        (by rw [hid]; exact habandoned)
      unfold Kept at hkept
      rw [hid, hdevice] at hkept
      rcases hkept with hclosing | hconnected | ⟨id, task, htask, howner, hvisits⟩
      · exact .inl (hclosing.moved attended.sealed attended.shape.relay hmoved hrow opened)
      · exact .inr (Or.inl hconnected)
      · obtain ⟨later, hlater, hdeviceId, hstill⟩ := tasks_afterOpening action opening htask
        rcases hstill row.terminalId hvisits with hvisit | hevicts
        · exact .inr (Or.inr ⟨id, later, hlater, hdeviceId.trans howner, hvisit⟩)
        · -- Only a closed terminal is evicted.
          obtain ⟨stored, hstored, hclosed⟩ :=
            attended.sealed.closed_of_evicts attended.shape.relay hevicts
          have hknown := attended.getTerminal hbefore
          rw [hid, hstored] at hknown
          cases hknown
          cases hopen.symm.trans hclosed
    · have hawaits := awaits_of_prompt hinserting howner hmissing hstored hlate
      unfold System.awaits at hawaits
      rcases (Bool.or_eq_true _ _).mp hawaits with hconnected | htasks
      · exact .inr (Or.inl hconnected)
      · obtain ⟨id, task, htask, hdevice, hlists⟩ := (attended.anyTask_iff _ _).mp htasks
        exact .inr (Or.inr ⟨id, task, htask, hdevice, willVisit_of_willList hlists _⟩)

theorem Attended.step {grace maxTerminals : Nat} {action : Action} (attended : Attended system)
    (taken : Custody.step grace maxTerminals system action = some next) : Attended next := by
  cases action with
  | elapse units =>
    cases taken
    exact ⟨attended.shape, attended.sealed, attended.leases, attended.revocations,
      attended.visits, attended.kept⟩
  | attach deviceId connectionId version inputQueue =>
    cases taken
    exact attended.attach deviceId connectionId version inputQueue
  | dropLease generation =>
    simp only [Custody.step] at taken
    split at taken
    · rename_i found
      split at taken
      · cases taken
      · cases taken
        refine attended.quiet found rfl rfl rfl rfl rfl (fun _ member => member) nofun
          (fun _ => .inl) ?_
        intro row _ _ _ hvisits
        cases hvisits
    · cases taken
  | openTerminal generation request capacity =>
    simp only [Custody.step] at taken
    split at taken
    · split at taken
      · cases taken
        exact attended.openTerminal generation request capacity
      · cases taken
    · cases taken
  | revoke deviceId =>
    cases taken
    exact attended.revoke deviceId
  | proceed id capacity =>
    obtain ⟨task, found, hproceed⟩ := bind_eq_some_iff.mp taken
    exact attended.proceed found hproceed
  | databaseFails id =>
    obtain ⟨task, found, hfails⟩ := bind_eq_some_iff.mp taken
    exact attended.databaseFails found hfails
  | opening action =>
    simp only [Custody.step] at taken
    split at taken
    · rename_i hpermitted
      obtain ⟨opening, hstep, rfl⟩ := map_eq_some_iff.mp taken
      refine attended.afterOpening hstep ?_
      rintro rfl
      cases hpermitted
    · cases taken

/-- In every state of every run, a terminal that is open in the database and not closing in
memory belongs to a device with a publisher slot, a pending grace period or a close that
will still visit the terminal, unless it was inserted while its device had none of these or
a failed close left it. -/
theorem open_terminals_are_attended {grace maxTerminals : Nat} {actions : List Action}
    {system : System}
    (taken : run (step grace maxTerminals) System.initial actions = some system)
    {row : TerminalRow} (member : row ∈ system.opening.relay.store.terminals)
    (opened : row.state = .opened) (prompt : row.terminalId ∉ system.late)
    (kept : row.terminalId ∉ system.abandoned)
    (running : ∀ handle reason, system.opening.relay.resident row.terminalId = some handle →
      handle.inner.lifecycle ≠ .closing reason) : system.attends row = true := by
  have hattended : Attended system :=
    run_invariant (fun _ _ _ attended hstep => attended.step hstep) Attended.initial taken
  unfold System.attends
  rw [Bool.or_eq_true, hattended.anyTask_iff]
  rcases hattended.kept row member opened prompt kept with
    ⟨handle, reason, hfound, hclosing⟩ | hrest
  · exact absurd hclosing (running handle reason hfound)
  · exact hrest

def openOnConnection : List Action :=
  [Action.attach 1 "c1" .v2 8, .openTerminal 1 Opening.shellRequest 16] ++
    List.replicate 9 (Action.opening (.proceed 0 7))

/-- The connection is lost; its task empties the slot and sleeps. -/
def loseConnection : List Action :=
  [.dropLease 1, .proceed (.lease 1) 16, .proceed (.lease 1) 16, .proceed (.lease 1) 16]

def openRows (system : System) : List (Uuid × TerminalState × Bool) :=
  system.opening.relay.store.terminals.map fun row =>
    (row.terminalId, row.state, system.attends row)

theorem open_terminal_attended_after_loseConnection :
    ∃ system row, run (step 5 8) System.initial (openOnConnection ++ loseConnection) = some system ∧
      row ∈ system.opening.relay.store.terminals ∧ row.state = .opened ∧
      system.registry.publisherConnected row.deviceId = false ∧ system.attends row = true := by
  have hrun : (run (step 5 8) System.initial (openOnConnection ++ loseConnection)).map
      (fun system => (system.opening.relay.store.terminals.map fun row =>
        (row.terminalId, row.state, system.registry.publisherConnected row.deviceId),
        system.late ++ system.abandoned,
        (system.opening.relay.resident 7).map fun handle => handle.inner.lifecycle)) =
      some ([(7, .opened, false)], [], some .opened) := by
    decide
  obtain ⟨system, htaken, hview⟩ := map_eq_some_iff.mp hrun
  obtain ⟨hterminals, hview⟩ := Prod.mk.inj hview
  obtain ⟨hhistory, hresident⟩ := Prod.mk.inj hview
  have hmem : ((7, .opened, false) : Uuid × TerminalState × Bool) ∈
      system.opening.relay.store.terminals.map fun row =>
        (row.terminalId, row.state, system.registry.publisherConnected row.deviceId) := by
    rw [hterminals]
    exact mem_singleton_self _
  obtain ⟨row, hrow, hfields⟩ := List.mem_map.mp hmem
  obtain ⟨hid, hfields⟩ := Prod.mk.inj hfields
  obtain ⟨hstate, hconnected⟩ := Prod.mk.inj hfields
  obtain ⟨hlate, habandoned⟩ := append_eq_nil_iff.mp hhistory
  refine ⟨system, row, htaken, hrow, hstate, hconnected, ?_⟩
  apply open_terminals_are_attended htaken hrow hstate
  · rw [hlate]
    exact not_mem_nil
  · rw [habandoned]
    exact not_mem_nil
  · intro handle reason hfound hclosing
    rw [hid] at hfound
    rw [hfound, map_some, hclosing] at hresident
    cases hresident

/-- The grace period ends and the terminal is closed in memory; no flush has run yet. -/
def closedBeforeFlush : List Action :=
  openOnConnection ++ loseConnection ++
    [Action.elapse 5, .proceed (.lease 1) 16, .proceed (.lease 1) 16, .proceed (.lease 1) 16,
      .opening (.proceed 1 0), .proceed (.lease 1) 16, .proceed (.lease 1) 16]

def failedListing : List Action :=
  openOnConnection ++ loseConnection ++
    [Action.elapse 5, .proceed (.lease 1) 16, .databaseFails (.lease 1)]

/-- The open has passed its checks when the device is revoked, and inserts after the
revocation has listed the open terminals. -/
def lateInsert : List Action :=
  openOnConnection.take 4 ++
    [Action.revoke 1, .proceed (.revocation 0) 16, .proceed (.revocation 0) 16,
      .proceed (.revocation 0) 16, .proceed (.revocation 0) 16, .opening (.proceed 0 7)]

theorem open_terminals_unattended :
    (∃ system row, run (step 5 8) System.initial closedBeforeFlush = some system ∧
      row ∈ system.opening.relay.store.terminals ∧ row.state = .opened ∧
      system.attends row = false) ∧
    (∃ system row, run (step 5 8) System.initial failedListing = some system ∧
      row ∈ system.opening.relay.store.terminals ∧ row.state = .opened ∧
      system.attends row = false) ∧
    ∃ system row, run (step 5 8) System.initial lateInsert = some system ∧
      row ∈ system.opening.relay.store.terminals ∧ row.state = .opened ∧
      system.attends row = false := by
  have hwitness : ∀ actions, (run (step 5 8) System.initial actions).map openRows =
      some [(7, .opened, false)] →
      ∃ system row, run (step 5 8) System.initial actions = some system ∧
        row ∈ system.opening.relay.store.terminals ∧ row.state = .opened ∧
        system.attends row = false := by
    intro actions hrun
    obtain ⟨system, htaken, hview⟩ := map_eq_some_iff.mp hrun
    have hmem : ((7, .opened, false) : Uuid × TerminalState × Bool) ∈ openRows system := by
      rw [hview]
      exact mem_singleton_self _
    obtain ⟨row, hrow, hfields⟩ := List.mem_map.mp hmem
    obtain ⟨_, hfields⟩ := Prod.mk.inj hfields
    obtain ⟨hstate, hattends⟩ := Prod.mk.inj hfields
    exact ⟨system, row, htaken, hrow, hstate, hattends⟩
  exact ⟨hwitness closedBeforeFlush (by decide), hwitness failedListing (by decide),
    hwitness lateInsert (by decide)⟩

end Hypeterm.Relay.Custody
