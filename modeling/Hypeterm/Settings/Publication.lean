import Hypeterm.Library.Runs
import Hypeterm.Settings.Seed

/-! Publication of snapshots.  Any number of patch calls, the polling watcher's
reloads and the transactions of other instances run interleaved; the commit, the
two statements of a load, the comparison and the replacement of the watched
snapshot are separate sections. -/
namespace Hypeterm.Settings.Publication

open Library Function List Option

/-- Who loads a snapshot, with what is left for it to do. -/
inductive Publisher where
  | patch (changed : List String)
  | reload

/-- Where a task stands.  A task that read the revision remembers how many
publications it had seen by then. -/
inductive Phase where
  | patching (call : PatchCall)
  | rejecting (call : PatchCall) (err : ApiError)
  | polling
  | polled (committed : Int)
  | loading (publisher : Publisher)
  | revisionRead (publisher : Publisher) (revision : Int) (seen : Nat)
  | loaded (publisher : Publisher) (snapshot : Snapshot) (seen : Nat)
  | replacing (snapshot : Snapshot) (seen : Nat)
  | returned

structure System where
  db : Database
  tx : Snapshot
  tasks : Nat → Option Phase
  nextTask : Nat
  /-- How often the watched snapshot was replaced. -/
  publications : Nat
  /-- The rows each revision was committed with. -/
  history : Int → Option (List SettingRow)
  /-- What `load` returned so far. -/
  snapshots : List Snapshot

def initial (store : Store) : System :=
  ⟨store.db, store.tx, fun _ => none, 0, 0,
    Function.update (fun _ => none) store.db.revision (some store.db.settings), [store.tx]⟩

def System.setTask (system : System) (task : Nat) (phase : Phase) : System :=
  { system with tasks := Function.update system.tasks task (some phase) }

def System.spawn (system : System) (phase : Phase) : System :=
  { system.setTask system.nextTask phase with nextTask := system.nextTask + 1 }

def System.commit (system : System) (db : Database) : System :=
  { system with
    db, history := Function.update system.history db.revision (some db.settings) }

def System.sendReplace (system : System) (snapshot : Snapshot) : System :=
  { system with tx := snapshot, publications := system.publications + 1 }

variable (env : Env)

def advance (system : System) (task : Nat) : Phase → Option System
  | .patching call =>
      if call.updates.entries.isEmpty then some (system.setTask task .returned)
      else
        match patchTxn env call system.db with
        | .error err => some (system.setTask task (.rejecting call err))
        | .ok (db, changed) => some ((system.commit db).setTask task (.loading (.patch changed)))
  | .rejecting call err =>
      some ({ system with db := recordRejection call err.message system.db }.setTask task .returned)
  | .polling => some (system.setTask task (.polled system.db.revision))
  | .polled committed =>
      if committed ≠ system.tx.revision then some (system.setTask task (.loading .reload))
      else some (system.setTask task .returned)
  | .loading publisher =>
      some (system.setTask task
        (.revisionRead publisher system.db.revision system.publications))
  | .revisionRead publisher revision seen =>
      match loadRows env revision system.db.settings with
      | .error _ => some (system.setTask task .returned)
      | .ok snapshot =>
          some ({ system with snapshots := system.snapshots ++ [snapshot] }.setTask task
            (.loaded publisher snapshot seen))
  | .loaded (.patch _) snapshot _ => some ((system.sendReplace snapshot).setTask task .returned)
  | .loaded .reload snapshot seen =>
      if snapshot.revision ≠ system.tx.revision then
        some (system.setTask task (.replacing snapshot seen))
      else some (system.setTask task .returned)
  | .replacing snapshot _ => some ((system.sendReplace snapshot).setTask task .returned)
  | .returned => none

inductive Action where
  | patch (call : PatchCall)
  | poll
  /-- The next section of a task, with the file system as it is then. -/
  | advance (task : Nat) (metadata : String → Bool)
  /-- A transaction of another instance on the same database. -/
  | foreign (call : PatchCall) (metadata : String → Bool)

def step (system : System) : Action → Option System
  | .patch call => some (system.spawn (.patching call))
  | .poll => some (system.spawn .polling)
  | .advance task metadata =>
      (system.tasks task).bind (advance { env with metadata } system task)
  | .foreign call metadata =>
      match patchTxn { env with metadata } call system.db with
      | .error _ => none
      | .ok (db, _) => some (system.commit db)

/-- The snapshot the next section of a task publishes. -/
def Phase.publishes : Phase → Option (Snapshot × Nat)
  | .loaded (.patch _) snapshot seen | .replacing snapshot seen => some (snapshot, seen)
  | _ => none

/-- No other publication since the task about to publish read its revision. -/
def undisturbed (system : System) : Action → Bool
  | .advance task _ =>
      ((system.tasks task).bind Phase.publishes).all fun (_, seen) => seen = system.publications
  | _ => true

/-- No transaction committed since the task about to read the rows read its
revision. -/
def uncommitted (system : System) : Action → Bool
  | .advance task _ =>
      match system.tasks task with
      | some (.revisionRead _ revision _) => revision = system.db.revision
      | _ => true
  | _ => true

/-- The revision a task is going to publish and the publications it had seen
when it read it. -/
def Phase.held : Phase → Option (Int × Nat)
  | .revisionRead _ revision seen => some (revision, seen)
  | .loaded _ snapshot seen | .replacing snapshot seen => some (snapshot.revision, seen)
  | _ => none

variable {env : Env} {system after : System}

variable {task : Nat} {phase : Phase} {snapshot : Snapshot} {action : Action}

theorem setTask_tasks {other : Nat} {phase' : Phase}
    (hphase : (system.setTask task phase).tasks other = some phase') :
    (other = task ∧ phase' = phase) ∨ system.tasks other = some phase' := by
  by_cases h : other = task
  · subst h
    simp only [System.setTask, update_self, Option.some.injEq] at hphase
    exact .inl ⟨rfl, hphase.symm⟩
  · simp only [System.setTask, update_of_ne h] at hphase
    exact .inr hphase

/-- A task that saw the last publication holds a revision at least as new. -/
def System.Fresh (system : System) (phase : Phase) : Prop :=
  ∀ revision seen, phase.held = some (revision, seen) →
    revision ≤ system.db.revision ∧ seen ≤ system.publications ∧
      (seen = system.publications → system.tx.revision ≤ revision)

structure Inv (system : System) : Prop where
  published : system.tx.revision ≤ system.db.revision
  tasks : ∀ task phase, system.tasks task = some phase → system.Fresh phase

theorem Inv.setTask (inv : Inv system) (task : Nat) (fresh : system.Fresh phase) :
    Inv (system.setTask task phase) := by
  refine ⟨inv.published, ?_⟩
  intro other phase' hphase
  rcases setTask_tasks hphase with ⟨-, rfl⟩ | hphase
  · exact fresh
  · exact inv.tasks other phase' hphase

theorem System.Fresh.of_held_none (none_held : phase.held = none) : system.Fresh phase := by
  intro revision seen hheld
  rw [none_held] at hheld
  cases hheld

theorem Inv.spawn (inv : Inv system) (none_held : phase.held = none) : Inv (system.spawn phase) :=
  ⟨inv.published, (inv.setTask system.nextTask (.of_held_none none_held)).tasks⟩

theorem Inv.db (inv : Inv system) {db : Database} (grows : system.db.revision ≤ db.revision)
    (history : Int → Option (List SettingRow)) : Inv { system with db, history } := by
  refine ⟨Int.le_trans inv.published grows, ?_⟩
  intro task phase hphase revision seen hheld
  obtain ⟨hrevision, hrest⟩ := inv.tasks task phase hphase revision seen hheld
  exact ⟨Int.le_trans hrevision grows, hrest⟩

theorem Inv.commit (inv : Inv system) {db : Database}
    (next : db.revision = system.db.revision + 1) : Inv (system.commit db) :=
  inv.db (by omega) _

theorem Inv.sendReplace (inv : Inv system)
    (loaded : snapshot.revision ≤ system.db.revision) : Inv (system.sendReplace snapshot) := by
  refine ⟨loaded, ?_⟩
  intro task phase hphase revision seen hheld
  obtain ⟨hrevision, hseen, -⟩ := inv.tasks task phase hphase revision seen hheld
  refine ⟨hrevision, by simp only [System.sendReplace]; omega, ?_⟩
  intro hlast
  simp only [System.sendReplace] at hlast
  omega

theorem Inv.advance {env : Env} (inv : Inv system) (hphase : system.tasks task = some phase)
    (taken : advance env system task phase = some after) : Inv after := by
  have fresh := inv.tasks task phase hphase
  cases phase with
  | patching call =>
    simp only [Publication.advance] at taken
    split at taken
    · cases taken
      exact inv.setTask task (.of_held_none rfl)
    · split at taken
      · cases taken
        exact inv.setTask task (.of_held_none rfl)
      · rename_i hcommitted
        cases taken
        exact (inv.commit (patchTxn_revision _ hcommitted)).setTask task (.of_held_none rfl)
  | rejecting call err =>
    cases taken
    have hrevision := (recordRejection_keeps call err.message system.db).2
    exact (inv.db (Int.le_of_eq hrevision.symm) _).setTask task (.of_held_none rfl)
  | polling =>
    cases taken
    exact inv.setTask task (.of_held_none rfl)
  | polled committed =>
    simp only [Publication.advance] at taken
    split at taken <;> cases taken <;> exact inv.setTask task (.of_held_none rfl)
  | loading publisher =>
    cases taken
    refine inv.setTask task ?_
    rintro _ _ ⟨⟩
    exact ⟨Int.le_refl _, Nat.le_refl _, fun _ => inv.published⟩
  | revisionRead publisher revision seen =>
    simp only [Publication.advance] at taken
    split at taken
    · cases taken
      exact inv.setTask task (.of_held_none rfl)
    · rename_i snapshot hloaded
      cases taken
      obtain ⟨stored, -, -, rfl⟩ := (loadRows_ok _).mp hloaded
      have hkept : Inv { system with
          snapshots := system.snapshots ++ [⟨revision, resolve stored⟩] } :=
        ⟨inv.published, inv.tasks⟩
      exact hkept.setTask task fresh
  | loaded publisher snapshot seen =>
    cases publisher with
    | patch changed =>
      cases taken
      exact (inv.sendReplace (fresh _ _ rfl).1).setTask task (.of_held_none rfl)
    | reload =>
      simp only [Publication.advance] at taken
      split at taken
      · cases taken
        exact inv.setTask task fresh
      · cases taken
        exact inv.setTask task (.of_held_none rfl)
  | replacing snapshot seen =>
    cases taken
    exact (inv.sendReplace (fresh _ _ rfl).1).setTask task (.of_held_none rfl)
  | returned => cases taken

theorem Inv.step (inv : Inv system) (taken : step env system action = some after) : Inv after := by
  cases action with
  | patch call =>
    cases taken
    exact inv.spawn rfl
  | poll =>
    cases taken
    exact inv.spawn rfl
  | advance task metadata =>
    obtain ⟨phase, hphase, hadvance⟩ := bind_eq_some_iff.mp taken
    exact inv.advance hphase hadvance
  | foreign call metadata =>
    simp only [Publication.step] at taken
    split at taken
    · cases taken
    · rename_i hcommitted
      cases taken
      exact inv.commit (patchTxn_revision _ hcommitted)

theorem advance_tx (taken : advance env system task phase = some after) :
    after.tx = (phase.publishes.map Prod.fst).getD system.tx := by
  cases phase with
  | patching call =>
    simp only [advance] at taken
    split at taken
    · cases taken
      rfl
    · split at taken <;> cases taken <;> rfl
  | polled committed =>
    simp only [advance] at taken
    split at taken <;> cases taken <;> rfl
  | revisionRead publisher revision seen =>
    simp only [advance] at taken
    split at taken <;> cases taken <;> rfl
  | loaded publisher snapshot seen =>
    cases publisher with
    | patch changed =>
      cases taken
      rfl
    | reload =>
      simp only [advance] at taken
      split at taken <;> cases taken <;> rfl
  | rejecting call err => cases taken; rfl
  | polling => cases taken; rfl
  | loading publisher => cases taken; rfl
  | replacing snapshot seen => cases taken; rfl
  | returned => cases taken

theorem Phase.held_of_publishes {seen : Nat} (publishes : phase.publishes = some (snapshot, seen)) :
    phase.held = some (snapshot.revision, seen) := by
  cases phase with
  | loaded publisher held seen =>
    cases publisher with
    | patch changed => cases publishes; rfl
    | reload => cases publishes
  | replacing held seen => cases publishes; rfl
  | _ => cases publishes

theorem Inv.revision_step (inv : Inv system) (allowed : undisturbed system action = true)
    (taken : Publication.step env system action = some after) :
    system.tx.revision ≤ after.tx.revision := by
  cases action with
  | patch call => cases taken; exact Int.le_refl _
  | poll => cases taken; exact Int.le_refl _
  | foreign call metadata =>
    simp only [Publication.step] at taken
    split at taken <;> cases taken
    exact Int.le_refl _
  | advance task metadata =>
    obtain ⟨phase, hphase, hadvance⟩ := bind_eq_some_iff.mp taken
    rw [advance_tx hadvance]
    cases hpublishes : phase.publishes with
    | none => exact Int.le_refl _
    | some published =>
      obtain ⟨snapshot, seen⟩ := published
      simp only [undisturbed, hphase, bind_some, hpublishes, all_some, decide_eq_true_eq] at allowed
      exact (inv.tasks task phase hphase _ _ (Phase.held_of_publishes hpublishes)).2.2 allowed

theorem Inv.initial {token : String} {nonce : Bytes} {timestamp : String} {image : Image}
    {store : Store} (started : initializeStore env token nonce timestamp image = .ok store) :
    Inv (initial store) := by
  obtain ⟨-, hload⟩ := initializeStore_ok started
  refine ⟨?_, fun _ _ hphase => by cases hphase⟩
  show store.tx.revision ≤ store.db.revision
  exact Int.le_of_eq (congrArg Snapshot.revision (load_ok hload).1)

/-- In every run without a publication between a task's load and its own
publication, the revision of the watched snapshot never decreases. -/
theorem published_revision_monotone (env : Env) {token : String} {nonce : Bytes}
    {timestamp : String} {image : Image} {store : Store}
    (started : initializeStore env token nonce timestamp image = .ok store)
    {earlier later : List Action} {middle final : System}
    (reached : run (restrict (Publication.step env) fun system action =>
      undisturbed system action = true) (initial store) earlier = some middle)
    (continued : run (restrict (Publication.step env) fun system action =>
      undisturbed system action = true) middle later = some final) :
    middle.tx.revision ≤ final.tx.revision := by
  have hkept : ∀ system action after, Inv system → undisturbed system action = true →
      Publication.step env system action = some after → Inv after :=
    fun _ _ _ inv _ hstep => inv.step hstep
  have inv := restrict_invariant hkept (Inv.initial started) reached
  have hgrows : ∀ system action after,
      Inv system ∧ middle.tx.revision ≤ system.tx.revision → undisturbed system action = true →
      Publication.step env system action = some after →
      Inv after ∧ middle.tx.revision ≤ after.tx.revision := by
    intro system action after ⟨inv, hle⟩ allowed hstep
    exact ⟨inv.step hstep, Int.le_trans hle (inv.revision_step allowed hstep)⟩
  exact (restrict_invariant hgrows ⟨inv, Int.le_refl _⟩ continued).2

def switchInput (revision : Int) (enabled : Bool) : PatchCall :=
  ⟨"operator", revision, ⟨[("features.input_enabled", .bool enabled)], by simp⟩,
    "2026-01-01T00:00:00.000Z", fun _ => List.replicate 12 1⟩

theorem findDef_input :
    findDef "features.input_enabled" = some (.bool "features.input_enabled" true) := by
  decide

theorem switchInput_parsed (enabled : Bool) : parseEntry ("features.input_enabled", .bool enabled) =
      .ok (.bool "features.input_enabled" true, .bool enabled) :=
  parseEntry_ok.mpr ⟨findDef_input, rfl, rfl⟩

structure Switched (db : Database) (revision : Int) (enabled : Bool) (after : Database)
    (changed : List String) (fresh : Snapshot) : Prop where
  commit : patchTxn sampleEnv (switchInput revision enabled) db = .ok (after, changed)
  wellFormed : WellFormed after
  revision : after.revision = revision + 1
  load : load sampleEnv after = .ok fresh
  stored : storedValues after.settings "features.input_enabled" = some (.bool enabled)

theorem switchInput_commits {db : Database} (wf : WellFormed db)
    (loaded : load sampleEnv db = .ok snapshot) (enabled : Bool) :
    ∃ after changed fresh, Switched db db.revision enabled after changed fresh := by
  have hentry : ("features.input_enabled", Json.bool enabled) ∈
      (switchInput db.revision enabled).updates.entries := mem_singleton.mpr rfl
  have honly : ∀ entry ∈ (switchInput db.revision enabled).updates.entries,
      entry = ("features.input_enabled", .bool enabled) := by
    intro entry hentry
    simpa [switchInput] using hentry
  have acceptable : Acceptable sampleEnv (switchInput db.revision enabled) db := by
    refine acceptable_of_loaded loaded rfl ?_ ?_
    · intro entry hmem
      rw [honly entry hmem]
      exact ⟨_, switchInput_parsed enabled⟩
    · intro entry hmem
      rw [honly entry hmem]
      show "features.input_enabled" ∉ Combination.keys
      decide
  have hstored : storedValues (Settings.patched sampleEnv (switchInput db.revision enabled)
      db).1.settings "features.input_enabled" = some (.bool enabled) := by
    rw [storedValues_patched (wf.patchable _),
      written_of_parsed hentry (switchInput_parsed enabled)]
    rfl
  exact ⟨_, _, _, patchTxn_of_acceptable wf acceptable, wellFormed_patched wf, rfl,
    load_patched (wf.patchable _) acceptable, hstored⟩

def sections (task count : Nat) : List Action :=
  List.replicate count (.advance task sampleEnv.metadata)

def System.patched (system : System) (task : Nat) (db : Database) (changed : List String)
    (fresh : Snapshot) : System :=
  { system.commit db with
    snapshots := system.snapshots ++ [fresh]
    tasks := Function.update system.tasks task
      (some (.loaded (.patch changed) fresh system.publications)) }

/-- A step function takes the sections of a task that neither publish nor
straddle a commit. -/
def Agrees (next : System → Action → Option System) (task : Nat) : Prop :=
  ∀ system phase, system.tasks task = some phase → phase.publishes = none →
    (∀ publisher revision seen, phase = .revisionRead publisher revision seen →
      revision = system.db.revision) →
    next system (.advance task sampleEnv.metadata) = advance sampleEnv system task phase

theorem agrees_step (task : Nat) : Agrees (Publication.step sampleEnv) task := by
  intro system phase hphase _ _
  simp [Publication.step, hphase]

theorem agrees_undisturbed (task : Nat) :
    Agrees (restrict (Publication.step sampleEnv) fun system action =>
      undisturbed system action = true) task := by
  intro system phase hphase hpublishes hrevision
  have allowed : undisturbed system (.advance task sampleEnv.metadata) = true := by
    simp [undisturbed, hphase, hpublishes]
  rw [restrict, if_pos allowed, agrees_step task system phase hphase hpublishes hrevision]

theorem agrees_uncommitted (task : Nat) :
    Agrees (restrict (Publication.step sampleEnv) fun system action =>
      uncommitted system action = true) task := by
  intro system phase hphase hpublishes hrevision
  have allowed : uncommitted system (.advance task sampleEnv.metadata) = true := by
    cases phase <;> simp_all [uncommitted]
  rw [restrict, if_pos allowed, agrees_step task system phase hphase hpublishes hrevision]

theorem run_sections {next : System → Action → Option System} {call : PatchCall}
    (agrees : Agrees next task)
    (hphase : system.tasks task = some (.patching call)) (nonempty : call.updates.entries ≠ [])
    {db : Database} {changed : List String} {fresh : Snapshot}
    (hcommit : patchTxn sampleEnv call system.db = .ok (db, changed))
    (hload : load sampleEnv db = .ok fresh) :
    run next system (sections task 3) = some (system.patched task db changed fresh) := by
  have hsome : call.updates.entries.isEmpty = false := by simpa using nonempty
  have hrows : loadRows sampleEnv db.revision db.settings = .ok fresh := hload
  refine run_cons_eq_some.mpr
    ⟨(system.commit db).setTask task (.loading (.patch changed)), ?_, ?_⟩
  · rw [agrees system _ hphase rfl (by simp)]
    simp [advance, hsome, hcommit]
  refine run_cons_eq_some.mpr
    ⟨(system.commit db).setTask task (.revisionRead (.patch changed) db.revision
      system.publications), ?_, ?_⟩
  · rw [agrees _ (.loading (.patch changed)) (by simp [System.setTask]) rfl (by simp)]
    simp [advance, System.setTask, System.commit]
  refine run_cons_eq_some.mpr ⟨_, ?_, rfl⟩
  rw [agrees _ (.revisionRead (.patch changed) db.revision system.publications)
    (by simp [System.setTask]) rfl (by rintro _ _ _ ⟨⟩; rfl)]
  simp [advance, System.setTask, System.commit, System.patched, hrows]

theorem switchInput_twice : ∃ store second third changed changed' fresh fresh',
      initializeStore sampleEnv "operator" (List.replicate 12 1) "2026-01-01T00:00:00.000Z"
        emptyImage = .ok store ∧ store.tx.revision = 1 ∧
      Switched store.db 1 false second changed fresh ∧
      Switched second 2 true third changed' fresh' := by
  obtain ⟨store, started⟩ := initializeStore_empty sampleEnv "operator" (List.replicate 12 1)
    "2026-01-01T00:00:00.000Z"
  have wf := initializeStore_wellFormed started
  obtain ⟨hdb, hload⟩ := initializeStore_ok started
  have hrevision : store.db.revision = 1 := by
    rw [hdb, seed, seedOperatorToken]
    split <;> rfl
  obtain ⟨second, changed, fresh, hfirst⟩ := switchInput_commits wf hload false
  rw [hrevision] at hfirst
  obtain ⟨third, changed', fresh', hsecond⟩ :=
    switchInput_commits hfirst.wellFormed hfirst.load true
  rw [hfirst.revision] at hsecond
  refine ⟨store, second, third, changed, changed', fresh, fresh', started, ?_, hfirst, hsecond⟩
  rw [(load_ok hload).1]
  exact hrevision

theorem Switched.fresh_revision {db after : Database} {revision : Int} {enabled : Bool}
    {changed : List String} {fresh : Snapshot}
    (switched : Switched db revision enabled after changed fresh) :
    fresh.revision = revision + 1 := by
  rw [(load_ok switched.load).1]
  exact switched.revision

/-- Two patches in turn. -/
theorem published_revision_monotone_in_turn :
    ∃ store middle final, initializeStore sampleEnv "operator" (List.replicate 12 1)
        "2026-01-01T00:00:00.000Z" emptyImage = .ok store ∧
      run (restrict (Publication.step sampleEnv) fun system action =>
        undisturbed system action = true) (initial store)
        (.patch (switchInput 1 false) :: (sections 0 3 ++ sections 0 1)) = some middle ∧
      run (restrict (Publication.step sampleEnv) fun system action =>
        undisturbed system action = true) middle
        (.patch (switchInput 2 true) :: (sections 1 3 ++ sections 1 1)) = some final ∧
      middle.tx.revision ≤ final.tx.revision := by
  obtain ⟨store, second, third, changed, changed', fresh, fresh', started, -, hfirst, hsecond⟩ :=
    switchInput_twice
  let waiting := (initial store).spawn (.patching (switchInput 1 false))
  let published := ((waiting.patched 0 second changed fresh).sendReplace fresh).setTask 0 .returned
  let waiting' := published.spawn (.patching (switchInput 2 true))
  have hoff : run _ waiting (sections 0 3) = _ :=
    run_sections (agrees_undisturbed 0) rfl (by simp [switchInput]) hfirst.commit hfirst.load
  have hon : run _ waiting' (sections 1 3) = _ :=
    run_sections (agrees_undisturbed 1) rfl (by simp [switchInput]) hsecond.commit hsecond.load
  have hmiddle : run (restrict (Publication.step sampleEnv) fun system action =>
      undisturbed system action = true) (initial store)
      (.patch (switchInput 1 false) :: (sections 0 3 ++ sections 0 1)) = some published :=
    run_cons_eq_some.mpr ⟨waiting, rfl, run_append hoff rfl⟩
  have hfinal : run (restrict (Publication.step sampleEnv) fun system action =>
      undisturbed system action = true) published
      (.patch (switchInput 2 true) :: (sections 1 3 ++ sections 1 1)) =
        some (((waiting'.patched 1 third changed' fresh').sendReplace fresh').setTask 1
          .returned) :=
    run_cons_eq_some.mpr ⟨waiting', rfl, run_append hon rfl⟩
  exact ⟨store, _, _, started, hmiddle, hfinal,
    published_revision_monotone sampleEnv started hmiddle hfinal⟩

/-- A patch that commits and loads first but publishes last puts revision 2 over
revision 3: the switch the second operator turned on is off again. -/
theorem published_revision_decreases :
    ∃ store middle final, initializeStore sampleEnv "operator" (List.replicate 12 1)
        "2026-01-01T00:00:00.000Z" emptyImage = .ok store ∧
      run (Publication.step sampleEnv) (initial store)
        ([.patch (switchInput 1 false), .patch (switchInput 2 true)] ++
          (sections 0 3 ++ (sections 1 3 ++ sections 1 1))) = some middle ∧
      run (Publication.step sampleEnv) middle (sections 0 1) = some final ∧
      middle.tx.revision = 3 ∧ final.tx.revision = 2 := by
  obtain ⟨store, second, third, changed, changed', fresh, fresh', started, htx, hfirst, hsecond⟩ :=
    switchInput_twice
  let waiting := ((initial store).spawn (.patching (switchInput 1 false))).spawn
    (.patching (switchInput 2 true))
  have hoff : run (Publication.step sampleEnv) waiting (sections 0 3) =
      some (waiting.patched 0 second changed fresh) :=
    run_sections (agrees_step 0) rfl (by simp [switchInput]) hfirst.commit hfirst.load
  have hon : run (Publication.step sampleEnv) (waiting.patched 0 second changed fresh)
      (sections 1 3) =
        some ((waiting.patched 0 second changed fresh).patched 1 third changed' fresh') :=
    run_sections (agrees_step 1) rfl (by simp [switchInput]) hsecond.commit hsecond.load
  exact ⟨store, _, _, started, run_append rfl (run_append hoff (run_append hon rfl)), rfl,
    hsecond.fresh_revision, hfirst.fresh_revision⟩

def System.Consistent (system : System) (snapshot : Snapshot) : Prop :=
  ∃ rows stored, system.history snapshot.revision = some rows ∧ readRows rows = .ok stored ∧
    snapshot.values = resolve stored

structure HistoryInv (system : System) : Prop where
  current : system.history system.db.revision = some system.db.settings
  future : ∀ revision, system.db.revision < revision → system.history revision = none
  snapshots : ∀ snapshot ∈ system.snapshots, system.Consistent snapshot

theorem HistoryInv.of_same (inv : HistoryInv system) (hdb : after.db = system.db)
    (hhistory : after.history = system.history) (hsnapshots : after.snapshots = system.snapshots) :
    HistoryInv after := by
  refine ⟨?_, ?_, ?_⟩
  · rw [hdb, hhistory]
    exact inv.current
  · rw [hdb, hhistory]
    exact inv.future
  · rw [hsnapshots]
    intro snapshot hsnapshot
    obtain ⟨rows, stored, hrows, hrest⟩ := inv.snapshots snapshot hsnapshot
    exact ⟨rows, stored, hhistory ▸ hrows, hrest⟩

theorem HistoryInv.commit (inv : HistoryInv system) {db : Database}
    (next : db.revision = system.db.revision + 1) : HistoryInv (system.commit db) := by
  have hpast : ∀ revision rows, system.history revision = some rows → revision ≠ db.revision := by
    rintro revision rows hrows rfl
    rw [inv.future db.revision (by omega)] at hrows
    cases hrows
  refine ⟨by simp [System.commit], ?_, ?_⟩
  · intro revision hlater
    have hlater : db.revision < revision := hlater
    have hother : revision ≠ db.revision := by omega
    simp only [System.commit, update_of_ne hother]
    exact inv.future revision (by omega)
  · intro snapshot hsnapshot
    obtain ⟨rows, stored, hrows, hrest⟩ := inv.snapshots snapshot hsnapshot
    refine ⟨rows, stored, ?_, hrest⟩
    simp only [System.commit, update_of_ne (hpast _ _ hrows)]
    exact hrows

theorem HistoryInv.advance {env : Env} (inv : HistoryInv system)
    (uncommitted : ∀ publisher revision seen, phase = .revisionRead publisher revision seen →
      revision = system.db.revision)
    (taken : advance env system task phase = some after) : HistoryInv after := by
  cases phase with
  | patching call =>
    simp only [Publication.advance] at taken
    split at taken
    · cases taken
      exact inv.of_same rfl rfl rfl
    · split at taken
      · cases taken
        exact inv.of_same rfl rfl rfl
      · rename_i hcommitted
        cases taken
        exact (inv.commit (patchTxn_revision _ hcommitted)).of_same rfl rfl rfl
  | rejecting call err =>
    cases taken
    obtain ⟨hsettings, hrevision⟩ := recordRejection_keeps call err.message system.db
    refine ⟨?_, ?_, inv.snapshots⟩
    · simp only [System.setTask, hsettings, hrevision]
      exact inv.current
    · simp only [System.setTask, hrevision]
      exact inv.future
  | polling => cases taken; exact inv.of_same rfl rfl rfl
  | polled committed =>
    simp only [Publication.advance] at taken
    split at taken <;> cases taken <;> exact inv.of_same rfl rfl rfl
  | loading publisher => cases taken; exact inv.of_same rfl rfl rfl
  | revisionRead publisher revision seen =>
    obtain rfl := uncommitted publisher revision seen rfl
    simp only [Publication.advance] at taken
    split at taken
    · cases taken
      exact inv.of_same rfl rfl rfl
    · rename_i snapshot hloaded
      cases taken
      obtain ⟨stored, hread, -, rfl⟩ := (loadRows_ok _).mp hloaded
      refine ⟨inv.current, inv.future, ?_⟩
      intro snapshot hsnapshot
      rcases mem_append.mp hsnapshot with hsnapshot | hsnapshot
      · exact inv.snapshots snapshot hsnapshot
      · obtain rfl := mem_singleton.mp hsnapshot
        exact ⟨system.db.settings, stored, inv.current, hread, rfl⟩
  | loaded publisher snapshot seen =>
    cases publisher with
    | patch changed => cases taken; exact inv.of_same rfl rfl rfl
    | reload =>
      simp only [Publication.advance] at taken
      split at taken <;> cases taken <;> exact inv.of_same rfl rfl rfl
  | replacing snapshot seen => cases taken; exact inv.of_same rfl rfl rfl
  | returned => cases taken

theorem HistoryInv.step (inv : HistoryInv system) (allowed : uncommitted system action = true)
    (taken : Publication.step env system action = some after) : HistoryInv after := by
  cases action with
  | patch call => cases taken; exact inv.of_same rfl rfl rfl
  | poll => cases taken; exact inv.of_same rfl rfl rfl
  | advance task metadata =>
    obtain ⟨phase, hphase, hadvance⟩ := bind_eq_some_iff.mp taken
    refine inv.advance ?_ hadvance
    rintro publisher revision seen rfl
    simpa [uncommitted, hphase] using allowed
  | foreign call metadata =>
    simp only [Publication.step] at taken
    split at taken
    · cases taken
    · rename_i hcommitted
      cases taken
      exact inv.commit (patchTxn_revision _ hcommitted)

theorem HistoryInv.initial {token : String} {nonce : Bytes} {timestamp : String} {image : Image}
    {store : Store} (started : initializeStore env token nonce timestamp image = .ok store) :
    HistoryInv (initial store) := by
  obtain ⟨-, hload⟩ := initializeStore_ok started
  refine ⟨by simp [Publication.initial], ?_, ?_⟩
  · intro revision hlater
    have hother : revision ≠ store.db.revision := Int.ne_of_gt hlater
    simp [Publication.initial, update_of_ne hother]
  · intro snapshot hsnapshot
    obtain rfl := mem_singleton.mp hsnapshot
    refine ⟨store.db.settings, storedValues store.db.settings, ?_, ?_, ?_⟩
    · simp [Publication.initial, (load_ok hload).1]
    · exact readRows_eq store.db.names (load_parses hload)
    · simp [(load_ok hload).1]

/-- In every run in which no transaction commits between the two statements of
a load, every snapshot it returns holds exactly the values committed at its
revision. -/
theorem snapshots_consistent (env : Env) {token : String} {nonce : Bytes} {timestamp : String}
    {image : Image} {store : Store}
    (started : initializeStore env token nonce timestamp image = .ok store)
    {actions : List Action} {final : System}
    (taken : run (restrict (Publication.step env) fun system action =>
      uncommitted system action = true) (initial store) actions = some final) :
    ∀ snapshot ∈ final.snapshots, final.Consistent snapshot := by
  have hkept : ∀ system action after, HistoryInv system → uncommitted system action = true →
      Publication.step env system action = some after → HistoryInv after :=
    fun _ _ _ inv allowed hstep => inv.step allowed hstep
  exact (restrict_invariant hkept (HistoryInv.initial started) taken).snapshots

/-- One patch, with its load after its commit. -/
theorem snapshots_consistent_patch :
    ∃ store final, initializeStore sampleEnv "operator" (List.replicate 12 1)
        "2026-01-01T00:00:00.000Z" emptyImage = .ok store ∧
      run (restrict (Publication.step sampleEnv) fun system action =>
        uncommitted system action = true) (initial store)
        ([.patch (switchInput 1 false)] ++ sections 0 3) = some final ∧
      final.snapshots.length = 2 ∧ ∀ snapshot ∈ final.snapshots, final.Consistent snapshot := by
  obtain ⟨store, second, third, changed, changed', fresh, fresh', started, -, hfirst, -⟩ :=
    switchInput_twice
  let waiting := (initial store).spawn (.patching (switchInput 1 false))
  have hoff : run _ waiting (sections 0 3) = _ :=
    run_sections (agrees_uncommitted 0) rfl (by simp [switchInput]) hfirst.commit hfirst.load
  have taken : run (restrict (Publication.step sampleEnv) fun system action =>
      uncommitted system action = true) (initial store)
      ([.patch (switchInput 1 false)] ++ sections 0 3) =
        some (waiting.patched 0 second changed fresh) :=
    run_append rfl hoff
  exact ⟨store, _, started, taken, rfl, snapshots_consistent sampleEnv started taken⟩

/-- A commit between the two statements of a reload pairs revision 2 with the
values of revision 3. -/
theorem snapshot_inconsistent :
    ∃ store final snapshot, initializeStore sampleEnv "operator" (List.replicate 12 1)
        "2026-01-01T00:00:00.000Z" emptyImage = .ok store ∧
      run (Publication.step sampleEnv) (initial store)
        ([.foreign (switchInput 1 false) sampleEnv.metadata, .poll] ++ sections 0 3 ++
          [.foreign (switchInput 2 true) sampleEnv.metadata] ++ sections 0 1) = some final ∧
      snapshot ∈ final.snapshots ∧ snapshot.revision = 2 ∧ ¬ final.Consistent snapshot := by
  obtain ⟨store, second, third, changed, changed', fresh, fresh', started, htx, hfirst, hsecond⟩ :=
    switchInput_twice
  let torn : Snapshot := ⟨2, resolve (storedValues third.settings)⟩
  let polling := ((initial store).commit second).spawn .polling
  have hread : loadRows sampleEnv 2 third.settings = .ok torn := by
    obtain ⟨stored, hread, hvalid, -⟩ := (loadRows_ok sampleEnv).mp hsecond.load
    rw [readRows_eq third.names hsecond.wellFormed.parses] at hread
    cases hread
    exact (loadRows_ok sampleEnv).mpr ⟨_, readRows_eq third.names hsecond.wellFormed.parses,
      hvalid, rfl⟩
  have hcommit : Publication.step sampleEnv (initial store)
      (.foreign (switchInput 1 false) sampleEnv.metadata) = some ((initial store).commit second) := by
    simp [Publication.step, initial, hfirst.commit]
  have hpolled : run (Publication.step sampleEnv) polling (sections 0 3) =
      some (polling.setTask 0 (.revisionRead .reload second.revision 0)) := by
    have hdiffers : second.revision ≠ polling.tx.revision := by
      rw [hfirst.revision, show polling.tx.revision = 1 from htx]
      decide
    refine run_cons_eq_some.mpr ⟨polling.setTask 0 (.polled second.revision), ?_, ?_⟩
    · simp [Publication.step, advance, polling, System.spawn, System.setTask, initial,
        System.commit]
    refine run_cons_eq_some.mpr ⟨polling.setTask 0 (.loading .reload), ?_, ?_⟩
    · have hagain : ((polling.setTask 0 (.polled second.revision)).setTask 0 (.loading .reload)) =
          polling.setTask 0 (.loading .reload) := by simp [System.setTask]
      rw [← hagain]
      exact if_pos hdiffers
    refine run_cons_eq_some.mpr ⟨_, ?_, rfl⟩
    simp [Publication.step, advance, polling, System.spawn, System.setTask, initial, System.commit]
  let reading := polling.setTask 0 (.revisionRead .reload second.revision 0)
  have hcommit' : Publication.step sampleEnv reading
      (.foreign (switchInput 2 true) sampleEnv.metadata) = some (reading.commit third) := by
    have hcommitted : patchTxn sampleEnv (switchInput 2 true) reading.db = .ok (third, changed') :=
      hsecond.commit
    simp [Publication.step, hcommitted]
  let final := { reading.commit third with
    snapshots := (reading.commit third).snapshots ++ [torn] }.setTask 0 (.loaded .reload torn 0)
  have hloaded : run (Publication.step sampleEnv) (reading.commit third) (sections 0 1) =
      some final := by
    have hrows : loadRows sampleEnv second.revision third.settings = .ok torn := by
      rw [hfirst.revision]
      exact hread
    refine run_cons_eq_some.mpr ⟨final, ?_, rfl⟩
    show (match loadRows sampleEnv second.revision third.settings with
      | .error _ => _
      | .ok snapshot => _) = _
    rw [hrows]
  have hone : run (Publication.step sampleEnv) (initial store)
      [.foreign (switchInput 1 false) sampleEnv.metadata, .poll] = some polling :=
    run_cons_eq_some.mpr ⟨_, hcommit, rfl⟩
  have htwo : run (Publication.step sampleEnv) reading
      [.foreign (switchInput 2 true) sampleEnv.metadata] = some (reading.commit third) :=
    run_cons_eq_some.mpr ⟨_, hcommit', rfl⟩
  have hrun := run_append (run_append (run_append hone hpolled) htwo) hloaded
  refine ⟨store, final, torn, started, hrun, ?_, rfl, ?_⟩
  · exact mem_append_right _ (mem_singleton.mpr rfl)
  · rintro ⟨rows, stored, hrows, hstored, hvalues⟩
    have hother : (2 : Int) ≠ third.revision := by
      rw [hsecond.revision]
      decide
    have hsettings : final.history 2 = some second.settings := by
      show Function.update (Function.update (initial store).history second.revision
        (some second.settings)) third.revision (some third.settings) 2 = _
      rw [update_of_ne hother, hfirst.revision]
      simp
    rw [show torn.revision = 2 from rfl, hsettings] at hrows
    cases hrows
    rw [readRows_eq second.names hfirst.wellFormed.parses] at hstored
    cases hstored
    have hswitch := congrFun hvalues "features.input_enabled"
    simp [torn, resolve, findDef_input, hfirst.stored, hsecond.stored] at hswitch

end Hypeterm.Settings.Publication
