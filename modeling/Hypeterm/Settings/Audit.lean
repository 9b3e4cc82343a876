import Mathlib.Data.List.Chain
import Hypeterm.Library.Runs
import Hypeterm.Settings.Seed

/-! The audit trail of accepted patches. -/
namespace Hypeterm.Settings

open Library List Keys

variable {env : Env} {call : PatchCall} {db : Database}

def applied (setting : String) (audit : List AuditRow) : List AuditRow :=
  audit.filter fun row => row.outcome = .applied ∧ row.setting = setting

def Chained (audit : List AuditRow) : Prop :=
  ∀ setting, (applied setting audit).IsChain fun previous next =>
    next.oldValueHash = previous.newValueHash

/-- A store and, beside it, the value each setting was last given. -/
structure Trail where
  store : Store
  held : Values

def Trail.patch (env : Env) (trail : Trail) (call : PatchCall) : Option Trail :=
  match Settings.patch env call trail.store with
  | (.ok _, store) =>
      some ⟨store, fun name => (submitted call.updates.entries name).or (trail.held name)⟩
  | (.error _, store) => some ⟨store, trail.held⟩

/-- Every secret of the call is empty, an external reference or already sealed. -/
def storedAsSubmitted (call : PatchCall) : Bool :=
  call.updates.entries.all fun entry =>
    match findDef entry.1, entry.2 with
    | some definition, .string text => !definition.secret || isStoredForm text
    | _, _ => true

theorem patched_audit (env : Env) (call : PatchCall) (db : Database) :
    (patched env call db).1.audit =
      db.audit ++ (stagedOf env call db).map (appliedRow env call (db.revision + 1)) := by
  simp [patched, commitStaged, foldl_applyStaged_audit]

theorem foldl_applyStaged_changed (call : PatchCall) (revision : Int) (staged : List Staged)
    (applied : Database × List String) :
    (staged.foldl (applyStaged env call revision) applied).2 =
      applied.2 ++ (staged.filter fun item =>
        (appliedRow env call revision item).oldValueHash ≠ some item.newHash).map
          (·.definition.name) := by
  induction staged generalizing applied with
  | nil => simp
  | cons item rest ih =>
    rw [foldl_cons, ih]
    by_cases h : (appliedRow env call revision item).oldValueHash = some item.newHash
    · simp [applyStaged, h]
    · simp [applyStaged, h]

theorem applied_append (setting : String) (audit rows : List AuditRow) :
    applied setting (audit ++ rows) = applied setting audit ++ applied setting rows := by
  simp [applied]

theorem applied_staged (setting : String) :
    applied setting ((stagedOf env call db).map (appliedRow env call (db.revision + 1))) =
      (((lookup Prod.fst setting call.updates.entries).bind
        (stagedItem env call.nonces (resolve (storedValues db.settings)))).map
          (appliedRow env call (db.revision + 1))).toList := by
  have hdistinct : ((stagedOf env call db).map (·.definition.name)).Nodup :=
    nodup_filterMap stagedItem_keeps call.updates.distinct
  rw [← lookup_filterMap stagedItem_keeps call.updates.distinct setting]
  have hfilter := filter_key hdistinct setting
  rw [applied, filter_map]
  show ((stagedOf env call db).filter fun item =>
    decide (AuditOutcome.applied = .applied ∧ item.definition.name = setting)).map _ = _
  simp only [true_and]
  rw [hfilter]
  exact Option.toList_map.symm

/-- The last entry of a setting carries the hash of what would be read back. -/
structure TrailInv (env : Env) (trail : Trail) : Prop where
  wellFormed : WellFormed trail.store.db
  held : ∀ definition ∈ defs,
    trail.held definition.name = storedValues trail.store.db.settings definition.name
  chained : Chained trail.store.db.audit
  last : ∀ definition ∈ defs, ∀ row ∈ (applied definition.name trail.store.db.audit).getLast?,
    row.newValueHash = (trail.held definition.name).map (hashFor env definition)

variable {definition : SettingDef}

theorem storedValue_as_submitted {nonce : Bytes} {entry : String × Json}
    {parsed : Value} (asSubmitted : storedAsSubmitted call = true)
    (hentry : entry ∈ call.updates.entries)
    (hparsed : parseEntry entry = .ok (definition, parsed)) :
    storedValue env nonce definition parsed = parsed := by
  obtain ⟨hfound, hjson, -⟩ := parseEntry_ok.mp hparsed
  have hform := all_eq_true.mp asSubmitted entry hentry
  unfold storedValue
  split
  · rename_i hsecret
    have hkind := (defs_secret definition (findDef_mem hfound)).mp hsecret
    simp only [Value.fromJson, hkind] at hjson
    split at hjson
    · rename_i text htext
      cases hjson
      have hstring : entry.2 = .string text := by
        cases h : entry.2 <;> simp_all [Json.asStr]
      rw [hfound, hstring] at hform
      have hform : isStoredForm text = true := by simpa [hsecret] using hform
      simp [hform]
    · cases hjson
  · rfl

def entryRow (env : Env) (call : PatchCall) (db : Database) (definition : SettingDef)
    (entry : String × Json) (parsed : Value) : AuditRow :=
  appliedRow env call (db.revision + 1)
    ⟨definition, storedValue env (call.nonces entry.1) definition parsed,
      resolve (storedValues db.settings) definition.name, hashFor env definition parsed⟩

theorem touched (acceptable : Acceptable env call db) (declared : definition ∈ defs) :
    (∃ entry ∈ call.updates.entries, ∃ parsed, parseEntry entry = .ok (definition, parsed) ∧
      submitted call.updates.entries definition.name = some parsed ∧
      written env call definition.name =
        some (storedValue env (call.nonces entry.1) definition parsed) ∧
      applied definition.name
        ((stagedOf env call db).map (appliedRow env call (db.revision + 1))) =
          [entryRow env call db definition entry parsed]) ∨
    (submitted call.updates.entries definition.name = none ∧
      written env call definition.name = none ∧
      applied definition.name
        ((stagedOf env call db).map (appliedRow env call (db.revision + 1))) = []) := by
  rw [applied_staged]
  cases hlookup : lookup Prod.fst definition.name call.updates.entries with
  | none => exact .inr (by simp [submitted, written, hlookup])
  | some entry =>
    have hentry := mem_of_lookup hlookup
    have hname := key_of_lookup hlookup
    obtain ⟨found, parsed, hparsed⟩ := acceptable.named entry hentry
    have hfound := hparsed.1
    rw [hname, findDef_of_mem declared] at hfound
    cases hfound
    have hparsed := parseEntry_ok.mpr hparsed
    refine .inl ⟨entry, hentry, parsed, hparsed, submitted_eq hlookup hparsed, ?_, ?_⟩
    · rw [← hname, written_of_parsed hentry hparsed]
    · simp [stagedItem, hparsed, Except.toOption, entryRow]

theorem entryRow_oldValueHash (env : Env) (call : PatchCall) (wf : WellFormed db)
    (declared : definition ∈ defs) (entry : String × Json) (parsed : Value) :
    (entryRow env call db definition entry parsed).oldValueHash =
      (storedValues db.settings definition.name).map (hashFor env definition) := by
  obtain ⟨value, hvalue, -⟩ := wf definition declared
  simp [entryRow, appliedRow, resolve, findDef_of_mem declared, hvalue]

theorem applied_undeclared {setting : String} (undeclared : findDef setting = none) :
    applied setting ((stagedOf env call db).map (appliedRow env call (db.revision + 1))) = [] := by
  rw [applied_staged]
  cases hlookup : lookup Prod.fst setting call.updates.entries with
  | none => rfl
  | some entry =>
    have hname := key_of_lookup hlookup
    simp [stagedItem, parseEntry, hname, undeclared, Except.toOption]

theorem TrailInv.accepted {trail : Trail} (inv : TrailInv env trail)
    (asSubmitted : storedAsSubmitted call = true) (acceptable : Acceptable env call trail.store.db)
    (tx : Snapshot) :
    TrailInv env ⟨⟨(patched env call trail.store.db).1, tx⟩,
      fun name => (submitted call.updates.entries name).or (trail.held name)⟩ := by
  have patchable := inv.wellFormed.patchable call.updates
  refine ⟨wellFormed_patched inv.wellFormed, ?_, ?_, ?_⟩
  · intro definition declared
    rw [storedValues_patched patchable]
    rcases touched acceptable declared with
      ⟨entry, hentry, parsed, hparsed, hsubmitted, hwritten, -⟩ | ⟨hsubmitted, hwritten, -⟩
    · simp [hsubmitted, hwritten, storedValue_as_submitted asSubmitted hentry hparsed]
    · simp [hsubmitted, hwritten, inv.held definition declared]
  · intro setting
    simp only [patched_audit, applied_append]
    cases hfound : findDef setting with
    | none =>
      rw [applied_undeclared hfound, append_nil]
      exact inv.chained setting
    | some definition =>
      have declared := findDef_mem hfound
      obtain rfl := findDef_name hfound
      rcases touched acceptable declared with
        ⟨entry, hentry, parsed, hparsed, -, -, hrow⟩ | ⟨-, -, hrow⟩
      · rw [hrow]
        refine isChain_append.mpr ⟨inv.chained _, .singleton _, ?_⟩
        intro previous hprevious row hhead
        obtain rfl : entryRow env call trail.store.db definition entry parsed = row := by
          simpa using hhead
        rw [entryRow_oldValueHash env call inv.wellFormed declared, ← inv.held definition declared,
          inv.last definition declared previous hprevious]
      · rw [hrow, append_nil]
        exact inv.chained _
  · intro definition declared row hlast
    rw [patched_audit, applied_append] at hlast
    rcases touched acceptable declared with
      ⟨entry, hentry, parsed, hparsed, hsubmitted, -, hrow⟩ | ⟨hsubmitted, -, hrow⟩
    · rw [hrow, getLast?_concat] at hlast
      obtain rfl : entryRow env call trail.store.db definition entry parsed = row := by
        simpa using hlast
      simp [hsubmitted, entryRow, appliedRow]
    · rw [hrow, append_nil] at hlast
      simpa [hsubmitted] using inv.last definition declared row hlast

theorem recordRejection_audit (call : PatchCall) (detail : String) (db : Database) :
    (recordRejection call detail db).audit =
      db.audit ++ call.updates.entries.map (rejectedRow call db.revision detail) := by
  have hfold : ∀ (rows : List AuditRow) (db : Database),
      (rows.foldl Database.insertAudit db).audit = db.audit ++ rows := by
    intro rows
    induction rows with
    | nil => simp
    | cons row rest ih => simp [ih, Database.insertAudit]
  exact hfold _ db

theorem applied_recordRejection (setting : String) (call : PatchCall) (detail : String)
    (db : Database) :
    applied setting (recordRejection call detail db).audit = applied setting db.audit := by
  have hnone : applied setting (call.updates.entries.map (rejectedRow call db.revision detail)) =
      [] := by
    simp only [applied, filter_eq_nil_iff, mem_map]
    rintro row ⟨entry, -, rfl⟩
    simp [rejectedRow]
  rw [recordRejection_audit, applied_append, hnone, append_nil]

theorem TrailInv.refused {trail : Trail} (inv : TrailInv env trail) (detail : String) :
    TrailInv env ⟨{ trail.store with db := recordRejection call detail trail.store.db },
      trail.held⟩ := by
  have hsettings := (recordRejection_keeps call detail trail.store.db).1
  refine ⟨inv.wellFormed.of_settings hsettings, ?_, ?_, ?_⟩
  · simpa only [hsettings] using inv.held
  · intro setting
    rw [applied_recordRejection]
    exact inv.chained setting
  · intro definition declared row hlast
    rw [applied_recordRejection] at hlast
    exact inv.last definition declared row hlast

theorem TrailInv.patch {trail after : Trail} (inv : TrailInv env trail)
    (asSubmitted : storedAsSubmitted call = true) (taken : trail.patch env call = some after) :
    TrailInv env after := by
  by_cases nonempty : call.updates.entries = []
  · have hpatch : Settings.patch env call trail.store =
        (.error (.invalid "no settings supplied"), trail.store) := by
      simp [Settings.patch, nonempty]
    simp only [Trail.patch, hpatch, Option.some.injEq] at taken
    exact taken ▸ inv
  · rcases patch_cases env call trail.store nonempty (inv.wellFormed.patchable call.updates) with
      ⟨acceptable, snapshot, -, hpatch⟩ | ⟨-, err, hpatch⟩
    · simp only [Trail.patch, hpatch, Option.some.injEq] at taken
      exact taken ▸ inv.accepted asSubmitted acceptable snapshot
    · simp only [Trail.patch, hpatch, Option.some.injEq] at taken
      exact taken ▸ inv.refused err.message

def Trail.start (store : Store) : Trail := ⟨store, resolve (storedValues store.db.settings)⟩

theorem seed_audit (env : Env) (token : String) (nonce : Bytes) (timestamp : String)
    (image : Image) : (seed env token nonce timestamp image).audit = image.audit := by
  unfold seed seedOperatorToken
  split <;> rfl

theorem TrailInv.start {token : String} {nonce : Bytes} {timestamp : String} {image : Image}
    {store : Store} (started : initializeStore env token nonce timestamp image = .ok store)
    (fresh : image.audit = []) : TrailInv env (.start store) := by
  have wf := initializeStore_wellFormed started
  have hempty : store.db.audit = [] := by
    rw [(initializeStore_ok started).1, seed_audit, fresh]
  refine ⟨wf, ?_, ?_, ?_⟩
  · intro definition declared
    obtain ⟨value, hvalue, -⟩ := wf definition declared
    simp [Trail.start, resolve, findDef_of_mem declared, hvalue]
  · intro setting
    simp [Trail.start, hempty, applied]
  · intro definition _ row hlast
    simp [Trail.start, hempty, applied] at hlast

theorem resubmitted (wf : WellFormed db) (acceptable : Acceptable env call db)
    {entry : String × Json} {parsed : Value}
    (hentry : entry ∈ call.updates.entries)
    (hparsed : parseEntry entry = .ok (definition, parsed))
    (stored : storedValues db.settings definition.name = some parsed) :
    (∃ row, applied definition.name (patched env call db).1.audit =
        applied definition.name db.audit ++ [row] ∧ row.detail = "value unchanged") ∧
      definition.name ∉ (patched env call db).2 := by
  have hname := parseEntry_name hparsed
  have declared := findDef_mem (parseEntry_ok.mp hparsed).1
  have hsubmitted : submitted call.updates.entries definition.name = some parsed := by
    rw [hname]
    exact submitted_eq (lookup_of_mem call.updates.distinct hentry) hparsed
  rcases touched acceptable declared with
    ⟨entry', hentry', parsed', hparsed', hsubmitted', -, hrow⟩ | ⟨hsubmitted', -, -⟩
  · rw [hsubmitted] at hsubmitted'
    cases hsubmitted'
    have hold := entryRow_oldValueHash env call wf declared entry' parsed
    rw [stored] at hold
    have hold : (entryRow env call db definition entry' parsed).oldValueHash =
        some (hashFor env definition parsed) := hold
    refine ⟨⟨_, by rw [patched_audit, applied_append, hrow], ?_⟩, ?_⟩
    · have hdetail : (resolve (storedValues db.settings) definition.name).map
          (hashFor env definition) = some (hashFor env definition parsed) := hold
      simp [entryRow, appliedRow, hdetail]
    · intro hchanged
      simp only [patched, commitStaged, foldl_applyStaged_changed, nil_append] at hchanged
      obtain ⟨item, hitem, hitemName⟩ := mem_map.mp hchanged
      obtain ⟨hstaged, hdiffers⟩ := mem_filter.mp hitem
      have hmem : appliedRow env call (db.revision + 1) item ∈ applied definition.name
          ((stagedOf env call db).map (appliedRow env call (db.revision + 1))) :=
        mem_filter.mpr ⟨mem_map_of_mem hstaged, by simp [appliedRow, hitemName]⟩
      rw [hrow, mem_singleton] at hmem
      have hnew : some item.newHash = some (hashFor env definition parsed) :=
        congrArg AuditRow.newValueHash hmem
      simp only [hmem, hold, hnew, ne_eq, not_true_eq_false, decide_false, Bool.false_eq_true]
        at hdiffers
  · rw [hsubmitted] at hsubmitted'
    cases hsubmitted'

/-- In every run whose calls store their secrets as submitted, the applied
entries of each setting form a chain and a resubmitted value is recorded as
unchanged. -/
theorem audit_chain_of_stored_as_submitted (env : Env) {token : String} {nonce : Bytes}
    {timestamp : String} {image : Image} {store : Store}
    (started : initializeStore env token nonce timestamp image = .ok store)
    (fresh : image.audit = []) {calls : List PatchCall} {final : Trail}
    (taken : run (restrict (Trail.patch env) fun _ call => storedAsSubmitted call = true)
      (.start store) calls = some final) :
    Chained final.store.db.audit ∧
    ∀ call, storedAsSubmitted call = true → ∀ outcome after,
      patch env call final.store = (.ok outcome, after) →
      ∀ entry ∈ call.updates.entries, ∀ definition parsed,
        parseEntry entry = .ok (definition, parsed) → final.held definition.name = some parsed →
        (∃ row, applied definition.name after.db.audit =
          applied definition.name final.store.db.audit ++ [row] ∧
            row.detail = "value unchanged") ∧
        definition.name ∉ outcome.changed := by
  have hkept : ∀ state action after, TrailInv env state → storedAsSubmitted action = true →
      Trail.patch env state action = some after → TrailInv env after :=
    fun _ _ _ inv asSubmitted hstep => inv.patch asSubmitted hstep
  have inv := restrict_invariant hkept (TrailInv.start started fresh) taken
  refine ⟨inv.chained, ?_⟩
  intro call asSubmitted outcome after haccepted entry hentry definition parsed hparsed hheld
  have declared := findDef_mem (parseEntry_ok.mp hparsed).1
  have nonempty : call.updates.entries ≠ [] := ne_nil_of_mem hentry
  rcases patch_cases env call final.store nonempty (inv.wellFormed.patchable call.updates) with
    ⟨acceptable, snapshot, -, hpatch⟩ | ⟨-, err, hpatch⟩
  · rw [hpatch] at haccepted
    cases haccepted
    rw [inv.held definition declared] at hheld
    exact resubmitted inv.wellFormed acceptable hentry hparsed hheld
  · rw [hpatch] at haccepted
    cases haccepted

theorem Trail.patch_total (trail : Trail) (env : Env) (call : PatchCall) :
    ∃ after, trail.patch env call = some after := by
  unfold Trail.patch
  split <;> exact ⟨_, rfl⟩

def tokenText : String := "BuVbYzSB97sHKVfqvPEQyXLoZpHDz-2r4IgCS__kLyM"

def operatorDef : SettingDef := .secretStr authOperatorTokenHash ""

/-- A box under the zero key and the digests of the texts below. -/
def tokenEnv : Env where
  metadata := fun _ => false
  sha256 := fun text =>
    if text = "secret:BuVbYzSB97sHKVfqvPEQyXLoZpHDz-2r4IgCS__kLyM" then
      0x19e1b2c829bd1628407366e9f0407bc6a40766426d8812bb7a402a9a6a068cc9#256
    else if text = "secret:env:OPERATOR" then
      0x4dff8a189fae4657c48e7751da97f402dc64c4684f2a2dab1a0ae86ef49d232d#256
    else if text = "secret:enc:v1:AgICAgICAgICAgICz1J6jJjeWjZ-TORY_nTDGEPZKUE310ix8nGb4DgdjhxAxAu1buHy3qhIyEI_g4gJbmPBw0978H9pvUY" then
      0x63fa6d46d2486cf28814bbdff2510e3eaab6e4061cc792c6507efe625f1d2164#256
    else 0xcbfe55616a02878a10b271f2ca4d5ddb0d48288bb87b929adb9e302fbd84eb3d#256
  sealText := fun nonce _ =>
    if nonce = List.replicate 12 1 then
      "AQEBAQEBAQEBAQEBDq2Vr6t-vp5y783lcymo0F24DCulZl6Dux0BunrKcyY6Rrz61SaPMAwSxJB0AutZntOZ8Ailb6phVG8"
    else
      "AgICAgICAgICAgICz1J6jJjeWjZ-TORY_nTDGEPZKUE310ix8nGb4DgdjhxAxAu1buHy3qhIyEI_g4gJbmPBw0978H9pvUY"
  hashOperatorToken := fun _ => tokenText

def submitToken (revision : Int) (text : String) : PatchCall :=
  ⟨"operator", revision, ⟨[(authOperatorTokenHash, .string text)], by simp⟩,
    "2026-01-01T00:00:00.000Z", fun _ => List.replicate 12 2⟩

theorem audit_chain_of_reference :
    ∃ store final, initializeStore tokenEnv "operator" (List.replicate 12 1)
        "2026-01-01T00:00:00.000Z" emptyImage = .ok store ∧
      run (restrict (Trail.patch tokenEnv) fun _ call => storedAsSubmitted call = true)
        (.start store) [submitToken 1 "env:OPERATOR", submitToken 2 "env:OPERATOR"] = some final ∧
      Chained final.store.db.audit := by
  obtain ⟨store, started⟩ := initializeStore_empty tokenEnv "operator" (List.replicate 12 1)
    "2026-01-01T00:00:00.000Z"
  obtain ⟨second, hsecond⟩ :=
    (Trail.start store).patch_total tokenEnv (submitToken 1 "env:OPERATOR")
  obtain ⟨final, hfinal⟩ := second.patch_total tokenEnv (submitToken 2 "env:OPERATOR")
  have allowed : ∀ revision, storedAsSubmitted (submitToken revision "env:OPERATOR") = true := by
    intro revision
    show storedAsSubmitted (submitToken 0 "env:OPERATOR") = true
    decide
  have taken : run (restrict (Trail.patch tokenEnv) fun _ call => storedAsSubmitted call = true)
      (.start store) [submitToken 1 "env:OPERATOR", submitToken 2 "env:OPERATOR"] =
        some final := by
    simp [run, restrict, allowed, hsecond, hfinal]
  exact ⟨store, final, started, taken,
    (audit_chain_of_stored_as_submitted tokenEnv started rfl taken).1⟩

theorem findDef_operator : findDef authOperatorTokenHash = some operatorDef := by
  decide

theorem submitToken_parsed (text : String) :
    parseEntry (authOperatorTokenHash, .string text) = .ok (operatorDef, .str text) :=
  parseEntry_ok.mpr ⟨findDef_operator, rfl, rfl⟩

theorem submitToken_acceptable {snapshot : Snapshot} (loaded : load env db = .ok snapshot)
    (text : String) : Acceptable env (submitToken db.revision text) db := by
  refine acceptable_of_loaded loaded rfl ?_ ?_
  · intro entry hentry
    obtain rfl : entry = (authOperatorTokenHash, .string text) := by
      simpa [submitToken] using hentry
    exact ⟨_, submitToken_parsed text⟩
  · intro entry hentry
    obtain rfl : entry = (authOperatorTokenHash, .string text) := by
      simpa [submitToken] using hentry
    show authOperatorTokenHash ∉ Combination.keys
    decide

theorem applied_submitToken (env : Env) (db : Database) (text : String) :
    applied authOperatorTokenHash (patched env (submitToken db.revision text) db).1.audit =
      applied authOperatorTokenHash db.audit ++
        [entryRow env (submitToken db.revision text) db operatorDef
          (authOperatorTokenHash, .string text) (.str text)] := by
  rw [patched_audit, applied_append, applied_staged]
  simp [submitToken, Library.lookup_cons, stagedItem, submitToken_parsed, Except.toOption, entryRow]

theorem Trail.patch_submitToken (trail : Trail) (wf : WellFormed trail.store.db)
    {snapshot : Snapshot} (loaded : load env trail.store.db = .ok snapshot) (text : String) :
    ∃ after, trail.patch env (submitToken trail.store.db.revision text) = some after ∧
      after.store.db = (patched env (submitToken trail.store.db.revision text) trail.store.db).1 ∧
      load env after.store.db = .ok after.store.tx := by
  have acceptable := submitToken_acceptable loaded text
  rcases patch_cases env (submitToken trail.store.db.revision text) trail.store
    (by simp [submitToken]) (wf.patchable _) with
    ⟨-, after, hload, hpatch⟩ | ⟨refused, -, -⟩
  · obtain ⟨result, hresult⟩ :=
      trail.patch_total env (submitToken trail.store.db.revision text)
    refine ⟨result, hresult, ?_⟩
    simp only [Trail.patch, hpatch, Option.some.injEq] at hresult
    subst hresult
    exact ⟨rfl, hload⟩
  · exact absurd acceptable refused

theorem storedValues_submitToken (wf : WellFormed db) (text : String) :
    storedValues (patched env (submitToken db.revision text) db).1.settings
      authOperatorTokenHash =
        some (storedValue env (List.replicate 12 2) operatorDef (.str text)) := by
  have hentry : (authOperatorTokenHash, Json.string text) ∈
      (submitToken db.revision text).updates.entries := mem_singleton.mpr rfl
  rw [storedValues_patched (wf.patchable _), written_of_parsed hentry (submitToken_parsed text)]
  rfl

/-- The same plaintext token submitted twice: the second entry's old hash is
that of the sealed text, not the first entry's new hash, and the entry says that
the value changed. -/
theorem audit_chain_breaks :
    ∃ store final, initializeStore tokenEnv "operator" (List.replicate 12 1)
        "2026-01-01T00:00:00.000Z" emptyImage = .ok store ∧
      run (Trail.patch tokenEnv) (.start store) [submitToken 1 tokenText, submitToken 2 tokenText] =
        some final ∧
      final.store.db.revision = 3 ∧ ¬ Chained final.store.db.audit ∧
      (applied authOperatorTokenHash final.store.db.audit).getLast?.map AuditRow.detail =
        some "value changed" := by
  obtain ⟨store, started⟩ := initializeStore_empty tokenEnv "operator" (List.replicate 12 1)
    "2026-01-01T00:00:00.000Z"
  have wf := initializeStore_wellFormed started
  obtain ⟨hdb, hload⟩ := initializeStore_ok started
  have hrevision : store.db.revision = 1 := by
    rw [hdb, seed, seedOperatorToken]
    split <;> rfl
  have haudit : store.db.audit = [] := by
    rw [hdb, seed_audit]
    rfl
  obtain ⟨second, hsecond, hmiddle, hloaded⟩ :=
    Trail.patch_submitToken (.start store) wf hload tokenText
  have wf' : WellFormed second.store.db := hmiddle ▸ wellFormed_patched wf
  have hrevision' : second.store.db.revision = 2 := by
    rw [hmiddle]
    exact congrArg (· + 1) hrevision
  obtain ⟨final, hfinal, hlast, -⟩ := Trail.patch_submitToken second wf' hloaded tokenText
  have hstored : storedValues second.store.db.settings authOperatorTokenHash =
      some (storedValue tokenEnv (List.replicate 12 2) operatorDef (.str tokenText)) := by
    rw [hmiddle]
    exact storedValues_submitToken wf tokenText
  have happlied : applied authOperatorTokenHash final.store.db.audit =
      [entryRow tokenEnv (submitToken store.db.revision tokenText) store.db operatorDef
          (authOperatorTokenHash, .string tokenText) (.str tokenText),
        entryRow tokenEnv (submitToken second.store.db.revision tokenText) second.store.db
          operatorDef (authOperatorTokenHash, .string tokenText) (.str tokenText)] := by
    rw [hlast, applied_submitToken, hmiddle, applied_submitToken]
    simp [Trail.start, haudit, applied]
  have hold := entryRow_oldValueHash tokenEnv (submitToken second.store.db.revision tokenText) wf'
    (findDef_mem findDef_operator) (authOperatorTokenHash, .string tokenText)
    (.str tokenText)
  rw [show operatorDef.name = authOperatorTokenHash from rfl, hstored] at hold
  have hdiffers : hashFor tokenEnv operatorDef
      (storedValue tokenEnv (List.replicate 12 2) operatorDef (.str tokenText)) ≠
        hashFor tokenEnv operatorDef (.str tokenText) := by
    decide
  refine ⟨store, final, started, ?_, ?_, ?_, ?_⟩
  · rw [← hrevision, ← hrevision']
    exact run_cons_eq_some.mpr ⟨second, hsecond, run_cons_eq_some.mpr ⟨final, hfinal, rfl⟩⟩
  · rw [hlast]
    exact congrArg (· + 1) hrevision'
  · intro chained
    have hchain := chained authOperatorTokenHash
    rw [happlied, isChain_cons_cons] at hchain
    have hlink := hchain.1
    rw [hold] at hlink
    exact hdiffers (Option.some.inj hlink)
  · have hdetail : (entryRow tokenEnv (submitToken second.store.db.revision tokenText)
        second.store.db operatorDef (authOperatorTokenHash, .string tokenText)
        (.str tokenText)).detail = "value changed" :=
      if_neg fun hsame => hdiffers (Option.some.inj (hold.symm.trans hsame))
    rw [happlied]
    exact congrArg some hdetail

end Hypeterm.Settings
