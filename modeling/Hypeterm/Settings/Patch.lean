import Hypeterm.Settings.Store

/-! Patching is all or nothing. -/
namespace Hypeterm.Settings

open Library List Option Staging Database Combination

variable {env : Env}

def rowValue (row : SettingRow) : Option Value :=
  (findDef row.name).bind fun definition =>
    match row.valueJson with
    | .ok json => (Value.fromJson definition json).toOption
    | .error _ => none

def Parses (row : SettingRow) : Prop := (findDef row.name).isSome → (rowValue row).isSome

def storedValues (rows : List SettingRow) : Values := fun name =>
  (lookup SettingRow.name name rows).bind rowValue

variable {row : SettingRow} {rows : List SettingRow} {entry : String × Json}
  {definition : SettingDef} {value parsed : Value} {snapshot : Snapshot}

theorem readRow_of_parses (parses : Parses row) (out : Values) : readRow out row =
      .ok fun name => if row.name = name then (rowValue row).or (out name) else out name := by
  unfold Parses rowValue at parses
  unfold readRow rowValue
  cases hdef : findDef row.name with
  | none => simp
  | some definition =>
    rw [hdef] at parses
    have parses := parses rfl
    cases hjson : row.valueJson with
    | error e => simp [hjson] at parses
    | ok json =>
      cases hvalue : Value.fromJson definition json with
      | error e => simp [hjson, hvalue, Except.toOption] at parses
      | ok value =>
        simp only [hvalue, bind_some, Except.toOption, some_or, Values.insert, Except.ok.injEq]
        funext name
        by_cases h : row.name = name
        · simp [h]
        · simp [h, Function.update_of_ne (Ne.symm h)]

theorem parses_of_readRow {out after : Values}
    (read : readRow out row = .ok after) : Parses row := by
  intro declared
  obtain ⟨definition, hdef⟩ := isSome_iff_exists.mp declared
  unfold rowValue
  simp only [readRow, hdef] at read
  split at read
  · cases read
  · rename_i json hjson
    split at read
    · cases read
    · rename_i value hvalue
      simp [hdef, hjson, hvalue, Except.toOption]

theorem storedValues_cons (row : SettingRow) (rows : List SettingRow) (name : String) :
    storedValues (row :: rows) name =
      if row.name = name then rowValue row else storedValues rows name := by
  unfold storedValues
  rw [Library.lookup_cons]
  split <;> simp

theorem foldlM_readRow (unique : (rows.map SettingRow.name).Nodup)
    (parses : ∀ row ∈ rows, Parses row) (out : Values) :
    rows.foldlM readRow out = .ok fun name => (storedValues rows name).or (out name) := by
  induction rows generalizing out with
  | nil => simp [storedValues, pure, Except.pure]
  | cons row rest ih =>
    obtain ⟨fresh, unique⟩ := nodup_cons.mp unique
    have hrow := readRow_of_parses (parses row (by simp)) out
    rw [foldlM_cons, hrow]
    show rest.foldlM readRow _ = _
    rw [ih unique (fun later hlater => parses later (by simp [hlater]))]
    congr 1
    funext name
    rw [storedValues_cons]
    by_cases h : row.name = name
    · have absent : storedValues rest name = none := by
        simp [storedValues, lookup_of_not_mem (h ▸ fresh)]
      simp [h, absent]
    · simp [h]

theorem readRows_eq (unique : (rows.map SettingRow.name).Nodup)
    (parses : ∀ row ∈ rows, Parses row) : readRows rows = .ok (storedValues rows) := by
  rw [readRows, foldlM_readRow unique parses]
  simp [emptyValues]

theorem parses_of_foldlM {out stored : Values}
    (read : rows.foldlM readRow out = .ok stored) : ∀ row ∈ rows, Parses row := by
  induction rows generalizing out with
  | nil => simp
  | cons row rest ih =>
    rw [foldlM_cons] at read
    cases hrow : readRow out row with
    | error e => rw [hrow] at read; cases read
    | ok after =>
      rw [hrow] at read
      have hrest := ih read
      intro later hlater
      rcases mem_cons.mp hlater with rfl | hlater
      · exact parses_of_readRow hrow
      · exact hrest later hlater

theorem parseEntry_ok : parseEntry entry = .ok (definition, value) ↔
      findDef entry.1 = some definition ∧ Value.fromJson definition entry.2 = .ok value ∧
        validateValue definition value = .ok () := by
  unfold parseEntry
  split
  · simp [*]
  · rename_i found hfound
    split
    · simp only [reduceCtorEq, hfound, Option.some.injEq, false_iff]
      rintro ⟨rfl, hvalue, -⟩
      simp_all
    · rename_i parsed hparsed
      split
      · simp only [reduceCtorEq, hfound, Option.some.injEq, false_iff]
        rintro ⟨rfl, hvalue, hvalid⟩
        simp_all
      · simp only [hfound, Option.some.injEq, Except.ok.injEq, Prod.mk.injEq]
        constructor
        · rintro ⟨rfl, rfl⟩
          exact ⟨rfl, hparsed, by assumption⟩
        · rintro ⟨rfl, hvalue, -⟩
          simp_all

theorem parseEntry_name
    (parsed : parseEntry entry = .ok (definition, value)) : definition.name = entry.1 :=
  findDef_name (parseEntry_ok.mp parsed).1

def stagedItem (env : Env) (nonces : String → Bytes) (effective : Values)
    (entry : String × Json) : Option Staged :=
  (parseEntry entry).toOption.map fun (definition, parsed) =>
    ⟨definition, storedValue env (nonces entry.1) definition parsed, effective definition.name,
      hashFor env definition parsed⟩

def submitted (entries : List (String × Json)) (name : String) : Option Value :=
  ((lookup Prod.fst name entries).bind fun entry => (parseEntry entry).toOption).map Prod.snd

theorem submitted_cons (entry : String × Json) (entries : List (String × Json)) (name : String) :
    submitted (entry :: entries) name =
      if entry.1 = name then (parseEntry entry).toOption.map Prod.snd
      else submitted entries name := by
  unfold submitted
  rw [Library.lookup_cons]
  split <;> simp

variable {nonces : String → Bytes} {entries : List (String × Json)}

theorem stage_errors (staging : Staging) (entry : String × Json) :
    (stage env nonces staging entry).errors = [] ↔
      staging.errors = [] ∧ ∃ item, parseEntry entry = .ok item := by
  unfold stage
  cases h : parseEntry entry with
  | error e => simp [refuse]
  | ok item => simp [accept]

theorem foldl_stage_errors (staging : Staging) :
    (entries.foldl (stage env nonces) staging).errors = [] ↔
      staging.errors = [] ∧ ∀ entry ∈ entries, ∃ item, parseEntry entry = .ok item := by
  induction entries generalizing staging with
  | nil => simp
  | cons entry rest ih => simp [ih, stage_errors, and_assoc]

theorem foldl_stage_staged (distinct : (entries.map Prod.fst).Nodup) (staging : Staging) :
    (entries.foldl (stage env nonces) staging).staged =
      staging.staged ++ entries.filterMap (stagedItem env nonces staging.effective) := by
  induction entries generalizing staging with
  | nil => simp
  | cons entry rest ih =>
    obtain ⟨fresh, distinct⟩ := nodup_cons.mp distinct
    rw [foldl_cons, ih distinct]
    cases h : parseEntry entry with
    | error e => simp [stage, h, stagedItem, Except.toOption, refuse]
    | ok item =>
      obtain ⟨definition, parsed⟩ := item
      have hrest : rest.filterMap (stagedItem env nonces
          (staging.effective.insert definition.name parsed)) =
          rest.filterMap (stagedItem env nonces staging.effective) := by
        apply filterMap_congr
        intro later hlater
        have other : later.1 ≠ definition.name := by
          rw [parseEntry_name h]
          exact fun heq => fresh (heq ▸ List.mem_map_of_mem hlater)
        unfold stagedItem
        cases hlater : parseEntry later with
        | error e => rfl
        | ok item =>
          obtain ⟨later', parsed'⟩ := item
          have hname := parseEntry_name hlater
          simp [Except.toOption, Values.insert, Function.update_of_ne (hname ▸ other)]
      simp only [stage, h, accept, hrest, filterMap_cons, stagedItem, Except.toOption,
        map_some, append_assoc, singleton_append]

theorem foldl_stage_effective (distinct : (entries.map Prod.fst).Nodup) (staging : Staging)
    (name : String) :
    (entries.foldl (stage env nonces) staging).effective name =
      (submitted entries name).or (staging.effective name) := by
  induction entries generalizing staging with
  | nil => simp [submitted]
  | cons entry rest ih =>
    obtain ⟨fresh, distinct⟩ := nodup_cons.mp distinct
    rw [foldl_cons, ih distinct, submitted_cons]
    have absent : entry.1 = name → submitted rest name = none := by
      rintro rfl
      simp [submitted, lookup_of_not_mem fresh]
    cases h : parseEntry entry with
    | error e =>
      by_cases hname : entry.1 = name
      · simp [stage, h, refuse, hname, absent hname, Except.toOption]
      · simp [stage, h, refuse, hname]
    | ok item =>
      obtain ⟨definition, parsed⟩ := item
      have hdefinition := parseEntry_name h
      by_cases hname : entry.1 = name
      · simp [stage, h, accept, Values.insert, hdefinition, hname, absent hname,
          Except.toOption]
      · simp [stage, h, accept, Values.insert, hdefinition, hname,
          Function.update_of_ne (Ne.symm hname)]

theorem foldl_applyStaged_audit (call : PatchCall) (revision : Int) (staged : List Staged)
    (applied : Database × List String) :
    (staged.foldl (applyStaged env call revision) applied).1.audit =
      applied.1.audit ++ staged.map (appliedRow env call revision) := by
  induction staged generalizing applied with
  | nil => simp
  | cons item rest ih =>
    simp [ih, applyStaged, insertAudit, updateSetting]

theorem foldl_applyStaged_lookup (call : PatchCall) (revision : Int) {staged : List Staged}
    (distinct : (staged.map (·.definition.name)).Nodup) (applied : Database × List String)
    (name : String) :
    lookup SettingRow.name name (staged.foldl (applyStaged env call revision) applied).1.settings =
      match lookup (fun item => item.definition.name) name staged with
      | some item =>
          (lookup SettingRow.name name applied.1.settings).map
            (setValue item.storedValue call.timestamp)
      | none => lookup SettingRow.name name applied.1.settings := by
  induction staged generalizing applied with
  | nil => simp
  | cons item rest ih =>
    obtain ⟨fresh, distinct⟩ := nodup_cons.mp distinct
    have keeps : ∀ row, (setValue item.storedValue call.timestamp row).name = row.name :=
      fun _ => rfl
    rw [foldl_cons, ih distinct, Library.lookup_cons]
    by_cases hname : item.definition.name = name
    · subst hname
      simp only [lookup_of_not_mem fresh, applyStaged, insertAudit,
        updateSetting, lookup_update_same SettingRow.name _ _ keeps, ↓reduceIte]
    · simp only [if_neg hname, applyStaged, insertAudit, updateSetting,
        lookup_update_other SettingRow.name _ keeps _ (Ne.symm hname)]

theorem Updates.distinct (updates : Updates) : (updates.entries.map Prod.fst).Nodup := by
  rw [Nodup, pairwise_map]
  refine updates.sorted.imp ?_
  intro entry later hlt heq
  rw [heq] at hlt
  exact String.lt_irrefl _ hlt

/-- The values the combination check sees: the stored ones with the submitted
ones over them. -/
def merged (rows : List SettingRow) (entries : List (String × Json)) : Values := fun name =>
  (submitted entries name).or (resolve (storedValues rows) name)

structure Acceptable (env : Env) (call : PatchCall) (db : Database) : Prop where
  revision : db.revision = call.expectedRevision
  named : ∀ entry ∈ call.updates.entries, ∃ definition value,
    findDef entry.1 = some definition ∧ Value.fromJson definition entry.2 = .ok value ∧
      validateValue definition value = .ok ()
  combination :
    validateCombination env.metadata (merged db.settings call.updates.entries) = .ok ()

def stagedOf (env : Env) (call : PatchCall) (db : Database) : List Staged :=
  call.updates.entries.filterMap
    (stagedItem env call.nonces (resolve (storedValues db.settings)))

def patched (env : Env) (call : PatchCall) (db : Database) : Database × List String :=
  commitStaged env call db (stagedOf env call db)

variable {call : PatchCall} {db : Database}

theorem stageAll_errors (effective : Values) : (stageAll env call effective).errors = [] ↔
      ∀ entry ∈ call.updates.entries, ∃ item, parseEntry entry = .ok item := by
  simp [stageAll, foldl_stage_errors]

theorem validateCombination_error {metadata : String → Bool} {values : Values}
    {errors : List String} (refused : validateCombination metadata values = .error errors) :
    errors ≠ [] := by
  simp only [validateCombination] at refused
  split at refused
  · cases refused
  · rename_i nonempty
    rw [← Except.error.inj refused]
    exact fun hnil => nonempty (List.isEmpty_iff.mpr hnil)

theorem patchTxn_eq (parses : ∀ row ∈ db.settings, Parses row) :
    (Acceptable env call db ∧ patchTxn env call db = .ok (patched env call db)) ∨
      (¬ Acceptable env call db ∧ ∃ err, patchTxn env call db = .error err) := by
  have hread := readRows_eq db.names parses
  have hstaged : (stageAll env call (resolve (storedValues db.settings))).staged =
      stagedOf env call db := by
    simp [stageAll, stagedOf, foldl_stage_staged call.updates.distinct]
  have hmerged : (stageAll env call (resolve (storedValues db.settings))).effective =
      merged db.settings call.updates.entries := by
    funext name
    simp [stageAll, merged, foldl_stage_effective call.updates.distinct]
  by_cases hrevision : db.revision = call.expectedRevision
  · simp only [patchTxn, stagingErrors, hrevision, ne_eq, not_true_eq_false, ↓reduceIte, hread,
      hmerged, hstaged]
    by_cases hnamed : ∀ entry ∈ call.updates.entries, ∃ item, parseEntry entry = .ok item
    · rw [(stageAll_errors _).mpr hnamed]
      cases hcombination :
          validateCombination env.metadata (merged db.settings call.updates.entries) with
      | ok _ =>
        refine .inl ⟨⟨hrevision, fun entry hentry => ?_, hcombination⟩, ?_⟩
        · obtain ⟨⟨definition, value⟩, hparsed⟩ := hnamed entry hentry
          exact ⟨definition, value, parseEntry_ok.mp hparsed⟩
        · simp [patched]
      | error errors =>
        refine .inr ⟨fun acceptable => ?_, ?_⟩
        · simp [acceptable.combination] at hcombination
        · simp [validateCombination_error hcombination]
    · have hrefused : (stageAll env call (resolve (storedValues db.settings))).errors ≠ [] :=
        mt (stageAll_errors _).mp hnamed
      refine .inr ⟨fun acceptable => hnamed fun entry hentry => ?_, ?_⟩
      · obtain ⟨definition, value, hentry⟩ := acceptable.named entry hentry
        exact ⟨_, parseEntry_ok.mpr hentry⟩
      · simp [hrefused]
  · exact .inr ⟨fun acceptable => hrevision acceptable.revision, by simp [patchTxn, hrevision]⟩

def written (env : Env) (call : PatchCall) (name : String) : Option Value :=
  (lookup Prod.fst name call.updates.entries).bind fun entry =>
    (parseEntry entry).toOption.map fun (definition, parsed) =>
      storedValue env (call.nonces entry.1) definition parsed

/-- A stored state an update set can be applied to: what it does not name is
valid and what it names has a row. -/
structure Patchable (db : Database) (updates : Updates) : Prop where
  parses : ∀ row ∈ db.settings, Parses row
  rows : ∀ entry ∈ updates.entries, (findDef entry.1).isSome →
    (lookup SettingRow.name entry.1 db.settings).isSome
  valid : ∀ definition ∈ defs, definition.name ∉ updates.entries.map Prod.fst →
    ∀ value, storedValues db.settings definition.name = some value →
      validateValue definition value = .ok ()

theorem storedValue_valid {nonce : Bytes}
    (declared : definition ∈ defs) (valid : validateValue definition parsed = .ok ()) :
    validateValue definition (storedValue env nonce definition parsed) = .ok () := by
  unfold storedValue
  split
  · rename_i hsecret
    have hkind := (defs_secret definition declared).mp hsecret
    cases parsed with
    | str text =>
      show validateValue definition (if isStoredForm text then _ else _) = _
      split <;> simp [validateValue, hkind]
    | _ => exact valid
  · exact valid

theorem storedValue_of_not_secret {nonce : Bytes}
    (plain : definition.secret = false) : storedValue env nonce definition parsed = parsed := by
  simp [storedValue, plain]

theorem stagedItem_keeps {effective : Values} (entry : String × Json) (item : Staged)
    (staged : stagedItem env nonces effective entry = some item) :
    item.definition.name = entry.1 := by
  unfold stagedItem at staged
  cases h : parseEntry entry with
  | error e => simp [h, Except.toOption] at staged
  | ok parsed =>
    simp only [h, Except.toOption, map_some, Option.some.injEq] at staged
    rw [← staged]
    exact parseEntry_name h

theorem lookup_patched (name : String) :
    lookup SettingRow.name name (patched env call db).1.settings =
      match written env call name with
      | some value =>
          (lookup SettingRow.name name db.settings).map (setValue value call.timestamp)
      | none => lookup SettingRow.name name db.settings := by
  simp only [patched, commitStaged, stagedOf]
  rw [foldl_applyStaged_lookup _ _ (nodup_filterMap stagedItem_keeps call.updates.distinct),
    lookup_filterMap stagedItem_keeps call.updates.distinct]
  simp only [written]
  cases lookup Prod.fst name call.updates.entries with
  | none => rfl
  | some entry =>
    simp only [bind_some, stagedItem]
    cases parseEntry entry <;> rfl

theorem written_some {name : String} (hwritten : written env call name = some value) :
    ∃ entry ∈ call.updates.entries, entry.1 = name ∧ ∃ definition parsed,
      parseEntry entry = .ok (definition, parsed) ∧
        value = storedValue env (call.nonces entry.1) definition parsed := by
  obtain ⟨entry, hentry, hwritten⟩ := bind_eq_some_iff.mp hwritten
  refine ⟨entry, mem_of_lookup hentry, key_of_lookup hentry, ?_⟩
  cases h : parseEntry entry with
  | error e => simp [h, Except.toOption] at hwritten
  | ok item =>
    simp only [h, Except.toOption, map_some, Option.some.injEq] at hwritten
    exact ⟨item.1, item.2, rfl, hwritten.symm⟩

theorem rowValue_setValue {timestamp : String} (found : findDef row.name = some definition)
    (valid : validateValue definition value = .ok ()) :
    rowValue (setValue value timestamp row) = some value := by
  simp [rowValue, setValue, found, Value.fromJson_toJson valid, Except.toOption]

theorem storedValues_patched (patchable : Patchable db call.updates) (name : String) :
    storedValues (patched env call db).1.settings name =
      (written env call name).or (storedValues db.settings name) := by
  unfold storedValues
  rw [lookup_patched]
  cases hwritten : written env call name with
  | none => rfl
  | some value =>
    obtain ⟨entry, hentry, rfl, definition, parsed, hparsed, rfl⟩ := written_some hwritten
    obtain ⟨hfound, -, hvalid⟩ := parseEntry_ok.mp hparsed
    obtain ⟨row, hrow⟩ := isSome_iff_exists.mp
      (patchable.rows entry hentry (by simp [hfound]))
    have hname := key_of_lookup hrow
    simp only [hrow, map_some, bind_some, some_or]
    exact rowValue_setValue (hname ▸ hfound) (storedValue_valid (findDef_mem hfound) hvalid)

theorem parses_patched (patchable : Patchable db call.updates) :
    ∀ row ∈ (patched env call db).1.settings, Parses row := by
  intro row hrow declared
  have hlookup := lookup_of_mem (patched env call db).1.names hrow
  rw [lookup_patched] at hlookup
  cases hwritten : written env call row.name with
  | none =>
    rw [hwritten] at hlookup
    exact patchable.parses row (mem_of_lookup hlookup) declared
  | some value =>
    rw [hwritten] at hlookup
    obtain ⟨before, hbefore, rfl⟩ := map_eq_some_iff.mp hlookup
    obtain ⟨entry, hentry, hname, definition, parsed, hparsed, rfl⟩ := written_some hwritten
    obtain ⟨hfound, -, hvalid⟩ := parseEntry_ok.mp hparsed
    rw [rowValue_setValue (hname ▸ hfound) (storedValue_valid (findDef_mem hfound) hvalid)]
    rfl

theorem submitted_eq {name : String}
    (hentry : lookup Prod.fst name call.updates.entries = some entry)
    (hparsed : parseEntry entry = .ok (definition, parsed)) :
    submitted call.updates.entries name = some parsed := by
  simp [submitted, hentry, hparsed, Except.toOption]

theorem validateCombination_patched (patchable : Patchable db call.updates) :
    validateCombination env.metadata (resolve (storedValues (patched env call db).1.settings)) =
      validateCombination env.metadata (merged db.settings call.updates.entries) := by
  apply validateCombination_congr
  intro name hname
  simp only [resolve, merged, storedValues_patched patchable]
  cases hwritten : written env call name with
  | none =>
    have hsubmitted : submitted call.updates.entries name = none := by
      unfold written at hwritten
      unfold submitted
      cases hentry : lookup Prod.fst name call.updates.entries with
      | none => rfl
      | some entry => cases hparsed : parseEntry entry <;> simp_all [Except.toOption]
    simp [hsubmitted]
  | some value =>
    obtain ⟨entry, hentry, rfl, definition, parsed, hparsed, rfl⟩ := written_some hwritten
    obtain ⟨hfound, -, -⟩ := parseEntry_ok.mp hparsed
    have plain := keys_not_secret entry.1 hname definition (findDef_mem hfound)
      (findDef_name hfound)
    have hlookup := lookup_of_mem call.updates.distinct hentry
    simp [submitted_eq hlookup hparsed, hfound, storedValue_of_not_secret plain]

theorem firstInvalid_patched (patchable : Patchable db call.updates)
    (named : ∀ entry ∈ call.updates.entries, ∃ item, parseEntry entry = .ok item) :
    firstInvalid (resolve (storedValues (patched env call db).1.settings)) = none := by
  rw [firstInvalid, findSome?_eq_none_iff]
  intro definition declared
  have hfound := findDef_of_mem declared
  suffices validateValue definition
      (((written env call definition.name).or (storedValues db.settings definition.name)).getD
        definition.defaultValue) = .ok () by
    simp only [resolve, hfound, storedValues_patched patchable, map_some, getD_some, this]
  cases hwritten : written env call definition.name with
  | some value =>
    obtain ⟨entry, hentry, hname, found, parsed, hparsed, rfl⟩ := written_some hwritten
    obtain ⟨hfound', -, hvalid⟩ := parseEntry_ok.mp hparsed
    rw [hname, hfound] at hfound'
    cases hfound'
    exact storedValue_valid declared hvalid
  | none =>
    have unnamed : definition.name ∉ call.updates.entries.map Prod.fst := by
      intro hmem
      obtain ⟨entry, hentry, hname⟩ := List.mem_map.mp hmem
      obtain ⟨item, hparsed⟩ := named entry hentry
      have hlookup := lookup_of_mem call.updates.distinct hentry
      rw [hname] at hlookup
      simp [written, hlookup, hparsed, Except.toOption] at hwritten
    cases hstored : storedValues db.settings definition.name with
    | none => exact defs_default_valid definition declared
    | some value => exact patchable.valid definition declared unnamed value hstored

theorem load_patched (patchable : Patchable db call.updates) (acceptable : Acceptable env call db) :
    load env (patched env call db).1 =
      .ok ⟨db.revision + 1, resolve (storedValues (patched env call db).1.settings)⟩ := by
  have named : ∀ entry ∈ call.updates.entries, ∃ item, parseEntry entry = .ok item := by
    intro entry hentry
    obtain ⟨definition, value, hparsed⟩ := acceptable.named entry hentry
    exact ⟨_, parseEntry_ok.mpr hparsed⟩
  have hread := readRows_eq (patched env call db).1.names (parses_patched patchable)
  refine (loadRows_ok env).mpr ⟨_, hread, (validateLoaded_ok env).mpr ⟨?_, ?_⟩, rfl⟩
  · exact firstInvalid_patched patchable named
  · rw [validateCombination_patched patchable, acceptable.combination]

section

variable (loaded : load env db = .ok snapshot)
include loaded

theorem load_parses : ∀ row ∈ db.settings, Parses row := by
  obtain ⟨stored, hread, -, -⟩ := (loadRows_ok env).mp loaded
  exact parses_of_foldlM hread

theorem load_valid (declared : definition ∈ defs)
    (stored : storedValues db.settings definition.name = some value) :
    validateValue definition value = .ok () := by
  have hrows := readRows_eq db.names (load_parses loaded)
  obtain ⟨values, hread, hvalid, -⟩ := (loadRows_ok env).mp loaded
  rw [hrows] at hread
  cases hread
  have hfirst := ((validateLoaded_ok env).mp hvalid).1
  rw [firstInvalid, findSome?_eq_none_iff] at hfirst
  have hdefinition := hfirst definition declared
  simp only [resolve, findDef_of_mem declared, stored, map_some, getD_some]
    at hdefinition
  split at hdefinition
  · cases hdefinition
  · assumption

theorem load_ok : snapshot = ⟨db.revision, resolve (storedValues db.settings)⟩ ∧
      validateCombination env.metadata (resolve (storedValues db.settings)) = .ok () := by
  have hrows := readRows_eq db.names (load_parses loaded)
  obtain ⟨values, hread, hvalid, hsnapshot⟩ := (loadRows_ok env).mp loaded
  rw [hrows] at hread
  cases hread
  exact ⟨hsnapshot, ((validateLoaded_ok env).mp hvalid).2⟩

theorem acceptable_of_loaded (revision : db.revision = call.expectedRevision)
    (named : ∀ entry ∈ call.updates.entries, ∃ item, parseEntry entry = .ok item)
    (unread : ∀ entry ∈ call.updates.entries, entry.1 ∉ Combination.keys) :
    Acceptable env call db := by
  refine ⟨revision, ?_, ?_⟩
  · intro entry hentry
    obtain ⟨item, hparsed⟩ := named entry hentry
    exact ⟨_, _, parseEntry_ok.mp hparsed⟩
  · rw [← (load_ok loaded).2]
    apply validateCombination_congr
    intro name hname
    have hnone : lookup Prod.fst name call.updates.entries = none :=
      lookup_eq_none.mpr fun entry hentry heq => unread entry hentry (heq ▸ hname)
    simp [merged, submitted, hnone]

end

/-- What a caller is promised: the call succeeds exactly when it is acceptable,
a success changes the named rows and the revision and loads, a failure changes
neither the rows nor the revision nor the published snapshot. -/
structure AllOrNothing (env : Env) (call : PatchCall) (store : Store) : Prop where
  ok_iff : (∃ outcome, (patch env call store).1 = .ok outcome) ↔ Acceptable env call store.db
  names : ((patch env call store).2.db.settings.map SettingRow.name) =
    store.db.settings.map SettingRow.name
  on_ok : ∀ outcome, (patch env call store).1 = .ok outcome →
    let after := (patch env call store).2
    after.db.revision = store.db.revision + 1 ∧
    (∀ name, name ∉ call.updates.entries.map Prod.fst →
      lookup SettingRow.name name after.db.settings =
        lookup SettingRow.name name store.db.settings) ∧
    (∀ entry ∈ call.updates.entries, ∃ definition parsed row,
      parseEntry entry = .ok (definition, parsed) ∧
      lookup SettingRow.name entry.1 store.db.settings = some row ∧
      lookup SettingRow.name entry.1 after.db.settings = some (setValue
        (storedValue env (call.nonces entry.1) definition parsed) call.timestamp row)) ∧
    load env after.db = .ok outcome.snapshot ∧ after.tx = outcome.snapshot
  on_err : ∀ err, (patch env call store).1 = .error err →
    let after := (patch env call store).2
    after.db.settings = store.db.settings ∧ after.db.revision = store.db.revision ∧
      after.tx = store.tx

theorem foldl_insertAudit (rows : List AuditRow) (db : Database) :
    (rows.foldl insertAudit db).settings = db.settings ∧
      (rows.foldl insertAudit db).revision = db.revision := by
  induction rows generalizing db with
  | nil => exact ⟨rfl, rfl⟩
  | cons row rest ih => exact ih (db.insertAudit row)

theorem recordRejection_keeps (call : PatchCall) (detail : String) (db : Database) :
    (recordRejection call detail db).settings = db.settings ∧
      (recordRejection call detail db).revision = db.revision :=
  foldl_insertAudit _ db

theorem patched_names (env : Env) (call : PatchCall) (db : Database) :
    (patched env call db).1.settings.map SettingRow.name = db.settings.map SettingRow.name := by
  have hfold : ∀ (staged : List Staged) (applied : Database × List String),
      (staged.foldl (applyStaged env call (db.revision + 1)) applied).1.settings.map
        SettingRow.name = applied.1.settings.map SettingRow.name := by
    intro staged
    induction staged with
    | nil => exact fun _ => rfl
    | cons item rest ih =>
      intro applied
      rw [foldl_cons, ih]
      exact map_name_update _ _ _ _
  exact hfold _ _

theorem patch_cases (env : Env) (call : PatchCall) (store : Store)
    (nonempty : call.updates.entries ≠ [])
    (patchable : Patchable store.db call.updates) :
    (Acceptable env call store.db ∧ ∃ snapshot,
      load env (patched env call store.db).1 = .ok snapshot ∧
      patch env call store =
        (.ok ⟨snapshot, (patched env call store.db).2⟩, ⟨(patched env call store.db).1, snapshot⟩)) ∨
    (¬ Acceptable env call store.db ∧ ∃ err, patch env call store =
        (.error err, { store with db := recordRejection call err.message store.db })) := by
  have hsome : call.updates.entries.isEmpty = false := by simpa using nonempty
  rcases patchTxn_eq patchable.parses with ⟨acceptable, htxn⟩ | ⟨refused, err, htxn⟩
  · have hload := load_patched patchable acceptable
    exact .inl ⟨acceptable, _, hload, by simp [patch, hsome, htxn, hload]⟩
  · exact .inr ⟨refused, err, by simp [patch, hsome, htxn]⟩

theorem written_of_parsed (hentry : entry ∈ call.updates.entries)
    (hparsed : parseEntry entry = .ok (definition, parsed)) :
    written env call entry.1 =
      some (storedValue env (call.nonces entry.1) definition parsed) := by
  simp [written, lookup_of_mem call.updates.distinct hentry, hparsed, Except.toOption]

theorem AllOrNothing.of_acceptable {store : Store} (patchable : Patchable store.db call.updates)
    (acceptable : Acceptable env call store.db)
    (hload : load env (patched env call store.db).1 = .ok snapshot)
    (hpatch : patch env call store =
      (.ok ⟨snapshot, (patched env call store.db).2⟩, ⟨(patched env call store.db).1, snapshot⟩)) :
    AllOrNothing env call store := by
  refine ⟨?_, ?_, ?_, ?_⟩
  · simp [hpatch, acceptable]
  · simp [hpatch, patched_names]
  · intro outcome houtcome
    simp only [hpatch, Except.ok.injEq] at houtcome ⊢
    subst houtcome
    refine ⟨rfl, ?_, ?_, hload, rfl⟩
    · intro name unnamed
      rw [lookup_patched]
      simp [written, lookup_of_not_mem unnamed]
    · intro entry hentry
      obtain ⟨definition, parsed, hparsed⟩ := acceptable.named entry hentry
      obtain ⟨row, hrow⟩ := isSome_iff_exists.mp
        (patchable.rows entry hentry (by simp [hparsed.1]))
      refine ⟨definition, parsed, row, parseEntry_ok.mpr hparsed, hrow, ?_⟩
      rw [lookup_patched, written_of_parsed hentry (parseEntry_ok.mpr hparsed), hrow]
      rfl
  · simp [hpatch]

theorem AllOrNothing.of_refused {store : Store} (refused : ¬ Acceptable env call store.db)
    {err : ApiError}
    (hpatch : patch env call store =
      (.error err, { store with db := recordRejection call err.message store.db })) :
    AllOrNothing env call store := by
  obtain ⟨hsettings, hrevision⟩ := recordRejection_keeps call err.message store.db
  refine ⟨?_, ?_, ?_, ?_⟩
  · simp [hpatch, refused]
  · simp [hpatch, hsettings]
  · simp [hpatch]
  · intro err' herr
    simp only [hpatch]
    exact ⟨hsettings, hrevision, trivial⟩

/-- Patching is all or nothing on every stored state that an update set can be
applied to. -/
theorem patch_all_or_nothing (env : Env) (call : PatchCall) (store : Store)
    (nonempty : call.updates.entries ≠ []) (patchable : Patchable store.db call.updates) :
    AllOrNothing env call store := by
  rcases patch_cases env call store nonempty patchable with
    ⟨acceptable, snapshot, hload, hpatch⟩ | ⟨refused, err, hpatch⟩
  · exact .of_acceptable patchable acceptable hload hpatch
  · exact .of_refused refused hpatch

def defaults : Values := resolve emptyValues

theorem defaults_combination (metadata : String → Bool) :
    validateCombination metadata defaults = .ok () := by
  have hplain : boolean defaults Keys.serverTlsEnabled = false := by
    decide
  have herrors : ∀ metadata', Combination.errors defaults metadata' =
      Combination.errors defaults fun _ => false := by
    intro metadata'
    simp [Combination.errors, Combination.tls, hplain]
  have hempty : Combination.errors defaults (fun _ => false) = [] := by
    decide
  simp [validateCombination, herrors, hempty]

/-- A box under the zero key and the digests of the values below. -/
def sampleEnv : Env where
  metadata := fun _ => false
  sha256 := fun text =>
    if text = "200" then 0x27badc983df1780b60c2b3fa9d3a19a00e46aac798451f0febdca52920faaddf#256
    else 0x26d228663f13a88592a12d16cf9587caab0388b262d6d9f126ed62f9333aca94#256
  sealText := fun _ _ =>
    "AQEBAQEBAQEBAQEBDq2Vr6t-vp5y783lcymo0F24DCulZl6Dux0BunrKcyY6Rrz61SaPMAwSxJB0AutZntOZ8Ailb6phVG8"
  hashOperatorToken := fun _ => "BuVbYzSB97sHKVfqvPEQyXLoZpHDz-2r4IgCS__kLyM"

def sampleCall (entries : List (String × Json))
    (sorted : entries.Pairwise fun a b => a.1 < b.1) : PatchCall :=
  ⟨"operator", 1, ⟨entries, sorted⟩, "2026-01-01T00:00:00.000Z", fun _ => List.replicate 12 1⟩

def labelBytes : PatchCall :=
  sampleCall [("limits.max_label_bytes", .number (.integer 400))] (by simp)

def sampleStore (settings : List SettingRow)
    (names : (settings.map SettingRow.name).Nodup) : Store :=
  ⟨⟨settings, 1, [], names⟩, ⟨1, defaults⟩⟩

def leveledStore (level : Json) : Store :=
  sampleStore
    [⟨"limits.max_label_bytes", .ok (.number (.integer 200)), "2026-01-01T00:00:00.000Z"⟩,
      ⟨"logging.level", .ok level, "2026-01-01T00:00:00.000Z"⟩]
    (show ["limits.max_label_bytes", "logging.level"].Nodup by decide)

theorem patch_all_or_nothing_labelBytes :
    AllOrNothing sampleEnv labelBytes (leveledStore (.string "info")) := by
  refine patch_all_or_nothing sampleEnv labelBytes _ (by simp [labelBytes, sampleCall])
    ⟨?_, ?_, ?_⟩
  · intro row hrow
    simp only [leveledStore, sampleStore, mem_cons, not_mem_nil, or_false] at hrow
    rcases hrow with rfl | rfl
    · show (findDef _).isSome = true → (rowValue _).isSome = true
      decide
    · show (findDef _).isSome = true → (rowValue _).isSome = true
      decide
  · intro entry hentry _
    simp only [labelBytes, sampleCall, mem_singleton] at hentry
    subst hentry
    rfl
  · have hvalid : ∀ definition ∈ defs,
        ∀ value ∈ storedValues (leveledStore (.string "info")).db.settings definition.name,
          validateValue definition value = .ok () := by
      decide +kernel
    intro definition declared _ value hvalue
    exact hvalid definition declared value hvalue

theorem merged_combination {metadata : String → Bool} {entries : List (String × Json)}
    (hrows : ∀ name ∈ Combination.keys, lookup SettingRow.name name rows = none)
    (hentries : ∀ name ∈ Combination.keys, lookup Prod.fst name entries = none) :
    validateCombination metadata (merged rows entries) = .ok () := by
  rw [← defaults_combination metadata]
  apply validateCombination_congr
  intro name hname
  simp [merged, submitted, defaults, resolve, emptyValues, storedValues, hrows name hname,
    hentries name hname]

theorem labelBytes_acceptable (level : Json) :
    Acceptable sampleEnv labelBytes (leveledStore level).db ∧
      Acceptable sampleEnv labelBytes (sampleStore [] .nil).db := by
  have hnamed : ∀ entry ∈ labelBytes.updates.entries, ∃ definition value,
      findDef entry.1 = some definition ∧ Value.fromJson definition entry.2 = .ok value ∧
        validateValue definition value = .ok () := by
    intro entry hentry
    have hentry : entry = ("limits.max_label_bytes", .number (.integer 400)) := by
      simpa [labelBytes, sampleCall] using hentry
    subst hentry
    exact ⟨.int "limits.max_label_bytes" 200 1 8192, .int 400, by decide, rfl,
      by decide⟩
  have hentries : ∀ name ∈ Combination.keys,
      lookup Prod.fst name labelBytes.updates.entries = none := by
    intro name hname
    refine lookup_of_not_mem fun hmem => ?_
    simp only [labelBytes, sampleCall, map_cons, map_nil, mem_singleton] at hmem
    subst hmem
    exact absurd hname (by decide)
  refine ⟨⟨rfl, hnamed, merged_combination ?_ hentries⟩,
    ⟨rfl, hnamed, merged_combination (fun _ _ => rfl) hentries⟩⟩
  intro name hname
  refine lookup_of_not_mem fun hmem => ?_
  simp only [leveledStore, sampleStore, map_cons, map_nil, mem_cons, not_mem_nil, or_false] at hmem
  rcases hmem with rfl | rfl
  · exact absurd hname (by decide)
  · exact absurd hname (by decide)

theorem level_after_labelBytes {level : Json}
    (promised : AllOrNothing sampleEnv labelBytes (leveledStore level)) :
    ∃ snapshot, load sampleEnv (patch sampleEnv labelBytes (leveledStore level)).2.db = .ok snapshot ∧
      lookup SettingRow.name "logging.level"
        (patch sampleEnv labelBytes (leveledStore level)).2.db.settings =
          some ⟨"logging.level", .ok level, "2026-01-01T00:00:00.000Z"⟩ := by
  obtain ⟨outcome, houtcome⟩ := promised.ok_iff.mpr (labelBytes_acceptable level).1
  obtain ⟨-, hother, -, hload, -⟩ := promised.on_ok outcome houtcome
  have hunnamed : "logging.level" ∉ labelBytes.updates.entries.map Prod.fst := by
    simp [labelBytes, sampleCall]
  exact ⟨outcome.snapshot, hload, hother _ hunnamed⟩

/-- An empty update set is refused; a named setting without a row is answered
with success and changes nothing; a stored value out of its bounds that the set
does not name fails the reload after the commit; one of the wrong type fails an
acceptable call. -/
theorem patch_not_all_or_nothing :
    ¬ AllOrNothing sampleEnv (sampleCall [] .nil) (sampleStore [] .nil) ∧
    ¬ AllOrNothing sampleEnv labelBytes (sampleStore [] .nil) ∧
    ¬ AllOrNothing sampleEnv labelBytes (leveledStore (.string "loud")) ∧
    ¬ AllOrNothing sampleEnv labelBytes (leveledStore (.bool true)) := by
  refine ⟨?_, ?_, ?_, ?_⟩
  · intro promised
    have acceptable : Acceptable sampleEnv (sampleCall [] .nil) (sampleStore [] .nil).db :=
      ⟨rfl, by simp [sampleCall], merged_combination (fun _ _ => rfl) (fun _ _ => rfl)⟩
    obtain ⟨outcome, houtcome⟩ := promised.ok_iff.mpr acceptable
    simp [patch, sampleCall] at houtcome
  · intro promised
    obtain ⟨outcome, houtcome⟩ := promised.ok_iff.mpr (labelBytes_acceptable .null).2
    obtain ⟨-, -, hnamed, -⟩ := promised.on_ok outcome houtcome
    obtain ⟨-, -, row, -, hrow, -⟩ := hnamed _ (mem_singleton.mpr rfl)
    simp [sampleStore] at hrow
  · intro promised
    obtain ⟨snapshot, hload, hrow⟩ := level_after_labelBytes promised
    have hfound : findDef "logging.level" =
        some (.enum "logging.level" "info" ["trace", "debug", "info", "warn", "error"]) := by
      decide
    have hstored : storedValues (patch sampleEnv labelBytes
        (leveledStore (.string "loud"))).2.db.settings "logging.level" = some (.str "loud") := by
      simp [storedValues, hrow, rowValue, hfound, SettingDef.enum, Value.fromJson, Json.asStr,
        Except.toOption]
    have hvalid := load_valid hload (findDef_mem hfound) hstored
    exact absurd hvalid (by decide)
  · intro promised
    obtain ⟨snapshot, hload, hrow⟩ := level_after_labelBytes promised
    have hparses := load_parses hload _ (mem_of_lookup hrow)
    exact absurd hparses (by
      show ¬ ((findDef _).isSome = true → (rowValue _).isSome = true)
      decide)

end Hypeterm.Settings
