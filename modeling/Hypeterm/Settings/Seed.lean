import Hypeterm.Settings.Patch

/-! The states a store reaches: seeding leaves a valid row for every declared
setting, a store over an empty file starts, and no patch ever leaves these
states. -/
namespace Hypeterm.Settings

open Library List Option

variable {env : Env} {call : PatchCall} {db : Database}

/-- Every declared setting has a row with a valid value. -/
def WellFormed (db : Database) : Prop :=
  ∀ definition ∈ defs, ∃ value, storedValues db.settings definition.name = some value ∧
      validateValue definition value = .ok ()

section

variable (wf : WellFormed db)
include wf

theorem WellFormed.parses : ∀ row ∈ db.settings, Parses row := by
  intro row hrow declared
  obtain ⟨definition, hfound⟩ := isSome_iff_exists.mp declared
  obtain ⟨value, hvalue, -⟩ := wf definition (findDef_mem hfound)
  rw [findDef_name hfound, storedValues, lookup_of_mem db.names hrow] at hvalue
  exact isSome_iff_exists.mpr ⟨value, hvalue⟩

theorem WellFormed.patchable (updates : Updates) : Patchable db updates := by
  refine ⟨wf.parses, ?_, ?_⟩
  · intro entry _ declared
    obtain ⟨definition, hfound⟩ := isSome_iff_exists.mp declared
    obtain ⟨value, hvalue, -⟩ := wf definition (findDef_mem hfound)
    rw [findDef_name hfound] at hvalue
    obtain ⟨row, hrow, -⟩ := bind_eq_some_iff.mp hvalue
    simp [hrow]
  · intro definition declared _ value hvalue
    obtain ⟨value', hvalue', hvalid⟩ := wf definition declared
    rw [hvalue] at hvalue'
    cases hvalue'
    exact hvalid

theorem wellFormed_patched : WellFormed (patched env call db).1 := by
  intro definition declared
  rw [storedValues_patched (wf.patchable call.updates)]
  cases hwritten : written env call definition.name with
  | none => exact wf definition declared
  | some value =>
    obtain ⟨entry, -, hname, found, parsed, hparsed, rfl⟩ := written_some hwritten
    obtain ⟨hfound, -, hvalid⟩ := parseEntry_ok.mp hparsed
    rw [hname, findDef_of_mem declared] at hfound
    cases hfound
    exact ⟨_, rfl, storedValue_valid declared hvalid⟩

theorem patchTxn_of_acceptable (acceptable : Acceptable env call db) :
    patchTxn env call db = .ok (patched env call db) := by
  rcases patchTxn_eq wf.parses with ⟨-, htxn⟩ | ⟨refused, -⟩
  · exact htxn
  · exact absurd acceptable refused

theorem WellFormed.of_settings {after : Database}
    (same : after.settings = db.settings) : WellFormed after := by
  intro definition declared
  rw [same]
  exact wf definition declared

end

variable {store : Store} {definition : SettingDef} {token timestamp : String} {nonce : Bytes}
  {image : Image}

theorem patch_wellFormed (env : Env) (call : PatchCall)
    (wf : WellFormed store.db) : WellFormed (patch env call store).2.db := by
  by_cases nonempty : call.updates.entries = []
  · simpa [patch, nonempty] using wf
  · rcases patch_cases env call store nonempty (wf.patchable call.updates) with
      ⟨-, snapshot, -, hpatch⟩ | ⟨-, err, hpatch⟩
    · rw [hpatch]
      exact wellFormed_patched wf
    · rw [hpatch]
      exact wf.of_settings (recordRejection_keeps call err.message store.db).1

theorem seed_rows (env : Env) (token : String) (nonce : Bytes) (timestamp : String)
    (image : Image) (declared : definition ∈ defs) :
    ∃ row ∈ (seed env token nonce timestamp image).settings, row.name = definition.name := by
  have hseeded : ∃ row ∈ dropStale (seedMissing timestamp image.settings),
      row.name = definition.name := by
    have hfound := findDef_of_mem declared
    cases hlookup : lookup SettingRow.name definition.name image.settings with
    | some row =>
      have hname := key_of_lookup hlookup
      refine ⟨row, mem_filter.mpr ⟨?_, by simp [hname, hfound]⟩, hname⟩
      exact mem_append_left _ (mem_of_lookup hlookup)
    | none =>
      refine ⟨seedRow timestamp definition, mem_filter.mpr ⟨?_, ?_⟩, rfl⟩
      · apply mem_append_right
        exact List.mem_map_of_mem (mem_filter.mpr ⟨declared, by simp [hlookup]⟩)
      · simp [seedRow, hfound]
  unfold seed seedOperatorToken
  split
  · exact hseeded
  · obtain ⟨row, hrow, hname⟩ := hseeded
    have hnames : definition.name ∈ (dropStale (seedMissing timestamp image.settings)).map
        SettingRow.name := List.mem_map.mpr ⟨row, hrow, hname⟩
    rw [← map_name_update _ Keys.authOperatorTokenHash _ timestamp] at hnames
    exact List.mem_map.mp hnames

theorem initializeStore_ok (started : initializeStore env token nonce timestamp image = .ok store) :
    store.db = seed env token nonce timestamp image ∧ load env store.db = .ok store.tx := by
  unfold initializeStore at started
  split at started
  · cases started
  · cases hload : load env (seed env token nonce timestamp image) with
    | error e => simp [hload, bind, Except.bind] at started
    | ok snapshot =>
      simp only [hload, bind, Except.bind, pure, Except.pure, Except.ok.injEq] at started
      subst started
      exact ⟨rfl, hload⟩

theorem initializeStore_wellFormed
    (started : initializeStore env token nonce timestamp image = .ok store) :
    WellFormed store.db := by
  obtain ⟨hdb, hload⟩ := initializeStore_ok started
  intro definition declared
  obtain ⟨row, hrow, hname⟩ := seed_rows env token nonce timestamp image declared
  rw [← hdb] at hrow
  have hparsed := load_parses hload row hrow (by simp [hname, findDef_of_mem declared])
  obtain ⟨value, hvalue⟩ := isSome_iff_exists.mp hparsed
  have hstored : storedValues store.db.settings definition.name = some value := by
    rw [storedValues, ← hname, lookup_of_mem store.db.names hrow]
    exact hvalue
  exact ⟨value, hstored, load_valid hload declared hstored⟩

def emptyImage : Image := ⟨none, [], none, [], nodup_nil⟩

theorem lookup_seed_empty (env : Env) (token : String) (nonce : Bytes) (timestamp name : String) :
    lookup SettingRow.name name (seed env token nonce timestamp emptyImage).settings =
      (findDef name).map fun definition =>
        if name = Keys.authOperatorTokenHash then
          setValue (.str (env.sealToString nonce (env.hashOperatorToken token))) timestamp
            (seedRow timestamp definition)
        else seedRow timestamp definition := by
  have hrows : dropStale (seedMissing timestamp emptyImage.settings) =
      defs.map (seedRow timestamp) := by
    rw [dropStale, filter_eq_self.mpr]
    · simp [seedMissing, emptyImage]
    · intro row hrow
      simp only [seedMissing, emptyImage, nil_append, Library.lookup_nil, isNone_none,
        filter_true] at hrow
      obtain ⟨definition, declared, rfl⟩ := List.mem_map.mp hrow
      simp [seedRow, findDef_of_mem declared]
  have hlookup : ∀ name, lookup SettingRow.name name (defs.map (seedRow timestamp)) =
      (findDef name).map (seedRow timestamp) := lookup_map (fun _ => rfl) defs
  have hunset : operatorTokenSet (defs.map (seedRow timestamp)) = false := by
    have hdef : findDef Keys.authOperatorTokenHash =
        some (.secretStr Keys.authOperatorTokenHash "") := by
      decide
    simp [operatorTokenSet, hlookup, hdef, seedRow, SettingDef.secretStr, SettingDef.defaultValue,
      Value.toJson]
  simp only [seed, seedOperatorToken, hrows, hunset, Bool.false_eq_true, ↓reduceIte,
    Database.updateSetting]
  have keeps : ∀ row, (setValue (.str (env.sealToString nonce (env.hashOperatorToken token)))
      timestamp row).name = row.name := fun _ => rfl
  rw [lookup_update SettingRow.name _ _ _ keeps, hlookup, hlookup]
  split
  · rename_i hname
    subst hname
    rw [Option.map_map]
    rfl
  · rfl

theorem operatorToken_valid (declared : definition ∈ defs)
    (named : definition.name = Keys.authOperatorTokenHash) (text : String) :
    validateValue definition (.str text) = .ok () := by
  have hkind : ∀ definition ∈ defs, definition.name = Keys.authOperatorTokenHash →
      definition.kind = .secret := by
    decide +kernel
  simp [validateValue, hkind definition declared named]

theorem storedValues_seed_empty (env : Env) (token : String) (nonce : Bytes)
    (timestamp : String) (declared : definition ∈ defs) :
    storedValues (seed env token nonce timestamp emptyImage).settings definition.name =
      some (if definition.name = Keys.authOperatorTokenHash then
        .str (env.sealToString nonce (env.hashOperatorToken token)) else definition.defaultValue) := by
  have hfound := findDef_of_mem declared
  have hdefault := Value.fromJson_toJson (defs_default_valid definition declared)
  rw [storedValues, lookup_seed_empty, hfound]
  simp only [map_some, bind_some]
  split
  · rename_i hname
    exact rowValue_setValue hfound (operatorToken_valid declared hname _)
  · simp [rowValue, seedRow, hfound, hdefault, Except.toOption]

theorem initializeStore_empty (env : Env) (token : String) (nonce : Bytes) (timestamp : String) :
    ∃ store, initializeStore env token nonce timestamp emptyImage = .ok store := by
  have hstored : ∀ {definition : SettingDef}, definition ∈ defs →
      storedValues (seed env token nonce timestamp emptyImage).settings definition.name = _ :=
    storedValues_seed_empty env token nonce timestamp
  have parses : ∀ row ∈ (seed env token nonce timestamp emptyImage).settings, Parses row := by
    intro row hrow declared
    obtain ⟨definition, hfound⟩ := isSome_iff_exists.mp declared
    have hvalue := hstored (findDef_mem hfound)
    rw [findDef_name hfound, storedValues,
      lookup_of_mem (seed env token nonce timestamp emptyImage).names hrow] at hvalue
    exact isSome_iff_exists.mpr ⟨_, hvalue⟩
  have hfirst : firstInvalid
      (resolve (storedValues (seed env token nonce timestamp emptyImage).settings)) = none := by
    rw [firstInvalid, findSome?_eq_none_iff]
    intro definition declared
    have hdefault := defs_default_valid definition declared
    simp only [resolve, findDef_of_mem declared, hstored declared, map_some, getD_some]
    by_cases hname : definition.name = Keys.authOperatorTokenHash
    · simp only [if_pos hname, operatorToken_valid declared hname]
    · simp only [if_neg hname, hdefault]
  have hcombination : validateCombination env.metadata
      (resolve (storedValues (seed env token nonce timestamp emptyImage).settings)) = .ok () := by
    rw [← defaults_combination env.metadata]
    apply validateCombination_congr
    intro name hname
    have hother : name ≠ Keys.authOperatorTokenHash := by
      rintro rfl
      exact absurd hname (by decide)
    cases hfound : findDef name with
    | none => simp [resolve, defaults, hfound]
    | some definition =>
      have hvalue := hstored (findDef_mem hfound)
      rw [findDef_name hfound, if_neg hother] at hvalue
      simp [resolve, defaults, hfound, hvalue, emptyValues]
  have hread := readRows_eq (seed env token nonce timestamp emptyImage).names parses
  have hload : load env (seed env token nonce timestamp emptyImage) = .ok _ :=
    (loadRows_ok env).mpr ⟨_, hread, (validateLoaded_ok env).mpr ⟨hfirst, hcombination⟩, rfl⟩
  unfold initializeStore
  rw [if_neg (by simp [emptyImage])]
  simp only [hload]
  exact ⟨_, rfl⟩

def patchAll (env : Env) (store : Store) (calls : List PatchCall) : Store :=
  calls.foldl (fun store call => (patch env call store).2) store

theorem patch_reloads (env : Env) (call : PatchCall) {store : Store}
    (loaded : WellFormed store.db ∧ load env store.db = .ok store.tx) :
    WellFormed (patch env call store).2.db ∧
      load env (patch env call store).2.db = .ok (patch env call store).2.tx := by
  refine ⟨patch_wellFormed env call loaded.1, ?_⟩
  by_cases nonempty : call.updates.entries = []
  · simpa [patch, nonempty] using loaded.2
  · rcases patch_cases env call store nonempty (loaded.1.patchable call.updates) with
      ⟨-, snapshot, hload, hpatch⟩ | ⟨-, err, hpatch⟩
    · rw [hpatch]
      exact hload
    · obtain ⟨hsettings, hrevision⟩ := recordRejection_keeps call err.message store.db
      rw [hpatch]
      unfold load
      rw [hsettings, hrevision]
      exact loaded.2

theorem patchAll_reloads (started : initializeStore env token nonce timestamp image = .ok store)
    (calls : List PatchCall) : WellFormed (patchAll env store calls).db ∧
      load env (patchAll env store calls).db = .ok (patchAll env store calls).tx := by
  have loaded := And.intro (initializeStore_wellFormed started) (initializeStore_ok started).2
  clear started
  induction calls generalizing store with
  | nil => exact loaded
  | cons call rest ih => exact ih (patch_reloads env call loaded)

/-- A restart would load exactly the snapshot that is served, and everything in it is valid. -/
theorem served_snapshot_reloads
    (started : initializeStore env token nonce timestamp image = .ok store)
    (calls : List PatchCall) :
    load env (patchAll env store calls).db = .ok (patchAll env store calls).tx ∧
      (∀ definition ∈ defs, ∃ value,
        (patchAll env store calls).tx.values definition.name = some value ∧
          validateValue definition value = .ok ()) ∧
      validateCombination env.metadata (patchAll env store calls).tx.values = .ok () := by
  obtain ⟨hwf, hload⟩ := patchAll_reloads started calls
  obtain ⟨stored, hread, hvalid, htx⟩ := (loadRows_ok env).mp hload
  cases (readRows_eq (patchAll env store calls).db.names hwf.parses).symm.trans hread
  refine ⟨hload, ?_⟩
  rw [htx]
  refine ⟨?_, ((validateLoaded_ok env).mp hvalid).2⟩
  intro definition declared
  obtain ⟨value, hvalue, hchecked⟩ := hwf definition declared
  exact ⟨value, by simp [resolve, findDef_of_mem declared, hvalue], hchecked⟩

theorem served_snapshot_reloads_labelBytes : ∃ store,
    initializeStore sampleEnv "operator" [] "" emptyImage = .ok store ∧
    load sampleEnv (patchAll sampleEnv store [labelBytes]).db =
      .ok (patchAll sampleEnv store [labelBytes]).tx := by
  obtain ⟨store, started⟩ := initializeStore_empty sampleEnv "operator" [] ""
  exact ⟨store, started, (served_snapshot_reloads started _).1⟩

end Hypeterm.Settings
