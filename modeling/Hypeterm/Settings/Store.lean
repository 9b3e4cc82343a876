import Mathlib.Data.List.Nodup
import Hypeterm.Error
import Hypeterm.Settings.Combination

/-! Persistence of runtime settings: seeding, loading a validated snapshot and
the transaction that applies an update set.  A `value_json` column is modelled
by what the JSON decoder reads from its text. -/
namespace Hypeterm.Settings

open Library List

structure SettingRow where
  name : String
  valueJson : Except String Json
  updatedAt : String

inductive AuditOutcome where
  | applied
  | rejected
  deriving DecidableEq

structure AuditRow where
  revision : Int
  timestamp : String
  operator : String
  setting : String
  oldValueHash : Option Digest
  newValueHash : Option Digest
  outcome : AuditOutcome
  detail : String

structure Database where
  settings : List SettingRow
  revision : Int
  audit : List AuditRow
  /-- `name` is the primary key of `settings`. -/
  names : (settings.map SettingRow.name).Nodup

structure Snapshot where
  revision : Int
  values : Values

/-- What the store takes from outside: the file system, the digest and the
secret box under its bootstrap key. -/
structure Env where
  metadata : String → Bool
  sha256 : String → Digest
  /-- Base64 of a nonce and the ciphertext of a text under it. -/
  sealText : Bytes → String → String
  hashOperatorToken : String → String

variable (env : Env)

def Env.sealToString (nonce : Bytes) (plaintext : String) : String :=
  "enc:v1:" ++ env.sealText nonce plaintext

def emptyValues : Values := fun _ => none

def readRow (out : Values) (row : SettingRow) : Except ApiError Values :=
  match findDef row.name with
  | none => .ok out
  | some definition =>
      match row.valueJson with
      | .error e => .error (.internal s!"stored setting {row.name} is not valid JSON: {e}")
      | .ok json =>
          match Value.fromJson definition json with
          | .error e => .error (.internal s!"stored setting is invalid: {e}")
          | .ok value => .ok (out.insert row.name value)

def readRows (rows : List SettingRow) : Except ApiError Values :=
  rows.foldlM readRow emptyValues

/-- Fill in any absent key from its declared default. -/
def resolve (stored : Values) : Values := fun name =>
  (findDef name).map fun definition => (stored name).getD definition.defaultValue

def firstInvalid (values : Values) : Option String :=
  defs.findSome? fun definition =>
    match validateValue definition ((values definition.name).getD definition.defaultValue) with
    | .error e => some e
    | .ok () => none

def validateLoaded (values : Values) : Except ApiError Unit :=
  match firstInvalid values with
  | some e => .error (.internal s!"stored setting is invalid, refusing to serve: {e}")
  | none =>
      match validateCombination env.metadata values with
      | .ok () => .ok ()
      | .error errors =>
          .error (.internal ("stored settings form an invalid combination, refusing to serve: " ++
            "; ".intercalate errors))

/-- The second statement of `load` and what follows it, for a revision that the
first statement read. -/
def loadRows (revision : Int) (rows : List SettingRow) : Except ApiError Snapshot := do
  let stored ← readRows rows
  let values := resolve stored
  validateLoaded env values
  pure ⟨revision, values⟩

theorem validateLoaded_ok {values : Values} : validateLoaded env values = .ok () ↔
      firstInvalid values = none ∧ validateCombination env.metadata values = .ok () := by
  unfold validateLoaded
  cases firstInvalid values with
  | some e => simp
  | none => cases validateCombination env.metadata values <;> simp

theorem loadRows_ok {revision : Int} {rows : List SettingRow} {snapshot : Snapshot} :
    loadRows env revision rows = .ok snapshot ↔
      ∃ stored, readRows rows = .ok stored ∧ validateLoaded env (resolve stored) = .ok () ∧
        snapshot = ⟨revision, resolve stored⟩ := by
  unfold loadRows
  cases readRows rows with
  | error e => simp [bind, Except.bind]
  | ok stored =>
    cases hvalid : validateLoaded env (resolve stored) with
    | error e => simp [bind, Except.bind, hvalid]
    | ok _ => simp [bind, Except.bind, pure, Except.pure, hvalid, eq_comm]

def load (db : Database) : Except ApiError Snapshot := loadRows env db.revision db.settings

def auditHash (value : Value) : Digest := env.sha256 value.jsonText

def hashSecretForAudit (value : Value) : Digest :=
  match value with
  | .str text => if text.isEmpty then env.sha256 "unset" else env.sha256 s!"secret:{text}"
  | other => auditHash env other

def hashFor (definition : SettingDef) (value : Value) : Digest :=
  if definition.secret then hashSecretForAudit env value else auditHash env value

/-- The forms of a secret that are stored as submitted. -/
def isStoredForm (text : String) : Bool :=
  text.isEmpty || startsWith "env:" text || startsWith "file:" text || startsWith "enc:v1:" text

/-- Secrets are stored as an external reference or encrypted. -/
def storedValue (nonce : Bytes) (definition : SettingDef) (parsed : Value) : Value :=
  if definition.secret then
    match parsed with
    | .str text => if isStoredForm text then .str text else .str (env.sealToString nonce text)
    | other => other
  else parsed

/-- The submitted map, in the order it iterates. -/
structure Updates where
  entries : List (String × Json)
  sorted : entries.Pairwise fun a b => a.1 < b.1

structure PatchCall where
  operator : String
  expectedRevision : Int
  updates : Updates
  timestamp : String
  /-- The nonce drawn when a secret of that name is sealed. -/
  nonces : String → Bytes

structure Staged where
  definition : SettingDef
  storedValue : Value
  previous : Option Value
  newHash : Digest

structure Staging where
  errors : List String
  effective : Values
  staged : List Staged

def Staging.refuse (staging : Staging) (error : String) : Staging :=
  { staging with errors := staging.errors ++ [error] }

def Staging.accept (staging : Staging) (nonce : Bytes) (definition : SettingDef) (parsed : Value) :
    Staging :=
  { staging with
    effective := staging.effective.insert definition.name parsed
    staged := staging.staged ++
      [⟨definition, storedValue env nonce definition parsed, staging.effective definition.name,
        hashFor env definition parsed⟩] }

/-- One name of the update set, read against its declaration. -/
def parseEntry (entry : String × Json) : Except String (SettingDef × Value) :=
  match findDef entry.1 with
  | none => .error s!"unknown setting: {entry.1}"
  | some definition =>
      match Value.fromJson definition entry.2 with
      | .error e => .error e
      | .ok parsed =>
          match validateValue definition parsed with
          | .error e => .error e
          | .ok () => .ok (definition, parsed)

def stage (nonces : String → Bytes) (staging : Staging) (entry : String × Json) : Staging :=
  match parseEntry entry with
  | .error e => staging.refuse e
  | .ok (definition, parsed) => staging.accept env (nonces entry.1) definition parsed

def stageAll (call : PatchCall) (effective : Values) : Staging :=
  call.updates.entries.foldl (stage env call.nonces) ⟨[], effective, []⟩

def setValue (value : Value) (timestamp : String) (row : SettingRow) : SettingRow :=
  { row with valueJson := .ok value.toJson, updatedAt := timestamp }

theorem map_name_update (rows : List SettingRow) (name : String) (value : Value)
    (timestamp : String) :
    (update SettingRow.name name (setValue value timestamp) rows).map SettingRow.name =
      rows.map SettingRow.name := by
  simp only [update, map_map]
  apply map_congr_left
  intro row _
  by_cases h : row.name = name <;> simp [h, setValue]

def Database.updateSetting (db : Database) (name : String) (value : Value) (timestamp : String) :
    Database :=
  { db with
    settings := update SettingRow.name name (setValue value timestamp) db.settings
    names := by rw [map_name_update]; exact db.names }

def Database.insertAudit (db : Database) (row : AuditRow) : Database :=
  { db with audit := db.audit ++ [row] }

def appliedRow (call : PatchCall) (revision : Int) (item : Staged) : AuditRow :=
  let oldHash := item.previous.map (hashFor env item.definition)
  ⟨revision, call.timestamp, call.operator, item.definition.name, oldHash, some item.newHash,
    .applied, if oldHash = some item.newHash then "value unchanged" else "value changed"⟩

def applyStaged (call : PatchCall) (revision : Int) (applied : Database × List String)
    (item : Staged) : Database × List String :=
  let row := appliedRow env call revision item
  ((applied.1.updateSetting item.definition.name item.storedValue call.timestamp).insertAudit row,
    if row.oldValueHash = some item.newHash then applied.2
    else applied.2 ++ [item.definition.name])

/-- The combination is checked once every single value passed. -/
def stagingErrors (staging : Staging) : List String :=
  if staging.errors.isEmpty then
    match validateCombination env.metadata staging.effective with
    | .ok () => []
    | .error combination => combination
  else staging.errors

def commitStaged (call : PatchCall) (db : Database) (staged : List Staged) :
    Database × List String :=
  let revision := db.revision + 1
  let applied := staged.foldl (applyStaged env call revision) (db, [])
  ({ applied.1 with revision }, applied.2)

/-- The IMMEDIATE transaction of `patch`: the new database and the changed
names, or an error and a rollback. -/
def patchTxn (call : PatchCall) (db : Database) : Except ApiError (Database × List String) :=
  if db.revision ≠ call.expectedRevision then
    .error (.new 409 "settings_revision_conflict"
      s!"settings revision {call.expectedRevision} is stale; current revision is {db.revision}")
  else
    match readRows db.settings with
    | .error e => .error e
    | .ok stored =>
        let staging := stageAll env call (resolve stored)
        if (stagingErrors env staging).isEmpty then .ok (commitStaged env call db staging.staged)
        else
          .error (.new 422 "settings_invalid" ("; ".intercalate (stagingErrors env staging)))

/-- The tables `initializeStore` finds, those of an empty file included. -/
structure Image where
  schemaVersion : Option Int
  settings : List SettingRow
  revision : Option Int
  audit : List AuditRow
  names : (settings.map SettingRow.name).Nodup

def settingsSchemaVersion : Int := 1

def seedRow (timestamp : String) (definition : SettingDef) : SettingRow :=
  ⟨definition.name, .ok definition.defaultValue.toJson, timestamp⟩

def seedMissing (timestamp : String) (rows : List SettingRow) : List SettingRow :=
  rows ++ (defs.filter fun definition => (lookup SettingRow.name definition.name rows).isNone).map
    (seedRow timestamp)

/-- Remove rows for settings this build no longer declares. -/
def dropStale (rows : List SettingRow) : List SettingRow :=
  rows.filter fun row => (findDef row.name).isSome

def operatorTokenSet (rows : List SettingRow) : Bool :=
  match lookup SettingRow.name Keys.authOperatorTokenHash rows with
  | some ⟨_, .ok (.string text), _⟩ => !text.isEmpty
  | _ => false

/-- Establish an operator credential on first initialisation. -/
def seedOperatorToken (token : String) (nonce : Bytes) (timestamp : String) (db : Database) :
    Database :=
  if operatorTokenSet db.settings then db
  else
    db.updateSetting Keys.authOperatorTokenHash
      (.str (env.sealToString nonce (env.hashOperatorToken token))) timestamp

theorem seedMissing_names {timestamp : String} {rows : List SettingRow}
    (names : (rows.map SettingRow.name).Nodup) :
    ((seedMissing timestamp rows).map SettingRow.name).Nodup := by
  have added : ((defs.filter fun definition =>
      (lookup SettingRow.name definition.name rows).isNone).map
        (seedRow timestamp)).map SettingRow.name =
      (defs.filter fun definition =>
        (lookup SettingRow.name definition.name rows).isNone).map SettingDef.name := by
    simp [map_map, Function.comp_def, seedRow]
  rw [seedMissing, map_append, added]
  refine names.append ?_ ?_
  · exact defs_names_nodup.sublist (filter_sublist.map SettingDef.name)
  · intro name stored seeded
    obtain ⟨row, hrow, rfl⟩ := mem_map.mp stored
    obtain ⟨definition, hdefinition, hname⟩ := mem_map.mp seeded
    have absent := (mem_filter.mp hdefinition).2
    rw [Option.isNone_iff_eq_none, lookup_eq_none] at absent
    exact absent row hrow hname.symm

def seed (token : String) (nonce : Bytes) (timestamp : String) (image : Image) : Database :=
  seedOperatorToken env token nonce timestamp
    { settings := dropStale (seedMissing timestamp image.settings)
      revision := image.revision.getD 1
      audit := image.audit
      names := (seedMissing_names image.names).sublist
        (filter_sublist.map SettingRow.name) }

theorem patchTxn_ok {call : PatchCall} {db after : Database} {changed : List String}
    (committed : patchTxn env call db = .ok (after, changed)) :
    ∃ staged, (after, changed) = commitStaged env call db staged := by
  unfold patchTxn at committed
  split at committed
  · cases committed
  · split at committed
    · cases committed
    · simp only [] at committed
      split at committed
      · exact ⟨_, (Except.ok.inj committed).symm⟩
      · cases committed

theorem patchTxn_revision {call : PatchCall} {db after : Database} {changed : List String}
    (committed : patchTxn env call db = .ok (after, changed)) :
    after.revision = db.revision + 1 := by
  obtain ⟨staged, hstaged⟩ := patchTxn_ok env committed
  exact congrArg (fun result => result.1.revision) hstaged

def rejectedRow (call : PatchCall) (revision : Int) (detail : String) (entry : String × Json) :
    AuditRow :=
  ⟨revision, call.timestamp, call.operator, entry.1, none, none, .rejected, detail⟩

/-- Rejections are recorded on their own, since the rejected transaction rolled
back. -/
def recordRejection (call : PatchCall) (detail : String) (db : Database) : Database :=
  (call.updates.entries.map (rejectedRow call db.revision detail)).foldl Database.insertAudit db

structure PatchOutcome where
  snapshot : Snapshot
  changed : List String

structure Store where
  db : Database
  tx : Snapshot

def patch (call : PatchCall) (store : Store) : Except ApiError PatchOutcome × Store :=
  if call.updates.entries.isEmpty then (.error (.invalid "no settings supplied"), store)
  else
    match patchTxn env call store.db with
    | .error err => (.error err, { store with db := recordRejection call err.message store.db })
    | .ok (db, changed) =>
        match load env db with
        | .error err => (.error err, { store with db })
        | .ok fresh => (.ok ⟨fresh, changed⟩, ⟨db, fresh⟩)

/-- Seed defaults, then load and validate a complete snapshot. -/
def initializeStore (token : String) (nonce : Bytes) (timestamp : String) (image : Image) :
    Except ApiError Store :=
  if (image.schemaVersion.getD settingsSchemaVersion) ≠ settingsSchemaVersion then
    .error (.internal s!"database settings schema version {image.schemaVersion.getD 0} is not supported by this build (expected {settingsSchemaVersion})")
  else do
    let db := seed env token nonce timestamp image
    let snapshot ← load env db
    pure ⟨db, snapshot⟩

end Hypeterm.Settings
