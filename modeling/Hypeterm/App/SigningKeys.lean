import Hypeterm.Error
import Hypeterm.Library.Runs
import Hypeterm.Library.Table
import Mathlib.Data.List.Sort

/-! Token signing keys. Times are nanoseconds. Key material is not sealed here. -/
namespace Hypeterm.App

open Library List

structure SigningKey where
  kid : String
  secret : Bytes
  deriving DecidableEq

structure Token where
  signingInput : Bytes
  kid : String
  tag : Bytes

section

variable (mac : Bytes → Bytes → Bytes)

def mintToken (key : SigningKey) (signingInput : Bytes) : Token :=
  ⟨signingInput, key.kid, mac key.secret signingInput⟩

def verifySignature (token : Token) (keys : List SigningKey) : Except ApiError Unit :=
  match lookup SigningKey.kid token.kid keys with
  | none => .error (.unauthorized "access token signed by an unknown key")
  | some key =>
      if mac key.secret token.signingInput = token.tag then .ok ()
      else .error (.unauthorized "access token signature is invalid")

end

def toRfc3339 (time : Nat) : Nat := time / 1000 * 1000

structure StoredSigningKey where
  kid : String
  secret : Bytes
  createdAt : Nat
  active : Bool
  notAfter : Option Nat
  deriving DecidableEq

def StoredSigningKey.key (row : StoredSigningKey) : SigningKey := ⟨row.kid, row.secret⟩

def loadSigningKeys (rows : List StoredSigningKey) : List StoredSigningKey :=
  rows.insertionSort fun left right => right.createdAt ≤ left.createdAt

/-- The outgoing key keeps its row, with the end of its overlap window. -/
def insertSigningKey (rows : List StoredSigningKey) (key : SigningKey) (overlap now : Nat) :
    List StoredSigningKey :=
  rows.map (fun row =>
    if row.active then { row with active := false, notAfter := some (toRfc3339 (now + overlap)) }
    else row) ++ [⟨key.kid, key.secret, toRfc3339 now, true, none⟩]

def pruneSigningKeys (rows : List StoredSigningKey) (now : Nat) : List StoredSigningKey :=
  rows.filter fun row => row.active || !row.notAfter.any fun notAfter => notAfter < toRfc3339 now

structure KeyEntry where
  key : SigningKey
  createdAt : Nat
  active : Bool
  deriving DecidableEq

def StoredSigningKey.entry (row : StoredSigningKey) : KeyEntry :=
  ⟨row.key, row.createdAt, row.active⟩

def StoredSigningKey.expired (row : StoredSigningKey) (now : Nat) : Bool :=
  !row.active && row.notAfter.any fun notAfter => notAfter < now

def unexpired (rows : List StoredSigningKey) (now : Nat) : List KeyEntry :=
  ((loadSigningKeys rows).filter fun row => !row.expired now).map StoredSigningKey.entry

def KeyEntry.precedes (left right : KeyEntry) : Bool :=
  left.active && !right.active ||
    left.active == right.active && decide (right.createdAt ≤ left.createdAt)

def sortEntries (entries : List KeyEntry) : List KeyEntry :=
  entries.insertionSort fun left right => left.precedes right

def mints (rows : List StoredSigningKey) (now : Nat) : Bool :=
  !(unexpired rows now).any KeyEntry.active

/-- Read the keys, minting the first one if the database is new. -/
def refresh (rows : List StoredSigningKey) (now overlap : Nat) (fresh : SigningKey) :
    List StoredSigningKey × List KeyEntry :=
  let entries := unexpired rows now
  if mints rows now then
    (insertSigningKey rows fresh overlap now,
      sortEntries (⟨fresh, now, true⟩ :: entries.map fun entry => { entry with active := false }))
  else (rows, sortEntries entries)

def rotationDue (keys : List KeyEntry) (rotation now : Nat) : Bool :=
  match keys.find? KeyEntry.active with
  | some entry => rotation < now - entry.createdAt
  | none => true

theorem verifySignature_iff {mac : Bytes → Bytes → Bytes} {created keys : List SigningKey}
    (distinct : (created.map SigningKey.kid).Nodup) (held : ∀ key ∈ keys, key ∈ created)
    {key : SigningKey} (known : key ∈ created) (signingInput : Bytes) :
    verifySignature mac (mintToken mac key signingInput) keys = .ok () ↔ key ∈ keys := by
  have hsame : ∀ other ∈ keys, other.kid = key.kid → other = key := fun other member hkid =>
    inj_on_of_nodup_map distinct (held other member) known hkid
  unfold verifySignature
  cases hfound : lookup SigningKey.kid (mintToken mac key signingInput).kid keys with
  | none =>
    have hmissing : key ∉ keys := fun member => lookup_eq_none.mp hfound key member rfl
    simp [hmissing]
  | some other =>
    have hother := mem_of_lookup hfound
    cases hsame other hother (key_of_lookup hfound)
    simp [mintToken, hother]

theorem key_insertSigningKey (rows : List StoredSigningKey) (key : SigningKey) (overlap now : Nat) :
    (insertSigningKey rows key overlap now).map StoredSigningKey.key =
      rows.map StoredSigningKey.key ++ [key] := by
  unfold insertSigningKey
  rw [map_append, map_map]
  congr 1
  apply map_congr_left
  intro row _
  dsimp only [Function.comp]
  split <;> rfl

variable {rows : List StoredSigningKey}

theorem insertSigningKey_of_retired
    (retired : ∀ row ∈ rows, row.active = false) (key : SigningKey) (overlap now : Nat) :
    insertSigningKey rows key overlap now =
      rows ++ [⟨key.kid, key.secret, toRfc3339 now, true, none⟩] := by
  unfold insertSigningKey
  congr 1
  conv_rhs => rw [← map_id rows]
  apply map_congr_left
  intro row member
  rw [retired row member]
  rfl

theorem mem_unexpired {now : Nat} {entry : KeyEntry} :
    entry ∈ unexpired rows now ↔ ∃ row ∈ rows, row.expired now = false ∧ row.entry = entry := by
  unfold unexpired loadSigningKeys
  simp only [mem_map, mem_filter, mem_insertionSort, Bool.not_eq_true', and_assoc]

theorem mem_sortEntries {entries : List KeyEntry} {entry : KeyEntry} :
    entry ∈ sortEntries entries ↔ entry ∈ entries := mem_insertionSort _

theorem retired_of_mints {now : Nat}
    (minted : mints rows now = true) : ∀ row ∈ rows, row.active = false := by
  intro row member
  unfold mints at minted
  rw [Bool.not_eq_true', any_eq_false] at minted
  by_contra hactive
  have hactive : row.active = true := by simpa using hactive
  refine minted row.entry (mem_unexpired.mpr ⟨row, member, ?_, rfl⟩) hactive
  unfold StoredSigningKey.expired
  rw [hactive]
  rfl

theorem mints_insertSigningKey (rows : List StoredSigningKey) (key : SigningKey)
    (overlap now : Nat) : mints (insertSigningKey rows key overlap now) now = false := by
  unfold mints
  rw [Bool.not_eq_false', any_eq_true]
  refine ⟨⟨key, toRfc3339 now, true⟩, mem_unexpired.mpr ⟨⟨key.kid, key.secret, toRfc3339 now, true,
    none⟩, mem_append_right _ mem_cons_self, rfl, rfl⟩, rfl⟩

namespace SigningKeys

/-- `created` is the history of all keys ever generated; no step reads it but to tell that
identifiers never repeat. -/
structure System where
  rows : List StoredSigningKey
  keys : List KeyEntry
  created : List SigningKey
  clock : Nat
  deriving DecidableEq

def System.initial : System := ⟨[], [], [], 0⟩

/-- Every action takes place at a time and brings the key that it may generate.  In `rotate` the
new key is committed, and then reading the keys again succeeds or fails. -/
inductive Action where
  | restart (now overlap : Nat) (fresh : SigningKey)
  | wait (now : Nat)
  | prune (now : Nat)
  | rotateIfNeeded (now rotation overlap : Nat) (fresh : SigningKey) (refreshed : Bool)

def Action.now : Action → Nat
  | .restart now _ _ | .wait now | .prune now | .rotateIfNeeded now _ _ _ _ => now

def Action.fresh? : Action → Option SigningKey
  | .restart _ _ fresh | .rotateIfNeeded _ _ _ fresh _ => some fresh
  | .wait _ | .prune _ => none

namespace System

def restart (system : System) (now overlap : Nat) (fresh : SigningKey) : System :=
  let refreshed := refresh system.rows now overlap fresh
  { rows := refreshed.1
    keys := refreshed.2
    created := if mints system.rows now then system.created ++ [fresh] else system.created
    clock := now }

/-- Reading the keys again mints no other key, since the new one is active. -/
def rotateIfNeeded (system : System) (now rotation overlap : Nat) (fresh : SigningKey)
    (refreshed : Bool) : System :=
  if rotationDue system.keys rotation now then
    let rows := insertSigningKey system.rows fresh overlap now
    { rows := if refreshed then (refresh rows now overlap fresh).1 else rows
      keys := if refreshed then (refresh rows now overlap fresh).2 else system.keys
      created := system.created ++ [fresh]
      clock := now }
  else { system with clock := now }

end System

def taken (system : System) : Action → System
  | .restart now overlap fresh => system.restart now overlap fresh
  | .wait now => { system with clock := now }
  | .prune now => { system with rows := pruneSigningKeys system.rows now, clock := now }
  | .rotateIfNeeded now rotation overlap fresh refreshed =>
      system.rotateIfNeeded now rotation overlap fresh refreshed

/-- Time does not go back, and no identifier is generated twice. -/
def step (system : System) (action : Action) : Option System :=
  if system.clock ≤ action.now ∧
      ∀ fresh ∈ action.fresh?, ∀ key ∈ system.created, key.kid ≠ fresh.kid then
    some (taken system action)
  else none

/-- The key is the active one, or the database says that it may still verify. -/
def Recorded (rows : List StoredSigningKey) (key : SigningKey) (time : Nat) : Prop :=
  ∃ row ∈ rows, row.key = key ∧
    (row.active = true ∨ ∃ notAfter, row.notAfter = some notAfter ∧ time ≤ notAfter)

instance (rows : List StoredSigningKey) (key : SigningKey) (time : Nat) :
    Decidable (Recorded rows key time) :=
  decidable_of_iff (∃ row ∈ rows, row.key = key ∧
    (row.active = true ∨ (row.notAfter.any fun notAfter => time ≤ notAfter) = true)) (by
      simp [Recorded, Option.any_eq_true])

/-- At the time of the last step, the tokens of a key verify exactly if the database says so. -/
def Exact (mac : Bytes → Bytes → Bytes) (system : System) : Prop :=
  ∀ key ∈ system.created, ∀ signingInput,
    verifySignature mac (mintToken mac key signingInput) (system.keys.map KeyEntry.key) = .ok () ↔
      Recorded system.rows key system.clock

/-- No window that was still open at the one time has ended at the other. -/
def windowsOpen (rows : List StoredSigningKey) (before now : Nat) : Bool :=
  rows.all fun row => row.active || row.notAfter.all fun notAfter =>
    notAfter < before || now ≤ notAfter

/-- The keys are read again whenever a window has ended, and a new key is always read. -/
def keepsExact (system : System) : Action → Bool
  | .restart _ _ _ => true
  | .wait now | .prune now => windowsOpen system.rows system.clock now
  | .rotateIfNeeded now rotation _ _ refreshed =>
      if rotationDue system.keys rotation now then refreshed
      else windowsOpen system.rows system.clock now

variable {rows : List StoredSigningKey} {now : Nat} {system : System} {fresh : SigningKey}

theorem Recorded.earlier {key : SigningKey} {before : Nat}
    (recorded : Recorded rows key now) (passed : before ≤ now) : Recorded rows key before := by
  obtain ⟨row, hrow, hkey, hopen⟩ := recorded
  refine ⟨row, hrow, hkey, ?_⟩
  rcases hopen with hactive | ⟨notAfter, hnotAfter, hle⟩
  · exact .inl hactive
  · exact .inr ⟨notAfter, hnotAfter, passed.trans hle⟩

def Dated (rows : List StoredSigningKey) : Prop :=
  ∀ row ∈ rows, row.active = false → ∃ notAfter, row.notAfter = some notAfter

theorem Dated.insert (dated : Dated rows) (key : SigningKey)
    (overlap now : Nat) : Dated (insertSigningKey rows key overlap now) := by
  intro row member hretired
  rcases mem_append.mp member with hold | hnew
  · obtain ⟨before, hbefore, rfl⟩ := mem_map.mp hold
    split at hretired
    · rename_i hactive
      rw [if_pos hactive]
      exact ⟨_, rfl⟩
    · rename_i hactive
      rw [if_neg hactive]
      exact dated before hbefore hretired
  · cases mem_singleton.mp hnew
    cases hretired

theorem Dated.expired_iff (dated : Dated rows)
    {row : StoredSigningKey} (member : row ∈ rows) (now : Nat) :
    row.expired now = false ↔
      row.active = true ∨ ∃ notAfter, row.notAfter = some notAfter ∧ now ≤ notAfter := by
  unfold StoredSigningKey.expired
  cases hactive : row.active with
  | true => simp
  | false =>
    obtain ⟨notAfter, hnotAfter⟩ := dated row member hactive
    rw [hnotAfter]
    simp

theorem Dated.key_unexpired (dated : Dated rows) (key : SigningKey) (now : Nat) :
    key ∈ (unexpired rows now).map KeyEntry.key ↔ Recorded rows key now := by
  rw [mem_map]
  constructor
  · rintro ⟨entry, hentry, rfl⟩
    obtain ⟨row, hrow, hexpired, rfl⟩ := mem_unexpired.mp hentry
    exact ⟨row, hrow, rfl, (dated.expired_iff hrow now).mp hexpired⟩
  · rintro ⟨row, hrow, rfl, hopen⟩
    exact ⟨row.entry, mem_unexpired.mpr ⟨row, hrow, (dated.expired_iff hrow now).mpr hopen, rfl⟩, rfl⟩

theorem Dated.key_refresh (dated : Dated rows) (now overlap : Nat) (fresh key : SigningKey) :
    key ∈ (refresh rows now overlap fresh).2.map KeyEntry.key ↔
      Recorded (refresh rows now overlap fresh).1 key now := by
  have hsorted : ∀ entries, key ∈ (sortEntries entries).map KeyEntry.key ↔
      key ∈ entries.map KeyEntry.key := by
    intro entries
    simp only [mem_map, mem_sortEntries]
  unfold refresh
  by_cases hminted : mints rows now = true
  · rw [if_pos hminted, hsorted, map_cons, map_map, mem_cons]
    have hkeys : KeyEntry.key ∘ (fun entry => { entry with active := false }) = KeyEntry.key := rfl
    rw [hkeys, dated.key_unexpired, insertSigningKey_of_retired (retired_of_mints hminted)]
    constructor
    · rintro (rfl | ⟨row, hrow, hkey, hopen⟩)
      · exact ⟨_, mem_append_right _ mem_cons_self, rfl, .inl rfl⟩
      · exact ⟨row, mem_append_left _ hrow, hkey, hopen⟩
    · rintro ⟨row, hrow, hkey, hopen⟩
      rcases mem_append.mp hrow with hold | hnew
      · exact .inr ⟨row, hold, hkey, hopen⟩
      · cases mem_singleton.mp hnew
        exact .inl hkey.symm
  · rw [if_neg hminted, hsorted]
    exact dated.key_unexpired key now

structure KeyInv (system : System) : Prop where
  distinct : (system.created.map SigningKey.kid).Nodup
  stored : ∀ row ∈ system.rows, row.key ∈ system.created
  single : (system.rows.map StoredSigningKey.key).Nodup
  held : ∀ entry ∈ system.keys, entry.key ∈ system.created
  dated : Dated system.rows

theorem KeyInv.initial : KeyInv System.initial where
  distinct := nodup_nil
  stored := by
    intro row member
    cases member
  single := nodup_nil
  held := by
    intro entry member
    cases member
  dated := by
    intro row member
    cases member

theorem KeyInv.exact_iff {mac : Bytes → Bytes → Bytes} (inv : KeyInv system) :
    Exact mac system ↔ ∀ key ∈ system.created,
      key ∈ system.keys.map KeyEntry.key ↔ Recorded system.rows key system.clock := by
  have hheld : ∀ key ∈ system.keys.map KeyEntry.key, key ∈ system.created := by
    intro key member
    obtain ⟨entry, hentry, rfl⟩ := mem_map.mp member
    exact inv.held entry hentry
  constructor
  · intro hexact key known
    rw [← hexact key known []]
    exact (verifySignature_iff inv.distinct hheld known []).symm
  · intro hexact key known signingInput
    rw [← hexact key known]
    exact verifySignature_iff inv.distinct hheld known signingInput

theorem KeyInv.setClock (inv : KeyInv system) (clock : Nat) :
    KeyInv { system with clock } := { inv with }

theorem KeyInv.insert (inv : KeyInv system)
    (new : ∀ key ∈ system.created, key.kid ≠ fresh.kid) (overlap now clock : Nat) :
    KeyInv {
      rows := insertSigningKey system.rows fresh overlap now
      keys := system.keys
      created := system.created ++ [fresh]
      clock } where
  distinct := by
    rw [map_append, map_singleton, ← concat_eq_append]
    refine inv.distinct.concat ?_
    intro member
    obtain ⟨key, hkey, hkid⟩ := mem_map.mp member
    exact new key hkey hkid
  stored := by
    intro row member
    have hkey := mem_map_of_mem (f := StoredSigningKey.key) member
    rw [key_insertSigningKey] at hkey
    rcases mem_append.mp hkey with hold | hnew
    · obtain ⟨before, hbefore, hsame⟩ := mem_map.mp hold
      rw [← hsame]
      exact mem_append_left _ (inv.stored before hbefore)
    · exact mem_append_right _ hnew
  single := by
    rw [key_insertSigningKey, ← concat_eq_append]
    refine inv.single.concat ?_
    intro member
    obtain ⟨row, hrow, hkey⟩ := mem_map.mp member
    exact new row.key (inv.stored row hrow) (congrArg SigningKey.kid hkey)
  held := fun entry member => mem_append_left _ (inv.held entry member)
  dated := inv.dated.insert fresh overlap now

theorem KeyInv.reload (inv : KeyInv system) {keys : List KeyEntry}
    (recorded : ∀ entry ∈ keys, ∃ row ∈ system.rows, row.key = entry.key) (clock : Nat) :
    KeyInv { system with keys, clock } :=
  { inv with
    held := by
      intro entry member
      obtain ⟨row, hrow, hkey⟩ := recorded entry member
      rw [← hkey]
      exact inv.stored row hrow }

theorem recorded_of_refresh (dated : Dated rows) {overlap : Nat} {entry : KeyEntry}
    (member : entry ∈ (refresh rows now overlap fresh).2) :
    ∃ row ∈ (refresh rows now overlap fresh).1, row.key = entry.key := by
  obtain ⟨row, hrow, hkey, _⟩ := (dated.key_refresh now overlap fresh entry.key).mp
    (mem_map_of_mem member)
  exact ⟨row, hrow, hkey⟩

theorem KeyInv.restart (inv : KeyInv system)
    (new : ∀ key ∈ system.created, key.kid ≠ fresh.kid) (now overlap : Nat) :
    KeyInv (system.restart now overlap fresh) := by
  have hrecorded := @recorded_of_refresh _ now fresh inv.dated overlap
  unfold System.restart
  dsimp only
  by_cases hminted : mints system.rows now = true
  · have hrows : (refresh system.rows now overlap fresh).1 =
        insertSigningKey system.rows fresh overlap now := by
      unfold refresh
      rw [if_pos hminted]
    rw [if_pos hminted]
    rw [hrows] at hrecorded ⊢
    exact (inv.insert new overlap now now).reload (fun entry member => hrecorded member) now
  · have hrows : (refresh system.rows now overlap fresh).1 = system.rows := by
      unfold refresh
      rw [if_neg hminted]
    rw [if_neg hminted]
    rw [hrows] at hrecorded ⊢
    exact inv.reload (fun entry member => hrecorded member) now

theorem rows_refresh_insert (rows : List StoredSigningKey) (now overlap : Nat)
    (fresh : SigningKey) :
    (refresh (insertSigningKey rows fresh overlap now) now overlap fresh).1 =
      insertSigningKey rows fresh overlap now := by
  unfold refresh
  rw [mints_insertSigningKey]
  rfl

theorem KeyInv.rotateIfNeeded (inv : KeyInv system)
    (new : ∀ key ∈ system.created, key.kid ≠ fresh.kid) (now rotation overlap : Nat)
    (refreshed : Bool) :
    KeyInv (system.rotateIfNeeded now rotation overlap fresh refreshed) := by
  unfold System.rotateIfNeeded
  split
  · have hinserted := inv.insert new overlap now now
    dsimp only
    rw [rows_refresh_insert, ite_self]
    cases refreshed with
    | false => exact hinserted
    | true =>
      refine hinserted.reload (fun entry member => ?_) now
      have hrecorded := recorded_of_refresh (inv.dated.insert fresh overlap now) member
      rw [rows_refresh_insert] at hrecorded
      exact hrecorded
  · exact inv.setClock now

theorem KeyInv.prune (inv : KeyInv system) (now : Nat) :
    KeyInv { system with rows := pruneSigningKeys system.rows now, clock := now } where
  distinct := inv.distinct
  stored := fun row member => inv.stored row (mem_filter.mp member).1
  single := inv.single.sublist (filter_sublist.map _)
  held := inv.held
  dated := fun row member => inv.dated row (mem_filter.mp member).1

theorem KeyInv.step {next : System} {action : Action} (inv : KeyInv system)
    (stepped : SigningKeys.step system action = some next) : KeyInv next := by
  unfold SigningKeys.step at stepped
  split at stepped
  · rename_i henabled
    cases stepped
    cases action with
    | restart now overlap fresh => exact inv.restart (henabled.2 fresh rfl) now overlap
    | wait now => exact inv.setClock now
    | prune now => exact inv.prune now
    | rotateIfNeeded now rotation overlap fresh refreshed =>
      exact inv.rotateIfNeeded (henabled.2 fresh rfl) now rotation overlap refreshed
  · cases stepped

theorem recorded_prune {key : SigningKey} :
    Recorded (pruneSigningKeys rows now) key now ↔ Recorded rows key now := by
  constructor
  · rintro ⟨row, hrow, hkey, hopen⟩
    exact ⟨row, (mem_filter.mp hrow).1, hkey, hopen⟩
  · rintro ⟨row, hrow, hkey, hopen⟩
    refine ⟨row, mem_filter.mpr ⟨hrow, ?_⟩, hkey, hopen⟩
    rcases hopen with hactive | ⟨notAfter, hnotAfter, hle⟩
    · rw [hactive, Bool.true_or]
    · have hstored : toRfc3339 now ≤ now := Nat.div_mul_le_self now 1000
      rw [hnotAfter, Option.any_some, decide_eq_false (Nat.not_lt.mpr (hstored.trans hle)),
        Bool.not_false, Bool.or_true]

theorem KeyInv.lasts_iff (inv : KeyInv system) (exactly : ∀ key ∈ system.created,
      key ∈ system.keys.map KeyEntry.key ↔ Recorded system.rows key system.clock)
    (passed : system.clock ≤ now) :
    (∀ key ∈ system.created, key ∈ system.keys.map KeyEntry.key ↔ Recorded system.rows key now) ↔
      windowsOpen system.rows system.clock now = true := by
  unfold windowsOpen
  rw [all_eq_true]
  constructor
  · intro hlasts row hrow
    cases hactive : row.active with
    | true => rfl
    | false =>
      obtain ⟨notAfter, hnotAfter⟩ := inv.dated row hrow hactive
      rw [hnotAfter, Option.all_some, Bool.false_or, Bool.or_eq_true, decide_eq_true_eq,
        decide_eq_true_eq]
      by_cases hended : notAfter < system.clock
      · exact .inl hended
      · right
        have hbefore : Recorded system.rows row.key system.clock :=
          ⟨row, hrow, rfl, .inr ⟨notAfter, hnotAfter, Nat.not_lt.mp hended⟩⟩
        have hknown := inv.stored row hrow
        obtain ⟨other, hother, hkey, hopen⟩ :=
          (hlasts row.key hknown).mp ((exactly row.key hknown).mpr hbefore)
        cases inj_on_of_nodup_map inv.single hother hrow hkey
        rcases hopen with hopened | ⟨other, hsame, hle⟩
        · cases hactive.symm.trans hopened
        · cases hnotAfter.symm.trans hsame
          exact hle
  · intro hopen key known
    rw [exactly key known]
    constructor
    · rintro ⟨row, hrow, hkey, hrecorded⟩
      refine ⟨row, hrow, hkey, ?_⟩
      rcases hrecorded with hactive | ⟨notAfter, hnotAfter, hle⟩
      · exact .inl hactive
      · cases hactive : row.active with
        | true => exact .inl rfl
        | false =>
          right
          have hrow := hopen row hrow
          rw [hactive, hnotAfter, Option.all_some, Bool.false_or, Bool.or_eq_true,
            decide_eq_true_eq, decide_eq_true_eq] at hrow
          exact ⟨notAfter, hnotAfter, hrow.resolve_left (Nat.not_lt.mpr hle)⟩
    · exact fun recorded => recorded.earlier passed

theorem KeyInv.exact_step_iff {mac : Bytes → Bytes → Bytes} {next : System}
    {action : Action} (inv : KeyInv system) (exactly : Exact mac system)
    (stepped : SigningKeys.step system action = some next) :
    Exact mac next ↔ keepsExact system action = true := by
  have hnext := inv.step stepped
  rw [hnext.exact_iff]
  rw [inv.exact_iff] at exactly
  unfold SigningKeys.step at stepped
  split at stepped
  · rename_i henabled
    cases stepped
    have hlasts := @KeyInv.lasts_iff action.now system inv exactly henabled.1
    cases action with
    | restart now overlap fresh =>
      refine ⟨fun _ => rfl, fun _ key _ => ?_⟩
      exact inv.dated.key_refresh now overlap fresh key
    | wait now => exact hlasts
    | prune now =>
      have hpruned : ∀ key, Recorded (pruneSigningKeys system.rows now) key now ↔
          Recorded system.rows key now := fun key => recorded_prune
      change (∀ key ∈ system.created, key ∈ system.keys.map KeyEntry.key ↔
        Recorded (pruneSigningKeys system.rows now) key now) ↔ _
      simp only [hpruned]
      exact hlasts
    | rotateIfNeeded now rotation overlap fresh refreshed =>
      unfold keepsExact
      dsimp only [taken]
      unfold System.rotateIfNeeded
      by_cases hdue : rotationDue system.keys rotation now = true
      · rw [if_pos hdue, if_pos hdue]
        dsimp only
        rw [rows_refresh_insert, ite_self]
        have hdated := inv.dated.insert fresh overlap now
        cases refreshed with
        | true =>
          refine ⟨fun _ => rfl, fun _ key _ => ?_⟩
          have hrefresh := hdated.key_refresh now overlap fresh key
          rw [rows_refresh_insert] at hrefresh
          exact hrefresh
        | false =>
          -- The new key is active in the database and unknown in memory.
          refine ⟨fun hexact => ?_, fun hkept => nomatch hkept⟩
          have hheld := (hexact fresh (mem_append_right _ mem_cons_self)).mpr
            ⟨_, mem_append_right _ mem_cons_self, rfl, .inl rfl⟩
          obtain ⟨entry, hentry, hkey⟩ := mem_map.mp hheld
          exact absurd (congrArg SigningKey.kid hkey)
            (henabled.2 fresh rfl entry.key (inv.held entry hentry))
      · rw [if_neg hdue, if_neg hdue]
        exact hlasts
  · cases stepped

/-- In every run the overlap windows are exact in all states reached if and only if the keys are
read again whenever a window has ended and whenever a key was inserted. -/
theorem overlap_exact_iff {mac : Bytes → Bytes → Bytes} {actions : List Action} {system : System}
    (ran : run step System.initial actions = some system) :
    (∀ earlier later middle, actions = earlier ++ later →
      run step System.initial earlier = some middle → Exact mac middle) ↔
      run (restrict step fun system action => keepsExact system action = true)
        System.initial actions = some system := by
  have hinv : ∀ earlier middle, run step System.initial earlier = some middle → KeyInv middle := by
    intro earlier middle hmiddle
    refine run_invariant ?_ KeyInv.initial hmiddle
    intro state action next inv hstep
    exact inv.step hstep
  have hstart : KeyInv System.initial ∧ Exact mac System.initial := by
    refine ⟨KeyInv.initial, ?_⟩
    intro key member
    cases member
  have hexactly : ∀ state action next, KeyInv state ∧ Exact mac state →
      step state action = some next →
      (KeyInv next ∧ Exact mac next ↔ keepsExact state action = true) := by
    intro state action next good hstep
    rw [← good.1.exact_step_iff good.2 hstep]
    exact ⟨fun both => both.2, fun hexact => ⟨good.1.step hstep, hexact⟩⟩
  rw [← always_iff_restrict hexactly hstart ran]
  constructor
  · intro always earlier later middle hsplit hmiddle
    exact ⟨hinv earlier middle hmiddle, always earlier later middle hsplit hmiddle⟩
  · intro always earlier later middle hsplit hmiddle
    exact (always earlier later middle hsplit hmiddle).2

def seconds (count : Nat) : Nat := count * 1000000000

def firstKey : SigningKey := ⟨"first", [1]⟩
def secondKey : SigningKey := ⟨"second", [2]⟩

/-- A rotation after thirty days, with a window of an hour. -/
def rotation (refreshed : Bool) : Action :=
  .rotateIfNeeded (seconds 2592001) (seconds 2592000) (seconds 3600) secondKey refreshed

def restartedRun : List Action :=
  [.restart 0 (seconds 3600) firstKey, rotation true, .wait (seconds 2595601),
    .restart (seconds 2595602) (seconds 3600) ⟨"third", [3]⟩, .prune (seconds 2595602)]

theorem overlap_exact_in_restartedRun :
    ∃ system, run (restrict step fun system action => keepsExact system action = true)
        System.initial restartedRun = some system ∧
      system.created = [firstKey, secondKey] ∧
      ∀ earlier later middle, restartedRun = earlier ++ later →
        run step System.initial earlier = some middle →
          Exact (fun secret signingInput => secret ++ signingInput) middle := by
  have hrun : (run (restrict step fun system action => keepsExact system action = true)
      System.initial restartedRun).map System.created = some [firstKey, secondKey] := by
    decide
  obtain ⟨system, hrestricted, hcreated⟩ := Option.map_eq_some_iff.mp hrun
  have hsame : run step System.initial restartedRun =
      run (restrict step fun system action => keepsExact system action = true)
        System.initial restartedRun := by
    decide
  exact ⟨system, hrestricted, hcreated,
    (overlap_exact_iff (hsame.trans hrestricted)).mpr hrestricted⟩

/-- A second after its window has ended the first key still verifies; and when the keys cannot be
read after a rotation, the active key does not. -/
theorem overlap_not_exact :
    (∃ system, run step System.initial [.restart 0 (seconds 3600) firstKey, rotation true,
        .wait (seconds 2595602)] = some system ∧
      verifySignature (fun secret signingInput => secret ++ signingInput)
          (mintToken (fun secret signingInput => secret ++ signingInput) firstKey [])
          (system.keys.map KeyEntry.key) = .ok () ∧
      ¬ Recorded system.rows firstKey system.clock) ∧
    ∃ system, run step System.initial [.restart 0 (seconds 3600) firstKey, rotation false] =
        some system ∧
      verifySignature (fun secret signingInput => secret ++ signingInput)
          (mintToken (fun secret signingInput => secret ++ signingInput) secondKey [])
          (system.keys.map KeyEntry.key) =
        .error (.unauthorized "access token signed by an unknown key") ∧
      Recorded system.rows secondKey system.clock := by
  refine ⟨⟨_, rfl, ?_, ?_⟩, _, rfl, ?_, ?_⟩
  · decide
  · decide
  · decide
  · decide

end SigningKeys

end Hypeterm.App
