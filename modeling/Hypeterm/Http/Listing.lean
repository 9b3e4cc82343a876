import Hypeterm.Db.Listing
import Hypeterm.Http.WsPath
import Hypeterm.Settings.Patch
import Hypeterm.Settings.Snapshot

/-! The device and terminal lists.  A client asks for one page after another until a page
carries no cursor. -/
namespace Hypeterm.Http.Listing

open List

open Db (uuidText)
open Db.Listing
open Hypeterm.Http.Upgrade
open Library
open Settings
open Util

def resolveLimit (requested : Option Int64) (snapshot : Snapshot) : Except ApiError Int64 :=
  let max := Snapshot.int snapshot.values Keys.limitsMaxPageSize
  match requested with
  | none => .ok (min (Snapshot.int snapshot.values Keys.limitsDefaultPageSize) max)
  | some limit =>
      if 1 ≤ limit ∧ limit ≤ max then .ok limit
      else .error (.validation s!"limit must be between 1 and {max}")

def decodeCursor : Option String → Except ApiError (Option Cursor)
  | none => .ok none
  | some raw => (Cursor.decode raw).map some

/-- One extra row tells whether another page exists. -/
def respond {Row Item : Type} (table : Table Row Item) (reader : Reader)
    (select : Option Cursor → Int64 → List Row) (cursor : Option Cursor) (limit : Int64) :
    List Item × Option String :=
  let rows := (select cursor (limit + 1)).map (table.fromRow reader)
  if limit < Int64.ofNat rows.length then
    let rows := rows.take limit.toUInt64.toNat
    (rows, rows.getLast?.map fun row =>
      Cursor.encode (toRfc3339 (table.itemCreatedAt row)) (uuidText (table.itemId row)))
  else (rows, none)

def listDevicesPage (reader : Reader) (rows : List DeviceRow) (auth : Auth) (snapshot : Snapshot)
    (requested : Option Int64) (raw : Option String) :
    Except ApiError (List Device × Option String) := do
  auth.requireScope "devices:read"
  let limit ← resolveLimit requested snapshot
  let cursor ← decodeCursor raw
  pure (respond devices reader (listDevices rows auth.identityId) cursor limit)

structure TerminalQuery where
  deviceId : Option Uuid
  state : Option String

def parseStateFilter : Option String → Except ApiError (Option TerminalState)
  | none => .ok none
  | some raw =>
      match parseState raw with
      | some state => .ok (some state)
      | none => .error (.validation "state must be open or closed")

def listTerminalsPage (reader : Reader) (rows : List TerminalRow) (auth : Auth) (snapshot : Snapshot)
    (query : TerminalQuery) (requested : Option Int64) (raw : Option String) :
    Except ApiError (List Terminal × Option String) := do
  auth.requireScope "terminals:read"
  let limit ← resolveLimit requested snapshot
  let cursor ← decodeCursor raw
  let state ← parseStateFilter query.state
  pure (respond terminals reader (listTerminals rows auth.identityId ⟨query.deviceId, state⟩) cursor
    limit)

variable {Row Item : Type} {table : Table Row Item} {reader : Reader} {rows : List Row}

theorem resolveLimit_bounds {env : Settings.Env} {revision : Int} {settings : List SettingRow}
    {snapshot : Snapshot} (loaded : loadRows env revision settings = .ok snapshot)
    {requested : Option Int64} {limit : Int64}
    (resolved : resolveLimit requested snapshot = .ok limit) :
    ∃ size, 0 < size ∧ size ≤ 1000 ∧ limit = Int64.ofNat size := by
  have hmax := Snapshot.int_bounds loaded
    (by simp [defs] : SettingDef.int Keys.limitsMaxPageSize 100 1 1000 ∈ defs)
  have hdefault := Snapshot.int_bounds loaded
    (by simp [defs] : SettingDef.int Keys.limitsDefaultPageSize 50 1 1000 ∈ defs)
  have hlimit : 1 ≤ limit ∧ limit ≤ 1000 := by
    unfold resolveLimit at resolved
    dsimp only at resolved
    split at resolved
    · cases resolved
      rw [Std.min_eq_if]
      split
      · exact hdefault
      · exact hmax
    · split at resolved
      · rename_i hrange
        cases resolved
        exact ⟨hrange.1, Int64.le_trans hrange.2 hmax.2⟩
      · cases resolved
  have hpositive : 0 ≤ limit := Int64.le_trans (by decide) hlimit.1
  refine ⟨limit.toNatClampNeg, ?_, ?_, (Int64.ofNat_toNatClampNeg limit hpositive).symm⟩
  · exact (Int64.toNatClampNeg_le hlimit.1 : (1 : Int64).toNatClampNeg ≤ _)
  · exact (Int64.toNatClampNeg_le hlimit.2 : _ ≤ (1000 : Int64).toNatClampNeg)

def cursorText (last : String ×ₗ String) : String := Cursor.encode (ofLex last).1 (ofLex last).2

theorem decodeCursor_cursorText (stored : table.Stored rows) {after : Option (String ×ₗ String)}
    (known : ∀ last ∈ after, last ∈ rows.map table.key) :
    decodeCursor (after.map cursorText) = .ok (after.map Table.cursorOf) := by
  cases after with
  | none => rfl
  | some last =>
    obtain ⟨row, hrow, rfl⟩ := mem_map.mp (known last rfl)
    obtain ⟨uuid, instant, -, hcreated⟩ := stored.written row hrow
    have hplain : ∀ c ∈ (table.createdAt row).toList, c ≠ '|' := by
      rw [hcreated]
      rintro c hc rfl
      rcases mem_toRfc3339 hc with hdigit | hmark
      · cases hdigit
      · exact absurd hmark (by decide)
    change (Cursor.decode (Cursor.encode (table.createdAt row) (table.id row))).map some = _
    rw [Cursor.decode_encode hplain]
    rfl

theorem encode_fromRow (lawful : reader.Lawful) (stored : table.Stored rows) {row : Row}
    (mem : row ∈ rows) :
    Cursor.encode (toRfc3339 (table.itemCreatedAt (table.fromRow reader row)))
      (uuidText (table.itemId (table.fromRow reader row))) = cursorText (table.key row) := by
  obtain ⟨uuid, instant, hid, hcreated⟩ := stored.written row mem
  have hinstant : reader.instant (table.createdAt row) = instant.truncated := by
    rw [hcreated, Reader.instant, lawful.parse_toRfc3339]
    rfl
  have huuid : reader.uuid (table.id row) = uuid := by
    rw [hid, Reader.uuid, lawful.parse_uuidText]
    rfl
  rw [table.itemCreatedAt_fromRow, table.itemId_fromRow, hinstant, huuid,
    toRfc3339_congr micros_truncated, ← hcreated, ← hid]
  rfl

theorem respond_eq (lawful : reader.Lawful) (stored : table.Stored rows)
    (condition : Row → Bool) (after : Option (String ×ₗ String)) {size : Nat}
    (small : size ≤ 1000) :
    respond table reader (table.select rows condition) (after.map Table.cursorOf) (Int64.ofNat size) =
      ((Paging.page table.key (rows.filter condition) after size).1.map (table.fromRow reader),
        (Paging.page table.key (rows.filter condition) after size).2.map cursorText) := by
  have hlimit : ∀ rows : List Row, sqlLimit (Int64.ofNat size + 1) rows = rows.take (size + 1) := by
    intro rows
    have hnext : Int64.ofNat size + 1 = Int64.ofNat (size + 1) := (Int64.ofNat_add size 1).symm
    have hnonneg : ¬ Int64.ofNat (size + 1) < 0 :=
      Int64.not_lt.mpr (Int64.zero_le_ofNat_of_lt (by omega))
    unfold sqlLimit
    rw [hnext, if_neg hnonneg, Int64.toNatClampNeg_ofNat_of_lt (by omega)]
  unfold respond
  simp only [table.select_eq, hlimit, length_map]
  generalize hfound : (Paging.rowsAfter table.key (rows.filter condition) after).take (size + 1) =
    found
  have hlength : found.length ≤ size + 1 := by
    rw [← hfound, length_take]
    exact Nat.min_le_left _ _
  have hmore : Int64.ofNat size < Int64.ofNat found.length ↔ size < found.length :=
    Int64.ofNat_lt_iff_lt (by omega) (by omega)
  have hsize : (Int64.ofNat size).toUInt64.toNat = size := by
    rw [Int64.toUInt64_ofNat', UInt64.toNat_ofNat']
    omega
  have hmem : ∀ row ∈ found, row ∈ rows := by
    intro row hrow
    rw [← hfound] at hrow
    have hselected := (Paging.rowsAfter_perm after).mem_iff.mp (mem_of_mem_take hrow)
    exact mem_of_mem_filter (mem_of_mem_filter hselected)
  unfold Paging.page
  simp only [hfound, hmore, hsize, ← map_take]
  split
  · congr 1
    rw [getLast?_map, Option.map_map, Option.map_map]
    apply Option.map_congr
    intro row hrow
    exact encode_fromRow lawful stored (hmem row (mem_of_mem_take (mem_of_getLast? hrow)))
  · rfl

/-- Following the cursors gives every row that matches, once and in the order of creation. -/
def Complete (table : Table Row Item) (reader : Reader) (rows : List Row)
    (page : Nat → Option String → Except ApiError (List Item × Option String)) : Prop :=
  ∃ items, (∀ fuel, rows.length < fuel → Paging.follow page fuel 0 none = .ok (some items)) ∧
    items.Perm (rows.map (table.fromRow reader)) ∧
      items.Pairwise fun a b =>
        (table.itemCreatedAt a).nanos < (table.itemCreatedAt b).nanos ∨
          table.itemCreatedAt a = table.itemCreatedAt b ∧
            uuidText (table.itemId a) < uuidText (table.itemId b)

theorem Stored.keys (stored : table.Stored rows) : (rows.map table.key).Nodup := by
  have hids : (rows.map table.key).map (fun last => (ofLex last).2) = rows.map table.id := by
    rw [map_map]
    rfl
  apply Nodup.of_map
  rw [hids]
  exact stored.distinct

theorem Stored.filter (stored : table.Stored rows) (condition : Row → Bool) :
    table.Stored (rows.filter condition) where
  written row mem := stored.written row (mem_of_mem_filter mem)
  distinct := stored.distinct.sublist (filter_sublist.map table.id)

theorem earlier_of_key_lt (lawful : reader.Lawful) (stored : table.Stored rows) {a b : Row}
    (a_mem : a ∈ rows) (b_mem : b ∈ rows) (lt : table.key a < table.key b) :
    (table.itemCreatedAt (table.fromRow reader a)).nanos <
        (table.itemCreatedAt (table.fromRow reader b)).nanos ∨
      table.itemCreatedAt (table.fromRow reader a) = table.itemCreatedAt (table.fromRow reader b) ∧
        uuidText (table.itemId (table.fromRow reader a)) <
          uuidText (table.itemId (table.fromRow reader b)) := by
  obtain ⟨uuid, instant, hid, hcreated⟩ := stored.written a a_mem
  obtain ⟨uuid', instant', hid', hcreated'⟩ := stored.written b b_mem
  simp only [table.itemCreatedAt_fromRow, table.itemId_fromRow, Reader.instant, Reader.uuid,
    hid, hid', hcreated, hcreated', lawful.parse_toRfc3339, lawful.parse_uuidText, Option.getD_some]
  rcases (table.key_lt_key a b).mp lt with hlt | ⟨heq, hlt⟩
  · left
    rw [hcreated, hcreated', toRfc3339_lt_iff] at hlt
    exact Nat.mul_lt_mul_of_pos_right hlt (by decide)
  · right
    rw [hcreated, hcreated', toRfc3339_inj] at heq
    rw [hid, hid'] at hlt
    exact ⟨by simp only [Instant.truncated, heq], hlt⟩

theorem complete_of_answers (lawful : reader.Lawful) (stored : table.Stored rows)
    (condition : Row → Bool) {sizes : Nat → Nat}
    (sizes_bounds : ∀ number, 0 < sizes number ∧ sizes number ≤ 1000)
    {page : Nat → Option String → Except ApiError (List Item × Option String)}
    (answers : ∀ number raw cursor, decodeCursor raw = .ok cursor → page number raw =
      .ok (respond table reader (table.select rows condition) cursor (Int64.ofNat (sizes number)))) :
    Complete table reader (rows.filter condition) page := by
  have hstored := Stored.filter stored condition
  refine ⟨(Paging.rowsAfter table.key (rows.filter condition) none).map (table.fromRow reader),
    ?_, ?_, ?_⟩
  · intro fuel enough
    have hanswers : ∀ number after, (∀ last ∈ after, last ∈ (rows.filter condition).map table.key) →
        page number (after.map cursorText) = .ok
          ((Paging.page table.key (rows.filter condition) after (sizes number)).1.map
              (table.fromRow reader),
            (Paging.page table.key (rows.filter condition) after (sizes number)).2.map
              cursorText) := by
      intro number after known
      rw [answers number _ _ (decodeCursor_cursorText hstored known),
        respond_eq lawful stored condition after (sizes_bounds number).2]
    have hnone : ∀ last ∈ (none : Option (String ×ₗ String)),
        last ∈ (rows.filter condition).map table.key := by
      simp
    apply Paging.follow_eq (Stored.keys hstored) (fun number => (sizes_bounds number).1) hanswers 0
      hnone
    rw [(Paging.rowsAfter_perm none).length_eq]
    exact Nat.lt_of_le_of_lt (length_filter_le _ _) enough
  · apply Perm.map
    have hperm : (Paging.rowsAfter table.key (rows.filter condition) none).Perm _ :=
      Paging.rowsAfter_perm none
    simpa using hperm
  · rw [pairwise_map]
    have hsorted := Paging.rowsAfter_sorted (Stored.keys hstored) none
    apply List.Pairwise.imp_of_mem ?_ hsorted
    intro a b ha hb hlt
    have hmem : ∀ row ∈ Paging.rowsAfter table.key (rows.filter condition) none,
        row ∈ rows.filter condition := fun row hrow =>
      mem_of_mem_filter ((Paging.rowsAfter_perm none).mem_iff.mp hrow)
    exact earlier_of_key_lt lawful hstored (hmem a ha) (hmem b hb) hlt

def ownDevices (rows : List DeviceRow) (auth : Auth) : List DeviceRow :=
  rows.filter fun row => row.identityId = auth.identityId && row.revokedAt.isNone

def ownTerminals (rows : List TerminalRow) (auth : Auth) (filters : TerminalFilters) :
    List TerminalRow :=
  rows.filter (filters.matching auth.identityId)

/-- Pages of any size, each under a snapshot that was loaded, list every device and every
terminal of the caller that the filter admits. -/
theorem following_next_cursor_lists_every_row (lawful : reader.Lawful) {auth : Auth}
    {env : Settings.Env} {snapshots : Nat → Snapshot}
    (loaded : ∀ number, ∃ revision settings,
      loadRows env revision settings = .ok (snapshots number))
    {requested : Nat → Option Int64}
    (accepted : ∀ number, ∃ limit, resolveLimit (requested number) (snapshots number) = .ok limit) :
    (∀ rows : List DeviceRow, devices.Stored rows → auth.requireScope "devices:read" = .ok () →
      Complete devices reader (ownDevices rows auth) fun number raw =>
        listDevicesPage reader rows auth (snapshots number) (requested number) raw) ∧
      ∀ (rows : List TerminalRow) (filters : TerminalFilters), terminals.Stored rows →
        auth.requireScope "terminals:read" = .ok () →
        Complete terminals reader (ownTerminals rows auth filters) fun number raw =>
          listTerminalsPage reader rows auth (snapshots number)
            ⟨filters.deviceId, filters.state.map stateText⟩ (requested number) raw := by
  have hsizes : ∀ number, ∃ size, (0 < size ∧ size ≤ 1000) ∧
      resolveLimit (requested number) (snapshots number) = .ok (Int64.ofNat size) := by
    intro number
    obtain ⟨revision, settings, hloaded⟩ := loaded number
    obtain ⟨limit, hlimit⟩ := accepted number
    obtain ⟨size, hpositive, hsmall, rfl⟩ := resolveLimit_bounds hloaded hlimit
    exact ⟨size, ⟨hpositive, hsmall⟩, hlimit⟩
  choose sizes hbounds hresolved using hsizes
  constructor
  · intro rows stored permitted
    apply complete_of_answers lawful stored _ hbounds
    intro number raw cursor hcursor
    unfold listDevicesPage
    rw [permitted, hresolved, hcursor]
    rfl
  · intro rows filters stored permitted
    apply complete_of_answers lawful stored _ hbounds
    intro number raw cursor hcursor
    have hstate : parseStateFilter (filters.state.map stateText) = .ok filters.state := by
      cases hfilter : filters.state with
      | none => rfl
      | some state => simp [parseStateFilter, parseState_stateText]
    unfold listTerminalsPage
    rw [permitted, hresolved, hcursor, hstate]
    rfl

def sampleReader : Reader where
  parseRfc3339 := readRfc3339
  parseUuid text := readUuid text.toList
  now := ⟨0, by decide⟩

def sampleDevice (deviceId : Uuid) : DeviceRow where
  deviceId := uuidText deviceId
  identityId := "owner"
  algorithm := "ed25519"
  publicKey := []
  keyFingerprint := uuidText deviceId
  name := "laptop"
  createdAt := toRfc3339 sampleInstant
  lastSeenAt := none
  revokedAt := none
  role := "publisher"

def sampleTerminal (terminalId : Uuid) : TerminalRow where
  terminalId := uuidText terminalId
  deviceId := uuidText 7
  identityId := "owner"
  label := "shell"
  localRef := "shell"
  state := "open"
  cols := some 80
  rows := some 24
  term := none
  processLabel := none
  createdAt := toRfc3339 sampleInstant
  lastActivityAt := toRfc3339 sampleInstant
  closedAt := none
  closeReason := none
  durableOffset := 0
  earliestOffset := 0
  acceptsInput := 0

theorem sampleReader_lawful : sampleReader.Lawful where
  parse_toRfc3339 instant := by simp only [sampleReader, readRfc3339_toRfc3339]
  parse_uuidText uuid := by simp only [sampleReader, readUuid_uuidText]

theorem uuidText_injective : Function.Injective uuidText := by
  intro first second heq
  have hread := readUuid_uuidText first
  rw [heq, readUuid_uuidText] at hread
  exact (Option.some.inj hread).symm

theorem loadRows_default (env : Settings.Env) : loadRows env 1 [] = .ok ⟨1, Settings.defaults⟩ := by
  refine (loadRows_ok env).mpr ⟨emptyValues, rfl, (validateLoaded_ok env).mpr ⟨?_, ?_⟩, rfl⟩
  · rw [firstInvalid, findSome?_eq_none_iff]
    intro definition declared
    have hvalid := defs_default_valid definition declared
    simp only [resolve, findDef_of_mem declared, emptyValues, Option.map_some, Option.getD_none,
      Option.getD_some, hvalid]
  · exact defaults_combination env.metadata

theorem sampleDevices_stored : devices.Stored [sampleDevice 8, sampleDevice 7] where
  written row mem := by
    simp only [mem_cons, not_mem_nil, or_false] at mem
    rcases mem with rfl | rfl
    · exact ⟨8, sampleInstant, rfl, rfl⟩
    · exact ⟨7, sampleInstant, rfl, rfl⟩
  distinct := by
    have hne : uuidText 8 ≠ uuidText 7 := uuidText_injective.ne (by decide)
    simpa [devices, sampleDevice] using hne

theorem sampleTerminals_stored : terminals.Stored [sampleTerminal 4, sampleTerminal 3] where
  written row mem := by
    simp only [mem_cons, not_mem_nil, or_false] at mem
    rcases mem with rfl | rfl
    · exact ⟨4, sampleInstant, rfl, rfl⟩
    · exact ⟨3, sampleInstant, rfl, rfl⟩
  distinct := by
    have hne : uuidText 4 ≠ uuidText 3 := uuidText_injective.ne (by decide)
    simpa [terminals, sampleTerminal] using hne

def sampleAuth : Auth := ⟨.identity "owner", "owner", ["devices:read", "terminals:read"]⟩

theorem following_next_cursor_by_one :
    Complete devices sampleReader (ownDevices [sampleDevice 8, sampleDevice 7] sampleAuth)
        (fun _ raw => listDevicesPage sampleReader [sampleDevice 8, sampleDevice 7] sampleAuth
          ⟨1, Settings.defaults⟩ (some 1) raw) ∧
      Complete terminals sampleReader
        (ownTerminals [sampleTerminal 4, sampleTerminal 3] sampleAuth ⟨none, some .opened⟩)
        fun _ raw => listTerminalsPage sampleReader [sampleTerminal 4, sampleTerminal 3] sampleAuth
          ⟨1, Settings.defaults⟩ ⟨none, some "open"⟩ (some 1) raw := by
  have hlimit : resolveLimit (some 1) ⟨1, Settings.defaults⟩ = .ok 1 := by decide
  have hboth := @following_next_cursor_lists_every_row sampleReader sampleReader_lawful sampleAuth
    sampleEnv (fun _ => ⟨1, Settings.defaults⟩) (fun _ => ⟨1, [], loadRows_default sampleEnv⟩)
    (fun _ => some 1) (fun _ => ⟨1, hlimit⟩)
  exact ⟨hboth.1 _ sampleDevices_stored rfl,
    hboth.2 _ ⟨none, some .opened⟩ sampleTerminals_stored rfl⟩

end Hypeterm.Http.Listing
