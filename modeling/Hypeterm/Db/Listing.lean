import Hypeterm.Db.Output
import Hypeterm.Library.Paging
import Hypeterm.Settings.Net
import Hypeterm.Util
import Mathlib.Data.Prod.Lex

/-! The tables that are listed in pages: how a row is stored and read, the cursor between
two pages, and the statement that selects one page.  Instants and identifiers are stored
as text, and compared as text. -/
namespace Hypeterm.Db.Listing

open Library List
open Util

/-- What reading a row takes from outside: the parsers of its texts, and the time. -/
structure Reader where
  parseRfc3339 : String → Option Instant
  parseUuid : String → Option Uuid
  now : Instant

/-- What is written is read back, an instant up to the microseconds that its text has. -/
structure Reader.Lawful (reader : Reader) : Prop where
  parse_toRfc3339 : ∀ instant, reader.parseRfc3339 (toRfc3339 instant) = some instant.truncated
  parse_uuidText : ∀ uuid, reader.parseUuid (uuidText uuid) = some uuid

def Reader.uuid (reader : Reader) (text : String) : Uuid := (reader.parseUuid text).getD 0

def Reader.instant (reader : Reader) (text : String) : Instant :=
  (reader.parseRfc3339 text).getD reader.now

def Reader.maybeInstant (reader : Reader) (text : Option String) : Option Instant :=
  text.bind reader.parseRfc3339

structure DeviceRow where
  deviceId : String
  identityId : String
  algorithm : String
  publicKey : Bytes
  keyFingerprint : String
  name : String
  createdAt : String
  lastSeenAt : Option String
  revokedAt : Option String
  role : String

structure Device where
  deviceId : Uuid
  identityId : String
  algorithm : String
  publicKey : Bytes
  keyFingerprint : String
  name : String
  createdAt : Instant
  lastSeenAt : Option Instant
  revokedAt : Option Instant
  role : DeviceRole

def parseRole : String → Option DeviceRole
  | "publisher" => some .publisher
  | "client" => some .client
  | "both" => some .both
  | _ => none

/-- A row written before roles existed reads as the default, publisher. -/
def Device.fromRow (reader : Reader) (row : DeviceRow) : Device where
  deviceId := reader.uuid row.deviceId
  identityId := row.identityId
  algorithm := row.algorithm
  publicKey := row.publicKey
  keyFingerprint := row.keyFingerprint
  name := row.name
  createdAt := reader.instant row.createdAt
  lastSeenAt := reader.maybeInstant row.lastSeenAt
  revokedAt := reader.maybeInstant row.revokedAt
  role := (parseRole row.role).getD .publisher

structure TerminalRow where
  terminalId : String
  deviceId : String
  identityId : String
  label : String
  localRef : String
  state : String
  cols : Option Int64
  rows : Option Int64
  term : Option String
  processLabel : Option String
  createdAt : String
  lastActivityAt : String
  closedAt : Option String
  closeReason : Option String
  durableOffset : Int64
  earliestOffset : Int64
  acceptsInput : Int64

structure Terminal where
  terminalId : Uuid
  deviceId : Uuid
  identityId : String
  label : String
  localRef : String
  state : TerminalState
  cols : Option UInt32
  rows : Option UInt32
  term : Option String
  processLabel : Option String
  createdAt : Instant
  lastActivityAt : Instant
  closedAt : Option Instant
  closeReason : Option String
  durableOffset : UInt64
  earliestOffset : UInt64
  acceptsInput : Bool

def stateText : TerminalState → String
  | .opened => "open"
  | .closed => "closed"

def parseState : String → Option TerminalState
  | "open" => some .opened
  | "closed" => some .closed
  | _ => none

theorem parseState_stateText (state : TerminalState) : parseState (stateText state) = some state := by
  cases state <;> rfl

def Terminal.fromRow (reader : Reader) (row : TerminalRow) : Terminal where
  terminalId := reader.uuid row.terminalId
  deviceId := reader.uuid row.deviceId
  identityId := row.identityId
  label := row.label
  localRef := row.localRef
  state := (parseState row.state).getD .closed
  cols := row.cols.map fun value => value.toUInt64.toUInt32
  rows := row.rows.map fun value => value.toUInt64.toUInt32
  term := row.term
  processLabel := row.processLabel
  createdAt := reader.instant row.createdAt
  lastActivityAt := reader.instant row.lastActivityAt
  closedAt := reader.maybeInstant row.closedAt
  closeReason := row.closeReason
  durableOffset := (max row.durableOffset 0).toUInt64
  earliestOffset := (max row.earliestOffset 0).toUInt64
  acceptsInput := row.acceptsInput ≠ 0

structure Cursor where
  timestamp : String
  id : String

def malformedCursor : ApiError := .invalid "malformed cursor"

def Cursor.encode (timestamp id : String) : String := b64Encode (utf8Bytes (timestamp ++ "|" ++ id))

def Cursor.decode (raw : String) : Except ApiError Cursor :=
  match b64Decode raw with
  | none => .error malformedCursor
  | some bytes =>
      match fromUtf8 bytes with
      | none => .error malformedCursor
      | some text =>
          match Settings.Net.splitOnce '|' text.toList with
          | none => .error malformedCursor
          | some (timestamp, id) => .ok ⟨String.ofList timestamp, String.ofList id⟩

theorem Cursor.decode_encode {timestamp id : String} (plain : ∀ c ∈ timestamp.toList, c ≠ '|') :
    Cursor.decode (Cursor.encode timestamp id) = .ok ⟨timestamp, id⟩ := by
  have htext : (timestamp ++ "|" ++ id).toList = timestamp.toList ++ '|' :: id.toList := by simp
  have hfront : ∀ c ∈ timestamp.toList, decide (c ≠ '|') = true := fun c hc => by
    simpa using plain c hc
  have hsplit : Settings.Net.splitOnce '|' (timestamp ++ "|" ++ id).toList =
      some (timestamp.toList, id.toList) := by
    unfold Settings.Net.splitOnce
    rw [htext, dropWhile_append_of_pos hfront, takeWhile_append_of_pos hfront]
    simp
  unfold Cursor.decode Cursor.encode
  simp only [b64Decode_b64Encode, fromUtf8_utf8Bytes, hsplit, String.ofList_toList]

/-- A table that is listed: its primary key and the instant a row was created, in the row and
in what is read from it. -/
structure Table (Row Item : Type) where
  id : Row → String
  createdAt : Row → String
  fromRow : Reader → Row → Item
  itemId : Item → Uuid
  itemCreatedAt : Item → Instant
  itemId_fromRow : ∀ reader row, itemId (fromRow reader row) = reader.uuid (id row)
  itemCreatedAt_fromRow : ∀ reader row,
    itemCreatedAt (fromRow reader row) = reader.instant (createdAt row)

def devices : Table DeviceRow Device where
  id := DeviceRow.deviceId
  createdAt := DeviceRow.createdAt
  fromRow := Device.fromRow
  itemId := Device.deviceId
  itemCreatedAt := Device.createdAt
  itemId_fromRow _ _ := rfl
  itemCreatedAt_fromRow _ _ := rfl

def terminals : Table TerminalRow Terminal where
  id := TerminalRow.terminalId
  createdAt := TerminalRow.createdAt
  fromRow := Terminal.fromRow
  itemId := Terminal.terminalId
  itemCreatedAt := Terminal.createdAt
  itemId_fromRow _ _ := rfl
  itemCreatedAt_fromRow _ _ := rfl

variable {Row Item : Type}

def sqlLimit (limit : Int64) (rows : List Row) : List Row :=
  if limit < 0 then rows else rows.take limit.toNatClampNeg

namespace Table

variable (table : Table Row Item)

def isAfter (cursor : Cursor) (row : Row) : Bool :=
  cursor.timestamp < table.createdAt row ||
    (table.createdAt row = cursor.timestamp && cursor.id < table.id row)

def inOrder (a b : Row) : Bool :=
  table.createdAt a < table.createdAt b ||
    (table.createdAt a = table.createdAt b && table.id a ≤ table.id b)

def select (rows : List Row) (condition : Row → Bool) (cursor : Option Cursor) (limit : Int64) :
    List Row :=
  sqlLimit limit
    ((rows.filter fun row => condition row && cursor.all fun cursor => table.isAfter cursor row).mergeSort
      table.inOrder)

/-- The rows as they were inserted, under distinct keys. -/
structure Stored (rows : List Row) : Prop where
  written : ∀ row ∈ rows, ∃ uuid instant,
    table.id row = uuidText uuid ∧ table.createdAt row = toRfc3339 instant
  distinct : (rows.map table.id).Nodup

def key (row : Row) : String ×ₗ String := toLex (table.createdAt row, table.id row)

theorem key_lt_key (a b : Row) : table.key a < table.key b ↔
    table.createdAt a < table.createdAt b ∨
      table.createdAt a = table.createdAt b ∧ table.id a < table.id b :=
  Prod.Lex.toLex_lt_toLex

theorem inOrder_eq : table.inOrder = fun a b => decide (table.key a ≤ table.key b) := by
  funext a b
  have hle : table.key a ≤ table.key b ↔ table.createdAt a < table.createdAt b ∨
      table.createdAt a = table.createdAt b ∧ table.id a ≤ table.id b := Prod.Lex.toLex_le_toLex
  simp [inOrder, hle]

theorem isAfter_eq (cursor : Cursor) (row : Row) : table.isAfter cursor row =
    decide (toLex (cursor.timestamp, cursor.id) < table.key row) := by
  have hlt : toLex (cursor.timestamp, cursor.id) < table.key row ↔
      cursor.timestamp < table.createdAt row ∨
        cursor.timestamp = table.createdAt row ∧ cursor.id < table.id row :=
    Prod.Lex.toLex_lt_toLex
  rw [Bool.eq_iff_iff, decide_eq_true_iff, hlt, @eq_comm _ cursor.timestamp]
  simp only [isAfter, Bool.or_eq_true, Bool.and_eq_true, decide_eq_true_eq]

def cursorOf (last : String ×ₗ String) : Cursor := ⟨(ofLex last).1, (ofLex last).2⟩

theorem select_eq (rows : List Row) (condition : Row → Bool) (after : Option (String ×ₗ String))
    (limit : Int64) :
    table.select rows condition (after.map cursorOf) limit =
      sqlLimit limit (Paging.rowsAfter table.key (rows.filter condition) after) := by
  unfold select Paging.rowsAfter
  rw [inOrder_eq, filter_filter]
  congr 2
  apply filter_congr
  intro row _
  cases after with
  | none => simp
  | some last => simp [isAfter_eq, cursorOf, Bool.and_comm]

end Table

def listDevices (rows : List DeviceRow) (identityId : String) (cursor : Option Cursor)
    (limit : Int64) : List DeviceRow :=
  devices.select rows (fun row => row.identityId = identityId && row.revokedAt.isNone) cursor limit

structure TerminalFilters where
  deviceId : Option Uuid
  state : Option TerminalState

def TerminalFilters.matching (filters : TerminalFilters) (identityId : String) (row : TerminalRow) :
    Bool :=
  row.identityId = identityId && (filters.deviceId.all fun id => row.deviceId = uuidText id) &&
    filters.state.all fun state => row.state = stateText state

def listTerminals (rows : List TerminalRow) (identityId : String) (filters : TerminalFilters)
    (cursor : Option Cursor) (limit : Int64) : List TerminalRow :=
  terminals.select rows (filters.matching identityId) cursor limit

end Hypeterm.Db.Listing
