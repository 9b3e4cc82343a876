import Hypeterm.Error
import Hypeterm.Library.Table
import Hypeterm.Library.Stream

/-! Durable terminals and their stored output.  Each statement of a transaction
is one list operation on a table; a constraint that fails aborts the whole
transaction, which leaves the store it started from. -/
namespace Hypeterm.Db

open Library

structure TerminalRow where
  terminalId : Uuid
  deviceId : Uuid
  identityId : String
  localRef : String
  label : String
  state : TerminalState
  cols : Option Nat
  rows : Option Nat
  term : Option String
  acceptsInput : Bool
  closeReason : Option String
  durableOffset : Nat
  earliestOffset : Nat
  deriving DecidableEq

structure OutputRow where
  terminalId : Uuid
  startOffset : Nat
  endOffset : Nat
  bytes : Bytes
  deriving DecidableEq

structure Store where
  terminals : List TerminalRow
  terminalOutput : List OutputRow
  deriving DecidableEq

def Store.empty : Store := ⟨[], []⟩

def getTerminal (store : Store) (terminalId : Uuid) : Option TerminalRow :=
  lookup TerminalRow.terminalId terminalId store.terminals

def uuidText (id : Uuid) : String :=
  let hex := (List.range 32).map fun i => Nat.digitChar (id.toNat / 16 ^ (31 - i) % 16)
  String.ofList (hex.take 8 ++ ['-'] ++ (hex.drop 8).take 4 ++ ['-'] ++ (hex.drop 12).take 4 ++
    ['-'] ++ (hex.drop 16).take 4 ++ ['-'] ++ hex.drop 20)

/-- `INSERT INTO terminals`: a new open terminal at offset zero.  Its identifier
must be new, and a device has at most one open terminal of a `local_ref`. -/
def insertTerminal (store : Store) (terminalId deviceId : Uuid) (identityId localRef label : String)
    (cols rows : Option Nat) (term : Option String) (acceptsInput : Bool) :
    Except ApiError (TerminalRow × Store) :=
  let row : TerminalRow :=
    { terminalId, deviceId, identityId, localRef, label, state := .opened, cols, rows, term
      acceptsInput, closeReason := none, durableOffset := 0, earliestOffset := 0 }
  if (getTerminal store terminalId).isSome then
    .error (.internal "database error: UNIQUE constraint failed: terminals.terminal_id")
  else if store.terminals.any fun stored =>
      stored.state = .opened ∧ stored.deviceId = deviceId ∧ stored.localRef = localRef then
    .error (.internal ("database error: UNIQUE constraint failed: " ++
      "terminals.device_id, terminals.local_ref"))
  else .ok (row, { store with terminals := store.terminals ++ [row] })

/-- `INSERT INTO terminal_output`: the terminal must exist, and one terminal
stores at most one chunk at a start offset. -/
def insertOutput (store : Store) (row : OutputRow) : Except ApiError Store :=
  if (getTerminal store row.terminalId).isNone then
    .error (.internal "database error: FOREIGN KEY constraint failed")
  else if store.terminalOutput.any fun stored =>
      stored.terminalId = row.terminalId ∧ stored.startOffset = row.startOffset then
    .error (.internal ("database error: UNIQUE constraint failed: " ++
      "terminal_output.terminal_id, terminal_output.start_offset"))
  else .ok { store with terminalOutput := store.terminalOutput ++ [row] }

def deleteOutput (store : Store) (terminalId : Uuid) (doomed : OutputRow → Bool) : Store :=
  { store with
    terminalOutput := store.terminalOutput.filter fun row =>
      !(row.terminalId = terminalId && doomed row) }

/-- One terminal's contribution to a checkpoint transaction. -/
structure TerminalCheckpoint where
  terminalId : Uuid
  chunkStart : Nat
  chunk : Bytes
  earliestOffset : Nat
  durableOffset : Nat
  closeReason : Option String
  deriving DecidableEq

/-- The chunk that starts below the retained window and reaches into it. -/
def straddling (store : Store) (terminalId : Uuid) (earliest : Nat) : Option OutputRow :=
  store.terminalOutput.find? fun row =>
    row.terminalId = terminalId && row.startOffset < earliest && earliest < row.endOffset

def trimStraddling (store : Store) (terminalId : Uuid) (earliest : Nat) :
    Except ApiError Store :=
  match straddling store terminalId earliest with
  | none => .ok store
  | some row =>
      let skip := earliest - row.startOffset
      if skip < row.bytes.length then
        insertOutput
          (deleteOutput store terminalId fun stored => stored.startOffset = row.startOffset)
          { terminalId, startOffset := earliest, endOffset := row.endOffset
            bytes := row.bytes.drop skip }
      else .ok store

def publishCheckpoint (checkpoint : TerminalCheckpoint) (row : TerminalRow) : TerminalRow :=
  match checkpoint.closeReason with
  | some reason =>
      { row with
        durableOffset := checkpoint.durableOffset
        earliestOffset := checkpoint.earliestOffset
        state := .closed
        closeReason := some reason }
  | none =>
      { row with
        durableOffset := checkpoint.durableOffset
        earliestOffset := checkpoint.earliestOffset }

def updateTerminal (store : Store) (checkpoint : TerminalCheckpoint) : Except ApiError Store :=
  if (getTerminal store checkpoint.terminalId).isSome &&
      checkpoint.durableOffset < checkpoint.earliestOffset then
    .error (.internal ("database error: CHECK constraint failed: " ++
      "earliest_offset <= durable_offset"))
  else
    .ok { store with
      terminals := update TerminalRow.terminalId checkpoint.terminalId
        (publishCheckpoint checkpoint) store.terminals }

def insertChunk (store : Store) (checkpoint : TerminalCheckpoint) : Except ApiError Store :=
  if checkpoint.chunk.isEmpty then .ok store
  else
    insertOutput store {
      terminalId := checkpoint.terminalId
      startOffset := checkpoint.chunkStart
      endOffset := checkpoint.durableOffset
      bytes := checkpoint.chunk }

def commitCheckpoint (store : Store) (checkpoint : TerminalCheckpoint) :
    Except ApiError Store := do
  let inserted ← insertChunk store checkpoint
  let deleted := deleteOutput inserted checkpoint.terminalId fun row =>
    row.endOffset ≤ checkpoint.earliestOffset
  let trimmed ← trimStraddling deleted checkpoint.terminalId checkpoint.earliestOffset
  updateTerminal trimmed checkpoint

def commitCheckpoints (store : Store) (batch : List TerminalCheckpoint) : Except ApiError Store :=
  batch.foldlM commitCheckpoint store

def listOpenTerminalsForDevice (store : Store) (deviceId : Uuid) : List TerminalRow :=
  store.terminals.filter fun row => row.deviceId = deviceId ∧ row.state = .opened

def findOpenTerminalByLocalRef (store : Store) (deviceId : Uuid) (localRef : String) :
    Option TerminalRow :=
  store.terminals.find? fun row =>
    row.deviceId = deviceId ∧ row.localRef = localRef ∧ row.state = .opened

def countOpenTerminalsForDevice (store : Store) (deviceId : Uuid) : Nat :=
  (store.terminals.filter fun row => row.deviceId = deviceId ∧ row.state = .opened).length

def closeTerminalWithoutOutput (store : Store) (terminalId : Uuid) (reason : String) : Store :=
  { store with
    terminals := update TerminalRow.terminalId terminalId
      (fun row =>
        if row.state = .opened then { row with state := .closed, closeReason := some reason }
        else row)
      store.terminals }

def outputAfter (store : Store) (terminalId : Uuid) (earliest : Nat) : List OutputRow :=
  (store.terminalOutput.filter fun row =>
    row.terminalId = terminalId && earliest < row.endOffset).insertionSort
      fun left right => left.startOffset ≤ right.startOffset

/-- Join the rows into one contiguous run of bytes.  A row that starts past the
expected offset is a hole in the replay stream, reported and not skipped. -/
def joinRows (terminalId : Uuid) : List OutputRow → Nat → Bytes → Except ApiError Bytes
  | [], _, out => .ok out
  | row :: rest, expected, out =>
      let skip := expected - row.startOffset
      if expected < row.startOffset then
        let id := uuidText terminalId
        .error (.internal s!"terminal {id} has a gap in stored output at offset {expected}")
      else if row.bytes.length ≤ skip then joinRows terminalId rest expected out
      else joinRows terminalId rest (row.startOffset + row.bytes.length) (out ++ row.bytes.drop skip)

/-- Contiguous retained payload of a terminal, used to rebuild the ring. -/
def loadTerminalOutput (store : Store) (terminalId : Uuid) (earliestOffset : Nat) :
    Except ApiError Bytes :=
  joinRows terminalId (outputAfter store terminalId earliestOffset) earliestOffset []

end Hypeterm.Db
