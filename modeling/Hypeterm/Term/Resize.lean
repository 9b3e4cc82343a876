import Hypeterm.Term.Emulator

/-! Resizing the phone's terminal, which rewraps the primary screen together with its
scrollback, and the snapshot that is rendered. -/
namespace Hypeterm.Term
open Library Checked

structure LogicalLine where
  cells : List Cell := []
  marks : Marks := []

def Line.usedLength (line : Line) : Nat := if line.wrapped then line.size else line.trimmedLength

def Line.logicalMarks (line : Line) (used base : Nat) : Marks :=
  (List.range (min used line.size)).filterMap fun column =>
    match line.marksAt column with
    | some (mark :: marks) => some (base + column, mark :: marks)
    | _ => none

structure Flattening where
  logical : List LogicalLine := []
  continues : Bool := false
  cursorLogical : Nat := 0
  cursorOffset : Nat := 0
  cursorPlaced : Bool := false

namespace Flattening

/-- Where a row that comes next begins in its logical line. -/
def base (flattening : Flattening) : Nat :=
  if flattening.continues then (flattening.logical.getLastD {}).cells.length else 0

/-- A row continues the last logical line or begins a new one. -/
def appendLine (flattening : Flattening) (line : Line) (used : Nat) : Flattening :=
  let target := if flattening.continues then flattening.logical.getLastD {} else {}
  let before := if flattening.continues then flattening.logical.dropLast else flattening.logical
  { flattening with
    logical := before ++
      [{ cells := target.cells ++ line.cells.take used
         marks := target.marks ++ line.logicalMarks used flattening.base }]
    continues := line.wrapped }

/-- The row of the cursor reaches at least up to the cursor. -/
def appendRow (flattening : Flattening) (line : Line) (row cursorRow cursorColumn : Int) :
    Checked Flattening :=
  if row = cursorRow then do
    let column ← size cursorColumn
    let next := flattening.appendLine line (max line.usedLength column)
    pure
      { next with
        cursorLogical := next.logical.length - 1
        cursorOffset := flattening.base + column
        cursorPlaced := true }
  else pure (flattening.appendLine line line.usedLength)

def complete (flattening : Flattening) : Flattening :=
  let logical := if flattening.logical = [] then [{}] else flattening.logical
  if flattening.cursorPlaced then { flattening with logical }
  else { flattening with logical, cursorLogical := logical.length - 1, cursorOffset := 0 }

end Flattening

/-- The last row that is not blank, or the cursor's when that is further down. -/
def lastMeaningful (lines : List Line) (cursorRow : Int) : Nat → Int → Checked Int
  | 0, _ => pure cursorRow
  | rounds + 1, row =>
      if cursorRow < row then do
        let line ← get lines row
        if line.trimmedLength ≠ 0 ∨ line.wrapped = true then pure row
        else do
          let above ← int (row - 1)
          lastMeaningful lines cursorRow rounds above
      else pure cursorRow

def flatten (scrollback : List Line) (screen : Screen) : Checked Flattening := do
  let saved := scrollback.foldl (fun flattening line => flattening.appendLine line line.usedLength) {}
  let last ← int (screen.rows - 1)
  let meaningful ← lastMeaningful screen.lines screen.cursorRow (last - screen.cursorRow).toNat last
  let rows ← int (meaningful + 1)
  let flattening ← forUp (fun row (flattening : Flattening) => do
    let line ← get screen.lines row
    flattening.appendRow line row screen.cursorRow screen.cursorColumn) rows.toNat 0 saved
  pure flattening.complete

def LogicalLine.chunk (source : LogicalLine) (width position : Nat) : Line :=
  let length := min width (source.cells.length - position)
  let cells := (source.cells.drop position).take length ++ List.replicate (width - length) default
  let line := source.marks.foldl (fun (line : Line) entry =>
    if position ≤ entry.1 ∧ entry.1 < position + length then
      entry.2.foldl (fun (line : Line) mark => line.addMark (entry.1 - position) mark) line
    else line) { cells }
  { line with wrapped := decide (position + length < source.cells.length) }

structure Rewrapping where
  lines : List Line := []
  cursorRow : Int := 0
  cursorColumn : Int := 0
  deriving DecidableEq

def Rewrapping.place (rewrapping : Rewrapping) (cursor : Option Nat) (width position : Nat)
    (more : Bool) : Checked Rewrapping :=
  match cursor with
  | none => pure rewrapping
  | some offset =>
      if position ≤ offset ∧ (offset < position + width ∨ more = false) then do
        let cursorRow ← int rewrapping.lines.length
        let cursorColumn ← int (min (offset - position) (width - 1) : Nat)
        pure { rewrapping with cursorRow, cursorColumn }
      else pure rewrapping

def LogicalLine.rewrap (source : LogicalLine) (width bound : Nat) (cursor : Option Nat) :
    Nat → Nat → Nat → Rewrapping → Checked Rewrapping
  | 0, _, _, rewrapping => pure rewrapping
  | rounds + 1, position, produced, rewrapping => do
      let line := source.chunk width position
      let rewrapping ← rewrapping.place cursor width position line.wrapped
      let rewrapping := { rewrapping with lines := rewrapping.lines ++ [line] }
      if bound < produced + 1 then pure rewrapping
      else if line.wrapped then
        source.rewrap width bound cursor rounds
          (position + min width (source.cells.length - position)) (produced + 1) rewrapping
      else pure rewrapping

def rewrapAll (width bound cursorLogical cursorOffset : Nat) :
    List LogicalLine → Nat → Rewrapping → Checked Rewrapping
  | [], _, rewrapping => pure rewrapping
  | source :: rest, index, rewrapping => do
      let cursor := if index = cursorLogical then some cursorOffset else none
      let rewrapping ←
        source.rewrap width bound cursor (source.cells.length + 1) 0 0 rewrapping
      rewrapAll width bound cursorLogical cursorOffset rest (index + 1) rewrapping

def Limits.productionBound (limits : Limits) : Nat := (1 + limits.maxLines) % 2 ^ 64

namespace Screen

def restoreRows (screen : Screen) (sink : Scrollback) (columns rows : Int) : Checked Screen := do
  let added ← int (rows - screen.rows)
  let count ← size added
  let (restored, sink) := sink.takeNewest count
  let screen := { screen with sink := some sink }
  if restored = [] then screen.resize columns rows
  else do
    let width ← size columns
    let height ← size rows
    let lines := restored.map (fun line => line.resize width {}) ++ screen.lines
    let lines := lines ++ List.replicate (height - lines.length) (Line.new width {})
    let cursorRow ← int (screen.cursorRow + restored.length)
    let screen ← screen.setGeometry columns rows
    screen.replaceLines lines cursorRow screen.cursorColumn

def rewrapRows (screen : Screen) (sink : Scrollback) (columns rows : Int) : Checked Screen := do
  let width ← size columns
  let height ← size rows
  let flattening ← flatten sink.lines screen
  let wrapped ← rewrapAll width sink.limits.productionBound flattening.cursorLogical
    flattening.cursorOffset flattening.logical 0 {}
  let start := wrapped.lines.length - height
  let lines := wrapped.lines.drop start
  let lines := lines ++ List.replicate (height - lines.length) (Line.new width {})
  let screen := { screen with sink := some (sink.replaceAll (wrapped.lines.take start)) }
  let above ← int start
  let cursorRow ← int (wrapped.cursorRow - above)
  let last ← int (rows - 1)
  let cursorRow := if cursorRow < 0 then 0 else cursorRow
  let cursorRow := if rows ≤ cursorRow then last else cursorRow
  let screen ← screen.setGeometry columns rows
  screen.replaceLines lines cursorRow wrapped.cursorColumn

/-- Nothing needs rewrapping when only the row count changes. -/
def reflowResize (screen : Screen) (columns rows : Int) : Checked Screen :=
  match screen.sink with
  | none => screen.resize columns rows
  | some sink =>
      if columns = screen.columns then
        if screen.rows < rows ∧ sink.lines ≠ [] then screen.restoreRows sink columns rows
        else screen.resize columns rows
      else screen.rewrapRows sink columns rows

end Screen

namespace Emulator

def resize (emulator : Emulator) (columns rows : Int) : Checked Emulator := do
  let columns := if columns < 1 then 1 else columns
  let rows := if rows < 1 then 1 else rows
  if columns = emulator.primary.columns ∧ rows = emulator.primary.rows then pure emulator
  else do
    let alt ← emulator.alt.resize columns rows
    let primary ← emulator.primary.reflowResize columns rows
    pure { emulator with primary, alt, modeRevision := emulator.modeRevision + 1 }

end Emulator

/-- `reset` is the full reset after a gap in the stream. -/
inductive Input where
  | feed (bytes : Bytes)
  | resize (columns rows : Int)
  | reset

def Emulator.accept (emulator : Emulator) (input : Input) : Checked Emulator :=
  match input with
  | .feed bytes => Emulator.feed bytes emulator
  | .resize columns rows => emulator.resize columns rows
  | .reset => emulator.reset

def Emulator.acceptAll : List Input → Emulator → Checked Emulator
  | [], emulator => pure emulator
  | input :: rest, emulator => do
      let emulator ← emulator.accept input
      acceptAll rest emulator

structure CursorState where
  row : Int
  column : Int
  visible : Bool
  blinking : Bool
  shape : CursorShape
  deriving DecidableEq

structure Selection where
  active : Bool := false
  startRow : Int := 0
  startColumn : Int := 0
  endRow : Int := 0
  endColumn : Int := 0
  rectangular : Bool := false
  deriving DecidableEq

structure Snapshot where
  columns : Int
  rows : Int
  lines : List Line
  cursor : CursorState
  selection : Selection
  reverseVideo : Bool
  altScreen : Bool
  scrollOffset : Nat
  scrollbackSize : Nat
  title : Bytes
  deriving DecidableEq

def Emulator.buildSnapshot (emulator : Emulator) (scrollOffset : Nat) (selection : Selection) :
    Snapshot :=
  let screen := emulator.active
  let available := if emulator.altScreenActive then 0 else emulator.scrollback.length
  let scrollOffset := min scrollOffset available
  let cursorRow := screen.cursorRow + scrollOffset
  { columns := screen.columns
    rows := screen.rows
    lines := ((emulator.scrollback.take available).drop (available - scrollOffset) ++
      screen.lines).take screen.rows.toNat
    cursor :=
      { row := if 0 ≤ cursorRow ∧ cursorRow < screen.rows then cursorRow else -1
        column := screen.cursorColumn
        visible := emulator.modes.cursorVisible
        blinking := emulator.modes.cursorBlinking
        shape := emulator.modes.cursorShape }
    selection
    reverseVideo := screen.reverseVideo
    altScreen := emulator.altScreenActive
    scrollOffset
    scrollbackSize := available
    title := emulator.modes.title }

end Hypeterm.Term
