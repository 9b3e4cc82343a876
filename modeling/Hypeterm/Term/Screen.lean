import Hypeterm.Term.Scrollback

/-! One screen buffer of the phone's terminal: the grid, the cursor and the modes that the
grid needs.  Rows and columns are the `int`s of the code, so arithmetic and indices are
checked. -/
namespace Hypeterm.Term
open Library Checked

structure SavedCursorState where
  row : Int := 0
  column : Int := 0
  pen : Pen := {}
  originMode : Bool := false
  autowrap : Bool := true
  valid : Bool := false
  deriving DecidableEq

/-- `sink` takes the rows that scroll off the top; the alternate screen has none. -/
structure Screen where
  columns : Int
  rows : Int
  sink : Option Scrollback
  lines : List Line
  cursorRow : Int := 0
  cursorColumn : Int := 0
  pendingWrap : Bool := false
  lastWrittenRow : Int := -1
  lastWrittenColumn : Int := -1
  lastWrittenChar : Nat := 0
  lastWrittenWidth : Int := 1
  pen : Pen := {}
  originMode : Bool := false
  autowrap : Bool := true
  insertMode : Bool := false
  reverseVideo : Bool := false
  scrollTop : Int := 0
  scrollBottom : Int := 0
  tabStops : List Bool := []
  saved : SavedCursorState := {}
  revision : Nat := 1

def clamp (value low high : Int) : Int :=
  if value < low then low else if high < value then high else value

def tabStopsFrom (columns : Int) : Nat → Int → List Bool → Checked (List Bool)
  | 0, _, stops => pure stops
  | rounds + 1, column, stops =>
      if column < columns then do
        let stops ← put stops column true
        let next ← int (column + 8)
        tabStopsFrom columns rounds next stops
      else pure stops

def defaultTabStops (columns : Int) : Checked (List Bool) := do
  let count ← size columns
  tabStopsFrom columns count 8 (List.replicate count false)

namespace Screen

def new (columns rows : Int) (sink : Option Scrollback) : Checked Screen := do
  let columns := if columns < 1 then 1 else columns
  let rows := if rows < 1 then 1 else rows
  let width ← size columns
  let height ← size rows
  let scrollBottom ← int (rows - 1)
  let tabStops ← defaultTabStops columns
  pure
    { columns, rows, sink, scrollBottom, tabStops
      lines := List.replicate height (Line.new width (blankCell {})) }

/-- Rows may be shared, so one is copied before it is written. -/
def mutableLine (screen : Screen) (row : Int) (edit : Line → Checked Line) : Checked Screen := do
  let line ← get screen.lines row
  let line ← edit line
  let lines ← put screen.lines row line
  pure { screen with lines, revision := screen.revision + 1 }

def topLimit (screen : Screen) : Int := if screen.originMode then screen.scrollTop else 0

def bottomLimit (screen : Screen) : Checked Int :=
  if screen.originMode then pure screen.scrollBottom else int (screen.rows - 1)

def setOriginMode (screen : Screen) (value : Bool) : Screen :=
  let screen := { screen with originMode := value }
  { screen with cursorRow := screen.topLimit, cursorColumn := 0, pendingWrap := false }

def setReverseVideo (screen : Screen) (value : Bool) : Screen :=
  { screen with
    revision := if screen.reverseVideo != value then screen.revision + 1 else screen.revision
    reverseVideo := value }

/-- An inverted or degenerate region resets to the whole screen. -/
def setScrollRegion (screen : Screen) (top bottom : Int) : Checked Screen := do
  let last ← int (screen.rows - 1)
  let top := if top < 0 then 0 else top
  let bottom := if bottom < 0 ∨ last < bottom then last else bottom
  let screen :=
    if bottom ≤ top then { screen with scrollTop := 0, scrollBottom := last }
    else { screen with scrollTop := top, scrollBottom := bottom }
  pure { screen with cursorRow := screen.topLimit, cursorColumn := 0, pendingWrap := false }

def clampCursor (screen : Screen) : Checked Screen := do
  let lastRow ← int (screen.rows - 1)
  let lastColumn ← int (screen.columns - 1)
  pure
    { screen with
      cursorRow := clamp screen.cursorRow 0 lastRow
      cursorColumn := clamp screen.cursorColumn 0 lastColumn }

/-- Turns the other half of a wide character that is about to be overwritten into a space. -/
def clearWideCharAt (columns : Int) (line : Line) (column : Int) : Checked Line :=
  if column < 0 ∨ columns ≤ column then pure line
  else do
    let cell ← line.cellAt column
    let next ← int (column + 1)
    if cell.isContinuation ∧ 0 < column then
      let before ← int (column - 1)
      let lead ← line.cellAt before
      let line ← (
        if lead.width = 2 then do
          let line ← line.setCellAt before { lead with code := space, width := 1 }
          let before ← size before
          pure (line.clearMarks before)
        else pure line)
      line.setCellAt column { cell with code := space, width := 1 }
    else if cell.width = 2 ∧ next < columns then
      let tail ← line.cellAt next
      let line ← (
        if tail.isContinuation then line.setCellAt next { tail with code := space, width := 1 }
        else pure line)
      let column ← size column
      pure (line.clearMarks column)
    else pure line

def pushLine (screen : Screen) (line : Line) : Screen :=
  { screen with sink := screen.sink.map fun sink => sink.pushLine line }

def scrollRegionUp (screen : Screen) (top bottom count : Int) (toScrollback : Bool) :
    Checked Screen :=
  if top < 0 ∨ screen.rows ≤ bottom ∨ bottom < top then pure screen
  else do
    let distance ← int (bottom - top)
    let height ← int (distance + 1)
    let count := if height < count then height else count
    if count ≤ 0 then pure screen
    else do
      let screen ← forUp (fun i screen => do
        let row ← int (top + i)
        let line ← get screen.lines row
        pure (if toScrollback then screen.pushLine line else screen)) count.toNat 0 screen
      let lines ← forUp (fun row lines => do
        let source ← int (row + count)
        let line ← get lines source
        put lines row line) (height - count).toNat top screen.lines
      let kept ← int (bottom - count)
      let fresh ← int (kept + 1)
      let width ← size screen.columns
      let lines ← forUp (fun row lines => put lines row (Line.new width (blankCell screen.pen)))
        count.toNat fresh lines
      pure { screen with lines, revision := screen.revision + 1 }

def scrollRegionDown (screen : Screen) (top bottom count : Int) : Checked Screen :=
  if top < 0 ∨ screen.rows ≤ bottom ∨ bottom < top then pure screen
  else do
    let distance ← int (bottom - top)
    let height ← int (distance + 1)
    let count := if height < count then height else count
    if count ≤ 0 then pure screen
    else do
      let lines ← forDown (fun row lines => do
        let source ← int (row - count)
        let line ← get lines source
        put lines row line) (height - count).toNat bottom screen.lines
      let width ← size screen.columns
      let lines ← forUp (fun row lines => put lines row (Line.new width (blankCell screen.pen)))
        count.toNat top lines
      pure { screen with lines, revision := screen.revision + 1 }

def lineFeed (screen : Screen) : Checked Screen := do
  let last ← int (screen.rows - 1)
  let screen ← (
    if screen.cursorRow = screen.scrollBottom then
      screen.scrollRegionUp screen.scrollTop screen.scrollBottom 1 (screen.scrollTop == 0)
    else if screen.cursorRow < last then do
      let cursorRow ← int (screen.cursorRow + 1)
      pure { screen with cursorRow }
    else pure screen)
  pure { screen with pendingWrap := false }

def reverseIndex (screen : Screen) : Checked Screen := do
  let screen ← (
    if screen.cursorRow = screen.scrollTop then
      screen.scrollRegionDown screen.scrollTop screen.scrollBottom 1
    else if 0 < screen.cursorRow then do
      let cursorRow ← int (screen.cursorRow - 1)
      pure { screen with cursorRow }
    else pure screen)
  pure { screen with pendingWrap := false }

def scrollUp (screen : Screen) (count : Int) : Checked Screen :=
  screen.scrollRegionUp screen.scrollTop screen.scrollBottom (if count < 1 then 1 else count)
    (screen.scrollTop == 0)

def scrollDown (screen : Screen) (count : Int) : Checked Screen :=
  screen.scrollRegionDown screen.scrollTop screen.scrollBottom (if count < 1 then 1 else count)

def insertLines (screen : Screen) (count : Int) : Checked Screen :=
  if screen.cursorRow < screen.scrollTop ∨ screen.scrollBottom < screen.cursorRow then pure screen
  else do
    let screen ← screen.scrollRegionDown screen.cursorRow screen.scrollBottom
      (if count < 1 then 1 else count)
    pure { screen with cursorColumn := 0, pendingWrap := false }

def deleteLines (screen : Screen) (count : Int) : Checked Screen :=
  if screen.cursorRow < screen.scrollTop ∨ screen.scrollBottom < screen.cursorRow then pure screen
  else do
    let screen ← screen.scrollRegionUp screen.cursorRow screen.scrollBottom
      (if count < 1 then 1 else count) false
    pure { screen with cursorColumn := 0, pendingWrap := false }

def fillRows (screen : Screen) (first count : Int) (blank : Cell) : Checked Screen :=
  forUp (fun row screen => screen.mutableLine row fun line => pure (line.fill blank))
    count.toNat first screen

def eraseInDisplay (screen : Screen) (mode : Int) : Checked Screen := do
  let blank := blankCell screen.pen
  let screen ← (
    if mode = 0 then do
      let screen ← screen.mutableLine screen.cursorRow fun line => do
        let first ← size screen.cursorColumn
        let last ← size screen.columns
        pure (line.fillRange first last blank)
      let screen ← screen.mutableLine screen.cursorRow fun line =>
        pure { line with wrapped := false }
      let below ← int (screen.cursorRow + 1)
      screen.fillRows below (screen.rows - below) blank
    else if mode = 1 then do
      let screen ← screen.mutableLine screen.cursorRow fun line => do
        let column ← size screen.cursorColumn
        pure (line.fillRange 0 (column + 1) blank)
      screen.fillRows 0 screen.cursorRow blank
    else if mode = 2 then screen.fillRows 0 screen.rows blank
    else if mode = 3 then
      pure { screen with sink := screen.sink.map Scrollback.clearScrollback }
    else pure screen)
  pure { screen with pendingWrap := false }

def eraseInLine (screen : Screen) (mode : Int) : Checked Screen := do
  let blank := blankCell screen.pen
  let screen ← screen.mutableLine screen.cursorRow fun line =>
    if mode = 0 then do
      let first ← size screen.cursorColumn
      let last ← size screen.columns
      pure { line.fillRange first last blank with wrapped := false }
    else if mode = 1 then do
      let column ← size screen.cursorColumn
      pure (line.fillRange 0 (column + 1) blank)
    else if mode = 2 then pure (line.fill blank)
    else pure line
  pure { screen with pendingWrap := false }

def eraseCharacters (screen : Screen) (count : Int) : Checked Screen := do
  let count := if count < 1 then 1 else count
  let screen ← screen.mutableLine screen.cursorRow fun line => do
    let first ← size screen.cursorColumn
    let count ← size count
    let line ← clearWideCharAt screen.columns line screen.cursorColumn
    pure (line.fillRange first (first + count) (blankCell screen.pen))
  pure { screen with pendingWrap := false }

def insertCharacters (screen : Screen) (count : Int) : Checked Screen := do
  let count := if count < 1 then 1 else count
  let room ← int (screen.columns - screen.cursorColumn)
  let count := if room < count then room else count
  if count ≤ 0 then pure screen
  else do
    let screen ← screen.mutableLine screen.cursorRow fun line => do
      let line ← clearWideCharAt screen.columns line screen.cursorColumn
      let last ← int (screen.columns - 1)
      let line ← forDown (fun column line => do
        let source ← int (column - count)
        let cell ← line.cellAt source
        line.setCellAt column cell) (room - count).toNat last line
      let first ← size screen.cursorColumn
      let limit ← size screen.columns
      let after ← int (screen.cursorColumn + count)
      let after ← size after
      pure ((line.shiftMarks first count limit).fillRange first after (blankCell screen.pen))
    pure { screen with pendingWrap := false }

def deleteCharacters (screen : Screen) (count : Int) : Checked Screen := do
  let count := if count < 1 then 1 else count
  let room ← int (screen.columns - screen.cursorColumn)
  let count := if room < count then room else count
  if count ≤ 0 then pure screen
  else do
    let screen ← screen.mutableLine screen.cursorRow fun line => do
      let line ← clearWideCharAt screen.columns line screen.cursorColumn
      let line ← forUp (fun column line => do
        let source ← int (column + count)
        let cell ← line.cellAt source
        line.setCellAt column cell) (room - count).toNat screen.cursorColumn line
      let first ← size screen.cursorColumn
      let limit ← size screen.columns
      let kept ← int (screen.columns - count)
      let kept ← size kept
      pure ((line.shiftMarks first (-count) limit).fillRange kept limit (blankCell screen.pen))
    pure { screen with pendingWrap := false }

def addCombiningMark (screen : Screen) (mark : Nat) : Checked Screen :=
  if screen.lastWrittenRow < 0 ∨ screen.rows ≤ screen.lastWrittenRow then pure screen
  else if screen.lastWrittenColumn < 0 ∨ screen.columns ≤ screen.lastWrittenColumn then pure screen
  else
    screen.mutableLine screen.lastWrittenRow fun line => do
      let column ← size screen.lastWrittenColumn
      pure (line.addMark column mark)

def writtenCell (pen : Pen) (codePoint : Nat) (width : Int) : Cell where
  code := codePoint
  fg := pen.fg
  bg := pen.bg
  underlineColor := pen.underlineColor
  flags := pen.flags
  width := width.toNat % 256

def continuationCell (lead : Cell) : Cell :=
  Cell.clearHasMarks { lead with code := 0, width := 0 }

def writeCell (columns : Int) (pen : Pen) (codePoint : Nat) (width column : Int) (line : Line) :
    Checked Line := do
  let next ← int (column + 1)
  let line ← clearWideCharAt columns line column
  let line ← (if width = 2 then clearWideCharAt columns line next else pure line)
  let here ← size column
  let cell := writtenCell pen codePoint width
  let line ← (line.clearMarks here).setCellAt column cell
  if width = 2 ∧ next < columns then
    let after ← size next
    (line.clearMarks after).setCellAt next (continuationCell cell)
  else pure line

def takePendingWrap (screen : Screen) : Checked Screen :=
  if screen.pendingWrap then do
    let screen ← screen.mutableLine screen.cursorRow fun line => pure { line with wrapped := true }
    let screen ← lineFeed { screen with cursorColumn := 0 }
    pure { screen with pendingWrap := false }
  else pure screen

/-- The last cell of the row, which has no room for a wide character, is blanked. -/
def blankAtMargin (screen : Screen) (edit : Line → Checked Line) : Checked Screen :=
  screen.mutableLine screen.cursorRow fun line => do
    let line ← edit line
    let first ← size screen.cursorColumn
    let after ← int (screen.cursorColumn + 1)
    let after ← size after
    pure (line.fillRange first after (blankCell screen.pen))

def writeAtCursor (screen : Screen) (codePoint : Nat) (width : Int) : Checked Screen := do
  let screen ← (if screen.insertMode then screen.insertCharacters width else pure screen)
  let screen ← screen.mutableLine screen.cursorRow fun line =>
    writeCell screen.columns screen.pen codePoint width screen.cursorColumn line
  let screen :=
    { screen with
      lastWrittenRow := screen.cursorRow
      lastWrittenColumn := screen.cursorColumn
      lastWrittenChar := codePoint
      lastWrittenWidth := width }
  let cursorColumn ← int (screen.cursorColumn + width)
  let last ← int (screen.columns - 1)
  if screen.columns ≤ cursorColumn then
    pure { screen with cursorColumn := last, pendingWrap := screen.autowrap }
  else pure { screen with cursorColumn }

/-- A wide character never straddles the right margin: it wraps or, without autowrap, is
not drawn. -/
def putChar (screen : Screen) (codePoint : Nat) (width : Int) : Checked Screen :=
  if width ≤ 0 then screen.addCombiningMark codePoint
  else do
    let screen ← screen.takePendingWrap
    let last ← int (screen.columns - 1)
    if width = 2 ∧ screen.cursorColumn = last then
      if screen.autowrap then do
        let screen ← screen.blankAtMargin fun line => pure { line with wrapped := true }
        let screen ← lineFeed { screen with cursorColumn := 0 }
        screen.writeAtCursor codePoint width
      else
        screen.blankAtMargin fun line => clearWideCharAt screen.columns line screen.cursorColumn
    else screen.writeAtCursor codePoint width

def repeatLast (screen : Screen) (count : Int) : Checked Screen :=
  if screen.lastWrittenChar = 0 ∨ count ≤ 0 then pure screen
  else do
    let area ← int (screen.columns * screen.rows)
    forUp (fun _ next => next.putChar screen.lastWrittenChar screen.lastWrittenWidth)
      (min count area).toNat 0 screen

def fillScreen (screen : Screen) (codePoint : Nat) : Checked Screen := do
  let fill := { blankCell screen.pen with code := codePoint }
  let screen ← screen.fillRows 0 screen.rows fill
  pure { screen with cursorRow := 0, cursorColumn := 0, pendingWrap := false }

def carriageReturn (screen : Screen) : Screen :=
  { screen with cursorColumn := 0, pendingWrap := false }

def backspace (screen : Screen) : Checked Screen :=
  if screen.pendingWrap then pure { screen with pendingWrap := false }
  else if 0 < screen.cursorColumn then do
    let cursorColumn ← int (screen.cursorColumn - 1)
    pure { screen with cursorColumn }
  else pure screen

def nextTabStop (tabStops : List Bool) (last : Int) : Nat → Int → Checked Int
  | 0, column => pure column
  | rounds + 1, column =>
      if column < last then do
        let stop ← get tabStops column
        if stop then pure column
        else do
          let next ← int (column + 1)
          nextTabStop tabStops last rounds next
      else pure column

def previousTabStop (tabStops : List Bool) : Nat → Int → Checked Int
  | 0, column => pure column
  | rounds + 1, column =>
      if 0 < column then do
        let stop ← get tabStops column
        if stop then pure column
        else do
          let previous ← int (column - 1)
          previousTabStop tabStops rounds previous
      else pure column

def tabFrom (tabStops : List Bool) (last : Int) : Nat → Int → Checked Int
  | 0, column => pure column
  | rounds + 1, column =>
      if column < last then do
        let next ← int (column + 1)
        let column ← nextTabStop tabStops last (last - next).toNat next
        tabFrom tabStops last rounds column
      else pure column

def backTabFrom (tabStops : List Bool) : Nat → Int → Checked Int
  | 0, column => pure column
  | rounds + 1, column =>
      if 0 < column then do
        let previous ← int (column - 1)
        let column ← previousTabStop tabStops previous.toNat previous
        backTabFrom tabStops rounds column
      else pure column

def tab (screen : Screen) (count : Int) : Checked Screen := do
  let last ← int (screen.columns - 1)
  let cursorColumn ← tabFrom screen.tabStops last count.toNat screen.cursorColumn
  pure { screen with cursorColumn, pendingWrap := false }

def backTab (screen : Screen) (count : Int) : Checked Screen := do
  let cursorColumn ← backTabFrom screen.tabStops count.toNat screen.cursorColumn
  pure { screen with cursorColumn, pendingWrap := false }

def setTabStop (screen : Screen) : Checked Screen :=
  if 0 ≤ screen.cursorColumn ∧ screen.cursorColumn < screen.columns then do
    let tabStops ← put screen.tabStops screen.cursorColumn true
    pure { screen with tabStops }
  else pure screen

def clearTabStop (screen : Screen) (mode : Int) : Checked Screen :=
  if mode = 3 then
    pure { screen with tabStops := List.replicate screen.tabStops.length false }
  else if 0 ≤ screen.cursorColumn ∧ screen.cursorColumn < screen.columns then do
    let tabStops ← put screen.tabStops screen.cursorColumn false
    pure { screen with tabStops }
  else pure screen

/-- Stops at the scroll region when it starts inside or below it. -/
def cursorUp (screen : Screen) (count : Int) (resetColumn : Bool) : Checked Screen := do
  let limit := if screen.scrollTop ≤ screen.cursorRow then screen.scrollTop else 0
  let row ← int (screen.cursorRow - if count < 1 then 1 else count)
  pure
    { screen with
      cursorRow := max limit row
      cursorColumn := if resetColumn then 0 else screen.cursorColumn
      pendingWrap := false }

def cursorDown (screen : Screen) (count : Int) (resetColumn : Bool) : Checked Screen := do
  let last ← int (screen.rows - 1)
  let limit := if screen.cursorRow ≤ screen.scrollBottom then screen.scrollBottom else last
  let row ← int (screen.cursorRow + if count < 1 then 1 else count)
  pure
    { screen with
      cursorRow := min limit row
      cursorColumn := if resetColumn then 0 else screen.cursorColumn
      pendingWrap := false }

def cursorForward (screen : Screen) (count : Int) : Checked Screen := do
  let last ← int (screen.columns - 1)
  let column ← int (screen.cursorColumn + if count < 1 then 1 else count)
  pure { screen with cursorColumn := min last column, pendingWrap := false }

def cursorBackward (screen : Screen) (count : Int) : Checked Screen := do
  let column ← int (screen.cursorColumn - if count < 1 then 1 else count)
  pure { screen with cursorColumn := max 0 column, pendingWrap := false }

def cursorToColumn (screen : Screen) (column : Int) : Checked Screen := do
  let last ← int (screen.columns - 1)
  pure { screen with cursorColumn := clamp column 0 last, pendingWrap := false }

def cursorToRow (screen : Screen) (row : Int) : Checked Screen := do
  let row ← int (row + screen.topLimit)
  let bottom ← screen.bottomLimit
  pure { screen with cursorRow := clamp row screen.topLimit bottom, pendingWrap := false }

def cursorToPosition (screen : Screen) (row column : Int) : Checked Screen := do
  let row ← int (row + screen.topLimit)
  let bottom ← screen.bottomLimit
  let last ← int (screen.columns - 1)
  pure
    { screen with
      cursorRow := clamp row screen.topLimit bottom
      cursorColumn := clamp column 0 last
      pendingWrap := false }

def saveCursor (screen : Screen) : Screen :=
  { screen with
    saved :=
      { row := screen.cursorRow
        column := screen.cursorColumn
        pen := screen.pen
        originMode := screen.originMode
        autowrap := screen.autowrap
        valid := true } }

/-- Without a saved cursor, home; the pen and the modes then stay. -/
def restoreCursor (screen : Screen) : Checked Screen :=
  if screen.saved.valid then do
    let lastRow ← int (screen.rows - 1)
    let lastColumn ← int (screen.columns - 1)
    pure
      { screen with
        originMode := screen.saved.originMode
        autowrap := screen.saved.autowrap
        pen := screen.saved.pen
        cursorRow := clamp screen.saved.row 0 lastRow
        cursorColumn := clamp screen.saved.column 0 lastColumn
        pendingWrap := false }
  else pure { screen with cursorRow := 0, cursorColumn := 0, pendingWrap := false }

def clearAll (screen : Screen) : Checked Screen := do
  let width ← size screen.columns
  let lines ← forUp (fun row lines => put lines row (Line.new width (blankCell screen.pen)))
    screen.rows.toNat 0 screen.lines
  pure
    { screen with
      lines
      cursorRow := 0
      cursorColumn := 0
      pendingWrap := false
      lastWrittenRow := -1
      lastWrittenColumn := -1
      revision := screen.revision + 1 }

def reset (screen : Screen) : Checked Screen := do
  let scrollBottom ← int (screen.rows - 1)
  let tabStops ← defaultTabStops screen.columns
  clearAll
    { screen with
      pen := {}
      originMode := false
      autowrap := true
      insertMode := false
      reverseVideo := false
      scrollTop := 0
      scrollBottom
      saved := {}
      lastWrittenChar := 0
      lastWrittenWidth := 1
      tabStops }

/-- How many of the rows from the bottom up are blank and below the cursor, at most `excess`. -/
def removableBelow (lines : List Line) (cursorRow : Int) : Nat → Int → Checked Nat
  | 0, _ => pure 0
  | excess + 1, row =>
      if cursorRow < row then do
        let line ← get lines row
        if line.trimmedLength ≠ 0 then pure 0
        else do
          let above ← int (row - 1)
          let more ← removableBelow lines cursorRow excess above
          pure (more + 1)
      else pure 0

def dropTop : Nat → Screen → Checked Screen
  | 0, screen => pure screen
  | count + 1, screen => do
      let front ← get screen.lines 0
      let screen := { screen.pushLine front with lines := screen.lines.drop 1 }
      let above ← int (screen.cursorRow - 1)
      dropTop count (if 0 < screen.cursorRow then { screen with cursorRow := above } else screen)

/-- Blank rows below the cursor go first, then rows from the top into the scrollback. -/
def shrinkRows (screen : Screen) (rows : Int) : Checked Screen := do
  let excess ← int (screen.rows - rows)
  let last ← int (screen.rows - 1)
  let removable ← removableBelow screen.lines screen.cursorRow excess.toNat last
  let below := min excess.toNat removable
  let above ← int (excess - below)
  dropTop above.toNat { screen with lines := screen.lines.take (screen.lines.length - below) }

def growRows (screen : Screen) (rows : Int) : Checked Screen := do
  let width ← size screen.columns
  let added ← int (rows - screen.rows)
  pure
    { screen with
      lines := screen.lines ++ List.replicate added.toNat (Line.new width (blankCell {})) }

def afterResize (screen : Screen) : Checked Screen := do
  let scrollBottom ← int (screen.rows - 1)
  let tabStops ← defaultTabStops screen.columns
  pure
    { screen with
      scrollTop := 0
      scrollBottom
      tabStops
      pendingWrap := false
      lastWrittenRow := -1
      lastWrittenColumn := -1
      revision := screen.revision + 1 }

def resize (screen : Screen) (columns rows : Int) : Checked Screen := do
  let columns := if columns < 1 then 1 else columns
  let rows := if rows < 1 then 1 else rows
  if columns = screen.columns ∧ rows = screen.rows then pure screen
  else do
    let width ← size columns
    let screen :=
      if columns ≠ screen.columns then
        { screen with
          lines := screen.lines.map fun line => line.resize width (blankCell {})
          columns }
      else screen
    let screen ← (
      if rows < screen.rows then screen.shrinkRows rows
      else if screen.rows < rows then screen.growRows rows
      else pure screen)
    let screen ← clampCursor { screen with rows }
    screen.afterResize

/-- The new dimensions, without the grid; `replaceLines` follows. -/
def setGeometry (screen : Screen) (columns rows : Int) : Checked Screen :=
  afterResize
    { screen with
      columns := if columns < 1 then 1 else columns
      rows := if rows < 1 then 1 else rows }

def replaceLines (screen : Screen) (lines : List Line) (cursorRow cursorColumn : Int) :
    Checked Screen := do
  let width ← size screen.columns
  let lines := if lines.length < 1 then [Line.new width (blankCell {})] else lines
  let rows ← int lines.length
  let screen ← clampCursor { screen with lines, rows, cursorRow, cursorColumn }
  let scrollBottom ← int (screen.rows - 1)
  pure
    { screen with
      scrollTop := 0
      scrollBottom
      pendingWrap := false
      lastWrittenRow := -1
      lastWrittenColumn := -1
      revision := screen.revision + 1 }

end Screen

end Hypeterm.Term
