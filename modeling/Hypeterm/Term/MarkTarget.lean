import Hypeterm.Term.Counting
import Hypeterm.Term.RowEdits

/-! A combining mark goes to the place where the last character was stored, which nothing moves
along when the rows or cells below it move. -/
namespace Hypeterm.Term
open Library Checked List

section

variable {body : Int → List Line → Checked (List Line)} {fill : Int → List Line → Line}
  (sets : ∀ row lines, (body row lines).value = lines.set row.toNat (fill row lines)) {place : Int}
  (inside : 0 ≤ place)
include sets inside

theorem getD_set_keeps (row : Int) (lines : List Line) (natural : 0 ≤ row) (other : row ≠ place) :
    (body row lines).value.getD place.toNat default = lines.getD place.toNat default := by
  rw [sets, getD_eq_getElem?_getD, getElem?_set_ne (by omega), getD_eq_getElem?_getD]

theorem getD_forUp_set {start : Int} (natural : 0 ≤ start) {rounds : Nat}
    (outside : place < start ∨ start + rounds ≤ place) (lines : List Line) :
    (forUp body rounds start lines).value.getD place.toNat default =
      lines.getD place.toNat default :=
  @value_forUp_keeps _ _ body (List.getD · place.toNat default) place
    (getD_set_keeps sets inside) start natural rounds outside lines

theorem getD_forDown_set {rounds : Nat} {start : Int} (natural : (rounds : Int) ≤ start + 1)
    (outside : start < place ∨ place ≤ start - rounds) (lines : List Line) :
    (forDown body rounds start lines).value.getD place.toNat default =
      lines.getD place.toNat default :=
  @value_forDown_keeps _ _ body (List.getD · place.toNat default) place
    (getD_set_keeps sets inside) rounds start natural outside lines

end

namespace Line

variable {body : Int → Line → Checked Line}
  (sets : ∀ column line, ∃ cell, (body column line).value = (line.setCellAt column cell).value)
  {place : Int} (inside : 0 ≤ place)
include sets inside

theorem bareAt_set_keeps (column : Int) (line : Line) (natural : 0 ≤ column)
    (other : column ≠ place) :
    (body column line).value.bareAt place.toNat = line.bareAt place.toNat := by
  obtain ⟨cell, hset⟩ := sets column line
  rw [hset, ← Int.toNat_of_nonneg natural]
  exact bareAt_setCellAt_other (by omega) _

theorem bareAt_forUp_set {start : Int} (natural : 0 ≤ start) {rounds : Nat}
    (outside : place < start ∨ start + rounds ≤ place) (line : Line) :
    (forUp body rounds start line).value.bareAt place.toNat = line.bareAt place.toNat :=
  @value_forUp_keeps _ _ body (Line.bareAt · place.toNat) place (bareAt_set_keeps sets inside) start
    natural rounds outside line

theorem bareAt_forDown_set {rounds : Nat} {start : Int} (natural : (rounds : Int) ≤ start + 1)
    (outside : start < place ∨ place ≤ start - rounds) (line : Line) :
    (forDown body rounds start line).value.bareAt place.toNat = line.bareAt place.toNat :=
  @value_forDown_keeps _ _ body (Line.bareAt · place.toNat) place (bareAt_set_keeps sets inside)
    rounds start natural outside line

end Line

/-- The character that a screen stored last, and whether that is still where it was stored. -/
structure LastStored where
  codePoint : Nat := 0
  width : Int := 1
  inPlace : Bool := true

namespace Screen

variable {screen : Screen}

theorem Fits.length {columns rows : Int} (fits : screen.Fits columns rows) :
    (screen.lines.length : Int) = screen.rows := fits.grid.length.trans fits.height.symm

/-- The cell that a combining mark goes to, without the flag for its marks. -/
def targetCell (screen : Screen) : Option Cell :=
  (screen.line screen.lastWrittenRow).bareAt screen.lastWrittenColumn.toNat

/-- If a mark goes anywhere, it goes to a cell that holds the character, while that is where it
was stored. -/
def HoldsLast (screen : Screen) (stored : LastStored) : Prop :=
  stored.inPlace = true → screen.lastWrittenOnScreen = true → ∃ cell, screen.targetCell = some cell ∧
    cell.code = stored.codePoint ∧ (cell.width : Int) = stored.width

structure Spared (before after : Screen) : Prop where
  rows : after.rows = before.rows
  columns : after.columns = before.columns
  row : after.lastWrittenRow = before.lastWrittenRow
  column : after.lastWrittenColumn = before.lastWrittenColumn
  cell : before.lastWrittenOnScreen = true → after.targetCell = before.targetCell

theorem Spared.refl (screen : Screen) : screen.Spared screen :=
  ⟨rfl, rfl, rfl, rfl, fun _ => rfl⟩

variable {before after : Screen} {row first : Int}

theorem Spared.onScreen (spared : before.Spared after) :
    after.lastWrittenOnScreen = before.lastWrittenOnScreen := by
  unfold lastWrittenOnScreen
  rw [spared.rows, spared.columns, spared.row, spared.column]

theorem Spared.trans {middle : Screen} (first : before.Spared middle)
    (second : middle.Spared after) : before.Spared after where
  rows := second.rows.trans first.rows
  columns := second.columns.trans first.columns
  row := second.row.trans first.row
  column := second.column.trans first.column
  cell := fun shown => (second.cell (first.onScreen.trans shown)).trans (first.cell shown)

theorem HoldsLast.spared {stored : LastStored}
    (holds : before.HoldsLast stored) (spared : before.Spared after) : after.HoldsLast stored := by
  intro there shown
  rw [spared.onScreen] at shown
  rw [spared.cell shown]
  exact holds there shown

theorem spared_of_lines (rows : after.rows = screen.rows)
    (columns : after.columns = screen.columns) (row : after.lastWrittenRow = screen.lastWrittenRow)
    (column : after.lastWrittenColumn = screen.lastWrittenColumn)
    (line : screen.lastWrittenOnScreen = true →
      after.line screen.lastWrittenRow = screen.line screen.lastWrittenRow) :
    screen.Spared after := by
  refine ⟨rows, columns, row, column, fun shown => ?_⟩
  unfold targetCell
  rw [row, column, line shown]

theorem lastWrittenOnScreen_iff : screen.lastWrittenOnScreen = true ↔
    (0 ≤ screen.lastWrittenRow ∧ screen.lastWrittenRow < screen.rows) ∧
      0 ≤ screen.lastWrittenColumn ∧ screen.lastWrittenColumn < screen.columns := by
  unfold lastWrittenOnScreen
  rw [Bool.and_eq_true, Bool.and_eq_true, Bool.and_eq_true, decide_eq_true_iff, decide_eq_true_iff,
    decide_eq_true_iff, decide_eq_true_iff, and_assoc]

theorem Spared.of_eq (spared : screen.Spared after) {other : Screen}
    (rows : other.rows = after.rows) (columns : other.columns = after.columns)
    (row : other.lastWrittenRow = after.lastWrittenRow)
    (column : other.lastWrittenColumn = after.lastWrittenColumn)
    (lines : other.lines = after.lines) :
    screen.Spared other := by
  apply spared.trans
  apply spared_of_lines rows columns row column
  intro _
  unfold line
  rw [lines]

theorem Spared.unwrap (spared : screen.Spared after) :
    screen.Spared { after with pendingWrap := false } :=
  spared.of_eq rfl rfl rfl rfl rfl

theorem length_mutableLine (row : Int) (edit : Line → Checked Line) :
    (screen.mutableLine row edit).value.lines.length = screen.lines.length := length_set

theorem line_mutableLine_other {other : Int} (different : row.toNat ≠ other.toNat)
    (edit : Line → Checked Line) :
    (screen.mutableLine row edit).value.line other = screen.line other := by
  unfold mutableLine line
  rw [value_bind, value_bind, value_bind, value_pure, value_put, getD_eq_getElem?_getD,
    getElem?_set_ne different, getD_eq_getElem?_getD]

theorem line_mutableLine (inside : row.toNat < screen.lines.length) (edit : Line → Checked Line) :
    (screen.mutableLine row edit).value.line row = (edit (screen.line row)).value := by
  unfold mutableLine line
  rw [value_bind, value_bind, value_bind, value_pure, value_put, value_get,
    getD_eq_getElem?_getD, getElem?_set_self inside, Option.getD_some]

theorem spared_mutableLine (height : (screen.lines.length : Int) = screen.rows)
    (natural : 0 ≤ row) {edit : Line → Checked Line}
    (same : screen.lastWrittenOnScreen = true → screen.lastWrittenRow = row →
      (edit (screen.line row)).value.bareAt screen.lastWrittenColumn.toNat =
        (screen.line row).bareAt screen.lastWrittenColumn.toNat) :
    screen.Spared (screen.mutableLine row edit).value := by
  refine ⟨rfl, rfl, rfl, rfl, fun shown => ?_⟩
  obtain ⟨hrow, hcolumn⟩ := lastWrittenOnScreen_iff.mp shown
  have hline : (screen.mutableLine row edit).value.targetCell =
      ((screen.mutableLine row edit).value.line screen.lastWrittenRow).bareAt
        screen.lastWrittenColumn.toNat := rfl
  rw [hline]
  unfold targetCell
  by_cases hsame : screen.lastWrittenRow = row
  · rw [hsame, line_mutableLine (by omega)]
    exact same shown hsame
  · rw [line_mutableLine_other (by omega)]

theorem spared_mutableLines {rounds : Nat} {edit : Line → Checked Line}
    (natural : 0 ≤ first) {screen : Screen} (outside : screen.lastWrittenOnScreen = true →
      screen.lastWrittenRow < first ∨ first + rounds ≤ screen.lastWrittenRow) :
    screen.Spared
      (forUp (fun row (screen : Screen) => screen.mutableLine row edit) rounds first screen).value := by
  induction rounds generalizing first screen with
  | zero => exact .refl _
  | succ rounds ih =>
    have hfirst : screen.Spared (screen.mutableLine first edit).value := by
      refine spared_of_lines rfl rfl rfl rfl fun shown => ?_
      have hrow := (lastWrittenOnScreen_iff.mp shown).1
      have hrange := outside shown
      exact line_mutableLine_other (by omega) edit
    refine hfirst.trans (@ih (first + 1) (by omega) _ fun shown => ?_)
    have hrange := outside (hfirst.onScreen.symm.trans shown)
    rw [hfirst.row]
    omega

section Scrolling

variable {top bottom : Int} (outside : screen.lastWrittenOnScreen = true →
  screen.lastWrittenRow < top ∨ bottom < screen.lastWrittenRow)
include outside

theorem spared_scrollRegionUp (count : Int) (toScrollback : Bool) :
    screen.Spared (screen.scrollRegionUp top bottom count toScrollback).value := by
  unfold scrollRegionUp
  rw [value_ite]
  split
  · exact .refl _
  rename_i hregion
  rw [value_bind, value_bind, value_int, value_int, value_ite]
  generalize hclipped : (if bottom - top + 1 < count then _ else count) = clipped
  split
  · exact .refl _
  rename_i hpositive
  obtain ⟨sink, hpushed⟩ := value_pushRows top toScrollback clipped.toNat screen
  rw [value_bind, hpushed]
  refine spared_of_lines rfl rfl rfl rfl fun shown => ?_
  obtain ⟨hrow, -⟩ := lastWrittenOnScreen_iff.mp shown
  have hrange := outside shown
  refine (getD_forUp_set (fun row lines => rfl) (by omega) ?_ ?_ _).trans
    (getD_forUp_set (fun row lines => rfl) (by omega) (by omega) (by omega) _)
  · dsimp only [value_int]
    omega
  · dsimp only [value_int]
    omega

theorem spared_scrollRegionDown (count : Int) :
    screen.Spared (screen.scrollRegionDown top bottom count).value := by
  unfold scrollRegionDown
  rw [value_ite]
  split
  · exact .refl _
  rename_i hregion
  rw [value_bind, value_bind, value_int, value_int, value_ite]
  generalize hclipped : (if bottom - top + 1 < count then _ else count) = clipped
  split
  · exact .refl _
  rename_i hpositive
  refine spared_of_lines rfl rfl rfl rfl fun shown => ?_
  obtain ⟨hrow, -⟩ := lastWrittenOnScreen_iff.mp shown
  have hrange := outside shown
  exact (getD_forUp_set (fun row lines => rfl) (by omega) (by omega) (by omega) _).trans
    (getD_forDown_set (fun row lines => rfl) (by omega) (by omega) (by omega) _)

end Scrolling

/-- Whether rows from `first` to `last` are all others. -/
def sparesRows (screen : Screen) (first last : Int) : Bool :=
  screen.lastWrittenRow < first || last < screen.lastWrittenRow

theorem sparesRows_iff {last : Int} : screen.sparesRows first last = true ↔
    screen.lastWrittenRow < first ∨ last < screen.lastWrittenRow := by
  unfold sparesRows
  rw [Bool.or_eq_true, decide_eq_true_iff, decide_eq_true_iff]

/-- Whether a line feed scrolls other rows, if any. -/
def sparesFeed (screen : Screen) : Bool :=
  screen.cursorRow != screen.scrollBottom ||
    screen.sparesRows screen.scrollTop screen.scrollBottom

theorem spared_lineFeed (spares : screen.sparesFeed = true) : screen.Spared screen.lineFeed.value := by
  unfold lineFeed
  rw [value_bind, value_bind, value_pure, value_ite, value_ite]
  split
  · rename_i hbottom
    unfold sparesFeed at spares
    rw [hbottom, bne_self_eq_false, Bool.false_or, sparesRows_iff] at spares
    exact (spared_scrollRegionUp (fun _ => spares) 1 _).of_eq rfl rfl rfl rfl rfl
  split
  · exact (Spared.refl screen).of_eq rfl rfl rfl rfl rfl
  · exact (Spared.refl screen).of_eq rfl rfl rfl rfl rfl

theorem spared_reverseIndex (spares : (screen.cursorRow != screen.scrollTop ||
    screen.sparesRows screen.scrollTop screen.scrollBottom) = true) :
    screen.Spared screen.reverseIndex.value := by
  unfold reverseIndex
  rw [value_bind, value_pure, value_ite, value_ite]
  split
  · rename_i htop
    rw [htop, bne_self_eq_false, Bool.false_or, sparesRows_iff] at spares
    exact (spared_scrollRegionDown (fun _ => spares) 1).of_eq rfl rfl rfl rfl rfl
  split
  · exact (Spared.refl screen).of_eq rfl rfl rfl rfl rfl
  · exact (Spared.refl screen).of_eq rfl rfl rfl rfl rfl

/-- Whether rows inserted or deleted at the cursor move only others. -/
def sparesBelow (screen : Screen) : Bool :=
  !screen.cursorInRegion || screen.sparesRows screen.cursorRow screen.scrollBottom

theorem sparesBelow_cases (spares : screen.sparesBelow = true)
    (inside : ¬(screen.cursorRow < screen.scrollTop ∨ screen.scrollBottom < screen.cursorRow)) :
    screen.lastWrittenRow < screen.cursorRow ∨ screen.scrollBottom < screen.lastWrittenRow := by
  have hregion : screen.cursorInRegion = true := by
    unfold cursorInRegion
    rw [Bool.and_eq_true, decide_eq_true_iff, decide_eq_true_iff]
    omega
  unfold sparesBelow at spares
  rwa [hregion, Bool.not_true, Bool.false_or, sparesRows_iff] at spares

theorem spared_insertLines (spares : screen.sparesBelow = true) (count : Int) :
    screen.Spared (screen.insertLines count).value := by
  unfold insertLines
  rw [value_ite]
  split
  · exact .refl _
  · rename_i hinside
    exact (spared_scrollRegionDown (fun _ => sparesBelow_cases spares hinside) _).of_eq rfl rfl rfl
      rfl rfl

theorem spared_deleteLines (spares : screen.sparesBelow = true) (count : Int) :
    screen.Spared (screen.deleteLines count).value := by
  unfold deleteLines
  rw [value_ite]
  split
  · exact .refl _
  · rename_i hinside
    exact (spared_scrollRegionUp (fun _ => sparesBelow_cases spares hinside) _ false).of_eq rfl rfl
      rfl rfl rfl

/-- Whether the cells of the cursor's row from `first` up to `last` are all others. -/
def sparesCells (screen : Screen) (first last : Int) : Bool :=
  screen.lastWrittenRow != screen.cursorRow || screen.lastWrittenColumn < first ||
    last ≤ screen.lastWrittenColumn

/-- Whether the wide character that the cursor is on is another one. -/
def sparesTorn (screen : Screen) : Bool :=
  screen.lastWrittenRow != screen.cursorRow ||
    !screen.cursorLine.tornAt screen.cursorColumn.toNat screen.lastWrittenColumn.toNat

theorem sparesCells_cases {last : Int} (spares : screen.sparesCells first last = true)
    (here : screen.lastWrittenRow = screen.cursorRow) :
    screen.lastWrittenColumn < first ∨ last ≤ screen.lastWrittenColumn := by
  unfold sparesCells at spares
  rwa [here, bne_self_eq_false, Bool.false_or, Bool.or_eq_true, decide_eq_true_iff,
    decide_eq_true_iff] at spares

theorem sparesTorn_cases (spares : screen.sparesTorn = true)
    (here : screen.lastWrittenRow = screen.cursorRow) :
    screen.cursorLine.tornAt screen.cursorColumn.toNat screen.lastWrittenColumn.toNat = false := by
  unfold sparesTorn at spares
  rwa [here, bne_self_eq_false, Bool.false_or, Bool.not_eq_true'] at spares

section Editing

variable {columns rows : Int} (fits : screen.Fits columns rows)
include fits

theorem Fits.bareAt_cursorLine (torn : screen.sparesTorn = true)
    (here : screen.lastWrittenRow = screen.cursorRow) :
    (clearWideCharAt screen.columns screen.cursorLine screen.cursorColumn).value.bareAt
        screen.lastWrittenColumn.toNat =
      screen.cursorLine.bareAt screen.lastWrittenColumn.toNat := by
  have hcolumn := fits.cursorColumn
  have hsize := fits.size_cursorLine
  have hvalue := @Line.value_clearWideCharAt screen.cursorLine screen.columns
    (by rw [fits.width, hsize]) screen.cursorColumn.toNat (by omega)
  rw [Int.toNat_of_nonneg hcolumn.1] at hvalue
  rw [hvalue]
  exact Line.bareAt_separatedAt (sparesTorn_cases torn here)

theorem spared_eraseCharacters (torn : screen.sparesTorn = true) {count : Int}
    (spares : screen.sparesCells screen.cursorColumn
      (screen.cursorColumn + if count < 1 then 1 else count) = true) :
    screen.Spared (screen.eraseCharacters count).value := by
  have hcolumn := fits.cursorColumn
  refine Spared.unwrap (spared_mutableLine fits.length fits.cursorRow.1 fun shown here => ?_)
  obtain ⟨-, hplace⟩ := lastWrittenOnScreen_iff.mp shown
  have hcells := sparesCells_cases spares here
  rw [value_bind, value_bind, value_bind, value_pure, value_size, value_size, Line.bareAt_fillRange,
    if_neg (by omega)]
  exact fits.bareAt_cursorLine torn here

variable (torn : screen.sparesTorn = true)
  (spares : screen.sparesCells screen.cursorColumn screen.columns = true)
include torn spares

theorem spared_insertCharacters (count : Int) :
    screen.Spared (screen.insertCharacters count).value := by
  have hcolumn := fits.cursorColumn
  have hwidth := fits.width
  unfold Screen.insertCharacters
  rw [value_bind, value_int]
  generalize hclipped : (if screen.columns - screen.cursorColumn < _ then _ else _) = clipped
  rw [value_ite]
  split
  · exact .refl _
  refine Spared.unwrap (spared_mutableLine fits.length fits.cursorRow.1 fun shown here => ?_)
  obtain ⟨-, hplace⟩ := lastWrittenOnScreen_iff.mp shown
  have hcells := sparesCells_cases spares here
  rw [value_bind, value_bind, value_bind, value_bind, value_bind, value_bind, value_bind, value_pure,
    value_size, value_size, value_int, value_int, value_size, Line.bareAt_fillRange,
    if_neg (by omega), Line.bareAt_shiftMarks]
  refine Eq.trans (Line.bareAt_forDown_set ?_ hplace.1 ?_ ?_ _) ?_
  · exact fun _ _ => ⟨_, rfl⟩
  · omega
  · omega
  exact fits.bareAt_cursorLine torn here

theorem spared_deleteCharacters (count : Int) :
    screen.Spared (screen.deleteCharacters count).value := by
  have hcolumn := fits.cursorColumn
  have hwidth := fits.width
  unfold Screen.deleteCharacters
  rw [value_bind, value_int]
  generalize hclipped : (if screen.columns - screen.cursorColumn < _ then _ else _) = clipped
  rw [value_ite]
  split
  · exact .refl _
  refine Spared.unwrap (spared_mutableLine fits.length fits.cursorRow.1 fun shown here => ?_)
  obtain ⟨-, hplace⟩ := lastWrittenOnScreen_iff.mp shown
  have hcells := sparesCells_cases spares here
  rw [value_bind, value_bind, value_bind, value_bind, value_bind, value_bind, value_pure, value_size,
    value_size, value_int, value_size, Line.bareAt_fillRange, if_neg (by omega),
    Line.bareAt_shiftMarks]
  refine Eq.trans (Line.bareAt_forUp_set ?_ hplace.1 ?_ ?_ _) ?_
  · exact fun _ _ => ⟨_, rfl⟩
  · omega
  · omega
  exact fits.bareAt_cursorLine torn here

end Editing

section Writing

variable {columns rows : Int} (size : GridSize columns rows)
include size

theorem holdsLast_writeAtCursor (fits : screen.Fits columns rows) (codePoint : Nat) {width : Int}
    (drawn : width = 1 ∨ width = 2) :
    (screen.writeAtCursor codePoint width).value.HoldsLast ⟨codePoint, width, true⟩ := by
  obtain ⟨inserted, hfits, hvalue⟩ : ∃ inserted : Screen, inserted.Fits columns rows ∧
      (if screen.insertMode then screen.insertCharacters width else pure screen).value = inserted := by
    refine ⟨_, ?_, rfl⟩
    split
    · exact (fits.insertCharacters size width).2
    · exact fits
  have hrow := hfits.cursorRow
  have hlength := hfits.grid.length
  have hwritten := (Line.holds_bareAt_writeCell (hfits.grid.get hfits.cursorRow).2 size.wide.2
    hfits.cursorColumn inserted.pen codePoint width).2
  rw [← hfits.width] at hwritten
  have hline := @line_mutableLine inserted inserted.cursorRow (by omega)
    (writeCell inserted.columns inserted.pen codePoint width inserted.cursorColumn)
  have hcell : ((inserted.mutableLine inserted.cursorRow
      (writeCell inserted.columns inserted.pen codePoint width
        inserted.cursorColumn)).value.line inserted.cursorRow).bareAt inserted.cursorColumn.toNat =
      some (writtenCell inserted.pen codePoint width).clearHasMarks :=
    hline ▸ hwritten
  have hwidth : (((writtenCell inserted.pen codePoint width).clearHasMarks.width : Nat) : Int) =
      width := by
    show ((width.toNat % 256 : Nat) : Int) = width
    omega
  unfold Screen.writeAtCursor
  rw [value_bind, hvalue]
  simp only [value_bind, value_ite, value_pure]
  split
  · exact fun _ _ => ⟨_, hcell, rfl, hwidth⟩
  · exact fun _ _ => ⟨_, hcell, rfl, hwidth⟩

/-- Whether a character is stored: a wide one is not at the last column without autowrap. -/
def draws (screen : Screen) (width : Int) : Bool :=
  let next := screen.takePendingWrap.value
  !(width == 2 && next.cursorColumn == next.columns - 1) || next.autowrap

/-- Whether a character that is not stored leaves the last one where it is. -/
def sparesPut (screen : Screen) : Bool :=
  let next := screen.takePendingWrap.value
  (!screen.pendingWrap || screen.sparesFeed) && next.sparesTorn &&
    next.sparesCells next.cursorColumn (next.cursorColumn + 1)

omit size in
theorem spared_takePendingWrap (fits : screen.Fits columns rows)
    (spares : (!screen.pendingWrap || screen.sparesFeed) = true) :
    screen.Spared screen.takePendingWrap.value := by
  unfold takePendingWrap
  rw [value_ite]
  split
  · rename_i hpending
    rw [hpending, Bool.not_true, Bool.false_or] at spares
    have hmarked : screen.Spared (screen.mutableLine screen.cursorRow fun line =>
        pure { line with wrapped := true }).value :=
      spared_mutableLine fits.length fits.cursorRow.1 fun _ _ => rfl
    have hhome : screen.Spared { (screen.mutableLine screen.cursorRow fun line =>
        pure { line with wrapped := true }).value with cursorColumn := 0 } :=
      hmarked.of_eq rfl rfl rfl rfl rfl
    exact (hhome.trans (spared_lineFeed spares)).unwrap
  · exact .refl _

variable (fits : screen.Fits columns rows)
include fits

theorem holdsLast_putChar {codePoint : Nat} {width : Int} (drawn : width = 1 ∨ width = 2)
    (draws : screen.draws width = true) :
    (screen.putChar codePoint width).value.HoldsLast ⟨codePoint, width, true⟩ := by
  have hnext := (fits.takePendingWrap size).2
  unfold Screen.draws at draws
  dsimp only at draws
  unfold Screen.putChar
  rw [if_neg (by omega), value_bind, value_bind, value_int]
  generalize screen.takePendingWrap.value = next at *
  rw [value_ite, value_ite]
  split
  · rename_i hmargin
    rw [hmargin.1, hmargin.2, beq_self_eq_true, beq_self_eq_true, Bool.and_self, Bool.not_true,
      Bool.false_or] at draws
    rw [if_pos draws]
    have hblanked := (hnext.blankAtMargin size fun line spans =>
      .pure (show Line.Spans columns { line with wrapped := true } from spans)).2
    have hhome : Fits columns rows { (next.blankAtMargin fun line =>
        pure { line with wrapped := true }).value with cursorColumn := 0 } := { hblanked with
      cursorColumn := ⟨Int.le_refl 0, Int.lt_of_lt_of_le Int.one_pos size.wide.1⟩ }
    exact holdsLast_writeAtCursor size (hhome.lineFeed size).2 codePoint drawn
  · exact holdsLast_writeAtCursor size hnext codePoint drawn

theorem spared_putChar {codePoint : Nat} {width : Int} (drawn : width = 1 ∨ width = 2)
    (hidden : screen.draws width = false) (spares : screen.sparesPut = true) :
    screen.Spared (screen.putChar codePoint width).value := by
  have hnext := (fits.takePendingWrap size).2
  unfold Screen.draws at hidden
  unfold sparesPut at spares
  obtain ⟨hfirst, hcells⟩ := Bool.and_eq_true_iff.mp spares
  obtain ⟨hwrap, htorn⟩ := Bool.and_eq_true_iff.mp hfirst
  refine (spared_takePendingWrap fits hwrap).trans ?_
  unfold Screen.putChar
  rw [if_neg (by omega), value_bind, value_bind, value_int]
  generalize screen.takePendingWrap.value = next at *
  rw [Bool.or_eq_false_iff, Bool.not_eq_false', Bool.and_eq_true, beq_iff_eq, beq_iff_eq] at hidden
  rw [value_ite, value_ite, if_pos hidden.1, hidden.2, if_neg Bool.false_ne_true]
  have hcolumn := hnext.cursorColumn
  refine spared_mutableLine hnext.length hnext.cursorRow.1 fun shown here => ?_
  obtain ⟨-, hplace⟩ := lastWrittenOnScreen_iff.mp shown
  have hothers := sparesCells_cases hcells here
  rw [value_bind, value_bind, value_bind, value_bind, value_pure, value_size, value_int, value_size,
    Line.bareAt_fillRange, if_neg (by omega)]
  exact hnext.bareAt_cursorLine htorn here

end Writing

end Screen

namespace LastStored

def put (stored : LastStored) (screen : Screen) (codePoint : Nat) (width : Int) : LastStored :=
  if screen.draws width then { codePoint, width }
  else { stored with inPlace := stored.inPlace && screen.sparesPut }

def putAll (codePoint : Nat) (width : Int) : Nat → LastStored → Screen → LastStored
  | 0, stored, _ => stored
  | rounds + 1, stored, screen =>
      putAll codePoint width rounds (stored.put screen codePoint width)
        (screen.putChar codePoint width).value

end LastStored

namespace Screen

variable {screen : Screen} {columns rows : Int} (size : GridSize columns rows)
include size

theorem HoldsLast.put {stored : LastStored} (holds : screen.HoldsLast stored)
    (fits : screen.Fits columns rows) {codePoint : Nat} {width : Int}
    (drawn : width = 1 ∨ width = 2) : (screen.putChar codePoint width).value.HoldsLast
      (stored.put screen codePoint width) := by
  unfold LastStored.put
  cases hdraws : screen.draws width with
  | true => exact holdsLast_putChar size fits drawn hdraws
  | false =>
    rw [if_neg Bool.false_ne_true]
    intro there
    obtain ⟨hplace, hspares⟩ := Bool.and_eq_true_iff.mp there
    exact holds.spared (spared_putChar size fits drawn hdraws hspares) hplace

theorem HoldsLast.putAll {codePoint : Nat} {width : Int} (drawn : width = 1 ∨ width = 2)
    (rounds : Nat) {stored : LastStored} {screen : Screen} (holds : screen.HoldsLast stored)
    (fits : screen.Fits columns rows) (start : Int) :
    (forUp (fun _ next => next.putChar codePoint width) rounds start screen).value.HoldsLast
      (LastStored.putAll codePoint width rounds stored screen) := by
  induction rounds generalizing stored screen start with
  | zero => exact holds
  | succ rounds ih =>
    exact ih (holds.put size fits drawn) (fits.putChar size codePoint drawn).2 _

omit size in
theorem spared_addCombiningMark (fits : screen.Fits columns rows) (mark : Nat) :
    screen.Spared (screen.addCombiningMark mark).value := by
  unfold addCombiningMark
  rw [value_ite, value_ite]
  split
  · exact .refl _
  rename_i hrow
  split
  · exact .refl _
  · exact spared_mutableLine fits.length (by omega) fun _ _ => Line.bareAt_addMark _ _ _ _

end Screen

/-- Whether an operation leaves the last character where it is. -/
def Operation.spares (screen : Screen) : Operation → Bool
  | .lineFeed => screen.sparesFeed
  | .reverseIndex =>
      screen.cursorRow != screen.scrollTop ||
        screen.sparesRows screen.scrollTop screen.scrollBottom
  | .eraseInDisplay mode =>
      if mode = 0 then
        screen.sparesCells screen.cursorColumn screen.columns &&
          screen.sparesRows (screen.cursorRow + 1) (screen.rows - 1)
      else if mode = 1 then
        screen.sparesCells 0 (screen.cursorColumn + 1) && screen.sparesRows 0 (screen.cursorRow - 1)
      else if mode = 2 then screen.sparesRows 0 (screen.rows - 1)
      else true
  | .eraseInLine mode =>
      if mode = 0 then screen.sparesCells screen.cursorColumn screen.columns
      else if mode = 1 then screen.sparesCells 0 (screen.cursorColumn + 1)
      else if mode = 2 then screen.sparesCells 0 screen.columns
      else true
  | .eraseCharacters count =>
      screen.sparesTorn && screen.sparesCells screen.cursorColumn
        (screen.cursorColumn + if count < 1 then 1 else count)
  | .insertCharacters _ =>
      screen.sparesTorn && screen.sparesCells screen.cursorColumn screen.columns
  | .deleteCharacters _ =>
      screen.sparesTorn && screen.sparesCells screen.cursorColumn screen.columns
  | .insertLines _ => screen.sparesBelow
  | .deleteLines _ => screen.sparesBelow
  | .scrollUp _ => screen.sparesRows screen.scrollTop screen.scrollBottom
  | .scrollDown _ => screen.sparesRows screen.scrollTop screen.scrollBottom
  | .fillScreen _ => screen.sparesRows 0 (screen.rows - 1)
  | _ => true

def LastStored.after (stored : LastStored) (screen : Screen) : Operation → LastStored
  | .putChar codePoint width => stored.put screen codePoint width
  | .repeatLast count =>
      if screen.lastWrittenChar = 0 ∨ count ≤ 0 then stored
      else
        putAll screen.lastWrittenChar screen.lastWrittenWidth
          (min count (screen.columns * screen.rows)).toNat stored screen
  | operation => { stored with inPlace := stored.inPlace && operation.spares screen }

namespace Screen

variable {screen : Screen}

theorem bareAt_erased {first last : Nat} (spares : screen.sparesCells first last = true)
    (here : screen.lastWrittenRow = screen.cursorRow) (natural : 0 ≤ screen.lastWrittenColumn)
    (line : Line) (blank : Cell) :
    (line.fillRange first last blank).bareAt screen.lastWrittenColumn.toNat =
      line.bareAt screen.lastWrittenColumn.toNat := by
  have hcells := sparesCells_cases spares here
  rw [Line.bareAt_fillRange, if_neg (by omega)]

theorem spared_fillRows {first count : Int} (natural : 0 ≤ first) (blank : Cell)
    (spares : screen.sparesRows first (first + count - 1) = true) :
    screen.Spared (screen.fillRows first count blank).value := by
  have hrows := sparesRows_iff.mp spares
  refine spared_mutableLines natural fun shown => ?_
  omega

variable {columns rows : Int} (fits : screen.Fits columns rows)
include fits

theorem spared_eraseRight (spares : screen.sparesCells screen.cursorColumn screen.columns = true) :
    screen.Spared (screen.mutableLine screen.cursorRow fun line => do
      let first ← Checked.size screen.cursorColumn
      let last ← Checked.size screen.columns
      pure (line.fillRange first last (blankCell screen.pen))).value := by
  have hcolumn := fits.cursorColumn
  have hwidth := fits.width
  refine spared_mutableLine fits.length fits.cursorRow.1 fun shown here => ?_
  have hplace := (lastWrittenOnScreen_iff.mp shown).2
  rw [← Int.toNat_of_nonneg hcolumn.1, ← Int.toNat_of_nonneg (by omega : 0 ≤ screen.columns)] at spares
  exact bareAt_erased spares here hplace.1 _ _

theorem spared_eraseLeft (spares : screen.sparesCells 0 (screen.cursorColumn + 1) = true) :
    screen.Spared (screen.mutableLine screen.cursorRow fun line => do
      let column ← Checked.size screen.cursorColumn
      pure (line.fillRange 0 (column + 1) (blankCell screen.pen))).value := by
  have hcolumn := fits.cursorColumn
  refine spared_mutableLine fits.length fits.cursorRow.1 fun shown here => ?_
  have hplace := (lastWrittenOnScreen_iff.mp shown).2
  rw [← Int.toNat_of_nonneg hcolumn.1] at spares
  exact bareAt_erased spares here hplace.1 _ _

theorem spared_eraseInDisplay {mode : Int}
    (spares : (Operation.eraseInDisplay mode).spares screen = true) :
    screen.Spared (screen.eraseInDisplay mode).value := by
  have hrow := fits.cursorRow
  unfold Operation.spares at spares
  dsimp only at spares
  unfold Screen.eraseInDisplay
  apply Spared.unwrap
  rw [value_ite, value_ite, value_ite, value_ite]
  split
  · rename_i hmode
    rw [if_pos hmode, Bool.and_eq_true] at spares
    have hended (middle : Screen) (height : (middle.lines.length : Int) = middle.rows) :
        middle.Spared (middle.mutableLine screen.cursorRow fun line =>
          pure { line with wrapped := false }).value :=
      spared_mutableLine height hrow.1 fun _ _ => rfl
    have herased := (spared_eraseRight fits spares.1).trans
      (hended _ ((length_mutableLine _ _).symm ▸ fits.length))
    refine herased.trans (spared_fillRows ?_ _ ?_)
    · show 0 ≤ screen.cursorRow + 1
      omega
    · have hlast : screen.cursorRow + 1 + (screen.rows - (screen.cursorRow + 1)) - 1 =
          screen.rows - 1 := by
        omega
      show screen.sparesRows (screen.cursorRow + 1)
        (screen.cursorRow + 1 + (screen.rows - (screen.cursorRow + 1)) - 1) = true
      rw [hlast]
      exact spares.2
  split
  · rename_i hmode hone
    rw [if_neg hmode, if_pos hone, Bool.and_eq_true] at spares
    refine (spared_eraseLeft fits spares.1).trans (spared_fillRows (Int.le_refl 0) _ ?_)
    rw [Int.zero_add]
    exact spares.2
  split
  · rename_i hmode hone htwo
    rw [if_neg hmode, if_neg hone, if_pos htwo] at spares
    exact spared_fillRows (Int.le_refl 0) _ (by rwa [Int.zero_add])
  split
  · exact (Spared.refl screen).of_eq rfl rfl rfl rfl rfl
  · exact .refl _

theorem spared_eraseInLine {mode : Int}
    (spares : (Operation.eraseInLine mode).spares screen = true) :
    screen.Spared (screen.eraseInLine mode).value := by
  have hcolumn := fits.cursorColumn
  have hwidth := fits.width
  have hsize := fits.size_cursorLine
  unfold Operation.spares at spares
  dsimp only at spares
  unfold Screen.eraseInLine
  refine Spared.unwrap (spared_mutableLine fits.length fits.cursorRow.1 fun shown here => ?_)
  have hplace := (lastWrittenOnScreen_iff.mp shown).2
  rw [value_ite, value_ite, value_ite]
  split
  · rename_i hmode
    rw [if_pos hmode, ← Int.toNat_of_nonneg hcolumn.1,
      ← Int.toNat_of_nonneg (by omega : 0 ≤ screen.columns)] at spares
    exact bareAt_erased spares here hplace.1 _ _
  split
  · rename_i hmode hone
    rw [if_neg hmode, if_pos hone, ← Int.toNat_of_nonneg hcolumn.1] at spares
    exact bareAt_erased spares here hplace.1 _ _
  split
  · rename_i hmode hone htwo
    rw [if_neg hmode, if_neg hone, if_pos htwo] at spares
    have hcells := sparesCells_cases spares here
    omega
  · rfl

end Screen

theorem Operation.spared {columns rows : Int} {screen : Screen} (fits : screen.Fits columns rows)
    {operation : Operation} (notPut : ∀ codePoint width, operation ≠ .putChar codePoint width)
    (notRepeat : ∀ count, operation ≠ .repeatLast count)
    (spares : operation.spares screen = true) :
    screen.Spared (operation.perform screen).value := by
  have hsame {after : Screen} (rows : after.rows = screen.rows)
      (columns : after.columns = screen.columns) (row : after.lastWrittenRow = screen.lastWrittenRow)
      (column : after.lastWrittenColumn = screen.lastWrittenColumn)
      (lines : after.lines = screen.lines) : screen.Spared after :=
    (Screen.Spared.refl screen).of_eq rows columns row column lines
  cases operation with
  | putChar codePoint width => exact absurd rfl (notPut codePoint width)
  | repeatLast count => exact absurd rfl (notRepeat count)
  | addCombiningMark mark => exact Screen.spared_addCombiningMark fits mark
  | lineFeed => exact Screen.spared_lineFeed spares
  | reverseIndex => exact Screen.spared_reverseIndex spares
  | eraseInDisplay mode => exact Screen.spared_eraseInDisplay fits spares
  | eraseInLine mode => exact Screen.spared_eraseInLine fits spares
  | eraseCharacters count =>
    obtain ⟨htorn, hcells⟩ := Bool.and_eq_true_iff.mp spares
    exact Screen.spared_eraseCharacters fits htorn hcells
  | insertCharacters count =>
    obtain ⟨htorn, hcells⟩ := Bool.and_eq_true_iff.mp spares
    exact Screen.spared_insertCharacters fits htorn hcells count
  | deleteCharacters count =>
    obtain ⟨htorn, hcells⟩ := Bool.and_eq_true_iff.mp spares
    exact Screen.spared_deleteCharacters fits htorn hcells count
  | insertLines count => exact Screen.spared_insertLines spares count
  | deleteLines count => exact Screen.spared_deleteLines spares count
  | scrollUp count =>
    exact Screen.spared_scrollRegionUp (fun _ => Screen.sparesRows_iff.mp spares) _ _
  | scrollDown count =>
    exact Screen.spared_scrollRegionDown (fun _ => Screen.sparesRows_iff.mp spares) _
  | fillScreen codePoint =>
    refine (Screen.spared_fillRows (Int.le_refl 0) _ ?_).of_eq rfl rfl rfl rfl rfl
    rw [Int.zero_add]
    exact spares
  | _ =>
    simp only [perform, Screen.backspace, Screen.setTabStop, Screen.clearTabStop,
      Screen.setScrollRegion, Screen.restoreCursor, value_ite, value_bind, value_pure]
    repeat' split
    all_goals exact hsame rfl rfl rfl rfl rfl

theorem Screen.HoldsLast.perform {columns rows : Int} {screen : Screen} {stored : LastStored}
    (size : GridSize columns rows) (fits : screen.Fits columns rows) (holds : screen.HoldsLast stored)
    {operation : Operation} (bounded : operation.Bounded) :
    (operation.perform screen).value.HoldsLast (stored.after screen operation) := by
  cases operation with
  | putChar codePoint width => exact holds.put size fits bounded.2
  | repeatLast count =>
    unfold LastStored.after Operation.perform Screen.repeatLast
    dsimp only
    rw [value_ite]
    split
    · exact holds
    · exact holds.putAll size fits.lastWrittenWidth _ fits 0
  | _ =>
    intro there
    obtain ⟨hplace, hspares⟩ := Bool.and_eq_true_iff.mp there
    exact holds.spared (Operation.spared fits (by simp) (by simp) hspares) hplace

end Hypeterm.Term
