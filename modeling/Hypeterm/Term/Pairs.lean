import Hypeterm.Term.WideCells
import Hypeterm.Term.EveryRow
import Hypeterm.Term.Grid

/-! Wide characters stay paired on a whole screen, as long as no operation cuts one in two. -/
namespace Hypeterm.Term
open Library Checked List Option EveryLine

/-- The column holds the second half of a wide character. -/
def Line.continuesAt (line : Line) (column : Int) : Bool :=
  (line.cells.getD column.toNat default).isContinuation

theorem getElem?_mapRange_before {α : Type} {rewrite : α → α} {first last index : Nat}
    {elements : List α} (before : index < first) :
    (mapRange rewrite first last elements)[index]? = elements[index]? := by
  by_cases hinside : index < elements.length
  · rw [mapRange, append_assoc, getElem?_append_left (by rw [length_take]; omega),
      getElem?_take, if_pos before]
  · rw [List.getElem?_eq_none_iff.mpr (by rw [length_mapRange]; omega),
      List.getElem?_eq_none_iff.mpr (by omega)]

theorem Line.shape_of_getElem? {line : Line} {column : Nat} {shape : Shape}
    (here : line.shapes[column]? = some shape) : (line.cells.getD column default).shape = shape := by
  rw [line.getD_shapes, getD_eq_getElem?_getD, here, getD_some]

theorem Line.shape_of_not_continuesAt {line : Line} {column : Int}
    (clean : line.continuesAt column = false) : line.shapes[column.toNat]? ≠ some .tail := by
  intro htail
  have hcode : (line.cells.getD column.toNat default).isContinuation = true :=
    beq_iff_eq.mpr (Cell.shape_tail.mp (Line.shape_of_getElem? htail)).1
  exact absurd (hcode.symm.trans clean) (by decide)

theorem Line.continuesAt_of_tail {line : Line} {column : Nat}
    (here : line.shapes[column]? = some .tail) : line.continuesAt column = true := by
  rw [continuesAt, Int.toNat_natCast]
  exact beq_iff_eq.mpr (Cell.shape_tail.mp (Line.shape_of_getElem? here)).1

theorem Line.getD_fillRange_before {line : Line} {first last index : Nat} {blank : Cell}
    (before : index < first) :
    (line.fillRange first last blank).cells.getD index default = line.cells.getD index default := by
  unfold fillRange
  dsimp only
  split
  · rfl
  · simp only [clearMarksInRange, getD_eq_getElem?_getD, getElem?_mapRange_before before]

namespace Screen

def line (screen : Screen) (row : Int) : Line := screen.lines.getD row.toNat default

def AllWhole (lines : List Line) : Prop := ∀ line ∈ lines, line.Whole

/-- No row of the screen or of its scrollback holds half a wide character. -/
structure Pairs (screen : Screen) : Prop where
  lines : AllWhole screen.lines
  sink : ∀ sink ∈ screen.sink, AllWhole sink.lines

variable {screen : Screen}

theorem whole_law : Line.Law Line.Whole where
  empty := .nil
  blank := fun width _ => Line.whole_new width rfl

theorem Pairs.line (pairs : screen.Pairs) (row : Int) : (screen.line row).Whole :=
  getD whole_law pairs.lines _

theorem Pairs.mutableLine (pairs : screen.Pairs) {row : Int} {edit : Line → Checked Line}
    (edited : (edit (screen.line row)).value.Whole) : (screen.mutableLine row edit).value.Pairs :=
  ⟨EveryLine.set pairs.lines edited, pairs.sink⟩

theorem Pairs.unwrap (pairs : screen.Pairs) : Pairs { screen with pendingWrap := false } :=
  ⟨pairs.lines, pairs.sink⟩

theorem Pairs.clearScrollback (pairs : screen.Pairs) :
    Pairs { screen with sink := screen.sink.map Scrollback.clearScrollback } := by
  refine ⟨pairs.lines, ?_⟩
  intro sink hsink
  obtain ⟨old, hold, rfl⟩ := map_eq_some_iff.mp hsink
  unfold Scrollback.clearScrollback
  split
  · exact pairs.sink old hold
  · exact fun _ hline => absurd hline not_mem_nil

theorem whole_stored {line : Line} (whole : line.Whole) : (Scrollback.stored line).Whole := by
  unfold Scrollback.stored
  split
  · exact whole.resize _ rfl
  · exact whole

theorem whole_trim {scrollback : Scrollback} (whole : AllWhole scrollback.lines) :
    AllWhole scrollback.trim.lines := fun line hline =>
  whole line ((Scrollback.lines_trimLines _ scrollback).mem hline)

section

variable (pairs : screen.Pairs)
include pairs

theorem Pairs.pushLine {line : Line} (whole : line.Whole) : (screen.pushLine line).Pairs := by
  refine ⟨pairs.lines, ?_⟩
  intro sink hsink
  obtain ⟨old, hold, rfl⟩ := map_eq_some_iff.mp hsink
  refine whole_trim fun other hother => ?_
  rcases mem_append.mp hother with hother | hother
  · exact pairs.sink old hold other hother
  · rw [mem_singleton.mp hother]
    exact whole_stored whole

theorem Pairs.pushRows (top : Int) (toScrollback : Bool) (rounds : Nat) :
    (forUp (fun i (screen : Screen) => do
      let row ← int (top + i)
      let line ← get screen.lines row
      pure (if toScrollback then screen.pushLine line else screen)) rounds 0 screen).value.Pairs := by
  apply value_forUp_induction ?_ pairs
  intro i next hnext
  simp only [value_bind, value_pure]
  split
  · exact hnext.pushLine (hnext.line _)
  · exact hnext

theorem Pairs.scrollRegionUp (top bottom count : Int)
    (toScrollback : Bool) : (screen.scrollRegionUp top bottom count toScrollback).value.Pairs := by
  simp only [Screen.scrollRegionUp, value_ite, value_bind, value_pure]
  generalize (if _ < count then _ else count) = count
  split
  · exact pairs
  split
  · exact pairs
  · have hpushed := pairs.pushRows top toScrollback count.toNat
    exact ⟨freshRows whole_law (movedUp whole_law hpushed.lines _ _ _) _ _ _ _, hpushed.sink⟩

theorem Pairs.scrollRegionDown (top bottom count : Int) :
    (screen.scrollRegionDown top bottom count).value.Pairs := by
  simp only [Screen.scrollRegionDown, value_ite, value_bind, value_pure]
  generalize (if _ < count then _ else count) = count
  split
  · exact pairs
  split
  · exact pairs
  · exact ⟨freshRows whole_law (movedDown whole_law pairs.lines _ _ _) _ _ _ _, pairs.sink⟩

theorem Pairs.lineFeed : screen.lineFeed.value.Pairs := by
  refine Pairs.unwrap ?_
  rw [value_ite, value_ite]
  split
  · exact pairs.scrollRegionUp _ _ _ _
  split
  · exact ⟨pairs.lines, pairs.sink⟩
  · exact pairs

theorem Pairs.reverseIndex : screen.reverseIndex.value.Pairs := by
  refine Pairs.unwrap ?_
  rw [value_ite, value_ite]
  split
  · exact pairs.scrollRegionDown _ _ _
  split
  · exact ⟨pairs.lines, pairs.sink⟩
  · exact pairs

theorem Pairs.insertLines (count : Int) : (screen.insertLines count).value.Pairs := by
  simp only [Screen.insertLines, value_bind, value_pure, value_ite]
  split
  · exact pairs
  · have hscrolled := pairs.scrollRegionDown screen.cursorRow screen.scrollBottom
      (if count < 1 then 1 else count)
    exact ⟨hscrolled.lines, hscrolled.sink⟩

theorem Pairs.deleteLines (count : Int) : (screen.deleteLines count).value.Pairs := by
  simp only [Screen.deleteLines, value_bind, value_pure, value_ite]
  split
  · exact pairs
  · have hscrolled := pairs.scrollRegionUp screen.cursorRow screen.scrollBottom
      (if count < 1 then 1 else count) false
    exact ⟨hscrolled.lines, hscrolled.sink⟩

theorem Pairs.fillRows (first count : Int) {blank : Cell}
    (narrow : blank.shape = .narrow) : (screen.fillRows first count blank).value.Pairs := by
  apply value_forUp_induction ?_ pairs
  intro row next hnext
  exact hnext.mutableLine (Line.whole_new _ narrow)

end

def cursorLine (screen : Screen) : Line := screen.line screen.cursorRow

/-- Erasing to the right must not begin, and erasing to the left not end, inside a wide
character. -/
def erasesWhole (screen : Screen) (mode : Int) : Bool :=
  if mode = 0 then !screen.cursorLine.continuesAt screen.cursorColumn
  else if mode = 1 then !screen.cursorLine.continuesAt (screen.cursorColumn + 1)
  else true

section Erasing

variable {columns rows : Int} (fits : screen.Fits columns rows)
include fits

theorem Fits.size_cursorLine : (screen.cursorLine.size : Int) = columns :=
  (fits.grid.get fits.cursorRow).2

theorem whole_eraseRight {line : Line} (whole : line.Whole) (size : (line.size : Int) = columns)
    (clean : line.continuesAt screen.cursorColumn = false) :
    (line.fillRange screen.cursorColumn.toNat screen.columns.toNat
      (blankCell screen.pen)).Whole := by
  refine whole.fillRange rfl (Line.shape_of_not_continuesAt clean) ?_
  rw [List.getElem?_eq_none_iff.mpr]
  · simp
  · rw [Line.length_shapes, fits.width]
    omega

theorem whole_eraseLeft {line : Line} (whole : line.Whole)
    (clean : line.continuesAt (screen.cursorColumn + 1) = false) :
    (line.fillRange 0 (screen.cursorColumn.toNat + 1) (blankCell screen.pen)).Whole := by
  have hcolumn := fits.cursorColumn
  refine whole.fillRange rfl (fun htail => ?_) ?_
  · exact Tiled.head_not_second whole (head?_eq_getElem?.trans htail) rfl
  · rw [(by omega : screen.cursorColumn.toNat + 1 = (screen.cursorColumn + 1).toNat)]
    exact Line.shape_of_not_continuesAt clean

theorem Pairs.eraseInDisplay (pairs : screen.Pairs) {mode : Int}
    (clean : screen.erasesWhole mode = true) : (screen.eraseInDisplay mode).value.Pairs := by
  have hline := pairs.line screen.cursorRow
  unfold erasesWhole at clean
  unfold Screen.eraseInDisplay
  refine Pairs.unwrap ?_
  rw [value_ite, value_ite, value_ite, value_ite]
  split
  · rename_i hmode
    rw [if_pos hmode, Bool.not_eq_true'] at clean
    have hright := whole_eraseRight fits hline fits.size_cursorLine clean
    refine Pairs.fillRows ?_ _ _ rfl
    refine Pairs.mutableLine ?_ (Pairs.line ?_ _)
    · exact pairs.mutableLine hright
    · exact pairs.mutableLine hright
  rename_i hmode
  rw [if_neg hmode] at clean
  split
  · rename_i hmode
    rw [if_pos hmode, Bool.not_eq_true'] at clean
    exact (pairs.mutableLine (whole_eraseLeft fits hline clean)).fillRows _ _ rfl
  split
  · exact pairs.fillRows _ _ rfl
  split
  · exact pairs.clearScrollback
  · exact pairs

theorem Pairs.eraseInLine (pairs : screen.Pairs) {mode : Int}
    (clean : screen.erasesWhole mode = true) : (screen.eraseInLine mode).value.Pairs := by
  have hline := pairs.line screen.cursorRow
  unfold erasesWhole at clean
  refine Pairs.unwrap (pairs.mutableLine ?_)
  rw [value_ite, value_ite, value_ite]
  split
  · rename_i hmode
    rw [if_pos hmode, Bool.not_eq_true'] at clean
    exact whole_eraseRight fits hline fits.size_cursorLine clean
  rename_i hmode
  rw [if_neg hmode] at clean
  split
  · rename_i hmode
    rw [if_pos hmode, Bool.not_eq_true'] at clean
    exact whole_eraseLeft fits hline clean
  split
  · exact Line.whole_new _ rfl
  · exact hline

theorem Pairs.opened (pairs : screen.Pairs) : ∃ front shape back,
    Opened screen.cursorLine.shapes screen.cursorColumn.toNat front shape back ∧
      (clearWideCharAt screen.columns screen.cursorLine screen.cursorColumn).value.shapes =
        front ++ shape :: back := by
  have hcolumn := fits.cursorColumn
  have hsize := fits.size_cursorLine
  have hopened := @Line.Whole.clearWideCharAt screen.cursorLine (pairs.line screen.cursorRow)
    screen.columns (by rw [hsize, fits.width]) screen.cursorColumn.toNat (by omega)
  rwa [Int.toNat_of_nonneg hcolumn.1] at hopened

end Erasing

/-- How many cells are edited when there is `room` for so many. -/
def clipped (room count : Int) : Int :=
  let count := if count < 1 then 1 else count
  if room < count then room else count

theorem one_le_clipped {room : Int} (positive : 1 ≤ room) (count : Int) :
    1 ≤ clipped room count ∧ clipped room count ≤ room := by
  unfold clipped
  dsimp only
  split <;> split <;> omega

def erasesCellsWhole (screen : Screen) (count : Int) : Bool :=
  count ≤ 1 || !screen.cursorLine.continuesAt (screen.cursorColumn + count)

def deletesWhole (screen : Screen) (count : Int) : Bool :=
  let count := clipped (screen.columns - screen.cursorColumn) count
  count = 1 || !screen.cursorLine.continuesAt (screen.cursorColumn + count)

/-- What is moved right must neither begin with a wide character that the cursor is on nor end
inside one. -/
def insertsWhole (columns : Int) (line : Line) (column count : Int) : Bool :=
  let count := clipped (columns - column) count
  columns - count ≤ column ||
    (line.cells.getD column.toNat default).width != 2 && !line.continuesAt (columns - count)

section Moving

variable {columns rows : Int} (fits : screen.Fits columns rows)
include fits

theorem Pairs.eraseCharacters (pairs : screen.Pairs) {count : Int}
    (clean : screen.erasesCellsWhole count = true) : (screen.eraseCharacters count).value.Pairs := by
  have hcolumn := fits.cursorColumn
  obtain ⟨front, shape, back, hopened, hcleared⟩ := pairs.opened fits
  refine Pairs.unwrap (pairs.mutableLine ?_)
  rw [value_bind, value_bind, value_bind, value_pure, value_size, value_size]
  generalize herased : (if count < 1 then 1 else count) = erased
  have hpositive : 1 ≤ erased := by
    omega
  rw [(by omega : screen.cursorColumn.toNat + erased.toNat =
    screen.cursorColumn.toNat + 1 + (erased - 1).toNat)]
  refine Line.fillRange_opened hopened hcleared _ rfl ?_
  rw [erasesCellsWhole, Bool.or_eq_true, decide_eq_true_iff, Bool.not_eq_true'] at clean
  rcases clean with hone | hclean
  · exact .inl (by omega)
  · by_cases hone : count ≤ 1
    · exact .inl (by omega)
    · rw [(by omega : screen.cursorColumn.toNat + 1 + (erased - 1).toNat =
        (screen.cursorColumn + count).toNat)]
      exact .inr (Line.shape_of_not_continuesAt hclean)

theorem Pairs.deleteCharacters (pairs : screen.Pairs) {count : Int}
    (clean : screen.deletesWhole count = true) : (screen.deleteCharacters count).value.Pairs := by
  have hcolumn := fits.cursorColumn
  have hwidth := fits.width
  have hsize := fits.size_cursorLine
  obtain ⟨front, shape, back, hopened, hcleared⟩ := pairs.opened fits
  obtain ⟨hpositive, hroom⟩ :=
    one_le_clipped (by omega : 1 ≤ screen.columns - screen.cursorColumn) count
  unfold deletesWhole at clean
  unfold Screen.deleteCharacters
  rw [value_bind, value_int]
  generalize hdeleted : (if screen.columns - screen.cursorColumn < _ then _ else _) = deleted
  have hclipped : clipped (screen.columns - screen.cursorColumn) count = deleted := hdeleted
  rw [hclipped] at clean hpositive hroom
  obtain ⟨deleted, rfl⟩ := Int.eq_ofNat_of_zero_le (by omega : 0 ≤ deleted)
  have hrounds : (screen.columns - screen.cursorColumn - (deleted : Int)).toNat =
      screen.cursorLine.size - screen.cursorColumn.toNat - deleted := by
    omega
  have hkept : (screen.columns - (deleted : Int)).toNat = screen.cursorLine.size - deleted := by
    omega
  have hcut : (clearWideCharAt screen.columns screen.cursorLine screen.cursorColumn).value.size =
      screen.cursorLine.size := by
    rw [← Line.length_shapes, hcleared, hopened.length, Line.length_shapes]
  rw [if_neg (by omega)]
  refine Pairs.unwrap (pairs.mutableLine ?_)
  rw [value_bind, value_bind, value_bind, value_bind, value_bind, value_bind, value_pure, value_size,
    value_size, value_int, value_size, hkept, hrounds, (by omega : screen.columns.toNat =
      screen.cursorLine.size)]
  refine Line.fillRange_movedLeft hopened (by omega) Line.length_shapes (by omega) (fun index => ?_)
    rfl ?_
  · rw [Line.shapes_shiftMarks, ← hcleared]
    have hmoved := @Line.getElem?_shapes_forUp deleted (by omega)
      (screen.cursorLine.size - screen.cursorColumn.toNat - deleted)
      (clearWideCharAt screen.columns screen.cursorLine screen.cursorColumn).value
      screen.cursorColumn.toNat (by omega) index
    rwa [Int.toNat_of_nonneg hcolumn.1] at hmoved
  · rw [Bool.or_eq_true, decide_eq_true_iff, Bool.not_eq_true'] at clean
    rcases clean with hone | hclean
    · exact .inl (by omega)
    · rw [(by omega : screen.cursorColumn.toNat + deleted =
        (screen.cursorColumn + (deleted : Int)).toNat)]
      exact .inr (Line.shape_of_not_continuesAt hclean)

theorem Pairs.insertCharacters (pairs : screen.Pairs) {count : Int}
    (clean : insertsWhole screen.columns screen.cursorLine screen.cursorColumn count = true) :
    (screen.insertCharacters count).value.Pairs := by
  have hcolumn := fits.cursorColumn
  have hwidth := fits.width
  have hsize := fits.size_cursorLine
  obtain ⟨front, shape, back, hopened, hcleared⟩ := pairs.opened fits
  obtain ⟨hpositive, hroom⟩ :=
    one_le_clipped (by omega : 1 ≤ screen.columns - screen.cursorColumn) count
  unfold insertsWhole at clean
  unfold Screen.insertCharacters
  rw [value_bind, value_int]
  generalize hinserted : (if screen.columns - screen.cursorColumn < _ then _ else _) = inserted
  have hclipped : clipped (screen.columns - screen.cursorColumn) count = inserted := hinserted
  rw [hclipped] at clean hpositive hroom
  obtain ⟨inserted, rfl⟩ := Int.eq_ofNat_of_zero_le (by omega : 0 ≤ inserted)
  have hrounds : (screen.columns - screen.cursorColumn - (inserted : Int)).toNat =
      screen.cursorLine.size - screen.cursorColumn.toNat - inserted := by
    omega
  have hlast : screen.columns - 1 = ((screen.cursorLine.size - 1 : Nat) : Int) := by
    omega
  have hafter : (screen.cursorColumn + (inserted : Int)).toNat =
      screen.cursorColumn.toNat + inserted := by
    omega
  have hcut : (clearWideCharAt screen.columns screen.cursorLine screen.cursorColumn).value.size =
      screen.cursorLine.size := by
    rw [← Line.length_shapes, hcleared, hopened.length, Line.length_shapes]
  rw [if_neg (by omega)]
  refine Pairs.unwrap (pairs.mutableLine ?_)
  rw [value_bind, value_bind, value_bind, value_bind, value_bind, value_bind, value_bind, value_pure,
    value_size, value_size, value_int, value_int, value_size, hafter, hrounds, hlast]
  refine Line.fillRange_movedRight hopened (by omega) Line.length_shapes (by omega)
    (fun index => ?_) rfl ?_
  · rw [Line.shapes_shiftMarks, ← hcleared]
    exact @Line.getElem?_shapes_forDown inserted (by omega) _
      (clearWideCharAt screen.columns screen.cursorLine screen.cursorColumn).value _ (by omega)
      (by omega) index
  · rw [Bool.or_eq_true, decide_eq_true_iff, Bool.and_eq_true, bne_iff_ne, Bool.not_eq_true'] at clean
    rcases clean with hfull | ⟨hwide, hclean⟩
    · exact .inl (by omega)
    · refine .inr ⟨?_, ?_⟩
      · intro hlead
        exact hwide (Cell.shape_lead.mp (Line.shape_of_getElem? hlead)).2
      · rw [(by omega : screen.cursorLine.size - inserted = (screen.columns - (inserted : Int)).toNat)]
        exact Line.shape_of_not_continuesAt hclean

end Moving

theorem Pairs.addCombiningMark (pairs : screen.Pairs) (mark : Nat) :
    (screen.addCombiningMark mark).value.Pairs := by
  unfold Screen.addCombiningMark
  rw [value_ite, value_ite]
  split
  · exact pairs
  split
  · exact pairs
  · refine pairs.mutableLine ?_
    rw [value_bind, value_pure, Line.Whole, Line.shapes_addMark]
    exact pairs.line _

/-- What a character that is written next depends on, besides the row. -/
structure Steady (before after : Screen) : Prop where
  cursorColumn : after.cursorColumn = before.cursorColumn
  autowrap : after.autowrap = before.autowrap
  insertMode : after.insertMode = before.insertMode

theorem Steady.refl (screen : Screen) : screen.Steady screen := ⟨rfl, rfl, rfl⟩

theorem steady_pushRows (top : Int) (toScrollback : Bool) (rounds : Nat) :
    screen.Steady (forUp (fun i (screen : Screen) => do
      let row ← int (top + i)
      let line ← get screen.lines row
      pure (if toScrollback then screen.pushLine line else screen)) rounds 0 screen).value := by
  apply value_forUp_induction ?_ (Steady.refl screen)
  intro i next hnext
  simp only [value_bind, value_pure]
  split
  · exact ⟨hnext.cursorColumn, hnext.autowrap, hnext.insertMode⟩
  · exact hnext

theorem steady_scrollRegionUp (top bottom count : Int) (toScrollback : Bool) :
    screen.Steady (screen.scrollRegionUp top bottom count toScrollback).value := by
  simp only [scrollRegionUp, value_ite, value_bind, value_pure]
  generalize (if _ < count then _ else count) = count
  split
  · exact .refl _
  split
  · exact .refl _
  · have hpushed := @steady_pushRows screen top toScrollback count.toNat
    exact ⟨hpushed.cursorColumn, hpushed.autowrap, hpushed.insertMode⟩

theorem steady_lineFeed : screen.Steady screen.lineFeed.value := by
  have hscrolled := @steady_scrollRegionUp screen screen.scrollTop screen.scrollBottom 1
    (screen.scrollTop == 0)
  unfold lineFeed
  simp only [value_bind, value_pure, value_ite]
  split
  · exact ⟨hscrolled.cursorColumn, hscrolled.autowrap, hscrolled.insertMode⟩
  split
  · exact ⟨rfl, rfl, rfl⟩
  · exact ⟨rfl, rfl, rfl⟩

theorem steady_insertCharacters (count : Int) :
    screen.Steady (screen.insertCharacters count).value := by
  simp only [insertCharacters, value_bind, value_ite, value_pure]
  repeat' split
  all_goals exact ⟨rfl, rfl, rfl⟩

section Writing

variable {columns rows : Int}

variable {codePoint : Nat} {width : Int}

theorem Pairs.writtenAtCursor (pairs : screen.Pairs) (fits : screen.Fits columns rows)
    (drawn : codePoint ≠ 0) (written : width = 1 ∨ width = 2)
    (room : screen.cursorColumn + width ≤ columns) :
    (screen.mutableLine screen.cursorRow fun line =>
      writeCell screen.columns screen.pen codePoint width screen.cursorColumn line).value.Pairs := by
  have hcolumn := fits.cursorColumn
  have hwidth := fits.width
  have hsize := fits.size_cursorLine
  have hcell := @Line.Whole.writeCell screen.cursorLine (pairs.line screen.cursorRow) screen.columns
    (by omega) screen.pen codePoint width drawn written screen.cursorColumn.toNat (by omega)
  rw [Int.toNat_of_nonneg hcolumn.1] at hcell
  exact pairs.mutableLine hcell

variable (size : GridSize columns rows) (fits : screen.Fits columns rows)
include size fits

theorem Pairs.writeAtCursor (pairs : screen.Pairs) (drawn : codePoint ≠ 0)
    (written : width = 1 ∨ width = 2) (room : screen.cursorColumn + width ≤ columns)
    (clean : screen.insertMode = true →
      insertsWhole screen.columns screen.cursorLine screen.cursorColumn width = true) :
    (screen.writeAtCursor codePoint width).value.Pairs := by
  have hinserted : ∃ inserted : Screen, inserted.Pairs ∧ inserted.Fits columns rows ∧
      screen.Steady inserted ∧
      (if screen.insertMode then screen.insertCharacters width else pure screen).value = inserted := by
    refine ⟨_, ?_, ?_, ?_, rfl⟩
    all_goals split
    · exact pairs.insertCharacters fits (clean ‹_›)
    · exact pairs
    · exact (fits.insertCharacters size width).2
    · exact fits
    · exact steady_insertCharacters width
    · exact .refl _
  obtain ⟨inserted, hpairs, hfits, hsteady, hvalue⟩ := hinserted
  have hwritten := hpairs.writtenAtCursor hfits drawn written (hsteady.cursorColumn ▸ room)
  unfold Screen.writeAtCursor
  rw [value_bind, hvalue]
  simp only [value_bind, value_ite, value_pure]
  split
  · exact ⟨hwritten.lines, hwritten.sink⟩
  · exact ⟨hwritten.lines, hwritten.sink⟩

def lineBelow (screen : Screen) : Line :=
  if screen.cursorRow = screen.scrollBottom then
    Line.new screen.columns.toNat (blankCell screen.pen)
  else screen.line (min (screen.cursorRow + 1) (screen.rows - 1))

omit size in
theorem Fits.scrollRegionUp_one (toScrollback : Bool) : ∃ lines : List Line,
    (screen.scrollRegionUp screen.scrollTop screen.scrollBottom 1 toScrollback).value.lines =
        lines.set screen.scrollBottom.toNat
          (Line.new screen.columns.toNat (blankCell screen.pen)) ∧
      (screen.scrollRegionUp screen.scrollTop screen.scrollBottom 1 toScrollback).value.cursorRow =
        screen.cursorRow := by
  have hregion := fits.region
  have hheight := fits.height
  unfold Screen.scrollRegionUp
  rw [if_neg (by omega), value_bind, value_bind, value_int, value_int]
  rw [if_neg (by omega : ¬screen.scrollBottom - screen.scrollTop + 1 < 1),
    if_neg (by decide : ¬(1 : Int) ≤ 0)]
  simp only [value_bind, value_int, value_pure, Int.sub_add_cancel, value_size]
  cases toScrollback with
  | true => exact ⟨_, rfl, rfl⟩
  | false => exact ⟨_, rfl, rfl⟩

theorem Fits.cursorLine_lineFeed : screen.lineFeed.value.cursorLine = screen.lineBelow := by
  have hbounds := fits.bounds size
  have hlength := (fits.lineFeed size).2.grid.length
  revert hlength
  unfold Screen.lineFeed lineBelow
  rw [value_bind, value_bind, value_pure, value_int, value_ite, value_ite]
  split
  · intro hlength
    obtain ⟨lines, hlines, hcursor⟩ := fits.scrollRegionUp_one (screen.scrollTop == 0)
    rw [hlines, length_set] at hlength
    unfold cursorLine line
    rw [hlines, hcursor, getD_eq_getElem?_getD, getElem?_set, if_pos (by omega),
      if_pos (by omega), getD_some]
  split
  · intro _
    rw [Int.min_eq_left (by omega)]
    rfl
  · intro _
    rw [Int.min_eq_right (by omega), (by omega : screen.rows - 1 = screen.cursorRow)]
    rfl

omit size in
theorem lineBelow_mutableLine (edit : Line → Checked Line) :
    (screen.mutableLine screen.cursorRow edit).value.lineBelow = screen.lineBelow ∨
      screen.lineBelow = screen.cursorLine ∧
        (screen.mutableLine screen.cursorRow edit).value.lineBelow =
          (edit screen.cursorLine).value := by
  have hrow := fits.cursorRow
  have hheight := fits.height
  have hlength := fits.grid.length
  unfold lineBelow mutableLine
  simp only [value_bind, value_get, value_put, value_pure]
  split
  · exact .inl rfl
  unfold line
  rcases Int.lt_or_le screen.cursorRow (screen.rows - 1) with hlast | hlast
  · refine .inl ?_
    rw [getD_eq_getElem?_getD, getElem?_set, if_neg (by omega), ← getD_eq_getElem?_getD]
  · rw [Int.min_eq_right (by omega), (by omega : screen.rows - 1 = screen.cursorRow)]
    refine .inr ⟨rfl, ?_⟩
    rw [getD_eq_getElem?_getD, getElem?_set, if_pos rfl, if_pos (by omega), getD_some]
    rfl

/-- Whether insert mode, if on, cuts no wide character of the row written to. -/
def shiftsWhole (screen : Screen) (line : Line) (column width : Int) : Bool :=
  !screen.insertMode || insertsWhole screen.columns line column width

/-- Whether a character of `width` columns can be written without cutting a wide one. -/
def writesWhole (screen : Screen) (width : Int) : Bool :=
  if width = 2 ∧ screen.columns = 1 then !screen.autowrap
  else if screen.pendingWrap then screen.shiftsWhole screen.lineBelow 0 width
  else if width = 2 ∧ screen.cursorColumn = screen.columns - 1 then
    !screen.autowrap ||
      !screen.cursorLine.continuesAt screen.cursorColumn && screen.shiftsWhole screen.lineBelow 0 width
  else screen.shiftsWhole screen.cursorLine screen.cursorColumn width

omit size in
theorem Pairs.clearedAtMargin (pairs : screen.Pairs) : (screen.blankAtMargin fun line =>
      clearWideCharAt screen.columns line screen.cursorColumn).value.Pairs := by
  have hcolumn := fits.cursorColumn
  obtain ⟨front, shape, back, hopened, hcleared⟩ := pairs.opened fits
  refine pairs.mutableLine ?_
  rw [value_bind, value_bind, value_bind, value_bind, value_pure, value_size, value_int, value_size,
    (by omega : (screen.cursorColumn + 1).toNat = screen.cursorColumn.toNat + 1 + 0)]
  exact Line.fillRange_opened hopened hcleared 0 rfl (Or.inl rfl)

omit size in
theorem Pairs.wrappedAtMargin (pairs : screen.Pairs)
    (margin : screen.cursorColumn = screen.columns - 1)
    (clean : screen.cursorLine.continuesAt screen.cursorColumn = false) :
    (screen.blankAtMargin fun line => pure { line with wrapped := true }).value.Pairs := by
  have hwidth := fits.width
  have hsize := fits.size_cursorLine
  refine pairs.mutableLine ?_
  rw [value_bind, value_bind, value_bind, value_bind, value_pure, value_size, value_int, value_size,
    value_pure]
  have hline : Line.Whole { screen.cursorLine with wrapped := true } := pairs.line screen.cursorRow
  refine hline.fillRange rfl (Line.shape_of_not_continuesAt clean) ?_
  rw [List.getElem?_eq_none_iff.mpr]
  · simp
  · rw [Line.length_shapes]
    change screen.cursorLine.size ≤ _
    omega

omit size fits in
theorem insertsWhole_congr {columns count : Int} {before after : Line}
    (same : ∀ index : Nat, index = 0 ∨ index = (columns - clipped (columns - 0) count).toNat →
      after.cells.getD index default = before.cells.getD index default) :
    insertsWhole columns after 0 count = insertsWhole columns before 0 count := by
  unfold insertsWhole Line.continuesAt
  dsimp only
  rw [Int.toNat_zero, same 0 (Or.inl rfl), same _ (Or.inr rfl)]

def atStart (screen : Screen) : Screen := { screen with cursorColumn := 0 }

theorem Pairs.writeBelow {edit : Line → Checked Line}
    (pairs : (screen.mutableLine screen.cursorRow edit).value.Pairs)
    (edited : (screen.mutableLine screen.cursorRow edit).value.Fits columns rows)
    (drawn : codePoint ≠ 0) (written : width = 1 ∨ width = 2) (room : width ≤ columns)
    (same : insertsWhole screen.columns (edit screen.cursorLine).value 0 width =
      insertsWhole screen.columns screen.cursorLine 0 width)
    (clean : screen.shiftsWhole screen.lineBelow 0 width = true) :
    ((screen.mutableLine screen.cursorRow edit).value.atStart.lineFeed.value.writeAtCursor codePoint
      width).value.Pairs := by
  have hwide := size.wide
  generalize hafter : (screen.mutableLine screen.cursorRow edit).value = after at *
  have hhome : after.atStart.Fits columns rows := { edited with
    cursorColumn := by unfold atStart; dsimp only; omega }
  have hfits := (hhome.lineFeed size).2
  have hsteady := @steady_lineFeed after.atStart
  refine Pairs.writeAtCursor size hfits (Pairs.lineFeed ⟨pairs.lines, pairs.sink⟩) drawn written ?_ ?_
  · rw [hsteady.cursorColumn]
    simpa [atStart] using room
  · intro hinsert
    have hmode : screen.insertMode = true := by
      rw [← hinsert, hsteady.insertMode, ← hafter]
      rfl
    have hclean : insertsWhole screen.columns screen.lineBelow 0 width = true := by
      rwa [shiftsWhole, hmode] at clean
    rw [hhome.cursorLine_lineFeed size, hsteady.cursorColumn, hfits.width, ← fits.width]
    rcases lineBelow_mutableLine fits edit with hbelow | ⟨hcursor, hbelow⟩
    · rw [hafter] at hbelow
      exact (congrArg (insertsWhole screen.columns · 0 width) hbelow).trans hclean
    · rw [hcursor] at hclean
      rw [hafter] at hbelow
      exact (congrArg (insertsWhole screen.columns · 0 width) hbelow).trans (same.trans hclean)

theorem Pairs.putChar (pairs : screen.Pairs) (drawn : codePoint ≠ 0)
    (written : width = 1 ∨ width = 2) (clean : screen.writesWhole width = true) :
    (screen.putChar codePoint width).value.Pairs := by
  have hbounds := fits.bounds size
  have hcolumn := fits.cursorColumn
  unfold writesWhole at clean
  unfold Screen.putChar
  rw [if_neg (by omega), value_bind]
  by_cases hpending : screen.pendingWrap = true
  · have hnext : screen.takePendingWrap.value = (screen.mutableLine screen.cursorRow fun line =>
        pure { line with wrapped := true }).value.atStart.lineFeed.value := by
      unfold takePendingWrap
      rw [if_pos hpending]
      rfl
    have hmarked := fits.mutableLine fits.cursorRow fun line spans =>
      .pure (show Line.Spans columns { line with wrapped := true } from spans)
    have hpairs : (screen.mutableLine screen.cursorRow fun line =>
        pure { line with wrapped := true }).value.Pairs := pairs.mutableLine (pairs.line _)
    have hfits := (fits.takePendingWrap size).2
    have hnextPairs : screen.takePendingWrap.value.Pairs := hnext ▸ Pairs.lineFeed ⟨hpairs.lines, hpairs.sink⟩
    have hsteady := @steady_lineFeed (screen.mutableLine screen.cursorRow fun line =>
        pure { line with wrapped := true }).value.atStart
    rw [← hnext] at hsteady
    have hcolumn : screen.takePendingWrap.value.cursorColumn = 0 := hsteady.cursorColumn
    have hautowrap : screen.takePendingWrap.value.autowrap = screen.autowrap := hsteady.autowrap
    rw [value_bind, value_int, value_ite, value_ite, hcolumn, hfits.width, hautowrap]
    by_cases hnarrow : width = 2 ∧ screen.columns = 1
    · rw [if_pos hnarrow, Bool.not_eq_true'] at clean
      rw [if_pos (by omega), clean, if_neg (by decide)]
      have hcleared := hnextPairs.clearedAtMargin hfits
      rwa [hfits.width, hcolumn] at hcleared
    · rw [if_neg hnarrow, if_pos hpending] at clean
      rw [if_neg (by omega), hnext]
      exact Pairs.writeBelow size fits hpairs hmarked.2 drawn written (by omega) rfl clean
  · have hnext : screen.takePendingWrap.value = screen := by
      unfold takePendingWrap
      rw [if_neg hpending]
      rfl
    rw [hnext, value_bind, value_int, value_ite, value_ite]
    by_cases hnarrow : width = 2 ∧ screen.columns = 1
    · rw [if_pos hnarrow, Bool.not_eq_true'] at clean
      rw [if_pos (by omega), clean, if_neg (by decide)]
      exact pairs.clearedAtMargin fits
    rw [if_neg hnarrow, if_neg hpending] at clean
    by_cases hmargin : width = 2 ∧ screen.cursorColumn = screen.columns - 1
    · rw [if_pos hmargin] at clean
      rw [if_pos hmargin]
      cases hwrap : screen.autowrap with
      | false =>
        rw [if_neg (by decide)]
        exact pairs.clearedAtMargin fits
      | true =>
        rw [hwrap, Bool.not_true, Bool.false_or, Bool.and_eq_true, Bool.not_eq_true'] at clean
        rw [if_pos rfl]
        have hblanked := pairs.wrappedAtMargin fits hmargin.2 clean.1
        refine Pairs.writeBelow size fits hblanked ?_ drawn written (by omega) ?_ clean.2
        · exact (fits.blankAtMargin size fun line spans =>
            .pure (show Line.Spans columns { line with wrapped := true } from spans)).2
        · refine insertsWhole_congr fun index hindex => Line.getD_fillRange_before ?_
          have hclipped : clipped (screen.columns - 0) 2 = 2 := by
            unfold clipped
            dsimp only
            omega
          rw [hmargin.1, hclipped] at hindex
          dsimp only [value_size]
          omega
    · rw [if_neg hmargin] at clean
      rw [if_neg hmargin]
      refine pairs.writeAtCursor size fits drawn written (by omega) fun hinsert => ?_
      rw [shiftsWhole, hinsert] at clean
      exact clean

def repeatsWhole (codePoint : Nat) (width : Int) : Nat → Screen → Bool
  | 0, _ => true
  | rounds + 1, screen =>
      screen.writesWhole width && repeatsWhole codePoint width rounds (screen.putChar codePoint width).value

omit fits in
theorem Pairs.repeatPut (drawn : codePoint ≠ 0)
    (written : width = 1 ∨ width = 2) (rounds : Nat) {screen : Screen}
    (fits : screen.Fits columns rows) (pairs : screen.Pairs)
    (clean : repeatsWhole codePoint width rounds screen = true) (start : Int) :
    (forUp (fun _ next => next.putChar codePoint width) rounds start screen).value.Pairs := by
  induction rounds generalizing screen start with
  | zero => exact pairs
  | succ rounds ih =>
    obtain ⟨hfirst, hrest⟩ := (Bool.and_eq_true _ _).mp clean
    exact ih (fits.putChar size codePoint written).2 (pairs.putChar size fits drawn written hfirst)
      hrest _

theorem Pairs.repeatLast (pairs : screen.Pairs) {count : Int}
    (clean : screen.lastWrittenChar = 0 ∨ repeatsWhole screen.lastWrittenChar screen.lastWrittenWidth
      (min count (screen.columns * screen.rows)).toNat screen = true) :
    (screen.repeatLast count).value.Pairs := by
  unfold Screen.repeatLast
  rw [value_ite]
  split
  · exact pairs
  · rename_i hsome
    rcases clean with hzero | hclean
    · exact absurd (Or.inl hzero) hsome
    · exact Pairs.repeatPut size (fun hzero => hsome (Or.inl hzero)) fits.lastWrittenWidth _ fits pairs
        hclean _

end Writing

theorem Pairs.clearAll (pairs : screen.Pairs) : screen.clearAll.value.Pairs :=
  ⟨freshRows whole_law pairs.lines _ _ _ _, pairs.sink⟩

theorem Pairs.reset (pairs : screen.Pairs) : screen.reset.value.Pairs :=
  Pairs.clearAll ⟨pairs.lines, pairs.sink⟩

theorem Pairs.setScrollRegion (pairs : screen.Pairs) (top bottom : Int) :
    (screen.setScrollRegion top bottom).value.Pairs := by
  have hchosen : (screen.setScrollRegion top bottom).value.lines = screen.lines ∧
      (screen.setScrollRegion top bottom).value.sink = screen.sink := by
    simp only [Screen.setScrollRegion, value_bind, value_pure]
    repeat' split
    all_goals exact ⟨rfl, rfl⟩
  exact ⟨hchosen.1 ▸ pairs.lines, hchosen.2 ▸ pairs.sink⟩

theorem Pairs.restoreCursor (pairs : screen.Pairs) : screen.restoreCursor.value.Pairs := by
  unfold Screen.restoreCursor
  rw [value_ite]
  split
  · exact ⟨pairs.lines, pairs.sink⟩
  · exact ⟨pairs.lines, pairs.sink⟩

end Screen

/-- Whether an operation cuts no wide character of the screen in two. -/
def Operation.keepsPairs (screen : Screen) : Operation → Bool
  | .putChar _ width => screen.writesWhole width
  | .repeatLast count =>
      screen.lastWrittenChar == 0 ||
        Screen.repeatsWhole screen.lastWrittenChar screen.lastWrittenWidth
          (min count (screen.columns * screen.rows)).toNat screen
  | .eraseInDisplay mode => screen.erasesWhole mode
  | .eraseInLine mode => screen.erasesWhole mode
  | .eraseCharacters count => screen.erasesCellsWhole count
  | .insertCharacters count =>
      Screen.insertsWhole screen.columns screen.cursorLine screen.cursorColumn count
  | .deleteCharacters count => screen.deletesWhole count
  | _ => true

theorem Operation.perform_pairs {columns rows : Int} {screen : Screen} {operation : Operation}
    (size : GridSize columns rows) (fits : screen.Fits columns rows) (bounded : operation.Bounded)
    (pairs : screen.Pairs) (keeps : operation.keepsPairs screen = true) :
    (operation.perform screen).value.Pairs := by
  cases operation with
  | putChar codePoint width => exact pairs.putChar size fits bounded.1 bounded.2 keeps
  | addCombiningMark mark => exact pairs.addCombiningMark mark
  | repeatLast count =>
    refine pairs.repeatLast size fits ?_
    simpa [keepsPairs] using keeps
  | carriageReturn => exact ⟨pairs.lines, pairs.sink⟩
  | lineFeed => exact pairs.lineFeed
  | reverseIndex => exact pairs.reverseIndex
  | backspace =>
    simp only [perform, Screen.backspace, value_ite, value_bind, value_pure]
    repeat' split
    all_goals exact ⟨pairs.lines, pairs.sink⟩
  | tab count => exact ⟨pairs.lines, pairs.sink⟩
  | backTab count => exact ⟨pairs.lines, pairs.sink⟩
  | setTabStop =>
    simp only [perform, Screen.setTabStop, value_ite, value_bind, value_pure]
    split
    all_goals exact ⟨pairs.lines, pairs.sink⟩
  | clearTabStop mode =>
    simp only [perform, Screen.clearTabStop, value_ite, value_bind, value_pure]
    repeat' split
    all_goals exact ⟨pairs.lines, pairs.sink⟩
  | cursorUp count resetColumn => exact ⟨pairs.lines, pairs.sink⟩
  | cursorDown count resetColumn => exact ⟨pairs.lines, pairs.sink⟩
  | cursorForward count => exact ⟨pairs.lines, pairs.sink⟩
  | cursorBackward count => exact ⟨pairs.lines, pairs.sink⟩
  | cursorToColumn column => exact ⟨pairs.lines, pairs.sink⟩
  | cursorToRow row => exact ⟨pairs.lines, pairs.sink⟩
  | cursorToPosition row column => exact ⟨pairs.lines, pairs.sink⟩
  | saveCursor => exact ⟨pairs.lines, pairs.sink⟩
  | restoreCursor => exact pairs.restoreCursor
  | eraseInDisplay mode => exact pairs.eraseInDisplay fits keeps
  | eraseInLine mode => exact pairs.eraseInLine fits keeps
  | eraseCharacters count => exact pairs.eraseCharacters fits keeps
  | insertCharacters count => exact pairs.insertCharacters fits keeps
  | deleteCharacters count => exact pairs.deleteCharacters fits keeps
  | insertLines count => exact pairs.insertLines count
  | deleteLines count => exact pairs.deleteLines count
  | scrollUp count => exact pairs.scrollRegionUp _ _ _ _
  | scrollDown count => exact pairs.scrollRegionDown _ _ _
  | fillScreen codePoint =>
    have hnarrow : ({ blankCell screen.pen with code := codePoint } : Cell).shape = .narrow :=
      Cell.shape_narrow.mpr ⟨bounded, (by decide : 1 ≠ 2)⟩
    have hfilled := pairs.fillRows 0 screen.rows hnarrow
    exact ⟨hfilled.lines, hfilled.sink⟩
  | setScrollRegion top bottom => exact pairs.setScrollRegion top bottom
  | setOriginMode value => exact ⟨pairs.lines, pairs.sink⟩
  | setAutowrap value => exact ⟨pairs.lines, pairs.sink⟩
  | setInsertMode value => exact ⟨pairs.lines, pairs.sink⟩
  | setReverseVideo value => exact ⟨pairs.lines, pairs.sink⟩
  | setPen pen => exact ⟨pairs.lines, pairs.sink⟩

end Hypeterm.Term
