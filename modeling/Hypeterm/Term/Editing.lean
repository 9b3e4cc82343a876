import Hypeterm.Term.Fits

/-! Scrolling, editing and writing keep the grid of a screen in shape. -/
namespace Hypeterm.Term
open Library Checked

namespace Screen

section

variable {columns rows : Int} {screen : Screen}

theorem Fits.pushLine (fits : screen.Fits columns rows) {line : Line} (short : line.size ≤ 10000) :
    Fits columns rows (screen.pushLine line) := by
  refine { fits with sink := ?_ }
  intro sink hsink
  obtain ⟨old, hold, rfl⟩ := Option.map_eq_some_iff.mp hsink
  exact (fits.sink old hold).pushLine short

variable {lines : List Line}

theorem Fits.withLines (fits : screen.Fits columns rows)
    (grid : Grid columns rows lines) (revision : Nat) :
    Fits columns rows { screen with lines, revision } :=
  { fits with grid }

section

variable (grid : Grid columns rows lines) (tall : rows ≤ 10000)
include grid tall

theorem holds_moveUp {top count height : Int}
    (inside : 0 ≤ top ∧ 1 ≤ count ∧ count ≤ height ∧ top + height ≤ rows) :
    Holds (Grid columns rows) (forUp (fun row lines => do
      let source ← int (row + count)
      let line ← get lines source
      put lines row line) (height - count).toNat top lines) := by
  refine Holds.forUp (fun _ lines => Grid columns rows lines) (by omega) (by omega) grid ?_
  intro row lines hlow hhigh hgrid
  refine .int (by omega) (by omega) ?_
  exact (hgrid.get (by omega)).bind fun line hline => hgrid.put (by omega) hline

theorem holds_moveDown {top bottom count height : Int} (distance : height = bottom - top + 1)
    (inside : 0 ≤ top ∧ 1 ≤ count ∧ count ≤ height ∧ bottom < rows) :
    Holds (Grid columns rows) (forDown (fun row lines => do
      let source ← int (row - count)
      let line ← get lines source
      put lines row line) (height - count).toNat bottom lines) := by
  refine Holds.forDown (fun _ lines => Grid columns rows lines) (by omega) (by omega) grid ?_
  intro row lines hhigh hlow hgrid
  refine .int (by omega) (by omega) ?_
  exact (hgrid.get (by omega)).bind fun line hline => hgrid.put (by omega) hline

theorem holds_freshRows {first count : Int}
    {width : Nat} {blank : Cell} (wide : (width : Int) = columns)
    (inside : 0 ≤ first ∧ 0 ≤ count ∧ first + count ≤ rows) :
    Holds (Grid columns rows)
      (forUp (fun row lines => put lines row (Line.new width blank)) count.toNat first lines) := by
  refine Holds.forUp (fun _ lines => Grid columns rows lines) (by omega) (by omega) grid ?_
  intro row lines hlow hhigh hgrid
  exact hgrid.put (by omega) (Line.spans_new wide)

end

end

variable {columns rows : Int} {screen : Screen}
variable (size : GridSize columns rows) (fits : screen.Fits columns rows)
include size fits

theorem Fits.scrollRegionUp (top bottom count : Int) (toScrollback : Bool) :
    Holds (Fits columns rows) (screen.scrollRegionUp top bottom count toScrollback) := by
  have hbounds := fits.bounds size
  have hwidth := fits.width
  have htall := size.tall
  unfold Screen.scrollRegionUp
  refine .ite (fun _ => .pure fits) fun hregion => ?_
  refine .int (by omega) (by omega) ?_
  refine .int (by omega) (by omega) ?_
  generalize hcount : (if bottom - top + 1 < count then bottom - top + 1 else count) = rounds
  have hrounds : rounds ≤ bottom - top + 1 := by
    split at hcount <;> omega
  refine .ite (fun _ => .pure fits) fun hsome => ?_
  refine .bind (Holds.forUp (fun _ screen => Fits columns rows screen) (by omega) (by omega)
    fits fun i screen hlow hhigh hfits => ?_) fun screen (fits : screen.Fits columns rows) => ?_
  · refine .int (by omega) (by omega) ?_
    refine (hfits.grid.get (by omega)).bind fun line hline => .pure ?_
    split
    · refine hfits.pushLine ?_
      unfold Line.Spans at hline
      omega
    · exact hfits
  · have hwidth := fits.width
    refine (holds_moveUp fits.grid htall.2 (by omega)).bind fun lines hlines => ?_
    refine .int (by omega) (by omega) ?_
    refine .int (by omega) (by omega) ?_
    refine (holds_size (by omega)).bind fun width hsize => ?_
    refine (holds_freshRows hlines htall.2 (by omega) (by omega)).bind fun lines hlines => ?_
    exact .pure (fits.withLines hlines _)

theorem Fits.scrollRegionDown (top bottom count : Int) :
    Holds (Fits columns rows) (screen.scrollRegionDown top bottom count) := by
  have hbounds := fits.bounds size
  have htall := size.tall
  unfold Screen.scrollRegionDown
  refine .ite (fun _ => .pure fits) fun hregion => ?_
  refine .int (by omega) (by omega) ?_
  refine .int (by omega) (by omega) ?_
  generalize hcount : (if bottom - top + 1 < count then bottom - top + 1 else count) = rounds
  have hrounds : rounds ≤ bottom - top + 1 := by
    split at hcount <;> omega
  refine .ite (fun _ => .pure fits) fun hsome => ?_
  refine (holds_moveDown fits.grid htall.2 rfl (by omega)).bind fun lines hlines => ?_
  refine (holds_size (by omega)).bind fun width hsize => ?_
  refine (holds_freshRows hlines htall.2 (by omega) (by omega)).bind fun lines hlines => ?_
  exact .pure (fits.withLines hlines _)

theorem Fits.lineFeed : Holds (Fits columns rows) screen.lineFeed := by
  have hbounds := fits.bounds size
  refine .int (by omega) (by omega) ?_
  refine .bind (.ite (fun _ => fits.scrollRegionUp size _ _ _ _) fun _ => .ite
    (fun hroom => ?_) fun _ => .pure fits) fun screen hfits => .pure { hfits with }
  refine .int (by omega) (by omega) ?_
  exact .pure (fits.withCursor (by omega) fits.cursorColumn)

theorem Fits.reverseIndex : Holds (Fits columns rows) screen.reverseIndex := by
  have hbounds := fits.bounds size
  refine .bind (.ite (fun _ => fits.scrollRegionDown size _ _ _) fun _ => .ite
    (fun hroom => ?_) fun _ => .pure fits) fun screen hfits => .pure { hfits with }
  refine .int (by omega) (by omega) ?_
  exact .pure (fits.withCursor (by omega) fits.cursorColumn)

variable (count : Int)

theorem Fits.insertLines : Holds (Fits columns rows) (screen.insertLines count) := by
  have hwide := size.wide
  unfold Screen.insertLines
  refine .ite (fun _ => .pure fits) fun _ => ?_
  refine (fits.scrollRegionDown size _ _ _).bind fun screen hfits => ?_
  exact .pure (hfits.withCursor hfits.cursorRow (by omega))

theorem Fits.deleteLines : Holds (Fits columns rows) (screen.deleteLines count) := by
  have hwide := size.wide
  unfold Screen.deleteLines
  refine .ite (fun _ => .pure fits) fun _ => ?_
  refine (fits.scrollRegionUp size _ _ _ _).bind fun screen hfits => ?_
  exact .pure (hfits.withCursor hfits.cursorRow (by omega))

theorem Fits.fillRows {first count : Int}
    (inside : 0 ≤ first ∧ first + count ≤ rows ∧ first ≤ rows) (blank : Cell) :
    Holds (Fits columns rows) (screen.fillRows first count blank) := by
  refine fits.mutableLines size inside fun line spans => .pure ?_
  simpa [Line.Spans] using spans

theorem Fits.eraseInDisplay (mode : Int) :
    Holds (Fits columns rows) (screen.eraseInDisplay mode) := by
  have hrow := fits.cursorRow
  have hbounds := fits.bounds size
  have hheight := fits.height
  refine .bind ?_ fun (screen : Screen) (hfits : screen.Fits columns rows) =>
    .pure { hfits with }
  refine .ite (fun _ => ?_) fun _ => .ite (fun _ => ?_) fun _ => .ite (fun _ => ?_)
    fun _ => .ite (fun _ => ?_) fun _ => .pure fits
  · refine (fits.mutableLine hrow fun line spans => ?_).bind fun screen hfits => ?_
    · refine (holds_size (by omega)).bind fun first _ => ?_
      refine (holds_size (by omega)).bind fun last _ => ?_
      exact .pure (spans.fillRange first last _)
    refine (hfits.mutableLine hfits.cursorRow fun line spans =>
      .pure (show Line.Spans columns { line with wrapped := false } from spans)).bind
      fun screen hfits => ?_
    have hrow := hfits.cursorRow
    have hheight := hfits.height
    refine .int (by omega) (by omega) ?_
    exact hfits.fillRows size (by omega) _
  · refine (fits.mutableLine hrow fun line spans => ?_).bind fun screen hfits => ?_
    · refine (holds_size (by omega)).bind fun column _ => ?_
      exact .pure (spans.fillRange 0 (column + 1) _)
    have hrow := hfits.cursorRow
    exact hfits.fillRows size (by omega) _
  · exact fits.fillRows size (by omega) _
  · refine .pure { fits with sink := ?_ }
    intro sink hsink
    obtain ⟨old, hold, rfl⟩ := Option.map_eq_some_iff.mp hsink
    exact (fits.sink old hold).clearScrollback

theorem Fits.eraseInLine (mode : Int) : Holds (Fits columns rows) (screen.eraseInLine mode) := by
  have hbounds := fits.bounds size
  refine (fits.mutableLine fits.cursorRow fun line spans => ?_).bind fun screen hfits =>
    .pure { hfits with }
  refine .ite (fun _ => ?_) fun _ => .ite (fun _ => ?_) fun _ => .ite (fun _ => ?_)
    fun _ => .pure spans
  · refine (holds_size (by omega)).bind fun first _ => ?_
    refine (holds_size (by omega)).bind fun last _ => ?_
    exact .pure (spans.fillRange first last _)
  · refine (holds_size (by omega)).bind fun column _ => ?_
    exact .pure (spans.fillRange 0 (column + 1) _)
  · refine .pure ?_
    simpa [Line.Spans] using spans

theorem Fits.eraseCharacters : Holds (Fits columns rows) (screen.eraseCharacters count) := by
  have hcolumn := fits.cursorColumn
  have hwidth := fits.width
  have hwide := size.wide
  refine (fits.mutableLine fits.cursorRow fun line spans => ?_).bind fun screen hfits =>
    .pure { hfits with }
  refine (holds_size (by omega)).bind fun first _ => ?_
  refine (holds_size (by split <;> omega)).bind fun count _ => ?_
  rw [hwidth]
  refine (spans.clearWideCharAt (by omega) hwide.2).bind fun line spans => ?_
  exact .pure (spans.fillRange first _ _)

theorem Fits.insertCharacters : Holds (Fits columns rows) (screen.insertCharacters count) := by
  have hcolumn := fits.cursorColumn
  have hwidth := fits.width
  have hwide := size.wide
  refine .int (by omega) (by omega) ?_
  generalize hcount : (if screen.columns - screen.cursorColumn < _ then _ else _) = inserted
  have hinserted : inserted ≤ screen.columns - screen.cursorColumn := by
    split at hcount <;> omega
  refine .ite (fun _ => .pure fits) fun hsome => ?_
  refine (fits.mutableLine fits.cursorRow fun line spans => ?_).bind fun screen hfits =>
    .pure { hfits with }
  rw [hwidth] at hinserted ⊢
  refine (spans.clearWideCharAt (by omega) hwide.2).bind fun line spans => ?_
  refine .int (by omega) (by omega) ?_
  refine .bind (Holds.forDown (fun _ line => line.Spans columns) (by omega) (by omega) spans
    fun column line hhigh hlow spans => ?_) fun line (spans : line.Spans columns) => ?_
  · refine .int (by omega) (by omega) ?_
    exact (spans.cellAt (by omega)).bind fun cell _ => spans.setCellAt (by omega)
  · refine (holds_size (by omega)).bind fun first _ => ?_
    refine (holds_size (by omega)).bind fun limit _ => ?_
    refine .int (by omega) (by omega) ?_
    refine (holds_size (by omega)).bind fun after _ => .pure ?_
    exact Line.Spans.fillRange (by simpa [Line.Spans] using spans) _ _ _

theorem Fits.deleteCharacters : Holds (Fits columns rows) (screen.deleteCharacters count) := by
  have hcolumn := fits.cursorColumn
  have hwidth := fits.width
  have hwide := size.wide
  refine .int (by omega) (by omega) ?_
  generalize hcount : (if screen.columns - screen.cursorColumn < _ then _ else _) = deleted
  have hdeleted : deleted ≤ screen.columns - screen.cursorColumn := by
    split at hcount <;> omega
  refine .ite (fun _ => .pure fits) fun hsome => ?_
  refine (fits.mutableLine fits.cursorRow fun line spans => ?_).bind fun screen hfits =>
    .pure { hfits with }
  rw [hwidth] at hdeleted ⊢
  refine (spans.clearWideCharAt (by omega) hwide.2).bind fun line spans => ?_
  refine .bind (Holds.forUp (fun _ line => line.Spans columns) (by omega) (by omega) spans
    fun column line hlow hhigh spans => ?_) fun line (spans : line.Spans columns) => ?_
  · refine .int (by omega) (by omega) ?_
    exact (spans.cellAt (by omega)).bind fun cell _ => spans.setCellAt (by omega)
  · refine (holds_size (by omega)).bind fun first _ => ?_
    refine (holds_size (by omega)).bind fun limit _ => ?_
    refine .int (by omega) (by omega) ?_
    refine (holds_size (by omega)).bind fun kept _ => .pure ?_
    exact Line.Spans.fillRange (by simpa [Line.Spans] using spans) _ _ _

end Screen

namespace Screen

variable {columns rows : Int} {screen : Screen}
theorem Fits.addCombiningMark (fits : screen.Fits columns rows) (mark : Nat) :
    Holds (Fits columns rows) (screen.addCombiningMark mark) := by
  have hheight := fits.height
  have hwidth := fits.width
  unfold Screen.addCombiningMark
  refine .ite (fun _ => .pure fits) fun hrow => ?_
  refine .ite (fun _ => .pure fits) fun hcolumn => ?_
  refine fits.mutableLine (by omega) fun line spans => ?_
  refine (holds_size (by omega)).bind fun column _ => .pure ?_
  simpa [Line.Spans] using spans

variable (size : GridSize columns rows) (fits : screen.Fits columns rows)
include size fits

theorem Fits.takePendingWrap : Holds (Fits columns rows) screen.takePendingWrap := by
  have hwide := size.wide
  unfold Screen.takePendingWrap
  refine .ite (fun _ => ?_) fun _ => .pure fits
  refine (fits.mutableLine fits.cursorRow fun line spans =>
    .pure (show Line.Spans columns { line with wrapped := true } from spans)).bind
    fun screen hfits => ?_
  have hhome : Fits columns rows { screen with cursorColumn := 0 } :=
    { hfits with cursorColumn := by dsimp only; omega }
  exact (hhome.lineFeed size).bind fun screen hfits => .pure { hfits with }

theorem Fits.blankAtMargin {edit : Line → Checked Line}
    (edited : ∀ line : Line, line.Spans columns → Holds (Line.Spans columns) (edit line)) :
    Holds (Fits columns rows) (screen.blankAtMargin edit) := by
  have hbounds := fits.bounds size
  refine fits.mutableLine fits.cursorRow fun line spans => ?_
  refine (edited line spans).bind fun line spans => ?_
  refine (holds_size (by omega)).bind fun first _ => ?_
  refine .int (by omega) (by omega) ?_
  refine (holds_size (by omega)).bind fun after _ => ?_
  exact .pure (spans.fillRange first after _)

theorem Fits.writeAtCursor (codePoint : Nat) {width : Int} (drawn : width = 1 ∨ width = 2) :
    Holds (Fits columns rows) (screen.writeAtCursor codePoint width) := by
  have hwide := size.wide
  refine .bind (.ite (fun _ => fits.insertCharacters size width) fun _ => .pure fits)
    fun screen fits => ?_
  have hwidth := fits.width
  refine (fits.mutableLine fits.cursorRow fun line spans => ?_).bind fun screen hfits => ?_
  · rw [hwidth]
    exact spans.writeCell fits.cursorColumn hwide.2 _ _
  have hcolumn := hfits.cursorColumn
  have hwidth := hfits.width
  refine .int (by dsimp only; omega) (by dsimp only; omega) ?_
  refine .int (by dsimp only; omega) (by dsimp only; omega) ?_
  refine .ite (fun _ => .pure { hfits with
    cursorColumn := by dsimp only; omega
    lastWrittenWidth := drawn }) fun hroom => .pure { hfits with
    cursorColumn := by dsimp only at hroom ⊢; omega
    lastWrittenWidth := drawn }

theorem Fits.putChar (codePoint : Nat) {width : Int} (drawn : width = 1 ∨ width = 2) :
    Holds (Fits columns rows) (screen.putChar codePoint width) := by
  have hwide := size.wide
  unfold Screen.putChar
  refine .ite (fun _ => fits.addCombiningMark codePoint) fun _ => ?_
  refine (fits.takePendingWrap size).bind fun screen fits => ?_
  have hwidth := fits.width
  refine .int (by omega) (by omega) ?_
  refine .ite (fun _ => .ite (fun _ => ?_) fun _ => ?_)
    fun _ => fits.writeAtCursor size codePoint drawn
  · refine (fits.blankAtMargin size fun line spans =>
      .pure (show Line.Spans columns { line with wrapped := true } from spans)).bind
      fun screen hfits => ?_
    have hhome : Fits columns rows { screen with cursorColumn := 0 } :=
      { hfits with cursorColumn := by dsimp only; omega }
    exact (hhome.lineFeed size).bind fun screen hfits => hfits.writeAtCursor size codePoint drawn
  · refine fits.blankAtMargin size fun line spans => ?_
    rw [hwidth]
    exact spans.clearWideCharAt (by omega) hwide.2

theorem Fits.repeatLast (count : Int) : Holds (Fits columns rows) (screen.repeatLast count) := by
  have hwidth := fits.width
  have hheight := fits.height
  have hwide := size.wide
  have htall := size.tall
  have harea : 0 ≤ screen.columns * screen.rows := by
    rw [hwidth, hheight]
    exact Int.mul_nonneg (by omega) (by omega)
  have hsmall : screen.columns * screen.rows ≤ 10000 * 10000 := by
    rw [hwidth, hheight]
    exact Int.mul_le_mul hwide.2 htall.2 (by omega) (by omega)
  unfold Screen.repeatLast
  refine .ite (fun _ => .pure fits) fun hsome => ?_
  refine .int (by omega) (by omega) ?_
  refine Holds.forUp (fun _ screen => Fits columns rows screen) (by omega) (by omega) fits ?_
  intro _ next _ _ hfits
  exact hfits.putChar size _ fits.lastWrittenWidth

theorem Fits.fillScreen (codePoint : Nat) :
    Holds (Fits columns rows) (screen.fillScreen codePoint) := by
  have hbounds := fits.bounds size
  refine (fits.fillRows size (by omega) _).bind fun screen hfits => ?_
  exact .pure (hfits.withCursor (by omega) (by omega))

theorem Fits.clearAll : Holds (Fits columns rows) screen.clearAll := by
  have hbounds := fits.bounds size
  have htall := size.tall
  refine (holds_size (by omega)).bind fun width hsize => ?_
  refine (holds_freshRows fits.grid htall.2 (by omega) (by omega)).bind fun lines hlines => ?_
  exact .pure { fits with
    grid := hlines
    cursorRow := by dsimp only; omega
    cursorColumn := by dsimp only; omega }

theorem Fits.reset : Holds (Fits columns rows) screen.reset := by
  have hbounds := fits.bounds size
  refine .int (by omega) (by omega) ?_
  refine (holds_defaultTabStops (by omega)).bind fun stops hstops => ?_
  refine Fits.clearAll size ?_
  exact { fits with
    tabStops := by dsimp only; omega
    region := by dsimp only; omega
    lastWrittenWidth := Or.inl rfl }

omit fits in
theorem Fits.afterResize (width : screen.columns = columns) (height : screen.rows = rows)
    (grid : Grid columns rows screen.lines)
    (cursorRow : 0 ≤ screen.cursorRow ∧ screen.cursorRow < rows)
    (cursorColumn : 0 ≤ screen.cursorColumn ∧ screen.cursorColumn < columns)
    (lastWrittenWidth : screen.lastWrittenWidth = 1 ∨ screen.lastWrittenWidth = 2)
    (sink : ∀ sink ∈ screen.sink, sink.Bounded) :
    Holds (Fits columns rows) screen.afterResize := by
  have hwide := size.wide
  have htall := size.tall
  refine .int (by omega) (by omega) ?_
  refine (holds_defaultTabStops (by omega)).bind fun stops hstops => ?_
  exact .pure
    { width, height, grid, cursorRow, cursorColumn, lastWrittenWidth, sink
      tabStops := by dsimp only; omega
      region := by dsimp only; omega }

end Screen

end Hypeterm.Term
