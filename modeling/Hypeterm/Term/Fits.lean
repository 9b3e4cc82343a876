import Hypeterm.Term.Operation
import Mathlib.Data.List.GetD

/-! Every operation keeps the grid of a screen in shape and stays inside it. -/
namespace Hypeterm.Term
open Library Checked List

/-- What the model needs of the allocator, a byte for each cell and one for the row, and of
the memory ceiling, so that the number of rows fits an `int`. -/
structure Limits.Sound (limits : Limits) : Prop where
  memory : ∀ line : Line, line.size + 1 ≤ limits.memoryBytes line
  ceiling : limits.maxBytes ≤ 2 ^ 30

/-- `bytes` is the cost of the rows, which exceeds the ceiling only for a single row. -/
structure Scrollback.Bounded (scrollback : Scrollback) : Prop where
  limits : scrollback.limits.Sound
  bytes : scrollback.bytes = (scrollback.lines.map scrollback.limits.memoryBytes).sum
  ceiling : scrollback.bytes ≤ scrollback.limits.maxBytes ∨ scrollback.lines.length ≤ 1
  cells : ∀ line ∈ scrollback.lines, line.size ≤ 10000

def Line.Spans (columns : Int) (line : Line) : Prop := (line.size : Int) = columns

structure Grid (columns rows : Int) (lines : List Line) : Prop where
  length : (lines.length : Int) = rows
  cells : ∀ line ∈ lines, line.Spans columns

structure Screen.Fits (columns rows : Int) (screen : Screen) : Prop where
  width : screen.columns = columns
  height : screen.rows = rows
  grid : Grid columns rows screen.lines
  tabStops : (screen.tabStops.length : Int) = columns
  cursorRow : 0 ≤ screen.cursorRow ∧ screen.cursorRow < rows
  cursorColumn : 0 ≤ screen.cursorColumn ∧ screen.cursorColumn < columns
  region : 0 ≤ screen.scrollTop ∧ screen.scrollTop ≤ screen.scrollBottom ∧
    screen.scrollBottom < rows
  lastWrittenWidth : screen.lastWrittenWidth = 1 ∨ screen.lastWrittenWidth = 2
  sink : ∀ sink ∈ screen.sink, sink.Bounded

namespace Scrollback

section

variable (lines : List Line) (scrollback : Scrollback)
include lines scrollback

theorem limits_trimLines : (scrollback.trimLines lines).limits = scrollback.limits := by
  induction lines generalizing scrollback with
  | nil => rfl
  | cons front rest ih =>
    unfold trimLines
    split
    · rw [ih]
    · rfl

theorem lines_trimLines : (scrollback.trimLines lines).lines <:+ lines := by
  induction lines generalizing scrollback with
  | nil => exact suffix_rfl
  | cons front rest ih =>
    unfold trimLines
    split
    · exact (ih _).trans (suffix_cons _ _)
    · exact suffix_rfl

theorem bytes_trimLines
    (counted : scrollback.bytes = (lines.map scrollback.limits.memoryBytes).sum) :
    (scrollback.trimLines lines).bytes =
      ((scrollback.trimLines lines).lines.map scrollback.limits.memoryBytes).sum := by
  induction lines generalizing scrollback with
  | nil => exact counted
  | cons front rest ih =>
    unfold trimLines
    split
    · apply ih
      simp only [counted, map_cons, sum_cons]
      omega
    · exact counted

theorem ceiling_trimLines
    (counted : scrollback.bytes = (lines.map scrollback.limits.memoryBytes).sum) :
    (scrollback.trimLines lines).bytes ≤ scrollback.limits.maxBytes ∨
      (scrollback.trimLines lines).lines.length ≤ 1 := by
  induction lines generalizing scrollback with
  | nil => exact .inr (Nat.zero_le _)
  | cons front rest ih =>
    unfold trimLines
    split
    · apply ih
      simp only [counted, map_cons, sum_cons]
      omega
    · rename_i hkept
      simp only [length_cons]
      omega

end

theorem Bounded.trim {scrollback : Scrollback} (sound : scrollback.limits.Sound)
    (counted : scrollback.bytes = (scrollback.lines.map scrollback.limits.memoryBytes).sum)
    (cells : ∀ line ∈ scrollback.lines, line.size ≤ 10000) : scrollback.trim.Bounded where
  limits := by
    unfold Scrollback.trim
    rwa [limits_trimLines]
  bytes := by
    unfold Scrollback.trim
    rw [limits_trimLines, bytes_trimLines _ _ counted]
  ceiling := by
    unfold Scrollback.trim
    rw [limits_trimLines]
    exact ceiling_trimLines _ _ counted
  cells line hline := cells line ((lines_trimLines _ _).subset hline)

theorem size_stored_le (line : Line) : (stored line).size ≤ line.size := by
  unfold stored
  split
  · rw [Line.size_resize]
    exact Line.trimmedLength_le
  · exact Nat.le_refl _

variable {scrollback : Scrollback}

section

variable (bounded : scrollback.Bounded)
include bounded

theorem Bounded.pushLine {line : Line} (short : line.size ≤ 10000) :
    (scrollback.pushLine line).Bounded := by
  refine Bounded.trim bounded.limits ?_ ?_
  · simp [bounded.bytes]
  · intro other hother
    rcases mem_append.mp hother with hold | hnew
    · exact bounded.cells other hold
    · rw [mem_singleton.mp hnew]
      exact (size_stored_le line).trans short

theorem Bounded.clearScrollback : scrollback.clearScrollback.Bounded := by
  unfold Scrollback.clearScrollback
  split
  · exact bounded
  · exact ⟨bounded.limits, rfl, .inr (Nat.zero_le _), by simp⟩

theorem Bounded.replaceAll {lines : List Line}
    (short : ∀ line ∈ lines, line.size ≤ 10000) : (scrollback.replaceAll lines).Bounded :=
  Bounded.trim bounded.limits rfl short

theorem Bounded.takeNewest (count : Nat) : (scrollback.takeNewest count).2.Bounded := by
  simp only [Scrollback.takeNewest]
  generalize hkept : scrollback.lines.length - min count scrollback.lines.length = kept
  have hsum : (scrollback.lines.map scrollback.limits.memoryBytes).sum =
      ((scrollback.lines.take kept).map scrollback.limits.memoryBytes).sum +
        ((scrollback.lines.drop kept).map scrollback.limits.memoryBytes).sum := by
    rw [← sum_append, ← map_append, take_append_drop]
  have hbytes := bounded.bytes
  refine ⟨bounded.limits, ?_, ?_, fun line hline => bounded.cells line (mem_of_mem_take hline)⟩
  · dsimp only
    omega
  · dsimp only
    rw [length_take]
    rcases bounded.ceiling with hceiling | hceiling <;> omega

end

end Scrollback

section Rows

variable {columns rows : Int} {lines : List Line} {line : Line}

theorem Grid.get (grid : Grid columns rows lines) {row : Int} (inside : 0 ≤ row ∧ row < rows) :
    Holds (Line.Spans columns) (Checked.get lines row) := by
  have hlength := grid.length
  refine ⟨by simpa [hlength] using inside, ?_⟩
  rw [value_get, getD_eq_getElem _ _ (by omega)]
  exact grid.cells _ (getElem_mem _)

theorem Grid.put (grid : Grid columns rows lines) {row : Int} (inside : 0 ≤ row ∧ row < rows)
    (spans : line.Spans columns) :
    Holds (Grid columns rows) (Checked.put lines row line) := by
  have hlength := grid.length
  refine ⟨by simpa [hlength] using inside, ?_, ?_⟩
  · simpa using hlength
  · intro other hother
    rcases mem_or_eq_of_mem_set hother with hold | rfl
    · exact grid.cells other hold
    · exact spans

theorem Line.Spans.cellAt (spans : line.Spans columns) {column : Int}
    (inside : 0 ≤ column ∧ column < columns) : Holds (fun _ => True) (line.cellAt column) := by
  unfold Line.Spans at spans
  exact ⟨by simpa [Line.cellAt, Line.size, ← spans] using inside, trivial⟩

theorem Line.Spans.setCellAt (spans : line.Spans columns) {column : Int} {cell : Cell}
    (inside : 0 ≤ column ∧ column < columns) :
    Holds (Line.Spans columns) (line.setCellAt column cell) := by
  unfold Line.Spans at *
  refine ⟨by simpa [Line.setCellAt, Line.size, ← spans] using inside, ?_⟩
  simpa [Line.setCellAt, Line.size] using spans

theorem Line.spans_new {blank : Cell} {width : Nat} (wide : (width : Int) = columns) :
    (Line.new width blank).Spans columns := by
  simpa [Line.Spans] using wide

theorem Line.Spans.clearWideCharAt (spans : line.Spans columns) {column : Int}
    (inside : 0 ≤ column ∧ column ≤ columns) (wide : columns ≤ 10000) :
    Holds (Line.Spans columns) (Screen.clearWideCharAt columns line column) := by
  unfold Screen.clearWideCharAt
  refine .ite (fun _ => .pure spans) fun hinside => ?_
  refine (spans.cellAt (by omega)).bind fun cell _ => ?_
  refine .int (by omega) (by omega) ?_
  refine .ite (fun hcontinuation => ?_) fun _ => .ite (fun hlead => ?_)
    fun _ => .pure spans
  · refine .int (by omega) (by omega) ?_
    refine (spans.cellAt (by omega)).bind fun lead _ => ?_
    refine .bind ?_ fun (line : Line) (spans : line.Spans columns) => spans.setCellAt (by omega)
    refine .ite (fun _ => ?_) fun _ => .pure spans
    refine (spans.setCellAt (by omega)).bind fun line spans => ?_
    refine (holds_size (by omega)).bind fun before _ => .pure ?_
    simpa [Line.Spans] using spans
  · refine (spans.cellAt (by omega)).bind fun tail _ => ?_
    refine .bind ?_ fun (line : Line) (spans : line.Spans columns) => ?_
    · exact .ite (fun _ => spans.setCellAt (by omega)) fun _ => .pure spans
    · refine (holds_size (by omega)).bind fun column _ => .pure ?_
      simpa [Line.Spans] using spans

theorem Line.Spans.writeCell (spans : line.Spans columns) {column width : Int}
    (inside : 0 ≤ column ∧ column < columns) (wide : columns ≤ 10000) (pen : Pen)
    (codePoint : Nat) :
    Holds (Line.Spans columns) (Screen.writeCell columns pen codePoint width column line) := by
  refine .int (by omega) (by omega) ?_
  refine (spans.clearWideCharAt (by omega) wide).bind fun line spans => ?_
  refine .bind ?_ fun (line : Line) (spans : line.Spans columns) => ?_
  · exact .ite (fun _ => spans.clearWideCharAt (by omega) wide) fun _ => .pure spans
  · refine (holds_size (by omega)).bind fun here _ => ?_
    have hcleared : (line.clearMarks here).Spans columns := by
      simpa [Line.Spans] using spans
    refine (hcleared.setCellAt inside).bind fun line spans => ?_
    refine .ite (fun hroom => ?_) fun _ => .pure spans
    refine (holds_size (by omega)).bind fun after _ => ?_
    have hcleared : (line.clearMarks after).Spans columns := by
      simpa [Line.Spans] using spans
    exact hcleared.setCellAt (by omega)

theorem Line.Spans.fillRange (spans : line.Spans columns) (first last : Nat) (blank : Cell) :
    (line.fillRange first last blank).Spans columns := by
  simpa [Line.Spans] using spans

end Rows

structure GridSize (columns rows : Int) : Prop where
  wide : 1 ≤ columns ∧ columns ≤ 10000
  tall : 1 ≤ rows ∧ rows ≤ 10000

theorem Screen.Fits.bounds {columns rows : Int} {screen : Screen} (fits : screen.Fits columns rows)
    (size : GridSize columns rows) : (screen.columns = columns ∧ screen.rows = rows) ∧
      (0 ≤ screen.cursorRow ∧ screen.cursorRow < rows) ∧
      (0 ≤ screen.cursorColumn ∧ screen.cursorColumn < columns) ∧
      (0 ≤ screen.scrollTop ∧ screen.scrollTop ≤ screen.scrollBottom ∧ screen.scrollBottom < rows) ∧
      (1 ≤ columns ∧ columns ≤ 10000) ∧ 1 ≤ rows ∧ rows ≤ 10000 :=
  ⟨⟨fits.width, fits.height⟩, fits.cursorRow, fits.cursorColumn, fits.region, size.wide, size.tall⟩

def Parameter (value : Int) : Prop := -1 ≤ value ∧ value ≤ 65535

theorem clamp_inside (value : Int) {low high : Int} (order : low ≤ high) :
    low ≤ clamp value low high ∧ clamp value low high ≤ high := by
  unfold clamp
  repeat' split
  all_goals omega

theorem clamp_of_mem {value low high : Int} (inside : low ≤ value ∧ value ≤ high) :
    clamp value low high = value := by
  unfold clamp
  omega

theorem holds_tabStopsFrom {columns : Int} (wide : columns ≤ 10000) (rounds : Nat) {column : Int}
    {stops : List Bool} (inside : 0 ≤ column ∧ column ≤ columns + 8)
    (length : (stops.length : Int) = columns) :
    Holds (fun stops => (stops.length : Int) = columns)
      (tabStopsFrom columns rounds column stops) := by
  induction rounds generalizing column stops with
  | zero => exact .pure length
  | succ rounds ih =>
    unfold tabStopsFrom
    refine .ite (fun hinside => ?_) fun _ => .pure length
    refine (holds_put (by omega)).bind ?_
    rintro _ rfl
    refine .int (by omega) (by omega) ?_
    exact ih (by omega) (by simpa using length)

theorem holds_defaultTabStops {columns : Int} (wide : 1 ≤ columns ∧ columns ≤ 10000) :
    Holds (fun stops => (stops.length : Int) = columns) (defaultTabStops columns) := by
  have hcolumns : 0 ≤ columns := by omega
  refine (holds_size hcolumns).bind fun count hcount => ?_
  exact holds_tabStopsFrom wide.2 _ (by omega) (by simpa using hcount)

namespace Screen

section Stops

variable {stops : List Bool} (last : Int) (wide : last < stops.length) (small : last < 10000)
include wide small

theorem holds_nextTabStop (rounds : Nat) {column : Int} (inside : 0 ≤ column ∧ column ≤ last) :
    Holds (fun next => column ≤ next ∧ next ≤ last) (nextTabStop stops last rounds column) := by
  induction rounds generalizing column with
  | zero => exact .pure ⟨Int.le_refl _, inside.2⟩
  | succ rounds ih =>
    unfold nextTabStop
    refine .ite (fun hbefore => ?_) fun _ => .pure ⟨Int.le_refl _, inside.2⟩
    refine (holds_get (by omega)).bind fun stop _ => ?_
    refine .ite (fun _ => .pure ⟨Int.le_refl _, inside.2⟩) fun _ => ?_
    refine .int (by omega) (by omega) ?_
    exact (ih (by omega)).mono fun next hnext => ⟨by omega, hnext.2⟩

theorem holds_tabFrom (rounds : Nat) {column : Int} (inside : 0 ≤ column ∧ column ≤ last) :
    Holds (fun next => column ≤ next ∧ next ≤ last) (tabFrom stops last rounds column) := by
  induction rounds generalizing column with
  | zero => exact .pure ⟨Int.le_refl _, inside.2⟩
  | succ rounds ih =>
    unfold tabFrom
    refine .ite (fun hbefore => ?_) fun _ => .pure ⟨Int.le_refl _, inside.2⟩
    refine .int (by omega) (by omega) ?_
    refine (holds_nextTabStop last wide small _ (by omega)).bind fun stop hstop => ?_
    exact (ih (by omega)).mono fun next hnext => ⟨by omega, hnext.2⟩

theorem holds_previousTabStop (rounds : Nat) {column : Int} (inside : 0 ≤ column ∧ column ≤ last) :
    Holds (fun next => 0 ≤ next ∧ next ≤ column) (previousTabStop stops rounds column) := by
  induction rounds generalizing column with
  | zero => exact .pure ⟨inside.1, Int.le_refl _⟩
  | succ rounds ih =>
    unfold previousTabStop
    refine .ite (fun hafter => ?_) fun _ => .pure ⟨inside.1, Int.le_refl _⟩
    refine (holds_get (by omega)).bind fun stop _ => ?_
    refine .ite (fun _ => .pure ⟨inside.1, Int.le_refl _⟩) fun _ => ?_
    refine .int (by omega) (by omega) ?_
    exact (ih (by omega)).mono fun next hnext => ⟨hnext.1, by omega⟩

theorem holds_backTabFrom (rounds : Nat) {column : Int} (inside : 0 ≤ column ∧ column ≤ last) :
    Holds (fun next => 0 ≤ next ∧ next ≤ column) (backTabFrom stops rounds column) := by
  induction rounds generalizing column with
  | zero => exact .pure ⟨inside.1, Int.le_refl _⟩
  | succ rounds ih =>
    unfold backTabFrom
    refine .ite (fun hafter => ?_) fun _ => .pure ⟨inside.1, Int.le_refl _⟩
    refine .int (by omega) (by omega) ?_
    refine (holds_previousTabStop last wide small _ (by omega)).bind fun stop hstop => ?_
    exact (ih (by omega)).mono fun next hnext => ⟨hnext.1, by omega⟩

end Stops

variable {columns rows : Int} {screen : Screen}

section

variable (fits : screen.Fits columns rows)
include fits

theorem Fits.withCursor {row column : Int} {wrap : Bool}
    (inRow : 0 ≤ row ∧ row < rows) (inColumn : 0 ≤ column ∧ column < columns) :
    Fits columns rows
      { screen with cursorRow := row, cursorColumn := column, pendingWrap := wrap } :=
  { fits with cursorRow := inRow, cursorColumn := inColumn }

theorem Fits.mutableLine {row : Int} (inside : 0 ≤ row ∧ row < rows) {edit : Line → Checked Line}
    (edited : ∀ line : Line, line.Spans columns →
      Holds (Line.Spans columns) (edit line)) :
    Holds (Fits columns rows) (screen.mutableLine row edit) := by
  refine (fits.grid.get inside).bind fun line hline => ?_
  refine (edited line hline).bind fun line hline => ?_
  refine (fits.grid.put inside hline).bind fun lines hlines => ?_
  exact .pure { fits with grid := hlines }

theorem Fits.mutableLines (size : GridSize columns rows)
    {first count : Int} (inside : 0 ≤ first ∧ first + count ≤ rows ∧ first ≤ rows)
    {edit : Line → Checked Line}
    (edited : ∀ line : Line, line.Spans columns →
      Holds (Line.Spans columns) (edit line)) :
    Holds (Fits columns rows)
      (forUp (fun row screen => screen.mutableLine row edit) count.toNat first screen) := by
  have htall := size.tall
  refine Holds.forUp (fun _ screen => Fits columns rows screen) (by omega) (by omega) fits ?_
  intro row screen hlow hhigh hfits
  exact hfits.mutableLine (by omega) edited

theorem Fits.setTabStop : Holds (Fits columns rows) screen.setTabStop := by
  have hstops := fits.tabStops
  have hwidth := fits.width
  unfold Screen.setTabStop
  refine .ite (fun hinside => ?_) fun _ => .pure fits
  refine (holds_put (by omega)).bind ?_
  rintro _ rfl
  exact .pure { fits with tabStops := by simpa using hstops }

theorem Fits.clearTabStop (mode : Int) : Holds (Fits columns rows) (screen.clearTabStop mode) := by
  have hstops := fits.tabStops
  have hwidth := fits.width
  unfold Screen.clearTabStop
  refine .ite (fun _ => .pure { fits with tabStops := by simpa using hstops }) fun _ => ?_
  refine .ite (fun hinside => ?_) fun _ => .pure fits
  refine (holds_put (by omega)).bind ?_
  rintro _ rfl
  exact .pure { fits with tabStops := by simpa using hstops }

end

variable (size : GridSize columns rows) (fits : screen.Fits columns rows)
include size fits

theorem Fits.topLimit : 0 ≤ screen.topLimit ∧ screen.topLimit < rows := by
  have hbounds := fits.bounds size
  unfold Screen.topLimit
  split <;> omega

theorem Fits.bottomLimit :
    Holds (fun bottom => screen.topLimit ≤ bottom ∧ bottom < rows) screen.bottomLimit := by
  have hregion := fits.region
  have hbounds := fits.bounds size
  unfold Screen.bottomLimit Screen.topLimit
  split
  · exact .pure ⟨hregion.2.1, hregion.2.2⟩
  · refine (holds_int (by omega) (by omega)).mono ?_
    rintro _ rfl
    omega

theorem Fits.carriageReturn : Fits columns rows screen.carriageReturn :=
  fits.withCursor fits.cursorRow ⟨Int.le_refl _, by have := size.wide; omega⟩

theorem Fits.backspace : Holds (Fits columns rows) screen.backspace := by
  have hbounds := fits.bounds size
  unfold Screen.backspace
  refine .ite (fun _ => .pure { fits with }) fun _ => ?_
  refine .ite (fun _ => ?_) fun _ => .pure fits
  refine .int (by omega) (by omega) ?_
  exact .pure (fits.withCursor fits.cursorRow (by omega))

theorem Fits.tab (count : Int) : Holds (Fits columns rows) (screen.tab count) := by
  have hbounds := fits.bounds size
  have hstops := fits.tabStops
  refine .int (by omega) (by omega) ?_
  refine (holds_tabFrom _ (by omega) (by omega) _ (by omega)).bind fun column hinside => ?_
  exact .pure (fits.withCursor fits.cursorRow (by omega))

theorem Fits.backTab (count : Int) : Holds (Fits columns rows) (screen.backTab count) := by
  have hbounds := fits.bounds size
  have hstops := fits.tabStops
  refine (holds_backTabFrom (columns - 1) (by omega) (by omega) _ (by omega)).bind
    fun column hinside => ?_
  exact .pure (fits.withCursor fits.cursorRow (by omega))

theorem Fits.cursorUp {count : Int} (bounded : Parameter count) (reset : Bool) :
    Holds (Fits columns rows) (screen.cursorUp count reset) := by
  have hbounds := fits.bounds size
  unfold Parameter at bounded
  refine .int (by split <;> omega) (by split <;> omega) ?_
  refine .pure (fits.withCursor ?_ ?_)
  · split <;> split <;> omega
  · split <;> omega

theorem Fits.cursorDown {count : Int} (bounded : Parameter count) (reset : Bool) :
    Holds (Fits columns rows) (screen.cursorDown count reset) := by
  have hbounds := fits.bounds size
  unfold Parameter at bounded
  refine .int (by omega) (by omega) ?_
  refine .int (by split <;> omega) (by split <;> omega) ?_
  refine .pure (fits.withCursor ?_ ?_)
  · split <;> split <;> omega
  · split <;> omega

theorem Fits.cursorForward {count : Int} (bounded : Parameter count) :
    Holds (Fits columns rows) (screen.cursorForward count) := by
  have hbounds := fits.bounds size
  unfold Parameter at bounded
  refine .int (by omega) (by omega) ?_
  refine .int (by split <;> omega) (by split <;> omega) ?_
  refine .pure (fits.withCursor fits.cursorRow ?_)
  split <;> omega

theorem Fits.cursorBackward {count : Int} (bounded : Parameter count) :
    Holds (Fits columns rows) (screen.cursorBackward count) := by
  have hbounds := fits.bounds size
  unfold Parameter at bounded
  refine .int (by split <;> omega) (by split <;> omega) ?_
  refine .pure (fits.withCursor fits.cursorRow ?_)
  split <;> omega

theorem Fits.cursorToColumn (column : Int) :
    Holds (Fits columns rows) (screen.cursorToColumn column) := by
  have hbounds := fits.bounds size
  refine .int (by omega) (by omega) ?_
  have hinside := clamp_inside column (show 0 ≤ screen.columns - 1 by omega)
  exact .pure (fits.withCursor fits.cursorRow (by omega))

theorem Fits.cursorToRow {row : Int} (bounded : Parameter row) :
    Holds (Fits columns rows) (screen.cursorToRow row) := by
  have htop := fits.topLimit size
  have htall := size.tall
  unfold Parameter at bounded
  refine .int (by omega) (by omega) ?_
  refine (fits.bottomLimit size).bind fun bottom hbottom => ?_
  have hinside := clamp_inside (row + screen.topLimit) hbottom.1
  exact .pure (fits.withCursor (by omega) fits.cursorColumn)

theorem Fits.cursorToPosition {row : Int} (bounded : Parameter row) (column : Int) :
    Holds (Fits columns rows) (screen.cursorToPosition row column) := by
  have htop := fits.topLimit size
  have hbounds := fits.bounds size
  unfold Parameter at bounded
  refine .int (by omega) (by omega) ?_
  refine (fits.bottomLimit size).bind fun bottom hbottom => ?_
  refine .int (by omega) (by omega) ?_
  have hrow := clamp_inside (row + screen.topLimit) hbottom.1
  have hcolumn := clamp_inside column (show 0 ≤ screen.columns - 1 by omega)
  exact .pure (fits.withCursor (by omega) (by omega))

theorem Fits.home : Fits columns rows
    { screen with cursorRow := screen.topLimit, cursorColumn := 0, pendingWrap := false } :=
  fits.withCursor (fits.topLimit size) ⟨Int.le_refl _, by have := size.wide; omega⟩

theorem Fits.setOriginMode (value : Bool) : Fits columns rows (screen.setOriginMode value) :=
  have hfits : Fits columns rows { screen with originMode := value } := { fits with }
  hfits.home size

theorem Fits.setScrollRegion (top bottom : Int) :
    Holds (Fits columns rows) (screen.setScrollRegion top bottom) := by
  have hbounds := fits.bounds size
  refine .int (by omega) (by omega) ?_
  refine .pure (Fits.home size ?_)
  repeat' split
  all_goals exact { fits with region := by dsimp only; omega }

theorem Fits.restoreCursor : Holds (Fits columns rows) screen.restoreCursor := by
  have hbounds := fits.bounds size
  unfold Screen.restoreCursor
  split
  · refine .int (by omega) (by omega) ?_
    refine .int (by omega) (by omega) ?_
    have hrow := clamp_inside screen.saved.row (show 0 ≤ screen.rows - 1 by omega)
    have hcolumn := clamp_inside screen.saved.column (show 0 ≤ screen.columns - 1 by omega)
    refine .pure { fits with cursorRow := ?_, cursorColumn := ?_ }
    · dsimp only
      omega
    · dsimp only
      omega
  · exact .pure (fits.withCursor (by omega) (by omega))

end Screen

end Hypeterm.Term
