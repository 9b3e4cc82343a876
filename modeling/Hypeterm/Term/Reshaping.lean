import Hypeterm.Term.Editing
import Hypeterm.Term.Resize
import Mathlib.Algebra.Order.BigOperators.Group.List
import Mathlib.Algebra.Order.Group.Nat

/-! A resize gives both screens a grid of the new dimensions.  The number of rows it makes on
the way fits an `int` because the scrollback is bounded. -/
namespace Hypeterm.Term
open Library Checked List

namespace Screen

variable {columns rows : Int} {screen : Screen}

theorem holds_new (size : GridSize columns rows) {sink : Option Scrollback}
    (bounded : ∀ sink' ∈ sink, sink'.Bounded) : Holds (Fits columns rows) (new columns rows sink) := by
  have hwide := size.wide
  have htall := size.tall
  unfold new
  rw [if_neg (by omega : ¬columns < 1), if_neg (by omega : ¬rows < 1)]
  refine (holds_size (by omega)).bind fun width hwidth => ?_
  refine (holds_size (by omega)).bind fun height hheight => ?_
  refine .int (by omega) (by omega) ?_
  refine (holds_defaultTabStops (by omega)).bind fun stops hstops => .pure ?_
  refine ⟨rfl, rfl, ⟨by simpa using hheight, ?_⟩, hstops, ?_, ?_, ?_, .inl rfl, bounded⟩
  · intro line hline
    rw [eq_of_mem_replicate hline]
    exact Line.spans_new hwidth
  all_goals dsimp only
  all_goals omega

structure Between (columns height : Int) (screen : Screen) : Prop where
  width : screen.columns = columns
  grid : Grid columns height screen.lines
  cursorRow : 0 ≤ screen.cursorRow ∧ screen.cursorRow < 10000
  lastWrittenWidth : screen.lastWrittenWidth = 1 ∨ screen.lastWrittenWidth = 2
  sink : ∀ sink ∈ screen.sink, sink.Bounded

theorem Fits.between (size : GridSize columns rows) (fits : screen.Fits columns rows) :
    screen.Between columns rows where
  width := fits.width
  grid := fits.grid
  cursorRow := ⟨fits.cursorRow.1, by have := fits.cursorRow; have := size.tall; omega⟩
  lastWrittenWidth := fits.lastWrittenWidth
  sink := fits.sink

theorem Between.finish (size : GridSize columns rows) (between : screen.Between columns rows) :
    Holds (Fits columns rows) (do
      let screen ← clampCursor { screen with rows }
      screen.afterResize) := by
  have hwide := size.wide
  have htall := size.tall
  have hwidth := between.width
  refine .bind (.bind (holds_int (by dsimp only; omega) (by dsimp only; omega)) ?_)
    fun next
    (hnext : next = { screen with
      rows
      cursorRow := clamp screen.cursorRow 0 (rows - 1)
      cursorColumn := clamp screen.cursorColumn 0 (columns - 1) }) => ?_
  · rintro _ rfl
    refine .int (by dsimp only; omega) (by dsimp only; omega) ?_
    refine .pure ?_
    rw [← hwidth]
  · subst hnext
    have hrow := clamp_inside screen.cursorRow (show 0 ≤ rows - 1 by omega)
    have hcolumn := clamp_inside screen.cursorColumn (show 0 ≤ columns - 1 by omega)
    exact Fits.afterResize size hwidth rfl between.grid (by dsimp only; omega)
      (by dsimp only; omega) between.lastWrittenWidth between.sink

theorem holds_removableBelow {lines : List Line} {cursorRow : Int} (natural : 0 ≤ cursorRow)
    (excess : Nat) {row : Int} (inside : row < lines.length) (small : row ≤ 10000) :
    Holds (fun removable : Nat => removable ≤ excess ∧ (removable : Int) ≤ max 0 (row - cursorRow))
      (removableBelow lines cursorRow excess row) := by
  induction excess generalizing row with
  | zero => exact .pure ⟨Nat.le_refl _, by omega⟩
  | succ excess ih =>
    unfold removableBelow
    refine .ite (fun hbelow => ?_) fun _ => .pure ⟨Nat.zero_le _, by omega⟩
    refine (holds_get (by omega)).bind fun line _ => ?_
    refine .ite (fun _ => .pure ⟨Nat.zero_le _, by omega⟩) fun _ => ?_
    refine .int (by omega) (by omega) ?_
    exact (ih (by omega) (by omega)).bind fun more hmore => .pure (by omega)

theorem holds_dropTop (size : GridSize columns rows) (count : Nat)
    (between : screen.Between columns (rows + count)) :
    Holds (Between columns rows) (dropTop count screen) := by
  have hwide := size.wide
  have htall := size.tall
  induction count generalizing screen with
  | zero => exact .pure (by simpa using between)
  | succ count ih =>
    have hrow := between.cursorRow
    have hlength := between.grid.length
    unfold dropTop
    refine (between.grid.get (by omega)).bind fun front hfront => ?_
    refine .bind (holds_int (show -2147483648 ≤ screen.cursorRow - 1 by omega)
      (show screen.cursorRow - 1 ≤ 2147483647 by omega)) ?_
    rintro _ rfl
    apply ih
    have hpushed : Between columns (rows + count)
        { screen.pushLine front with lines := screen.lines.drop 1 } := by
      refine ⟨between.width, ⟨?_, ?_⟩, hrow, between.lastWrittenWidth, ?_⟩
      · rw [length_drop]
        omega
      · exact fun line hline => between.grid.cells line (mem_of_mem_drop hline)
      · intro sink hsink
        obtain ⟨old, hold, rfl⟩ := Option.map_eq_some_iff.mp hsink
        refine (between.sink old hold).pushLine ?_
        unfold Line.Spans at hfront
        omega
    split
    · rename_i hbelow
      have hbelow : 0 < screen.cursorRow := hbelow
      exact { hpushed with
        cursorRow := show 0 ≤ screen.cursorRow - 1 ∧ screen.cursorRow - 1 < 10000 by omega }
    · exact hpushed

theorem Between.shrinkRows {old : Int} (size : GridSize columns rows)
    (between : screen.Between columns old) (height : screen.rows = old) (tall : old ≤ 10000)
    (inside : screen.cursorRow < old) (fewer : rows < old) :
    Holds (Between columns rows) (screen.shrinkRows rows) := by
  have htall := size.tall
  have hrow := between.cursorRow
  have hlength := between.grid.length
  refine .int (by omega) (by omega) ?_
  refine .int (by omega) (by omega) ?_
  refine (holds_removableBelow hrow.1 _ (by omega) (by omega)).bind fun removable hremovable => ?_
  refine .int (by omega) (by omega) ?_
  refine holds_dropTop size _ ⟨between.width, ⟨?_, ?_⟩, hrow, between.lastWrittenWidth, between.sink⟩
  · rw [length_take]
    omega
  · exact fun line hline => between.grid.cells line (mem_of_mem_take hline)

theorem Between.growRows {old : Int} (size : GridSize columns rows)
    (between : screen.Between columns old) (height : screen.rows = old) (positive : 1 ≤ old)
    (more : old < rows) : Holds (Between columns rows) (screen.growRows rows) := by
  have hwide := size.wide
  have htall := size.tall
  have hwidth := between.width
  have hlength := between.grid.length
  refine (holds_size (by omega)).bind fun width hsize => ?_
  refine .int (by omega) (by omega) ?_
  refine .pure ⟨hwidth, ⟨?_, ?_⟩, between.cursorRow, between.lastWrittenWidth, between.sink⟩
  · simp only [length_append, length_replicate]
    omega
  · intro line hline
    rcases mem_append.mp hline with hold | hnew
    · exact between.grid.cells line hold
    · rw [eq_of_mem_replicate hnew]
      exact Line.spans_new (by omega)

theorem Fits.resize {oldColumns oldRows : Int} (old : GridSize oldColumns oldRows)
    (fits : screen.Fits oldColumns oldRows) (size : GridSize columns rows) :
    Holds (Fits columns rows) (screen.resize columns rows) := by
  have hwide := size.wide
  have htall := size.tall
  have hrow := fits.cursorRow
  have hheight := fits.height
  have hwidth := fits.width
  have hold := old.tall
  unfold Screen.resize
  rw [if_neg (by omega : ¬columns < 1), if_neg (by omega : ¬rows < 1)]
  refine .ite (fun hsame => .pure ?_) fun _ => ?_
  · obtain ⟨rfl, rfl⟩ := hsame
    rw [hwidth, hheight]
    exact fits
  refine (holds_size (by omega)).bind fun width hsize => ?_
  generalize hresized : (if columns ≠ screen.columns then
    ({ screen with
      lines := screen.lines.map fun line => line.resize width (blankCell {})
      columns } : Screen) else screen) = resized
  have hbetween : resized.Between columns oldRows ∧ resized.rows = oldRows ∧
      resized.cursorRow < oldRows := by
    subst hresized
    split
    · refine ⟨⟨rfl, ⟨by simpa using fits.grid.length, ?_⟩, ?_, fits.lastWrittenWidth, fits.sink⟩,
        hheight, hrow.2⟩
      · intro line hline
        obtain ⟨source, -, rfl⟩ := mem_map.mp hline
        simpa [Line.Spans] using hsize
      · dsimp only
        omega
    · rename_i hsame
      have hcolumns : columns = oldColumns := by omega
      exact ⟨hcolumns ▸ fits.between old, hheight, hrow.2⟩
  obtain ⟨hbetween, hresizedRows, hresizedRow⟩ := hbetween
  refine .bind (.ite (fun hfewer => ?_) fun _ => .ite (fun hmore => ?_) fun _ =>
    .pure ?_) fun (screen : Screen) (between : screen.Between columns rows) =>
      between.finish size
  · exact hbetween.shrinkRows size hresizedRows hold.2 hresizedRow (by omega)
  · exact hbetween.growRows size hresizedRows hold.1 (by omega)
  · have hsame : oldRows = rows := by omega
    exact hsame ▸ hbetween

theorem Fits.replaceLines (size : GridSize columns rows) (width : screen.columns = columns)
    (tabStops : (screen.tabStops.length : Int) = columns)
    (lastWrittenWidth : screen.lastWrittenWidth = 1 ∨ screen.lastWrittenWidth = 2)
    (sink : ∀ sink ∈ screen.sink, sink.Bounded) {lines : List Line} (grid : Grid columns rows lines)
    (cursorRow cursorColumn : Int) :
    Holds (Fits columns rows) (screen.replaceLines lines cursorRow cursorColumn) := by
  have hwide := size.wide
  have htall := size.tall
  have hlength := grid.length
  refine (holds_size (by omega)).bind fun width' _ => ?_
  rw [if_neg (by omega : ¬lines.length < 1)]
  refine .int (by omega) (by omega) ?_
  refine .bind (.bind (holds_int (by dsimp only; omega) (by dsimp only; omega)) ?_)
    fun next (hnext : next = { screen with
      lines
      rows
      cursorRow := clamp cursorRow 0 (rows - 1)
      cursorColumn := clamp cursorColumn 0 (columns - 1) }) => ?_
  · rintro _ rfl
    refine .int (by dsimp only; omega) (by dsimp only; omega) ?_
    refine .pure ?_
    rw [← width, hlength]
  · subst hnext
    have hrow := clamp_inside cursorRow (show 0 ≤ rows - 1 by omega)
    have hcolumn := clamp_inside cursorColumn (show 0 ≤ columns - 1 by omega)
    refine .int (by dsimp only; omega) (by dsimp only; omega) ?_
    refine .pure ⟨width, rfl, grid, tabStops, ?_, ?_, ?_, lastWrittenWidth, sink⟩
    all_goals dsimp only
    all_goals omega

theorem holds_setGeometry_replaceLines (size : GridSize columns rows)
    (lastWrittenWidth : screen.lastWrittenWidth = 1 ∨ screen.lastWrittenWidth = 2)
    (sink : ∀ sink ∈ screen.sink, sink.Bounded) {lines : List Line} (grid : Grid columns rows lines)
    (cursorRow : Int) (cursorColumn : Screen → Int) :
    Holds (Fits columns rows) (do
      let screen ← screen.setGeometry columns rows
      screen.replaceLines lines cursorRow (cursorColumn screen)) := by
  have hwide := size.wide
  have htall := size.tall
  unfold setGeometry
  rw [if_neg (by omega : ¬columns < 1), if_neg (by omega : ¬rows < 1)]
  refine .bind (.bind (holds_int (by dsimp only; omega) (by dsimp only; omega)) ?_)
    fun (next : Screen) (hnext : next.columns = columns ∧ (next.tabStops.length : Int) = columns ∧
      (next.lastWrittenWidth = 1 ∨ next.lastWrittenWidth = 2) ∧
      ∀ sink ∈ next.sink, sink.Bounded) => ?_
  · rintro _ rfl
    refine (holds_defaultTabStops (by dsimp only; omega)).bind fun stops hstops => ?_
    exact .pure ⟨rfl, hstops, lastWrittenWidth, sink⟩
  · exact Fits.replaceLines size hnext.1 hnext.2.1 hnext.2.2.1 hnext.2.2.2 grid _ _

theorem Fits.restoreRows {old : Int} (size : GridSize columns rows)
    (fits : screen.Fits columns old) {sink : Scrollback} (bounded : sink.Bounded)
    (positive : 1 ≤ old) (more : old < rows) :
    Holds (Fits columns rows) (screen.restoreRows sink columns rows) := by
  have hwide := size.wide
  have htall := size.tall
  have hrow := fits.cursorRow
  have hheight := fits.height
  have hlength := fits.grid.length
  have hsink := bounded.takeNewest
  refine .int (by omega) (by omega) ?_
  refine (holds_size (by omega)).bind fun count hcount => ?_
  generalize htaken : sink.takeNewest count = taken
  obtain ⟨restored, rest⟩ := taken
  have hrest : rest.Bounded := by
    have := hsink count
    rwa [htaken] at this
  have hrestored : restored.length ≤ count := by
    have hfst : restored = (sink.takeNewest count).1 := by rw [htaken]
    rw [hfst]
    simp only [Scrollback.takeNewest, length_drop]
    omega
  have hfits : Fits columns old { screen with sink := some rest } := by
    refine { fits with sink := ?_ }
    rintro _ ⟨⟩
    exact hrest
  dsimp only
  refine .ite (fun _ => hfits.resize ⟨hwide, by omega⟩ size) fun _ => ?_
  refine (holds_size (by omega)).bind fun width hwidth => ?_
  refine (holds_size (by omega)).bind fun height hheight => ?_
  refine .int (by omega) (by omega) ?_
  refine holds_setGeometry_replaceLines size hfits.lastWrittenWidth hfits.sink ⟨?_, ?_⟩ _
    Screen.cursorColumn
  · simp only [length_append, length_map, length_replicate]
    omega
  · intro line hline
    rcases mem_append.mp hline with hkept | hfresh
    · rcases mem_append.mp hkept with htaken | hold
      · obtain ⟨source, -, rfl⟩ := mem_map.mp htaken
        simpa [Line.Spans] using hwidth
      · exact fits.grid.cells line hold
    · rw [eq_of_mem_replicate hfresh]
      exact Line.spans_new hwidth

end Screen

def rowBound (logical : List LogicalLine) : Nat :=
  (logical.map fun line => line.cells.length + 1).sum

theorem rowBound_append (first second : List LogicalLine) :
    rowBound (first ++ second) = rowBound first + rowBound second := by
  simp [rowBound]

namespace Flattening

def Continuable (flattening : Flattening) : Prop :=
  flattening.continues = true → flattening.logical ≠ []

theorem continuable_appendLine (flattening : Flattening) (line : Line) (used : Nat) :
    (flattening.appendLine line used).Continuable := by
  simp [Continuable, appendLine]

theorem rowBound_appendLine {flattening : Flattening} (continuable : flattening.Continuable)
    (line : Line) (used : Nat) :
    rowBound (flattening.appendLine line used).logical ≤
      rowBound flattening.logical + (line.size + 1) := by
  have htaken : (line.cells.take used).length ≤ line.size := by
    rw [length_take]
    exact Nat.min_le_right _ _
  simp only [appendLine, rowBound_append]
  split
  · rename_i hcontinues
    obtain ⟨before, last, hsplit⟩ :=
      (eq_nil_or_concat _).resolve_left (continuable hcontinues)
    rw [hsplit, concat_eq_append, rowBound_append]
    simp only [dropLast_concat, getLastD_concat, rowBound, map_cons, map_nil,
      sum_cons, sum_nil, length_append]
    omega
  · simp only [rowBound, map_cons, map_nil, sum_cons, sum_nil, nil_append]
    omega

theorem rowBound_complete (flattening : Flattening) :
    rowBound flattening.complete.logical ≤ rowBound flattening.logical + 1 := by
  have hlogical : flattening.complete.logical =
      if flattening.logical = [] then [{}] else flattening.logical := by
    unfold complete
    dsimp only
    split <;> rfl
  rw [hlogical]
  split
  · have hone : rowBound [({} : LogicalLine)] = 1 := rfl
    omega
  · omega

theorem holds_appendRow {flattening : Flattening} (continuable : flattening.Continuable)
    (line : Line) {row cursorRow cursorColumn : Int} (natural : 0 ≤ cursorColumn) :
    Holds (fun next : Flattening => next.Continuable ∧
        rowBound next.logical ≤ rowBound flattening.logical + (line.size + 1))
      (flattening.appendRow line row cursorRow cursorColumn) := by
  unfold appendRow
  refine .ite (fun _ => ?_) fun _ => .pure
    ⟨continuable_appendLine _ _ _, rowBound_appendLine continuable _ _⟩
  refine (holds_size natural).bind fun column _ => .pure ⟨?_, ?_⟩
  · exact continuable_appendLine flattening line (max line.usedLength column)
  · exact rowBound_appendLine continuable _ _

theorem foldl_appendLine (lines : List Line) {flattening : Flattening}
    (continuable : flattening.Continuable) :
    (lines.foldl (fun flattening line => flattening.appendLine line line.usedLength)
        flattening).Continuable ∧
      rowBound (lines.foldl (fun flattening line => flattening.appendLine line line.usedLength)
          flattening).logical ≤
        rowBound flattening.logical + (lines.map fun line => line.size + 1).sum := by
  induction lines generalizing flattening with
  | nil => exact ⟨continuable, by simp⟩
  | cons line rest ih =>
    obtain ⟨hcontinuable, hbound⟩ := ih (continuable_appendLine flattening line line.usedLength)
    have hstep := rowBound_appendLine continuable line line.usedLength
    refine ⟨hcontinuable, ?_⟩
    simp only [foldl_cons, map_cons, sum_cons]
    omega

end Flattening

theorem Scrollback.Bounded.cells_le {scrollback : Scrollback} (bounded : scrollback.Bounded) :
    (scrollback.lines.map fun line => line.size + 1).sum ≤ 2 ^ 30 := by
  rcases bounded.ceiling with hceiling | hshort
  · have hmemory : (scrollback.lines.map fun line => line.size + 1).sum ≤
        (scrollback.lines.map scrollback.limits.memoryBytes).sum :=
      sum_le_sum fun line _ => bounded.limits.memory line
    have hbytes := bounded.bytes
    have hlimit := bounded.limits.ceiling
    omega
  · have hcells := bounded.cells
    match hlines : scrollback.lines with
    | [] => simp
    | [line] =>
      have hline := hcells line (by simp [hlines])
      simp only [map_cons, map_nil, sum_cons, sum_nil]
      omega
    | _ :: _ :: _ =>
      rw [hlines] at hshort
      simp at hshort

theorem holds_lastMeaningful {lines : List Line} {cursorRow : Int} (natural : 0 ≤ cursorRow)
    (rounds : Nat) {row : Int} (inside : row < lines.length) (small : row ≤ 10000)
    (cursor : cursorRow < lines.length) :
    Holds (fun last : Int => 0 ≤ last ∧ last < lines.length)
      (lastMeaningful lines cursorRow rounds row) := by
  induction rounds generalizing row with
  | zero => exact .pure ⟨natural, cursor⟩
  | succ rounds ih =>
    unfold lastMeaningful
    refine .ite (fun hbelow => ?_) fun _ => .pure ⟨natural, cursor⟩
    refine (holds_get (by omega)).bind fun line _ => ?_
    refine .ite (fun _ => .pure ⟨by omega, inside⟩) fun _ => ?_
    refine .int (by omega) (by omega) ?_
    exact ih (by omega) (by omega)

section

variable {columns rows : Int} {screen : Screen}

theorem holds_flatten (size : GridSize columns rows) (fits : screen.Fits columns rows)
    (scrollback : List Line) :
    Holds (fun flattening : Flattening => rowBound flattening.logical ≤
        (scrollback.map fun line => line.size + 1).sum + 10000 * 10001 + 1)
      (flatten scrollback screen) := by
  generalize hcells : (scrollback.map fun line => line.size + 1).sum = cells
  have hbounds := fits.bounds size
  have hlength := fits.grid.length
  have hrow := fits.cursorRow
  have hcolumn := fits.cursorColumn
  obtain ⟨hcontinuable, hsaved⟩ := Flattening.foldl_appendLine scrollback
    (show ({} : Flattening).Continuable by simp [Flattening.Continuable])
  have hnone : rowBound ({} : Flattening).logical = 0 := rfl
  rw [hcells, hnone] at hsaved
  refine .int (by omega) (by omega) ?_
  refine (holds_lastMeaningful hrow.1 _ (by omega) (by omega) (by omega)).bind
    fun last hlast => ?_
  refine .int (by omega) (by omega) ?_
  refine .bind (Holds.forUp (fun row (flattening : Flattening) => flattening.Continuable ∧
      (rowBound flattening.logical : Int) ≤ cells + 10001 * row)
    (by omega) (by omega) ⟨hcontinuable, by omega⟩ ?_) fun flattening hflattening => .pure ?_
  · intro row flattening hlow hhigh hinv
    refine (fits.grid.get (by omega)).bind fun line hline => ?_
    refine (Flattening.holds_appendRow hinv.1 line hcolumn.1).mono fun next hnext =>
      ⟨hnext.1, ?_⟩
    unfold Line.Spans at hline
    have hinv := hinv.2
    have hnext := hnext.2
    omega
  · have hbound := hflattening.2
    have hcomplete := flattening.rowBound_complete
    omega

end

theorem LogicalLine.size_chunk (source : LogicalLine) (width position : Nat) :
    (source.chunk width position).size = width := by
  have hmarks : ∀ (marks : List Nat) (column : Nat) (line : Line),
      (marks.foldl (fun line mark => line.addMark column mark) line).size = line.size := by
    intro marks column line
    induction marks generalizing line with
    | nil => rfl
    | cons mark rest ih => rw [foldl_cons, ih, Line.size_addMark]
  have hentries : ∀ (entries : Marks) (line : Line),
      (entries.foldl (fun (line : Line) entry =>
        if position ≤ entry.1 ∧
            entry.1 < position + min width (source.cells.length - position) then
          entry.2.foldl (fun (line : Line) mark => line.addMark (entry.1 - position) mark) line
        else line) line).size = line.size := by
    intro entries line
    induction entries generalizing line with
    | nil => rfl
    | cons entry rest ih =>
      rw [foldl_cons, ih]
      split
      · exact hmarks _ _ _
      · rfl
  refine (hentries source.marks _).trans ?_
  simp only [Line.size, length_append, length_take, length_drop, length_replicate]
  omega

theorem LogicalLine.wrapped_chunk (source : LogicalLine) (width position : Nat) :
    (source.chunk width position).wrapped =
      decide (position + min width (source.cells.length - position) < source.cells.length) := rfl

structure Rewrapping.Shaped (width bound : Nat) (rewrapping : Rewrapping) : Prop where
  sizes : ∀ line ∈ rewrapping.lines, line.size = width
  length : rewrapping.lines.length ≤ bound
  cursorRow : 0 ≤ rewrapping.cursorRow ∧ rewrapping.cursorRow ≤ bound

section

variable {width bound : Nat} {rewrapping : Rewrapping}

theorem Rewrapping.Shaped.place (shaped : rewrapping.Shaped width bound) (wide : width ≤ 10000)
    (small : bound ≤ 2147483647) (cursor : Option Nat) (position : Nat) (more : Bool) :
    Holds (Rewrapping.Shaped width bound) (rewrapping.place cursor width position more) := by
  unfold Rewrapping.place
  split
  · exact .pure shaped
  refine .ite (fun _ => ?_) fun _ => .pure shaped
  have hlength := shaped.length
  refine .int (by omega) (by omega) ?_
  refine .int (by omega) (by omega) ?_
  exact .pure ⟨shaped.sizes, shaped.length, by dsimp only; omega⟩

theorem LogicalLine.holds_rewrap (source : LogicalLine) (wide : width ≤ 10000)
    (capacity : Nat) (cursor : Option Nat) (rounds position produced : Nat)
    (small : bound + rounds ≤ 2147483647) (shaped : rewrapping.Shaped width bound) :
    Holds (Rewrapping.Shaped width (bound + rounds))
      (source.rewrap width capacity cursor rounds position produced rewrapping) := by
  induction rounds generalizing bound position produced rewrapping with
  | zero => exact .pure shaped
  | succ rounds ih =>
    have hone : ∀ rewrapping : Rewrapping, rewrapping.Shaped width bound →
        ({ rewrapping with
          lines := rewrapping.lines ++ [source.chunk width position] } : Rewrapping).Shaped width
            (bound + 1) := by
      intro rewrapping shaped
      have hrow := shaped.cursorRow
      have hlength := shaped.length
      refine ⟨?_, ?_, ?_⟩
      · intro line hline
        rcases mem_append.mp hline with hold | hnew
        · exact shaped.sizes line hold
        · rw [mem_singleton.mp hnew, size_chunk]
      · simp only [length_append, length_singleton]
        omega
      · dsimp only
        omega
    have hweaken : ∀ rewrapping : Rewrapping, rewrapping.Shaped width (bound + 1) →
        rewrapping.Shaped width (bound + (rounds + 1)) := by
      intro rewrapping shaped
      have hrow := shaped.cursorRow
      have hlength := shaped.length
      exact ⟨shaped.sizes, by omega, by omega⟩
    unfold rewrap
    refine (shaped.place wide (by omega) cursor position _).bind fun rewrapping shaped => ?_
    refine .ite (fun _ => .pure (hweaken _ (hone _ shaped))) fun _ => ?_
    split
    · have hrest := ih (position + min width (source.cells.length - position)) (produced + 1)
        (by omega) (hone _ shaped)
      rwa [Nat.add_assoc, Nat.add_comm 1 rounds] at hrest
    · exact .pure (hweaken _ (hone _ shaped))

theorem holds_rewrapAll (wide : width ≤ 10000) (capacity cursorLogical cursorOffset : Nat)
    (logical : List LogicalLine) (index : Nat) (small : bound + rowBound logical ≤ 2147483647)
    (shaped : rewrapping.Shaped width bound) :
    Holds (Rewrapping.Shaped width (bound + rowBound logical))
      (rewrapAll width capacity cursorLogical cursorOffset logical index rewrapping) := by
  induction logical generalizing bound index rewrapping with
  | nil => exact .pure shaped
  | cons source rest ih =>
    have hcons : rowBound (source :: rest) = source.cells.length + 1 + rowBound rest := rfl
    rw [hcons] at small ⊢
    refine (source.holds_rewrap wide capacity _ _ 0 0 (by omega) shaped).bind
      fun rewrapping shaped => ?_
    have hrest := ih (index + 1) (by omega) shaped
    rwa [Nat.add_assoc] at hrest

end

namespace Screen

variable {columns rows : Int} {screen : Screen}

theorem Fits.rewrapRows {oldColumns oldRows : Int} (old : GridSize oldColumns oldRows)
    (fits : screen.Fits oldColumns oldRows) (size : GridSize columns rows) {sink : Scrollback}
    (bounded : sink.Bounded) : Holds (Fits columns rows) (screen.rewrapRows sink columns rows) := by
  have hwide := size.wide
  have htall := size.tall
  have hcells := bounded.cells_le
  refine (holds_size (by omega)).bind fun width hwidth => ?_
  refine (holds_size (by omega)).bind fun height hheight => ?_
  refine (holds_flatten old fits sink.lines).bind fun flattening hflattening => ?_
  have hnone : ({} : Rewrapping).Shaped width 0 := ⟨by simp, by simp, by simp⟩
  refine (holds_rewrapAll (by omega) _ _ _ _ 0 (by omega) hnone).bind fun wrapped shaped => ?_
  have hlength := shaped.length
  have hcursor := shaped.cursorRow
  refine .int (by omega) (by omega) ?_
  refine .int (by omega) (by omega) ?_
  refine .int (by omega) (by omega) ?_
  have hfits : Fits oldColumns oldRows { screen with
      sink := some (sink.replaceAll (wrapped.lines.take (wrapped.lines.length - height))) } := by
    refine { fits with sink := ?_ }
    rintro _ ⟨⟩
    refine bounded.replaceAll fun line hline => ?_
    rw [shaped.sizes line (mem_of_mem_take hline)]
    omega
  refine holds_setGeometry_replaceLines size hfits.lastWrittenWidth hfits.sink ⟨?_, ?_⟩ _
    fun _ => wrapped.cursorColumn
  · simp only [length_append, length_drop, length_replicate]
    omega
  · intro line hline
    rcases mem_append.mp hline with hkept | hfresh
    · have hsize := shaped.sizes line (mem_of_mem_drop hkept)
      unfold Line.Spans
      omega
    · rw [eq_of_mem_replicate hfresh]
      exact Line.spans_new hwidth

theorem Fits.reflowResize {oldColumns oldRows : Int} (old : GridSize oldColumns oldRows)
    (fits : screen.Fits oldColumns oldRows) (size : GridSize columns rows) :
    Holds (Fits columns rows) (screen.reflowResize columns rows) := by
  have hwidth := fits.width
  have hheight := fits.height
  unfold Screen.reflowResize
  split
  · exact fits.resize old size
  rename_i sink hsink
  refine .ite (fun hsame => .ite (fun hmore => ?_) fun _ => fits.resize old size)
    fun _ => fits.rewrapRows old size (fits.sink sink hsink)
  have hcolumns : columns = oldColumns := hsame.trans hwidth
  subst hcolumns
  exact fits.restoreRows size (fits.sink sink hsink) old.tall.1 (by omega)

end Screen

end Hypeterm.Term
