import Hypeterm.Term.RowOffset
import Hypeterm.Term.Trace

/-! Where the next character is written in its logical line, and what a resize makes of it. -/
namespace Hypeterm.Term
open Library Checked List Scrollback

namespace Screen

variable {columns rows : Int} {screen : Screen}

/-- How many blank rows below the cursor go when there are fewer of them. -/
def rowsTrimmed (screen : Screen) (rows : Int) : Nat :=
  let excess := (screen.rows - rows).toNat
  min excess (removableBelow screen.lines screen.cursorRow excess (screen.rows - 1)).value

/-- How many rows scroll off the top when there are fewer of them. -/
def rowsDropped (screen : Screen) (rows : Int) : Nat :=
  let excess := (screen.rows - rows).toNat
  excess - min excess
    (removableBelow screen.lines screen.cursorRow excess (screen.rows - 1)).value

/-- Whether the cursor's logical line begins on the screen, below the rows that scroll off. -/
def keepsOnScreen (screen : Screen) (rows : Int) : Bool :=
  decide ((openRows screen.rowsBefore).length + screen.rowsDropped rows ≤ screen.cursorRow.toNat)

theorem scrolledRows_pushLine (screen : Screen) (line : Line) :
    (screen.pushLine line).scrolledRows <:+ screen.scrolledRows ++ [stored line] := by
  unfold scrolledRows pushLine
  cases screen.sink with
  | none => exact nil_suffix
  | some sink => exact lines_trimLines _ _

theorem dropTop_succ (screen : Screen) (count : Nat) (above : 0 < screen.cursorRow) :
    (dropTop (count + 1) screen).value = (dropTop count
      { screen.pushLine (screen.lines.getD 0 default) with
        lines := screen.lines.drop 1
        cursorRow := screen.cursorRow - 1 }).value := by
  rw [dropTop, value_bind, value_bind, if_pos (show 0 < (screen.pushLine _).cursorRow from above)]
  rfl

structure DroppedTop (count : Nat) (screen next : Screen) : Prop where
  lines : next.lines = screen.lines.drop count
  columns : next.columns = screen.columns
  cursorRow : next.cursorRow = screen.cursorRow - count
  cursorColumn : next.cursorColumn = screen.cursorColumn
  scrolledRows : next.scrolledRows <:+
    screen.scrolledRows ++ (screen.lines.take count).map stored

theorem droppedTop (count : Nat) (above : count ≤ screen.cursorRow)
    (inside : count ≤ screen.lines.length) :
    screen.DroppedTop count (dropTop count screen).value := by
  induction count generalizing screen with
  | zero =>
    refine ⟨rfl, rfl, by simp [dropTop], rfl, ?_⟩
    rw [take_zero, map_nil, append_nil]
    exact suffix_rfl
  | succ count ih =>
    obtain ⟨front, rest, hlines⟩ :=
      exists_cons_of_length_pos (by omega : 0 < screen.lines.length)
    rw [hlines, length_cons] at inside
    have hpushed := screen.scrolledRows_pushLine front
    have hstep : (dropTop (count + 1) screen).value = (dropTop count
        { screen.pushLine front with lines := rest, cursorRow := screen.cursorRow - 1 }).value := by
      rw [screen.dropTop_succ count (by omega), hlines]
      rfl
    obtain ⟨hkept, hcolumns, hcursorRow, hcursorColumn, hscrolled⟩ :=
      @ih { screen.pushLine front with lines := rest, cursorRow := screen.cursorRow - 1 }
        (by dsimp only; omega) (by dsimp only; omega)
    rw [hstep]
    refine ⟨?_, hcolumns, ?_, hcursorColumn, hscrolled.trans ?_⟩
    · rw [hkept, hlines, drop_succ_cons]
    · rw [hcursorRow]
      dsimp only
      omega
    · obtain ⟨dropped, hdropped⟩ := hpushed
      refine ⟨dropped, ?_⟩
      rw [hlines, take_succ_cons, map_cons, ← append_assoc]
      show dropped ++ (screen.pushLine front).scrolledRows ++ _ = _
      rw [hdropped, append_assoc, singleton_append]

theorem wrapped_stored (line : Line) : (stored line).wrapped = line.wrapped := by
  unfold stored
  split
  · exact line.wrapped_resize _ _
  · rfl

theorem value_resize_rows (screen : Screen) {rows : Int} (tall : 1 ≤ rows)
    (wide : 1 ≤ screen.columns) (different : rows ≠ screen.rows) :
    (screen.resize screen.columns rows).value = (do
      let screen ← clampCursor
        { (if rows < screen.rows then screen.shrinkRows rows else screen.growRows rows).value with rows }
      screen.afterResize).value := by
  unfold Screen.resize
  rw [if_neg (by omega : ¬screen.columns < 1), if_neg (by omega : ¬rows < 1), if_neg (by omega),
    value_bind, value_bind, if_neg (not_not_intro rfl), value_ite, value_ite, value_ite]
  split
  · rfl
  · rw [if_pos (by omega)]

theorem cellOffset_resize (screen : Screen) {rows : Int} {changed : Screen}
    (tall : 1 ≤ rows) (wide : 1 ≤ screen.columns) (different : rows ≠ screen.rows)
    (changes : (if rows < screen.rows then screen.shrinkRows rows else screen.growRows rows).value =
      changed)
    (columns : changed.columns = screen.columns)
    (inRow : 0 ≤ changed.cursorRow ∧ changed.cursorRow < rows)
    (inColumn : 0 ≤ changed.cursorColumn ∧ changed.cursorColumn < screen.columns) :
    (screen.resize screen.columns rows).value.cellOffset = changed.cellOffset ∧
      (screen.resize screen.columns rows).value.pendingWrap = false := by
  have hresized := screen.value_resize_rows tall wide different
  rw [changes] at hresized
  rw [hresized]
  refine ⟨?_, rfl⟩
  show rowOffset (changed.scrolledRows ++
    changed.lines.take (clamp changed.cursorRow 0 (rows - 1)).toNat) +
      (clamp changed.cursorColumn 0 (changed.columns - 1)).toNat = _
  rw [clamp_of_mem (by omega), clamp_of_mem (by omega)]
  rfl

theorem cellOffset_eq {other : Screen} {above later : List Line}
    (before : screen.rowsBefore = above ++ later)
    (short : (openRows screen.rowsBefore).length ≤ later.length) {kept : List Line}
    (rows : other.rowsBefore = kept ++ later) (ended : openRows above = [] → openRows kept = [])
    (column : other.cursorColumn = screen.cursorColumn) : other.cellOffset = screen.cellOffset := by
  rw [before] at short
  rw [cellOffset, cellOffset, column, rowOffset, rowOffset, rows, before,
    openRows_replace short ended]

theorem value_shrinkRows (screen : Screen) {rows : Int} (fewer : rows < screen.rows) :
    (screen.shrinkRows rows).value = (dropTop (screen.rowsDropped rows)
      { screen with
        lines := screen.lines.take (screen.lines.length - screen.rowsTrimmed rows) }).value := by
  unfold shrinkRows rowsDropped rowsTrimmed
  dsimp only
  rw [value_bind, value_bind, value_bind, value_bind, value_int, value_int, value_int]
  congr 2
  omega

theorem cellOffset_shrinkRows (size : GridSize columns rows) (fits : screen.Fits columns rows)
    {newRows : Int} (fewer : newRows < rows) (stays : screen.keepsOnScreen newRows = true) :
    let next := (screen.shrinkRows newRows).value
    next.cellOffset = screen.cellOffset ∧ next.columns = screen.columns ∧
      (0 ≤ next.cursorRow ∧ next.cursorRow < newRows) ∧
      next.cursorColumn = screen.cursorColumn := by
  have hrow := fits.cursorRow
  have hheight := fits.height
  have hlength := fits.grid.length
  have htall := size.tall
  obtain ⟨hremovable, hbelow⟩ := (@holds_removableBelow screen.lines screen.cursorRow hrow.1
    (screen.rows - newRows).toNat (screen.rows - 1) (by omega) (by omega)).2
  have hshort := decide_eq_true_iff.mp stays
  unfold rowsDropped at hshort
  dsimp only at hshort
  have hshrunk := screen.value_shrinkRows (hheight ▸ fewer)
  unfold rowsTrimmed rowsDropped at hshrunk
  dsimp only at hshrunk
  rw [hshrunk]
  generalize (removableBelow screen.lines screen.cursorRow (screen.rows - newRows).toNat
    (screen.rows - 1)).value = removable at *
  rw [Nat.min_eq_right hremovable] at *
  generalize habove : (screen.rows - newRows).toNat - removable = above at *
  obtain ⟨hlines, hcolumns, hcursorRow, hcursorColumn, hscrolled⟩ := @droppedTop
    { screen with lines := screen.lines.take (screen.lines.length - removable) } above
    (by dsimp only; omega) (by rw [length_take]; omega)
  generalize (dropTop above { screen with
    lines := screen.lines.take (screen.lines.length - removable) }).value = next at *
  dsimp only at hlines hcolumns hcursorRow hcursorColumn hscrolled ⊢
  refine ⟨?_, hcolumns, by omega, hcursorColumn⟩
  have hbefore : screen.rowsBefore = (screen.scrolledRows ++ screen.lines.take above) ++
      (screen.lines.take screen.cursorRow.toNat).drop above := by
    have hsplit := take_append_drop above (screen.lines.take screen.cursorRow.toNat)
    rw [take_take, Nat.min_eq_left (by omega)] at hsplit
    rw [rowsBefore, append_assoc, hsplit]
  have hafter : next.rowsBefore =
      next.scrolledRows ++ (screen.lines.take screen.cursorRow.toNat).drop above := by
    rw [rowsBefore, hlines, take_drop, take_take, hcursorRow,
      (by omega : min (above + (screen.cursorRow - above).toNat) (screen.lines.length - removable) =
        screen.cursorRow.toNat)]
  refine cellOffset_eq hbefore ?_ hafter (fun hended => ?_) hcursorColumn
  · rw [length_drop, length_take]
    omega
  · refine openRows_suffix (openRows_map_eq_nil wrapped_stored hended) ?_
    rw [take_take, Nat.min_eq_left (by omega)] at hscrolled
    exact hscrolled

theorem cellOffset_growRows (fits : screen.Fits columns rows) (newRows : Int) :
    (screen.growRows newRows).value.cellOffset = screen.cellOffset := by
  have hrow := fits.cursorRow
  have hlength := fits.grid.length
  have htaken : (screen.growRows newRows).value.rowsBefore = screen.rowsBefore := by
    unfold growRows rowsBefore
    rw [value_bind, value_bind, value_pure]
    dsimp only
    rw [take_append_of_le_length (by omega)]
    rfl
  rw [cellOffset, htaken]
  rfl

theorem takeNewest_split {sink kept : Scrollback} {restored : List Line} {count : Nat}
    (taken : sink.takeNewest count = (restored, kept)) :
    kept.lines ++ restored = sink.lines ∧ restored.length = min count sink.lines.length := by
  unfold takeNewest at taken
  obtain ⟨rfl, rfl⟩ := Prod.mk.inj taken
  refine ⟨take_append_drop _ _, ?_⟩
  rw [length_drop]
  omega

theorem value_restoreRows {sink kept : Scrollback} {restored : List Line} {newRows : Int}
    (taken : sink.takeNewest (newRows - screen.rows).toNat = (restored, kept))
    (back : restored ≠ []) : ∃ below,
    below = List.replicate (newRows.toNat - (restored.length + screen.lines.length))
      (Line.new screen.columns.toNat {}) ∧
    (screen.restoreRows sink screen.columns newRows).value =
      ((setGeometry { screen with sink := some kept } screen.columns
        newRows).value.replaceLines
        (restored.map (fun line => line.resize screen.columns.toNat {}) ++ screen.lines ++ below)
        (screen.cursorRow + restored.length) screen.cursorColumn).value := by
  unfold restoreRows
  rw [value_bind, value_bind, value_int, value_size, taken]
  dsimp only
  rw [if_neg back]
  refine ⟨_, ?_, rfl⟩
  rw [value_size, value_size, length_append, length_map]

theorem cellOffset_restoreRows (fits : screen.Fits columns rows) {newRows : Int}
    (wide : 1 ≤ columns) (more : rows < newRows)
    (stays : screen.keepsOnScreen newRows = true) {sink : Scrollback}
    (hsink : screen.sink = some sink) (saved : sink.lines ≠ []) :
    let next := (screen.restoreRows sink screen.columns newRows).value
    next.cellOffset = screen.cellOffset ∧ next.pendingWrap = false := by
  have hrow := fits.cursorRow
  have hcolumn := fits.cursorColumn
  have hheight := fits.height
  have hwidth := fits.width
  have hlength := fits.grid.length
  have hsaved := length_pos_iff.mpr saved
  have hshort := decide_eq_true_iff.mp stays
  obtain ⟨kept, restored, htaken⟩ : ∃ kept restored,
      sink.takeNewest (newRows - screen.rows).toNat = (restored, kept) := ⟨_, _, rfl⟩
  obtain ⟨hsplit, hadded⟩ := takeNewest_split htaken
  obtain ⟨below, -, hvalue⟩ := screen.value_restoreRows htaken
    (length_pos_iff.mp (by omega))
  rw [hvalue]
  refine ⟨?_, rfl⟩
  have hpadded : (restored.map fun line => line.resize screen.columns.toNat {}).length =
      restored.length := length_map _
  have hended (ended : openRows screen.scrolledRows = []) : openRows (kept.lines ++
      restored.map fun line => line.resize screen.columns.toNat {}) = [] := by
    refine openRows_map_eq_nil (fun line => line.wrapped_resize _ _) ?_
    rwa [hsplit, ← scrolledRows_eq hsink]
  generalize (restored.map fun line => line.resize screen.columns.toNat {}) = padded at *
  have htop : (padded ++ screen.lines ++ below).take
        (screen.cursorRow + restored.length).toNat =
      padded ++ screen.lines.take screen.cursorRow.toNat := by
    rw [(by omega : (screen.cursorRow + restored.length).toNat =
      padded.length + screen.cursorRow.toNat), append_assoc, take_length_add_append,
      take_append_of_le_length (by omega)]
  have hshown : openRows (kept.lines ++ (padded ++ screen.lines.take screen.cursorRow.toNat)) =
      openRows screen.rowsBefore := by
    rw [← append_assoc]
    refine openRows_replace ?_ hended
    unfold rowsBefore at hshort
    rw [length_take]
    omega
  rw [cellOffset_replaceLines, htop]
  · show ((openRows (kept.lines ++ _)).map Line.size).sum + _ = _
    rw [hshown]
    rfl
  · rw [length_append, length_append, hpadded]
    omega
  · show 0 ≤ screen.cursorColumn ∧ screen.cursorColumn < if screen.columns < 1 then 1 else _
    rw [if_neg (by omega)]
    omega

/-- Whether the cursor's logical line stays on the screen when the size changes. Rows are rewrapped
with the scrollback, which the primary screen has. -/
def staysOnScreen (screen : Screen) (columns rows : Int) : Bool :=
  if columns = screen.columns then screen.keepsOnScreen rows
  else screen.sink.any fun sink => screen.rewrapsOnScreen sink columns rows

/-- What the position of the next character loses when the size changes: a pending wrap is
dropped, and the end of a line that is full at a new width becomes its last cell. -/
def lostBy (screen : Screen) (columns rows : Int) : Nat :=
  if columns = screen.columns ∧ rows = screen.rows then 0
  else
    (if screen.pendingWrap then 1 else 0) +
      if columns ≠ screen.columns ∧ screen.endsFull columns then 1 else 0

theorem cellOffset_sameColumns (size : GridSize columns rows) (fits : screen.Fits columns rows)
    {newRows : Int} (tall : 1 ≤ newRows) (different : newRows ≠ screen.rows)
    (stays : screen.keepsOnScreen newRows = true) :
    (screen.resize screen.columns newRows).value.cellOffset = screen.cellOffset ∧
      (screen.resize screen.columns newRows).value.pendingWrap = false := by
  have hbounds := fits.bounds size
  have hheight := fits.height
  have hresized := screen.cellOffset_resize tall (by omega) different rfl
  by_cases hfewer : newRows < screen.rows
  · rw [if_pos hfewer] at hresized
    obtain ⟨hkept, hcolumns, hrows, hcursorColumn⟩ :=
      cellOffset_shrinkRows size fits (hheight ▸ hfewer) stays
    obtain ⟨hoffset, hpending⟩ := hresized hcolumns hrows (by omega)
    exact ⟨hoffset.trans hkept, hpending⟩
  · rw [if_neg hfewer] at hresized
    have hkept := cellOffset_growRows fits newRows
    have hrows : 0 ≤ screen.cursorRow ∧ screen.cursorRow < newRows := by omega
    have hcolumns : 0 ≤ screen.cursorColumn ∧ screen.cursorColumn < screen.columns := by omega
    obtain ⟨hoffset, hpending⟩ := hresized rfl hrows hcolumns
    exact ⟨hoffset.trans hkept, hpending⟩

theorem writingOffset_of_not_pending (pending : screen.pendingWrap = false) :
    screen.writingOffset = screen.cellOffset := by
  rw [writingOffset, pending, if_neg Bool.false_ne_true, Nat.add_zero]

theorem cellOffset_reflowResize {oldColumns oldRows : Int} (size : GridSize oldColumns oldRows)
    (fits : screen.Fits oldColumns oldRows) (wide : 1 ≤ columns) (tall : 1 ≤ rows)
    (different : ¬(columns = screen.columns ∧ rows = screen.rows))
    (stays : screen.staysOnScreen columns rows = true) :
    let next := (screen.reflowResize columns rows).value
    next.cellOffset + (if columns ≠ screen.columns ∧ screen.endsFull columns then 1 else 0) =
      screen.cellOffset ∧ next.pendingWrap = false := by
  have hwidth := fits.width
  have hheight := fits.height
  unfold staysOnScreen at stays
  by_cases hcolumns : columns = screen.columns
  · subst hcolumns
    rw [if_pos rfl] at stays
    rw [if_neg fun hother => hother.1 rfl]
    have hresized := cellOffset_sameColumns size fits tall (by omega) stays
    unfold reflowResize
    split
    · exact hresized
    · rename_i sink hsink
      rw [if_pos rfl, value_ite]
      split
      · rename_i hmore
        exact cellOffset_restoreRows fits (hwidth ▸ wide) (hheight ▸ hmore.1) stays hsink hmore.2
      · exact hresized
  · rw [if_neg hcolumns, Option.any_eq_true] at stays
    obtain ⟨sink, hsink, hstays⟩ := stays
    have hkept := cellOffset_rewrapRows fits hsink (by omega) (by omega) hstays
    have hrewrapped : screen.reflowResize columns rows = screen.rewrapRows sink columns rows := by
      unfold reflowResize
      rw [hsink]
      exact if_neg hcolumns
    rw [hrewrapped]
    exact ⟨by simpa [hcolumns] using hkept, rfl⟩

theorem writingOffset_reflowResize {oldColumns oldRows : Int} (size : GridSize oldColumns oldRows)
    (fits : screen.Fits oldColumns oldRows) (wide : 1 ≤ columns) (tall : 1 ≤ rows)
    (different : ¬(columns = screen.columns ∧ rows = screen.rows))
    (stays : screen.staysOnScreen columns rows = true) :
    (screen.reflowResize columns rows).value.writingOffset + screen.lostBy columns rows =
      screen.writingOffset := by
  obtain ⟨hkept, hpending⟩ := cellOffset_reflowResize size fits wide tall different stays
  rw [writingOffset_of_not_pending hpending, lostBy, if_neg different, writingOffset, ← hkept]
  omega

end Screen

namespace Emulator

/-- The place in its logical line that the next character is stored at. -/
def writingOffset (emulator : Emulator) : Nat := emulator.primary.writingOffset

def staysOnScreen (emulator : Emulator) (columns rows : Int) : Bool :=
  emulator.primary.staysOnScreen (max columns 1) (max rows 1)

def lostBy (emulator : Emulator) (columns rows : Int) : Nat :=
  emulator.primary.lostBy (max columns 1) (max rows 1)

end Emulator

/-- The next character keeps its place in its logical line, but for what a resize takes from it. -/
theorem writing_position_kept (emulator : Emulator) (reachable : emulator.Reachable)
    (columns rows : Int) (stays : emulator.staysOnScreen columns rows = true) :
    (emulator.resize columns rows).value.writingOffset + emulator.lostBy columns rows =
      emulator.writingOffset := by
  obtain ⟨oldColumns, oldRows, hsize, hfits⟩ := reachable.fitsGrid
  unfold Emulator.staysOnScreen at stays
  unfold Emulator.lostBy Emulator.resize
  rw [(by omega : (if columns < 1 then 1 else columns) = max columns 1),
    (by omega : (if rows < 1 then 1 else rows) = max rows 1), value_ite]
  split
  · rename_i hsame
    rw [Screen.lostBy, if_pos hsame]
    rfl
  · rename_i hdifferent
    exact Screen.writingOffset_reflowResize hsize hfits.primary (by omega) (by omega) hdifferent
      stays

/-- `abcd` on six columns, and then on three. -/
theorem writing_position_kept_in_sample :
    ((sampleEmulator [0x61, 0x62, 0x63, 0x64]).resize 3 2).value.writingOffset +
        (sampleEmulator [0x61, 0x62, 0x63, 0x64]).lostBy 3 2 =
      (sampleEmulator [0x61, 0x62, 0x63, 0x64]).writingOffset :=
  writing_position_kept _ (reachable_sampleEmulator _) 3 2 (by decide)

/-- The pending wrap after `abcdef` is dropped, and so is the place behind `abcd` when four columns
just hold it. Below a line that is cut, `x` is joined to that line. -/
theorem writing_position_lost : ((sampleEmulator [0x61, 0x62, 0x63, 0x64, 0x65, 0x66]).Reachable ∧
      (sampleEmulator [0x61, 0x62, 0x63, 0x64, 0x65, 0x66]).staysOnScreen 12 2 = true ∧
      (sampleEmulator [0x61, 0x62, 0x63, 0x64, 0x65, 0x66]).writingOffset = 6 ∧
      ((sampleEmulator [0x61, 0x62, 0x63, 0x64, 0x65, 0x66]).resize 12 2).value.writingOffset =
        5) ∧
    ((sampleEmulator [0x61, 0x62, 0x63, 0x64]).Reachable ∧
      (sampleEmulator [0x61, 0x62, 0x63, 0x64]).staysOnScreen 4 2 = true ∧
      (sampleEmulator [0x61, 0x62, 0x63, 0x64]).writingOffset = 4 ∧
      ((sampleEmulator [0x61, 0x62, 0x63, 0x64]).resize 4 2).value.writingOffset = 3) ∧
    (sampleEmulator [0x61, 0x62, 0x63, 0x64, 0x65, 0x66, 0x0D, 0x0A, 0x78]).Reachable ∧
      (sampleEmulator [0x61, 0x62, 0x63, 0x64, 0x65, 0x66, 0x0D, 0x0A, 0x78]).writingOffset = 1 ∧
      (((sampleEmulator [0x61, 0x62, 0x63, 0x64, 0x65, 0x66, 0x0D, 0x0A, 0x78]).resize
          1 2).value.primary.lines.map fun line => line.cells.map Cell.code) = [[0x65], [0x78]] ∧
      ((sampleEmulator [0x61, 0x62, 0x63, 0x64, 0x65, 0x66, 0x0D, 0x0A, 0x78]).resize
          1 2).value.writingOffset = 4 :=
  ⟨⟨reachable_sampleEmulator _, by decide, by decide, by decide⟩,
    ⟨reachable_sampleEmulator _, by decide, by decide, by decide⟩,
    reachable_sampleEmulator _, by decide, by decide, by decide⟩

end Hypeterm.Term
