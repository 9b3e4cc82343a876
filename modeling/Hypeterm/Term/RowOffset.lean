import Hypeterm.Term.Rewrapping

/-! Where the cursor's cell stands in its logical line, before the rows are rewrapped and after. -/
namespace Hypeterm.Term
open Library Checked List LogicalLine

def openRows (rows : List Line) : List Line := rows.rtakeWhile Line.wrapped

def rowOffset (rows : List Line) : Nat := ((openRows rows).map Line.size).sum

section

variable {rows first second other : List Line}

@[simp] theorem openRows_nil : openRows [] = [] := rfl

theorem openRows_concat (rows : List Line) (line : Line) :
    openRows (rows ++ [line]) = if line.wrapped then openRows rows ++ [line] else [] :=
  rtakeWhile_concat _ _ _

theorem rowOffset_concat (rows : List Line) (line : Line) :
    rowOffset (rows ++ [line]) = if line.wrapped then rowOffset rows + line.size else 0 := by
  unfold rowOffset
  rw [openRows_concat]
  split
  · rw [map_append, sum_append, map_singleton, sum_singleton]
  · rfl

theorem openRows_eq_nil_iff :
    openRows rows = [] ↔ ∀ line ∈ rows.getLast?, line.wrapped = false := by
  induction rows using reverseRecOn with
  | nil => simp
  | append_singleton rows line _ =>
    rw [openRows_concat, getLast?_concat]
    cases hwrapped : line.wrapped <;> simp [hwrapped]

theorem openRows_suffix (ended : openRows first = []) (suffix : other <:+ first) :
    openRows other = [] := by
  rw [openRows_eq_nil_iff] at ended ⊢
  obtain ⟨before, rfl⟩ := suffix
  intro line hline
  refine ended line ?_
  rw [getLast?_append, Option.mem_def.mp hline]
  rfl

theorem openRows_append (ended : openRows first = []) :
    openRows (first ++ second) = openRows second := by
  induction second using reverseRecOn with
  | nil => rw [append_nil, ended, openRows_nil]
  | append_singleton rows line ih =>
    rw [← append_assoc, openRows_concat, openRows_concat, ih]

theorem openRows_append_ended (some : second ≠ []) (ended : openRows second = []) :
    openRows (first ++ second) = [] := by
  rw [openRows_eq_nil_iff] at ended ⊢
  rw [getLast?_append_of_ne_nil _ some]
  exact ended

theorem openRows_drop (ended : openRows first = []) {count : Nat} (inside : count ≤ first.length)
    (suffix : other <:+ (first ++ second).take count) :
    openRows (other ++ first.drop count) = [] := by
  obtain ⟨dropped, hdropped⟩ := suffix
  rw [take_append_of_le_length inside] at hdropped
  refine openRows_suffix ended ⟨dropped, ?_⟩
  rw [← append_assoc, hdropped, take_append_drop]

theorem openRows_replace (short : (openRows (first ++ second)).length ≤ second.length)
    (ended : openRows first = [] → openRows other = []) :
    openRows (other ++ second) = openRows (first ++ second) := by
  induction second using reverseRecOn with
  | nil =>
    rw [append_nil] at short ⊢
    have hfirst := eq_nil_of_length_eq_zero (Nat.le_zero.mp short)
    rw [append_nil, ended hfirst, hfirst]
  | append_singleton rows line ih =>
    rw [← append_assoc, openRows_concat] at short ⊢
    rw [← append_assoc, openRows_concat]
    split
    · rename_i hwrapped
      rw [if_pos hwrapped, length_append, length_append] at short
      rw [ih (by simpa using short)]
    · rfl

theorem openRows_map_eq_nil {change : Line → Line}
    (same : ∀ line : Line, (change line).wrapped = line.wrapped)
    (ended : openRows (first ++ second) = []) : openRows (first ++ second.map change) = [] := by
  induction second using reverseRecOn with
  | nil => exact ended
  | append_singleton rows line _ =>
    rw [← append_assoc, openRows_concat] at ended
    rw [map_append, map_singleton, ← append_assoc, openRows_concat, same]
    split
    · rename_i hwrapped
      rw [if_pos hwrapped] at ended
      exact absurd ended (by simp)
    · rfl

end

theorem Flattening.base_join (rows : List (Line × Nat))
    (used : ∀ row ∈ rows, row.1.wrapped = true → row.1.size ≤ row.2) :
    (join rows).base = rowOffset (rows.map Prod.fst) := by
  induction rows using reverseRecOn with
  | nil => rfl
  | append_singleton rows row ih =>
    have hrow := used row mem_concat_self
    rw [join_concat, base_appendLine, ih fun other hother => used other
      (mem_append_left _ hother), map_append, map_singleton, rowOffset_concat]
    unfold Line.nextBase
    split
    · rename_i hwrapped
      rw [Nat.min_eq_right (hrow hwrapped)]
    · rfl

variable {source : LogicalLine} {width count bound : Nat}

theorem Flattening.foldl_keeps (rows : List (Line × Nat)) {flattening : Flattening}
    {before after : List LogicalLine}
    (logical : flattening.logical = before ++ source :: after) :
    ∃ longer rest, (rows.foldl (fun flattening row => flattening.appendLine row.1 row.2)
        flattening).logical = before ++ longer :: rest ∧
      source.cells.length ≤ longer.cells.length := by
  induction rows generalizing flattening source after with
  | nil => exact ⟨source, after, logical, Nat.le_refl _⟩
  | cons row rest ih =>
    have happended := flattening.logical_appendLine row.1 row.2
    unfold Flattening.before Flattening.target at happended
    cases hcontinues : flattening.continues with
    | false =>
      rw [hcontinues, if_neg Bool.false_ne_true, logical, append_assoc, cons_append]
        at happended
      exact ih happended
    | true =>
      rw [hcontinues, if_pos rfl, if_pos rfl, logical] at happended
      rcases eq_nil_or_concat after with hnil | ⟨middle, last, hlast⟩
      · rw [hnil, dropLast_concat, getLastD_concat] at happended
        obtain ⟨longer, later, hlonger, hle⟩ := ih happended
        refine ⟨longer, later, hlonger, Nat.le_trans ?_ hle⟩
        rw [length_append]
        exact Nat.le_add_right _ _
      · rw [hlast, concat_eq_append, ← cons_append, ← append_assoc,
          dropLast_concat, append_assoc, cons_append] at happended
        exact ih happended

theorem Line.wrapped_resize (line : Line) (columns : Nat) (blank : Cell) :
    (line.resize columns blank).wrapped = line.wrapped := by
  unfold resize
  split
  · split <;> rfl
  · rfl

namespace Screen

def scrolledRows (screen : Screen) : List Line := (screen.sink.map Scrollback.lines).getD []

def rowsBefore (screen : Screen) : List Line :=
  screen.scrolledRows ++ screen.lines.take screen.cursorRow.toNat

/-- The place of the cursor's cell in its logical line. -/
def cellOffset (screen : Screen) : Nat := rowOffset screen.rowsBefore + screen.cursorColumn.toNat

/-- The place that the next character is stored at, behind the cursor's cell when a wrap is
pending. -/
def writingOffset (screen : Screen) : Nat :=
  screen.cellOffset + if screen.pendingWrap then 1 else 0

variable {columns rows : Int} {screen : Screen}

variable (scrollback : List Line)

theorem used_rowsDownTo (count : Nat) :
    ∀ row ∈ screen.rowsDownTo scrollback count, row.1.wrapped = true → row.1.size ≤ row.2 := by
  intro row hrow hwrapped
  rcases mem_append.mp hrow with hsaved | hshown
  · obtain ⟨line, hline, rfl⟩ := mem_map.mp hsaved
    exact Nat.le_of_eq (if_pos hwrapped).symm
  · obtain ⟨index, hindex, rfl⟩ := mem_mapIdx.mp (mem_of_mem_take hshown)
    have hused : (screen.lines[index].usedLength) = screen.lines[index].size := if_pos hwrapped
    show screen.lines[index].size ≤ screen.usedLength index screen.lines[index]
    unfold usedLength
    split <;> omega

theorem map_rowsDownTo (count : Nat) :
    (screen.rowsDownTo scrollback count).map Prod.fst = scrollback ++ screen.lines.take count := by
  have hused : screen.usedRows.map Prod.fst = screen.lines := by
    apply ext_getElem
    · rw [usedRows, length_map, length_mapIdx]
    · intro index _ _
      simp [usedRows]
  rw [rowsDownTo, map_append, map_map, map_take, hused]
  congr 1
  exact map_id _

theorem base_rowsDownTo (count : Nat) :
    (Flattening.join (screen.rowsDownTo scrollback count)).base =
      rowOffset (scrollback ++ screen.lines.take count) := by
  rw [Flattening.base_join _ (screen.used_rowsDownTo scrollback count), map_rowsDownTo]

structure HoldsCursor (screen : Screen) (before : List LogicalLine) (source : LogicalLine)
    (after : List LogicalLine) : Prop where
  logical : (flatten screen.scrolledRows screen).value.logical = before ++ source :: after
  cursorLogical : (flatten screen.scrolledRows screen).value.cursorLogical = before.length
  cursorOffset : (flatten screen.scrolledRows screen).value.cursorOffset = screen.cellOffset
  inside : screen.cellOffset ≤ source.cells.length

theorem rowsDownTo_prefix {first count : Nat} (le : first ≤ count) :
    screen.rowsDownTo scrollback first <+: screen.rowsDownTo scrollback count :=
  (prefix_append_right_inj _).mpr (take_prefix_take_left le)

theorem exists_holdsCursor (fits : screen.Fits columns rows) :
    ∃ before source after, screen.HoldsCursor before source after := by
  obtain ⟨count, hmeaningful, hfollows⟩ := flatten_follows fits screen.scrolledRows
  have hrow := fits.cursorRow
  have hcolumn := fits.cursorColumn
  have hlength := fits.grid.length
  have hbelow := hmeaningful.cursor
  obtain ⟨-, hcursorLogical, hcursorOffset⟩ := hfollows.cursor hbelow
  rw [base_rowsDownTo] at hcursorOffset
  have hsucc := screen.rowsDownTo_succ screen.scrolledRows
    (by omega : screen.cursorRow.toNat < screen.lines.length)
  have hsize := fits.grid.cells (screen.lines.getD screen.cursorRow.toNat default)
    (by rw [getD_eq_getElem _ _ (by omega)]; exact getElem_mem _)
  generalize screen.lines.getD screen.cursorRow.toNat default = line at hsucc hsize
  have hused : screen.cursorColumn.toNat ≤ screen.usedLength screen.cursorRow.toNat line := by
    unfold usedLength
    rw [if_pos (by omega)]
    exact Nat.le_max_right _ _
  obtain ⟨later, hlater⟩ := screen.rowsDownTo_prefix screen.scrolledRows
    (by omega : screen.cursorRow.toNat + 1 ≤ count)
  obtain ⟨source, after, hlogical, hlonger⟩ := Flattening.foldl_keeps later
    (Flattening.logical_appendLine (Flattening.join (screen.rowsDownTo screen.scrolledRows
      screen.cursorRow.toNat)) line (screen.usedLength screen.cursorRow.toNat line))
  rw [hsucc, Flattening.join_concat] at hcursorLogical
  refine ⟨(Flattening.join (screen.rowsDownTo screen.scrolledRows screen.cursorRow.toNat)).before,
    source, after, ?_, ?_, hcursorOffset, ?_⟩
  · rw [hfollows.logical, ← hlater, hsucc, Flattening.join, foldl_append, ← Flattening.join,
      Flattening.join_concat]
    exact hlogical
  · rw [hcursorLogical, Flattening.logical_appendLine, length_append]
    rfl
  · refine Nat.le_trans ?_ hlonger
    rw [length_append, Flattening.length_target, base_rowsDownTo, length_take]
    unfold Line.Spans Line.size at hsize
    unfold cellOffset rowsBefore
    omega

theorem cellOffset_replaceLines (screen : Screen) {lines : List Line} {row column : Int}
    (inRow : 0 ≤ row ∧ row < lines.length) (inColumn : 0 ≤ column ∧ column < screen.columns) :
    (screen.replaceLines lines row column).value.cellOffset =
      rowOffset (screen.scrolledRows ++ lines.take row.toNat) + column.toNat := by
  have hlines : ¬lines.length < 1 := by omega
  unfold Screen.replaceLines
  rw [value_bind, if_neg hlines]
  show rowOffset (screen.scrolledRows ++ lines.take (clamp row 0 (lines.length - 1)).toNat) +
    (clamp column 0 (screen.columns - 1)).toNat = _
  rw [clamp_of_mem (by omega), clamp_of_mem (by omega)]

end Screen

theorem openRows_rows (wide : 0 < width) (inside : count < source.rowCount width) :
    openRows ((range count).map (source.row width)) =
      (range count).map (source.row width) := by
  refine rtakeWhile_eq_self_iff.mpr fun line hline => ?_
  obtain ⟨index, hindex, rfl⟩ := mem_map.mp hline
  rw [mem_range] at hindex
  rw [source.wrapped_row wide (by omega), decide_eq_true_iff]
  omega

theorem rowOffset_rows (wide : 0 < width) (inside : count < source.rowCount width) :
    rowOffset ((range count).map (source.row width)) = count * width := by
  have hsizes : ((range count).map (source.row width)).map Line.size =
      List.replicate count width := by
    rw [map_map, eq_replicate_iff, length_map, length_range]
    refine ⟨rfl, fun size hsize => ?_⟩
    obtain ⟨index, -, rfl⟩ := mem_map.mp hsize
    exact source.size_row index
  rw [rowOffset, openRows_rows wide inside, hsizes, sum_replicate_nat]

theorem openRows_made (wide : 0 < width)
    (uncut : source.rowCount width ≤ bound + 1) : openRows (source.made width bound) = [] := by
  have hpos := @LogicalLine.rowCount_pos source width
  have hcount : source.madeCount width bound = source.rowCount width - 1 + 1 := by
    unfold madeCount
    omega
  rw [made, hcount, range_succ, map_append, map_singleton,
    openRows_concat, source.wrapped_row wide (by omega), if_neg]
  rw [decide_eq_true_iff]
  omega

theorem openRows_madeRows {before : List LogicalLine} (wide : 0 < width)
    (uncut : ∀ source ∈ before.getLast?, source.rowCount width ≤ bound + 1) :
    openRows (madeRows width bound before) = [] := by
  rcases eq_nil_or_concat before with hnil | ⟨others, last, hlast⟩
  · rw [hnil]
    rfl
  · rw [concat_eq_append] at hlast
    rw [hlast, getLast?_concat] at uncut
    rw [hlast, madeRows_append, madeRows, madeRows, flatMap_singleton]
    refine openRows_append_ended ?_ (openRows_made wide (uncut last rfl))
    rw [← length_pos_iff, length_made]
    exact madeCount_pos

theorem take_madeRows (rest : List LogicalLine)
    (uncut : source.rowCount width ≤ bound + 1) (inside : count < source.rowCount width) :
    (madeRows width bound (source :: rest)).take count =
      (range count).map (source.row width) := by
  have hcount : source.madeCount width bound = source.rowCount width := Nat.min_eq_left uncut
  rw [madeRows_cons, take_append_of_le_length, made, ← map_take,
    take_range, Nat.min_eq_left]
  · omega
  · rw [length_made]
    omega

namespace Screen

variable {columns rows : Int} {screen : Screen}

/-- Whether the rows that the cursor's logical line takes at a new width, and those of the lines
below it, have room on the screen. Neither it nor the line above it may be cut. -/
def rewrapsOnScreen (screen : Screen) (sink : Scrollback) (columns rows : Int) : Bool :=
  let flattening := (flatten sink.lines screen).value
  let bound := sink.limits.productionBound
  let shown := flattening.logical.drop flattening.cursorLogical
  decide ((shown.map fun source => source.madeCount columns.toNat bound).sum ≤ rows.toNat) &&
    ((flattening.logical.take flattening.cursorLogical).getLast?.toList ++ shown.take 1).all
      fun source => decide (source.rowCount columns.toNat ≤ bound + 1)

/-- Whether the cursor's logical line is full at a new width and ends before the cursor. -/
def endsFull (screen : Screen) (columns : Int) : Bool :=
  let flattening := (flatten screen.scrolledRows screen).value
  let length := (flattening.logical.getD flattening.cursorLogical {}).cells.length
  decide (0 < length ∧ screen.cellOffset = length ∧ length % columns.toNat = 0)

theorem scrolledRows_eq {sink : Scrollback} (hsink : screen.sink = some sink) :
    screen.scrolledRows = sink.lines := by
  rw [scrolledRows, hsink]
  rfl

theorem rowWithin_of_mem {row : Int} (inside : 0 ≤ row ∧ row < rows) :
    rowWithin rows row = row := by
  unfold rowWithin
  rw [if_neg (by omega), if_neg (by omega)]

theorem length_rowsShown (screen : Screen) (sink : Scrollback) (columns rows : Int) :
    (screen.rowsShown sink columns rows).length = rows.toNat := by
  unfold rowsShown rowsAbove
  rw [length_append, length_replicate, length_drop]
  omega

theorem scrolledRows_resized (screen : Screen) (sink : Scrollback) (columns rows : Int) :
    (screen.resized sink columns rows).scrolledRows <:+
      (screen.rewrapped sink columns).lines.take (screen.rowsAbove sink columns rows) :=
  Scrollback.lines_trimLines _ _

theorem take_rowsShown {sink : Scrollback} {above below : List Line}
    (lines : (screen.rewrapped sink columns).lines = above ++ below)
    (fit : below.length ≤ rows.toNat) {count : Nat} (inside : count ≤ below.length) :
    (screen.rowsShown sink columns rows).take
        (above.length + count - screen.rowsAbove sink columns rows) =
      above.drop (screen.rowsAbove sink columns rows) ++ below.take count := by
  have hstart : screen.rowsAbove sink columns rows ≤ above.length := by
    unfold rowsAbove
    rw [lines, length_append]
    omega
  unfold rowsShown
  rw [lines, drop_append_of_le_length hstart, take_append_of_le_length, take_append,
    length_drop, take_of_length_le]
  · congr 2
    omega
  · rw [length_drop]
    omega
  · rw [length_append, length_drop]
    omega

section

variable {sink : Scrollback} {before after : List LogicalLine} {source : LogicalLine}
  (holds : screen.HoldsCursor before source after)
include holds

theorem HoldsCursor.endsFull : screen.endsFull columns = decide (0 < source.cells.length ∧
    screen.cellOffset = source.cells.length ∧ source.cells.length % columns.toNat = 0) := by
  unfold Screen.endsFull
  dsimp only
  rw [holds.logical, holds.cursorLogical, getD_append_right _ _ _ _ (Nat.le_refl _),
    Nat.sub_self, getD_cons_zero]

variable (hsink : screen.sink = some sink)
include hsink

theorem HoldsCursor.rewrapped (wide : 0 < columns)
    (uncut : source.rowCount columns.toNat ≤ sink.limits.productionBound + 1) :
    screen.rewrapped sink columns =
      { lines := madeRows columns.toNat sink.limits.productionBound (before ++ source :: after)
        cursorRow := ((madeRows columns.toNat sink.limits.productionBound before).length +
          source.rowOf columns.toNat screen.cellOffset : Nat)
        cursorColumn := source.columnOf columns.toNat screen.cellOffset } := by
  unfold Screen.rewrapped
  dsimp only
  rw [← scrolledRows_eq hsink, holds.logical, holds.cursorLogical, holds.cursorOffset]
  exact value_rewrapAll (by omega) _ _ uncut

theorem HoldsCursor.rewrapsOnScreen (stays : screen.rewrapsOnScreen sink columns rows = true) :
    (madeRows columns.toNat sink.limits.productionBound (source :: after)).length ≤ rows.toNat ∧
      source.rowCount columns.toNat ≤ sink.limits.productionBound + 1 ∧
      ∀ source ∈ before.getLast?,
        source.rowCount columns.toNat ≤ sink.limits.productionBound + 1 := by
  unfold Screen.rewrapsOnScreen at stays
  dsimp only at stays
  rw [← scrolledRows_eq hsink, holds.logical, holds.cursorLogical, drop_left, take_left,
    Bool.and_eq_true, decide_eq_true_iff, all_append, Bool.and_eq_true, all_eq_true,
    all_eq_true] at stays
  obtain ⟨hrows, habove, hsource⟩ := stays
  refine ⟨?_, ?_, fun other hother => ?_⟩
  · rw [madeRows, length_flatMap]
    simpa using hrows
  · exact decide_eq_true_iff.mp (hsource source mem_cons_self)
  · exact decide_eq_true_iff.mp (habove other (Option.mem_toList.mpr hother))

theorem HoldsCursor.cellOffset_rewrapRows (wide : 0 < columns) (tall : 0 < rows)
    (stays : screen.rewrapsOnScreen sink columns rows = true) :
    (screen.rewrapRows sink columns rows).value.cellOffset =
      source.rowOf columns.toNat screen.cellOffset * columns.toNat +
        source.columnOf columns.toNat screen.cellOffset := by
  obtain ⟨hrows, huncut, habove⟩ := holds.rewrapsOnScreen hsink stays
  have hrewrapped := holds.rewrapped hsink wide huncut
  have hwide : 0 < columns.toNat := by omega
  have hrow := @LogicalLine.rowOf_lt source columns.toNat screen.cellOffset
  have hcolumn : source.columnOf columns.toNat screen.cellOffset ≤ columns.toNat - 1 :=
    Nat.min_le_right _ _
  have hended := openRows_madeRows hwide habove
  rw [madeRows_append] at hrewrapped
  generalize madeRows columns.toNat sink.limits.productionBound before = above at *
  have hlines : (screen.rewrapped sink columns).lines = above ++
      madeRows columns.toNat sink.limits.productionBound (source :: after) := by
    rw [hrewrapped]
  have htaken := take_madeRows after huncut hrow
  have hinside : source.rowOf columns.toNat screen.cellOffset <
      (madeRows columns.toNat sink.limits.productionBound (source :: after)).length := by
    rw [madeRows_cons, length_append, length_made, madeCount,
      Nat.min_eq_left huncut]
    omega
  have hcursorRow : (screen.rewrapped sink columns).cursorRow =
      (above.length + source.rowOf columns.toNat screen.cellOffset : Nat) := by
    rw [hrewrapped]
  have hcursorColumn : (screen.rewrapped sink columns).cursorColumn =
      source.columnOf columns.toNat screen.cellOffset := by
    rw [hrewrapped]
  have hshown := take_rowsShown hlines hrows (Nat.le_of_lt hinside)
  have hsaved := screen.scrolledRows_resized sink columns rows
  generalize madeRows columns.toNat sink.limits.productionBound (source :: after) = below at *
  have hstart : screen.rowsAbove sink columns rows = above.length + below.length - rows.toNat := by
    rw [rowsAbove, hlines, length_append]
  have hwithin : rowWithin rows
        ((above.length + source.rowOf columns.toNat screen.cellOffset : Nat) -
          (screen.rowsAbove sink columns rows : Int)) =
      (above.length + source.rowOf columns.toNat screen.cellOffset -
        screen.rowsAbove sink columns rows : Nat) := by
    rw [rowWithin_of_mem (by omega)]
    omega
  have hwidth : (screen.resized sink columns rows).columns = columns := if_neg (by omega)
  have hends : openRows ((screen.resized sink columns rows).scrolledRows ++
      above.drop (screen.rowsAbove sink columns rows)) = [] := by
    rw [hlines] at hsaved
    exact openRows_drop hended (by omega) hsaved
  rw [screen.value_rewrapRows, hcursorRow, hcursorColumn, hwithin, cellOffset_replaceLines,
    Int.toNat_natCast, Int.toNat_natCast, hshown, htaken, ← append_assoc, rowOffset,
    openRows_append hends, ← rowOffset, rowOffset_rows hwide hrow]
  · rw [length_rowsShown]
    omega
  · rw [hwidth]
    omega

end

theorem cellOffset_rewrapRows {oldColumns oldRows : Int} (fits : screen.Fits oldColumns oldRows)
    {sink : Scrollback} (hsink : screen.sink = some sink) (wide : 0 < columns) (tall : 0 < rows)
    (stays : screen.rewrapsOnScreen sink columns rows = true) :
    (screen.rewrapRows sink columns rows).value.cellOffset +
      (if screen.endsFull columns then 1 else 0) = screen.cellOffset := by
  obtain ⟨before, source, after, holds⟩ := screen.exists_holdsCursor fits
  have hplace := source.offset_place (by omega : 0 < columns.toNat) holds.inside
  rw [holds.cellOffset_rewrapRows hsink wide tall stays, holds.endsFull]
  simpa using hplace

end Screen

end Hypeterm.Term
