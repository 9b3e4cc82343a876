import Hypeterm.Term.Resize
import Hypeterm.Term.Fits

/-! What flattening makes of the rows: a fold over the scrollback and the rows of the screen
down to the last one that matters. -/
namespace Hypeterm.Term
open Library Checked List

namespace Flattening

def target (flattening : Flattening) : LogicalLine :=
  if flattening.continues then flattening.logical.getLastD {} else {}

def before (flattening : Flattening) : List LogicalLine :=
  if flattening.continues then flattening.logical.dropLast else flattening.logical

section

variable (flattening : Flattening)
include flattening

theorem logical_appendLine (line : Line) (used : Nat) :
    (flattening.appendLine line used).logical = flattening.before ++
      [{ cells := flattening.target.cells ++ line.cells.take used
         marks := flattening.target.marks ++ line.logicalMarks used flattening.base }] := rfl

theorem continues_appendLine (line : Line) (used : Nat) :
    (flattening.appendLine line used).continues = line.wrapped := rfl

theorem mem_before {source : LogicalLine}
    (mem : source ∈ flattening.before) : source ∈ flattening.logical := by
  unfold before at mem
  split at mem
  · exact dropLast_subset _ mem
  · exact mem

theorem length_target : flattening.target.cells.length = flattening.base := by
  unfold target base
  split <;> rfl

theorem logical_appendLine_ne_nil (line : Line) (used : Nat) :
    (flattening.appendLine line used).logical ≠ [] := by
  simp [logical_appendLine]

end

end Flattening

/-- Where the row after this one begins in its logical line. -/
def Line.nextBase (line : Line) (used base : Nat) : Nat :=
  if line.wrapped then base + min used line.size else 0

theorem Flattening.base_appendLine (flattening : Flattening) (line : Line) (used : Nat) :
    (flattening.appendLine line used).base = line.nextBase used flattening.base := by
  rw [base, continues_appendLine, logical_appendLine, getLastD_concat, length_append,
    length_take, length_target]
  rfl

/-- The logical lines of some rows, each with the number of its columns that count. -/
def Flattening.join (rows : List (Line × Nat)) : Flattening :=
  rows.foldl (fun flattening row => flattening.appendLine row.1 row.2) {}

theorem Flattening.join_concat (rows : List (Line × Nat)) (row : Line × Nat) :
    join (rows ++ [row]) = (join rows).appendLine row.1 row.2 := foldl_concat ..

def Screen.usedLength (screen : Screen) (row : Int) (line : Line) : Nat :=
  if row = screen.cursorRow then max line.usedLength screen.cursorColumn.toNat else line.usedLength

def Screen.usedRows (screen : Screen) : List (Line × Nat) :=
  screen.lines.mapIdx fun row line => (line, screen.usedLength row line)

def Screen.rowsDownTo (screen : Screen) (scrollback : List Line) (count : Nat) :
    List (Line × Nat) :=
  scrollback.map (fun line => (line, line.usedLength)) ++ screen.usedRows.take count

variable {columns rows : Int} {screen : Screen}

/-- What flattening has made of the rows so far. -/
structure Flattening.Follows (screen : Screen) (scrollback : List Line) (count : Nat)
    (flattening : Flattening) : Prop where
  logical : flattening.logical = (join (screen.rowsDownTo scrollback count)).logical
  continues : flattening.continues = (join (screen.rowsDownTo scrollback count)).continues
  cursor : screen.cursorRow < count → flattening.cursorPlaced = true ∧
    flattening.cursorLogical =
      (join (screen.rowsDownTo scrollback (screen.cursorRow.toNat + 1))).logical.length - 1 ∧
    flattening.cursorOffset = (join (screen.rowsDownTo scrollback screen.cursorRow.toNat)).base +
      screen.cursorColumn.toNat

theorem Flattening.Follows.base {scrollback : List Line} {count : Nat} {flattening : Flattening}
    (follows : flattening.Follows screen scrollback count) :
    flattening.base = (join (screen.rowsDownTo scrollback count)).base := by
  unfold Flattening.base
  rw [follows.logical, follows.continues]

theorem Screen.rowsDownTo_succ (scrollback : List Line) {row : Nat}
    (inside : row < screen.lines.length) :
    screen.rowsDownTo scrollback (row + 1) = screen.rowsDownTo scrollback row ++
      [(screen.lines.getD row default, screen.usedLength row (screen.lines.getD row default))] := by
  have hrow : screen.usedRows[row]? =
      some (screen.lines.getD row default, screen.usedLength row (screen.lines.getD row default)) := by
    rw [usedRows, getElem?_mapIdx, getElem?_eq_getElem inside, getD_eq_getElem _ _ inside]
    rfl
  rw [rowsDownTo, rowsDownTo, take_add_one, hrow, Option.toList_some, append_assoc]

theorem Flattening.logical_appendLine_congr {first second : Flattening} (logical : first.logical =
    second.logical) (continues : first.continues = second.continues) (line : Line) (used : Nat) :
    (first.appendLine line used).logical = (second.appendLine line used).logical := by
  unfold appendLine Flattening.base
  rw [logical, continues]

theorem Flattening.Follows.appendRow {scrollback : List Line}
    {row : Nat} (inside : row < screen.lines.length) {flattening : Flattening}
    (follows : flattening.Follows screen scrollback row) :
    (flattening.appendRow (screen.lines.getD row default) row screen.cursorRow
      screen.cursorColumn).value.Follows screen scrollback (row + 1) := by
  have hrows := Screen.rowsDownTo_succ scrollback inside
  have hlogical := Flattening.logical_appendLine_congr follows.logical follows.continues
    (screen.lines.getD row default)
  unfold Flattening.appendRow
  rw [value_ite, value_bind, value_pure, value_pure, value_size]
  split
  · rename_i hrow
    have hused : screen.usedLength row (screen.lines.getD row default) =
        max (screen.lines.getD row default).usedLength screen.cursorColumn.toNat := if_pos hrow
    rw [hused] at hrows
    have hcursor : screen.cursorRow.toNat = row := by
      omega
    refine ⟨?_, ?_, fun _ => ⟨rfl, ?_, ?_⟩⟩
    · rw [hrows, Flattening.join_concat]
      exact hlogical _
    · rw [hrows, Flattening.join_concat]
      rfl
    · rw [hcursor, hrows, Flattening.join_concat, ← hlogical]
    · rw [hcursor, follows.base]
  · rename_i hrow
    have hused : screen.usedLength row (screen.lines.getD row default) =
        (screen.lines.getD row default).usedLength := if_neg hrow
    rw [hused] at hrows
    refine ⟨?_, ?_, fun hbelow => ?_⟩
    · rw [hrows, Flattening.join_concat]
      exact hlogical _
    · rw [hrows, Flattening.join_concat]
      rfl
    · exact follows.cursor (by omega)

theorem Flattening.Follows.complete {scrollback : List Line} {count : Nat} {flattening : Flattening}
    (follows : flattening.Follows screen scrollback count) (cursor : screen.cursorRow < count)
    (some : flattening.logical ≠ []) : flattening.complete.Follows screen scrollback count := by
  unfold Flattening.complete
  rw [if_neg some, if_pos (follows.cursor cursor).1]
  exact ⟨follows.logical, follows.continues, follows.cursor⟩

theorem Flattening.join_saved (scrollback : List Line) : join (screen.rowsDownTo scrollback 0) =
    scrollback.foldl (fun flattening line => flattening.appendLine line line.usedLength) {} := by
  rw [join, Screen.rowsDownTo, take_zero, append_nil, foldl_map]

theorem lastMeaningful_spec {lines : List Line} {cursorRow : Int} (rounds : Nat) {row : Int}
    (reaches : row ≤ cursorRow + rounds) (below : cursorRow ≤ row) :
    cursorRow ≤ (lastMeaningful lines cursorRow rounds row).value ∧
      (lastMeaningful lines cursorRow rounds row).value ≤ row ∧
      ∀ index, (lastMeaningful lines cursorRow rounds row).value < index → index ≤ row →
        (lines.getD index.toNat default).trimmedLength = 0 ∧
          (lines.getD index.toNat default).wrapped = false := by
  induction rounds generalizing row with
  | zero =>
    refine ⟨Int.le_refl _, below, fun index hlow hhigh => ?_⟩
    have hvalue : (lastMeaningful lines cursorRow 0 row).value = cursorRow := rfl
    omega
  | succ rounds ih =>
    unfold lastMeaningful
    rw [value_ite, value_bind, value_ite, value_bind, value_int, value_pure, value_pure, value_get]
    split
    · rename_i hbelow
      split
      · exact ⟨below, Int.le_refl _, fun index hlow hhigh => absurd hlow (by omega)⟩
      · rename_i hblank
        rw [not_or, not_not, Bool.not_eq_true] at hblank
        obtain ⟨hlow, hhigh, hrest⟩ := ih (by omega : row - 1 ≤ cursorRow + rounds) (by omega)
        refine ⟨hlow, by omega, fun index hfrom hto => ?_⟩
        by_cases hindex : index = row
        · rw [hindex]
          exact hblank
        · exact hrest index hfrom (by omega)
    · exact ⟨Int.le_refl _, below, fun index hlow hhigh => absurd hlow (by omega)⟩

/-- How many rows of the screen flattening takes. -/
structure Screen.Meaningful (screen : Screen) (count : Nat) : Prop where
  cursor : screen.cursorRow < count
  inside : count ≤ screen.lines.length
  blank : ∀ row, count ≤ row → row < screen.lines.length →
    (screen.lines.getD row default).trimmedLength = 0 ∧
      (screen.lines.getD row default).wrapped = false

theorem flatten_follows (fits : screen.Fits columns rows) (scrollback : List Line) :
    ∃ count, screen.Meaningful count ∧
      (flatten scrollback screen).value.Follows screen scrollback count := by
  have hrow := fits.cursorRow
  have hheight := fits.height
  have hlength := fits.grid.length
  unfold flatten
  rw [value_bind, value_bind, value_bind, value_bind, value_pure, value_int, value_int]
  obtain ⟨hlow, hhigh, hblank⟩ := @lastMeaningful_spec screen.lines screen.cursorRow
    (screen.rows - 1 - screen.cursorRow).toNat (screen.rows - 1) (by omega) (by omega)
  generalize (lastMeaningful screen.lines screen.cursorRow
    (screen.rows - 1 - screen.cursorRow).toNat (screen.rows - 1)).value = meaningful at *
  have hmeaningful : screen.Meaningful (meaningful + 1).toNat := by
    refine ⟨by omega, by omega, fun row hfrom hto => ?_⟩
    have hrowBlank := hblank row (by omega) (by omega)
    rwa [Int.toNat_natCast] at hrowBlank
  refine ⟨(meaningful + 1).toNat, hmeaningful, ?_⟩
  have hfolded := @value_forUp_range Flattening (fun row flattening => do
      let line ← get screen.lines row
      flattening.appendRow line row screen.cursorRow screen.cursorColumn)
    (fun count flattening => flattening.Follows screen scrollback count) (meaningful + 1).toNat 0
    (scrollback.foldl (fun flattening line => flattening.appendLine line line.usedLength) {}) ?_ ?_
  · rw [Nat.zero_add, Int.natCast_zero] at hfolded
    refine Flattening.Follows.complete hfolded hmeaningful.cursor ?_
    rw [hfolded.logical, (by omega : (meaningful + 1).toNat = meaningful.toNat + 1),
      Screen.rowsDownTo_succ _ (by omega), Flattening.join_concat]
    exact Flattening.logical_appendLine_ne_nil _ _ _
  · intro row flattening _ hto hfollows
    rw [value_bind, value_get, Int.toNat_natCast]
    exact hfollows.appendRow (by omega)
  · rw [← Flattening.join_saved]
    exact ⟨rfl, rfl, fun hbelow => absurd hbelow (by omega)⟩

namespace Screen

/-- The rows that rewrapping makes, and where the cursor is among them. -/
def rewrapped (screen : Screen) (sink : Scrollback) (columns : Int) : Rewrapping :=
  let flattening := (flatten sink.lines screen).value
  (rewrapAll columns.toNat sink.limits.productionBound flattening.cursorLogical
    flattening.cursorOffset flattening.logical 0 {}).value

def rowsAbove (screen : Screen) (sink : Scrollback) (columns rows : Int) : Nat :=
  (screen.rewrapped sink columns).lines.length - rows.toNat

def rowsShown (screen : Screen) (sink : Scrollback) (columns rows : Int) : List Line :=
  let shown := (screen.rewrapped sink columns).lines.drop (screen.rowsAbove sink columns rows)
  shown ++ List.replicate (rows.toNat - shown.length) (Line.new columns.toNat {})

def rowWithin (rows row : Int) : Int :=
  let row := if row < 0 then 0 else row
  if rows ≤ row then rows - 1 else row

def resized (screen : Screen) (sink : Scrollback) (columns rows : Int) : Screen :=
  (setGeometry
    { screen with
      sink := some (sink.replaceAll
        ((screen.rewrapped sink columns).lines.take (screen.rowsAbove sink columns rows))) }
    columns rows).value

theorem value_rewrapRows (screen : Screen) (sink : Scrollback) (columns rows : Int) :
    (screen.rewrapRows sink columns rows).value =
      ((screen.resized sink columns rows).replaceLines (screen.rowsShown sink columns rows)
        (rowWithin rows ((screen.rewrapped sink columns).cursorRow -
          (screen.rowsAbove sink columns rows : Int)))
        (screen.rewrapped sink columns).cursorColumn).value := rfl

end Screen

end Hypeterm.Term
