import Hypeterm.Term.Pairs

/-! What the edits of a row make of its cells. -/
namespace Hypeterm.Term
open Library Checked List Option

theorem Cell.clearHasMarks_or (cell : Cell) :
    Cell.clearHasMarks { cell with flags := cell.flags ||| flagHasMarks } = cell.clearHasMarks := by
  have hflags : (cell.flags ||| flagHasMarks) &&& ~~~flagHasMarks =
      cell.flags &&& ~~~flagHasMarks := by
    apply UInt16.toBitVec_inj.mp
    ext index inside
    simp only [UInt16.toBitVec_and, UInt16.toBitVec_or, UInt16.toBitVec_not, BitVec.getElem_and,
      BitVec.getElem_or, BitVec.getElem_not]
    cases cell.flags.toBitVec[index] <;> cases flagHasMarks.toBitVec[index] <;> rfl
  unfold clearHasMarks
  rw [hflags]

theorem Cell.clearHasMarks_clearHasMarks (cell : Cell) :
    cell.clearHasMarks.clearHasMarks = cell.clearHasMarks := by
  unfold clearHasMarks
  rw [UInt16.and_assoc, UInt16.and_self]

theorem getElem?_mapRange {α : Type} (rewrite : α → α) (first last : Nat) (elements : List α)
    (index : Nat) : (mapRange rewrite first last elements)[index]? =
      if first ≤ index ∧ index < last then elements[index]?.map rewrite else elements[index]? := by
  by_cases hinside : index < elements.length
  · rw [mapRange, append_assoc, getElem?_append, length_take]
    split
    · rw [if_neg (by omega), getElem?_take, if_pos (by omega)]
    · rw [getElem?_append, length_map, length_drop, length_take]
      split
      · rw [if_pos (by omega), getElem?_map, getElem?_drop, getElem?_take, if_pos (by omega)]
        congr 2
        omega
      · rw [if_neg (by omega), getElem?_drop]
        congr 1
        omega
  · rw [List.getElem?_eq_none_iff.mpr (by rw [length_mapRange]; omega),
      List.getElem?_eq_none_iff.mpr (by omega)]
    simp

namespace Line

/-- The cell of a column, without the flag that says whether it has marks. -/
def bareAt (line : Line) (column : Nat) : Option Cell := line.cells[column]?.map Cell.clearHasMarks

variable {line : Line}

theorem bareAt_clearMarks (column other : Nat) :
    (line.clearMarks column).bareAt other = line.bareAt other := by
  unfold bareAt clearMarks
  rw [getElem?_modify]
  split
  · cases line.cells[other]? with
    | none => rfl
    | some cell => exact congrArg some cell.clearHasMarks_clearHasMarks
  · cases line.cells[other]? <;> rfl

theorem bareAt_addMark (line : Line) (column mark other : Nat) :
    (line.addMark column mark).bareAt other = line.bareAt other := by
  unfold addMark
  repeat' split
  all_goals try rfl
  unfold bareAt
  rw [getElem?_modify]
  cases line.cells[other]? with
  | none => rfl
  | some cell =>
    by_cases hsame : column = other
    · rw [Option.map_eq_map, map_some, if_pos hsame]
      exact congrArg some cell.clearHasMarks_or
    · rw [Option.map_eq_map, map_some, if_neg hsame]

theorem bareAt_shiftMarks (start : Nat) (delta : Int) (limit column : Nat) :
    (line.shiftMarks start delta limit).bareAt column = line.bareAt column := rfl

theorem bareAt_setCellAt (column : Nat) (cell : Cell) (other : Nat) :
    (line.setCellAt (column : Int) cell).value.bareAt other =
      if column = other ∧ column < line.size then some cell.clearHasMarks
      else line.bareAt other := by
  unfold bareAt setCellAt
  rw [value_bind, value_pure, value_put, Int.toNat_natCast, getElem?_set]
  by_cases hsame : column = other
  · rw [if_pos hsame]
    by_cases hinside : column < line.cells.length
    · rw [if_pos hinside, if_pos ⟨hsame, hinside⟩, map_some]
    · rw [if_neg hinside, if_neg fun both => hinside both.2, ← hsame,
        List.getElem?_eq_none_iff.mpr (Nat.not_lt.mp hinside)]
  · rw [if_neg hsame, if_neg fun both => hsame both.1]

theorem bareAt_setCellAt_other {column other : Nat} (different : column ≠ other) (cell : Cell) :
    (line.setCellAt (column : Int) cell).value.bareAt other = line.bareAt other := by
  rw [bareAt_setCellAt, if_neg fun both => different both.1]

theorem value_cellAt (column : Nat) :
    (line.cellAt (column : Int)).value = line.cells.getD column default := rfl

theorem getElem?_fillRange (first last : Nat) (blank : Cell) (column : Nat) :
    (line.fillRange first last blank).cells[column]? =
      if first ≤ column ∧ column < last then line.cells[column]?.map fun _ => blank.clearHasMarks
      else line.cells[column]? := by
  unfold fillRange
  dsimp only
  by_cases hinside : column < line.cells.length
  · split
    · rename_i hempty
      unfold size at hempty
      rw [if_neg (by omega)]
    · unfold clearMarksInRange
      rw [getElem?_mapRange, getElem?_mapRange]
      unfold size
      by_cases hrange : first ≤ column ∧ column < last
      · rw [if_pos hrange, if_pos (by omega), if_pos (by omega), Option.map_map]
        rfl
      · rw [if_neg hrange, if_neg (by omega), if_neg (by omega)]
  · have hnone : line.cells[column]? = none := List.getElem?_eq_none_iff.mpr (by omega)
    split
    · rw [hnone, map_none, ite_self]
    · unfold clearMarksInRange
      rw [getElem?_mapRange, getElem?_mapRange, hnone]
      simp

theorem bareAt_fillRange (first last : Nat) (blank : Cell) (column : Nat) :
    (line.fillRange first last blank).bareAt column =
      if first ≤ column ∧ column < last then line.cells[column]?.map fun _ => blank.clearHasMarks
      else line.bareAt column := by
  unfold bareAt
  rw [getElem?_fillRange, apply_ite (Option.map _), Option.map_map]
  congr 2
  funext _
  exact blank.clearHasMarks_clearHasMarks

def wideAt (line : Line) (column : Nat) : Bool := (line.cells.getD column default).width == 2

/-- The halves of the wide character at `column` that become spaces when the cell there is about
to be overwritten. -/
def tornAt (line : Line) (column other : Nat) : Bool :=
  if line.continuesAt column && 0 < column then
    other == column || other + 1 == column && line.wideAt other
  else line.wideAt column && line.continuesAt (column + 1 : Nat) && other == column + 1

def spaceAt (line : Line) (column : Nat) : Line :=
  (line.setCellAt (column : Int)
    { line.cells.getD column default with code := space, width := 1 }).value

theorem bareAt_spaceAt {column other : Nat} (different : column ≠ other) :
    (line.spaceAt column).bareAt other = line.bareAt other :=
  bareAt_setCellAt_other different _

theorem getD_spaceAt {column other : Nat} (different : column ≠ other) :
    (line.spaceAt column).cells.getD other default = line.cells.getD other default := by
  unfold spaceAt setCellAt
  rw [value_bind, value_pure, value_put, Int.toNat_natCast, getD_eq_getElem?_getD,
    getElem?_set, if_neg different, ← getD_eq_getElem?_getD]

theorem getD_clearMarks {column other : Nat} (different : column ≠ other) :
    (line.clearMarks column).cells.getD other default = line.cells.getD other default := by
  unfold clearMarks
  rw [getD_eq_getElem?_getD, getD_eq_getElem?_getD, getElem?_modify]
  cases line.cells[other]? with
  | none => rfl
  | some cell => exact if_neg different

/-- Either half of a wide character is taken from the other one. -/
def separatedAt (line : Line) (column : Nat) : Line :=
  if line.continuesAt column && 0 < column then
    (if line.wideAt (column - 1) then (line.spaceAt (column - 1)).clearMarks (column - 1)
    else line).spaceAt column
  else if line.wideAt column && column + 1 < line.size then
    (if line.continuesAt (column + 1 : Nat) then line.spaceAt (column + 1) else line).clearMarks
      column
  else line

theorem value_clearWideCharAt {columns : Int} (width : columns = line.size) {column : Nat}
    (inside : column < line.size) :
    (Screen.clearWideCharAt columns line column).value = line.separatedAt column := by
  unfold Screen.clearWideCharAt separatedAt
  rw [if_neg (by omega), value_bind, value_bind, value_int, value_cellAt, value_ite, value_ite,
    value_bind, value_bind, value_int]
  by_cases hhalf : (line.continuesAt (column : Int) && 0 < column) = true
  · obtain ⟨hcontinues, hpositive⟩ := Bool.and_eq_true_iff.mp hhalf
    have hpositive := of_decide_eq_true hpositive
    have hbefore : (column : Int) - 1 = (column - 1 : Nat) := by omega
    have hdifferent : column - 1 ≠ column := by omega
    rw [if_pos hhalf, if_pos ⟨hcontinues, by omega⟩, value_bind, hbefore, value_cellAt, value_ite]
    by_cases hwide : line.wideAt (column - 1) = true
    · have hcell : ((line.spaceAt (column - 1)).clearMarks (column - 1)).cells.getD column default =
          line.cells.getD column default := by
        rw [getD_clearMarks hdifferent, getD_spaceAt hdifferent]
      rw [if_pos hwide, if_pos (beq_iff_eq.mp hwide), spaceAt, hcell]
      rfl
    · rw [if_neg hwide, if_neg fun htwo => hwide (beq_iff_eq.mpr htwo)]
      rfl
  · have hfirst : ¬((line.cells.getD column default).isContinuation = true ∧ (0 : Int) < column) := by
      rintro ⟨hcontinues, hpositive⟩
      exact hhalf (Bool.and_eq_true_iff.mpr ⟨hcontinues, decide_eq_true (by omega)⟩)
    rw [if_neg hhalf, if_neg hfirst]
    by_cases hwide : (line.wideAt column && column + 1 < line.size) = true
    · obtain ⟨htwo, hroom⟩ := Bool.and_eq_true_iff.mp hwide
      have hroom := of_decide_eq_true hroom
      rw [if_pos hwide, if_pos ⟨beq_iff_eq.mp htwo, by omega⟩, ← Int.natCast_succ, value_bind,
        value_bind, value_bind, value_pure, value_ite, value_size, Int.toNat_natCast, value_cellAt]
      rfl
    · have hnarrow : ¬((line.cells.getD column default).width = 2 ∧ (column : Int) + 1 < columns) := by
        rintro ⟨htwo, hroom⟩
        exact hwide (Bool.and_eq_true_iff.mpr ⟨beq_iff_eq.mpr htwo, decide_eq_true (by omega)⟩)
      rw [if_neg hwide, if_neg hnarrow, value_pure]

theorem bareAt_separatedAt {column other : Nat} (whole : line.tornAt column other = false) :
    (line.separatedAt column).bareAt other = line.bareAt other := by
  unfold tornAt at whole
  unfold separatedAt
  split
  · rename_i hhalf
    rw [if_pos hhalf, Bool.or_eq_false_iff, beq_eq_false_iff_ne] at whole
    obtain ⟨hright, hleft⟩ := whole
    rw [bareAt_spaceAt hright.symm]
    split
    · rename_i hwide
      have hdifferent : column - 1 ≠ other := by
        rintro rfl
        rw [hwide, Bool.and_true, beq_eq_false_iff_ne] at hleft
        have hpositive := of_decide_eq_true (Bool.and_eq_true_iff.mp hhalf).2
        omega
      rw [bareAt_clearMarks, bareAt_spaceAt hdifferent]
    · rfl
  · rename_i hhalf
    rw [if_neg hhalf] at whole
    split
    · rename_i hwide
      rw [bareAt_clearMarks]
      split
      · rename_i hnext
        apply bareAt_spaceAt
        rintro rfl
        rw [(Bool.and_eq_true_iff.mp hwide).1, hnext, beq_self_eq_true] at whole
        cases whole
      · rfl
    · rfl

theorem holds_bareAt_writeCell {columns column : Int} (spans : line.Spans columns)
    (wide : columns ≤ 10000) (inside : 0 ≤ column ∧ column < columns) (pen : Pen) (codePoint : Nat)
    (width : Int) : Holds (fun after : Line => after.bareAt column.toNat =
        some (Screen.writtenCell pen codePoint width).clearHasMarks)
      (Screen.writeCell columns pen codePoint width column line) := by
  refine .int (by omega) (by omega) ?_
  refine (spans.clearWideCharAt (by omega) wide).bind fun line spans => ?_
  refine .bind ?_ fun (line : Line) (spans : line.Spans columns) => ?_
  · exact .ite (fun _ => spans.clearWideCharAt (by omega) wide) fun _ => .pure spans
  refine (holds_size (by omega)).bind fun here hhere => ?_
  have hcleared : (line.clearMarks here).Spans columns := by
    simpa [Line.Spans] using spans
  obtain rfl : (here : Int) = column := hhere
  have hwritten : Holds (fun after : Line => after.Spans columns ∧
        after.bareAt here = some (Screen.writtenCell pen codePoint width).clearHasMarks)
      ((line.clearMarks here).setCellAt here (Screen.writtenCell pen codePoint width)) := by
    have hset := @Spans.setCellAt columns _ hcleared here
      (Screen.writtenCell pen codePoint width) inside
    refine ⟨hset.1, hset.2, ?_⟩
    unfold Spans at hcleared
    rw [bareAt_setCellAt, if_pos ⟨rfl, by omega⟩]
  refine hwritten.bind fun line hline => ?_
  refine .ite (fun hroom => ?_) fun _ => .pure hline.2
  refine (holds_size (by omega)).bind fun after hafter => ?_
  have hspans : (line.clearMarks after).Spans columns := by
    simpa [Line.Spans] using hline.1
  refine ⟨(hspans.setCellAt (by omega)).1, ?_⟩
  rw [← hafter]
  refine (bareAt_setCellAt_other (by omega) _).trans ?_
  rw [bareAt_clearMarks]
  exact hline.2

end Line

end Hypeterm.Term
