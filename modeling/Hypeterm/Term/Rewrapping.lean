import Hypeterm.Term.Reshaping
import Hypeterm.Term.Flattening

/-! The rows that rewrapping makes of each logical line, and the row and column that it places the
cursor at. -/
namespace Hypeterm.Term
open Library Checked List

namespace LogicalLine

def rowCount (source : LogicalLine) (width : Nat) : Nat :=
  max 1 ((source.cells.length + width - 1) / width)

/-- No more of them are made than the production bound allows. -/
def madeCount (source : LogicalLine) (width bound : Nat) : Nat :=
  min (source.rowCount width) (bound + 1)

def row (source : LogicalLine) (width index : Nat) : Line := source.chunk width (index * width)

def made (source : LogicalLine) (width bound : Nat) : List Line :=
  (range (source.madeCount width bound)).map (source.row width)

def rowOf (source : LogicalLine) (width offset : Nat) : Nat :=
  min (offset / width) (source.rowCount width - 1)

def columnOf (source : LogicalLine) (width offset : Nat) : Nat :=
  min (offset - source.rowOf width offset * width) (width - 1)

variable {source : LogicalLine} {width : Nat}

theorem rowCount_pos : 0 < source.rowCount width :=
  Nat.lt_of_lt_of_le Nat.one_pos (Nat.le_max_left ..)

variable {bound offset index : Nat}

theorem madeCount_pos : 0 < source.madeCount width bound := by
  have hpos := @rowCount_pos source width
  unfold madeCount
  omega

@[simp] theorem length_made (bound : Nat) :
    (source.made width bound).length = source.madeCount width bound := by
  simp [made]

theorem size_row (index : Nat) : (source.row width index).size = width := size_chunk ..

theorem rowOf_lt : source.rowOf width offset < source.rowCount width := by
  have hpos := @rowCount_pos source width
  unfold rowOf
  omega

variable (wide : 0 < width)
include wide

theorem lt_rowCount :
    index + 1 < source.rowCount width ↔ (index + 1) * width < source.cells.length := by
  have hdiv : index + 2 ≤ (source.cells.length + width - 1) / width ↔
      (index + 2) * width ≤ source.cells.length + width - 1 := Nat.le_div_iff_mul_le wide
  have hmul : (index + 2) * width = (index + 1) * width + width := Nat.succ_mul ..
  unfold rowCount
  omega

theorem length_le_rowCount : source.cells.length ≤ source.rowCount width * width := by
  have hmore := @lt_rowCount source width (source.rowCount width - 1) wide
  have hpos := @rowCount_pos source width
  rw [Nat.sub_add_cancel hpos] at hmore
  omega

theorem wrapped_row (inside : index < source.rowCount width) :
    (source.row width index).wrapped = decide (index + 1 < source.rowCount width) := by
  have hstart : index * width ≤ source.cells.length := by
    cases index with
    | zero =>
      rw [Nat.zero_mul]
      exact Nat.zero_le _
    | succ index => exact Nat.le_of_lt ((lt_rowCount wide).mp inside)
  have hmul : (index + 1) * width = index * width + width := Nat.succ_mul ..
  rw [row, wrapped_chunk, decide_eq_decide, lt_rowCount wide]
  omega

theorem next_row (more : index + 1 < source.rowCount width) :
    index * width + min width (source.cells.length - index * width) = (index + 1) * width := by
  have hmore := (lt_rowCount wide).mp more
  have hmul : (index + 1) * width = index * width + width := Nat.succ_mul ..
  omega

theorem rowOf_eq_iff (inside : index < source.rowCount width) : index * width ≤ offset ∧
        (offset < index * width + width ∨ (source.row width index).wrapped = false) ↔
      source.rowOf width offset = index := by
  have hlow : index ≤ offset / width ↔ index * width ≤ offset := Nat.le_div_iff_mul_le wide
  have hhigh : offset / width < index + 1 ↔ offset < (index + 1) * width :=
    Nat.div_lt_iff_lt_mul wide
  have hmul : (index + 1) * width = index * width + width := Nat.succ_mul ..
  rw [wrapped_row wide inside, decide_eq_false_iff_not]
  unfold rowOf
  omega

theorem offset_place (inside : offset ≤ source.cells.length) :
    source.rowOf width offset * width + source.columnOf width offset +
        (if 0 < source.cells.length ∧ offset = source.cells.length ∧
          source.cells.length % width = 0 then 1 else 0) = offset := by
  have hpos := @rowCount_pos source width
  have hfull := @length_le_rowCount source width wide
  have hsplit := Nat.div_add_mod' offset width
  have hrest := Nat.mod_lt offset wide
  by_cases hbefore : offset / width < source.rowCount width
  · have hrow : source.rowOf width offset = offset / width := by
      unfold rowOf
      omega
    have hlast : ¬(0 < source.cells.length ∧ offset = source.cells.length ∧
        source.cells.length % width = 0) := by
      rintro ⟨hsome, hend, hmod⟩
      rw [hend] at hbefore hsplit
      have hquotient : 0 < source.cells.length / width := by
        rw [Nat.pos_iff_ne_zero]
        intro hzero
        rw [hzero] at hsplit
        omega
      have hmore := @lt_rowCount source width (source.cells.length / width - 1) wide
      rw [Nat.sub_add_cancel hquotient] at hmore
      have hstrict := hmore.mp hbefore
      omega
    rw [columnOf, hrow, if_neg hlast]
    omega
  · have hmul : source.rowCount width * width ≤ offset / width * width :=
      Nat.mul_le_mul_right _ (by omega)
    have hrow : source.rowOf width offset = source.rowCount width - 1 := by
      unfold rowOf
      omega
    have hlast : (source.rowCount width - 1) * width + width = source.rowCount width * width := by
      rw [← Nat.succ_mul, Nat.succ_eq_add_one, Nat.sub_add_cancel hpos]
    have hend : offset = source.cells.length := by omega
    have hmod : source.cells.length % width = 0 := by
      rw [← hend]
      omega
    rw [columnOf, hrow, if_pos ⟨by omega, hend, hmod⟩]
    omega

def addRow (source : LogicalLine) (width : Nat) (cursor : Option Nat) (rewrapping : Rewrapping)
    (index : Nat) : Rewrapping :=
  let placed :=
    match cursor with
    | none => rewrapping
    | some offset =>
        if source.rowOf width offset = index then
          { rewrapping with
            cursorRow := rewrapping.lines.length
            cursorColumn := source.columnOf width offset }
        else rewrapping
  { placed with lines := rewrapping.lines ++ [source.row width index] }

theorem value_place (cursor : Option Nat) (inside : index < source.rowCount width)
    (rewrapping : Rewrapping) :
    let placed := (rewrapping.place cursor width (index * width)
      (source.row width index).wrapped).value
    { placed with lines := placed.lines ++ [source.row width index] } =
      source.addRow width cursor rewrapping index := by
  cases cursor with
  | none => rfl
  | some offset =>
    unfold addRow Rewrapping.place
    dsimp only
    rw [value_ite]
    split
    · rename_i hplaced
      have hrow := (rowOf_eq_iff wide inside).mp hplaced
      rw [if_pos hrow, columnOf, hrow]
      rfl
    · rename_i hplaced
      rw [if_neg fun hrow => hplaced ((rowOf_eq_iff wide inside).mpr hrow)]
      rfl

theorem value_rewrap (cursor : Option Nat) (rounds : Nat)
    (inside : index < source.madeCount width bound)
    (enough : source.madeCount width bound ≤ index + rounds) (rewrapping : Rewrapping) :
    (source.rewrap width bound cursor rounds (index * width) index rewrapping).value =
      (range' index (source.madeCount width bound - index)).foldl
        (source.addRow width cursor) rewrapping := by
  induction rounds generalizing index rewrapping with
  | zero => omega
  | succ rounds ih =>
    have hcount : source.madeCount width bound = min (source.rowCount width) (bound + 1) := rfl
    have hinside : index < source.rowCount width := by omega
    have hrest : range' index (source.madeCount width bound - index) =
        index :: range' (index + 1) (source.madeCount width bound - (index + 1)) := by
      rw [← range'_succ, (by omega : source.madeCount width bound - (index + 1) + 1 =
        source.madeCount width bound - index)]
    have hplaced := value_place wide cursor hinside rewrapping
    have hwrapped := wrapped_row wide hinside
    rw [row] at hplaced hwrapped
    unfold rewrap
    rw [value_bind, value_ite, value_ite, hplaced, hrest, foldl_cons, hwrapped]
    split
    · rw [(by omega : source.madeCount width bound - (index + 1) = 0)]
      rfl
    split
    · rename_i hmore
      rw [decide_eq_true_iff] at hmore
      rw [next_row wide hmore, ih (by omega) (by omega)]
    · rename_i hlast
      rw [decide_eq_true_iff] at hlast
      rw [(by omega : source.madeCount width bound - (index + 1) = 0)]
      rfl

theorem madeCount_le (bound : Nat) : source.madeCount width bound ≤ source.cells.length + 1 := by
  have hcount : source.madeCount width bound ≤ source.rowCount width := Nat.min_le_left ..
  have hlast := @lt_rowCount source width (source.rowCount width - 2) wide
  have hmul : source.rowCount width - 2 + 1 ≤ (source.rowCount width - 2 + 1) * width :=
    Nat.le_mul_of_pos_right _ wide
  omega

theorem value_rewrap_whole (bound : Nat) (cursor : Option Nat) (rewrapping : Rewrapping) :
    (source.rewrap width bound cursor (source.cells.length + 1) 0 0 rewrapping).value =
      (range (source.madeCount width bound)).foldl (source.addRow width cursor)
        rewrapping := by
  have hcount := source.madeCount_le wide bound
  have hmade := value_rewrap wide cursor (source.cells.length + 1) source.madeCount_pos
    (by omega : source.madeCount width bound ≤ 0 + (source.cells.length + 1)) rewrapping
  rwa [Nat.zero_mul, Nat.sub_zero, ← range_eq_range'] at hmade

omit wide in
theorem addRow_elsewhere {cursor : Option Nat}
    (elsewhere : ∀ offset ∈ cursor, source.rowOf width offset ≠ index) (rewrapping : Rewrapping) :
    source.addRow width cursor rewrapping index =
      { rewrapping with lines := rewrapping.lines ++ [source.row width index] } := by
  cases cursor with
  | none => rfl
  | some offset =>
    unfold addRow
    dsimp only
    rw [if_neg (elsewhere offset rfl)]

omit wide in
theorem foldl_addRow_elsewhere {cursor : Option Nat} {indices : List Nat}
    (elsewhere : ∀ offset ∈ cursor, source.rowOf width offset ∉ indices)
    (rewrapping : Rewrapping) :
    indices.foldl (source.addRow width cursor) rewrapping =
      { rewrapping with lines := rewrapping.lines ++ indices.map (source.row width) } := by
  induction indices generalizing rewrapping with
  | nil => rw [foldl_nil, map_nil, append_nil]
  | cons index rest ih =>
    rw [foldl_cons, addRow_elsewhere fun offset hoffset hrow =>
        elsewhere offset hoffset (hrow ▸ mem_cons_self),
      ih fun offset hoffset hmem => elsewhere offset hoffset (mem_cons_of_mem _ hmem),
      map_cons, append_assoc, singleton_append]

theorem rewrap_none (bound : Nat) (rewrapping : Rewrapping) :
    (source.rewrap width bound none (source.cells.length + 1) 0 0 rewrapping).value =
      { rewrapping with lines := rewrapping.lines ++ source.made width bound } := by
  have helsewhere : ∀ offset ∈ (none : Option Nat), source.rowOf width offset ∉
      range (source.madeCount width bound) := fun offset hoffset => by cases hoffset
  rw [value_rewrap_whole wide, foldl_addRow_elsewhere helsewhere]
  rfl

theorem rewrap_some (uncut : source.rowCount width ≤ bound + 1) (offset : Nat)
    (rewrapping : Rewrapping) :
    (source.rewrap width bound (some offset) (source.cells.length + 1) 0 0 rewrapping).value =
      { lines := rewrapping.lines ++ source.made width bound
        cursorRow := (rewrapping.lines.length + source.rowOf width offset : Nat)
        cursorColumn := source.columnOf width offset } := by
  have hlast := @rowOf_lt source width offset
  have hcount : source.madeCount width bound = source.rowOf width offset +
      (1 + (source.rowCount width - (source.rowOf width offset + 1))) := by
    unfold madeCount
    omega
  have hmade : source.made width bound =
      (range' 0 (source.rowOf width offset)).map (source.row width) ++
        source.row width (source.rowOf width offset) ::
          (range' (source.rowOf width offset + 1)
            (source.rowCount width - (source.rowOf width offset + 1))).map (source.row width) := by
    rw [made, hcount, range_eq_range', ← List.range'_append_1, map_append, Nat.zero_add,
      Nat.add_comm 1, range'_succ, map_cons]
  have habove : ∀ other ∈ some offset,
      source.rowOf width other ∉ range' 0 (source.rowOf width offset) := by
    rintro _ ⟨⟩ hmem
    have hbefore := List.mem_range'_1.mp hmem
    omega
  have hbelow : ∀ other ∈ some offset, source.rowOf width other ∉
      range' (source.rowOf width offset + 1)
        (source.rowCount width - (source.rowOf width offset + 1)) := by
    rintro _ ⟨⟩ hmem
    have hafter := List.mem_range'_1.mp hmem
    omega
  rw [value_rewrap_whole wide, hmade, hcount, range_eq_range', ← List.range'_append_1,
    foldl_append, foldl_addRow_elsewhere habove, Nat.zero_add, Nat.add_comm 1,
    range'_succ, foldl_cons, foldl_addRow_elsewhere hbelow]
  unfold addRow
  dsimp only
  rw [if_pos rfl, append_assoc, append_assoc, length_append, length_map,
    length_range', singleton_append]

end LogicalLine

def madeRows (width bound : Nat) (logical : List LogicalLine) : List Line :=
  logical.flatMap fun source => source.made width bound

theorem madeRows_append (width bound : Nat) (first second : List LogicalLine) :
    madeRows width bound (first ++ second) =
      madeRows width bound first ++ madeRows width bound second :=
  flatMap_append

theorem madeRows_cons (width bound : Nat) (source : LogicalLine) (rest : List LogicalLine) :
    madeRows width bound (source :: rest) = source.made width bound ++ madeRows width bound rest :=
  flatMap_cons

section

variable {width : Nat} (wide : 0 < width) (bound : Nat) {cursorLogical : Nat} (cursorOffset : Nat)
include wide

omit wide in
theorem rewrapAll_cons (source : LogicalLine) (rest : List LogicalLine) (index : Nat)
    (rewrapping : Rewrapping) :
    (rewrapAll width bound cursorLogical cursorOffset (source :: rest) index rewrapping).value =
      (rewrapAll width bound cursorLogical cursorOffset rest (index + 1)
        (source.rewrap width bound (if index = cursorLogical then some cursorOffset else none)
          (source.cells.length + 1) 0 0 rewrapping).value).value := rfl

theorem rewrapAll_elsewhere {logical : List LogicalLine} {index : Nat}
    (elsewhere : cursorLogical < index ∨ index + logical.length ≤ cursorLogical)
    (rewrapping : Rewrapping) :
    (rewrapAll width bound cursorLogical cursorOffset logical index rewrapping).value =
      { rewrapping with
        lines := rewrapping.lines ++ madeRows width bound logical } := by
  induction logical generalizing index rewrapping with
  | nil =>
    rw [madeRows, flatMap_nil, append_nil]
    rfl
  | cons source rest ih =>
    rw [length_cons] at elsewhere
    rw [rewrapAll_cons, if_neg (by omega), source.rewrap_none wide, ih (by omega), madeRows_cons,
      append_assoc]

omit wide in
theorem rewrapAll_append (before after : List LogicalLine) (index : Nat) (rewrapping : Rewrapping) :
    (rewrapAll width bound cursorLogical cursorOffset (before ++ after) index rewrapping).value =
      (rewrapAll width bound cursorLogical cursorOffset after (index + before.length)
        (rewrapAll width bound cursorLogical cursorOffset before index
          rewrapping).value).value := by
  induction before generalizing index rewrapping with
  | nil => rfl
  | cons source rest ih =>
    rw [cons_append, length_cons, Nat.add_comm rest.length, ← Nat.add_assoc,
      rewrapAll_cons, ih, rewrapAll_cons]

theorem value_rewrapAll {before after : List LogicalLine} {source : LogicalLine}
    (uncut : source.rowCount width ≤ bound + 1) :
    (rewrapAll width bound before.length cursorOffset (before ++ source :: after) 0 {}).value =
      { lines := madeRows width bound (before ++ source :: after)
        cursorRow :=
          ((madeRows width bound before).length + source.rowOf width cursorOffset : Nat)
        cursorColumn := source.columnOf width cursorOffset } := by
  have hbefore := rewrapAll_elsewhere wide bound cursorOffset
    (.inr (Nat.le_of_eq (Nat.zero_add before.length))) {}
  rw [rewrapAll_append, hbefore, rewrapAll_cons, if_pos (Nat.zero_add _),
    source.rewrap_some wide uncut, rewrapAll_elsewhere wide bound cursorOffset (.inl (by omega)),
    nil_append, madeRows_append, madeRows_cons, append_assoc]

end

end Hypeterm.Term
