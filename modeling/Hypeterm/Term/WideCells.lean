import Hypeterm.Library.Tiling
import Hypeterm.Term.Screen
import Mathlib.Data.List.GetD

/-! Where the double-width characters of a row stand, and how the edits of a row keep both
halves of each together. -/
namespace Hypeterm.Term
open Library Checked List Option

/-- `torn` is a cell that no operation writes. -/
inductive Shape where
  | narrow
  | lead
  | tail
  | torn
  deriving DecidableEq

def Cell.shape (cell : Cell) : Shape :=
  if cell.code = 0 then if cell.width = 0 then .tail else .torn
  else if cell.width = 2 then .lead
  else .narrow

def shapeTiles : Pairing Shape where
  single shape := shape = .narrow
  first shape := shape = .lead
  second shape := shape = .tail
  single_not_first shape := by rintro rfl ⟨⟩
  single_not_second shape := by rintro rfl ⟨⟩
  first_not_second shape := by rintro rfl ⟨⟩

namespace Line

def shapes (line : Line) : List Shape := line.cells.map Cell.shape

/-- The row consists of narrow cells and whole wide characters. -/
def Whole (line : Line) : Prop := Tiled shapeTiles line.shapes

structure Paired (line : Line) : Prop where
  wide : ∀ column cell, line.cells[column]? = some cell →
    (cell.width = 2 ↔ ∃ next, line.cells[column + 1]? = some next ∧ next.code = 0 ∧ next.width = 0)
  continuation : ∀ column cell, line.cells[column]? = some cell → cell.isContinuation = true →
    ∃ before lead, column = before + 1 ∧ line.cells[before]? = some lead ∧ lead.width = 2

end Line

theorem Cell.shape_tail {cell : Cell} : cell.shape = .tail ↔ cell.code = 0 ∧ cell.width = 0 := by
  unfold shape
  split
  · split <;> simp_all
  · split <;> simp_all

theorem Cell.shape_lead {cell : Cell} : cell.shape = .lead ↔ cell.code ≠ 0 ∧ cell.width = 2 := by
  unfold shape
  split
  · split <;> simp_all
  · split <;> simp_all

namespace Line

variable {line : Line}

theorem getElem?_shapes (column : Nat) :
    line.shapes[column]? = (line.cells[column]?).map Cell.shape := getElem?_map

theorem Whole.not_torn (whole : line.Whole) {column : Nat} {cell : Cell}
    (here : line.cells[column]? = some cell) : cell.shape ≠ .torn := by
  intro htorn
  have hmem : cell.shape ∈ line.shapes := List.mem_map_of_mem (mem_of_getElem? here)
  rcases whole.kinds hmem with h | h | h
  all_goals
    rw [htorn] at h
    cases h

theorem Whole.shape_tail (whole : line.Whole) {column : Nat} {cell : Cell}
    (here : line.cells[column]? = some cell) : cell.shape = .tail ↔ cell.code = 0 := by
  have htorn := whole.not_torn here
  unfold Cell.shape at htorn ⊢
  split
  · rename_i hcode
    rw [if_pos hcode] at htorn
    split
    · simp [hcode]
    · rename_i hwidth
      exact absurd (if_neg hwidth) htorn
  · split <;> simp_all

theorem Whole.shape_lead (whole : line.Whole) {column : Nat} {cell : Cell}
    (here : line.cells[column]? = some cell) : cell.shape = .lead ↔ cell.width = 2 := by
  rw [Cell.shape_lead]
  refine ⟨And.right, fun hwidth => ⟨fun hcode => ?_, hwidth⟩⟩
  have htail := Cell.shape_tail.mp ((whole.shape_tail here).mpr hcode)
  omega

theorem Whole.paired (whole : line.Whole) : line.Paired where
  wide := by
    intro column cell hcell
    have hshape : line.shapes[column]? = some cell.shape := by
      rw [getElem?_shapes, hcell, map_some]
    rw [← whole.shape_lead hcell]
    refine (Tiled.first_iff whole hshape).trans ⟨?_, ?_⟩
    · rintro ⟨shape, hnext, rfl⟩
      rw [getElem?_shapes] at hnext
      obtain ⟨next, hcells, htail⟩ := map_eq_some_iff.mp hnext
      exact ⟨next, hcells, Cell.shape_tail.mp htail⟩
    · rintro ⟨next, hcells, htail⟩
      refine ⟨next.shape, ?_, Cell.shape_tail.mpr htail⟩
      rw [getElem?_shapes, hcells, map_some]
  continuation := by
    intro column cell hcell hcontinuation
    have hshape : line.shapes[column]? = some cell.shape := by
      rw [getElem?_shapes, hcell, map_some]
    have htail : cell.shape = .tail :=
      (whole.shape_tail hcell).mpr (by simpa [Cell.isContinuation] using hcontinuation)
    obtain ⟨before, shape, rfl, hbefore, hlead⟩ := Tiled.second_follows whole hshape htail
    rw [getElem?_shapes] at hbefore
    obtain ⟨lead, hcells, rfl⟩ := map_eq_some_iff.mp hbefore
    exact ⟨before, lead, rfl, hcells, (Cell.shape_lead.mp hlead).2⟩

theorem shape_clearHasMarks (cell : Cell) : cell.clearHasMarks.shape = cell.shape := rfl

theorem length_shapes : line.shapes.length = line.size := length_map _

theorem getD_shapes (column : Nat) :
    (line.cells.getD column default).shape = line.shapes.getD column .narrow := by
  rw [shapes, ← List.getD_map (f := Cell.shape)]
  rfl

theorem map_shape_modify {change : Cell → Cell} (same : ∀ cell, (change cell).shape = cell.shape)
    (cells : List Cell) (column : Nat) :
    (cells.modify column change).map Cell.shape = cells.map Cell.shape := by
  apply ext_getElem?
  intro index
  simp only [getElem?_map, getElem?_modify]
  split
  · cases cells[index]? with
    | none => rfl
    | some cell => simp [same]
  · simp

theorem map_shape_modify_set {change : Cell → Cell} {shape : Shape}
    (becomes : ∀ cell, (change cell).shape = shape) (cells : List Cell) (column : Nat) :
    (cells.modify column change).map Cell.shape = (cells.map Cell.shape).set column shape := by
  apply ext_getElem?
  intro index
  simp only [getElem?_map, getElem?_modify, getElem?_set, length_map]
  split
  · rename_i hindex
    subst hindex
    cases hcell : cells[column]? with
    | none => rw [if_neg (Nat.not_lt.mpr (List.getElem?_eq_none_iff.mp hcell))]; rfl
    | some cell => rw [if_pos (List.getElem?_eq_some_iff.mp hcell).1]; simp [becomes]
  · simp

theorem take_middle_drop {α : Type} (elements : List α) (first last : Nat) :
    elements.take first ++ (elements.take last).drop first ++ elements.drop (max first last) =
      elements := by
  by_cases hordered : first ≤ last
  · have hfront : elements.take first = (elements.take last).take first := by
      rw [take_take, Nat.min_eq_left hordered]
    rw [hfront, take_append_drop, Nat.max_eq_right hordered, take_append_drop]
  · have hmiddle : (elements.take last).drop first = [] := by
      refine drop_eq_nil_of_le ?_
      rw [length_take]
      omega
    rw [hmiddle, append_nil, Nat.max_eq_left (by omega), take_append_drop]

theorem map_shape_mapRange {change : Cell → Cell} (same : ∀ cell, (change cell).shape = cell.shape)
    (cells : List Cell) (first last : Nat) :
    (mapRange change first last cells).map Cell.shape = cells.map Cell.shape := by
  have hmap : (((cells.take last).drop first).map change).map Cell.shape =
      ((cells.take last).drop first).map Cell.shape := by
    rw [List.map_map]
    exact map_congr_left fun cell _ => same cell
  rw [mapRange, map_append, map_append, hmap, ← map_append, ← map_append, take_middle_drop]

@[simp] theorem shapes_clearMarks (column : Nat) : (line.clearMarks column).shapes = line.shapes :=
  map_shape_modify shape_clearHasMarks _ _

@[simp] theorem shapes_clearMarksInRange (first last : Nat) :
    (line.clearMarksInRange first last).shapes = line.shapes :=
  map_shape_mapRange shape_clearHasMarks _ _ _

@[simp] theorem shapes_shiftMarks (start : Nat) (delta : Int) (limit : Nat) :
    (line.shiftMarks start delta limit).shapes = line.shapes := rfl

@[simp] theorem shapes_addMark (column mark : Nat) :
    (line.addMark column mark).shapes = line.shapes := by
  unfold addMark
  split
  · rfl
  split
  · rfl
  split
  · rfl
  · exact @map_shape_modify (fun cell => { cell with flags := cell.flags ||| flagHasMarks })
      (fun _ => rfl) _ _

@[simp] theorem shapes_setCellAt (column : Int) (cell : Cell) :
    (line.setCellAt column cell).value.shapes = line.shapes.set column.toNat cell.shape :=
  map_set

theorem shapes_new (columns : Nat) (blank : Cell) :
    (new columns blank).shapes = List.replicate columns blank.shape := map_replicate

theorem shapes_fillRange (first last : Nat) (blank : Cell) :
    (line.fillRange first last blank).shapes =
      if min last line.size ≤ first then line.shapes
      else line.shapes.take first ++
        List.replicate (min last line.size - first) blank.shape ++
          line.shapes.drop (min last line.size) := by
  unfold fillRange
  dsimp only
  split
  · rfl
  · rename_i hordered
    rw [shapes_clearMarksInRange]
    simp only [shapes, mapRange, map_append, map_take, map_drop, List.map_map]
    rw [Nat.max_eq_right (by omega)]
    congr 2
    simp only [Function.comp_def, map_const', take_replicate, drop_replicate, size]
    congr 1
    omega

theorem Whole.cut (whole : line.Whole) {column : Nat} (clean : line.shapes[column]? ≠ some .tail) :
    Tiled shapeTiles (line.shapes.take column) ∧ Tiled shapeTiles (line.shapes.drop column) := by
  refine Tiled.cut whole ?_
  rintro shape hshape rfl
  exact clean hshape

theorem tiled_narrow (count : Nat) : Tiled shapeTiles (List.replicate count .narrow) :=
  Tiled.replicate rfl count

theorem Whole.fillRange (whole : line.Whole) {first last : Nat} {blank : Cell}
    (narrow : blank.shape = .narrow) (left : line.shapes[first]? ≠ some .tail)
    (right : line.shapes[last]? ≠ some .tail) : (line.fillRange first last blank).Whole := by
  unfold Whole
  rw [shapes_fillRange, narrow]
  split
  · exact whole
  refine ((whole.cut left).1.append (tiled_narrow _)).append ?_
  rcases Nat.le_total last line.size with h | h
  · rw [Nat.min_eq_left h]
    exact (whole.cut right).2
  · rw [Nat.min_eq_right h, ← length_shapes, drop_length]
    exact .nil

theorem whole_new (columns : Nat) {blank : Cell} (narrow : blank.shape = .narrow) :
    (new columns blank).Whole := by
  unfold Whole
  rw [shapes_new, narrow]
  exact tiled_narrow _

theorem take_set_succ {elements : List Shape} {index : Nat} (shape : Shape)
    (inside : index < elements.length) :
    (elements.set index shape).take (index + 1) = elements.take index ++ [shape] := by
  rw [set_eq_take_append_cons_drop, if_pos inside, take_append, take_of_length_le]
  · rw [length_take, Nat.min_eq_left (Nat.le_of_lt inside), Nat.add_sub_cancel_left]
    rfl
  · rw [length_take]
    omega

theorem Whole.take_resize (whole : line.Whole) (column : Nat) : Tiled shapeTiles
      ((if line.shapes[column]? = some .lead then line.shapes.set column .narrow
        else line.shapes).take (column + 1)) := by
  split
  · rename_i hlead
    have hinside : column < line.shapes.length := (List.getElem?_eq_some_iff.mp hlead).1
    rw [take_set_succ _ hinside]
    refine (whole.cut ?_).1.append (tiled_narrow 1)
    rw [hlead]
    simp
  · rename_i hclean
    refine (whole.cut fun htail => hclean ?_).1
    obtain ⟨before, shape, hbefore, hshape, rfl⟩ := Tiled.second_follows whole htail rfl
    obtain rfl := Nat.succ.inj hbefore
    exact hshape

theorem shapes_append_replicate (cells : List Cell) (count : Nat) {blank : Cell}
    (narrow : blank.shape = .narrow) : (cells ++ List.replicate count blank).map Cell.shape =
      cells.map Cell.shape ++ List.replicate count .narrow := by
  rw [map_append, map_replicate, narrow]

theorem Whole.resize (whole : line.Whole) (columns : Nat) {blank : Cell}
    (narrow : blank.shape = .narrow) : (line.resize columns blank).Whole := by
  unfold Line.resize Whole shapes
  rw [shapes_append_replicate _ _ narrow, map_take]
  refine Tiled.append ?_ (tiled_narrow _)
  split
  · rename_i hshorter
    cases columns with
    | zero => exact .nil
    | succ column =>
      have hinside : column < line.cells.length := by
        simp only [size] at hshorter
        omega
      have hcell : line.cells[column]? = some line.cells[column] := getElem?_eq_getElem hinside
      have hlead : line.shapes[column]? = some .lead ↔ line.cells[column].width = 2 := by
        rw [getElem?_shapes, hcell, map_some, Option.some.injEq]
        exact whole.shape_lead hcell
      have hsplit := whole.take_resize column
      simp only [← shapes.eq_1, shapes_clearMarksInRange, Nat.add_sub_cancel,
        getD_eq_getElem _ _ hinside, Nat.succ_pos, true_and]
      by_cases hwide : line.cells[column].width = 2
      · rw [if_pos (hlead.mpr hwide)] at hsplit
        rw [shapes, ← map_shape_modify_set
          (by intro cell; rfl : ∀ cell : Cell,
            (Cell.clearHasMarks { cell with code := space, width := 1 }).shape = .narrow)] at hsplit
        rw [if_pos hwide]
        exact hsplit
      · rw [if_neg fun h => hwide (hlead.mp h)] at hsplit
        rw [if_neg hwide]
        exact hsplit
  · rename_i hlonger
    rw [take_of_length_le]
    · exact whole
    · rw [length_map]
      simp only [size] at hlonger
      omega

end Line

theorem Cell.shape_narrow {cell : Cell} : cell.shape = .narrow ↔ cell.code ≠ 0 ∧ cell.width ≠ 2 := by
  unfold shape
  split
  · split <;> simp_all
  · split <;> simp_all

/-- What is left around a column whose cell is about to be overwritten. -/
structure Opened (before : List Shape) (column : Nat) (front : List Shape) (shape : Shape)
    (back : List Shape) : Prop where
  place : front.length = column
  left : Tiled shapeTiles front
  right : Tiled shapeTiles back
  kind : shape = .narrow ∨ shape = .lead ∧ before[column]? = some .lead
  length : (front ++ shape :: back).length = before.length
  after : ∀ index, column + 2 ≤ index → (front ++ shape :: back)[index]? = before[index]?

theorem getElem?_past {front back : List Shape} {one two : Shape} {index : Nat}
    (past : front.length + 2 ≤ index) :
    (front ++ one :: two :: back)[index]? = back[index - (front.length + 2)]? := by
  obtain ⟨rest, rfl⟩ := Nat.exists_eq_add_of_le past
  rw [getElem?_append_right (by omega), Nat.add_sub_cancel_left,
    (by omega : front.length + 2 + rest - front.length = rest + 1 + 1), getElem?_cons_succ,
    getElem?_cons_succ]

theorem set_second {start front back : List Shape} {one two : Shape} (shape : Shape) :
    (start ++ (front ++ one :: two :: back)).set (start.length + front.length + 1) shape =
      start ++ (front ++ one :: shape :: back) := by
  rw [set_append_right _ _ (by omega), set_append_right _ _ (by omega),
    (by omega : start.length + front.length + 1 - start.length - front.length = 1)]
  rfl

theorem set_first {start front back : List Shape} {one : Shape} (shape : Shape) :
    (start ++ (front ++ one :: back)).set (start.length + front.length) shape =
      start ++ (front ++ shape :: back) := by
  rw [set_append_right _ _ (by omega), set_append_right _ _ (by omega),
    (by omega : start.length + front.length - start.length - front.length = 0)]
  rfl

/-- The row after `clearWideCharAt`, by the kind of the cell at the column.  What stands before
`start` need not be whole. -/
theorem shapes_clearWideCharAt {line : Line} {start rest : List Shape} {columns : Int}
    (shapes : line.shapes = start ++ rest) (tiled : Tiled shapeTiles rest) {column : Nat}
    (inside : column < rest.length) (width : columns = line.shapes.length) :
    ∃ front shape back, Opened rest column front shape back ∧
      (Screen.clearWideCharAt columns line ((start.length + column : Nat) : Int)).value.shapes =
        start ++ (front ++ shape :: back) := by
  have hcolumns : columns = ((start.length + rest.length : Nat) : Int) := by
    rw [width, shapes, length_append]
  have hshape {index : Nat} {shape : Shape} (here : rest[index]? = some shape) :
      (line.cellAt ((start.length + index : Nat) : Int)).value.shape = shape := by
    rw [Line.cellAt, value_get, Int.toNat_natCast, Line.getD_shapes, shapes,
      getD_append_right _ _ _ _ (Nat.le_add_right _ _), Nat.add_sub_cancel_left,
      getD_eq_getElem?_getD, here, getD_some]
  obtain ⟨front, back, hfront, hback, hplace⟩ := tiled.around inside
  unfold Screen.clearWideCharAt
  rw [if_neg (by omega), value_bind, value_bind]
  rcases hplace with ⟨shape, rfl, rfl, rfl⟩ | ⟨one, two, rfl, rfl, rfl, rfl | rfl⟩
  · -- A narrow cell: nothing to repair.
    obtain ⟨hcode, hwide⟩ := Cell.shape_narrow.mp
      (@hshape front.length .narrow (by simp))
    refine ⟨front, .narrow, back, ⟨rfl, hfront, hback, .inl rfl, rfl, fun _ _ => rfl⟩, ?_⟩
    rw [if_neg fun h => hcode (beq_iff_eq.mp h.1), if_neg fun h => hwide h.1]
    exact shapes
  · -- A lead: its second half becomes a space.
    obtain ⟨hcode, hwide⟩ := Cell.shape_lead.mp (@hshape front.length .lead (by simp))
    have hnext := Cell.shape_tail.mp (@hshape (front.length + 1) .tail (by simp))
    have hbound : (((start.length + front.length : Nat) : Int) + 1) < columns := by
      simp only [hcolumns, length_append, length_cons]
      omega
    refine ⟨front, .lead, .narrow :: back,
      ⟨rfl, hfront, .single rfl hback, .inr ⟨rfl, by simp⟩, by simp, ?_⟩, ?_⟩
    · intro index hindex
      rw [getElem?_past hindex, getElem?_past hindex]
    · have htail : (line.cellAt
          (int (((start.length + front.length : Nat) : Int) + 1)).value).value.isContinuation = true :=
        beq_iff_eq.mpr hnext.1
      rw [if_neg fun h => hcode (beq_iff_eq.mp h.1), if_pos ⟨hwide, hbound⟩, value_bind, value_bind,
        value_bind, value_pure, Line.shapes_clearMarks, if_pos htail, Line.shapes_setCellAt, shapes]
      exact set_second .narrow
  · -- A continuation: the character it belongs to becomes two spaces.
    obtain ⟨hcode, -⟩ := Cell.shape_tail.mp (@hshape (front.length + 1) .tail (by simp))
    obtain ⟨-, hwide⟩ := Cell.shape_lead.mp (@hshape front.length .lead (by simp))
    have hbefore : (((start.length + (front.length + 1) : Nat) : Int) - 1) =
        ((start.length + front.length : Nat) : Int) := by
      omega
    have hleft : Tiled shapeTiles (front ++ List.replicate 1 .narrow) :=
      hfront.append (Line.tiled_narrow 1)
    refine ⟨front ++ [.narrow], .narrow, back, ⟨by simp, hleft, hback, .inl rfl, by simp, ?_⟩, ?_⟩
    · intro index hindex
      rw [append_assoc, singleton_append, getElem?_past (by omega), getElem?_past (by omega)]
    · rw [if_pos ⟨beq_iff_eq.mpr hcode, by omega⟩, value_bind, value_bind, value_bind, value_int,
        hbefore, if_pos hwide, value_bind, value_bind, value_pure, Line.shapes_setCellAt,
        Line.shapes_clearMarks, Line.shapes_setCellAt, shapes]
      simp only [Int.toNat_natCast]
      rw [show Cell.shape _ = .narrow from rfl, set_first, ← Nat.add_assoc, set_second,
        append_assoc, singleton_append]
      rfl

namespace Line

variable {line : Line}

theorem Whole.clearWideCharAt (whole : line.Whole) {columns : Int} (width : columns = line.size)
    {column : Nat} (inside : column < line.size) :
    ∃ front shape back, Opened line.shapes column front shape back ∧
      (Screen.clearWideCharAt columns line column).value.shapes = front ++ shape :: back := by
  rw [← length_shapes] at width inside
  simpa using @shapes_clearWideCharAt line [] line.shapes columns rfl whole column inside width

theorem shape_writtenCell {pen : Pen} {codePoint : Nat} {width : Int} (drawn : codePoint ≠ 0)
    (written : width = 1 ∨ width = 2) : (Screen.writtenCell pen codePoint width).shape =
      if width = 2 then .lead else .narrow := by
  rcases written with rfl | rfl
  · exact Cell.shape_narrow.mpr ⟨drawn, (by decide : 1 ≠ 2)⟩
  · exact Cell.shape_lead.mpr ⟨drawn, rfl⟩

theorem Whole.writeCell (whole : line.Whole) {columns : Int} (size : columns = line.size)
    {pen : Pen} {codePoint : Nat} {width : Int} (drawn : codePoint ≠ 0)
    (written : width = 1 ∨ width = 2) {column : Nat}
    (inside : (column : Int) + width ≤ columns) :
    (Screen.writeCell columns pen codePoint width column line).value.Whole := by
  obtain ⟨front, shape, back, hopened, hcleared⟩ :=
    whole.clearWideCharAt size (by omega : column < line.size)
  have hlength : front.length + 1 + back.length = line.size := by
    rw [← length_shapes, ← hopened.length, length_append, length_cons]
    omega
  obtain rfl := hopened.place
  have hcell := @shape_writtenCell pen codePoint width drawn written
  unfold Screen.writeCell Whole
  rw [value_bind, value_bind, value_bind, value_bind, value_bind]
  rcases written with rfl | rfl
  · rw [if_neg (by decide)] at hcell
    have hnarrow : ¬((1 : Int) = 2 ∧ (int ((front.length : Int) + 1)).value < columns) :=
      fun h => absurd h.1 (by decide)
    rw [if_neg hnarrow, value_pure, shapes_setCellAt, shapes_clearMarks, if_neg (by decide),
      value_pure, hcleared, hcell, Int.toNat_natCast, set_append_right _ _ (Nat.le_refl _),
      Nat.sub_self]
    exact hopened.left.append (.single rfl hopened.right)
  · rw [if_pos rfl] at hcell
    have hwide : (2 : Int) = 2 ∧ (int ((front.length : Int) + 1)).value < columns :=
      ⟨rfl, by simp only [value_int]; omega⟩
    have hroom : 0 < back.length := by omega
    have hline : ((Screen.clearWideCharAt columns line (front.length : Int)).value).shapes =
        (front ++ [shape]) ++ back := by
      rw [hcleared, append_assoc, singleton_append]
    have hsize : columns =
        ((Screen.clearWideCharAt columns line (front.length : Int)).value.shapes.length : Int) := by
      rw [hcleared, hopened.length, length_shapes, size]
    obtain ⟨front', shape', back', hopened', hcleared'⟩ :=
      shapes_clearWideCharAt hline hopened.right hroom hsize
    have hnext : (int ((front.length : Int) + 1)).value =
        (((front ++ [shape]).length + 0 : Nat) : Int) := by
      rw [length_append]
      rfl
    obtain rfl := length_eq_zero_iff.mp hopened'.place
    rw [if_pos hwide, value_bind, shapes_setCellAt, shapes_clearMarks, shapes_setCellAt,
      shapes_clearMarks, if_pos rfl, hnext, hcleared', hcell]
    rw [Int.toNat_natCast, Int.toNat_natCast, nil_append, append_assoc, singleton_append,
      set_append_right _ _ (Nat.le_refl _), Nat.sub_self, set_cons_zero, length_append,
      length_singleton, Nat.add_zero, set_append_right _ _ (Nat.le_add_right _ 1),
      Nat.add_sub_cancel_left, set_cons_succ, set_cons_zero]
    exact hopened.left.append (.pair rfl rfl hopened'.right)

end Line

namespace Opened

variable {before front back : List Shape} {column : Nat} {shape : Shape}

section

variable (opened : Opened before column front shape back)
include opened

theorem take_column : (front ++ shape :: back).take column = front := by
  rw [← opened.place, take_left]

theorem drop_succ (index : Nat) :
    (front ++ shape :: back).drop (column + 1 + index) = back.drop index := by
  rw [← opened.place, drop_append, drop_eq_nil_of_le (by omega), nil_append,
    (by omega : front.length + 1 + index - front.length = index + 1), drop_succ_cons]

theorem back_clean {index : Nat} (clean : index = 0 ∨ before[column + 1 + index]? ≠ some .tail) :
    ∀ other ∈ back[index]?, ¬shapeTiles.second other := by
  rintro other hother rfl
  cases index with
  | zero =>
    rw [mem_def, ← head?_eq_getElem?] at hother
    exact opened.right.head_not_second hother rfl
  | succ index =>
    rcases clean with hzero | hclean
    · cases hzero
    refine hclean ?_
    have hafter := opened.after (column + 1 + (index + 1)) (by omega)
    rw [← hafter, ← opened.place, getElem?_append_right (by omega),
      (by omega : front.length + 1 + (index + 1) - front.length = index + 1 + 1),
      getElem?_cons_succ]
    exact hother

end

end Opened

namespace Line

variable {line : Line}

theorem fillRange_opened {before front back : List Shape} {column : Nat} {shape : Shape}
    (opened : Opened before column front shape back) (shapes : line.shapes = front ++ shape :: back)
    (rest : Nat) {blank : Cell} (narrow : blank.shape = .narrow)
    (clean : rest = 0 ∨ before[column + 1 + rest]? ≠ some .tail) :
    (line.fillRange column (column + 1 + rest) blank).Whole := by
  have hsize : front.length + 1 + back.length = line.size := by
    rw [← length_shapes, shapes, length_append, length_cons]
    omega
  have hplace := opened.place
  unfold Whole
  rw [shapes_fillRange, if_neg (by omega), narrow, shapes, opened.take_column]
  refine (opened.left.append (tiled_narrow _)).append ?_
  rw [(by omega : min (column + 1 + rest) line.size = column + 1 + min rest back.length),
    opened.drop_succ]
  rcases Nat.le_total rest back.length with h | h
  · rw [Nat.min_eq_left h]
    exact (opened.right.cut (opened.back_clean clean)).2
  · rw [Nat.min_eq_right h, drop_length]
    exact .nil

theorem size_setCellAt (column : Int) (cell : Cell) :
    (line.setCellAt column cell).value.size = line.size := length_set

theorem getElem?_move {source column : Nat} (inside : column < line.size)
    (from_inside : source < line.size) (index : Nat) :
    (line.setCellAt (column : Int) (line.cellAt (source : Int)).value).value.cells[index]? =
      if column = index then line.cells[source]? else line.cells[index]? := by
  have hinside : column < line.cells.length := inside
  have hsource : source < line.cells.length := from_inside
  rw [setCellAt, value_bind, value_pure, value_put, getElem?_set, Int.toNat_natCast, if_pos hinside]
  refine if_congr Iff.rfl ?_ rfl
  rw [cellAt, value_get, Int.toNat_natCast, getD_eq_getElem _ _ hsource,
    getElem?_eq_getElem hsource]

/-- Cells move right by `count`, the last one first. -/
theorem getElem?_forDown {count : Nat} (positive : 1 ≤ count) (rounds : Nat) {line : Line}
    {start : Nat} (inside : start < line.size) (room : rounds + count ≤ start + 1) (index : Nat) :
    (forDown (fun column (line : Line) => do
      let source ← int (column - (count : Int))
      let cell ← line.cellAt source
      line.setCellAt column cell) rounds (start : Int) line).value.cells[index]? =
      if start < index + rounds ∧ index ≤ start then line.cells[index - count]?
      else line.cells[index]? := by
  induction rounds generalizing line start with
  | zero =>
    rw [if_neg (by omega)]
    rfl
  | succ rounds ih =>
    obtain ⟨start, rfl⟩ : ∃ before, start = before + 1 := ⟨start - 1, by omega⟩
    have hsource : ((start + 1 : Nat) : Int) - (count : Int) = ((start + 1 - count : Nat) : Int) := by
      omega
    have hnext : ((start + 1 : Nat) : Int) - 1 = (start : Int) := by
      omega
    unfold forDown
    rw [value_bind, value_bind, value_bind, value_bind, value_int, value_int, hsource, hnext,
      ih (by rw [size_setCellAt]; omega) (by omega)]
    simp only [getElem?_move inside (by omega : start + 1 - count < line.size)]
    split
    · rename_i hmoved
      rw [if_neg (by omega), if_pos (by omega)]
    · rename_i hkept
      by_cases hlast : start + 1 = index
      · rw [if_pos hlast, if_pos (by omega), hlast]
      · rw [if_neg hlast, if_neg (by omega)]

/-- Cells move left by `count`, the first one first. -/
theorem getElem?_forUp {count : Nat} (positive : 1 ≤ count) (rounds : Nat) {line : Line}
    {start : Nat} (room : start + rounds + count ≤ line.size) (index : Nat) :
    (forUp (fun column (line : Line) => do
      let source ← int (column + (count : Int))
      let cell ← line.cellAt source
      line.setCellAt column cell) rounds (start : Int) line).value.cells[index]? =
      if start ≤ index ∧ index < start + rounds then line.cells[index + count]?
      else line.cells[index]? := by
  induction rounds generalizing line start with
  | zero =>
    rw [if_neg (by omega)]
    rfl
  | succ rounds ih =>
    have hsource : (start : Int) + (count : Int) = ((start + count : Nat) : Int) := by
      omega
    have hnext : (start : Int) + 1 = ((start + 1 : Nat) : Int) := by
      omega
    unfold forUp
    rw [value_bind, value_bind, value_bind, value_bind, value_int, value_int, hsource, hnext,
      ih (by rw [size_setCellAt]; omega)]
    simp only [getElem?_move (by omega : start < line.size) (by omega : start + count < line.size)]
    split
    · rename_i hmoved
      rw [if_neg (by omega), if_pos (by omega)]
    · rename_i hkept
      by_cases hfirst : start = index
      · rw [if_pos hfirst, if_pos (by omega), hfirst]
      · rw [if_neg hfirst, if_neg (by omega)]

theorem getElem?_shapes_forDown {count : Nat} (positive : 1 ≤ count) (rounds : Nat) {line : Line}
    {start : Nat} (inside : start < line.size) (room : rounds + count ≤ start + 1) (index : Nat) :
    (forDown (fun column (line : Line) => do
      let source ← int (column - (count : Int))
      let cell ← line.cellAt source
      line.setCellAt column cell) rounds (start : Int) line).value.shapes[index]? =
      if start < index + rounds ∧ index ≤ start then line.shapes[index - count]?
      else line.shapes[index]? := by
  rw [getElem?_shapes, getElem?_forDown positive rounds inside room, apply_ite (Option.map _),
    getElem?_shapes, getElem?_shapes]

theorem getElem?_shapes_forUp {count : Nat} (positive : 1 ≤ count) (rounds : Nat) {line : Line}
    {start : Nat} (room : start + rounds + count ≤ line.size) (index : Nat) :
    (forUp (fun column (line : Line) => do
      let source ← int (column + (count : Int))
      let cell ← line.cellAt source
      line.setCellAt column cell) rounds (start : Int) line).value.shapes[index]? =
      if start ≤ index ∧ index < start + rounds then line.shapes[index + count]?
      else line.shapes[index]? := by
  rw [getElem?_shapes, getElem?_forUp positive rounds room, apply_ite (Option.map _),
    getElem?_shapes, getElem?_shapes]

theorem length_of_moved {before after : List Shape} {moves : Nat → Prop} [DecidablePred moves]
    {source : Nat → Nat}
    (moved : ∀ index, after[index]? = if moves index then before[source index]? else before[index]?)
    (within : ∀ index, moves index → index < before.length ∧ source index < before.length) :
    after.length = before.length := by
  refine Nat.le_antisymm (List.getElem?_eq_none_iff.mp ?_) (Nat.not_lt.mp fun hshort => ?_)
  · rw [moved, if_neg fun hmoves => absurd (within _ hmoves).1 (Nat.lt_irrefl _)]
    exact List.getElem?_eq_none_iff.mpr (Nat.le_refl _)
  · have hnone : after[after.length]? = none := List.getElem?_eq_none_iff.mpr (Nat.le_refl _)
    rw [moved] at hnone
    split at hnone
    · rename_i hmoves
      exact absurd (List.getElem?_eq_none_iff.mp hnone) (Nat.not_le.mpr (within _ hmoves).2)
    · exact absurd (List.getElem?_eq_none_iff.mp hnone) (Nat.not_le.mpr hshort)

theorem fillRange_movedRight {before front back : List Shape} {column count : Nat} {shape : Shape}
    (opened : Opened before column front shape back) (positive : 1 ≤ count) {size : Nat}
    (length : before.length = size) (room : column + count ≤ size)
    (moved : ∀ index, line.shapes[index]? =
      if size - 1 < index + (size - column - count) ∧ index ≤ size - 1 then
        (front ++ shape :: back)[index - count]?
      else (front ++ shape :: back)[index]?)
    {blank : Cell} (narrow : blank.shape = .narrow)
    (clean : size - count ≤ column ∨
      before[column]? ≠ some .lead ∧ before[size - count]? ≠ some .tail) :
    (line.fillRange column (column + count) blank).Whole := by
  have hlength := opened.length.trans length
  have hplace := opened.place
  have hsize : line.size = size := by
    rw [← length_shapes, ← hlength]
    exact length_of_moved moved fun index _ => by omega
  have hfront : line.shapes.take column = front := by
    rw [← opened.take_column]
    refine ext_getElem? fun index => ?_
    rw [getElem?_take, getElem?_take]
    split
    · rw [moved, if_neg (by omega)]
    · rfl
  have hback : line.shapes.drop (column + count) = (shape :: back).take (size - count - column) := by
    refine ext_getElem? fun index => ?_
    rw [getElem?_drop, getElem?_take, moved]
    split
    · rw [if_pos (by omega), getElem?_append_right (by omega)]
      congr 1
      omega
    · rw [if_neg (by omega), List.getElem?_eq_none_iff, hlength]
      omega
  unfold Whole
  rw [shapes_fillRange, if_neg (by omega), narrow, hsize, Nat.min_eq_left room, hfront, hback]
  refine (opened.left.append (tiled_narrow _)).append ?_
  cases hkept : size - count - column with
  | zero => exact .nil
  | succ kept =>
    rcases clean with hclean | ⟨hlead, htail⟩
    · omega
    rcases opened.kind with rfl | ⟨-, hkind⟩
    · refine .single rfl (opened.right.cut (opened.back_clean (Or.inr ?_))).1
      rwa [(by omega : column + 1 + kept = size - count)]
    · exact absurd hkind hlead

theorem fillRange_movedLeft {before front back : List Shape} {column count : Nat} {shape : Shape}
    (opened : Opened before column front shape back) (positive : 1 ≤ count) {size : Nat}
    (length : before.length = size) (room : column + count ≤ size)
    (moved : ∀ index, line.shapes[index]? =
      if column ≤ index ∧ index < column + (size - column - count) then
        (front ++ shape :: back)[index + count]?
      else (front ++ shape :: back)[index]?)
    {blank : Cell} (narrow : blank.shape = .narrow)
    (clean : count = 1 ∨ before[column + count]? ≠ some .tail) :
    (line.fillRange (size - count) size blank).Whole := by
  have hlength := opened.length.trans length
  have hplace := opened.place
  have hsize : line.size = size := by
    rw [← length_shapes, ← hlength]
    exact length_of_moved moved fun index _ => by omega
  have hfront : line.shapes.take (size - count) = front ++ back.drop (count - 1) := by
    rw [← opened.drop_succ (count - 1), (by omega : column + 1 + (count - 1) = column + count)]
    refine ext_getElem? fun index => ?_
    rw [getElem?_take]
    split
    · rw [moved]
      by_cases hindex : column ≤ index
      · rw [if_pos (by omega), @List.getElem?_append_right _ front (List.drop _ _) _ (by omega),
          getElem?_drop]
        congr 1
        omega
      · rw [if_neg (by omega), getElem?_append_left (by omega), getElem?_append_left (by omega)]
    · rw [eq_comm, List.getElem?_eq_none_iff, length_append, length_drop, hlength]
      omega
  unfold Whole
  rw [shapes_fillRange, if_neg (by omega), narrow, hsize, Nat.min_self, hfront, ← hsize, ← length_shapes,
    drop_length, append_nil]
  refine (opened.left.append (opened.right.cut (opened.back_clean ?_)).2).append (tiled_narrow _)
  rcases clean with hone | hclean
  · exact .inl (by omega)
  · exact .inr (by rwa [(by omega : column + 1 + (count - 1) = column + count)])

end Line

end Hypeterm.Term
