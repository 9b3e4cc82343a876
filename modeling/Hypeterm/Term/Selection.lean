import Hypeterm.Library.TrimmedPieces
import Hypeterm.Term.Session
import Hypeterm.Term.Utf8Decoding

/-! The text that copying a selection gives.  Every row is trimmed by itself, also where its
line goes on. -/
namespace Hypeterm.Term
open Library Checked List

/-- The continuation half of a wide character adds nothing. -/
def appendCell (line : Line) (column : Nat) (out : Bytes) : Bytes :=
  let cell := line.cells.getD column default
  if cell.isContinuation then out
  else
    let out := appendUtf8 (if cell.code = 0 then space else cell.code) out
    match line.marksAt column with
    | none => out
    | some marks => marks.foldl (fun out mark => appendUtf8 mark out) out

def isSpace (byte : UInt8) : Bool := byte == 0x20

def lineText (line : Line) (first last : Nat) : Bytes :=
  let last := min last line.size
  let text := (range' first (last - first)).foldl (fun out column => appendCell line column out) []
  text.rdropWhile isSpace

def Snapshot.line (snapshot : Snapshot) (row : Int) : Option Line :=
  if row < 0 ∨ (snapshot.lines.length : Int) ≤ row then none else snapshot.lines[row.toNat]?

namespace Selection

def ordered (selection : Selection) : Selection :=
  if selection.endRow < selection.startRow ∨
      (selection.startRow = selection.endRow ∧ selection.endColumn < selection.startColumn) then
    { selection with
      startRow := selection.endRow
      startColumn := selection.endColumn
      endRow := selection.startRow
      endColumn := selection.startColumn }
  else selection

/-- The columns of a row that are copied, in 64 bits. -/
def rowColumns (selection : Selection) (startRow endRow row : Int) (line : Line) : Nat × Nat :=
  if selection.rectangular then
    ((max 0 (min selection.startColumn selection.endColumn)).toNat,
      ((max selection.startColumn selection.endColumn + 1) % 2 ^ 64).toNat)
  else
    (if row = startRow then (max 0 selection.startColumn).toNat else 0,
      if row = endRow then (max 0 selection.endColumn).toNat + 1 else line.size)

def appendRow (selection : Selection) (startRow endRow row : Int) (line : Line) (text : Bytes) :
    Bytes :=
  let columns := selection.rowColumns startRow endRow row line
  let text := text ++ lineText line columns.1 columns.2
  if row ≠ endRow ∧ (selection.rectangular = true ∨ line.wrapped = false) then text ++ [0x0A]
  else text

end Selection

def extractSelection (snapshot : Snapshot) : Bytes :=
  if snapshot.selection.active = false then []
  else
    let selection := snapshot.selection.ordered
    let startRow := max 0 selection.startRow
    let endRow := min selection.endRow (snapshot.rows - 1)
    (range' startRow.toNat (endRow + 1 - startRow).toNat).foldl (fun text (row : Nat) =>
      match snapshot.line row with
      | none => text
      | some line => selection.appendRow startRow endRow row line text) []

/-- A row that is stored without its blanks has them all the same. -/
def Line.columnText (line : Line) (column : Nat) : Bytes :=
  if column < line.size then appendCell line column [] else [0x20]

namespace Selection

/-- In reading order; a negative column counts as the first one. -/
def Covers (selection : Selection) (row : Int) (column : Nat) : Prop :=
  let selection := selection.ordered
  selection.startRow ≤ row ∧ row ≤ selection.endRow ∧
    (row = selection.startRow → max 0 selection.startColumn ≤ column) ∧
      (row = selection.endRow → column ≤ max 0 selection.endColumn)

instance (selection : Selection) (row : Int) (column : Nat) : Decidable (selection.Covers row column) :=
  inferInstanceAs (Decidable (_ ∧ _ ∧ (_ → _) ∧ (_ → _)))

def Takes (selection : Selection) (row : Int) (line : Line) (column : Nat) : Prop :=
  selection.Covers row column ∨
    (selection.Covers row (column + 1) ∧
      (line.cells[column + 1]?.map Cell.isContinuation) = some true)

instance (selection : Selection) (row : Int) (line : Line) (column : Nat) :
    Decidable (selection.Takes row line column) :=
  inferInstanceAs (Decidable (_ ∨ (_ ∧ _)))

def textBetween (selection : Selection) (row : Int) (line : Line) (first count : Nat) : Bytes :=
  ((range' first count).filter fun column => decide (selection.Takes row line column)).flatMap
    line.columnText

end Selection

namespace Snapshot

def width (snapshot : Snapshot) (line : Line) : Nat := max snapshot.columns.toNat line.size

def firstRow (snapshot : Snapshot) : Int := max 0 snapshot.selection.ordered.startRow

def lastRow (snapshot : Snapshot) : Int :=
  min snapshot.selection.ordered.endRow (snapshot.rows - 1)

def selectedRows (snapshot : Snapshot) : List Nat :=
  if snapshot.selection.active = false then []
  else range' snapshot.firstRow.toNat (snapshot.lastRow + 1 - snapshot.firstRow).toNat

def row (snapshot : Snapshot) (row : Nat) : Line := (snapshot.line row).getD default

def goesOn (snapshot : Snapshot) (row : Nat) : Bool := (snapshot.row row).wrapped

def rowText (snapshot : Snapshot) (row : Nat) : Bytes :=
  snapshot.selection.textBetween row (snapshot.row row) 0 (snapshot.width (snapshot.row row))

def selectedLines (snapshot : Snapshot) : List (List Nat) :=
  linesBy snapshot.goesOn snapshot.selectedRows

/-- All that is selected of the lines, without the blanks at their ends. -/
def selectedText (snapshot : Snapshot) : Bytes :=
  [0x0A].intercalate
    (snapshot.selectedLines.map fun rows => (rows.flatMap snapshot.rowText).rdropWhile isSpace)

/-- The same cells, selected in the other direction. -/
def reversed (snapshot : Snapshot) : Snapshot :=
  { snapshot with
    selection :=
      { snapshot.selection with
        startRow := snapshot.selection.endRow
        startColumn := snapshot.selection.endColumn
        endRow := snapshot.selection.startRow
        endColumn := snapshot.selection.startColumn } }

def columnsRead (snapshot : Snapshot) (row : Nat) : Nat × Nat :=
  snapshot.selection.ordered.rowColumns snapshot.firstRow snapshot.lastRow row (snapshot.row row)

def readRow (snapshot : Snapshot) (row : Nat) : Bytes :=
  lineText (snapshot.row row) (snapshot.columnsRead row).1 (snapshot.columnsRead row).2

def piece (snapshot : Snapshot) (row : Nat) : Piece UInt8 :=
  let line := snapshot.row row
  let first := min (snapshot.columnsRead row).1 (snapshot.width line)
  let last := max first (min (snapshot.columnsRead row).2 line.size)
  { front := snapshot.selection.textBetween row line 0 first
    text := snapshot.selection.textBetween row line first (last - first)
    back := snapshot.selection.textBetween row line last (snapshot.width line - last) }

end Snapshot

theorem foldl_appends {β : Type} {append : β → Bytes → Bytes}
    (appends : ∀ element out, append element out = out ++ append element []) (elements : List β)
    (out : Bytes) :
    elements.foldl (fun out element => append element out) out =
      out ++ elements.flatMap fun element => append element [] := by
  have hstep : (fun out element => append element out) = fun out element => out ++ append element [] := by
    funext out element
    exact appends element out
  rw [hstep, foldl_append_eq_append, flatMap_def]

theorem appendUtf8_eq (codePoint : Nat) (out : Bytes) :
    appendUtf8 codePoint out = out ++ appendUtf8 codePoint [] := by
  unfold appendUtf8
  simp only [nil_append]
  repeat' split
  all_goals rfl

theorem appendCell_eq (line : Line) (column : Nat) (out : Bytes) :
    appendCell line column out = out ++ appendCell line column [] := by
  unfold appendCell
  dsimp only
  split
  · rw [append_nil]
  rw [appendUtf8_eq _ out]
  cases line.marksAt column with
  | none => rfl
  | some marks =>
    dsimp only
    rw [foldl_appends appendUtf8_eq, foldl_appends appendUtf8_eq marks (appendUtf8 _ []),
      append_assoc]

theorem lineText_eq (line : Line) (first last : Nat) : lineText line first last =
      ((range' first (min last line.size - first)).flatMap line.columnText).rdropWhile
        isSpace := by
  unfold lineText
  dsimp only
  rw [foldl_appends (appendCell_eq line), nil_append]
  refine congrArg _ (flatMap_congr fun column member => ?_)
  have hinside := List.mem_range'_1.mp member
  rw [Line.columnText, if_pos (by omega)]

namespace Snapshot

variable {snapshot : Snapshot}

theorem rectangular_ordered (selection : Selection) :
    selection.ordered.rectangular = selection.rectangular := by
  unfold Selection.ordered
  split
  · rfl
  · rfl

theorem mem_selectedRows {row : Nat} :
    row ∈ snapshot.selectedRows ↔ snapshot.selection.active = true ∧
      snapshot.firstRow ≤ row ∧ (row : Int) ≤ snapshot.lastRow := by
  have hfirst : 0 ≤ snapshot.firstRow := Int.le_max_left _ _
  unfold selectedRows
  cases snapshot.selection.active with
  | false => simp
  | true =>
    rw [if_neg Bool.noConfusion, List.mem_range'_1]
    constructor
    · rintro ⟨hstart, hend⟩
      exact ⟨rfl, by omega, by omega⟩
    · rintro ⟨-, hstart, hend⟩
      omega

theorem textBetween_append (selection : Selection) (row : Int) (line : Line)
    (first count more : Nat) :
    selection.textBetween row line first count ++
        selection.textBetween row line (first + count) more =
      selection.textBetween row line first (count + more) := by
  unfold Selection.textBetween
  rw [← flatMap_append, ← filter_append, List.range'_append_1]

theorem whole_piece (row : Nat) : (snapshot.piece row).whole = snapshot.rowText row := by
  unfold piece Piece.whole rowText
  dsimp only
  generalize hfirst : min (snapshot.columnsRead row).1 (snapshot.width (snapshot.row row)) = first
  generalize hlast : max first (min (snapshot.columnsRead row).2 (snapshot.row row).size) = last
  have hwidth : (snapshot.row row).size ≤ snapshot.width (snapshot.row row) := Nat.le_max_right _ _
  have hfront := textBetween_append snapshot.selection row (snapshot.row row) 0 first (last - first)
  have hback := textBetween_append snapshot.selection row (snapshot.row row) 0 last
    (snapshot.width (snapshot.row row) - last)
  rw [Nat.zero_add, show first + (last - first) = last by omega] at hfront
  rw [Nat.zero_add,
    show last + (snapshot.width (snapshot.row row) - last) = snapshot.width (snapshot.row row) by
      omega] at hback
  rw [hfront, hback]

theorem covers_of_read (flowing : snapshot.selection.rectangular = false) {row column : Nat}
    (selected : row ∈ snapshot.selectedRows) (first : (snapshot.columnsRead row).1 ≤ column)
    (last : column < (snapshot.columnsRead row).2) : snapshot.selection.Covers row column := by
  obtain ⟨-, hstart, hend⟩ := mem_selectedRows.mp selected
  have hordered := (rectangular_ordered snapshot.selection).trans flowing
  unfold firstRow at hstart
  unfold lastRow at hend
  unfold columnsRead firstRow lastRow Selection.rowColumns at first last
  rw [hordered, if_neg Bool.false_ne_true] at first last
  dsimp only at first last
  refine ⟨by omega, by omega, fun hrow => ?_, fun hrow => ?_⟩
  · rw [if_pos (by omega)] at first
    omega
  · rw [if_pos (by omega)] at last
    omega

theorem kept_piece (flowing : snapshot.selection.rectangular = false) {row : Nat}
    (selected : row ∈ snapshot.selectedRows) :
    (snapshot.piece row).kept isSpace = snapshot.readRow row := by
  unfold readRow Piece.kept piece
  dsimp only
  rw [lineText_eq]
  have hwidth : (snapshot.row row).size ≤ snapshot.width (snapshot.row row) := Nat.le_max_right _ _
  by_cases hshort : (snapshot.columnsRead row).1 ≤ snapshot.width (snapshot.row row)
  · rw [Nat.min_eq_left hshort]
    have hcount : max (snapshot.columnsRead row).1
          (min (snapshot.columnsRead row).2 (snapshot.row row).size) -
        (snapshot.columnsRead row).1 =
        min (snapshot.columnsRead row).2 (snapshot.row row).size - (snapshot.columnsRead row).1 := by
      omega
    unfold Selection.textBetween
    rw [hcount, filter_eq_self.mpr]
    intro column member
    obtain ⟨hfirst, hlast⟩ := List.mem_range'_1.mp member
    exact decide_eq_true (Or.inl (covers_of_read flowing selected hfirst (by omega)))
  · rw [Nat.min_eq_right (by omega), show max (snapshot.width (snapshot.row row))
        (min (snapshot.columnsRead row).2 (snapshot.row row).size) -
          snapshot.width (snapshot.row row) = 0 by omega,
      show min (snapshot.columnsRead row).2 (snapshot.row row).size -
        (snapshot.columnsRead row).1 = 0 by omega]
    rfl

theorem line_of_selected (complete : snapshot.lines.length = snapshot.rows.toNat) {row : Nat}
    (selected : row ∈ snapshot.selectedRows) : snapshot.line row = some (snapshot.row row) := by
  obtain ⟨-, -, hend⟩ := mem_selectedRows.mp selected
  unfold lastRow at hend
  have hinside : row < snapshot.lines.length := by omega
  unfold Snapshot.row Snapshot.line
  rw [if_neg (by omega), Int.toNat_natCast, getElem?_eq_getElem hinside]
  rfl

theorem flatMap_rows {goesOn : Nat → Bool} (read : Nat → Bytes) {first count last : Nat}
    (ends : first + count = last + 1) :
    ((range' first count).flatMap fun row =>
        read row ++ if row ≠ last ∧ goesOn row = false then [0x0A] else []) =
      joinedBy goesOn [0x0A] read (range' first count) := by
  induction count generalizing first with
  | zero => rfl
  | succ count ih =>
    cases count with
    | zero =>
      have hlast : first = last := by omega
      simp [joinedBy, hlast]
    | succ count =>
      have hrest := @ih (first + 1) (by omega)
      have hother : first ≠ last := by omega
      rw [range'_succ, flatMap_cons, hrest, range'_succ, joinedBy_cons_cons]
      cases goesOn first with
      | false => simp [hother]
      | true => simp

theorem extractSelection_eq (flowing : snapshot.selection.rectangular = false)
    (complete : snapshot.lines.length = snapshot.rows.toNat) :
    extractSelection snapshot =
      joinedBy snapshot.goesOn [0x0A] snapshot.readRow snapshot.selectedRows := by
  have hbounds := @mem_selectedRows snapshot
  have hselected := @line_of_selected snapshot complete
  have hflow := (rectangular_ordered snapshot.selection).trans flowing
  have hfirst : 0 ≤ snapshot.firstRow := Int.le_max_left _ _
  unfold extractSelection selectedRows at *
  split
  · rfl
  rename_i hactive
  rw [if_neg hactive] at hbounds hselected
  change (range' snapshot.firstRow.toNat
    (snapshot.lastRow + 1 - snapshot.firstRow).toNat).foldl (fun text (row : Nat) =>
      match snapshot.line row with
      | none => text
      | some line =>
          snapshot.selection.ordered.appendRow snapshot.firstRow snapshot.lastRow row line text) [] =
    _
  have hstep (text : Bytes) (row : Nat)
      (member : row ∈ range' snapshot.firstRow.toNat
        (snapshot.lastRow + 1 - snapshot.firstRow).toNat) :
      (match snapshot.line row with
        | none => text
        | some line =>
            snapshot.selection.ordered.appendRow snapshot.firstRow snapshot.lastRow row line text) =
        text ++ (snapshot.readRow row ++
          if row ≠ snapshot.lastRow.toNat ∧ snapshot.goesOn row = false then [0x0A] else []) := by
    obtain ⟨-, hstart, hend⟩ := hbounds.mp member
    rw [hselected member]
    unfold Selection.appendRow
    rw [hflow]
    have hlast : (row : Int) ≠ snapshot.lastRow ↔ row ≠ snapshot.lastRow.toNat := by omega
    simp only [Bool.false_eq_true, false_or, hlast]
    unfold goesOn
    split
    · rw [append_assoc]
      rfl
    · rw [append_nil]
      rfl
  rw [foldl_ext _ _ _ hstep, ← flatMap_eq_foldl]
  by_cases hempty : snapshot.lastRow < snapshot.firstRow
  · rw [show (snapshot.lastRow + 1 - snapshot.firstRow).toNat = 0 by omega]
    rfl
  · exact flatMap_rows _ (by omega)

theorem ordered_reversed (snapshot : Snapshot) :
    snapshot.reversed.selection.ordered = snapshot.selection.ordered := by
  obtain ⟨columns, rows, lines, cursor, ⟨active, startRow, startColumn, endRow, endColumn,
    rectangular⟩⟩ := snapshot
  unfold reversed Selection.ordered
  dsimp only
  rcases lt_trichotomy startRow endRow with hrow | rfl | hrow
  · rw [if_pos (Or.inl hrow), if_neg (by omega)]
  · rcases lt_trichotomy startColumn endColumn with hcolumn | rfl | hcolumn
    · rw [if_pos (Or.inr ⟨rfl, hcolumn⟩), if_neg (by omega)]
    · rfl
    · rw [if_neg (by omega), if_pos (Or.inr ⟨rfl, hcolumn⟩)]
  · rw [if_neg (by omega), if_pos (Or.inl hrow)]

theorem extractSelection_reversed (snapshot : Snapshot) :
    extractSelection snapshot.reversed = extractSelection snapshot := by
  unfold extractSelection
  rw [ordered_reversed]
  rfl

end Snapshot

/-- Copying gives what is selected exactly if no row loses anything by being read and trimmed
on its own. -/
theorem extracted_iff (snapshot : Snapshot) (complete : snapshot.lines.length = snapshot.rows.toNat)
    (flowing : snapshot.selection.rectangular = false) :
    (extractSelection snapshot = snapshot.selectedText ∧
        extractSelection snapshot.reversed = snapshot.selectedText) ↔
      ∀ rows ∈ snapshot.selectedLines, Piece.Intact isSpace (rows.map snapshot.piece) := by
  have hkept : snapshot.selectedLines.map (fun rows => rows.flatMap snapshot.readRow) =
      snapshot.selectedLines.map
        fun rows => (rows.map snapshot.piece).flatMap (Piece.kept isSpace) := by
    refine map_congr_left fun rows member => ?_
    rw [flatMap_map]
    refine flatMap_congr fun row hrow => ?_
    exact (Snapshot.kept_piece flowing (mem_of_mem_linesBy member row hrow)).symm
  have hwhole : (fun rows : List Nat => (rows.flatMap snapshot.rowText).rdropWhile isSpace) =
      fun rows => ((rows.map snapshot.piece).flatMap Piece.whole).rdropWhile isSpace := by
    funext rows
    rw [flatMap_map]
    refine congrArg (rdropWhile isSpace) (flatMap_congr fun row _ => ?_)
    exact (Snapshot.whole_piece row).symm
  have htext : extractSelection snapshot = [0x0A].intercalate
      (snapshot.selectedLines.map fun rows =>
        (rows.map snapshot.piece).flatMap (Piece.kept isSpace)) := by
    rw [Snapshot.extractSelection_eq flowing complete, joinedBy_eq_intercalate, ← hkept]
    rfl
  rw [snapshot.extractSelection_reversed, and_self, htext, Snapshot.selectedText, hwhole]
  rw [intercalate_eq_iff fun rows => Piece.length_kept_line_le _]
  exact forall₂_congr fun rows _ => Piece.kept_line_eq_iff _

theorem Emulator.Reachable.complete_buildSnapshot {emulator : Emulator}
    (reachable : emulator.Reachable) (scrollOffset : Nat) (selection : Selection) :
    (emulator.buildSnapshot scrollOffset selection).lines.length =
      (emulator.buildSnapshot scrollOffset selection).rows.toNat := by
  obtain ⟨columns, rows, hsize, hfits⟩ := reachable.fitsGrid
  have hlength := hfits.active.grid.length
  have hheight := hfits.active.height
  unfold Emulator.buildSnapshot
  dsimp only
  rw [length_take, length_append]
  omega

def sampleSelection : Selection where
  active := true
  endRow := 1

/-- Four blanks before the wrap are lost. -/
theorem blanks_lost_at_wrap :
    let emulator := sampleEmulator [0x61, 0x62, 0x20, 0x20, 0x20, 0x20, 0x63]
    let snapshot := emulator.buildSnapshot 0 sampleSelection
    emulator.Reachable ∧ snapshot.selectedText = [0x61, 0x62, 0x20, 0x20, 0x20, 0x20, 0x63] ∧
      extractSelection snapshot = [0x61, 0x62, 0x63] :=
  ⟨reachable_sampleEmulator _, by decide, by decide⟩

/-- A wide character at the wrap, selected from its second half. -/
theorem extracted_iff_after_wrap :
    let snapshot := (sampleEmulator [0x61, 0x62, 0x63, 0x64, 0xE4, 0xB8, 0x80, 0x65]).buildSnapshot 0
      { sampleSelection with startColumn := 5 }
    (extractSelection snapshot = snapshot.selectedText ∧
        extractSelection snapshot.reversed = snapshot.selectedText) ↔
      ∀ rows ∈ snapshot.selectedLines, Piece.Intact isSpace (rows.map snapshot.piece) :=
  extracted_iff _ ((reachable_sampleEmulator _).complete_buildSnapshot _ _) rfl

end Hypeterm.Term
