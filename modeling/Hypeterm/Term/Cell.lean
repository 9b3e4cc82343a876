import Hypeterm.Library.Checked
import Mathlib.Data.List.DropRight

/-! The cells and rows of the phone's terminal grid. -/
namespace Hypeterm.Term
open Library List

inductive Color where
  | default
  | indexed (index : UInt8)
  | rgb (red green blue : UInt8)
  deriving DecidableEq

def flagBold : UInt16 := 1
def flagFaint : UInt16 := 2
def flagItalic : UInt16 := 4
def flagUnderline : UInt16 := 8
def flagDoubleUnderline : UInt16 := 16
def flagCurlyUnderline : UInt16 := 32
def flagBlink : UInt16 := 64
def flagRapidBlink : UInt16 := 128
def flagInverse : UInt16 := 256
def flagConceal : UInt16 := 512
def flagStrike : UInt16 := 1024
def flagOverline : UInt16 := 2048

def flagHasMarks : UInt16 := 4096

def flagAnyUnderline : UInt16 := flagUnderline ||| flagDoubleUnderline ||| flagCurlyUnderline

structure Pen where
  fg : Color := .default
  bg : Color := .default
  underlineColor : Color := .default
  flags : UInt16 := 0
  deriving DecidableEq

def space : Nat := 0x20

/-- Code 0 marks the continuation half of a double-width character. -/
structure Cell where
  code : Nat := space
  fg : Color := .default
  bg : Color := .default
  underlineColor : Color := .default
  flags : UInt16 := 0
  width : Nat := 1
  deriving DecidableEq

instance : Inhabited Cell := ⟨{}⟩

namespace Cell

def isContinuation (cell : Cell) : Bool := cell.code == 0

def hasMarks (cell : Cell) : Bool := cell.flags &&& flagHasMarks != 0

def clearHasMarks (cell : Cell) : Cell := { cell with flags := cell.flags &&& ~~~flagHasMarks }

/-- What trimming takes for blank: the continuation half of a wide character too. -/
def isBlank (cell : Cell) : Bool :=
  (cell.code == space || cell.code == 0) && cell.bg == .default &&
    cell.flags &&& ~~~flagHasMarks == 0 && !cell.hasMarks

end Cell

/-- Erasing keeps the colours but of the attributes only inverse and blink. -/
def blankCell (pen : Pen) : Cell where
  code := space
  fg := pen.fg
  bg := pen.bg
  underlineColor := pen.underlineColor
  flags := pen.flags &&& (flagInverse ||| flagBlink)
  width := 1

/-- Each entry is a column with the combining marks of its cell. -/
abbrev Marks := List (Nat × List Nat)

def maxMarksPerCell : Nat := 8

structure Line where
  cells : List Cell
  marks : Marks := []
  wrapped : Bool := false
  deriving DecidableEq

def mapRange {α : Type} (rewrite : α → α) (first last : Nat) (elements : List α) : List α :=
  elements.take first ++ ((elements.take last).drop first).map rewrite ++
    elements.drop (max first last)

@[simp] theorem length_mapRange {α : Type} (rewrite : α → α) (first last : Nat)
    (elements : List α) : (mapRange rewrite first last elements).length = elements.length := by
  simp only [mapRange, length_append, length_take, length_map, length_drop]
  omega

namespace Line

def new (columns : Nat) (blank : Cell) : Line := { cells := List.replicate columns blank }

instance : Inhabited Line := ⟨{ cells := [] }⟩

def size (line : Line) : Nat := line.cells.length

def cellAt (line : Line) (column : Int) : Checked Cell := Checked.get line.cells column

def setCellAt (line : Line) (column : Int) (cell : Cell) : Checked Line := do
  let cells ← Checked.put line.cells column cell
  pure { line with cells }

def marksAt (line : Line) (column : Nat) : Option (List Nat) :=
  (line.marks.find? fun entry => entry.1 == column).map Prod.snd

/-- Into the first entry of the column, while it has room. -/
def pushMark (column mark : Nat) : Marks → Marks
  | [] => []
  | entry :: rest =>
      if entry.1 = column then
        if entry.2.length < maxMarksPerCell then (entry.1, entry.2 ++ [mark]) :: rest
        else entry :: rest
      else entry :: pushMark column mark rest

def addMark (line : Line) (column mark : Nat) : Line :=
  if line.size ≤ column then line
  else if line.marks.any fun entry => entry.1 == column then
    { line with marks := pushMark column mark line.marks }
  else if line.size ≤ line.marks.length then line
  else
    { line with
      marks := line.marks ++ [(column % 65536, [mark])]
      cells := line.cells.modify column fun cell =>
        { cell with flags := cell.flags ||| flagHasMarks } }

def clearMarks (line : Line) (column : Nat) : Line :=
  { line with
    marks := line.marks.eraseP fun entry => entry.1 == column
    cells := line.cells.modify column Cell.clearHasMarks }

def clearMarksInRange (line : Line) (first last : Nat) : Line :=
  { line with
    marks := line.marks.filter fun entry => !(first ≤ entry.1 && entry.1 < last)
    cells := mapRange Cell.clearHasMarks first last line.cells }

/-- Entries from column `start` on move by `delta`; those that leave the row are dropped. -/
def shiftMarks (line : Line) (start : Nat) (delta : Int) (limit : Nat) : Line :=
  { line with
    marks := line.marks.filterMap fun entry =>
      if entry.1 < start then some entry
      else
        let moved := (entry.1 : Int) + delta
        if moved < 0 ∨ (limit : Int) ≤ moved then none else some (moved.toNat % 65536, entry.2) }

/-- A wide character whose second half is cut off becomes a space. -/
def resize (line : Line) (columns : Nat) (blank : Cell) : Line :=
  let line :=
    if columns < line.size then
      let line :=
        if 0 < columns ∧ (line.cells.getD (columns - 1) default).width = 2 then
          { line with
            cells := line.cells.modify (columns - 1) fun cell =>
              Cell.clearHasMarks { cell with code := space, width := 1 } }
        else line
      line.clearMarksInRange columns line.size
    else line
  { line with cells := line.cells.take columns ++ List.replicate (columns - line.size) blank }

def fill (line : Line) (blank : Cell) : Line := new line.size blank

def fillRange (line : Line) (first last : Nat) (blank : Cell) : Line :=
  let last := min last line.size
  if last ≤ first then line
  else
    clearMarksInRange { line with cells := mapRange (fun _ => blank) first last line.cells }
      first last

def trimmedLength (line : Line) : Nat := (line.cells.rdropWhile Cell.isBlank).length

variable {line : Line}

@[simp] theorem size_new (columns : Nat) (blank : Cell) : (new columns blank).size = columns :=
  length_replicate

@[simp] theorem size_addMark (column mark : Nat) : (line.addMark column mark).size = line.size := by
  unfold addMark
  repeat' split
  all_goals simp [size]

@[simp] theorem size_clearMarks (column : Nat) : (line.clearMarks column).size = line.size := by
  simp [clearMarks, size]

@[simp] theorem size_clearMarksInRange (first last : Nat) :
    (line.clearMarksInRange first last).size = line.size := by
  simp [clearMarksInRange, size]

@[simp] theorem size_shiftMarks (start : Nat) (delta : Int) (limit : Nat) :
    (line.shiftMarks start delta limit).size = line.size := rfl

@[simp] theorem size_fill (blank : Cell) : (line.fill blank).size = line.size := size_new _ _

@[simp] theorem size_fillRange (first last : Nat) (blank : Cell) :
    (line.fillRange first last blank).size = line.size := by
  simp only [fillRange]
  split
  · rfl
  · rw [size_clearMarksInRange]
    simp only [size, length_mapRange]

@[simp] theorem size_resize (columns : Nat) (blank : Cell) :
    (line.resize columns blank).size = columns := by
  simp only [resize, size, length_append, length_take, length_replicate]
  omega

theorem trimmedLength_le : line.trimmedLength ≤ line.size :=
  ( rdropWhile_prefix _ _).length_le

end Line

end Hypeterm.Term
