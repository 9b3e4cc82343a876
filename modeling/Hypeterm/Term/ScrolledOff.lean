import Hypeterm.Term.Pairs
import Hypeterm.Term.WritingPosition

/-! What is left of a row that scrolls off the top, and what a screen shows again after it had
fewer rows for a while. -/
namespace Hypeterm.Term
open Library Checked List

namespace Line

variable {line : Line}

/-- The same text, but for blank cells at the end; those that are left are plain spaces. -/
structure ShownAs (line kept : Line) (length : Nat) : Prop where
  cells : kept.cells.take length = line.cells.take length
  blank : ∀ cell ∈ line.cells.drop length, cell.isBlank = true
  plain : ∀ cell ∈ kept.cells.drop length, cell = {}
  marks : ∀ column, column < length → kept.marksAt column = line.marksAt column

def trimsWhole (line : Line) : Bool :=
  line.size ≤ line.trimmedLength || line.trimmedLength == 0 ||
    (line.cells.getD (line.trimmedLength - 1) default).width != 2

theorem isBlank_of_mem_drop {cell : Cell} (member : cell ∈ line.cells.drop line.trimmedLength) :
    cell.isBlank = true := by
  have hrest : line.cells.rtakeWhile Cell.isBlank = line.cells.drop line.trimmedLength := by
    apply append_cancel_left
    exact rdropWhile_append_rtakeWhile.trans
      (prefix_iff_eq_append.mp ( rdropWhile_prefix _ _)).symm
  rw [← hrest] at member
  exact mem_rtakeWhile_imp member

theorem marksAt_clearMarksInRange_before {first last column : Nat} (before : column < first) :
    (line.clearMarksInRange first last).marksAt column = line.marksAt column := by
  unfold marksAt clearMarksInRange
  rw [find?_filter]
  congr 2
  funext entry
  by_cases hcolumn : entry.1 = column
  · simp [hcolumn, Nat.not_le.mpr before]
  · simp [hcolumn]

theorem take_clearMarksInRange (first last : Nat) :
    (line.clearMarksInRange first last).cells.take first = line.cells.take first := by
  apply ext_getElem?
  intro column
  rw [getElem?_take, getElem?_take]
  split
  · rename_i hbefore
    exact getElem?_mapRange_before hbefore
  · rfl

theorem resize_shorter {columns : Nat} (shorter : columns < line.size)
    (uncut : columns = 0 ∨ (line.cells.getD (columns - 1) default).width ≠ 2) (blank : Cell) :
    (line.resize columns blank).cells = line.cells.take columns ∧
      (line.resize columns blank).marks = (line.clearMarksInRange columns line.size).marks := by
  unfold resize
  dsimp only
  rw [if_pos shorter, if_neg (by omega), size_clearMarksInRange,
    Nat.sub_eq_zero_of_le (Nat.le_of_lt shorter), replicate_zero, append_nil,
    take_clearMarksInRange]
  exact ⟨rfl, rfl⟩

theorem resize_longer {columns : Nat} (longer : line.size ≤ columns) (blank : Cell) :
    line.resize columns blank =
      { line with cells := line.cells ++ List.replicate (columns - line.size) blank } := by
  unfold resize
  dsimp only
  rw [if_neg (Nat.not_lt.mpr longer), take_of_length_le longer]

theorem trimsWhole_cases (trims : line.trimsWhole = true) : line.size ≤ line.trimmedLength ∨
      (line.trimmedLength = 0 ∨ (line.cells.getD (line.trimmedLength - 1) default).width ≠ 2) := by
  unfold trimsWhole at trims
  rwa [Bool.or_eq_true, Bool.or_eq_true, decide_eq_true_iff, beq_iff_eq, bne_iff_ne, or_assoc]
    at trims

theorem shownAs_stored (trims : line.trimsWhole = true) :
    line.ShownAs (Scrollback.stored line) line.trimmedLength := by
  unfold Scrollback.stored
  split
  · rename_i hshorter
    have huncut := (trimsWhole_cases trims).resolve_left (Nat.not_le.mpr hshorter)
    obtain ⟨hcells, hmarks⟩ := resize_shorter hshorter huncut {}
    constructor
    · rw [hcells, take_take, Nat.min_self]
    · exact fun cell member => isBlank_of_mem_drop member
    · intro cell member
      rw [hcells, drop_take, Nat.sub_self, take_zero] at member
      cases member
    · intro column inside
      have hkept := @marksAt_clearMarksInRange_before line _ line.size column inside
      unfold marksAt at hkept ⊢
      rw [hmarks, hkept]
  · rename_i hfull
    constructor
    · rfl
    · exact fun cell member => isBlank_of_mem_drop member
    · intro cell member
      rw [drop_eq_nil_of_le (Nat.not_lt.mp hfull)] at member
      cases member
    · exact fun column _ => rfl

theorem ShownAs.refl (line : Line) : line.ShownAs line line.size where
  cells := rfl
  blank := by
    intro cell member
    rw [drop_eq_nil_of_le (Nat.le_refl line.size)] at member
    cases member
  plain := by
    intro cell member
    rw [drop_eq_nil_of_le (Nat.le_refl line.size)] at member
    cases member
  marks := fun column _ => rfl

theorem ShownAs.resize {kept : Line} {length columns : Nat} (shown : line.ShownAs kept length)
    (inside : length ≤ kept.size) (longer : kept.size ≤ columns) :
    line.ShownAs (kept.resize columns {}) length := by
  rw [resize_longer longer]
  constructor
  · rw [take_append_of_le_length inside]
    exact shown.cells
  · exact shown.blank
  · intro cell member
    rw [drop_append_of_le_length inside] at member
    rcases mem_append.mp member with hkept | hadded
    · exact shown.plain cell hkept
    · exact eq_of_mem_replicate hadded
  · exact shown.marks

theorem size_stored : (Scrollback.stored line).size = line.trimmedLength := by
  unfold Scrollback.stored
  split
  · exact size_resize _ _
  · rename_i hfull
    exact Nat.le_antisymm (Nat.not_lt.mp hfull) trimmedLength_le

theorem shownAs_restored {columns : Nat} (size : line.size = columns)
    (trims : line.trimsWhole = true) :
    line.ShownAs ((Scrollback.stored line).resize columns {}) line.trimmedLength := by
  apply (shownAs_stored trims).resize
  · rw [size_stored]
  · rw [size_stored, ← size]
    exact trimmedLength_le

theorem shownAs_new (blank : line.trimmedLength = 0) (columns : Nat) :
    line.ShownAs (new columns {}) 0 where
  cells := by rw [take_zero, take_zero]
  blank := fun cell member => isBlank_of_mem_drop (blank.symm ▸ member)
  plain := fun cell member => eq_of_mem_replicate (mem_of_mem_drop member)
  marks := fun column inside => absurd inside (Nat.not_lt_zero column)

end Line

namespace Scrollback

structure RoomFor (scrollback : Scrollback) (lines : List Line) : Prop where
  count : scrollback.lines.length + lines.length ≤ scrollback.limits.maxLines
  cost : scrollback.bytes + (lines.map fun line =>
    scrollback.limits.memoryBytes (stored line)).sum ≤ scrollback.limits.maxBytes

variable {scrollback : Scrollback}

theorem trim_eq_self (lines : scrollback.lines.length ≤ scrollback.limits.maxLines)
    (bytes : scrollback.bytes ≤ scrollback.limits.maxBytes) : scrollback.trim = scrollback := by
  obtain ⟨limits, kept, cost, evicted, pushed, revision⟩ := scrollback
  unfold trim
  cases kept with
  | nil => rfl
  | cons front rest =>
    dsimp only at lines bytes
    rw [length_cons] at lines
    unfold trimLines
    exact if_neg (by dsimp only; omega)

theorem lines_foldl_pushLine {lines : List Line} (room : scrollback.RoomFor lines) :
    (lines.foldl pushLine scrollback).lines = scrollback.lines ++ lines.map stored := by
  induction lines generalizing scrollback with
  | nil => exact (append_nil _).symm
  | cons line rest ih =>
    obtain ⟨hlines, hbytes⟩ := room
    rw [length_cons] at hlines
    rw [map_cons, sum_cons] at hbytes
    have hpushed : scrollback.pushLine line =
        { scrollback with
          bytes := scrollback.bytes + scrollback.limits.memoryBytes (stored line)
          lines := scrollback.lines ++ [stored line]
          pushed := scrollback.pushed + 1
          revision := scrollback.revision + 1 } := by
      apply trim_eq_self
      · dsimp only
        rw [length_append, length_singleton]
        omega
      · dsimp only
        omega
    rw [foldl_cons, hpushed, ih, map_cons, append_assoc, singleton_append]
    constructor
    · dsimp only
      rw [length_append, length_singleton]
      omega
    · dsimp only
      omega

end Scrollback

namespace Screen

variable {screen : Screen}

def pushedRows (screen : Screen) (rows : List Line) : Option Scrollback :=
  screen.sink.map fun sink => rows.foldl Scrollback.pushLine sink

theorem pushedRows_nil (screen : Screen) : screen.pushedRows [] = screen.sink := Option.map_id'

theorem pushedRows_append {next : Screen} {first second : List Line}
    (pushed : next.sink = screen.pushedRows first) :
    next.pushedRows second = screen.pushedRows (first ++ second) := by
  unfold pushedRows at *
  rw [pushed, Option.map_map]
  congr 1
  funext sink
  exact foldl_append.symm

theorem sink_pushRows (top : Nat) (rounds : Nat) (start : Nat) {screen : Screen}
    (inside : top + start + rounds ≤ screen.lines.length) :
    (forUp (fun i (screen : Screen) => do
      let row ← int (top + i)
      let line ← get screen.lines row
      pure (if true then screen.pushLine line else screen)) rounds start screen).value.sink =
      screen.pushedRows ((screen.lines.drop (top + start)).take rounds) := by
  induction rounds generalizing start screen with
  | zero => rw [take_zero, pushedRows_nil]; rfl
  | succ rounds ih =>
    have hline : (screen.lines.drop (top + start)).take (rounds + 1) =
        [screen.lines.getD (top + start) default] ++
          (screen.lines.drop (top + (start + 1))).take rounds := by
      rw [drop_eq_getElem_cons (by omega), take_succ_cons, getD_eq_getElem _ _ (by omega)]
      rfl
    have hrest := @ih (start + 1) (screen.pushLine (screen.lines.getD (top + start) default))
      (by unfold pushLine; dsimp only; omega)
    unfold forUp
    rw [value_bind, value_bind, value_bind, value_bind, value_int, value_get, value_int, value_pure,
      if_pos rfl, (by omega : ((top : Int) + start).toNat = top + start), ← Int.natCast_succ, hrest,
      hline]
    exact pushedRows_append rfl

theorem sink_pushNone (top : Int) (rounds : Nat) (screen : Screen) :
    (forUp (fun i (screen : Screen) => do
      let row ← int (top + i)
      let line ← get screen.lines row
      pure (if false then screen.pushLine line else screen)) rounds 0 screen).value.sink =
      screen.sink := by
  have hround (i : Int) (next : Screen) (kept : next.sink = screen.sink) : (do
      let row ← int (top + i)
      let line ← get next.lines row
      pure (if false then next.pushLine line else next) : Checked Screen).value.sink =
        screen.sink := kept
  exact @value_forUp_induction Screen _ (fun next => next.sink = screen.sink) hround _ _ _ rfl

def rowsScrolled (screen : Screen) (count : Int) : List Line :=
  if screen.scrollTop = 0 then screen.lines.take (clipped (screen.scrollBottom + 1) count).toNat
  else []

/-- The row that a line feed hands to the scrollback. -/
def rowsFed (screen : Screen) : List Line :=
  if screen.cursorRow = screen.scrollBottom then screen.rowsScrolled 1 else []

variable {columns rows : Int}

theorem sink_scrollRegionUp_false (top bottom count : Int) :
    (screen.scrollRegionUp top bottom count false).value.sink = screen.sink := by
  simp only [scrollRegionUp, value_ite, value_bind, value_pure]
  generalize (if _ < count then _ else count) = count
  split
  · rfl
  split
  · rfl
  · exact sink_pushNone top count.toNat screen

theorem Fits.sink_scrollRegionUp (fits : screen.Fits columns rows) (count : Int) :
    (screen.scrollRegionUp screen.scrollTop screen.scrollBottom (if count < 1 then 1 else count)
      (screen.scrollTop == 0)).value.sink = screen.pushedRows (screen.rowsScrolled count) := by
  have hregion := fits.region
  have hheight := fits.height
  have hlength := fits.grid.length
  unfold rowsScrolled
  by_cases htop : screen.scrollTop = 0
  · obtain ⟨hpositive, hroom⟩ :=
      one_le_clipped (by omega : 1 ≤ screen.scrollBottom + 1) count
    have hpushed := @sink_pushRows 0 (clipped (screen.scrollBottom + 1) count).toNat 0 screen
      (by omega)
    rw [if_pos htop, htop, beq_self_eq_true, Screen.scrollRegionUp, if_neg (by omega), value_bind, value_bind,
      value_int, value_int, Int.sub_zero]
    unfold clipped at *
    dsimp only at *
    generalize (if screen.scrollBottom + 1 < _ then _ else _) = clipped at *
    rw [if_neg (by omega)]
    exact hpushed
  · rw [if_neg htop, beq_false_of_ne htop, pushedRows_nil, sink_scrollRegionUp_false]

theorem Fits.sink_lineFeed (fits : screen.Fits columns rows) :
    screen.lineFeed.value.sink = screen.pushedRows screen.rowsFed := by
  have hscrolled := fits.sink_scrollRegionUp 1
  unfold Screen.lineFeed rowsFed
  rw [value_bind, value_bind, value_pure, value_ite, value_ite]
  split
  · exact hscrolled
  split
  · exact screen.pushedRows_nil.symm
  · exact screen.pushedRows_nil.symm

def endedRow (screen : Screen) : Screen :=
  (screen.mutableLine screen.cursorRow fun line => pure { line with wrapped := true }).value

/-- The rows that the wraps of a character hand over, the deferred one and that at the margin. -/
def rowsPut (screen : Screen) (width : Int) : List Line :=
  if width ≤ 0 then []
  else
    let next := screen.takePendingWrap.value
    (if screen.pendingWrap then screen.endedRow.rowsFed else []) ++
      if (width = 2 ∧ next.cursorColumn = next.columns - 1) ∧ next.autowrap then
        (next.blankAtMargin fun line => pure { line with wrapped := true }).value.rowsFed
      else []

def rowsRepeated (codePoint : Nat) (width : Int) : Nat → Screen → List Line
  | 0, _ => []
  | rounds + 1, screen =>
      screen.rowsPut width ++
        rowsRepeated codePoint width rounds (screen.putChar codePoint width).value

theorem sink_insertCharacters (count : Int) :
    (screen.insertCharacters count).value.sink = screen.sink := by
  simp only [insertCharacters, value_bind, value_ite, value_pure]
  repeat' split
  all_goals rfl

theorem sink_writeAtCursor (codePoint : Nat) (width : Int) :
    (screen.writeAtCursor codePoint width).value.sink = screen.sink := by
  obtain ⟨inserted, hkept, hvalue⟩ : ∃ inserted : Screen, inserted.sink = screen.sink ∧
      (if screen.insertMode then screen.insertCharacters width else pure screen).value = inserted := by
    refine ⟨_, ?_, rfl⟩
    split
    · exact sink_insertCharacters width
    · rfl
  unfold Screen.writeAtCursor
  rw [value_bind, hvalue]
  simp only [value_bind, value_ite, value_pure]
  split
  · exact hkept
  · exact hkept

variable (size : GridSize columns rows) (fits : screen.Fits columns rows)
include size fits

theorem Fits.sink_takePendingWrap : screen.takePendingWrap.value.sink =
    screen.pushedRows (if screen.pendingWrap then screen.endedRow.rowsFed else []) := by
  unfold Screen.takePendingWrap
  split
  · have hended := (fits.mutableLine fits.cursorRow fun line spans =>
      .pure (show Line.Spans columns { line with wrapped := true } from spans)).2
    have hhome : Fits columns rows { screen.endedRow with cursorColumn := 0 } := { hended with
      cursorColumn := ⟨Int.le_refl 0, Int.lt_of_lt_of_le Int.one_pos size.wide.1⟩ }
    exact hhome.sink_lineFeed
  · exact screen.pushedRows_nil.symm

theorem Fits.sink_putChar (codePoint : Nat) (width : Int) :
    (screen.putChar codePoint width).value.sink = screen.pushedRows (screen.rowsPut width) := by
  have htaken := fits.sink_takePendingWrap size
  have hnext := (fits.takePendingWrap size).2
  unfold Screen.putChar rowsPut
  dsimp only
  rw [value_ite]
  split
  · rw [pushedRows_nil]
    unfold Screen.addCombiningMark
    rw [value_ite, value_ite]
    repeat' split
    all_goals rfl
  rw [value_bind, value_bind, value_int, value_ite, value_ite]
  generalize (if screen.pendingWrap then screen.endedRow.rowsFed else []) = earlier at *
  generalize screen.takePendingWrap.value = next at *
  split
  · rename_i hmargin
    split
    · rename_i hwrap
      have hblanked := (hnext.blankAtMargin size fun line spans =>
        .pure (show Line.Spans columns { line with wrapped := true } from spans)).2
      have hhome : Fits columns rows { (next.blankAtMargin fun line =>
          pure { line with wrapped := true }).value with cursorColumn := 0 } := { hblanked with
        cursorColumn := ⟨Int.le_refl 0, Int.lt_of_lt_of_le Int.one_pos size.wide.1⟩ }
      rw [if_pos ⟨hmargin, hwrap⟩, ← pushedRows_append htaken]
      exact (sink_writeAtCursor codePoint width).trans hhome.sink_lineFeed
    · rename_i hstay
      rw [if_neg fun both => hstay both.2, append_nil]
      exact htaken
  · rename_i hinside
    rw [if_neg fun both => hinside both.1, append_nil]
    exact (sink_writeAtCursor codePoint width).trans htaken

omit fits in
theorem sink_repeatPut (codePoint : Nat) {width : Int} (written : width = 1 ∨ width = 2)
    (rounds : Nat) (start : Int) {screen : Screen} (fits : screen.Fits columns rows) :
    (forUp (fun _ next => next.putChar codePoint width) rounds start screen).value.sink =
      screen.pushedRows (rowsRepeated codePoint width rounds screen) := by
  induction rounds generalizing start screen with
  | zero => exact screen.pushedRows_nil.symm
  | succ rounds ih =>
    have hfirst := fits.sink_putChar size codePoint width
    have hrest := ih (start + 1) (fits.putChar size codePoint written).2
    exact hrest.trans (pushedRows_append hfirst)

end Screen

def Operation.rowsLeaving (screen : Screen) : Operation → List Line
  | .putChar _ width => screen.rowsPut width
  | .repeatLast count =>
      if screen.lastWrittenChar = 0 ∨ count ≤ 0 then []
      else
        Screen.rowsRepeated screen.lastWrittenChar screen.lastWrittenWidth
          (min count (screen.columns * screen.rows)).toNat screen
  | .lineFeed => screen.rowsFed
  | .scrollUp count => screen.rowsScrolled count
  | _ => []

theorem Screen.sink_fillRows (first count : Int) (blank : Cell) (screen : Screen) :
    (screen.fillRows first count blank).value.sink = screen.sink :=
  @value_forUp_induction Screen _ (fun next => next.sink = screen.sink)
    (fun _ _ kept => kept) _ _ _ rfl

/-- The scrollback gets the rows that leave, and nothing else; `ESC [ 3 J` clears it. -/
theorem Operation.sink_perform {columns rows : Int} {screen : Screen}
    (size : GridSize columns rows) (fits : screen.Fits columns rows) {operation : Operation}
    (keeps : operation ≠ .eraseInDisplay 3) :
    (operation.perform screen).value.sink = screen.pushedRows (operation.rowsLeaving screen) := by
  have hnone := screen.pushedRows_nil.symm
  cases operation with
  | putChar codePoint width => exact fits.sink_putChar size codePoint width
  | repeatLast count =>
    unfold perform rowsLeaving Screen.repeatLast
    dsimp only
    rw [value_ite]
    split
    · exact hnone
    · exact Screen.sink_repeatPut size _ fits.lastWrittenWidth _ 0 fits
  | lineFeed => exact fits.sink_lineFeed
  | scrollUp count => exact fits.sink_scrollRegionUp count
  | eraseInDisplay mode =>
    have hother : mode ≠ 3 := fun h3 => keeps (congrArg _ h3)
    unfold perform Screen.eraseInDisplay
    simp only [value_bind, value_ite, value_pure, if_neg hother]
    split
    · exact (Screen.sink_fillRows _ _ _ _).trans hnone
    split
    · exact (Screen.sink_fillRows _ _ _ _).trans hnone
    split
    · exact (Screen.sink_fillRows _ _ _ _).trans hnone
    · exact hnone
  | deleteLines count =>
    unfold perform Screen.deleteLines
    rw [value_ite]
    split
    · exact hnone
    · exact Screen.sink_scrollRegionUp_false _ _ _ |>.trans hnone
  | insertCharacters count => exact (Screen.sink_insertCharacters count).trans hnone
  | fillScreen codePoint => exact (Screen.sink_fillRows _ _ _ _).trans hnone
  | _ =>
    simp only [perform, Screen.addCombiningMark, Screen.reverseIndex, Screen.backspace,
      Screen.setTabStop, Screen.clearTabStop, Screen.restoreCursor, Screen.deleteCharacters,
      Screen.insertLines, Screen.scrollDown, Screen.scrollRegionDown, Screen.setScrollRegion, value_ite,
      value_bind, value_pure]
    repeat' split
    all_goals exact hnone

namespace Screen

variable {columns rows : Int} {screen : Screen}

theorem removableBelow_blank {lines : List Line} {cursorRow : Int} (excess : Nat) {last : Int}
    {row : Nat} (above : (row : Int) ≤ last)
    (below : last < row + (removableBelow lines cursorRow excess last).value) :
    (lines.getD row default).trimmedLength = 0 := by
  induction excess generalizing last with
  | zero =>
    unfold removableBelow at below
    rw [value_pure] at below
    omega
  | succ excess ih =>
    unfold removableBelow at below
    rw [value_ite] at below
    split at below
    · rename_i hbelow
      rw [value_bind, value_get, value_ite] at below
      split at below
      · rw [value_pure] at below
        omega
      · rename_i hblank
        rw [value_bind, value_bind, value_pure, value_int] at below
        by_cases hlast : (row : Int) = last
        · rw [← hlast, Int.toNat_natCast] at hblank
          exact Decidable.not_not.mp hblank
        · exact @ih (last - 1) (by omega) (by omega)
    · rw [value_pure] at below
      omega

/-- A screen whose first rows went to the scrollback. -/
structure WithoutTop (count : Nat) (screen next : Screen) : Prop where
  columns : next.columns = screen.columns
  lines : next.lines = screen.lines.drop count
  sink : next.sink = screen.pushedRows (screen.lines.take count)
  cursorRow : next.cursorRow = max 0 (screen.cursorRow - count)
  cursorColumn : next.cursorColumn = screen.cursorColumn

theorem withoutTop (count : Nat) {screen : Screen} (natural : 0 ≤ screen.cursorRow)
    (inside : count ≤ screen.lines.length) :
    screen.WithoutTop count (dropTop count screen).value := by
  induction count generalizing screen with
  | zero => exact ⟨rfl, rfl, screen.pushedRows_nil.symm, by rw [dropTop, value_pure]; omega, rfl⟩
  | succ count ih =>
    obtain ⟨front, rest, hlines⟩ :=
      exists_cons_of_length_pos (by omega : 0 < screen.lines.length)
    rw [hlines, length_cons] at inside
    have hstep : (dropTop (count + 1) screen).value = (dropTop count
        { screen.pushLine front with
          lines := rest
          cursorRow := max 0 (screen.cursorRow - 1) }).value := by
      rw [dropTop, value_bind, value_bind, value_get, hlines]
      congr 2
      split
      · rename_i hbelow
        have hbelow : 0 < screen.cursorRow := hbelow
        rw [Int.max_eq_right (by omega)]
        rfl
      · rename_i htop
        have htop : ¬0 < screen.cursorRow := htop
        rw [(by omega : max 0 (screen.cursorRow - 1) = screen.cursorRow)]
        rfl
    obtain ⟨hcolumns, hkept, hsink, hcursorRow, hcursorColumn⟩ := @ih
      { screen.pushLine front with lines := rest, cursorRow := max 0 (screen.cursorRow - 1) }
      (Int.le_max_left _ _) (Nat.le_of_succ_le_succ inside)
    rw [hstep]
    constructor
    · exact hcolumns
    · rw [hkept, hlines, drop_succ_cons]
    · rw [hsink, hlines, take_succ_cons]
      exact @pushedRows_append screen _ [front] _ rfl
    · rw [hcursorRow]
      dsimp only
      omega
    · exact hcursorColumn

structure Shrunk (rows : Int) (screen next : Screen) : Prop where
  columns : next.columns = screen.columns
  height : next.rows = rows
  lines : next.lines = (screen.lines.take (screen.lines.length - screen.rowsTrimmed rows)).drop
    (screen.rowsDropped rows)
  sink : next.sink = screen.pushedRows (screen.lines.take (screen.rowsDropped rows))
  cursorRow : next.cursorRow = max 0 (screen.cursorRow - screen.rowsDropped rows)
  cursorColumn : next.cursorColumn = screen.cursorColumn

variable {newRows : Int}

theorem Fits.rowsTrimmed_add (fits : screen.Fits columns rows)
    (fewer : newRows ≤ rows) (small : rows ≤ 10000) :
    (screen.rowsTrimmed newRows + screen.rowsDropped newRows : Int) = rows - newRows ∧
      (screen.rowsTrimmed newRows : Int) ≤ rows - 1 - screen.cursorRow := by
  have hheight := fits.height
  have hrow := fits.cursorRow
  have hlength := fits.grid.length
  obtain ⟨hexcess, hbelow⟩ := (@holds_removableBelow screen.lines screen.cursorRow hrow.1
    (screen.rows - newRows).toNat (screen.rows - 1) (by omega) (by omega)).2
  unfold rowsDropped rowsTrimmed
  dsimp only
  omega

theorem Fits.shrunk (size : GridSize columns rows) (fits : screen.Fits columns rows)
    (tall : 1 ≤ newRows) (fewer : newRows < rows) :
    screen.Shrunk newRows (screen.resize screen.columns newRows).value := by
  have hbounds := fits.bounds size
  have hrow := fits.cursorRow
  have hlength := fits.grid.length
  obtain ⟨hsplit, hbelow⟩ := fits.rowsTrimmed_add (Int.le_of_lt fewer) size.tall.2
  obtain ⟨hcolumns, hlines, hsink, hcursorRow, hcursorColumn⟩ := @withoutTop
    (screen.rowsDropped newRows)
    { screen with lines := screen.lines.take (screen.lines.length - screen.rowsTrimmed newRows) }
    hrow.1 (by dsimp only; rw [length_take]; omega)
  rw [screen.value_resize_rows tall (by omega) (by omega), if_pos (by omega),
    screen.value_shrinkRows (by omega)]
  generalize (dropTop (screen.rowsDropped newRows) _).value = next at *
  dsimp only at hcolumns hlines hsink hcursorRow hcursorColumn
  constructor
  · exact hcolumns
  · rfl
  · exact hlines
  · refine hsink.trans ?_
    rw [take_take, Nat.min_eq_left (by omega)]
    rfl
  · refine (clamp_of_mem ?_).trans hcursorRow
    dsimp only [value_int]
    omega
  · refine (clamp_of_mem ?_).trans hcursorColumn
    dsimp only [value_int]
    omega

/-- A screen with more rows, which come from the end of the scrollback as far as they can. -/
structure Grown (rows : Int) (screen : Screen) (sink : Scrollback) (next : Screen) : Prop where
  lines : next.lines = ((sink.takeNewest (rows - screen.rows).toNat).1.map
      fun line => line.resize screen.columns.toNat {}) ++ screen.lines ++
    List.replicate ((rows - screen.rows).toNat - (sink.takeNewest (rows - screen.rows).toNat).1.length)
      (Line.new screen.columns.toNat {})
  cursorRow : next.cursorRow =
    screen.cursorRow + (sink.takeNewest (rows - screen.rows).toNat).1.length
  cursorColumn : next.cursorColumn = screen.cursorColumn

theorem value_replaceLines (screen : Screen) {lines : List Line} {row column : Int}
    (inRow : 0 ≤ row ∧ row < lines.length) (inColumn : 0 ≤ column ∧ column < screen.columns) :
    let next := (screen.replaceLines lines row column).value
    next.lines = lines ∧ next.cursorRow = row ∧ next.cursorColumn = column := by
  unfold replaceLines
  rw [value_bind, if_neg (by omega)]
  refine ⟨rfl, clamp_of_mem ?_, clamp_of_mem ?_⟩
  · dsimp only [value_int]
    omega
  · dsimp only [value_int]
    omega

theorem Fits.grown (size : GridSize columns rows) (fits : screen.Fits columns rows)
    {sink : Scrollback} (hsink : screen.sink = some sink) (more : rows < newRows) :
    screen.Grown newRows sink (screen.reflowResize screen.columns newRows).value := by
  have hbounds := fits.bounds size
  have hlength := fits.grid.length
  unfold Screen.reflowResize
  rw [hsink]
  dsimp only
  rw [if_pos rfl, value_ite]
  split
  · rename_i hsaved
    obtain ⟨kept, restored, htaken⟩ : ∃ kept restored,
      sink.takeNewest (newRows - screen.rows).toNat = (restored, kept) := ⟨_, _, rfl⟩
    obtain ⟨-, hadded⟩ := takeNewest_split htaken
    have hpositive := length_pos_iff.mpr hsaved.2
    obtain ⟨below, hbelow, hvalue⟩ := screen.value_restoreRows htaken
      (length_pos_iff.mp (by omega))
    have hnone : ¬screen.columns < 1 := by omega
    obtain ⟨hlines, hcursorRow, hcursorColumn⟩ := value_replaceLines
      (setGeometry { screen with sink := some kept } screen.columns newRows).value
      (show 0 ≤ screen.cursorRow + restored.length ∧ screen.cursorRow + (restored.length : Int) <
          (restored.map (fun line => line.resize screen.columns.toNat {}) ++ screen.lines ++
            below).length by
        rw [length_append, length_append, length_map]
        omega)
      (show 0 ≤ screen.cursorColumn ∧ screen.cursorColumn <
          if screen.columns < 1 then 1 else screen.columns by
        rw [if_neg hnone]
        omega)
    rw [hvalue]
    constructor
    · rw [hlines, hbelow, htaken]
      congr 2
      dsimp only
      omega
    · rw [hcursorRow, htaken]
    · exact hcursorColumn
  · rename_i hnothing
    have hempty : sink.lines = [] := by
      by_contra hsome
      exact hnothing ⟨by omega, hsome⟩
    have htaken : (sink.takeNewest (newRows - screen.rows).toNat).1 = [] := by
      unfold Scrollback.takeNewest
      rw [hempty]
      exact drop_nil
    rw [screen.value_resize_rows (by omega) (by omega) (by omega), if_neg (by omega)]
    constructor
    · rw [htaken]
      rfl
    · rw [htaken]
      refine (clamp_of_mem ?_).trans (Int.add_zero _).symm
      show 0 ≤ screen.cursorRow ∧ screen.cursorRow ≤ newRows - 1
      omega
    · refine clamp_of_mem ?_
      show 0 ≤ screen.cursorColumn ∧ screen.cursorColumn ≤ screen.columns - 1
      omega

/-- How many older rows stand above the others afterwards. -/
def rowsMoved (screen : Screen) (rows : Int) : Nat :=
  min (screen.rowsTrimmed rows) screen.scrolledRows.length

/-- What a screen shows after it had only `rows` rows: the others below the newest of the
scrollback, and blank ones where rows were taken from the bottom. -/
structure ShowsAgain (rows : Int) (screen back : Screen) : Prop where
  older : back.lines.take (screen.rowsMoved rows) =
    (screen.scrolledRows.drop (screen.scrolledRows.length - screen.rowsMoved rows)).map
      fun line => line.resize screen.columns.toNat {}
  shown : ∀ row, row + screen.rowsMoved rows < screen.lines.length →
    (row < screen.rowsDropped rows → (screen.line row).trimsWhole = true) →
    ∃ length, (screen.line row).ShownAs (back.line (row + screen.rowsMoved rows : Nat)) length
  cursorRow : back.cursorRow = max screen.cursorRow (screen.rowsDropped rows) + screen.rowsMoved rows
  cursorColumn : back.cursorColumn = screen.cursorColumn

theorem trimmedLength_of_trimmed (screen : Screen) {newRows : Int} {row : Nat}
    (height : (screen.lines.length : Int) = screen.rows) (inside : row < screen.lines.length)
    (trimmed : screen.lines.length ≤ row + screen.rowsTrimmed newRows) :
    (screen.line row).trimmedLength = 0 := by
  unfold rowsTrimmed at trimmed
  dsimp only at trimmed
  apply @removableBelow_blank _ screen.cursorRow (screen.rows - newRows).toNat (screen.rows - 1) row
  · omega
  · omega

theorem Fits.shownAs_again (fits : screen.Fits columns rows) {blank row : Nat}
    (inside : row < screen.lines.length)
    (room : row + screen.rowsTrimmed newRows < screen.lines.length + blank)
    (apart : screen.rowsDropped newRows + screen.rowsTrimmed newRows ≤ screen.lines.length)
    (trims : row < screen.rowsDropped newRows → (screen.line row).trimsWhole = true) :
    ∃ length, (screen.line row).ShownAs (((screen.lines.take (screen.rowsDropped newRows)).map
        ((fun line => line.resize screen.columns.toNat {}) ∘ Scrollback.stored) ++
      ((screen.lines.take (screen.lines.length - screen.rowsTrimmed newRows)).drop
          (screen.rowsDropped newRows) ++
        List.replicate blank (Line.new screen.columns.toNat {}))).getD row default) length := by
  have hline : screen.line row = screen.lines[row] := getD_eq_getElem _ _ inside
  have hheight := fits.height
  have hlength := fits.grid.length
  by_cases hdropped : row < screen.rowsDropped newRows
  · refine ⟨(screen.line row).trimmedLength, ?_⟩
    have hsize : (screen.line row).size = screen.columns.toNat := by
      have hspans : ((screen.line row).size : Int) = columns := (fits.grid.get (by omega)).2
      rw [← fits.width] at hspans
      omega
    rw [getD_append _ _ _ _ (by rw [length_map, length_take]; omega),
      getD_eq_getElem _ _ (by rw [length_map, length_take]; omega), getElem_map,
      getElem_take, ← hline]
    exact Line.shownAs_restored hsize (trims hdropped)
  · rw [getD_append_right _ _ _ _ (by rw [length_map, length_take]; omega),
      length_map, length_take, Nat.min_eq_left (by omega)]
    by_cases hstayed : row < screen.lines.length - screen.rowsTrimmed newRows
    · refine ⟨(screen.line row).size, ?_⟩
      rw [getD_append _ _ _ _ (by rw [length_drop, length_take]; omega),
        getD_eq_getElem?_getD, getElem?_drop, getElem?_take, if_pos (by omega),
        ← getD_eq_getElem?_getD, Nat.add_sub_of_le (by omega)]
      exact Line.ShownAs.refl _
    · refine ⟨0, ?_⟩
      rw [getD_append_right _ _ _ _ (by rw [length_drop, length_take]; omega),
        getD_eq_getElem _ _ (by
          rw [length_replicate, length_drop, length_take]
          omega), getElem_replicate]
      apply Line.shownAs_new
      exact @trimmedLength_of_trimmed screen newRows row (hlength.trans hheight.symm) inside (by omega)

theorem Fits.showsAgain (size : GridSize columns rows) (fits : screen.Fits columns rows)
    {sink : Scrollback} (hsink : screen.sink = some sink) (tall : 1 ≤ newRows)
    (fewer : newRows < rows)
    (room : sink.RoomFor (screen.lines.take (screen.rowsDropped newRows))) :
    screen.ShowsAgain newRows ((screen.resize screen.columns newRows).value.reflowResize
      screen.columns rows).value := by
  have hwidth := fits.width
  have hheight := fits.height
  have hrow := fits.cursorRow
  have hlength := fits.grid.length
  have hsmaller : GridSize columns newRows := ⟨size.wide, by have := size.tall; omega⟩
  have hfits := (fits.resize size hsmaller).2
  rw [← hwidth] at hfits
  have hshrunk := fits.shrunk size tall fewer
  have hnext : (screen.resize screen.columns newRows).value.sink =
      some ((screen.lines.take (screen.rowsDropped newRows)).foldl Scrollback.pushLine sink) := by
    rw [hshrunk.sink, pushedRows, hsink]
    rfl
  have hgrown := hfits.grown (hwidth ▸ hsmaller) hnext fewer
  rw [hshrunk.columns] at hgrown
  obtain ⟨hsplit, hbelow⟩ := fits.rowsTrimmed_add (Int.le_of_lt fewer) size.tall.2
  have hsaved := scrolledRows_eq hsink
  have hstored := Scrollback.lines_foldl_pushLine room
  have hmoved : screen.rowsMoved newRows ≤ screen.rowsTrimmed newRows ∧
      screen.rowsMoved newRows ≤ sink.lines.length ∧
        (screen.rowsMoved newRows = screen.rowsTrimmed newRows ∨
          screen.rowsMoved newRows = sink.lines.length) := by
    unfold rowsMoved
    rw [hsaved]
    omega
  have htaken : (((screen.lines.take (screen.rowsDropped newRows)).foldl Scrollback.pushLine
        sink).takeNewest (rows - newRows).toNat).1 =
      sink.lines.drop (sink.lines.length - screen.rowsMoved newRows) ++
        (screen.lines.take (screen.rowsDropped newRows)).map Scrollback.stored := by
    unfold Scrollback.takeNewest
    dsimp only
    rw [hstored, length_append, length_map, length_take,
      ← drop_append_of_le_length (Nat.sub_le _ _)]
    congr 1
    omega
  obtain ⟨hlines, hcursorRow, hcursorColumn⟩ := hgrown
  rw [hshrunk.height, htaken, hshrunk.columns, hshrunk.lines, length_append, length_drop,
    length_map, length_take, map_append, map_map, append_assoc, append_assoc] at hlines
  rw [hshrunk.height, htaken, length_append, length_drop, length_map, length_take,
    hshrunk.cursorRow] at hcursorRow
  generalize ((screen.resize screen.columns newRows).value.reflowResize screen.columns
    rows).value = back at *
  constructor
  · rw [hlines, hsaved]
    apply take_left'
    rw [length_map, length_drop]
    omega
  · intro row inside trims
    have hrow : back.line (row + screen.rowsMoved newRows : Nat) =
        back.lines.getD (row + screen.rowsMoved newRows) default := rfl
    have holder : ((sink.lines.drop (sink.lines.length - screen.rowsMoved newRows)).map
        fun line => line.resize screen.columns.toNat {}).length = screen.rowsMoved newRows := by
      rw [length_map, length_drop]
      omega
    rw [hrow, hlines, getD_append_right _ _ _ _ (by omega), holder, Nat.add_sub_cancel]
    exact fits.shownAs_again (by omega) (by omega) (by omega) trims
  · rw [hcursorRow]
    omega
  · rw [hcursorColumn, hshrunk.cursorColumn]

end Screen

structure Emulator.KeepsScrolledOff (emulator : Emulator) : Prop where
  leaving : ∀ operation, operation ≠ Operation.eraseInDisplay 3 →
    (operation.perform emulator.primary).value.sink =
      emulator.primary.pushedRows (operation.rowsLeaving emulator.primary)
  shrinking : ∀ rows, 1 ≤ rows → rows < emulator.primary.rows →
    (emulator.resize emulator.primary.columns rows).value.primary.sink =
      emulator.primary.pushedRows
        (emulator.primary.lines.take (emulator.primary.rowsDropped rows))
  newest : ∀ (sink : Scrollback) (line : Line),
    (sink.pushLine line).lines <:+ sink.lines ++ [Scrollback.stored line]
  stored : ∀ line : Line, line.trimsWhole = true →
    line.ShownAs (Scrollback.stored line) line.trimmedLength ∧
      (Scrollback.stored line).wrapped = line.wrapped
  back : ∀ sink, emulator.primary.sink = some sink → ∀ rows, 1 ≤ rows →
    rows < emulator.primary.rows →
    sink.RoomFor (emulator.primary.lines.take (emulator.primary.rowsDropped rows)) →
    emulator.primary.ShowsAgain rows (do
      let smaller ← emulator.resize emulator.primary.columns rows
      smaller.resize emulator.primary.columns emulator.primary.rows).value.primary

theorem Emulator.primary_resize (emulator : Emulator) {columns rows : Int} (wide : 1 ≤ columns)
    (tall : 1 ≤ rows) (different : rows ≠ emulator.primary.rows) :
    (emulator.resize columns rows).value.primary =
      (emulator.primary.reflowResize columns rows).value := by
  unfold Emulator.resize
  rw [if_neg (by omega : ¬columns < 1), if_neg (by omega : ¬rows < 1), if_neg (by omega)]
  rfl

theorem Screen.reflowResize_fewer (screen : Screen) {rows : Int} (fewer : rows < screen.rows) :
    screen.reflowResize screen.columns rows = screen.resize screen.columns rows := by
  unfold reflowResize
  cases screen.sink with
  | none => rfl
  | some sink =>
    dsimp only
    rw [if_pos rfl, if_neg (by omega)]

/-- A row that scrolls off stays what it was but for blank cells at its end, and comes back when
there is room again. -/
theorem scrolled_off_kept (emulator : Emulator) (reachable : emulator.Reachable) :
    emulator.KeepsScrolledOff := by
  obtain ⟨columns, rows, hsize, hfits⟩ := reachable.fitsGrid
  have hprimary := hfits.primary
  have hwidth := hprimary.width
  have hheight := hprimary.height
  have hwide : 1 ≤ emulator.primary.columns := hwidth ▸ hsize.wide.1
  have hshrunk {newRows : Int} (tall : 1 ≤ newRows) (fewer : newRows < emulator.primary.rows) :
      (emulator.resize emulator.primary.columns newRows).value.primary =
        (emulator.primary.resize emulator.primary.columns newRows).value := by
    rw [emulator.primary_resize hwide tall (Int.ne_of_lt fewer),
      emulator.primary.reflowResize_fewer fewer]
  constructor
  · exact fun operation keeps => Operation.sink_perform hsize hprimary keeps
  · intro newRows tall fewer
    rw [hshrunk tall fewer]
    exact (hprimary.shrunk hsize tall (hheight ▸ fewer)).sink
  · exact fun sink line => Scrollback.lines_trimLines _ _
  · exact fun line trims => ⟨Line.shownAs_stored trims, Screen.wrapped_stored line⟩
  · intro sink hsink newRows tall fewer room
    have hagain := hprimary.showsAgain hsize hsink tall (hheight ▸ fewer) room
    have hrows := (hprimary.shrunk hsize tall (hheight ▸ fewer)).height
    rw [← hshrunk tall fewer, ← hheight] at hagain
    rw [← hshrunk tall fewer] at hrows
    rw [value_bind, Emulator.primary_resize _ hwide (by omega) (by omega)]
    exact hagain

theorem scrolled_off_kept_in_sample :
    (sampleEmulator [0x61, 0x0D, 0x0A, 0x62, 0x0D, 0x0A]).KeepsScrolledOff :=
  scrolled_off_kept _ (reachable_sampleEmulator _)

/-- The spaces of a row that goes on are not stored, and a wide character at its end becomes one.
When rows are taken away and come back, older ones may come down from the scrollback instead of
blank ones, and the cursor stays on the screen with the row that it is moved to. -/
theorem scrolled_off_changed :
    ((sampleEmulator [0x61, 0x62, 0x20, 0x20, 0x20, 0x20, 0x63, 0x0A]).scrollback.map
        fun line => (line.cells.map Cell.code, line.wrapped)) = [([0x61, 0x62], true)] ∧
      ((sampleEmulator [0xE4, 0xB8, 0x80, 0x0A, 0x0A]).scrollback.map
        fun line => line.cells.map Cell.code) = [[0x20]] ∧
      (let emulator := sampleEmulator [0x61, 0x0D, 0x0A, 0x62, 0x0D, 0x0A, 0x1B, 0x5B, 0x48]
      let back := (do
        let smaller ← emulator.resize 6 1
        smaller.resize 6 2).value
      emulator.Reachable ∧ emulator.primary.lines.map Line.trimmedLength = [1, 0] ∧
        back.primary.lines.map Line.trimmedLength = [1, 1]) ∧
      (let emulator := sampleEmulator [0x61, 0x0D, 0x0A, 0x62, 0x1B, 0x5B, 0x48]
      let back := (do
        let smaller ← emulator.resize 6 1
        smaller.resize 6 2).value
      emulator.Reachable ∧ emulator.primary.cursorRow = 0 ∧ back.primary.cursorRow = 1) :=
  ⟨by decide +kernel, by decide +kernel,
    ⟨reachable_sampleEmulator _, by decide, by decide⟩,
    reachable_sampleEmulator _, by decide, by decide⟩

end Hypeterm.Term
