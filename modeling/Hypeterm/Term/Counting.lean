import Hypeterm.Term.Grid

/-! What a screen counts of its changes: every operation either advances a counter or only
moves the cursor. -/
namespace Hypeterm.Term
open Library Checked

theorem one_le_wanted (count : Int) : 1 ≤ if count < 1 then 1 else count := by
  omega

theorem one_le_moved {room wanted moved : Int}
    (clipped : (if room < wanted then room else wanted) = moved) (free : 1 ≤ room)
    (some : 1 ≤ wanted) : 1 ≤ moved := by
  omega

namespace Screen

def sinkRevision (screen : Screen) : Nat := (screen.sink.map Scrollback.revision).getD 0

structure Grows (before after : Screen) : Prop where
  screen : before.revision ≤ after.revision
  sink : before.sinkRevision ≤ after.sinkRevision

structure Advances (before after : Screen) : Prop where
  screen : before.revision < after.revision
  sink : before.sinkRevision ≤ after.sinkRevision

variable {screen before middle after : Screen}

theorem Grows.refl (screen : Screen) : screen.Grows screen := ⟨Nat.le_refl _, Nat.le_refl _⟩

theorem Grows.trans (first : before.Grows middle) (second : middle.Grows after) :
    before.Grows after :=
  ⟨first.screen.trans second.screen, first.sink.trans second.sink⟩

theorem Grows.trans_advances (first : before.Grows middle) (second : middle.Advances after) :
    before.Advances after :=
  ⟨Nat.lt_of_le_of_lt first.screen second.screen, first.sink.trans second.sink⟩

theorem Advances.trans_grows (first : before.Advances middle) (second : middle.Grows after) :
    before.Advances after :=
  ⟨Nat.lt_of_lt_of_le first.screen second.screen, first.sink.trans second.sink⟩

theorem Advances.grows (advances : before.Advances after) : before.Grows after :=
  ⟨Nat.le_of_lt advances.screen, advances.sink⟩

end Screen

theorem Scrollback.revision_trimLines (lines : List Line) (scrollback : Scrollback) :
    scrollback.revision ≤ (scrollback.trimLines lines).revision := by
  induction lines generalizing scrollback with
  | nil => exact Nat.le_refl _
  | cons front rest ih =>
    unfold trimLines
    split
    · refine Nat.le_trans ?_ (ih _)
      exact Nat.le_succ _
    · exact Nat.le_refl _

theorem Scrollback.revision_pushLine (scrollback : Scrollback) (line : Line) :
    scrollback.revision ≤ (scrollback.pushLine line).revision := by
  refine Nat.le_trans ?_ (revision_trimLines _ _)
  exact Nat.le_succ _

theorem Scrollback.revision_clearScrollback (scrollback : Scrollback) :
    scrollback.revision ≤ scrollback.clearScrollback.revision := by
  unfold clearScrollback
  split
  · exact Nat.le_refl _
  · exact Nat.le_succ _

namespace Screen

variable (screen : Screen)

theorem Grows.bind {first : Checked Screen} {next : Screen → Checked Screen} {screen : Screen}
    (grows : screen.Grows first.value) (rest : ∀ screen : Screen, screen.Grows (next screen).value) :
    screen.Grows (first >>= next).value := grows.trans (rest _)

theorem Advances.bind {first : Checked Screen} {next : Screen → Checked Screen} {screen : Screen}
    (advances : screen.Advances first.value)
    (rest : ∀ screen : Screen, screen.Grows (next screen).value) :
    screen.Advances (first >>= next).value := advances.trans_grows (rest _)

theorem grows_pushLine (line : Line) : screen.Grows (screen.pushLine line) := by
  refine ⟨Nat.le_refl _, ?_⟩
  unfold sinkRevision pushLine
  cases screen.sink with
  | none => exact Nat.le_refl _
  | some sink => exact sink.revision_pushLine line

theorem grows_mutableLine (row : Int) (edit : Line → Checked Line) :
    screen.Grows (screen.mutableLine row edit).value := ⟨Nat.le_succ _, Nat.le_refl _⟩

theorem grows_pushRows (top : Int) (toScrollback : Bool) (rounds : Nat) :
    screen.Grows (forUp (fun i screen => do
      let row ← int (top + i)
      let line ← get screen.lines row
      pure (if toScrollback then screen.pushLine line else screen)) rounds 0 screen).value := by
  apply value_forUp_induction ?_ (Grows.refl screen)
  intro i next hnext
  simp only [value_bind, value_pure]
  split
  · exact hnext.trans (next.grows_pushLine _)
  · exact hnext

theorem grows_scrollRegionUp (top bottom count : Int) (toScrollback : Bool) :
    screen.Grows (screen.scrollRegionUp top bottom count toScrollback).value := by
  simp only [scrollRegionUp, value_ite, value_bind, value_pure]
  generalize (if _ < count then _ else count) = count
  split
  · exact .refl _
  split
  · exact .refl _
  · exact (grows_pushRows _ _ _ _).trans ⟨Nat.le_succ _, Nat.le_refl _⟩

theorem grows_lineFeed : screen.Grows screen.lineFeed.value := by
  simp only [lineFeed, value_bind, value_pure, value_ite]
  split
  · exact ⟨(grows_scrollRegionUp _ _ _ _ _).screen, (grows_scrollRegionUp _ _ _ _ _).sink⟩
  split
  · exact ⟨Nat.le_refl _, Nat.le_refl _⟩
  · exact ⟨Nat.le_refl _, Nat.le_refl _⟩

theorem grows_fillRows (first count : Int) (blank : Cell) :
    screen.Grows (screen.fillRows first count blank).value := by
  apply value_forUp_induction ?_ (Grows.refl screen)
  intro row next hnext
  exact hnext.trans (next.grows_mutableLine _ _)

theorem grows_insertCharacters (count : Int) :
    screen.Grows (screen.insertCharacters count).value := by
  simp only [insertCharacters, value_bind, value_ite, value_pure]
  repeat' split
  all_goals first
    | exact .refl _
    | exact ⟨Nat.le_succ _, Nat.le_refl _⟩

theorem grows_takePendingWrap : screen.Grows screen.takePendingWrap.value := by
  simp only [takePendingWrap, value_bind, value_ite, value_pure]
  split
  · have hfeed := grows_lineFeed
      { (screen.mutableLine screen.cursorRow fun line => pure { line with wrapped := true }).value
        with cursorColumn := 0 }
    exact ⟨(Nat.le_succ _).trans hfeed.screen, hfeed.sink⟩
  · exact .refl _

theorem advances_mutableLine (row : Int) (edit : Line → Checked Line) :
    screen.Advances (screen.mutableLine row edit).value := ⟨Nat.lt_succ_self _, Nat.le_refl _⟩

theorem advances_blankAtMargin (edit : Line → Checked Line) :
    screen.Advances (screen.blankAtMargin edit).value := screen.advances_mutableLine _ _

theorem advances_writeAtCursor (codePoint : Nat) (width : Int) :
    screen.Advances (screen.writeAtCursor codePoint width).value := by
  unfold writeAtCursor
  rw [value_bind]
  have hinsert : screen.Grows
      (if screen.insertMode then screen.insertCharacters width else pure screen).value := by
    split
    · exact grows_insertCharacters _ _
    · exact .refl _
  refine hinsert.trans_advances ?_
  generalize (if screen.insertMode then screen.insertCharacters width else pure screen).value =
    screen
  simp only [value_bind, value_ite, value_pure]
  split
  · exact ⟨Nat.lt_succ_self _, Nat.le_refl _⟩
  · exact ⟨Nat.lt_succ_self _, Nat.le_refl _⟩

theorem grows_addCombiningMark (mark : Nat) :
    screen.Grows (screen.addCombiningMark mark).value := by
  simp only [addCombiningMark, value_ite, value_pure]
  split
  · exact .refl _
  split
  · exact .refl _
  · exact grows_mutableLine _ _ _

theorem advances_putChar (codePoint : Nat) {width : Int} (drawn : 0 < width) :
    screen.Advances (screen.putChar codePoint width).value := by
  simp only [putChar, value_ite, value_bind, if_neg (Int.not_le.mpr drawn)]
  refine screen.grows_takePendingWrap.trans_advances ?_
  generalize screen.takePendingWrap.value = screen
  split
  · split
    · have hblank := screen.advances_blankAtMargin fun line => pure { line with wrapped := true }
      have hfeed := grows_lineFeed
        { (screen.blankAtMargin fun line => pure { line with wrapped := true }).value
          with cursorColumn := 0 }
      have hwrapped : Advances screen _ := hblank.trans_grows ⟨hfeed.screen, hfeed.sink⟩
      exact hwrapped.trans_grows (advances_writeAtCursor _ _ _).grows
    · exact screen.advances_blankAtMargin _
  · exact advances_writeAtCursor _ _ _

theorem grows_putChar (codePoint : Nat) (width : Int) :
    screen.Grows (screen.putChar codePoint width).value := by
  by_cases hwidth : width ≤ 0
  · simp only [putChar, if_pos hwidth]
    exact grows_addCombiningMark _ _
  · exact (advances_putChar _ _ (Int.not_le.mp hwidth)).grows

def lastWrittenOnScreen : Bool :=
  0 ≤ screen.lastWrittenRow && screen.lastWrittenRow < screen.rows &&
    0 ≤ screen.lastWrittenColumn && screen.lastWrittenColumn < screen.columns

def cursorInRegion : Bool :=
  screen.scrollTop ≤ screen.cursorRow && screen.cursorRow ≤ screen.scrollBottom

def rowShift (row : Int) : Int :=
  (if screen.originMode then clamp (row + screen.scrollTop) screen.scrollTop screen.scrollBottom
    else clamp row 0 (screen.rows - 1)) - screen.cursorRow

def restoreShift : Int × Int :=
  if screen.saved.valid then
    (clamp screen.saved.row 0 (screen.rows - 1) - screen.cursorRow,
      clamp screen.saved.column 0 (screen.columns - 1) - screen.cursorColumn)
  else (-screen.cursorRow, -screen.cursorColumn)

variable {screen} {columns rows : Int} (size : GridSize columns rows)
  (fits : screen.Fits columns rows)
include fits

theorem Fits.advances_scrollRegionUp {top bottom count : Int} (toScrollback : Bool)
    (region : 0 ≤ top ∧ top ≤ bottom ∧ bottom < rows) (some : 1 ≤ count) :
    screen.Advances (screen.scrollRegionUp top bottom count toScrollback).value := by
  have hheight := fits.height
  simp only [Screen.scrollRegionUp, value_ite, value_bind, value_pure]
  generalize hmoved : (if _ < count then _ else count) = moved
  have hroom : 1 ≤ (int ((int (bottom - top)).value + 1)).value :=
    (by omega : 1 ≤ bottom - top + 1)
  have hsome := one_le_moved hmoved hroom some
  rw [if_neg (by omega), if_neg (by omega)]
  exact (grows_pushRows _ _ _ _).trans_advances ⟨Nat.lt_succ_self _, Nat.le_refl _⟩

theorem Fits.advances_scrollRegionDown {top bottom count : Int}
    (region : 0 ≤ top ∧ top ≤ bottom ∧ bottom < rows) (some : 1 ≤ count) :
    screen.Advances (screen.scrollRegionDown top bottom count).value := by
  have hheight := fits.height
  simp only [Screen.scrollRegionDown, value_ite, value_bind, value_pure]
  generalize hmoved : (if _ < count then _ else count) = moved
  have hroom : 1 ≤ (int ((int (bottom - top)).value + 1)).value :=
    (by omega : 1 ≤ bottom - top + 1)
  have hsome := one_le_moved hmoved hroom some
  rw [if_neg (by omega), if_neg (by omega)]
  exact ⟨Nat.lt_succ_self _, Nat.le_refl _⟩

end Screen

def Operation.counts (screen : Screen) : Operation → Bool
  | .putChar _ width => 0 < width || screen.lastWrittenOnScreen
  | .addCombiningMark _ => screen.lastWrittenOnScreen
  | .repeatLast count => screen.lastWrittenChar != 0 && 0 < count
  | .lineFeed => screen.cursorRow == screen.scrollBottom
  | .reverseIndex => screen.cursorRow == screen.scrollTop
  | .eraseInDisplay mode =>
      mode == 0 || mode == 1 || mode == 2 ||
        mode == 3 && screen.sink.any fun sink => !sink.lines.isEmpty
  | .eraseInLine _ => true
  | .eraseCharacters _ => true
  | .insertCharacters _ => true
  | .deleteCharacters _ => true
  | .insertLines _ => screen.cursorInRegion
  | .deleteLines _ => screen.cursorInRegion
  | .scrollUp _ => true
  | .scrollDown _ => true
  | .fillScreen _ => true
  | .setReverseVideo value => screen.reverseVideo != value
  | _ => false

/-- How far, in rows and columns, an operation that counts no change moves the cursor. -/
def Operation.shift (screen : Screen) : Operation → Int × Int
  | .carriageReturn => (0, -screen.cursorColumn)
  | .lineFeed => (if screen.cursorRow < screen.rows - 1 then 1 else 0, 0)
  | .reverseIndex => (if 0 < screen.cursorRow then -1 else 0, 0)
  | .backspace => (0, if screen.pendingWrap = false ∧ 0 < screen.cursorColumn then -1 else 0)
  | .tab count =>
      (0, (Screen.tabFrom screen.tabStops (screen.columns - 1) count.toNat screen.cursorColumn).value -
        screen.cursorColumn)
  | .backTab count =>
      (0, (Screen.backTabFrom screen.tabStops count.toNat screen.cursorColumn).value -
        screen.cursorColumn)
  | .cursorUp count resetColumn =>
      let limit := if screen.scrollTop ≤ screen.cursorRow then screen.scrollTop else 0
      (-min (max count 1) (screen.cursorRow - limit),
        if resetColumn then -screen.cursorColumn else 0)
  | .cursorDown count resetColumn =>
      let limit :=
        if screen.cursorRow ≤ screen.scrollBottom then screen.scrollBottom else screen.rows - 1
      (min (max count 1) (limit - screen.cursorRow),
        if resetColumn then -screen.cursorColumn else 0)
  | .cursorForward count => (0, min (max count 1) (screen.columns - 1 - screen.cursorColumn))
  | .cursorBackward count => (0, -min (max count 1) screen.cursorColumn)
  | .cursorToColumn column => (0, clamp column 0 (screen.columns - 1) - screen.cursorColumn)
  | .cursorToRow row => (screen.rowShift row, 0)
  | .cursorToPosition row column =>
      (screen.rowShift row, clamp column 0 (screen.columns - 1) - screen.cursorColumn)
  | .restoreCursor => screen.restoreShift
  | .setScrollRegion top bottom =>
      let last := screen.rows - 1
      let top := if top < 0 then 0 else top
      let bottom := if bottom < 0 ∨ last < bottom then last else bottom
      ((if screen.originMode ∧ top < bottom then top else 0) - screen.cursorRow,
        -screen.cursorColumn)
  | .setOriginMode value =>
      ((if value then screen.scrollTop else 0) - screen.cursorRow, -screen.cursorColumn)
  | _ => (0, 0)

theorem Screen.sink_clearScrollback {sink : Option Scrollback}
    (empty : ∀ scrollback ∈ sink, scrollback.lines = []) :
    sink.map Scrollback.clearScrollback = sink := by
  cases sink with
  | none => rfl
  | some scrollback => simp [Scrollback.clearScrollback, empty scrollback rfl]

/-- Nothing that a snapshot shows changed, except that the cursor moved this far. -/
structure Screen.Moves (shift : Int × Int) (before after : Screen) : Prop where
  columns : after.columns = before.columns
  rows : after.rows = before.rows
  lines : after.lines = before.lines
  sink : after.sink = before.sink
  reverseVideo : after.reverseVideo = before.reverseVideo
  revision : after.revision = before.revision
  cursorRow : after.cursorRow = before.cursorRow + shift.1
  cursorColumn : after.cursorColumn = before.cursorColumn + shift.2

theorem Screen.Moves.refl (screen : Screen) : screen.Moves (0, 0) screen :=
  ⟨rfl, rfl, rfl, rfl, rfl, rfl, (Int.add_zero _).symm, (Int.add_zero _).symm⟩

variable {screen : Screen} {columns rows : Int} {operation : Operation}

theorem Screen.advances_addCombiningMark
    (written : screen.lastWrittenOnScreen = true) (mark : Nat) :
    screen.Advances (screen.addCombiningMark mark).value := by
  simp only [lastWrittenOnScreen, Bool.and_eq_true, decide_eq_true_eq] at written
  unfold addCombiningMark
  rw [if_neg (by omega), if_neg (by omega)]
  exact screen.advances_mutableLine _ _

theorem Screen.moves_addCombiningMark (mark : Nat) (gone : screen.lastWrittenOnScreen = false) :
    screen.Moves (0, 0) (screen.addCombiningMark mark).value := by
  simp only [lastWrittenOnScreen, Bool.and_eq_false_iff, decide_eq_false_iff_not] at gone
  simp only [addCombiningMark, value_ite, value_pure]
  split
  · exact .refl _
  split
  · exact .refl _
  · omega

theorem Operation.moves (bounded : operation.Bounded) (fits : screen.Fits columns rows)
    (uncounted : operation.counts screen = false) :
    screen.Moves (operation.shift screen) (operation.perform screen).value := by
  have hrow := fits.cursorRow
  have hcolumn := fits.cursorColumn
  have hheight := fits.height
  have hregion := fits.region
  have hwidth := fits.width
  cases operation with
  | putChar codePoint width =>
    simp only [counts, Bool.or_eq_false_iff, decide_eq_false_iff_not] at uncounted
    obtain ⟨-, hwidth | hwidth⟩ := bounded <;> omega
  | addCombiningMark mark => exact Screen.moves_addCombiningMark mark uncounted
  | repeatLast count =>
    simp only [counts, Bool.and_eq_false_iff, bne_eq_false_iff_eq, decide_eq_false_iff_not,
      Int.not_lt] at uncounted
    simp only [perform, Screen.repeatLast, if_pos uncounted]
    exact .refl _
  | insertLines count =>
    simp only [counts, Screen.cursorInRegion, Bool.and_eq_false_iff, decide_eq_false_iff_not,
      Int.not_le] at uncounted
    simp only [perform, Screen.insertLines, if_pos uncounted]
    exact .refl _
  | deleteLines count =>
    simp only [counts, Screen.cursorInRegion, Bool.and_eq_false_iff, decide_eq_false_iff_not,
      Int.not_le] at uncounted
    simp only [perform, Screen.deleteLines, if_pos uncounted]
    exact .refl _
  | eraseInDisplay mode =>
    simp only [counts, Bool.or_eq_false_iff, beq_eq_false_iff_ne] at uncounted
    obtain ⟨⟨⟨h0, h1⟩, h2⟩, h3⟩ := uncounted
    simp only [perform, Screen.eraseInDisplay, value_bind, if_neg h0, if_neg h1, if_neg h2]
    split
    · rename_i hmode
      refine ⟨rfl, rfl, rfl, ?_, rfl, rfl, (Int.add_zero _).symm, (Int.add_zero _).symm⟩
      refine Screen.sink_clearScrollback fun scrollback hsink => ?_
      rw [hmode, Option.mem_def.mp hsink] at h3
      simpa using h3
    · exact ⟨rfl, rfl, rfl, rfl, rfl, rfl, (Int.add_zero _).symm, (Int.add_zero _).symm⟩
  | setReverseVideo value =>
    simp only [counts, bne_eq_false_iff_eq] at uncounted
    refine ⟨rfl, rfl, rfl, rfl, uncounted.symm, ?_, (Int.add_zero _).symm, (Int.add_zero _).symm⟩
    simp [perform, Screen.setReverseVideo, uncounted]
  | lineFeed =>
    simp only [counts, beq_eq_false_iff_ne] at uncounted
    simp only [perform, Screen.lineFeed, value_bind, value_pure, value_ite, if_neg uncounted]
    split
    all_goals refine ⟨rfl, rfl, rfl, rfl, rfl, rfl, ?_, ?_⟩
    all_goals simp only [shift, value_int] at *
    all_goals omega
  | reverseIndex =>
    simp only [counts, beq_eq_false_iff_ne] at uncounted
    simp only [perform, Screen.reverseIndex, value_bind, value_pure, value_ite, if_neg uncounted]
    split
    all_goals refine ⟨rfl, rfl, rfl, rfl, rfl, rfl, ?_, ?_⟩
    all_goals simp only [shift, value_int] at *
    all_goals omega
  | backspace =>
    simp only [perform, Screen.backspace, value_bind, value_pure, value_ite]
    repeat' split
    all_goals refine ⟨rfl, rfl, rfl, rfl, rfl, rfl, ?_, ?_⟩
    all_goals simp [shift, *]
    rfl
  | setScrollRegion top bottom =>
    simp only [perform, Screen.setScrollRegion, shift, value_bind, value_pure]
    rw [value_int]
    generalize (if bottom < 0 ∨ screen.rows - 1 < bottom then screen.rows - 1 else bottom) = bottom
    generalize (if top < 0 then 0 else top) = top
    by_cases hregion : bottom ≤ top
    · rw [if_pos hregion, if_neg fun h => Int.not_lt.mpr hregion h.2]
      refine ⟨rfl, rfl, rfl, rfl, rfl, rfl, ?_, (Int.add_right_neg _).symm⟩
      simp [Screen.topLimit]
    · rw [if_neg hregion]
      refine ⟨rfl, rfl, rfl, rfl, rfl, rfl, ?_, (Int.add_right_neg _).symm⟩
      simp [Screen.topLimit, Int.not_le.mp hregion]
  | restoreCursor =>
    simp only [perform, Screen.restoreCursor, value_bind, value_pure, value_ite]
    split
    all_goals refine ⟨rfl, rfl, rfl, rfl, rfl, rfl, ?_, ?_⟩
    all_goals simp [shift, Screen.restoreShift, *]
  | cursorToRow row =>
    refine ⟨rfl, rfl, rfl, rfl, rfl, rfl, ?_, (Int.add_zero _).symm⟩
    simp only [perform, shift, Screen.cursorToRow, Screen.rowShift, Screen.topLimit,
      Screen.bottomLimit, value_bind, value_pure, value_ite, value_int]
    split <;> simp
  | cursorToPosition row column =>
    refine ⟨rfl, rfl, rfl, rfl, rfl, rfl, ?_, ?_⟩
    all_goals simp only [perform, shift, Screen.cursorToPosition, Screen.rowShift, Screen.topLimit,
      Screen.bottomLimit, value_bind, value_pure, value_ite, value_int]
    · split <;> simp
    · omega
  | cursorUp count resetColumn | cursorDown count resetColumn =>
    refine ⟨rfl, rfl, rfl, rfl, rfl, rfl, ?_, ?_⟩
    all_goals simp only [perform, shift, Screen.cursorUp, Screen.cursorDown, value_bind, value_pure,
      value_int]
    · omega
    · split <;> omega
  | carriageReturn | tab | backTab | cursorForward | cursorBackward | cursorToColumn |
      setOriginMode =>
    refine ⟨rfl, rfl, rfl, rfl, rfl, rfl, ?_, ?_⟩
    all_goals simp only [perform, shift, Screen.carriageReturn, Screen.tab, Screen.backTab,
      Screen.cursorForward, Screen.cursorBackward, Screen.cursorToColumn, Screen.setOriginMode,
      Screen.topLimit, value_bind, value_pure, value_int]
    all_goals omega
  | setTabStop | clearTabStop =>
    simp only [perform, Screen.setTabStop, Screen.clearTabStop, value_bind, value_pure, value_ite]
    repeat' split
    all_goals exact ⟨rfl, rfl, rfl, rfl, rfl, rfl, (Int.add_zero _).symm, (Int.add_zero _).symm⟩
  | saveCursor | setAutowrap | setInsertMode | setPen =>
    exact ⟨rfl, rfl, rfl, rfl, rfl, rfl, (Int.add_zero _).symm, (Int.add_zero _).symm⟩
  | eraseInLine | eraseCharacters | insertCharacters | deleteCharacters | scrollUp | scrollDown |
      fillScreen => cases uncounted

theorem Screen.advances_fillRows (screen : Screen) {count : Int}
    (some : 1 ≤ count) (first : Int) (blank : Cell) :
    screen.Advances (screen.fillRows first count blank).value := by
  obtain ⟨rounds, hrounds⟩ : ∃ rounds, count.toNat = rounds + 1 := ⟨count.toNat - 1, by omega⟩
  unfold fillRows
  rw [hrounds]
  refine (screen.advances_mutableLine first fun line => pure (line.fill blank)).trans_grows ?_
  apply value_forUp_induction ?_ (Screen.Grows.refl _)
  intro row next hnext
  exact hnext.trans (next.grows_mutableLine _ _)

section

variable (size : GridSize columns rows) (fits : screen.Fits columns rows)
include size fits

theorem Screen.advances_eraseInDisplay {mode : Int}

    (erased : mode = 0 ∨ mode = 1 ∨ mode = 2) :
    screen.Advances (screen.eraseInDisplay mode).value := by
  have hbounds := fits.bounds size
  unfold eraseInDisplay
  refine Advances.bind ?_ fun screen => ⟨Nat.le_refl _, Nat.le_refl _⟩
  rcases erased with rfl | rfl | rfl
  · rw [if_pos rfl]
    refine Advances.bind (advances_mutableLine _ _ _) fun screen => ?_
    refine Grows.bind (grows_mutableLine _ _ _) fun screen => ?_
    rw [value_bind]
    exact grows_fillRows _ _ _ _
  · rw [if_neg (by decide), if_pos rfl]
    exact Advances.bind (advances_mutableLine _ _ _) fun screen => grows_fillRows _ _ _ _
  · rw [if_neg (by decide), if_neg (by decide), if_pos rfl]
    exact screen.advances_fillRows (by omega) _ _

theorem Screen.advances_repeatLast {count : Int}

    (written : screen.lastWrittenChar ≠ 0) (some : 0 < count) :
    screen.Advances (screen.repeatLast count).value := by
  have hbounds := fits.bounds size
  have harea : 0 < screen.columns * screen.rows := Int.mul_pos (by omega) (by omega)
  have hdrawn : 0 < screen.lastWrittenWidth := by
    rcases fits.lastWrittenWidth with h | h <;> omega
  simp only [repeatLast, if_neg (by omega : ¬(screen.lastWrittenChar = 0 ∨ count ≤ 0)),
    value_bind, value_int]
  obtain ⟨rounds, hrounds⟩ : ∃ rounds, (min count (screen.columns * screen.rows)).toNat = rounds + 1 :=
    ⟨(min count (screen.columns * screen.rows)).toNat - 1, by omega⟩
  rw [hrounds]
  refine (screen.advances_putChar screen.lastWrittenChar hdrawn).trans_grows ?_
  apply value_forUp_induction ?_ (Grows.refl _)
  intro _ next hnext
  exact hnext.trans (next.grows_putChar _ _)

theorem Operation.advances
    (counted : operation.counts screen = true) (notScrollback : operation ≠ .eraseInDisplay 3) :
    screen.Advances (operation.perform screen).value := by
  have hbounds := fits.bounds size
  have hregion := fits.region
  cases operation with
  | putChar codePoint width =>
    by_cases hdrawn : 0 < width
    · exact screen.advances_putChar codePoint hdrawn
    · simp only [counts, Bool.or_eq_true, decide_eq_true_eq, hdrawn, false_or] at counted
      simp only [perform, Screen.putChar, if_pos (Int.not_lt.mp hdrawn)]
      exact Screen.advances_addCombiningMark counted codePoint
  | addCombiningMark mark => exact Screen.advances_addCombiningMark counted mark
  | repeatLast count =>
    simp only [counts, Bool.and_eq_true, bne_iff_ne, decide_eq_true_eq] at counted
    exact Screen.advances_repeatLast size fits counted.1 counted.2
  | lineFeed =>
    simp only [counts, beq_iff_eq] at counted
    simp only [perform, Screen.lineFeed, value_bind, if_pos counted]
    have hscroll := fits.advances_scrollRegionUp (screen.scrollTop == 0) hregion (Int.le_refl 1)
    exact ⟨hscroll.screen, hscroll.sink⟩
  | reverseIndex =>
    simp only [counts, beq_iff_eq] at counted
    simp only [perform, Screen.reverseIndex, value_bind, if_pos counted]
    have hscroll := fits.advances_scrollRegionDown hregion (Int.le_refl 1)
    exact ⟨hscroll.screen, hscroll.sink⟩
  | eraseInDisplay mode =>
    refine Screen.advances_eraseInDisplay size fits ?_
    simp only [counts, Bool.or_eq_true, Bool.and_eq_true, beq_iff_eq] at counted
    simp only [ne_eq, eraseInDisplay.injEq] at notScrollback
    omega
  | eraseInLine mode => exact ⟨Nat.lt_succ_self _, Nat.le_refl _⟩
  | eraseCharacters count => exact ⟨Nat.lt_succ_self _, Nat.le_refl _⟩
  | insertCharacters count =>
    simp only [perform, Screen.insertCharacters, value_bind, value_ite, value_pure]
    have hroom : 1 ≤ (int (screen.columns - screen.cursorColumn)).value :=
      (by omega : 1 ≤ screen.columns - screen.cursorColumn)
    have hwanted := one_le_wanted count
    generalize (if count < 1 then 1 else count) = wanted at hwanted ⊢
    generalize hmoved : (if _ < wanted then _ else wanted) = moved
    have hsome := one_le_moved hmoved hroom hwanted
    rw [if_neg (by omega)]
    exact ⟨Nat.lt_succ_self _, Nat.le_refl _⟩
  | deleteCharacters count =>
    simp only [perform, Screen.deleteCharacters, value_bind, value_ite, value_pure]
    have hroom : 1 ≤ (int (screen.columns - screen.cursorColumn)).value :=
      (by omega : 1 ≤ screen.columns - screen.cursorColumn)
    have hwanted := one_le_wanted count
    generalize (if count < 1 then 1 else count) = wanted at hwanted ⊢
    generalize hmoved : (if _ < wanted then _ else wanted) = moved
    have hsome := one_le_moved hmoved hroom hwanted
    rw [if_neg (by omega)]
    exact ⟨Nat.lt_succ_self _, Nat.le_refl _⟩
  | insertLines count =>
    simp only [counts, Screen.cursorInRegion, Bool.and_eq_true, decide_eq_true_eq] at counted
    simp only [perform, Screen.insertLines]
    rw [if_neg (by omega), value_bind]
    have hscroll := fits.advances_scrollRegionDown
      (by omega : 0 ≤ screen.cursorRow ∧ _ ≤ screen.scrollBottom ∧ _) (one_le_wanted count)
    exact ⟨hscroll.screen, hscroll.sink⟩
  | deleteLines count =>
    simp only [counts, Screen.cursorInRegion, Bool.and_eq_true, decide_eq_true_eq] at counted
    simp only [perform, Screen.deleteLines]
    rw [if_neg (by omega), value_bind]
    have hscroll := fits.advances_scrollRegionUp false
      (by omega : 0 ≤ screen.cursorRow ∧ _ ≤ screen.scrollBottom ∧ _) (one_le_wanted count)
    exact ⟨hscroll.screen, hscroll.sink⟩
  | scrollUp count => exact fits.advances_scrollRegionUp _ hregion (one_le_wanted count)
  | scrollDown count => exact fits.advances_scrollRegionDown hregion (one_le_wanted count)
  | fillScreen codePoint =>
    have hfill := screen.advances_fillRows (by omega : 1 ≤ screen.rows) 0
      { blankCell screen.pen with code := codePoint }
    exact ⟨hfill.screen, hfill.sink⟩
  | setReverseVideo value =>
    simp only [counts, bne_iff_ne] at counted
    refine ⟨?_, Nat.le_refl _⟩
    simp [perform, Screen.setReverseVideo, counted]
  | _ => cases counted

theorem Operation.advances_either (counted : operation.counts screen = true) :
    screen.revision + screen.sinkRevision <
      (operation.perform screen).value.revision + (operation.perform screen).value.sinkRevision := by
  by_cases hscrollback : operation = .eraseInDisplay 3
  · subst hscrollback
    have hempty : (screen.sink.any fun sink => !sink.lines.isEmpty) = true := by
      simpa [counts] using counted
    cases hsink : screen.sink with
    | none => simp [hsink] at hempty
    | some sink =>
      have hlines : sink.lines ≠ [] := by simpa [hsink] using hempty
      simp [perform, Screen.eraseInDisplay, Screen.sinkRevision, hsink, Scrollback.clearScrollback,
        hlines]
  · have hadvances := Operation.advances size fits counted hscrollback
    exact Nat.add_lt_add_of_lt_of_le hadvances.screen hadvances.sink

end

theorem Screen.grows_clearAll (screen : Screen) : screen.Grows screen.clearAll.value :=
  ⟨Nat.le_succ _, Nat.le_refl _⟩

theorem Screen.grows_setScrollRegion (screen : Screen) (top bottom : Int) :
    screen.Grows (screen.setScrollRegion top bottom).value := by
  simp only [setScrollRegion, value_bind, value_pure]
  repeat' split
  all_goals exact ⟨Nat.le_refl _, Nat.le_refl _⟩

theorem Screen.grows_reset (screen : Screen) : screen.Grows screen.reset.value :=
  ⟨Nat.le_succ _, Nat.le_refl _⟩

theorem Screen.grows_restoreCursor (screen : Screen) : screen.Grows screen.restoreCursor.value := by
  simp only [restoreCursor, value_ite]
  split
  · exact ⟨Nat.le_refl _, Nat.le_refl _⟩
  · exact ⟨Nat.le_refl _, Nat.le_refl _⟩

end Hypeterm.Term
