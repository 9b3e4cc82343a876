import Mathlib.Algebra.Ring.Int.Defs
import Hypeterm.Term.Counting
import Hypeterm.Term.Trace

/-! The revision counts the changes that a snapshot shows, except that many actions which only
move the cursor are not counted. -/
namespace Hypeterm.Term
open Library Checked Screen

namespace Emulator

def counts (emulator : Emulator) : Action → Bool
  | .screen operation =>
      operation.counts emulator.active &&
        !(emulator.altScreenActive && operation == .eraseInDisplay 3)
  | .change _ => true
  | .enterAltScreen _ _ => !emulator.altScreenActive
  | .leaveAltScreen _ _ => emulator.altScreenActive
  | .reset => true
  | _ => false

/-- How far an action that counts no change moves the cursor. -/
def shift (emulator : Emulator) : Action → Int × Int
  | .screen operation => operation.shift emulator.active
  | .restorePrimaryCursor =>
      if emulator.altScreenActive then (0, 0)
      else restoreShift { emulator.primary with saved := emulator.altSavedCursor }
  | _ => (0, 0)

/-- Nothing that a snapshot shows changed, except that the cursor moved this far. -/
structure Moves (shift : Int × Int) (before after : Emulator) : Prop where
  altScreenActive : after.altScreenActive = before.altScreenActive
  modes : after.modes = before.modes
  scrollback : after.scrollback = before.scrollback
  columns : after.active.columns = before.active.columns
  rows : after.active.rows = before.active.rows
  lines : after.active.lines = before.active.lines
  reverseVideo : after.active.reverseVideo = before.active.reverseVideo
  cursorRow : after.active.cursorRow = before.active.cursorRow + shift.1
  cursorColumn : after.active.cursorColumn = before.active.cursorColumn + shift.2
  revision : after.revision = before.revision

variable {columns rows : Int} {emulator : Emulator} {action : Action}

theorem revision_lt_of_grows {before after : Emulator}
    (primary : before.primary.Grows after.primary) (alt : before.alt.Grows after.alt)
    (counted : before.modeRevision < after.modeRevision) : before.revision < after.revision := by
  have hprimary := primary.screen
  have hsink := primary.sink
  have halt := alt.screen
  unfold sinkRevision at hsink
  unfold revision scrollbackRevision
  omega

theorem revision_enterAltScreen (saveCursor clear : Bool)
    (primary : emulator.altScreenActive = false) :
    emulator.revision < (emulator.enterAltScreen saveCursor clear).value.revision := by
  simp only [enterAltScreen, if_neg (Bool.eq_false_iff.mp primary), value_bind, value_pure]
  refine revision_lt_of_grows ?_ ?_ (Nat.lt_succ_self _)
  · split
    · exact ⟨Nat.le_refl _, Nat.le_refl _⟩
    · exact .refl _
  · have hclear (pen : Pen) : emulator.alt.Grows
        (if clear then clearAll { emulator.alt with pen } else
          pure { emulator.alt with pen }).value := by
      split
      · exact ⟨Nat.le_succ _, Nat.le_refl _⟩
      · exact ⟨Nat.le_refl _, Nat.le_refl _⟩
    exact (hclear _).trans (grows_setScrollRegion _ _ _)

theorem revision_leaveAltScreen (restoreCursor clear : Bool)
    (alt : emulator.altScreenActive = true) :
    emulator.revision < (emulator.leaveAltScreen restoreCursor clear).value.revision := by
  simp only [leaveAltScreen, if_pos alt, value_bind, value_pure]
  refine revision_lt_of_grows ?_ ?_ (Nat.lt_succ_self _)
  · split
    · exact grows_restoreCursor _
    · exact .refl _
  · dsimp only
    split
    · exact grows_clearAll _
    · exact .refl _

theorem revision_reset : emulator.revision < emulator.reset.value.revision := by
  refine revision_lt_of_grows ?_ emulator.alt.grows_reset (Nat.lt_succ_self _)
  refine Screen.Grows.trans ?_ (grows_reset _)
  refine ⟨Nat.le_refl _, ?_⟩
  unfold sinkRevision
  cases emulator.primary.sink with
  | none => exact Nat.le_refl _
  | some sink => exact sink.revision_clearScrollback

theorem perform_counted (size : GridSize columns rows) (fits : emulator.Fits columns rows)
    (counted : emulator.counts action = true) :
    emulator.revision < (emulator.perform action).value.revision := by
  cases action with
  | screen operation =>
    simp only [counts, active, Bool.and_eq_true, Bool.not_eq_true', Bool.and_eq_false_iff,
      beq_eq_false_iff_ne] at counted
    obtain ⟨hcounts, hscreen⟩ := counted
    simp only [perform, onActive, value_ite, value_bind, value_pure]
    split
    · rename_i hactive
      rw [if_pos hactive] at hcounts
      have hoperation : operation ≠ .eraseInDisplay 3 := by simpa [hactive] using hscreen
      have hadvances := (Operation.advances size fits.alt hcounts hoperation).screen
      simp only [revision, scrollbackRevision]
      omega
    · rename_i hactive
      rw [if_neg hactive] at hcounts
      have hadvances := Operation.advances_either size fits.primary hcounts
      simp only [sinkRevision] at hadvances
      simp only [revision, scrollbackRevision]
      omega
  | change change => exact Nat.lt_succ_self _
  | enterAltScreen saveCursor clear =>
    simp only [counts, Bool.not_eq_true'] at counted
    exact revision_enterAltScreen saveCursor clear counted
  | leaveAltScreen restoreCursor clear => exact revision_leaveAltScreen restoreCursor clear counted
  | reset => exact revision_reset
  | _ => cases counted

theorem moves_primary {shift : Int × Int} {next : Screen}
    (moves : emulator.primary.Moves shift next) (shown : ¬emulator.altScreenActive = true) :
    emulator.Moves shift { emulator with primary := next } := by
  have hbefore : emulator.active = emulator.primary := if_neg shown
  have hafter : active { emulator with primary := next } = next := if_neg shown
  refine ⟨rfl, rfl, ?_, ?_, ?_, ?_, ?_, ?_, ?_, ?_⟩
  · simp only [scrollback, moves.sink]
  · rw [hbefore, hafter, moves.columns]
  · rw [hbefore, hafter, moves.rows]
  · rw [hbefore, hafter, moves.lines]
  · rw [hbefore, hafter, moves.reverseVideo]
  · rw [hbefore, hafter, moves.cursorRow]
  · rw [hbefore, hafter, moves.cursorColumn]
  · simp only [revision, scrollbackRevision, moves.revision, moves.sink]

theorem moves_alt {shift : Int × Int} {next : Screen}
    (moves : emulator.alt.Moves shift { next with sink := emulator.alt.sink })
    (shown : emulator.altScreenActive = true) :
    emulator.Moves shift { emulator with alt := next } := by
  have hbefore : emulator.active = emulator.alt := if_pos shown
  have hafter : active { emulator with alt := next } = next := if_pos shown
  have hrevision : next.revision = emulator.alt.revision := moves.revision
  refine ⟨rfl, rfl, rfl, ?_, ?_, ?_, ?_, ?_, ?_, ?_⟩
  · rw [hbefore, hafter, ← moves.columns]
  · rw [hbefore, hafter, ← moves.rows]
  · rw [hbefore, hafter, ← moves.lines]
  · rw [hbefore, hafter, ← moves.reverseVideo]
  · rw [hbefore, hafter, ← moves.cursorRow]
  · rw [hbefore, hafter, ← moves.cursorColumn]
  · simp only [revision, scrollbackRevision, hrevision]

theorem moves_hidden {next : Screen} (shown : emulator.altScreenActive = true)
    (sink : next.sink = emulator.primary.sink)
    (revision : next.revision = emulator.primary.revision) :
    emulator.Moves (0, 0) { emulator with primary := next } := by
  have hactive : active { emulator with primary := next } = emulator.active := by
    simp only [active, if_pos shown]
  refine ⟨rfl, rfl, ?_, ?_, ?_, ?_, ?_, ?_, ?_, ?_⟩
  · simp only [scrollback, sink]
  · rw [hactive]
  · rw [hactive]
  · rw [hactive]
  · rw [hactive]
  · rw [hactive, Int.add_zero]
  · rw [hactive, Int.add_zero]
  · simp only [Emulator.revision, scrollbackRevision, revision, sink]

theorem perform_uncounted (fits : emulator.Fits columns rows) (bounded : action.Bounded)
    (uncounted : emulator.counts action = false) :
    emulator.Moves (emulator.shift action) (emulator.perform action).value := by
  have hstay : emulator.Moves (0, 0) emulator :=
    ⟨rfl, rfl, rfl, rfl, rfl, rfl, rfl, (Int.add_zero _).symm, (Int.add_zero _).symm, rfl⟩
  by_cases hshown : emulator.altScreenActive = true
  · have hactive : emulator.active = emulator.alt := if_pos hshown
    cases action with
    | screen operation =>
      simp only [counts, hactive, hshown] at uncounted
      simp only [perform, onActive, shift, hactive, if_pos hshown, value_bind, value_pure]
      by_cases hscrollback : operation = .eraseInDisplay 3
      · subst hscrollback
        exact moves_alt { Screen.Moves.refl emulator.alt with } hshown
      · refine moves_alt { Operation.moves bounded fits.alt ?_ with sink := rfl } hshown
        simpa [hscrollback] using uncounted
    | enterAltScreen saveCursor clear =>
      simp only [perform, enterAltScreen, if_pos hshown]
      exact hstay
    | leaveAltScreen restoreCursor clear =>
      rw [counts, hshown] at uncounted
      cases uncounted
    | savePrimaryCursor =>
      have hsave : emulator.Moves (0, 0) { emulator with primary := emulator.primary.saveCursor } :=
        moves_hidden hshown rfl rfl
      exact { hsave with }
    | restorePrimaryCursor =>
      have hrestore := @Operation.moves { emulator.primary with saved := emulator.altSavedCursor }
        columns rows .restoreCursor trivial
        { fits.primary with } rfl
      simp only [shift, if_pos hshown]
      exact moves_hidden hshown hrestore.sink hrestore.revision
    | respond text => exact { hstay with }
    | change | reset => cases uncounted
  · have hactive : emulator.active = emulator.primary := if_neg hshown
    cases action with
    | screen operation =>
      simp only [counts, hactive, Bool.not_eq_true _ ▸ hshown] at uncounted
      simp only [perform, onActive, shift, hactive, if_neg hshown, value_bind, value_pure]
      refine moves_primary (Operation.moves bounded fits.primary ?_) hshown
      simpa using uncounted
    | enterAltScreen saveCursor clear =>
      simp [counts, hshown] at uncounted
    | leaveAltScreen restoreCursor clear =>
      simp only [perform, leaveAltScreen, if_neg hshown]
      exact hstay
    | savePrimaryCursor =>
      have hsave : emulator.Moves (0, 0) { emulator with primary := emulator.primary.saveCursor } :=
        moves_primary { Screen.Moves.refl emulator.primary with } hshown
      exact { hsave with }
    | restorePrimaryCursor =>
      have hrestore := @Operation.moves { emulator.primary with saved := emulator.altSavedCursor }
        columns rows .restoreCursor trivial
        { fits.primary with } rfl
      simp only [shift, if_neg hshown]
      exact moves_primary { hrestore with } hshown
    | respond text => exact { hstay with }
    | change | reset => cases uncounted

def Trace.counts (trace : Trace) : Bool := trace.any fun step => step.1.counts step.2

/-- How far the steps that count no change move the cursor in all. -/
def Trace.shift (trace : Trace) : Int × Int :=
  ((trace.map fun step => (step.1.shift step.2).1).sum,
    (trace.map fun step => (step.1.shift step.2).2).sum)

theorem Moves.trans {first second : Int × Int} {before middle after : Emulator}
    (earlier : before.Moves first middle) (later : middle.Moves second after) :
    before.Moves (first.1 + second.1, first.2 + second.2) after where
  altScreenActive := later.altScreenActive.trans earlier.altScreenActive
  modes := later.modes.trans earlier.modes
  scrollback := later.scrollback.trans earlier.scrollback
  columns := later.columns.trans earlier.columns
  rows := later.rows.trans earlier.rows
  lines := later.lines.trans earlier.lines
  reverseVideo := later.reverseVideo.trans earlier.reverseVideo
  cursorRow := by rw [later.cursorRow, earlier.cursorRow, Int.add_assoc]
  cursorColumn := by rw [later.cursorColumn, earlier.cursorColumn, Int.add_assoc]
  revision := later.revision.trans earlier.revision

theorem Performs.counts_or_moves (size : GridSize columns rows) {final : Emulator} {steps : Trace}
    (performs : Performs columns rows emulator steps final) :
    if steps.counts then emulator.revision < final.revision else emulator.Moves steps.shift final := by
  induction performs with
  | done emulator =>
    exact ⟨rfl, rfl, rfl, rfl, rfl, rfl, rfl, (Int.add_zero _).symm, (Int.add_zero _).symm, rfl⟩
  | parse parser _ ih =>
    split
    · rename_i hcounts
      rwa [if_pos hcounts] at ih
    · rename_i hcounts
      rw [if_neg hcounts] at ih
      exact { ih with }
  | @step emulator final action steps fits bounded _ ih =>
    have hcounts : Trace.counts ((emulator, action) :: steps) =
        (emulator.counts action || steps.counts) := rfl
    have hrest : (emulator.perform action).value.revision ≤ final.revision := by
      split at ih
      · exact Nat.le_of_lt ih
      · exact Nat.le_of_eq ih.revision.symm
    cases haction : emulator.counts action with
    | true =>
      rw [hcounts, haction, Bool.true_or, if_pos rfl]
      exact Nat.lt_of_lt_of_le (perform_counted size fits haction) hrest
    | false =>
      have hmoves := perform_uncounted fits bounded haction
      rw [hcounts, haction, Bool.false_or]
      split
      · rename_i hsteps
        rw [if_pos hsteps] at ih
        exact hmoves.revision ▸ ih
      · rename_i hsteps
        rw [if_neg hsteps] at ih
        exact hmoves.trans ih

/-- Whether the last published snapshot is out of date. -/
def needsPublish (emulator : Emulator) (published : Nat) : Bool := emulator.revision != published

/-- A change that some snapshot would show is counted, so it will be published. -/
def Covers (before after : Emulator) : Prop :=
  ∀ scrollOffset selection,
    before.buildSnapshot scrollOffset selection ≠ after.buildSnapshot scrollOffset selection →
      before.revision < after.revision ∧
        ∀ published ≤ before.revision, after.needsPublish published = true

theorem Covers.of_lt {before after : Emulator} (counted : before.revision < after.revision) :
    before.Covers after := by
  intro scrollOffset selection _
  refine ⟨counted, fun published hpublished => ?_⟩
  simp only [needsPublish, bne_iff_ne]
  omega

theorem Fits.cursor_buildSnapshot (fits : emulator.Fits columns rows) (selection : Selection) :
    (emulator.buildSnapshot 0 selection).cursor.row = emulator.active.cursorRow := by
  have hrow := fits.active.cursorRow
  have hheight := fits.active.height
  simp only [buildSnapshot, Nat.zero_min, Int.natCast_zero, Int.add_zero]
  rw [if_pos (by omega)]

theorem Moves.covers_iff {shift : Int × Int} {before after : Emulator}
    (start : before.Fits columns rows) (finish : after.Fits columns rows)
    (moves : before.Moves shift after) : before.Covers after ↔ shift = (0, 0) := by
  constructor
  · intro hcovers
    by_contra hshift
    refine absurd (hcovers 0 {} ?_).1 (by rw [moves.revision]; exact Nat.lt_irrefl _)
    intro hsame
    have hrow := congrArg (fun snapshot => snapshot.cursor.row) hsame
    have hcolumn := congrArg (fun snapshot => snapshot.cursor.column) hsame
    rw [start.cursor_buildSnapshot, finish.cursor_buildSnapshot, moves.cursorRow] at hrow
    simp only [buildSnapshot, moves.cursorColumn] at hcolumn
    refine hshift (Prod.ext ?_ ?_) <;> dsimp only <;> omega
  · intro hshift scrollOffset selection hdiffers
    refine absurd ?_ hdiffers
    simp only [buildSnapshot, moves.altScreenActive, moves.modes, moves.scrollback, moves.columns,
      moves.rows, moves.lines, moves.reverseVideo, moves.cursorRow, moves.cursorColumn, hshift,
      Int.add_zero]

end Emulator

/-- The revision never goes back.  It covers what some bytes change exactly when a step that
they lead to counts a change, or the steps leave the cursor where it was. -/
theorem revision_covers (emulator : Emulator) (reachable : emulator.Reachable) (bytes : Bytes) :
    emulator.revision ≤ (Emulator.feed bytes emulator).value.revision ∧
      (emulator.Covers (Emulator.feed bytes emulator).value ↔
        (emulator.trace bytes).counts = true ∨ (emulator.trace bytes).shift = (0, 0)) := by
  obtain ⟨columns, rows, hsize, hfits⟩ := reachable.fitsGrid
  have hrun := (Emulator.performs_trace hsize bytes hfits).counts_or_moves hsize
  have hfinal := (hfits.feed hsize bytes).2
  cases hcounts : (emulator.trace bytes).counts with
  | true =>
    rw [if_pos hcounts] at hrun
    exact ⟨Nat.le_of_lt hrun, fun _ => .inl rfl, fun _ => .of_lt hrun⟩
  | false =>
    rw [if_neg (Bool.eq_false_iff.mp hcounts)] at hrun
    refine ⟨Nat.le_of_eq hrun.revision.symm, ?_⟩
    rw [hrun.covers_iff hfits hfinal]
    simp

/-- A line feed at the bottom scrolls and is counted. -/
theorem revision_covers_in_sampleEmulator :
    let emulator := sampleEmulator [0x61, 0x62]
    emulator.revision ≤ (Emulator.feed [0x0A, 0x0A] emulator).value.revision ∧
      (emulator.Covers (Emulator.feed [0x0A, 0x0A] emulator).value ↔
        (emulator.trace [0x0A, 0x0A]).counts = true ∨
          (emulator.trace [0x0A, 0x0A]).shift = (0, 0)) :=
  revision_covers (sampleEmulator [0x61, 0x62]) (reachable_sampleEmulator _) [0x0A, 0x0A]

/-- `ESC [ 2 ; 2 H` moves the cursor and is not counted. -/
theorem cursorToPosition_uncovered :
    let emulator := sampleEmulator [0x61, 0x62]
    emulator.Reachable ∧
      ¬emulator.Covers (Emulator.feed [0x1B, 0x5B, 0x32, 0x3B, 0x32, 0x48] emulator).value := by
  refine ⟨reachable_sampleEmulator _, fun hcovers => ?_⟩
  have hcounted := (hcovers 0 {} (by decide)).1
  exact absurd hcounted (by decide)

end Hypeterm.Term
