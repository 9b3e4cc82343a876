import Hypeterm.Term.Flattening
import Hypeterm.Term.MarkTarget
import Hypeterm.Term.Trace

/-! In every run, a combining mark goes to the character stored last, if that one is still where
it was stored. -/
namespace Hypeterm.Term
open Library Checked List

namespace Screen

variable {screen : Screen}

/-- The mark goes to a cell that holds the character stored last, or nowhere. -/
def MarksLast (screen : Screen) (stored : LastStored) (mark : Nat) : Prop :=
  let row := screen.lastWrittenRow
  let column := screen.lastWrittenColumn.toNat
  (screen.addCombiningMark mark).value = screen ∨
    ∃ cell, (screen.line row).cells[column]? = some cell ∧
      cell.code = stored.codePoint ∧ (cell.width : Int) = stored.width ∧
      (screen.addCombiningMark mark).value =
        (screen.mutableLine row fun line => pure (line.addMark column mark)).value

theorem value_addCombiningMark_gone (gone : screen.lastWrittenOnScreen = false) (mark : Nat) :
    (screen.addCombiningMark mark).value = screen := by
  have houtside := lastWrittenOnScreen_iff.not.mp (Bool.eq_false_iff.mp gone)
  unfold addCombiningMark
  rw [value_ite, value_ite]
  split
  · rfl
  · exact if_pos (by omega)

theorem value_addCombiningMark (shown : screen.lastWrittenOnScreen = true) (mark : Nat) :
    (screen.addCombiningMark mark).value =
      (screen.mutableLine screen.lastWrittenRow fun line =>
        pure (line.addMark screen.lastWrittenColumn.toNat mark)).value := by
  have hinside := lastWrittenOnScreen_iff.mp shown
  unfold addCombiningMark
  rw [if_neg (by omega), if_neg (by omega)]
  rfl

variable {stored : LastStored}

theorem HoldsLast.marksLast (holds : screen.HoldsLast stored)
    (there : (stored.inPlace || !screen.lastWrittenOnScreen) = true) (mark : Nat) :
    screen.MarksLast stored mark := by
  cases hshown : screen.lastWrittenOnScreen with
  | false => exact .inl (value_addCombiningMark_gone hshown mark)
  | true =>
    rw [hshown, Bool.not_true, Bool.or_false] at there
    obtain ⟨bare, hbare, hcode, hwidth⟩ := holds there hshown
    obtain ⟨cell, hcell, rfl⟩ := Option.map_eq_some_iff.mp hbare
    exact .inr ⟨cell, hcell, hcode, hwidth, value_addCombiningMark hshown mark⟩

theorem HoldsLast.gone {stored : LastStored} (gone : screen.lastWrittenOnScreen = false) :
    screen.HoldsLast stored := by
  intro _ shown
  rw [gone] at shown
  cases shown

theorem HoldsLast.clearAll (stored : LastStored) : screen.clearAll.value.HoldsLast stored :=
  HoldsLast.gone rfl

theorem HoldsLast.reset (stored : LastStored) : screen.reset.value.HoldsLast stored :=
  HoldsLast.clearAll stored

theorem spared_setScrollRegion (top bottom : Int) :
    screen.Spared (screen.setScrollRegion top bottom).value := by
  simp only [setScrollRegion, value_bind, value_pure]
  repeat' split
  all_goals exact (Spared.refl screen).of_eq rfl rfl rfl rfl rfl

theorem spared_restoreCursor : screen.Spared screen.restoreCursor.value := by
  unfold restoreCursor
  rw [value_ite]
  split
  · exact (Spared.refl screen).of_eq rfl rfl rfl rfl rfl
  · exact (Spared.refl screen).of_eq rfl rfl rfl rfl rfl

theorem lastWrittenOnScreen_resize {columns rows : Int}
    (different : ¬((if columns < 1 then 1 else columns) = screen.columns ∧
      (if rows < 1 then 1 else rows) = screen.rows)) :
    (screen.resize columns rows).value.lastWrittenOnScreen = false := by
  unfold Screen.resize
  rw [if_neg different]
  rfl

theorem HoldsLast.resize (holds : screen.HoldsLast stored)
    (columns rows : Int) : (screen.resize columns rows).value.HoldsLast stored := by
  by_cases hsame : (if columns < 1 then 1 else columns) = screen.columns ∧
      (if rows < 1 then 1 else rows) = screen.rows
  · unfold Screen.resize
    rwa [if_pos hsame]
  · exact .gone (lastWrittenOnScreen_resize hsame)

theorem HoldsLast.replaceLines (stored : LastStored) (lines : List Line)
    (cursorRow cursorColumn : Int) :
    (screen.replaceLines lines cursorRow cursorColumn).value.HoldsLast stored :=
  HoldsLast.gone rfl

theorem HoldsLast.restoreRows (holds : screen.HoldsLast stored)
    (sink : Scrollback) (columns rows : Int) :
    (screen.restoreRows sink columns rows).value.HoldsLast stored := by
  unfold Screen.restoreRows
  rw [value_bind, value_bind]
  generalize (size (int (rows - screen.rows)).value).value = count
  generalize sink.takeNewest count = taken
  obtain ⟨restored, rest⟩ := taken
  have hrest : screen.Spared { screen with sink := some rest } :=
    (Spared.refl screen).of_eq rfl rfl rfl rfl rfl
  rw [value_ite]
  split
  · exact HoldsLast.resize (holds.spared hrest) columns rows
  · rw [value_bind, value_bind, value_bind, value_bind]
    exact HoldsLast.replaceLines stored _ _ _

theorem HoldsLast.reflowResize (holds : screen.HoldsLast stored)
    (columns rows : Int) : (screen.reflowResize columns rows).value.HoldsLast stored := by
  unfold Screen.reflowResize
  cases screen.sink with
  | none => exact holds.resize columns rows
  | some sink =>
    rw [value_ite, value_ite]
    split
    · split
      · exact holds.restoreRows sink columns rows
      · exact holds.resize columns rows
    · rw [screen.value_rewrapRows]
      exact HoldsLast.replaceLines stored _ _ _

end Screen

/-- The characters stored last on both screens. -/
structure Stored where
  primary : LastStored := {}
  alt : LastStored := {}

def Stored.active (stored : Stored) (emulator : Emulator) : LastStored :=
  if emulator.altScreenActive then stored.alt else stored.primary

def Stored.after (stored : Stored) (emulator : Emulator) : Action → Stored
  | .screen operation =>
      if emulator.altScreenActive then { stored with alt := stored.alt.after emulator.alt operation }
      else { stored with primary := stored.primary.after emulator.primary operation }
  | _ => stored

/-- What is performed, in which state, and the characters that were stored last by then. -/
structure MarkStep where
  stored : Stored
  emulator : Emulator
  action : Action

/-- If a mark is added, no cell is remembered, or one that still has the character stored last. -/
def MarkStep.inPlace (step : MarkStep) : Bool :=
  match step.action with
  | .screen (.addCombiningMark _) =>
      (step.stored.active step.emulator).inPlace || !step.emulator.active.lastWrittenOnScreen
  | _ => true

def MarkStep.MarksLast (step : MarkStep) : Prop :=
  ∀ mark, step.action = .screen (.addCombiningMark mark) →
    step.emulator.active.MarksLast (step.stored.active step.emulator) mark

namespace Emulator

structure HoldsLast (emulator : Emulator) (stored : Stored) : Prop where
  primary : emulator.primary.HoldsLast stored.primary
  alt : emulator.alt.HoldsLast stored.alt

variable {emulator : Emulator} {stored : Stored}

theorem HoldsLast.active (holds : emulator.HoldsLast stored) :
    emulator.active.HoldsLast (stored.active emulator) := by
  unfold Emulator.active Stored.active
  split
  · exact holds.alt
  · exact holds.primary

theorem HoldsLast.enterAltScreen (holds : emulator.HoldsLast stored) (saveCursor clear : Bool) :
    (emulator.enterAltScreen saveCursor clear).value.HoldsLast stored := by
  unfold Emulator.enterAltScreen
  rw [value_ite]
  split
  · exact holds
  have hprimary : Screen.HoldsLast
      (if saveCursor then emulator.primary.saveCursor else emulator.primary) stored.primary := by
    split
    · exact holds.primary.spared ((Screen.Spared.refl _).of_eq rfl rfl rfl rfl rfl)
    · exact holds.primary
  refine ⟨hprimary, Screen.HoldsLast.spared ?_ (Screen.spared_setScrollRegion _ _)⟩
  rw [value_ite]
  split
  · exact .clearAll _
  · exact holds.alt.spared ((Screen.Spared.refl _).of_eq rfl rfl rfl rfl rfl)

theorem HoldsLast.leaveAltScreen (holds : emulator.HoldsLast stored) (restoreCursor clear : Bool) :
    (emulator.leaveAltScreen restoreCursor clear).value.HoldsLast stored := by
  unfold Emulator.leaveAltScreen
  rw [value_ite]
  split
  · have hprimary : (if restoreCursor then emulator.primary.restoreCursor
        else pure emulator.primary).value.HoldsLast stored.primary := by
      split
      · exact holds.primary.spared Screen.spared_restoreCursor
      · exact holds.primary
    have halt : (if clear then emulator.alt.clearAll
        else pure emulator.alt).value.HoldsLast stored.alt := by
      split
      · exact .clearAll _
      · exact holds.alt
    exact ⟨hprimary, halt⟩
  · exact holds

theorem HoldsLast.reset (stored : Stored) : emulator.reset.value.HoldsLast stored :=
  ⟨Screen.HoldsLast.reset _, Screen.HoldsLast.reset _⟩

theorem HoldsLast.perform {columns rows : Int} (size : GridSize columns rows)
    (fits : emulator.Fits columns rows) (holds : emulator.HoldsLast stored) {action : Action}
    (bounded : action.Bounded) :
    (emulator.perform action).value.HoldsLast (stored.after emulator action) := by
  cases action with
  | screen operation =>
    unfold Emulator.perform Emulator.onActive Stored.after
    rw [value_ite]
    split
    · exact ⟨holds.primary, holds.alt.perform size fits.alt bounded⟩
    · exact ⟨holds.primary.perform size fits.primary bounded, holds.alt⟩
  | change change => exact ⟨holds.primary, holds.alt⟩
  | enterAltScreen saveCursor clear => exact holds.enterAltScreen saveCursor clear
  | leaveAltScreen restoreCursor clear => exact holds.leaveAltScreen restoreCursor clear
  | savePrimaryCursor =>
    exact ⟨holds.primary.spared ((Screen.Spared.refl _).of_eq rfl rfl rfl rfl rfl), holds.alt⟩
  | restorePrimaryCursor =>
    have hsaved : emulator.primary.Spared
        { emulator.primary with saved := emulator.altSavedCursor } :=
      (Screen.Spared.refl _).of_eq rfl rfl rfl rfl rfl
    exact ⟨(holds.primary.spared hsaved).spared Screen.spared_restoreCursor, holds.alt⟩
  | respond text => exact ⟨holds.primary, holds.alt⟩
  | reset => exact .reset stored

theorem HoldsLast.resize (holds : emulator.HoldsLast stored) (columns rows : Int) :
    (emulator.resize columns rows).value.HoldsLast stored := by
  unfold Emulator.resize
  generalize (if columns < 1 then 1 else columns) = columns
  generalize (if rows < 1 then 1 else rows) = rows
  rw [value_ite]
  split
  · exact holds
  · exact ⟨holds.primary.reflowResize _ _, holds.alt.resize _ _⟩

def Trace.markSteps : Stored → Trace → List MarkStep
  | _, [] => []
  | stored, (emulator, action) :: rest =>
      { stored, emulator, action } :: markSteps (stored.after emulator action) rest

def Trace.lastStored : Stored → Trace → Stored
  | stored, [] => stored
  | stored, (emulator, action) :: rest => lastStored (stored.after emulator action) rest

theorem Performs.holdsLast {columns rows : Int} (size : GridSize columns rows) {final : Emulator}
    {steps : Trace} (performs : Performs columns rows emulator steps final)
    (holds : emulator.HoldsLast stored) : final.HoldsLast (Trace.lastStored stored steps) ∧
      ∀ step ∈ Trace.markSteps stored steps, step.emulator.HoldsLast step.stored := by
  induction performs generalizing stored with
  | done _ => exact ⟨holds, fun _ hstep => absurd hstep not_mem_nil⟩
  | parse parser _ ih => exact ih ⟨holds.primary, holds.alt⟩
  | step fits bounded _ ih =>
    obtain ⟨hfinal, hrest⟩ := ih (holds.perform size fits bounded)
    refine ⟨hfinal, fun step hstep => ?_⟩
    rcases mem_cons.mp hstep with rfl | hlater
    · exact holds
    · exact hrest step hlater

def inputTrace (emulator : Emulator) : Input → Trace
  | .feed bytes => emulator.trace bytes
  | _ => []

def markSteps : Stored → List Input → Emulator → List MarkStep
  | _, [], _ => []
  | stored, input :: rest, emulator =>
      Trace.markSteps stored (emulator.inputTrace input) ++
        markSteps (Trace.lastStored stored (emulator.inputTrace input)) rest
          (emulator.accept input).value

theorem holdsLast_markSteps {inputs : List Input} (sized : ∀ input ∈ inputs, input.Sized)
    {columns rows : Int} (size : GridSize columns rows) {emulator : Emulator}
    (fits : emulator.Fits columns rows) {stored : Stored} (holds : emulator.HoldsLast stored) :
    ∀ step ∈ markSteps stored inputs emulator, step.emulator.HoldsLast step.stored := by
  induction inputs generalizing columns rows emulator stored with
  | nil => exact fun _ hstep => absurd hstep not_mem_nil
  | cons input rest ih =>
    have hrest : ∀ other ∈ rest, other.Sized := fun other hother =>
      sized other (mem_cons_of_mem _ hother)
    have hinput := sized input mem_cons_self
    intro step hstep
    cases input with
    | feed bytes =>
      have hfed := (performs_trace size bytes fits).holdsLast size holds
      rcases mem_append.mp hstep with hnow | hlater
      · exact hfed.2 step hnow
      · exact ih hrest size (fits.feed size bytes).2 hfed.1 step hlater
    | resize newColumns newRows =>
      exact ih hrest hinput (fits.resize size hinput).2 (holds.resize _ _) step hstep
    | reset => exact ih hrest size (fits.reset size).2 (.reset stored) step hstep

theorem holdsLast_new (config : EmulatorConfig) : (Emulator.new config).value.HoldsLast {} :=
  ⟨.gone rfl, .gone rfl⟩

end Emulator

/-- In every run, a mark goes to the character stored last or nowhere, unless that character has
left the cell that is remembered for it. -/
theorem marks_last_stored (config : EmulatorConfig) (size : GridSize config.columns config.rows)
    (limits : config.scrollback.Sound) (inputs : List Input)
    (sized : ∀ input ∈ inputs, input.Sized) :
    ∀ step ∈ Emulator.markSteps {} inputs (Emulator.new config).value,
      step.inPlace = true → step.MarksLast := by
  intro step hstep hplace mark haction
  have hholds := Emulator.holdsLast_markSteps sized size (Emulator.holds_new size limits).2
    (Emulator.holdsLast_new config) step hstep
  unfold MarkStep.inPlace at hplace
  rw [haction] at hplace
  exact hholds.active.marksLast hplace mark

/-- The steps of a terminal of six columns and two rows that receives some bytes. -/
def sampleMarkSteps (bytes : Bytes) : List MarkStep :=
  Emulator.markSteps {} [.feed bytes]
    (Emulator.new { columns := 6, rows := 2, scrollback := sampleLimits }).value

/-- U+0301 after `a`. -/
theorem marks_last_stored_in_sample :
    ((sampleMarkSteps [0x61, 0xCC, 0x81]).map MarkStep.inPlace = [true, true] ∧
      (sampleEmulator [0x61, 0xCC, 0x81]).primary.lines.map Line.marks = [[(0, [0x301])], []]) ∧
    ∀ step ∈ sampleMarkSteps [0x61, 0xCC, 0x81], step.inPlace = true → step.MarksLast := by
  refine ⟨by decide +kernel, marks_last_stored _ ⟨by decide, by decide⟩ sound_sampleLimits _ ?_⟩
  intro input hinput
  rw [mem_singleton.mp hinput]
  exact trivial

/-- U+0301 goes to a blank cell after a line feed that scrolls `a` up, and after `ESC [ 2 K`. -/
theorem marks_moved : (∃ step ∈ sampleMarkSteps [0x0A, 0x61, 0x0A, 0xCC, 0x81], ¬step.MarksLast) ∧
    (sampleEmulator [0x0A, 0x61, 0x0A, 0xCC, 0x81]).primary.lines.map (fun line =>
      (line.cells[0]?.map Cell.code, line.marks)) =
        [(some 0x61, []), (some space, [(0, [0x301])])] ∧
    (sampleEmulator [0x61, 0x1B, 0x5B, 0x32, 0x4B, 0xCC, 0x81]).primary.lines.map (fun line =>
      (line.cells[0]?.map Cell.code, line.marks)) =
        [(some space, [(0, [0x301])]), (some space, [])] := by
  refine ⟨?_, by decide +kernel, by decide +kernel⟩
  have hblank : ∃ step ∈ sampleMarkSteps [0x0A, 0x61, 0x0A, 0xCC, 0x81],
      step.action = .screen (.addCombiningMark 0x301) ∧
      (step.stored.active step.emulator).codePoint = 0x61 ∧
      (step.emulator.active.line step.emulator.active.lastWrittenRow).cells[
        step.emulator.active.lastWrittenColumn.toNat]?.map Cell.code = some space ∧
      (step.emulator.active.addCombiningMark 0x301).value.lines.map Line.marks ≠
        step.emulator.active.lines.map Line.marks := by
    decide +kernel
  obtain ⟨step, hstep, haction, hstored, hspace, hmarked⟩ := hblank
  refine ⟨step, hstep, fun hlast => ?_⟩
  rcases hlast 0x301 haction with hnone | ⟨cell, hcell, hcode, -⟩
  · exact hmarked (congrArg (fun screen : Screen => screen.lines.map Line.marks) hnone)
  · rw [hcell, Option.map_some, hcode, hstored] at hspace
    exact absurd hspace (by decide)

end Hypeterm.Term
