import Hypeterm.Term.Retaining

/-! Saving and restoring the cursor, with anything between that leaves the saved cursor alone.
The character sets belong to the emulator and are not among what is saved. -/
namespace Hypeterm.Term
open Library Checked List

def saveSequence : Bytes := [0x1B, 0x37]

def restoreSequence : Bytes := [0x1B, 0x38]

/-- Neither a save nor a restore, nor a switch of screens, nor RIS. -/
def Action.keepsSaved : Action → Bool
  | .screen .saveCursor | .screen .restoreCursor => false
  | .enterAltScreen _ _ | .leaveAltScreen _ _ => false
  | .savePrimaryCursor | .restorePrimaryCursor => false
  | .reset => false
  | _ => true

def Action.designatesG0 : Action → Option UInt8
  | .change (.charsetG0 charset) => some charset
  | _ => none

def Action.designatesG1 : Action → Option UInt8
  | .change (.charsetG1 charset) => some charset
  | _ => none

namespace Emulator

def Trace.keepsSaved (trace : Trace) : Bool := trace.all fun step => step.2.keepsSaved

/-- The designation in force after the steps, if they make any. -/
def Trace.lastG0 (trace : Trace) : Option UInt8 :=
  (trace.filterMap fun step => step.2.designatesG0).getLast?

def Trace.lastG1 (trace : Trace) : Option UInt8 :=
  (trace.filterMap fun step => step.2.designatesG1).getLast?

/-- The same screen is shown, with the same cursor saved. -/
structure KeepsSaved (before after : Emulator) : Prop where
  altScreenActive : after.altScreenActive = before.altScreenActive
  saved : after.active.saved = before.active.saved

theorem KeepsSaved.trans {before middle after : Emulator} (first : before.KeepsSaved middle)
    (second : middle.KeepsSaved after) : before.KeepsSaved after :=
  ⟨second.altScreenActive.trans first.altScreenActive, second.saved.trans first.saved⟩

theorem keepsSaved_perform {action : Action} (keeps : action.keepsSaved = true)
    (emulator : Emulator) : emulator.KeepsSaved (emulator.perform action).value := by
  cases action with
  | screen operation =>
    refine ⟨(onActive_screen operation).altScreenActive, ?_⟩
    rw [perform, onActive_active]
    apply Operation.saved_perform
    rintro rfl
    cases keeps
  | change change => exact ⟨rfl, rfl⟩
  | respond text => exact ⟨rfl, rfl⟩
  | enterAltScreen | leaveAltScreen | savePrimaryCursor | restorePrimaryCursor | reset => cases keeps

theorem charsets_perform {action : Action} (keeps : action.keepsSaved = true) (emulator : Emulator) :
    (emulator.perform action).value.modes.charsetG0 =
        action.designatesG0.getD emulator.modes.charsetG0 ∧
      (emulator.perform action).value.modes.charsetG1 =
        action.designatesG1.getD emulator.modes.charsetG1 := by
  cases action with
  | screen operation =>
    simp only [perform, onActive, value_ite, value_bind, value_pure]
    split
    · exact ⟨rfl, rfl⟩
    · exact ⟨rfl, rfl⟩
  | change change => cases change <;> exact ⟨rfl, rfl⟩
  | respond text => exact ⟨rfl, rfl⟩
  | enterAltScreen | leaveAltScreen | savePrimaryCursor | restorePrimaryCursor | reset => cases keeps

variable {columns rows : Int} {emulator final : Emulator} {steps : Trace}

theorem Performs.keepsSaved (performs : Performs columns rows emulator steps final)
    (keeps : Trace.keepsSaved steps = true) : emulator.KeepsSaved final := by
  induction performs with
  | done _ => exact ⟨rfl, rfl⟩
  | parse parser _ ih => exact ⟨(ih keeps).altScreenActive, (ih keeps).saved⟩
  | step _ _ _ ih =>
    rw [Trace.keepsSaved, all_cons, Bool.and_eq_true] at keeps
    exact (keepsSaved_perform keeps.1 _).trans (ih keeps.2)

theorem getLast_getD_cons (designated : Option UInt8) (later : List UInt8) (charset : UInt8) :
    (later.getLast?).getD (designated.getD charset) =
      ((designated.toList ++ later).getLast?).getD charset := by
  cases designated with
  | none => rfl
  | some first =>
    rw [Option.toList_some, singleton_append, getLast?_cons]
    rfl

theorem Performs.charsets (performs : Performs columns rows emulator steps final)
    (keeps : Trace.keepsSaved steps = true) :
    final.modes.charsetG0 = (Trace.lastG0 steps).getD emulator.modes.charsetG0 ∧
      final.modes.charsetG1 = (Trace.lastG1 steps).getD emulator.modes.charsetG1 := by
  induction performs with
  | done _ => exact ⟨rfl, rfl⟩
  | parse parser _ ih => exact ih keeps
  | @step emulator final action steps _ _ _ ih =>
    rw [Trace.keepsSaved, all_cons, Bool.and_eq_true] at keeps
    obtain ⟨hfirst, hsecond⟩ := ih keeps.2
    obtain ⟨hG0, hG1⟩ := charsets_perform keeps.1 emulator
    rw [hG0, Trace.lastG0, getLast_getD_cons] at hfirst
    rw [hG1, Trace.lastG1, getLast_getD_cons] at hsecond
    refine ⟨hfirst.trans ?_, hsecond.trans ?_⟩
    · rw [Trace.lastG0, filterMap_cons]
      cases action.designatesG0 <;> rfl
    · rw [Trace.lastG1, filterMap_cons]
      cases action.designatesG1 <;> rfl

theorem charsets_escape (emulator : Emulator) :
    (emulator.feedByte 0x1B).value.modes.charsetG0 = emulator.modes.charsetG0 ∧
      (emulator.feedByte 0x1B).value.modes.charsetG1 = emulator.modes.charsetG1 := by
  obtain ⟨-, hevents⟩ := parser_feedByte_escape emulator.parser
  have hone {event : Event} (interrupts : Interrupts event) (other : Emulator) :
      (other.handle event).value.modes.charsetG0 = other.modes.charsetG0 ∧
        (other.handle event).value.modes.charsetG1 = other.modes.charsetG1 := by
    cases event with
    | print codePoint =>
      simp only [handle, actions, onPrint, value_bind, value_pure]
      split
      · exact ⟨rfl, rfl⟩
      split
      · exact @charsets_perform (.screen _) rfl other
      · exact @charsets_perform (.screen _) rfl other
    | osc parts truncated =>
      simp only [handle, actions, onOsc, value_bind, value_pure]
      split
      · exact ⟨rfl, rfl⟩
      split
      · split
        · exact ⟨rfl, rfl⟩
        · exact ⟨rfl, rfl⟩
      · exact ⟨rfl, rfl⟩
    | dcs params final data truncated => exact ⟨rfl, rfl⟩
    | execute | escape | csi => exact interrupts.elim
  have hall {events : List Event} (interrupts : ∀ event ∈ events, Interrupts event)
      (other : Emulator) :
      (handleAll events other).value.modes.charsetG0 = other.modes.charsetG0 ∧
        (handleAll events other).value.modes.charsetG1 = other.modes.charsetG1 := by
    induction events generalizing other with
    | nil => exact ⟨rfl, rfl⟩
    | cons event rest ih =>
      have hevent := hone (interrupts event mem_cons_self) other
      have hrest := ih (fun later hlater => interrupts later (mem_cons_of_mem _ hlater))
        (other.handle event).value
      exact ⟨hrest.1.trans hevent.1, hrest.2.trans hevent.2⟩
  exact hall (fun event hevent => (hevents event hevent).1)
    { emulator with parser := (emulator.parser.feedByte 0x1B).value.1 }

theorem intermediates_feedByte_escape (parser : Parser) :
    (parser.feedByte 0x1B).value.1.intermediates = [] := by
  unfold Parser.feedByte
  cases parser.state <;> rfl

theorem feedByte_final {final : UInt8} (escape : emulator.parser.state = .escape)
    (bare : emulator.parser.intermediates = []) (saves : final = 0x37 ∨ final = 0x38) :
    (emulator.feedByte final).value = (handle
      { emulator with parser := emulator.parser.enterState .ground } (.escape [] final)).value := by
  have hfed : (emulator.parser.feedByte final).value =
      (emulator.parser.enterState .ground, [.escape [] final]) := by
    unfold Parser.feedByte
    rw [escape, ← bare]
    rcases saves with rfl | rfl
    · rfl
    · rfl
  simp only [feedByte, value_bind, hfed, handleAll, value_pure]

theorem bare_feedByte_escape (emulator : Emulator) :
    (emulator.feedByte 0x1B).value.parser.intermediates = [] := by
  obtain ⟨-, hactive, -⟩ := feedByte_escape emulator
  exact (congrArg Parser.intermediates hactive.parser).trans (intermediates_feedByte_escape _)

/-- `ESC 7` and `ESC 8` work on what their ESC left. -/
theorem feed_escaped {final : UInt8} {operation : Operation}
    (means : (final = 0x37 ∧ operation = .saveCursor) ∨ final = 0x38 ∧ operation = .restoreCursor)
    (emulator : Emulator) :
    (feed [0x1B, final] emulator).value.altScreenActive =
        (emulator.feedByte 0x1B).value.altScreenActive ∧
      (feed [0x1B, final] emulator).value.modes = (emulator.feedByte 0x1B).value.modes ∧
      (feed [0x1B, final] emulator).value.active =
        (operation.perform (emulator.feedByte 0x1B).value.active).value := by
  have hfinal := @feedByte_final _ final (feedByte_escape emulator).1
    (bare_feedByte_escape emulator) (means.imp And.left And.left)
  have hfed : (feed [0x1B, final] emulator).value =
      ((emulator.feedByte 0x1B).value.feedByte final).value := rfl
  rw [hfed, hfinal]
  generalize (emulator.feedByte 0x1B).value = escaped
  have hhandled : (handle { escaped with parser := escaped.parser.enterState .ground }
      (.escape [] final)).value =
      (onActive { escaped with parser := escaped.parser.enterState .ground } operation).value := by
    rcases means with ⟨rfl, rfl⟩ | ⟨rfl, rfl⟩
    · rfl
    · rfl
  rw [hhandled, onActive_active]
  refine ⟨(onActive_screen operation).altScreenActive, ?_, rfl⟩
  unfold onActive
  rw [value_ite]
  split
  · rfl
  · rfl

end Emulator

/-- What saving and restoring the cursor is to bring back. -/
structure Restored (before after : Emulator) : Prop where
  cursorRow : after.active.cursorRow = before.active.cursorRow
  cursorColumn : after.active.cursorColumn = before.active.cursorColumn
  pen : after.active.pen = before.active.pen
  originMode : after.active.originMode = before.active.originMode
  autowrap : after.active.autowrap = before.active.autowrap
  charsetG0 : after.modes.charsetG0 = before.modes.charsetG0
  charsetG1 : after.modes.charsetG1 = before.modes.charsetG1

theorem Screen.restoreCursor_saved {columns rows : Int} {before after : Screen}
    (fits : before.Fits columns rows) (same : after.Fits columns rows)
    (saved : after.saved = before.saveCursor.saved) :
    after.restoreCursor.value =
      { after with
        originMode := before.originMode
        autowrap := before.autowrap
        pen := before.pen
        cursorRow := before.cursorRow
        cursorColumn := before.cursorColumn
        pendingWrap := false } := by
  have hrow := fits.cursorRow
  have hcolumn := fits.cursorColumn
  have hheight := same.height
  have hwidth := same.width
  have hclampedRow : clamp before.cursorRow 0 (after.rows - 1) = before.cursorRow :=
    clamp_of_mem (by omega)
  have hclampedColumn : clamp before.cursorColumn 0 (after.columns - 1) = before.cursorColumn :=
    clamp_of_mem (by omega)
  simp only [restoreCursor, saved, saveCursor, if_pos, value_bind, value_pure, value_int,
    hclampedRow, hclampedColumn]

/-- The last designations of a string, if it makes any, are of the sets in force before. -/
def KeepsCharsets (modes : Modes) (trace : Emulator.Trace) : Prop :=
  (∀ charset, Emulator.Trace.lastG0 trace = some charset → charset = modes.charsetG0) ∧
    ∀ charset, Emulator.Trace.lastG1 trace = some charset → charset = modes.charsetG1

theorem getD_eq_iff (designated : Option UInt8) (charset : UInt8) :
    designated.getD charset = charset ↔ ∀ other, designated = some other → other = charset := by
  cases designated with
  | none => exact iff_of_true rfl fun other hother => by cases hother
  | some first =>
    constructor
    · rintro hfirst other ⟨⟩
      exact hfirst
    · exact fun hall => hall first rfl

/-- Whatever comes between, everything is restored if and only if the string leaves the sets
that it designates as they were. -/
theorem restored_iff {emulator : Emulator} (reachable : emulator.Reachable) (text : Bytes)
    (between : Emulator.Trace.keepsSaved
      ((Emulator.feed saveSequence emulator).value.trace text) = true) :
    Restored (emulator.feedByte 0x1B).value
        (Emulator.feed (saveSequence ++ (text ++ restoreSequence)) emulator).value ↔
      KeepsCharsets (emulator.feedByte 0x1B).value.modes
        ((Emulator.feed saveSequence emulator).value.trace text) := by
  obtain ⟨columns, rows, hsize, hfits⟩ := reachable.fitsGrid
  have hescaped : (emulator.feedByte 0x1B).value.Fits columns rows := (hfits.feed hsize [0x1B]).2
  have hsaved : (Emulator.feed saveSequence emulator).value.Fits columns rows :=
    (hfits.feed hsize _).2
  obtain ⟨hshown, hmodes, hactive⟩ := Emulator.feed_escaped (.inl ⟨rfl, rfl⟩) emulator
  have hperforms := Emulator.performs_trace hsize text hsaved
  have hkept := hperforms.keepsSaved between
  obtain ⟨hG0, hG1⟩ := hperforms.charsets between
  have hmiddle := (hsaved.feed hsize (text ++ [0x1B])).2
  rw [Emulator.feed_append, Emulator.feed_append]
  rw [Emulator.feed_append] at hmiddle
  generalize (Emulator.feed saveSequence emulator).value.trace text = steps at hG0 hG1 ⊢
  change (Emulator.feed saveSequence emulator).value.modes = _ at hmodes
  change (Emulator.feed saveSequence emulator).value.active = _ at hactive
  rw [hmodes] at hG0 hG1
  have hrecord := hkept.saved
  rw [hactive] at hrecord
  generalize (Emulator.feed text (Emulator.feed saveSequence emulator).value).value = middle
    at hmiddle hrecord hG0 hG1 ⊢
  obtain ⟨-, hlastModes, hlastActive⟩ := Emulator.feed_escaped (.inr ⟨rfl, rfl⟩) middle
  obtain ⟨hlastG0, hlastG1⟩ := Emulator.charsets_escape middle
  have hback := Screen.restoreCursor_saved hescaped.active hmiddle.active
    ((Emulator.retains_escape middle).saved.trans hrecord)
  have hnow := hlastActive.trans hback
  have hfinalG0 := (congrArg Modes.charsetG0 hlastModes).trans (hlastG0.trans hG0)
  have hfinalG1 := (congrArg Modes.charsetG1 hlastModes).trans (hlastG1.trans hG1)
  have hsets : KeepsCharsets (emulator.feedByte 0x1B).value.modes steps ↔
      (Emulator.Trace.lastG0 steps).getD (emulator.feedByte 0x1B).value.modes.charsetG0 =
          (emulator.feedByte 0x1B).value.modes.charsetG0 ∧
        (Emulator.Trace.lastG1 steps).getD (emulator.feedByte 0x1B).value.modes.charsetG1 =
          (emulator.feedByte 0x1B).value.modes.charsetG1 :=
    (and_congr (getD_eq_iff _ _) (getD_eq_iff _ _)).symm
  rw [hsets, ← hfinalG0, ← hfinalG1]
  constructor
  · exact fun restored => ⟨restored.charsetG0, restored.charsetG1⟩
  · rintro ⟨hfirst, hsecond⟩
    exact
      { cursorRow := (congrArg Screen.cursorRow hnow).trans rfl
        cursorColumn := (congrArg Screen.cursorColumn hnow).trans rfl
        pen := (congrArg Screen.pen hnow).trans rfl
        originMode := (congrArg Screen.originMode hnow).trans rfl
        autowrap := (congrArg Screen.autowrap hnow).trans rfl
        charsetG0 := hfirst
        charsetG1 := hsecond }

/-- `ESC ( 0`: the line drawing set stays after the cursor is restored. -/
theorem charset_not_restored : (sampleEmulator []).Reachable ∧
      Emulator.Trace.keepsSaved ((Emulator.feed saveSequence (sampleEmulator [])).value.trace
        [0x1B, 0x28, 0x30]) = true ∧
      ((sampleEmulator []).feedByte 0x1B).value.modes.charsetG0 = 0x42 ∧
      (Emulator.feed (saveSequence ++ ([0x1B, 0x28, 0x30] ++ restoreSequence))
        (sampleEmulator [])).value.modes.charsetG0 = 0x30 ∧
      ¬Restored ((sampleEmulator []).feedByte 0x1B).value
        (Emulator.feed (saveSequence ++ ([0x1B, 0x28, 0x30] ++ restoreSequence))
          (sampleEmulator [])).value := by
  have hafter : (Emulator.feed (saveSequence ++ ([0x1B, 0x28, 0x30] ++ restoreSequence))
      (sampleEmulator [])).value.modes.charsetG0 = 0x30 := by decide
  have hbefore : ((sampleEmulator []).feedByte 0x1B).value.modes.charsetG0 = 0x42 := by
    decide
  refine ⟨reachable_sampleEmulator _, by decide, hbefore, hafter, fun restored => ?_⟩
  have hsame := hafter.symm.trans (restored.charsetG0.trans hbefore)
  exact absurd hsame (by decide)

/-- A bold letter after the set is designated again. -/
theorem restored_bold_letter : Restored ((sampleEmulator [0x61]).feedByte 0x1B).value
        (Emulator.feed (saveSequence ++
          ([0x1B, 0x5B, 0x31, 0x6D, 0x41, 0x1B, 0x28, 0x42] ++ restoreSequence))
          (sampleEmulator [0x61])).value ↔
      KeepsCharsets ((sampleEmulator [0x61]).feedByte 0x1B).value.modes
        ((Emulator.feed saveSequence (sampleEmulator [0x61])).value.trace
          [0x1B, 0x5B, 0x31, 0x6D, 0x41, 0x1B, 0x28, 0x42]) :=
  restored_iff (reachable_sampleEmulator [0x61]) [0x1B, 0x5B, 0x31, 0x6D, 0x41, 0x1B, 0x28, 0x42]
    (by decide)

end Hypeterm.Term
