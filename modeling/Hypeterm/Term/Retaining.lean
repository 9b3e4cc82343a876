import Hypeterm.Term.EveryRow
import Hypeterm.Term.Isolation

/-! Writing, erasing and moving leave the pen and the saved cursor alone. -/
namespace Hypeterm.Term
open Library Checked

namespace Screen

structure Retains (before after : Screen) : Prop where
  pen : after.pen = before.pen
  saved : after.saved = before.saved

theorem Retains.refl (screen : Screen) : screen.Retains screen := ⟨rfl, rfl⟩

theorem Retains.trans {before middle after : Screen} (first : before.Retains middle)
    (second : middle.Retains after) : before.Retains after :=
  ⟨second.pen.trans first.pen, second.saved.trans first.saved⟩

section

variable (screen : Screen)
include screen

theorem retains_scrollRegionUp (top bottom count : Int) (toScrollback : Bool) :
    screen.Retains (screen.scrollRegionUp top bottom count toScrollback).value := by
  unfold scrollRegionUp
  rw [value_ite]
  split
  · exact .refl _
  rw [value_bind, value_bind, value_ite]
  generalize (if _ < count then _ else count) = clipped
  split
  · exact .refl _
  obtain ⟨sink, hpushed⟩ := value_pushRows top toScrollback clipped.toNat screen
  rw [value_bind, hpushed]
  exact ⟨rfl, rfl⟩

theorem retains_scrollRegionDown (top bottom count : Int) :
    screen.Retains (screen.scrollRegionDown top bottom count).value := by
  unfold scrollRegionDown
  rw [value_ite]
  split
  · exact .refl _
  rw [value_bind, value_bind, value_ite]
  generalize (if _ < count then _ else count) = clipped
  split
  · exact .refl _
  · exact ⟨rfl, rfl⟩

theorem retains_lineFeed : screen.Retains screen.lineFeed.value := by
  have hscrolled := retains_scrollRegionUp screen screen.scrollTop screen.scrollBottom 1
    (screen.scrollTop == 0)
  unfold lineFeed
  rw [value_bind, value_bind, value_pure, value_ite, value_ite]
  split
  · exact ⟨hscrolled.pen, hscrolled.saved⟩
  split
  · exact ⟨rfl, rfl⟩
  · exact ⟨rfl, rfl⟩

theorem retains_fillRows (first count : Int) (blank : Cell) :
    screen.Retains (screen.fillRows first count blank).value :=
  @value_forUp_induction Screen _ (Retains screen)
    (fun _ _ retains => retains.trans ⟨rfl, rfl⟩) _ _ _ (.refl screen)

theorem retains_insertCharacters (count : Int) :
    screen.Retains (screen.insertCharacters count).value := by
  simp only [insertCharacters, value_bind, value_ite, value_pure]
  repeat' split
  all_goals exact ⟨rfl, rfl⟩

theorem retains_takePendingWrap : screen.Retains screen.takePendingWrap.value := by
  unfold takePendingWrap
  rw [value_ite]
  split
  · have hhome : screen.Retains { (screen.mutableLine screen.cursorRow fun line =>
        pure { line with wrapped := true }).value with cursorColumn := 0 } := ⟨rfl, rfl⟩
    have hnext := hhome.trans (retains_lineFeed _)
    exact ⟨hnext.pen, hnext.saved⟩
  · exact .refl _

theorem retains_writeAtCursor (codePoint : Nat) (width : Int) :
    screen.Retains (screen.writeAtCursor codePoint width).value := by
  obtain ⟨inserted, hretains, hvalue⟩ : ∃ inserted : Screen, screen.Retains inserted ∧
      (if screen.insertMode then screen.insertCharacters width else pure screen).value = inserted := by
    refine ⟨_, ?_, rfl⟩
    split
    · exact retains_insertCharacters screen width
    · exact .refl _
  unfold writeAtCursor
  rw [value_bind, hvalue]
  simp only [value_bind, value_ite, value_pure]
  split
  · exact ⟨hretains.pen, hretains.saved⟩
  · exact ⟨hretains.pen, hretains.saved⟩

theorem retains_addCombiningMark (mark : Nat) :
    screen.Retains (screen.addCombiningMark mark).value := by
  unfold addCombiningMark
  rw [value_ite, value_ite]
  repeat' split
  all_goals exact ⟨rfl, rfl⟩

theorem retains_putChar (codePoint : Nat) (width : Int) :
    screen.Retains (screen.putChar codePoint width).value := by
  have hnext := retains_takePendingWrap screen
  unfold putChar
  rw [value_ite]
  split
  · exact retains_addCombiningMark screen codePoint
  rw [value_bind, value_bind, value_ite, value_ite]
  generalize screen.takePendingWrap.value = next at hnext ⊢
  split
  · split
    · have hhome : next.Retains { (next.blankAtMargin fun line =>
          pure { line with wrapped := true }).value with cursorColumn := 0 } := ⟨rfl, rfl⟩
      have hfed := hnext.trans (hhome.trans (retains_lineFeed _))
      exact hfed.trans (retains_writeAtCursor _ codePoint width)
    · exact ⟨hnext.pen, hnext.saved⟩
  · exact hnext.trans (retains_writeAtCursor _ codePoint width)

theorem retains_repeatLast (count : Int) : screen.Retains (screen.repeatLast count).value := by
  unfold repeatLast
  rw [value_ite]
  split
  · exact .refl _
  · exact @value_forUp_induction Screen _ (Retains screen)
      (fun _ _ retains => retains.trans (retains_putChar _ _ _)) _ _ _ (.refl screen)

theorem retains_eraseInDisplay (mode : Int) :
    screen.Retains (screen.eraseInDisplay mode).value := by
  unfold eraseInDisplay
  have hunwrap {other : Screen} (retains : screen.Retains other) :
      screen.Retains { other with pendingWrap := false } := ⟨retains.pen, retains.saved⟩
  apply hunwrap
  rw [value_ite, value_ite, value_ite, value_ite]
  split
  · rw [value_bind, value_bind, value_bind]
    refine Retains.trans ?_ (retains_fillRows _ _ _ _)
    exact ⟨rfl, rfl⟩
  split
  · rw [value_bind]
    refine Retains.trans ?_ (retains_fillRows _ _ _ _)
    exact ⟨rfl, rfl⟩
  split
  · exact retains_fillRows screen _ _ _
  split
  · exact ⟨rfl, rfl⟩
  · exact .refl _

theorem saved_restoreCursor : screen.restoreCursor.value.saved = screen.saved := by
  unfold restoreCursor
  rw [value_ite]
  split
  · rfl
  · rfl

end

end Screen

def Operation.retains : Operation → Bool
  | .saveCursor | .restoreCursor | .setPen _ => false
  | _ => true

theorem Operation.retains_perform {operation : Operation} (retains : operation.retains = true)
    (screen : Screen) : screen.Retains (operation.perform screen).value := by
  cases operation with
  | putChar codePoint width => exact screen.retains_putChar codePoint width
  | addCombiningMark mark => exact screen.retains_addCombiningMark mark
  | repeatLast count => exact screen.retains_repeatLast count
  | lineFeed => exact screen.retains_lineFeed
  | reverseIndex =>
    have hscrolled := screen.retains_scrollRegionDown screen.scrollTop screen.scrollBottom 1
    unfold Operation.perform Screen.reverseIndex
    rw [value_bind, value_pure, value_ite, value_ite]
    split
    · exact ⟨hscrolled.pen, hscrolled.saved⟩
    split
    · exact ⟨rfl, rfl⟩
    · exact ⟨rfl, rfl⟩
  | saveCursor | restoreCursor | setPen pen => cases retains
  | eraseInDisplay mode => exact screen.retains_eraseInDisplay mode
  | insertCharacters count => exact screen.retains_insertCharacters count
  | insertLines count =>
    have hscrolled := screen.retains_scrollRegionDown screen.cursorRow screen.scrollBottom
      (if count < 1 then 1 else count)
    unfold Operation.perform Screen.insertLines
    rw [value_ite]
    split
    · exact .refl _
    · exact ⟨hscrolled.pen, hscrolled.saved⟩
  | deleteLines count =>
    have hscrolled := screen.retains_scrollRegionUp screen.cursorRow screen.scrollBottom
      (if count < 1 then 1 else count) false
    unfold Operation.perform Screen.deleteLines
    rw [value_ite]
    split
    · exact .refl _
    · exact ⟨hscrolled.pen, hscrolled.saved⟩
  | scrollUp count => exact screen.retains_scrollRegionUp _ _ _ _
  | scrollDown count => exact screen.retains_scrollRegionDown _ _ _
  | fillScreen codePoint =>
    have hfilled :=
      screen.retains_fillRows 0 screen.rows { blankCell screen.pen with code := codePoint }
    exact ⟨hfilled.pen, hfilled.saved⟩
  | setScrollRegion top bottom =>
    simp only [Operation.perform, Screen.setScrollRegion, value_bind, value_pure]
    repeat' split
    all_goals exact ⟨rfl, rfl⟩
  | _ =>
    simp only [Operation.perform, Screen.backspace, Screen.setTabStop, Screen.clearTabStop,
      Screen.deleteCharacters, value_ite, value_bind, value_pure]
    repeat' split
    all_goals exact ⟨rfl, rfl⟩

theorem Operation.saved_perform {operation : Operation} (other : operation ≠ .saveCursor)
    (screen : Screen) : (operation.perform screen).value.saved = screen.saved := by
  by_cases hretains : operation.retains = true
  · exact (retains_perform hretains screen).saved
  cases operation with
  | saveCursor => exact absurd rfl other
  | restoreCursor => exact screen.saved_restoreCursor
  | setPen pen => rfl
  | _ => exact absurd rfl hretains

namespace Emulator

variable {emulator : Emulator}

theorem retains_interrupt {event : Event} (interrupts : Interrupts event) :
    emulator.active.Retains (emulator.handle event).value.active := by
  cases event with
  | print codePoint =>
    simp only [handle, actions, onPrint, value_bind, value_pure]
    split
    · exact .refl _
    split
    · rw [performAll_screen]
      exact emulator.active.retains_addCombiningMark _
    · rw [performAll_screen]
      exact emulator.active.retains_putChar _ _
  | osc parts truncated =>
    simp only [handle, actions, onOsc, value_bind, value_pure]
    split
    · exact .refl _
    split
    · split
      · exact .refl _
      · exact .refl _
    · exact .refl _
  | dcs params final data truncated => exact .refl _
  | execute | escape | csi => exact interrupts.elim

theorem retains_escape (emulator : Emulator) :
    emulator.active.Retains (emulator.feedByte 0x1B).value.active := by
  obtain ⟨-, hevents⟩ := parser_feedByte_escape emulator.parser
  have hall {events : List Event} (interrupts : ∀ event ∈ events, Interrupts event)
      (other : Emulator) : other.active.Retains (handleAll events other).value.active := by
    induction events generalizing other with
    | nil => exact .refl _
    | cons event rest ih =>
      refine (retains_interrupt (interrupts event List.mem_cons_self)).trans (ih ?_ _)
      exact fun later hlater => interrupts later (List.mem_cons_of_mem _ hlater)
  exact hall (fun event hevent => (hevents event hevent).1)
    { emulator with parser := (emulator.parser.feedByte 0x1B).value.1 }

end Emulator

end Hypeterm.Term
