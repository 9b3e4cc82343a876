import Hypeterm.Term.Trace

/-! The alternate screen is isolated: what is written while it is shown leaves the primary
screen alone. -/
namespace Hypeterm.Term
open Library Checked List

def enterAlternate : Bytes := [0x1B, 0x5B, 0x3F, 0x31, 0x30, 0x34, 0x39, 0x68]

def leaveAlternate : Bytes := [0x1B, 0x5B, 0x3F, 0x31, 0x30, 0x34, 0x39, 0x6C]

/-- What the alternate screen must not change. -/
structure Screen.Kept (before after : Screen) : Prop where
  lines : after.lines = before.lines
  sink : after.sink = before.sink
  cursorRow : after.cursorRow = before.cursorRow
  cursorColumn : after.cursorColumn = before.cursorColumn
  pen : after.pen = before.pen
  originMode : after.originMode = before.originMode
  autowrap : after.autowrap = before.autowrap
  insertMode : after.insertMode = before.insertMode

namespace Emulator

variable {emulator : Emulator}

theorem feed_append (earlier later : Bytes) (emulator : Emulator) :
    (feed (earlier ++ later) emulator).value = (feed later (feed earlier emulator).value).value := by
  induction earlier generalizing emulator with
  | nil => rfl
  | cons byte rest ih => exact ih _

theorem feed_cons (byte : UInt8) (rest : Bytes) (emulator : Emulator) :
    (feed (byte :: rest) emulator).value = (feed rest (emulator.feedByte byte).value).value := rfl

def params1049 : Params :=
  [0x31, 0x30, 0x34, 0x39].foldl (fun params byte => (params.pushDigit (byte - 0x30)).value)
    { Params.clear with marker := 0x3F }

theorem marker_params1049 : params1049.marker = 0x3F := by decide

theorem modes_params1049 :
    (paramsFrom params1049 params1049.count.toNat 0).value = [1049] := by decide

theorem feedByte_digit {byte : UInt8} (state : emulator.parser.state = .csiParam)
    (digit : Android.Parser.isDigit byte = true) (printable : ¬byte < 0x20)
    (continues : emulator.parser.handleControl byte = none) :
    (emulator.feedByte byte).value =
      { emulator with
        parser := { emulator.parser with
          params := (emulator.parser.params.pushDigit (byte - 0x30)).value } } := by
  have hfed : (emulator.parser.feedByte byte).value =
      ({ emulator.parser with
        params := (emulator.parser.params.pushDigit (byte - 0x30)).value }, []) := by
    unfold Parser.feedByte
    rw [state]
    dsimp only
    rw [continues]
    rw [if_neg printable, Parser.feedParam, if_pos digit]
    simp only [value_bind, value_pure, state]
  simp only [feedByte, value_bind, hfed, handleAll, value_pure]

theorem feed_params1049 (escape : emulator.parser.state = .escape) :
    (feed [0x5B, 0x3F, 0x31, 0x30, 0x34, 0x39] emulator).value =
      { emulator with
        parser := { emulator.parser with
          state := .csiParam, params := params1049, intermediates := [] } } := by
  have hmarker : (feed [0x5B, 0x3F] emulator).value =
      { emulator with
        parser := { emulator.parser with
          state := .csiParam, params := { Params.clear with marker := 0x3F }
          intermediates := [] } } := by
    obtain ⟨_, _, _, ⟨_, _, _, _, _, _, _, _⟩, _, _, _, _, _⟩ := emulator
    cases escape
    rfl
  simp only [feed, value_bind, value_pure] at hmarker ⊢
  rw [hmarker, feedByte_digit rfl rfl (by decide) rfl, feedByte_digit rfl rfl (by decide) rfl,
    feedByte_digit rfl rfl (by decide) rfl, feedByte_digit rfl rfl (by decide) rfl]
  rfl

/-- The last byte of `CSI ? 1049 h` or `CSI ? 1049 l`. -/
def finalByte (enabled : Bool) : UInt8 := if enabled then 0x68 else 0x6C

theorem actions_params1049 (enabled : Bool) :
    (emulator.actions (.csi params1049 (finalByte enabled))).value = setPrivateMode enabled 1049 := by
  cases enabled
  all_goals simp [actions, onCsi, onPrivateCsi, finalByte, marker_params1049, modes_params1049]

/-- Entering or leaving; every mode counts as a change. -/
def switchScreen (enabled : Bool) (emulator : Emulator) : Emulator :=
  let next := (if enabled then emulator.enterAltScreen true true
    else emulator.leaveAltScreen true true).value
  { next with modeRevision := next.modeRevision + 1 }

theorem performAll_mode1049 (enabled : Bool) (emulator : Emulator) :
    (performAll (setPrivateMode enabled 1049) emulator).value = emulator.switchScreen enabled := by
  cases enabled
  all_goals rfl

theorem feed_mode1049 (escape : emulator.parser.state = .escape) (enabled : Bool) :
    ∃ parser : Parser,
      (feed [0x5B, 0x3F, 0x31, 0x30, 0x34, 0x39, finalByte enabled] emulator).value =
        switchScreen enabled { emulator with parser } := by
  have hfinal (other : Emulator) (state : other.parser.state = .csiParam)
      (params : other.parser.params = params1049) : (other.feedByte (finalByte enabled)).value =
      switchScreen enabled { other with parser := other.parser.enterState .ground } := by
    have hfed : (other.parser.feedByte (finalByte enabled)).value =
        other.parser.completeCsi (finalByte enabled) := by
      unfold Parser.feedByte
      rw [state]
      cases enabled <;> rfl
    simp only [feedByte, value_bind, hfed, params, Parser.completeCsi, handleAll, handle,
      actions_params1049, performAll_mode1049, value_pure]
  refine ⟨{ emulator.parser with state := .ground, params := params1049, intermediates := [] }, ?_⟩
  rw [show [0x5B, 0x3F, 0x31, 0x30, 0x34, 0x39, finalByte enabled] =
    [0x5B, 0x3F, 0x31, 0x30, 0x34, 0x39] ++ [finalByte enabled] from rfl, feed_append,
    feed_params1049 escape]
  exact hfinal _ rfl rfl

/-- Only the active screen and the modes may differ. -/
structure OnActive (before after : Emulator) : Prop where
  parser : after.parser = before.parser
  altScreenActive : after.altScreenActive = before.altScreenActive
  altSavedCursor : after.altSavedCursor = before.altSavedCursor
  hidden : before.altScreenActive = true → after.primary = before.primary

theorem OnActive.refl (emulator : Emulator) : emulator.OnActive emulator :=
  ⟨rfl, rfl, rfl, fun _ => rfl⟩

theorem OnActive.trans {before middle after : Emulator} (first : before.OnActive middle)
    (second : middle.OnActive after) : before.OnActive after where
  parser := second.parser.trans first.parser
  altScreenActive := second.altScreenActive.trans first.altScreenActive
  altSavedCursor := second.altSavedCursor.trans first.altSavedCursor
  hidden shown := (second.hidden (first.altScreenActive.trans shown)).trans (first.hidden shown)

theorem onActive_screen (operation : Operation) :
    emulator.OnActive (emulator.perform (.screen operation)).value := by
  simp only [perform, onActive, value_ite, value_bind, value_pure]
  split
  · exact ⟨rfl, rfl, rfl, fun _ => rfl⟩
  · rename_i hshown
    exact ⟨rfl, rfl, rfl, fun shown => absurd shown hshown⟩

theorem onActive_active (emulator : Emulator) (operation : Operation) :
    (emulator.onActive operation).value.active = (operation.perform emulator.active).value := by
  unfold onActive active
  rw [value_ite]
  split
  · rename_i hshown
    exact if_pos hshown
  · rename_i hshown
    exact if_neg hshown

theorem performAll_screen (emulator : Emulator) (operation : Operation) :
    (performAll [.screen operation] emulator).value.active =
      (operation.perform emulator.active).value :=
  emulator.onActive_active operation

def Interrupts : Event → Prop
  | .print codePoint => codePoint = replacementChar
  | .osc _ _ => True
  | .dcs _ _ _ _ => True
  | _ => False

theorem onActive_interrupt {event : Event} (interrupts : Interrupts event) :
    emulator.OnActive (emulator.handle event).value ∧
      ((∀ codePoint, event ≠ .print codePoint) →
        (emulator.handle event).value.primary = emulator.primary) := by
  cases event with
  | print codePoint =>
    refine ⟨?_, fun hprint => absurd rfl (hprint codePoint)⟩
    simp only [handle, actions, onPrint, value_bind, value_pure]
    split
    · exact .refl _
    split
    · exact onActive_screen _
    · exact onActive_screen _
  | osc parts truncated =>
    simp only [handle, actions, onOsc, value_bind, value_pure]
    split
    · exact ⟨.refl _, fun _ => rfl⟩
    split
    · split
      · exact ⟨.refl _, fun _ => rfl⟩
      · exact ⟨⟨rfl, rfl, rfl, fun _ => rfl⟩, fun _ => rfl⟩
    · exact ⟨.refl _, fun _ => rfl⟩
  | dcs params final data truncated => exact ⟨.refl _, fun _ => rfl⟩
  | execute | escape | csi => exact interrupts.elim

theorem onActive_handleAll {events : List Event} (interrupts : ∀ event ∈ events, Interrupts event) :
    emulator.OnActive (handleAll events emulator).value ∧
      ((∀ codePoint, .print codePoint ∉ events) →
        (handleAll events emulator).value.primary = emulator.primary) := by
  induction events generalizing emulator with
  | nil => exact ⟨.refl _, fun _ => rfl⟩
  | cons event rest ih =>
    have hevent := @onActive_interrupt emulator event (interrupts event mem_cons_self)
    have hrest := @ih (emulator.handle event).value fun other hother =>
      interrupts other (mem_cons_of_mem _ hother)
    refine ⟨hevent.1.trans hrest.1, fun hprint => (hrest.2 ?_).trans (hevent.2 ?_)⟩
    · exact fun codePoint hmem => hprint codePoint (mem_cons_of_mem _ hmem)
    · exact fun codePoint heq => hprint codePoint (heq ▸ mem_cons_self)

theorem events_flushUtf8 (parser : Parser) : parser.flushUtf8.2 =
    if parser.decoder.remaining = 0 then [] else [.print replacementChar] := by
  unfold Parser.flushUtf8 Utf8Decoder.flush
  by_cases hremaining : parser.decoder.remaining = 0
  · simp only [if_pos hremaining, Option.toList_none, map_nil]
  · simp only [if_neg hremaining, Option.toList_some, map_cons, map_nil]

/-- What ESC brings about; only a character that it cuts short is printed. -/
def Interrupted (parser : Parser) (event : Event) : Prop :=
  Interrupts event ∧ (parser.decoder.remaining = 0 → ∀ codePoint, event ≠ .print codePoint)

theorem interrupted_flushUtf8 {parser : Parser} {event : Event}
    (flushed : event ∈ parser.flushUtf8.2) : Interrupted parser event := by
  rw [events_flushUtf8] at flushed
  split at flushed
  · cases flushed
  · rename_i hremaining
    rw [mem_singleton.mp flushed]
    exact ⟨rfl, fun hzero => absurd hzero hremaining⟩

theorem interrupted_dispatch {parser : Parser} {event string : Event}
    (dispatched : event ∈ [string]) (interrupts : Interrupts string)
    (notText : ∀ codePoint, string ≠ .print codePoint) : Interrupted parser event := by
  rw [mem_singleton.mp dispatched]
  exact ⟨interrupts, fun _ => notText⟩

theorem interrupted_abandon {parser : Parser} {state : Android.ParserState} {event : Event}
    (abandoned : event ∈ (parser.abandon state).2) : Interrupted parser event := by
  have hevents : (parser.abandon state).2 = parser.flushUtf8.2 ++
      if parser.flushUtf8.1.state = .dcsPassthrough then parser.flushUtf8.1.dispatchDcs.2
      else [] := by
    unfold Parser.abandon
    dsimp only
    split <;> rfl
  rw [hevents] at abandoned
  rcases mem_append.mp abandoned with hprinted | hdispatched
  · exact interrupted_flushUtf8 hprinted
  · split at hdispatched
    · exact interrupted_dispatch hdispatched trivial fun _ hprint => by cases hprint
    · cases hdispatched

theorem parser_feedByte_escape (parser : Parser) : (parser.feedByte 0x1B).value.1.state = .escape ∧
      ∀ event ∈ (parser.feedByte 0x1B).value.2, Interrupted parser event := by
  unfold Parser.feedByte
  cases parser.state with
  | ground => exact ⟨rfl, fun event hevent => interrupted_flushUtf8 hevent⟩
  | oscString =>
    refine ⟨rfl, fun event hevent => ?_⟩
    exact @interrupted_dispatch parser event (.osc _ _) hevent trivial fun _ hprint => by cases hprint
  | dcsPassthrough =>
    refine ⟨rfl, fun event hevent => ?_⟩
    exact @interrupted_dispatch parser event (.dcs _ _ _ _) hevent trivial
      fun _ hprint => by cases hprint
  | sosPmApcString | dcsIgnore => exact ⟨rfl, fun event hevent => by cases hevent⟩
  | _ => exact ⟨rfl, fun event hevent => interrupted_abandon hevent⟩

theorem feedByte_escape (emulator : Emulator) :
    (emulator.feedByte 0x1B).value.parser.state = .escape ∧
      OnActive { emulator with parser := (emulator.parser.feedByte 0x1B).value.1 }
        (emulator.feedByte 0x1B).value ∧
      (emulator.parser.decoder.remaining = 0 →
        (emulator.feedByte 0x1B).value.primary = emulator.primary) := by
  obtain ⟨hstate, hevents⟩ := parser_feedByte_escape emulator.parser
  obtain ⟨hactive, hprimary⟩ := @onActive_handleAll
    { emulator with parser := (emulator.parser.feedByte 0x1B).value.1 }
    (emulator.parser.feedByte 0x1B).value.2 fun event hevent => (hevents event hevent).1
  refine ⟨(congrArg Parser.state hactive.parser).trans hstate, hactive, fun hremaining => ?_⟩
  exact hprimary fun codePoint hprint => (hevents _ hprint).2 hremaining codePoint rfl

def leaves : Action → Bool
  | .leaveAltScreen _ _ => true
  | .reset => true
  | _ => false

/-- `CSI ? 1048 l` is harmless while it restores the cursor that entering saved. -/
def stays (emulator : Emulator) : Action → Bool
  | .restorePrimaryCursor => emulator.altSavedCursor == emulator.primary.saved
  | action => !leaves action

structure Held (screen : Screen) (emulator : Emulator) : Prop where
  shown : emulator.altScreenActive = true
  kept : screen.Kept emulator.primary
  saved : emulator.primary.saved = screen.saveCursor.saved

end Emulator

theorem Screen.Kept.refl (screen : Screen) : screen.Kept screen :=
  ⟨rfl, rfl, rfl, rfl, rfl, rfl, rfl, rfl⟩

theorem Screen.Kept.restoreCursor {columns rows : Int} {screen current : Screen}
    (kept : screen.Kept current) (fits : current.Fits columns rows)
    (saved : current.saved = screen.saveCursor.saved) :
    screen.Kept current.restoreCursor.value := by
  have hrow := fits.cursorRow
  have hcolumn := fits.cursorColumn
  have hwidth := fits.width
  have hheight := fits.height
  have hkeptRow := kept.cursorRow
  have hkeptColumn := kept.cursorColumn
  simp only [Screen.restoreCursor, saved, saveCursor, if_pos, value_bind, value_pure, value_int]
  refine ⟨kept.lines, kept.sink, ?_, ?_, rfl, rfl, rfl, kept.insertMode⟩
  · exact clamp_of_mem (by omega)
  · exact clamp_of_mem (by omega)

namespace Emulator

variable {columns rows : Int} {emulator : Emulator} {screen : Screen}

theorem Held.perform {action : Action} (held : emulator.Held screen)
    (fits : emulator.Fits columns rows) (stays : emulator.stays action = true) :
    Held screen (emulator.perform action).value := by
  cases action with
  | screen operation =>
    have hactive := @onActive_screen emulator operation
    have hprimary := hactive.hidden held.shown
    refine ⟨hactive.altScreenActive.trans held.shown, ?_, ?_⟩
    · rw [hprimary]
      exact held.kept
    · rw [hprimary]
      exact held.saved
  | change change => exact { held with }
  | respond text => exact { held with }
  | enterAltScreen saveCursor clear =>
    simp only [Emulator.perform, enterAltScreen, if_pos held.shown]
    exact held
  | savePrimaryCursor =>
    have hsaved : emulator.primary.saveCursor.saved = screen.saveCursor.saved := by
      simp only [Screen.saveCursor, held.kept.cursorRow, held.kept.cursorColumn, held.kept.pen,
        held.kept.originMode, held.kept.autowrap]
    exact ⟨held.shown, { held.kept with }, hsaved⟩
  | restorePrimaryCursor =>
    simp only [Emulator.stays, beq_iff_eq] at stays
    have hkept : screen.Kept { emulator.primary with saved := emulator.altSavedCursor } :=
      { held.kept with }
    have hsaved : emulator.altSavedCursor = screen.saveCursor.saved := stays.trans held.saved
    have hfits : Screen.Fits columns rows
        { emulator.primary with saved := emulator.altSavedCursor } := { fits.primary with }
    refine ⟨held.shown, hkept.restoreCursor hfits hsaved, ?_⟩
    simp only [Emulator.perform, Screen.restoreCursor, hsaved, Screen.saveCursor, if_pos, value_bind,
      value_pure]
  | leaveAltScreen | reset => cases stays

theorem Held.performs {final : Emulator} {steps : Trace}
    (performs : Performs columns rows emulator steps final)
    (stays : (steps.all fun step => step.1.stays step.2) = true) (held : emulator.Held screen) :
    final.Held screen := by
  induction performs with
  | done _ => exact held
  | parse parser _ ih => exact ih stays { held with }
  | step fits _ _ ih =>
    simp only [all_cons, Bool.and_eq_true] at stays
    exact ih stays.2 (held.perform fits stays.1)

theorem Held.onActive {after : Emulator} (held : emulator.Held screen)
    (active : emulator.OnActive after) : after.Held screen := by
  have hprimary := active.hidden held.shown
  refine ⟨active.altScreenActive.trans held.shown, ?_, ?_⟩
  · rw [hprimary]
    exact held.kept
  · rw [hprimary]
    exact held.saved

theorem held_enterAlternate (shown : emulator.altScreenActive = false) :
    Held (emulator.feedByte 0x1B).value.primary (feed enterAlternate emulator).value := by
  obtain ⟨hescape, hactive, -⟩ := feedByte_escape emulator
  have hshown : (emulator.feedByte 0x1B).value.altScreenActive = false :=
    hactive.altScreenActive.trans shown
  obtain ⟨parser, hfeed⟩ := feed_mode1049 hescape true
  simp only [finalByte, if_true] at hfeed
  rw [enterAlternate, feed_cons, hfeed]
  generalize (emulator.feedByte 0x1B).value = interrupted at hshown
  simp only [switchScreen, enterAltScreen, hshown, value_pure, value_bind, Bool.false_eq_true,
    if_false, if_true]
  exact ⟨rfl, { Screen.Kept.refl interrupted.primary with }, rfl⟩

theorem kept_leaveAlternate (held : emulator.Held screen) (fits : emulator.Fits columns rows) :
    screen.Kept (feed leaveAlternate emulator).value.primary := by
  obtain ⟨hescape, hactive, -⟩ := feedByte_escape emulator
  have hprimary : (emulator.feedByte 0x1B).value.primary = emulator.primary :=
    hactive.hidden held.shown
  have hparsed : Held screen
      { emulator with parser := (emulator.parser.feedByte 0x1B).value.1 } := { held with }
  have hheld := hparsed.onActive hactive
  obtain ⟨parser, hfeed⟩ := feed_mode1049 hescape false
  simp only [finalByte, Bool.false_eq_true, if_false] at hfeed
  rw [leaveAlternate, feed_cons, hfeed]
  generalize (emulator.feedByte 0x1B).value = interrupted at hheld hprimary
  simp only [switchScreen, leaveAltScreen, hheld.shown, value_pure, value_bind, Bool.false_eq_true,
    if_false, if_true]
  exact hheld.kept.restoreCursor (hprimary ▸ fits.primary) hheld.saved

end Emulator

/-- What a program does between entering the alternate screen and leaving it keeps the
primary screen as it is once the ESC that begins the first sequence has arrived.  That ESC
prints a replacement when it cuts a character short, and else changes nothing there. -/
theorem alternate_isolated (emulator : Emulator) (reachable : emulator.Reachable)
    (shown : emulator.altScreenActive = false) (bytes : Bytes)
    (stays : (((Emulator.feed enterAlternate emulator).value.trace bytes).all fun step =>
      step.1.stays step.2) = true) :
    (emulator.feedByte 0x1B).value.primary.Kept
        (Emulator.feed (enterAlternate ++ bytes ++ leaveAlternate) emulator).value.primary ∧
      (emulator.parser.decoder.remaining = 0 →
        (emulator.feedByte 0x1B).value.primary = emulator.primary) := by
  obtain ⟨columns, rows, hsize, hfits⟩ := reachable.fitsGrid
  have hentered := (hfits.feed hsize enterAlternate).2
  have hheld := Emulator.held_enterAlternate shown
  have hrun := hheld.performs (Emulator.performs_trace hsize bytes hentered) stays
  refine ⟨?_, (Emulator.feedByte_escape emulator).2.2⟩
  rw [Emulator.feed_append, Emulator.feed_append]
  exact Emulator.kept_leaveAlternate hrun (hentered.feed hsize bytes).2

/-- A program that writes and clears. -/
theorem alternate_isolated_in_sampleEmulator :
    let emulator := sampleEmulator [0x61, 0x62]
    let bytes : Bytes := [0x78, 0x1B, 0x5B, 0x32, 0x4A]
    (emulator.feedByte 0x1B).value.primary.Kept
        (Emulator.feed (enterAlternate ++ bytes ++ leaveAlternate) emulator).value.primary ∧
      (emulator.parser.decoder.remaining = 0 →
        (emulator.feedByte 0x1B).value.primary = emulator.primary) :=
  alternate_isolated (sampleEmulator [0x61, 0x62]) (reachable_sampleEmulator _) (by decide)
    [0x78, 0x1B, 0x5B, 0x32, 0x4A] (by decide)

def Emulator.Isolates (emulator : Emulator) (bytes : Bytes) : Prop :=
  emulator.primary.Kept
    (Emulator.feed (enterAlternate ++ bytes ++ leaveAlternate) emulator).value.primary

def restorePrimary : Bytes := [0x1B, 0x5B, 0x3F, 0x31, 0x30, 0x34, 0x38, 0x6C]

/-- A character that the first sequence cuts short is replaced on the primary screen, and
`CSI ? 1048 l` moves the cursor of the primary screen. -/
theorem alternate_not_isolated : ((sampleEmulator [0x61, 0xE4]).Reachable ∧
        (sampleEmulator [0x61, 0xE4]).altScreenActive = false ∧
          ¬(sampleEmulator [0x61, 0xE4]).Isolates []) ∧
      (sampleEmulator [0x61, 0x62]).Reachable ∧
        (sampleEmulator [0x61, 0x62]).altScreenActive = false ∧
          (((Emulator.feed enterAlternate (sampleEmulator [0x61, 0x62])).value.trace
            restorePrimary).all fun step => !Emulator.leaves step.2) = true ∧
            ¬(sampleEmulator [0x61, 0x62]).Isolates restorePrimary := by
  refine ⟨⟨reachable_sampleEmulator _, by decide, fun hkept => ?_⟩,
    reachable_sampleEmulator _, by decide, by decide, fun hkept => ?_⟩
  · exact absurd hkept.cursorColumn (by decide +kernel)
  · exact absurd hkept.cursorColumn (by decide)

end Hypeterm.Term
