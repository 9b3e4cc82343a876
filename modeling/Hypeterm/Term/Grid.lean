import Hypeterm.Term.Reshaping
import Hypeterm.Term.Tables

/-! Whatever bytes arrive and however the terminal is resized, the grid keeps its shape, the
cursor stays inside it and no index or `int` leaves its range. -/
namespace Hypeterm.Term
open Library Checked List

def Operation.Bounded : Operation → Prop
  | .putChar codePoint width => codePoint ≠ 0 ∧ (width = 1 ∨ width = 2)
  | .cursorUp count _ => Parameter count
  | .cursorDown count _ => Parameter count
  | .cursorForward count => Parameter count
  | .cursorBackward count => Parameter count
  | .cursorToRow row => Parameter row
  | .cursorToPosition row _ => Parameter row
  | .fillScreen codePoint => codePoint ≠ 0
  | _ => True

def Action.Bounded : Action → Prop
  | .screen operation => operation.Bounded
  | _ => True

theorem Operation.Bounded.perform {columns rows : Int} {screen : Screen} {operation : Operation}
    (bounded : operation.Bounded) (size : GridSize columns rows) (fits : screen.Fits columns rows) :
    Holds (Screen.Fits columns rows) (operation.perform screen) := by
  cases operation with
  | putChar codePoint width => exact fits.putChar size codePoint bounded.2
  | addCombiningMark mark => exact fits.addCombiningMark mark
  | repeatLast count => exact fits.repeatLast size count
  | carriageReturn => exact .pure (fits.carriageReturn size)
  | lineFeed => exact fits.lineFeed size
  | reverseIndex => exact fits.reverseIndex size
  | backspace => exact fits.backspace size
  | tab count => exact fits.tab size count
  | backTab count => exact fits.backTab size count
  | setTabStop => exact fits.setTabStop
  | clearTabStop mode => exact fits.clearTabStop mode
  | cursorUp count resetColumn => exact fits.cursorUp size bounded resetColumn
  | cursorDown count resetColumn => exact fits.cursorDown size bounded resetColumn
  | cursorForward count => exact fits.cursorForward size bounded
  | cursorBackward count => exact fits.cursorBackward size bounded
  | cursorToColumn column => exact fits.cursorToColumn size column
  | cursorToRow row => exact fits.cursorToRow size bounded
  | cursorToPosition row column => exact fits.cursorToPosition size bounded column
  | saveCursor => exact .pure { fits with }
  | restoreCursor => exact fits.restoreCursor size
  | eraseInDisplay mode => exact fits.eraseInDisplay size mode
  | eraseInLine mode => exact fits.eraseInLine size mode
  | eraseCharacters count => exact fits.eraseCharacters size count
  | insertCharacters count => exact fits.insertCharacters size count
  | deleteCharacters count => exact fits.deleteCharacters size count
  | insertLines count => exact fits.insertLines size count
  | deleteLines count => exact fits.deleteLines size count
  | scrollUp count => exact fits.scrollRegionUp size _ _ _ _
  | scrollDown count => exact fits.scrollRegionDown size _ _ _
  | fillScreen codePoint => exact fits.fillScreen size codePoint
  | setScrollRegion top bottom => exact fits.setScrollRegion size top bottom
  | setOriginMode value => exact .pure (fits.setOriginMode size value)
  | setAutowrap value => exact .pure { fits with }
  | setInsertMode value => exact .pure { fits with }
  | setReverseVideo value => exact .pure { fits with }
  | setPen pen => exact .pure { fits with }

/-- Both screens have the same dimensions. -/
structure Emulator.Fits (columns rows : Int) (emulator : Emulator) : Prop where
  primary : emulator.primary.Fits columns rows
  alt : emulator.alt.Fits columns rows
  parser : emulator.parser.Bounded

theorem Emulator.Fits.active {columns rows : Int} {emulator : Emulator}
    (fits : emulator.Fits columns rows) : emulator.active.Fits columns rows := by
  unfold Emulator.active
  split
  · exact fits.alt
  · exact fits.primary

section Csi

variable {params : Params} (bounded : params.Bounded)
include bounded

theorem holds_sgrColor {i : Int} (inside : 0 ≤ i ∧ i ≤ 32) :
    Holds (fun color => i ≤ color.2 ∧ color.2 ≤ i + 4) (sgrColor params i) := by
  refine (bounded.holds_subCount i).bind fun subCount _ => ?_
  refine .int (by omega) (by omega) ?_
  refine .int (by omega) (by omega) ?_
  refine .int (by omega) (by omega) ?_
  refine .int (by omega) (by omega) ?_
  refine .ite (fun _ => ?_) fun _ => ?_
  · refine (bounded.getSub i 1 (-1)).bind fun kind _ => ?_
    refine .ite (fun _ => ?_) fun _ => .ite (fun _ => ?_) fun _ =>
      .pure ⟨Int.le_refl _, by dsimp only; omega⟩
    · refine (bounded.getSub i 2 (-1)).bind fun index _ => ?_
      exact .pure ⟨Int.le_refl _, by dsimp only; omega⟩
    · refine (bounded.getSub i _ (-1)).bind fun red _ => ?_
      refine (bounded.getSub i _ (-1)).bind fun green _ => ?_
      refine (bounded.getSub i _ (-1)).bind fun blue _ => ?_
      exact .pure ⟨Int.le_refl _, by dsimp only; omega⟩
  · refine (bounded.get _ (-1)).bind fun kind _ => ?_
    refine .ite (fun _ => ?_) fun _ => .ite (fun _ => ?_) fun _ => ?_
    · refine (bounded.get _ (-1)).bind fun index _ => .pure ?_
      omega
    · refine (bounded.get _ (-1)).bind fun red _ => ?_
      refine (bounded.get _ (-1)).bind fun green _ => ?_
      refine (bounded.get _ (-1)).bind fun blue _ => .pure ?_
      omega
    · refine .pure ?_
      split <;> omega

theorem holds_sgrFrom (rounds : Nat) {i : Int} (natural : 0 ≤ i) (pen : Pen) :
    Holds (fun _ => True) (sgrFrom params rounds i pen) := by
  have hcount := bounded.count
  induction rounds generalizing i pen with
  | zero => exact .pure trivial
  | succ rounds ih =>
    unfold sgrFrom
    refine .ite (fun hinside => ?_) fun _ => .pure trivial
    refine (bounded.get i 0).bind fun code _ => ?_
    refine .ite (fun _ => ?_) fun _ => .ite (fun _ => ?_) fun _ => ?_
    · refine (bounded.getSub i 1 1).bind fun style _ => ?_
      refine .int (by omega) (by omega) ?_
      exact ih (by omega) _
    · refine (holds_sgrColor bounded (by omega)).bind fun color hcolor => ?_
      refine .int (by omega) (by omega) ?_
      exact ih (by omega) _
    · refine .int (by omega) (by omega) ?_
      exact ih (by omega) _

theorem holds_applySgr (pen : Pen) : Holds (fun _ => True) (applySgr params pen) := by
  unfold applySgr
  exact .ite (fun _ => .pure trivial) fun _ => holds_sgrFrom bounded _ (Int.le_refl _) pen

theorem holds_paramsFrom (rounds : Nat) {i : Int} (natural : 0 ≤ i) :
    Holds (fun _ => True) (Emulator.paramsFrom params rounds i) := by
  have hcount := bounded.count
  induction rounds generalizing i with
  | zero => exact .pure trivial
  | succ rounds ih =>
    unfold Emulator.paramsFrom
    refine .ite (fun hinside => ?_) fun _ => .pure trivial
    refine (bounded.get i 0).bind fun value _ => ?_
    refine .int (by omega) (by omega) ?_
    exact (ih (by omega)).bind fun rest _ => .pure trivial

end Csi

namespace Emulator

def Requests (actions : List Action) : Prop := ∀ action ∈ actions, action.Bounded

theorem requests_nil : Requests [] := by
  intro action haction
  cases haction

theorem requests_one {action : Action} (bounded : action.Bounded) : Requests [action] := by
  intro other hother
  rw [mem_singleton.mp hother]
  exact bounded

theorem requests_ite {condition : Prop} [Decidable condition] {yes no : List Action}
    (whenTrue : Requests yes) (whenFalse : Requests no) :
    Requests (if condition then yes else no) := by
  split
  · exact whenTrue
  · exact whenFalse

theorem requests_flatMap {modes : List Int} {request : Int → List Action}
    (each : ∀ mode, Requests (request mode)) : Requests (modes.flatMap request) := by
  intro action haction
  obtain ⟨mode, -, hmode⟩ := mem_flatMap.mp haction
  exact each mode action hmode

theorem requests_setMode (enabled : Bool) (mode : Int) : Requests (setMode enabled mode) := by
  unfold setMode
  repeat' apply requests_ite
  all_goals simp [Requests, Action.Bounded, Operation.Bounded]

theorem requests_setPrivateMode (enabled : Bool) (mode : Int) :
    Requests (setPrivateMode enabled mode) := by
  unfold setPrivateMode
  cases enabled
  all_goals repeat' apply requests_ite
  all_goals simp [Requests, Action.Bounded, Operation.Bounded, Parameter]

theorem requests_setCursorStyle (style : Int) : Requests (setCursorStyle style) := by
  unfold setCursorStyle
  repeat' apply requests_ite
  all_goals simp [Requests, Action.Bounded]

theorem requests_handleDecSequence (intermediate final : UInt8) :
    Requests (handleDecSequence intermediate final) := by
  unfold handleDecSequence
  repeat' apply requests_ite
  all_goals simp [Requests, Action.Bounded, Operation.Bounded]

variable {emulator : Emulator}

theorem requests_answer (text : String) : Requests (emulator.answer text) := by
  unfold answer
  split
  · exact requests_one trivial
  · exact requests_nil

theorem requests_onEscape (intermediates : Bytes) (final : UInt8) :
    Requests (emulator.onEscape intermediates final) := by
  unfold onEscape
  split
  · exact requests_handleDecSequence _ _
  repeat' apply requests_ite
  all_goals first
    | exact requests_answer _
    | simp [Requests, Action.Bounded, Operation.Bounded]

theorem requests_onExecute (control : UInt8) : Requests (emulator.onExecute control) := by
  unfold onExecute
  repeat' apply requests_ite
  all_goals simp [Requests, Action.Bounded, Operation.Bounded]

theorem requests_onOsc (parts : List Bytes) (truncated : Bool) :
    Requests (emulator.onOsc parts truncated) := by
  unfold onOsc
  split
  · exact requests_nil
  repeat' apply requests_ite
  all_goals simp [Requests, Action.Bounded]

theorem requests_onPrint (codePoint : Nat) : Requests (emulator.onPrint codePoint) := by
  unfold onPrint
  dsimp only
  split
  · exact requests_nil
  split
  · exact requests_one trivial
  · rename_i hwidth
    refine requests_one ⟨fun hzero => hwidth ?_, ?_⟩
    · rw [hzero, charWidth_zero]
    · rcases charWidth_cases (emulator.translateCharset codePoint) with h | h | h
      · exact absurd h hwidth
      · exact .inl h
      · exact .inr h

variable {columns rows : Int} (size : GridSize columns rows) (fits : emulator.Fits columns rows)
include size fits

theorem holds_deviceStatus (report : Int) : Holds Requests (emulator.deviceStatus report) := by
  have hrow := fits.active.cursorRow
  have hcolumn := fits.active.cursorColumn
  have hregion := fits.active.region
  have hwide := size.wide
  have htall := size.tall
  unfold deviceStatus
  refine .ite (fun _ => .pure (requests_answer _)) fun _ => .ite (fun _ => ?_)
    fun _ => .pure requests_nil
  refine .int (by omega) (by omega) ?_
  refine .int (by omega) (by omega) ?_
  refine .bind (.ite (fun _ => ?_) fun _ => .pure trivial) fun row (_ : True) =>
    .pure (requests_answer _)
  exact (holds_int (by omega) (by omega)).mono fun _ _ => trivial

theorem holds_softReset : Holds Requests emulator.softReset := by
  have hheight := fits.active.height
  have htall := size.tall
  refine .int (by omega) (by omega) ?_
  refine .pure ?_
  simp [Requests, Action.Bounded, Operation.Bounded]

theorem holds_onPrivateCsi {params : Params} (bounded : params.Bounded) (final : UInt8) :
    Holds Requests (emulator.onPrivateCsi params final) := by
  have hrow := fits.active.cursorRow
  have hcolumn := fits.active.cursorColumn
  have hwide := size.wide
  have htall := size.tall
  refine (bounded.get 0 0).bind fun first _ => ?_
  refine .ite (fun _ => ?_) fun _ => .ite (fun _ => ?_) fun _ => .ite (fun _ => ?_)
    fun _ => .ite (fun _ => .pure (requests_answer _)) fun _ => .pure requests_nil
  · exact (holds_paramsFrom bounded _ (Int.le_refl _)).bind fun modes _ =>
      .pure (requests_flatMap (requests_setPrivateMode true))
  · exact (holds_paramsFrom bounded _ (Int.le_refl _)).bind fun modes _ =>
      .pure (requests_flatMap (requests_setPrivateMode false))
  · refine .int (by omega) (by omega) ?_
    refine .int (by omega) (by omega) ?_
    exact .pure (requests_answer _)

theorem holds_onPlainCsi {params : Params} (bounded : params.Bounded) (final : UInt8) :
    Holds Requests (emulator.onPlainCsi params final) := by
  have hheight := fits.active.height
  have htall := size.tall
  refine (bounded.get 0 1).bind fun count hcount => ?_
  refine (bounded.get 0 0).bind fun mode _ => ?_
  refine .int (by omega) (by omega) ?_
  have hparameter : Parameter count := by
    unfold Parameter
    omega
  have hplace : Parameter (count - 1) := by
    unfold Parameter
    omega
  -- One case for each final byte, in the order of the definition.
  repeat' with_reducible refine .ite (fun _ => ?_) fun _ => ?_
  all_goals first
    | exact .pure (requests_one trivial)
    | exact .pure (requests_one hparameter)
    | exact .pure (requests_one hplace)
    | exact .pure (requests_answer _)
    | exact .pure requests_nil
    | skip
  · refine (bounded.get 1 1).bind fun column hcolumn => ?_
    refine .int (by omega) (by omega) ?_
    exact .pure (requests_one hplace)
  · exact (holds_paramsFrom bounded _ (Int.le_refl _)).bind fun modes _ =>
      .pure (requests_flatMap (requests_setMode true))
  · exact (holds_paramsFrom bounded _ (Int.le_refl _)).bind fun modes _ =>
      .pure (requests_flatMap (requests_setMode false))
  · exact (holds_applySgr bounded _).bind fun pen _ => .pure (requests_one trivial)
  · exact holds_deviceStatus size fits _
  · exact holds_softReset size fits
  · exact .pure (requests_ite (requests_setCursorStyle _) requests_nil)
  · refine (bounded.get 1 emulator.active.rows).bind fun bottom hbottom => ?_
    refine .int (by omega) (by omega) ?_
    exact .pure (requests_one trivial)

theorem holds_actions {event : Event} (bounded : event.Bounded) :
    Holds Requests (emulator.actions event) := by
  cases event with
  | print codePoint => exact .pure (requests_onPrint codePoint)
  | execute control => exact .pure (requests_onExecute control)
  | escape intermediates final => exact .pure (requests_onEscape intermediates final)
  | csi params final =>
    unfold actions onCsi
    refine .ite (fun _ => holds_onPrivateCsi size fits bounded final) fun _ =>
      .ite (fun _ => .pure (requests_ite (requests_answer _) requests_nil)) fun _ =>
      .ite (fun _ => .pure requests_nil) fun _ => holds_onPlainCsi size fits bounded final
  | osc parts truncated => exact .pure (requests_onOsc parts truncated)
  | dcs params final data truncated => exact .pure requests_nil

theorem Fits.enterAltScreen (saveCursor clear : Bool) :
    Holds (Fits columns rows) (emulator.enterAltScreen saveCursor clear) := by
  have htall := size.tall
  unfold Emulator.enterAltScreen
  refine .ite (fun _ => .pure fits) fun _ => ?_
  have hprimary : Screen.Fits columns rows
      (if saveCursor then emulator.primary.saveCursor else emulator.primary) := by
    split
    · exact { fits.primary with }
    · exact fits.primary
  have halt : ∀ pen : Pen, Screen.Fits columns rows { emulator.alt with pen } :=
    fun pen => { fits.alt with }
  refine .bind (.ite (fun _ => (halt _).clearAll size) fun _ => .pure (halt _))
    fun alt halt => ?_
  have hheight := halt.height
  refine .int (by omega) (by omega) ?_
  refine (halt.setScrollRegion size _ _).bind fun alt halt => ?_
  exact .pure ⟨hprimary, halt, fits.parser⟩

theorem Fits.leaveAltScreen (restoreCursor clear : Bool) :
    Holds (Fits columns rows) (emulator.leaveAltScreen restoreCursor clear) := by
  unfold Emulator.leaveAltScreen
  refine .ite (fun _ => ?_) fun _ => .pure fits
  refine .bind (.ite (fun _ => fits.alt.clearAll size) fun _ => .pure fits.alt)
    fun alt halt => ?_
  refine .bind (.ite (fun _ => fits.primary.restoreCursor size) fun _ =>
    .pure fits.primary) fun primary hprimary => ?_
  exact .pure ⟨hprimary, halt, fits.parser⟩

theorem Fits.reset : Holds (Fits columns rows) emulator.reset := by
  have hcleared : Screen.Fits columns rows
      { emulator.primary with sink := emulator.primary.sink.map Scrollback.clearScrollback } := by
    refine { fits.primary with sink := ?_ }
    intro sink hsink
    obtain ⟨old, hold, rfl⟩ := Option.map_eq_some_iff.mp hsink
    exact (fits.primary.sink old hold).clearScrollback
  refine (hcleared.reset size).bind fun primary hprimary => ?_
  refine (fits.alt.reset size).bind fun alt halt => ?_
  exact .pure ⟨hprimary, halt, fits.parser.reset⟩

theorem Fits.perform {action : Action} (bounded : action.Bounded) :
    Holds (Fits columns rows) (emulator.perform action) := by
  cases action with
  | screen operation =>
    refine .ite (fun _ => ?_) fun _ => ?_
    · refine (Operation.Bounded.perform bounded size fits.alt).bind fun alt halt => ?_
      exact .pure { fits with alt := halt }
    · refine (Operation.Bounded.perform bounded size fits.primary).bind fun primary hprimary => ?_
      exact .pure { fits with primary := hprimary }
  | change change => exact .pure { fits with }
  | enterAltScreen saveCursor clear => exact fits.enterAltScreen size saveCursor clear
  | leaveAltScreen restoreCursor clear => exact fits.leaveAltScreen size restoreCursor clear
  | savePrimaryCursor => exact .pure { fits with primary := { fits.primary with } }
  | restorePrimaryCursor =>
    have hprimary : Screen.Fits columns rows
        { emulator.primary with saved := emulator.altSavedCursor } := { fits.primary with }
    refine (hprimary.restoreCursor size).bind fun primary hprimary => ?_
    exact .pure { fits with primary := hprimary }
  | respond text => exact .pure { fits with }
  | reset => exact fits.reset size

theorem Fits.performAll {actions : List Action} (requests : Requests actions) :
    Holds (Fits columns rows) (performAll actions emulator) := by
  induction actions generalizing emulator with
  | nil => exact .pure fits
  | cons action rest ih =>
    refine (fits.perform size (requests action mem_cons_self)).bind fun next hnext => ?_
    exact ih hnext fun other hother => requests other (mem_cons_of_mem _ hother)

theorem Fits.handleAll {events : List Event} (bounded : ∀ event ∈ events, event.Bounded) :
    Holds (Fits columns rows) (handleAll events emulator) := by
  induction events generalizing emulator with
  | nil => exact .pure fits
  | cons event rest ih =>
    refine .bind ((holds_actions size fits (bounded event mem_cons_self)).bind
      fun actions hactions => fits.performAll size hactions) fun next hnext => ?_
    exact ih hnext fun other hother => bounded other (mem_cons_of_mem _ hother)

theorem Fits.feed (bytes : Bytes) : Holds (Fits columns rows) (feed bytes emulator) := by
  induction bytes generalizing emulator with
  | nil => exact .pure fits
  | cons byte rest ih =>
    refine .bind ((fits.parser.feedByte byte).bind fun fed hfed => ?_) fun next hnext => ih hnext
    have hfits : Fits columns rows { emulator with parser := fed.1 } :=
      { fits with parser := hfed.1 }
    exact hfits.handleAll size hfed.2

theorem Fits.resize {newColumns newRows : Int} (newSize : GridSize newColumns newRows) :
    Holds (Fits newColumns newRows) (emulator.resize newColumns newRows) := by
  have hwide := newSize.wide
  have htall := newSize.tall
  have hwidth := fits.primary.width
  have hheight := fits.primary.height
  unfold Emulator.resize
  rw [if_neg (by omega : ¬newColumns < 1), if_neg (by omega : ¬newRows < 1)]
  refine .ite (fun hsame => .pure ?_) fun _ => ?_
  · rw [hsame.1, hsame.2, hwidth, hheight]
    exact fits
  refine (fits.alt.resize size newSize).bind fun alt halt => ?_
  refine (fits.primary.reflowResize size newSize).bind fun primary hprimary => ?_
  exact .pure ⟨hprimary, halt, fits.parser⟩

end Emulator

/-- What the grid promises between two inputs. -/
structure Emulator.InBounds (emulator : Emulator) : Prop where
  dimensions : emulator.primary.columns = emulator.alt.columns ∧
    emulator.primary.rows = emulator.alt.rows
  grid : ∀ screen ∈ [emulator.primary, emulator.alt], (screen.lines.length : Int) = screen.rows ∧
      ∀ line ∈ screen.lines, (line.cells.length : Int) = screen.columns
  tabStops : ∀ screen ∈ [emulator.primary, emulator.alt],
    (screen.tabStops.length : Int) = screen.columns
  cursor : ∀ screen ∈ [emulator.primary, emulator.alt],
    (0 ≤ screen.cursorRow ∧ screen.cursorRow < screen.rows) ∧
      0 ≤ screen.cursorColumn ∧ screen.cursorColumn < screen.columns
  region : ∀ screen ∈ [emulator.primary, emulator.alt],
    0 ≤ screen.scrollTop ∧ screen.scrollTop ≤ screen.scrollBottom ∧
      screen.scrollBottom < screen.rows
  params : 0 ≤ emulator.parser.params.count ∧ emulator.parser.params.count ≤ maxParams
  subParams : (0 ≤ emulator.parser.params.currentSub ∧
      emulator.parser.params.currentSub < maxSubParams) ∧
    ∀ count ∈ emulator.parser.params.subCounts, count ≤ maxSubParams
  intermediates : emulator.parser.intermediates.length ≤ 4 ∧
    emulator.parser.params.intermediates.length ≤ 4
  stringBuffer : emulator.parser.stringBuffer.length ≤ emulator.parser.maxStringBytes

theorem Emulator.Fits.inBounds {columns rows : Int} {emulator : Emulator}
    (fits : emulator.Fits columns rows) : emulator.InBounds := by
  have each : ∀ screen ∈ [emulator.primary, emulator.alt], screen.Fits columns rows := by
    intro screen hscreen
    rcases mem_cons.mp hscreen with rfl | hscreen
    · exact fits.primary
    · rw [mem_singleton.mp hscreen]
      exact fits.alt
  have hparams := fits.parser.params
  refine ⟨⟨?_, ?_⟩, fun screen hscreen => ?_, fun screen hscreen => ?_, fun screen hscreen => ?_,
    fun screen hscreen => ?_, hparams.count, ⟨hparams.currentSub, hparams.subCount⟩,
    ⟨fits.parser.intermediates, hparams.intermediates⟩, fits.parser.stringBuffer⟩
  · rw [fits.primary.width, fits.alt.width]
  · rw [fits.primary.height, fits.alt.height]
  all_goals have hfits := each screen hscreen
  · rw [hfits.width, hfits.height]
    exact ⟨hfits.grid.length, hfits.grid.cells⟩
  · rw [hfits.width]
    exact hfits.tabStops
  · rw [hfits.width, hfits.height]
    exact ⟨hfits.cursorRow, hfits.cursorColumn⟩
  · rw [hfits.height]
    exact hfits.region

def Input.Sized : Input → Prop
  | .resize columns rows => GridSize columns rows
  | _ => True

def Emulator.FitsGrid (emulator : Emulator) : Prop :=
  ∃ columns rows, GridSize columns rows ∧ emulator.Fits columns rows

theorem Emulator.Fits.acceptAll {inputs : List Input} (sized : ∀ input ∈ inputs, input.Sized)
    {columns rows : Int} {emulator : Emulator} (size : GridSize columns rows)
    (fits : emulator.Fits columns rows) : Holds FitsGrid (acceptAll inputs emulator) := by
  induction inputs generalizing columns rows emulator with
  | nil => exact .pure ⟨columns, rows, size, fits⟩
  | cons input rest ih =>
    have hrest : ∀ other ∈ rest, other.Sized := fun other hother =>
      sized other (mem_cons_of_mem _ hother)
    have hinput := sized input mem_cons_self
    cases input with
    | feed bytes => exact (fits.feed size bytes).bind fun next hnext => ih hrest size hnext
    | resize newColumns newRows =>
      exact (fits.resize size hinput).bind fun next hnext => ih hrest hinput hnext
    | reset => exact (fits.reset size).bind fun next hnext => ih hrest size hnext

theorem Emulator.holds_new {config : EmulatorConfig} (size : GridSize config.columns config.rows)
    (limits : config.scrollback.Sound) :
    Holds (Fits config.columns config.rows) (Emulator.new config) := by
  refine (Screen.holds_new size ?_).bind fun primary hprimary => ?_
  · rintro _ ⟨⟩
    exact ⟨limits, rfl, .inr (Nat.zero_le _), by simp⟩
  refine (Screen.holds_new size (by simp)).bind fun alt halt => ?_
  exact .pure ⟨hprimary, halt, Parser.bounded_new _⟩

/-- For every byte stream in any pieces and every sequence of resizes, nothing leaves its
range and the grid keeps its shape. -/
theorem grid_safe (config : EmulatorConfig) (size : GridSize config.columns config.rows)
    (limits : config.scrollback.Sound) (inputs : List Input)
    (sized : ∀ input ∈ inputs, input.Sized) :
    Holds Emulator.InBounds (do
      let emulator ← Emulator.new config
      Emulator.acceptAll inputs emulator) := by
  refine (Emulator.holds_new size limits).bind fun emulator hfits => ?_
  refine (hfits.acceptAll sized size).mono ?_
  rintro final ⟨_, _, -, hfinal⟩
  exact hfinal.inBounds

/-- An allocator that takes 20 bytes for a cell and 64 for a row. -/
def sampleLimits : Limits where
  maxLines := 3
  memoryBytes := fun line => 64 + 20 * line.size

theorem sound_sampleLimits : sampleLimits.Sound where
  memory := by
    intro line
    simp only [sampleLimits]
    omega
  ceiling := by decide

/-- A wide character, a cursor movement far past the margin and a narrower grid. -/
def sampleInputs : List Input :=
  [.feed [0x61, 0xE4, 0xB8, 0x80, 0x1B, 0x5B, 0x39, 0x39, 0x43], .resize 3 2,
    .feed [0x62, 0x0D, 0x0A]]

theorem grid_safe_in_sampleInputs : Holds Emulator.InBounds (do
      let emulator ← Emulator.new { columns := 6, rows := 2, scrollback := sampleLimits }
      Emulator.acceptAll sampleInputs emulator) := by
  refine grid_safe _ ⟨by decide, by decide⟩ sound_sampleLimits sampleInputs ?_
  simp only [sampleInputs, mem_cons, not_mem_nil, or_false, forall_eq_or_imp, forall_eq,
    Input.Sized, true_and, and_true]
  exact ⟨by decide, by decide⟩

end Hypeterm.Term
