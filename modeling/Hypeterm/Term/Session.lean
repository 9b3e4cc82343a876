import Hypeterm.Term.Isolation
import Hypeterm.Term.ScrolledOff

/-! One attached terminal: the emulator, and how far up in its scrollback the view is parked.
A parked view stays on its row while that row is kept. -/
namespace Hypeterm.Term
open Library Checked List

namespace Emulator

def pushedLines (emulator : Emulator) : Nat := (emulator.primary.sink.map Scrollback.pushed).getD 0

def evictedLines (emulator : Emulator) : Nat := (emulator.primary.sink.map Scrollback.evicted).getD 0

def maxScrollOffset (emulator : Emulator) : Nat := emulator.scrollback.length

end Emulator

structure TerminalSession where
  emulator : Emulator
  scrollOffset : Nat := 0
  selection : Selection := {}

inductive SessionInput where
  | applyOutput (bytes : Bytes)
  | resetTerminal
  | resizeGrid (columns rows : Int)
  | scrollLines (delta : Int)
  | scrollToBottom
  | setSelection (selection : Selection)

namespace TerminalSession

def new (config : EmulatorConfig) : Checked TerminalSession := do
  let emulator ← Emulator.new config
  pure { emulator }

/-- The offset counts from the live bottom, so every row that is pushed moves it on. -/
def applyOutput (session : TerminalSession) (bytes : Bytes) : Checked TerminalSession :=
  if bytes = [] then pure session
  else do
    let pushedBefore := session.emulator.pushedLines
    let emulator ← Emulator.feed bytes session.emulator
    if 0 < session.scrollOffset then
      let scrollOffset := session.scrollOffset + (emulator.pushedLines - pushedBefore)
      let retained := emulator.maxScrollOffset
      pure
        { session with
          emulator, scrollOffset := if retained < scrollOffset then retained else scrollOffset }
    else pure { session with emulator }

def resetTerminal (session : TerminalSession) : Checked TerminalSession := do
  let emulator ← session.emulator.reset
  pure { emulator }

def resizeGrid (session : TerminalSession) (columns rows : Int) : Checked TerminalSession :=
  if columns < 1 ∨ rows < 1 then pure session
  else do
    let emulator ← session.emulator.resize columns rows
    let maximum := emulator.maxScrollOffset
    pure
      { emulator
        scrollOffset := if maximum < session.scrollOffset then maximum else session.scrollOffset }

def scrollLines (session : TerminalSession) (delta : Int) : Checked TerminalSession :=
  if session.emulator.altScreenActive then pure session
  else
    let maximum := session.emulator.maxScrollOffset
    if 0 < delta then
      pure { session with scrollOffset := min maximum (session.scrollOffset + delta.toNat) }
    else if delta < 0 then do
      let decrease ← int (-delta)
      pure
        { session with
          scrollOffset := if session.scrollOffset ≤ decrease.toNat then 0
            else session.scrollOffset - decrease.toNat }
    else pure session

def scrollToBottom (session : TerminalSession) : TerminalSession := { session with scrollOffset := 0 }

def setSelection (session : TerminalSession) (selection : Selection) : TerminalSession :=
  { session with selection }

def snapshot (session : TerminalSession) : Snapshot :=
  session.emulator.buildSnapshot session.scrollOffset session.selection

def accept (session : TerminalSession) (input : SessionInput) : Checked TerminalSession :=
  match input with
  | .applyOutput bytes => session.applyOutput bytes
  | .resetTerminal => session.resetTerminal
  | .resizeGrid columns rows => session.resizeGrid columns rows
  | .scrollLines delta => session.scrollLines delta
  | .scrollToBottom => pure session.scrollToBottom
  | .setSelection selection => pure (session.setSelection selection)

def acceptAll : List SessionInput → TerminalSession → Checked TerminalSession
  | [], session => pure session
  | input :: rest, session => do
      let session ← session.accept input
      acceptAll rest session

end TerminalSession

namespace Scrollback

/-- Rows went in at the end and came out at the front, and both were counted. -/
structure Fed (newer : List Line) (before after : Scrollback) : Prop where
  pushed : after.pushed = before.pushed + newer.length
  total : after.evicted + after.lines.length =
    before.evicted + (before.lines.length + newer.length)
  evicted : before.evicted ≤ after.evicted
  lines : after.lines = (before.lines ++ newer).drop (after.evicted - before.evicted)
  limits : after.limits = before.limits
  some : 1 ≤ before.limits.maxLines → before.lines ++ newer ≠ [] → after.lines ≠ []

variable {before middle after : Scrollback} {first second : List Line}

theorem Fed.refl (scrollback : Scrollback) : Fed [] scrollback scrollback where
  pushed := rfl
  total := rfl
  evicted := Nat.le_refl _
  lines := by rw [Nat.sub_self, drop_zero, append_nil]
  limits := rfl
  some _ := by rw [append_nil]; exact id

theorem Fed.trans (earlier : Fed first before middle) (later : Fed second middle after) :
    Fed (first ++ second) before after := by
  have htotal := earlier.total
  have hlater := later.total
  have hevicted := earlier.evicted
  have hmore := later.evicted
  refine ⟨?_, ?_, Nat.le_trans hevicted hmore, ?_, later.limits.trans earlier.limits, ?_⟩
  · rw [later.pushed, earlier.pushed, length_append, Nat.add_assoc]
  · rw [length_append]
    omega
  · have hsplit : after.evicted - before.evicted =
        (middle.evicted - before.evicted) + (after.evicted - middle.evicted) := by omega
    have hinside : middle.evicted - before.evicted ≤ (before.lines ++ first).length := by
      rw [length_append]
      omega
    rw [later.lines, earlier.lines, ← append_assoc, hsplit, ← drop_drop,
      drop_append_of_le_length hinside]
  · intro room hsome
    apply later.some (by rw [earlier.limits]; exact room)
    by_cases hfirst : before.lines ++ first = []
    · rw [← append_assoc, hfirst, nil_append] at hsome
      exact append_ne_nil_of_right_ne_nil _ hsome
    · exact append_ne_nil_of_left_ne_nil (earlier.some room hfirst) _

theorem Fed.getElem?_kept (fed : Fed first before after) {number : Nat}
    (kept : after.evicted ≤ number) (old : number - before.evicted < before.lines.length) :
    after.lines[number - after.evicted]? = before.lines[number - before.evicted]? := by
  have hevicted := fed.evicted
  have hindex : (after.evicted - before.evicted) + (number - after.evicted) =
      number - before.evicted := by omega
  rw [fed.lines, getElem?_drop, hindex, getElem?_append_left old]

theorem fed_trimLines (lines : List Line) (scrollback : Scrollback) :
    Fed [] { scrollback with lines } (scrollback.trimLines lines) := by
  induction lines generalizing scrollback with
  | nil => exact .refl _
  | cons front rest ih =>
    unfold trimLines
    split
    · rename_i hfull
      have hdropped : Fed [] { scrollback with lines := front :: rest }
          { scrollback with
            lines := rest
            bytes := scrollback.bytes - scrollback.limits.memoryBytes front
            evicted := scrollback.evicted + 1
            revision := scrollback.revision + 1 } := by
        refine ⟨rfl, ?_, Nat.le_succ _, ?_, rfl, fun room _ => ?_⟩
        · dsimp only
          rw [length_cons, length_nil]
          omega
        · dsimp only
          rw [Nat.add_sub_cancel_left, append_nil]
          rfl
        · -- the last row is never dropped
          dsimp only at room ⊢
          rintro rfl
          rw [length_nil] at hfull
          omega
      exact hdropped.trans (ih
        { scrollback with
          bytes := scrollback.bytes - scrollback.limits.memoryBytes front
          evicted := scrollback.evicted + 1
          revision := scrollback.revision + 1 })
    · exact .refl _

theorem fed_trim (scrollback : Scrollback) : Fed [] scrollback scrollback.trim :=
  fed_trimLines scrollback.lines scrollback

theorem fed_pushLine (scrollback : Scrollback) (line : Line) :
    Fed [stored line] scrollback (scrollback.pushLine line) := by
  have hpushed : Fed [stored line] scrollback
      { scrollback with
        bytes := scrollback.bytes + scrollback.limits.memoryBytes (stored line)
        lines := scrollback.lines ++ [stored line]
        pushed := scrollback.pushed + 1
        revision := scrollback.revision + 1 } := by
    refine ⟨rfl, ?_, Nat.le_refl _, ?_, rfl, fun _ hsome => hsome⟩
    · exact congrArg _ length_append
    · dsimp only
      rw [Nat.sub_self, drop_zero]
  exact hpushed.trans (fed_trim _)

theorem fed_pushLines (rows : List Line) (scrollback : Scrollback) :
    Fed (rows.map stored) scrollback (rows.foldl pushLine scrollback) := by
  induction rows generalizing scrollback with
  | nil => exact .refl _
  | cons row rest ih => exact .trans (fed_pushLine scrollback row) (ih _)

end Scrollback

def Screen.limits (screen : Screen) : Option Limits := screen.sink.map Scrollback.limits

theorem Scrollback.limits_clearScrollback (scrollback : Scrollback) :
    scrollback.clearScrollback.limits = scrollback.limits := by
  unfold clearScrollback
  split
  · rfl
  · rfl

namespace Screen

variable {screen : Screen}

theorem limits_map {change : Scrollback → Scrollback}
    (keeps : ∀ scrollback, (change scrollback).limits = scrollback.limits) (sink : Option Scrollback) :
    (sink.map change).map Scrollback.limits = sink.map Scrollback.limits := by
  cases sink with
  | none => rfl
  | some scrollback => exact congrArg some (keeps scrollback)

theorem limits_pushLine (line : Line) : (screen.pushLine line).limits = screen.limits :=
  limits_map (fun scrollback => (scrollback.fed_pushLine line).limits) screen.sink

theorem limits_pushedRows (rows : List Line) :
    (screen.pushedRows rows).map Scrollback.limits = screen.limits :=
  limits_map (fun scrollback => (scrollback.fed_pushLines rows).limits) screen.sink

theorem limits_dropTop (count : Nat) (screen : Screen) :
    (dropTop count screen).value.limits = screen.limits := by
  induction count generalizing screen with
  | zero => rfl
  | succ count ih =>
    unfold dropTop
    rw [value_bind, value_bind, ih]
    split
    · exact screen.limits_pushLine _
    · exact screen.limits_pushLine _

theorem limits_resize (screen : Screen) (columns rows : Int) :
    (screen.resize columns rows).value.limits = screen.limits := by
  unfold resize
  generalize (if columns < 1 then 1 else columns) = columns
  generalize (if rows < 1 then 1 else rows) = rows
  rw [value_ite]
  split
  · rfl
  rw [value_bind, value_bind, value_bind]
  have hresized : (if columns ≠ screen.columns then
      { screen with
        lines := screen.lines.map fun line => line.resize (size columns).value (blankCell {})
        columns }
      else screen).limits = screen.limits := by
    split
    · rfl
    · rfl
  generalize (if columns ≠ screen.columns then _ else screen) = resized at *
  rw [value_ite, value_ite]
  refine Eq.trans ?_ hresized
  split
  · exact limits_dropTop _ _
  split
  · rfl
  · rfl

theorem limits_reflowResize (columns rows : Int) :
    (screen.reflowResize columns rows).value.limits = screen.limits := by
  unfold reflowResize
  cases hsink : screen.sink with
  | none => exact limits_resize _ _ _
  | some sink =>
    have hlimits : screen.limits = some sink.limits := congrArg (Option.map Scrollback.limits) hsink
    rw [value_ite, value_ite]
    split
    · split
      · unfold restoreRows
        rw [value_bind, value_bind]
        rw [value_ite]
        split
        · exact (limits_resize _ _ _).trans hlimits.symm
        · exact hlimits.symm
      · exact limits_resize _ _ _
    · refine Eq.trans ?_ hlimits.symm
      exact congrArg some (Scrollback.limits_trimLines _ _)

end Screen

namespace Emulator

variable {columns rows : Int} {emulator final : Emulator} {steps : Trace}

theorem limits_perform (size : GridSize columns rows) (fits : emulator.Fits columns rows)
    (action : Action) : (emulator.perform action).value.primary.limits = emulator.primary.limits := by
  cases action with
  | screen operation =>
    simp only [perform, onActive, value_ite, value_bind, value_pure]
    split
    · rfl
    by_cases hclears : operation = .eraseInDisplay 3
    · subst hclears
      exact Screen.limits_map Scrollback.limits_clearScrollback emulator.primary.sink
    · have hsink := Operation.sink_perform size fits.primary hclears
      unfold Screen.limits
      rw [hsink]
      exact Screen.limits_pushedRows _
  | change | respond | savePrimaryCursor => rfl
  | restorePrimaryCursor =>
    simp only [perform, Screen.restoreCursor, value_ite, value_bind, value_pure]
    split
    · rfl
    · rfl
  | enterAltScreen saveCursor clear =>
    simp only [perform, enterAltScreen, value_ite, value_bind, value_pure]
    split
    · rfl
    split
    · rfl
    · rfl
  | leaveAltScreen restoreCursor clear =>
    simp only [perform, leaveAltScreen, Screen.restoreCursor, value_ite, value_bind, value_pure]
    repeat' split
    all_goals rfl
  | reset => exact Screen.limits_map Scrollback.limits_clearScrollback emulator.primary.sink

theorem Performs.limits (size : GridSize columns rows)
    (performs : Performs columns rows emulator steps final) :
    final.primary.limits = emulator.primary.limits := by
  induction performs with
  | done _ => rfl
  | parse parser _ ih => exact ih
  | step fits _ _ ih => exact ih.trans (limits_perform size fits _)

theorem Reachable.limits_accept (reachable : emulator.Reachable) (input : Input) :
    (emulator.accept input).value.primary.limits = emulator.primary.limits := by
  obtain ⟨columns, rows, hsize, hfits⟩ := reachable.fitsGrid
  cases input with
  | feed bytes => exact (performs_trace hsize bytes hfits).limits hsize
  | resize columns rows =>
    unfold accept resize
    dsimp only
    generalize (if columns < 1 then 1 else columns) = columns
    generalize (if rows < 1 then 1 else rows) = rows
    rw [value_ite]
    split
    · rfl
    · exact Screen.limits_reflowResize _ _
  | reset => exact limits_perform hsize hfits .reset

end Emulator

/-- Neither clears the scrollback nor resets nor switches screens. -/
def Action.feedsScrollback : Action → Bool
  | .screen (.eraseInDisplay mode) => mode != 3
  | .enterAltScreen _ _ | .leaveAltScreen _ _ | .reset => false
  | _ => true

namespace Emulator

def Trace.feedsScrollback (trace : Trace) : Bool := trace.all fun step => step.2.feedsScrollback

/-- The primary screen stays shown, and its scrollback only gets rows. -/
structure Feeds (before after : Emulator) : Prop where
  shown : before.altScreenActive = false → after.altScreenActive = false
  sink : before.altScreenActive = false → ∃ rows, after.primary.sink = before.primary.pushedRows rows

theorem Feeds.of_same {before after : Emulator} (shown : after.altScreenActive = before.altScreenActive)
    (sink : after.primary.sink = before.primary.sink) : before.Feeds after :=
  ⟨fun primary => shown.trans primary, fun _ => ⟨[], sink.trans (Screen.pushedRows_nil _).symm⟩⟩

theorem Feeds.trans {before middle after : Emulator} (first : before.Feeds middle)
    (second : middle.Feeds after) : before.Feeds after := by
  refine ⟨fun primary => second.shown (first.shown primary), fun primary => ?_⟩
  obtain ⟨earlier, hearlier⟩ := first.sink primary
  obtain ⟨later, hlater⟩ := second.sink (first.shown primary)
  exact ⟨earlier ++ later, hlater.trans (Screen.pushedRows_append hearlier)⟩

variable {columns rows : Int} {emulator final : Emulator} {steps : Trace}

theorem feeds_perform (size : GridSize columns rows) (fits : emulator.Fits columns rows)
    {action : Action} (feeds : action.feedsScrollback = true) :
    emulator.Feeds (emulator.perform action).value := by
  cases action with
  | screen operation =>
    have hother : operation ≠ .eraseInDisplay 3 := by
      rintro rfl
      cases feeds
    refine ⟨fun primary => ?_, fun primary => ?_⟩
    · exact (onActive_screen operation).altScreenActive.trans primary
    · have hprimary : (emulator.perform (.screen operation)).value.primary =
          (operation.perform emulator.primary).value := by
        simp only [perform, onActive, primary, Bool.false_eq_true, if_false, value_bind, value_pure]
      rw [hprimary]
      exact ⟨_, Operation.sink_perform size fits.primary hother⟩
  | change | respond | savePrimaryCursor => exact .of_same rfl rfl
  | restorePrimaryCursor =>
    refine .of_same rfl ?_
    unfold perform Screen.restoreCursor
    rw [value_bind, value_ite]
    split
    · rfl
    · rfl
  | enterAltScreen | leaveAltScreen | reset => cases feeds

theorem Performs.feeds (size : GridSize columns rows)
    (performs : Performs columns rows emulator steps final)
    (feeds : Trace.feedsScrollback steps = true) : emulator.Feeds final := by
  induction performs with
  | done _ => exact .of_same rfl rfl
  | parse parser _ ih => exact ⟨(ih feeds).shown, (ih feeds).sink⟩
  | step fits _ _ ih =>
    rw [Trace.feedsScrollback, all_cons, Bool.and_eq_true] at feeds
    exact (feeds_perform size fits feeds.1).trans (ih feeds.2)

end Emulator

namespace Emulator

theorem counts_of_sink {emulator : Emulator} {ring : Scrollback}
    (sink : emulator.primary.sink = some ring) :
    emulator.scrollback = ring.lines ∧ emulator.pushedLines = ring.pushed ∧
      emulator.evictedLines = ring.evicted := by
  unfold scrollback pushedLines evictedLines
  rw [sink]
  exact ⟨rfl, rfl, rfl⟩

def lineNumbered (emulator : Emulator) (number : Nat) : Option Line :=
  if emulator.evictedLines ≤ number then emulator.scrollback[number - emulator.evictedLines]?
  else none

end Emulator

namespace TerminalSession

/-- The number of the row that the view begins with. -/
def firstLine (session : TerminalSession) : Nat :=
  session.emulator.evictedLines + (session.emulator.scrollback.length - session.scrollOffset)

end TerminalSession

def SessionInput.Sized : SessionInput → Prop
  | .resizeGrid columns rows => GridSize columns rows
  | _ => True

namespace TerminalSession

/-- Some inputs to a new session lead here.  A valid configuration keeps at least one row. -/
def Reachable (session : TerminalSession) : Prop :=
  ∃ (config : EmulatorConfig) (inputs : List SessionInput),
    GridSize config.columns config.rows ∧ config.scrollback.Sound ∧
      1 ≤ config.scrollback.maxLines ∧ (∀ input ∈ inputs, input.Sized) ∧
        (do
          let session ← TerminalSession.new config
          acceptAll inputs session).value = session

end TerminalSession

theorem Emulator.Reachable.accept {emulator : Emulator} (reachable : emulator.Reachable)
    {input : Input} (sized : input.Sized) : (emulator.accept input).value.Reachable := by
  obtain ⟨config, inputs, hsize, hlimits, hsized, rfl⟩ := reachable
  refine ⟨config, inputs ++ [input], hsize, hlimits, ?_, ?_⟩
  · intro other hother
    rcases mem_append.mp hother with hother | hother
    · exact hsized other hother
    · rw [mem_singleton.mp hother]
      exact sized
  · rw [value_bind, value_bind]
    generalize (Emulator.new config).value = first
    induction inputs generalizing first with
    | nil => rfl
    | cons _ rest ih => exact ih (fun other hother => hsized other (mem_cons_of_mem _ hother)) _

namespace TerminalSession

variable {session : TerminalSession}

/-- The view is parked on a row that there is. -/
structure Parkable (session : TerminalSession) : Prop where
  reachable : session.emulator.Reachable
  room : ∀ limits ∈ session.emulator.primary.limits, 1 ≤ limits.maxLines
  offset : session.scrollOffset ≤ session.emulator.maxScrollOffset

theorem Parkable.accept (parkable : session.Parkable) {input : SessionInput} (sized : input.Sized) :
    (session.accept input).value.Parkable := by
  obtain ⟨hreachable, hroom, hoffset⟩ := parkable
  have hstep {next : Input} (sized : next.Sized) :
      (session.emulator.accept next).value.Reachable ∧
        ∀ limits ∈ (session.emulator.accept next).value.primary.limits, 1 ≤ limits.maxLines := by
    refine ⟨hreachable.accept sized, ?_⟩
    rw [hreachable.limits_accept]
    exact hroom
  cases input with
  | applyOutput bytes =>
    obtain ⟨hfed, hlimits⟩ := @hstep (.feed bytes) trivial
    unfold TerminalSession.accept applyOutput
    rw [value_ite, value_bind, value_ite]
    split
    · exact ⟨hreachable, hroom, hoffset⟩
    split
    · refine ⟨hfed, hlimits, ?_⟩
      dsimp only
      split
      · exact Nat.le_refl _
      · exact Nat.not_lt.mp ‹_›
    · rename_i hbottom
      have hzero := Nat.eq_zero_of_not_pos hbottom
      exact ⟨hfed, hlimits, hzero ▸ Nat.zero_le _⟩
  | resetTerminal =>
    obtain ⟨hreset, hlimits⟩ := @hstep .reset trivial
    exact ⟨hreset, hlimits, Nat.zero_le _⟩
  | resizeGrid columns rows =>
    obtain ⟨hresized, hlimits⟩ := @hstep (.resize columns rows) sized
    unfold TerminalSession.accept resizeGrid
    rw [value_ite, value_bind]
    split
    · exact ⟨hreachable, hroom, hoffset⟩
    · refine ⟨hresized, hlimits, ?_⟩
      dsimp only
      split
      · exact Nat.le_refl _
      · exact Nat.not_lt.mp ‹_›
  | scrollLines delta =>
    unfold TerminalSession.accept scrollLines
    simp only [value_ite, value_bind, value_pure]
    split
    · exact ⟨hreachable, hroom, hoffset⟩
    split
    · exact ⟨hreachable, hroom, Nat.min_le_left _ _⟩
    split
    · refine ⟨hreachable, hroom, ?_⟩
      split
      · exact Nat.zero_le _
      · exact Nat.le_trans (Nat.sub_le _ _) hoffset
    · exact ⟨hreachable, hroom, hoffset⟩
  | scrollToBottom => exact ⟨hreachable, hroom, Nat.zero_le _⟩
  | setSelection selection => exact ⟨hreachable, hroom, hoffset⟩

theorem Reachable.parkable (reachable : session.Reachable) : session.Parkable := by
  obtain ⟨config, inputs, hsize, hlimits, hroom, hsized, rfl⟩ := reachable
  have hnew : Parkable (TerminalSession.new config).value := by
    refine ⟨⟨config, [], hsize, hlimits, fun _ hnone => absurd hnone not_mem_nil, rfl⟩, ?_,
      Nat.zero_le _⟩
    intro limits hsome
    cases hsome
    exact hroom
  rw [value_bind]
  generalize (TerminalSession.new config).value = first at hnew
  induction inputs generalizing first with
  | nil => exact hnew
  | cons input rest ih =>
    obtain ⟨hinput, hrest⟩ := forall_mem_cons.mp hsized
    exact ih hrest _ (hnew.accept hinput)

theorem head_snapshot (primary : session.emulator.altScreenActive = false)
    (parked : 0 < session.scrollOffset)
    (offset : session.scrollOffset ≤ session.emulator.maxScrollOffset)
    (tall : 1 ≤ session.emulator.active.rows) :
    session.snapshot.lines.head? =
      session.emulator.scrollback[session.emulator.scrollback.length - session.scrollOffset]? := by
  have hlength : session.emulator.maxScrollOffset = session.emulator.scrollback.length := rfl
  have hrows : 0 < session.emulator.active.rows.toNat := by omega
  have hinside : session.emulator.scrollback.length - session.scrollOffset <
      session.emulator.scrollback.length := by omega
  unfold snapshot Emulator.buildSnapshot
  dsimp only
  rw [primary, if_neg Bool.false_ne_true, take_length, Nat.min_eq_left (hlength ▸ offset)]
  rw [head?_take, if_neg (Nat.ne_of_gt hrows), head?_append, head?_drop,
    getElem?_eq_getElem hinside]
  rfl

theorem applyOutput_parked (parked : 0 < session.scrollOffset)
    (offset : session.scrollOffset ≤ session.emulator.maxScrollOffset) (bytes : Bytes) :
    (session.applyOutput bytes).value =
      { session with
        emulator := (Emulator.feed bytes session.emulator).value
        scrollOffset := min
          (session.scrollOffset + ((Emulator.feed bytes session.emulator).value.pushedLines -
            session.emulator.pushedLines))
          (Emulator.feed bytes session.emulator).value.maxScrollOffset } := by
  unfold applyOutput
  rw [value_ite, value_bind, value_ite, if_pos parked]
  by_cases hempty : bytes = []
  · subst hempty
    have hsame : (Emulator.feed [] session.emulator).value = session.emulator := rfl
    rw [if_pos rfl, hsame, Nat.sub_self, Nat.add_zero, Nat.min_eq_left offset]
    rfl
  · rw [if_neg hempty]
    generalize (Emulator.feed bytes session.emulator).value = fed
    have hclamped : (if fed.maxScrollOffset <
        session.scrollOffset + (fed.pushedLines - session.emulator.pushedLines) then
          fed.maxScrollOffset
        else session.scrollOffset + (fed.pushedLines - session.emulator.pushedLines)) =
        min (session.scrollOffset + (fed.pushedLines - session.emulator.pushedLines))
          fed.maxScrollOffset := by
      split
      · exact (Nat.min_eq_right (Nat.le_of_lt ‹_›)).symm
      · exact (Nat.min_eq_left (Nat.not_lt.mp ‹_›)).symm
    exact congrArg
      (fun scrollOffset => ({ session with emulator := fed, scrollOffset } : TerminalSession)) hclamped

/-- The view begins with the same row, or with the oldest one when that row is gone. -/
structure Stays (before after : TerminalSession) : Prop where
  /-- A row that is kept keeps its number. -/
  numbered : ∀ number line, before.emulator.lineNumbered number = some line →
    after.emulator.evictedLines ≤ number → after.emulator.lineNumbered number = some line
  begins : ∃ line, before.emulator.lineNumbered before.firstLine = some line ∧
    before.snapshot.lines.head? = some line
  kept : after.emulator.evictedLines ≤ before.firstLine →
    after.firstLine = before.firstLine ∧
      after.snapshot.lines.head? = before.snapshot.lines.head?
  oldest : before.firstLine < after.emulator.evictedLines →
    after.firstLine = after.emulator.evictedLines ∧
      after.snapshot.lines.head? = after.emulator.scrollback.head?

end TerminalSession

/-- A parked view does not drift, whatever the output pushes and the limits evict. -/
theorem parked_view_stays {session : TerminalSession} (reachable : session.Reachable)
    (primary : session.emulator.altScreenActive = false) (parked : 0 < session.scrollOffset)
    {bytes : Bytes}
    (feeds : Emulator.Trace.feedsScrollback (session.emulator.trace bytes) = true) :
    session.Stays (session.applyOutput bytes).value := by
  obtain ⟨hreachable, hroom, hoffset⟩ := reachable.parkable
  obtain ⟨columns, rows, hsize, hfits⟩ := hreachable.fitsGrid
  obtain ⟨hshown, hsink⟩ := (Emulator.performs_trace hsize bytes hfits).feeds hsize feeds
  obtain ⟨pushed, hpushed⟩ := hsink primary
  have hafter := (hfits.feed hsize bytes).2
  rw [TerminalSession.applyOutput_parked parked hoffset]
  have hstill := hshown primary
  generalize (Emulator.feed bytes session.emulator).value = fed at *
  cases hring : session.emulator.primary.sink with
  | none =>
    have hnone : session.emulator.maxScrollOffset = 0 := by
      unfold Emulator.maxScrollOffset Emulator.scrollback
      rw [hring]
      rfl
    omega
  | some ring =>
    obtain ⟨hlines, hcount, hevicted⟩ := Emulator.counts_of_sink hring
    have hfed := ring.fed_pushLines pushed
    have hlater : fed.primary.sink = some (pushed.foldl Scrollback.pushLine ring) := by
      rw [hpushed, Screen.pushedRows, hring]
      rfl
    generalize pushed.foldl Scrollback.pushLine ring = later at hlater hfed
    obtain ⟨hlinesLater, hcountLater, hevictedLater⟩ := Emulator.counts_of_sink hlater
    have hlength : session.emulator.maxScrollOffset = ring.lines.length := congrArg List.length hlines
    have hretained : fed.maxScrollOffset = later.lines.length := congrArg List.length hlinesLater
    have hmoved : fed.pushedLines - session.emulator.pushedLines = pushed.length := by
      rw [hcountLater, hcount, hfed.pushed, length_map, Nat.add_sub_cancel_left]
    have hsome : later.lines ≠ [] := by
      apply hfed.some (hroom _ (congrArg (Option.map Scrollback.limits) hring))
      apply append_ne_nil_of_left_ne_nil
      rw [Ne, ← length_eq_zero_iff]
      omega
    have hpositive := length_pos_iff.mpr hsome
    have htotal := hfed.total
    rw [length_map] at htotal
    rw [hmoved, hretained]
    generalize hoffsetLater : min (session.scrollOffset + pushed.length) later.lines.length = moved
    have hview := TerminalSession.head_snapshot primary parked hoffset
      (by have := hfits.active.height; have := hsize.tall; omega)
    have hviewLater := @TerminalSession.head_snapshot
      { session with emulator := fed, scrollOffset := moved } hstill (by dsimp only; omega)
      (by dsimp only; omega) (by have := hafter.active.height; have := hsize.tall; dsimp only; omega)
    have hfirst : session.firstLine =
        ring.evicted + (ring.lines.length - session.scrollOffset) := by
      rw [TerminalSession.firstLine, hlines, hevicted]
    have hfirstLater : TerminalSession.firstLine
        { session with emulator := fed, scrollOffset := moved } =
        later.evicted + (later.lines.length - moved) := by
      rw [TerminalSession.firstLine, hlinesLater, hevictedLater]
    rw [hlines] at hview
    rw [hlinesLater] at hviewLater
    refine ⟨fun number line hnumber hkept => ?_, ?_, fun hkept => ?_, fun hgone => ?_⟩
    · unfold Emulator.lineNumbered at hnumber ⊢
      rw [hevicted, hlines] at hnumber
      split at hnumber
      · rw [hevictedLater] at hkept ⊢
        rw [if_pos hkept, hlinesLater, hfed.getElem?_kept hkept, hnumber]
        exact (List.getElem?_eq_some_iff.mp hnumber).1
      · cases hnumber
    · have hinside : ring.lines.length - session.scrollOffset < ring.lines.length := by omega
      refine ⟨_, ?_, hview.trans (getElem?_eq_getElem hinside)⟩
      rw [Emulator.lineNumbered, hfirst, hevicted, hlines, if_pos (Nat.le_add_right _ _),
        Nat.add_sub_cancel_left, getElem?_eq_getElem hinside]
    · dsimp only at hkept
      rw [hfirst, hevictedLater] at hkept
      have hsame : later.evicted + (later.lines.length - moved) =
          ring.evicted + (ring.lines.length - session.scrollOffset) := by omega
      have hindex : later.lines.length - moved =
          ring.evicted + (ring.lines.length - session.scrollOffset) - later.evicted := by omega
      refine ⟨by rw [hfirstLater, hfirst, hsame], ?_⟩
      rw [hview, hviewLater, hindex, hfed.getElem?_kept hkept (by omega), Nat.add_sub_cancel_left]
    · dsimp only at hgone
      rw [hfirst, hevictedLater] at hgone
      have hall : moved = later.lines.length := by omega
      refine ⟨?_, ?_⟩
      · dsimp only
        rw [hfirstLater, hevictedLater, hall, Nat.sub_self, Nat.add_zero]
      · dsimp only
        rw [hviewLater, hlinesLater, hall, Nat.sub_self, head?_eq_getElem?]

def parkedSample : TerminalSession :=
  (do
    let session ← TerminalSession.new { columns := 6, rows := 2, scrollback := sampleLimits }
    TerminalSession.acceptAll
      [.applyOutput [0x61, 0x0A, 0x62, 0x0A, 0x63, 0x0A, 0x64, 0x0A, 0x65, 0x0A], .scrollLines 2]
      session).value

theorem parked_view_stays_in_sample :
    parkedSample.Stays (parkedSample.applyOutput [0x66, 0x0A, 0x67, 0x0A]).value := by
  refine parked_view_stays ⟨{ columns := 6, rows := 2, scrollback := sampleLimits }, _,
    ⟨by decide, by decide⟩, sound_sampleLimits, by decide, ?_, rfl⟩ ?_ ?_ ?_
  · intro input hinput
    simp only [mem_cons, not_mem_nil, or_false] at hinput
    rcases hinput with rfl | rfl
    · exact trivial
    · exact trivial
  · decide
  · decide
  · decide

end Hypeterm.Term
