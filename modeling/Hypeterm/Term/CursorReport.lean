import Hypeterm.Term.Sequences

/-! Where the cursor is reported and where a report sends it.  In origin mode both count rows
from the top of the scrolling region, but only positioning stays inside the region. -/
namespace Hypeterm.Term
open Library Checked List

def cursorQuery : Bytes := [0x1B, 0x5B, 0x36, 0x6E]

def cursorMove (row column : Int) : Bytes :=
  asciiBytes ("\x1b[" ++ toString row ++ ";" ++ toString column ++ "H").toList

def Screen.InStep (screen : Screen) : Prop :=
  screen.originMode = true →
    screen.scrollTop ≤ screen.cursorRow ∧ screen.cursorRow ≤ screen.scrollBottom

theorem toList_toString (number : Nat) :
    (toString (number : Int)).toList = Nat.toDigits 10 number := by
  rw [Int.toString_eq_repr, Int.repr_eq_if, if_pos (Int.natCast_nonneg number), Int.toNat_natCast,
    Nat.toList_repr]

theorem cursorMove_natural (row column : Nat) :
    cursorMove row column = 0x1B :: 0x5B :: (paramText [[some row], [some column]] ++ [0x48]) := by
  unfold cursorMove
  simp only [String.toList_append, toList_toString, asciiBytes, map_append]
  have hfirst : "\x1b[".toList.map (fun c => UInt8.ofNat c.toNat) = [0x1B, 0x5B] := by decide
  have hsecond : ";".toList.map (fun c => UInt8.ofNat c.toNat) = [0x3B] := by decide
  have hlast : "H".toList.map (fun c => UInt8.ofNat c.toNat) = [0x48] := by decide
  rw [hfirst, hsecond, hlast, Params.paramText_cons]
  simp [paramText, subText, numberText, asciiBytes]

theorem roomy_pair (row column : Nat) : Roomy [[some row], [some column]] where
  some := cons_ne_nil _ _
  each := by simp
  count := by simp
  subs := by simp

namespace Emulator

variable {emulator : Emulator}

theorem feed_cursorMove {row column : Nat} (wide : column ≤ 65535) (tall : row ≤ 65535)
    (emulator : Emulator) :
    (feed (cursorMove row column) emulator).value.active =
      ((emulator.feedByte 0x1B).value.active.cursorToPosition (row - 1) (column - 1)).value := by
  obtain ⟨hescape, -, -⟩ := feedByte_escape emulator
  rw [cursorMove_natural, feed_cons]
  obtain ⟨parser, -, hfed⟩ :=
    @feed_csi (emulator.feedByte 0x1B).value _ hescape isParamByte_paramText 0x48 rfl
  rw [hfed]
  generalize (emulator.feedByte 0x1B).value = escaped
  have hcarries := Params.carries_read (roomy_pair row column)
  generalize Params.clear.read (paramText [[some row], [some column]]) = tables at hcarries
  have hrow : (tables.get 0 1).value = row := by
    refine (hcarries.get 0 1 Nat.zero_lt_two).trans ?_
    exact congrArg (fun number : Nat => (number : Int)) (Nat.min_eq_right tall)
  have hcolumn : (tables.get 1 1).value = column := by
    refine (hcarries.get 1 1 Nat.one_lt_two).trans ?_
    exact congrArg (fun number : Nat => (number : Int)) (Nat.min_eq_right wide)
  have hactions : (actions { escaped with parser } (.csi tables 0x48)).value =
      [.screen (.cursorToPosition (row - 1) (column - 1))] := by
    simp [actions, onCsi, hcarries.marker, onPlainCsi, hrow, hcolumn]
  simp only [handle, value_bind, hactions, performAll, value_pure, perform, onActive_active]
  rfl

def reportedRow (screen : Screen) : Int :=
  if screen.originMode then screen.cursorRow + 1 - screen.scrollTop else screen.cursorRow + 1

theorem value_deviceStatus (emulator : Emulator) : (emulator.deviceStatus 6).value =
    emulator.answer ("\x1b[" ++ toString (reportedRow emulator.active) ++ ";" ++
      toString (emulator.active.cursorColumn + 1) ++ "R") := by
  unfold deviceStatus
  rw [if_neg (by decide), if_pos rfl, value_bind, value_bind, value_bind, value_ite]
  rfl

theorem feed_cursorQuery (answers : (emulator.feedByte 0x1B).value.answerDeviceQueries = true) :
    ((feed cursorQuery emulator).value.parser.state = .ground ∧
        (feed cursorQuery emulator).value.parser.decoder =
          (emulator.feedByte 0x1B).value.parser.decoder) ∧
      (feed cursorQuery emulator).value.active = (emulator.feedByte 0x1B).value.active ∧
      (feed cursorQuery emulator).value.sent = (emulator.feedByte 0x1B).value.sent ++
        ["\x1b[" ++ toString (reportedRow (emulator.feedByte 0x1B).value.active) ++ ";" ++
          toString ((emulator.feedByte 0x1B).value.active.cursorColumn + 1) ++ "R"] := by
  obtain ⟨hescape, -, -⟩ := feedByte_escape emulator
  have hroomy : Roomy [[some 6]] :=
    ⟨⟨cons_ne_nil _ _, by simp⟩, by simp, by simp⟩
  have htext : cursorQuery = 0x1B :: 0x5B :: (paramText [[some 6]] ++ [0x6E]) := by decide
  rw [htext, feed_cons]
  obtain ⟨parser, hparser, hfed⟩ :=
    @feed_csi (emulator.feedByte 0x1B).value _ hescape isParamByte_paramText 0x6E rfl
  rw [hfed]
  generalize (emulator.feedByte 0x1B).value = escaped at answers hparser
  have hcarries := Params.carries_read hroomy
  generalize Params.clear.read (paramText [[some 6]]) = tables at hcarries
  have hreport : (tables.get 0 0).value = 6 := hcarries.get 0 0 Nat.zero_lt_one
  have hactions : (actions { escaped with parser } (.csi tables 0x6E)).value =
      [.respond ("\x1b[" ++ toString (reportedRow escaped.active) ++ ";" ++
        toString (escaped.active.cursorColumn + 1) ++ "R")] := by
    have hstatus : (actions { escaped with parser } (.csi tables 0x6E)).value =
        (deviceStatus { escaped with parser } 6).value := by
      simp [actions, onCsi, hcarries.marker, onPlainCsi, hreport]
    rw [hstatus, value_deviceStatus]
    exact if_pos answers
  simp only [handle, value_bind, hactions, performAll, value_pure, perform]
  exact ⟨hparser, rfl, trivial⟩

end Emulator

/-- Where a report of the cursor leads: back to it, if and only if the cursor is inside the
region when origin mode is set. -/
theorem Screen.Fits.report_iff {columns rows : Int} {screen : Screen}
    (fits : screen.Fits columns rows) :
    (1 ≤ Emulator.reportedRow screen ∧ Emulator.reportedRow screen ≤ screen.rows ∧
      1 ≤ screen.cursorColumn + 1 ∧ screen.cursorColumn + 1 ≤ screen.columns ∧
      (screen.cursorToPosition (Emulator.reportedRow screen - 1)
        (screen.cursorColumn + 1 - 1)).value.cursorRow = screen.cursorRow ∧
      (screen.cursorToPosition (Emulator.reportedRow screen - 1)
        (screen.cursorColumn + 1 - 1)).value.cursorColumn = screen.cursorColumn) ↔
      screen.InStep := by
  have hrow := fits.cursorRow
  have hcolumn := fits.cursorColumn
  have hregion := fits.region
  have hwidth := fits.width
  have hheight := fits.height
  unfold Emulator.reportedRow Screen.InStep Screen.cursorToPosition Screen.bottomLimit Screen.topLimit
  simp only [value_bind, value_int, value_pure]
  cases screen.originMode with
  | false =>
    simp only [Bool.false_eq_true, if_false, value_int]
    apply iff_of_true
    · unfold clamp
      omega
    · exact fun hset => by cases hset
  | true =>
    simp only [if_true, value_pure]
    unfold clamp
    constructor
    · intro hreport _
      omega
    · intro hinside
      have hinside := hinside trivial
      omega

/-- In every reachable state that answers: the report names a place on the grid and leads
back to it, if and only if the cursor is in step with the region once the ESC of the query has
arrived. -/
theorem cursor_report_iff {emulator : Emulator} (reachable : emulator.Reachable)
    (answers : (emulator.feedByte 0x1B).value.answerDeviceQueries = true) :
    ∃ row column : Int, (Emulator.feed cursorQuery emulator).value.sent =
        (emulator.feedByte 0x1B).value.sent ++
          ["\x1b[" ++ toString row ++ ";" ++ toString column ++ "R"] ∧
      (((1 ≤ row ∧ row ≤ (Emulator.feed cursorQuery emulator).value.active.rows) ∧
          (1 ≤ column ∧ column ≤ (Emulator.feed cursorQuery emulator).value.active.columns) ∧
          (Emulator.feed (cursorQuery ++ cursorMove row column) emulator).value.active.cursorRow =
            (Emulator.feed cursorQuery emulator).value.active.cursorRow ∧
          (Emulator.feed (cursorQuery ++ cursorMove row column) emulator).value.active.cursorColumn =
            (Emulator.feed cursorQuery emulator).value.active.cursorColumn) ↔
        (emulator.feedByte 0x1B).value.active.InStep) := by
  obtain ⟨columns, rows, hsize, hfits⟩ := reachable.fitsGrid
  obtain ⟨⟨hground, hdecoder⟩, hactive, hsent⟩ := Emulator.feed_cursorQuery answers
  refine ⟨_, _, hsent, ?_⟩
  have hescaped : (emulator.feedByte 0x1B).value.Fits columns rows := (hfits.feed hsize [0x1B]).2
  have hidle : (Emulator.feed cursorQuery emulator).value.parser.decoder = {} := by
    have hsettled := Emulator.settled_feed reachable.settled [0x1B]
    have hstate := (Emulator.feedByte_escape emulator).1
    refine hdecoder.trans (hsettled.ground fun hground => ?_)
    have hother : Android.ParserState.escape = .ground := hstate.symm.trans hground
    cases hother
  obtain ⟨parser, hnext⟩ := Emulator.feedByte_escape_idle hground hidle
  have hmoved {row column : Int} (rowRange : 0 ≤ row ∧ row ≤ 65535)
      (columnRange : 0 ≤ column ∧ column ≤ 65535) :
      (Emulator.feed (cursorQuery ++ cursorMove row column) emulator).value.active =
        ((emulator.feedByte 0x1B).value.active.cursorToPosition (row - 1) (column - 1)).value := by
    lift row to Nat using rowRange.1
    lift column to Nat using columnRange.1
    rw [Emulator.feed_append, Emulator.feed_cursorMove (by omega) (by omega), hnext]
    exact congrArg (fun screen : Screen => (screen.cursorToPosition _ _).value) hactive
  rw [hactive]
  have hreport := hescaped.active.report_iff
  generalize (emulator.feedByte 0x1B).value = escaped at hescaped hreport hmoved
  have hwide := hsize.wide
  have htall := hsize.tall
  have hwidth := hescaped.active.width
  have hheight := hescaped.active.height
  rw [← hreport]
  constructor
  · rintro ⟨hrow, hcolumn, hmovedRow, hmovedColumn⟩
    rw [hmoved (by omega) (by omega)] at hmovedRow hmovedColumn
    exact ⟨hrow.1, hrow.2, hcolumn.1, hcolumn.2, hmovedRow, hmovedColumn⟩
  · rintro ⟨hfirst, hlast, hleft, hright, hmovedRow, hmovedColumn⟩
    rw [hmoved (by omega) (by omega)]
    exact ⟨⟨hfirst, hlast⟩, ⟨hleft, hright⟩, hmovedRow, hmovedColumn⟩

/-- A terminal of six columns and three rows that received some bytes. -/
def threeRows (bytes : Bytes) : Emulator :=
  (do
    let emulator ← Emulator.new { columns := 6, rows := 3, scrollback := sampleLimits }
    Emulator.acceptAll [.feed bytes] emulator).value

theorem reachable_threeRows (bytes : Bytes) : (threeRows bytes).Reachable := by
  refine ⟨{ columns := 6, rows := 3, scrollback := sampleLimits }, [.feed bytes],
    ⟨by decide, by decide⟩, sound_sampleLimits, ?_, rfl⟩
  intro input hinput
  rw [mem_singleton.mp hinput]
  exact trivial

/-- `CSI ? 6 h`, `CSI 3 ; 1 H`, `ESC 7`, `CSI 1 ; 2 r`, `ESC 8`. -/
def restoredBelow : Bytes :=
  [0x1B, 0x5B, 0x3F, 0x36, 0x68, 0x1B, 0x5B, 0x33, 0x3B, 0x31, 0x48, 0x1B, 0x37,
    0x1B, 0x5B, 0x31, 0x3B, 0x32, 0x72, 0x1B, 0x38]

/-- The cursor is restored below a region that was made smaller since: it is reported in the
third row, and positioning leads to the second. -/
theorem restored_below_region : (threeRows restoredBelow).Reachable ∧
      (Emulator.feed cursorQuery (threeRows restoredBelow)).value.sent = ["\x1b[3;1R"] ∧
      (Emulator.feed cursorQuery (threeRows restoredBelow)).value.active.cursorRow = 2 ∧
      (Emulator.feed (cursorQuery ++ cursorMove 3 1) (threeRows restoredBelow)).value.active.cursorRow
        = 1 := by
  refine ⟨reachable_threeRows _, ?_, ?_, ?_⟩
  · decide
  · decide
  · decide

/-- In the second row of the whole screen. -/
theorem cursor_report_second_row :
    ∃ row column : Int, (Emulator.feed cursorQuery (threeRows [0x0A, 0x41])).value.sent =
        ((threeRows [0x0A, 0x41]).feedByte 0x1B).value.sent ++
          ["\x1b[" ++ toString row ++ ";" ++ toString column ++ "R"] ∧
      (((1 ≤ row ∧ row ≤ (Emulator.feed cursorQuery (threeRows [0x0A, 0x41])).value.active.rows) ∧
          (1 ≤ column ∧
            column ≤ (Emulator.feed cursorQuery (threeRows [0x0A, 0x41])).value.active.columns) ∧
          (Emulator.feed (cursorQuery ++ cursorMove row column)
              (threeRows [0x0A, 0x41])).value.active.cursorRow =
            (Emulator.feed cursorQuery (threeRows [0x0A, 0x41])).value.active.cursorRow ∧
          (Emulator.feed (cursorQuery ++ cursorMove row column)
              (threeRows [0x0A, 0x41])).value.active.cursorColumn =
            (Emulator.feed cursorQuery (threeRows [0x0A, 0x41])).value.active.cursorColumn) ↔
        ((threeRows [0x0A, 0x41]).feedByte 0x1B).value.active.InStep) :=
  cursor_report_iff (reachable_threeRows [0x0A, 0x41]) (by decide)

end Hypeterm.Term
