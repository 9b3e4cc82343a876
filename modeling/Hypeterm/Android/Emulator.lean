import Hypeterm.Android.Parser

/-! The phone's terminal emulator, as far as it answers device queries.  The screen is a
parameter: all it keeps of the bytes, and what a query reads from it. -/
namespace Hypeterm.Android

open List

/-- Cursor positions count from zero.  A mode's state is 1 when it is set, 2 when it is reset
and 0 when it is not recognised. -/
structure Display (Screen : Type) where
  initial : Screen
  reset : Screen → Screen
  feed : Screen → UInt8 → Screen
  resize : Screen → Nat → Nat → Screen
  columns : Screen → Nat
  rows : Screen → Nat
  cursorRow : Screen → Nat
  cursorColumn : Screen → Nat
  originMode : Screen → Bool
  scrollTop : Screen → Nat
  ansiModeState : Screen → Nat → Nat
  privateModeState : Screen → Nat → Nat

/-- A screen of the fallback size that keeps nothing. -/
def Display.blank : Display Unit where
  initial := ()
  reset := id
  feed := fun screen _ => screen
  resize := fun screen _ _ => screen
  columns := fun _ => 80
  rows := fun _ => 24
  cursorRow := fun _ => 0
  cursorColumn := fun _ => 0
  originMode := fun _ => false
  scrollTop := fun _ => 0
  ansiModeState := fun _ _ => 0
  privateModeState := fun _ _ => 0

def primaryAttributes : String := "\x1b[?62;22c"

def secondaryAttributes : String := "\x1b[>0;276;0c"

section

variable {Screen : Type} (display : Display Screen) (screen : Screen)

def privateCursorReport : String :=
  "\x1b[?" ++ toString (display.cursorRow screen + 1) ++ ";" ++
    toString (display.cursorColumn screen + 1) ++ ";1R"

def cursorReport : String :=
  let row : Int := display.cursorRow screen + 1
  let row := if display.originMode screen then row - display.scrollTop screen else row
  "\x1b[" ++ toString row ++ ";" ++ toString (display.cursorColumn screen + 1) ++ "R"

def privateModeReport (mode : Nat) : String :=
  "\x1b[?" ++ toString mode ++ ";" ++ toString (display.privateModeState screen mode) ++ "$y"

def ansiModeReport (mode : Nat) : String :=
  "\x1b[" ++ toString mode ++ ";" ++ toString (display.ansiModeState screen mode) ++ "$y"

/-- DECID, the obsolete alias, is the only escape sequence that is answered. -/
def onEscape (intermediates : Bytes) (final : UInt8) : Option String :=
  if intermediates = [] ∧ final = 0x5A then some primaryAttributes else none

def onCsi (params : Params) (final : UInt8) : Option String :=
  if params.marker = 0x3F then
    if final = 0x6E ∧ params.get 0 0 = 6 then some (privateCursorReport display screen)
    else if final = 0x70 ∧ params.intermediates = [0x24] then
      some (privateModeReport display screen (params.get 0 0))
    else none
  else if params.marker = 0x3E then
    if final = 0x63 then some secondaryAttributes else none
  else if params.marker = 0x3D then none
  else if final = 0x63 then some primaryAttributes
  else if final = 0x6E then
    if params.get 0 0 = 5 then some "\x1b[0n"
    else if params.get 0 0 = 6 then some (cursorReport display screen)
    else none
  else if final = 0x70 ∧ params.intermediates = [0x24] then
    some (ansiModeReport display screen (params.get 0 0))
  else none

def onDispatch : Dispatch → Option String
  | .escape intermediates final => onEscape intermediates final
  | .csi params final => onCsi display screen params final

end

/-- `fed` and `resets` are history: the bytes since the last reset from outside, and how
many of those there were. -/
structure Emulator (Screen : Type) where
  answerDeviceQueries : Bool
  parser : Parser
  screen : Screen
  fed : Bytes
  resets : Nat

namespace Emulator

variable {Screen : Type} (display : Display Screen)

def new (answerDeviceQueries : Bool) : Emulator Screen :=
  ⟨answerDeviceQueries, Parser.reset, display.initial, [], 0⟩

def reset (emulator : Emulator Screen) : Emulator Screen :=
  { emulator with
    parser := Parser.reset
    screen := display.reset emulator.screen
    fed := []
    resets := emulator.resets + 1 }

def resize (emulator : Emulator Screen) (columns rows : Nat) : Emulator Screen :=
  if columns = display.columns emulator.screen ∧ rows = display.rows emulator.screen then emulator
  else { emulator with screen := display.resize emulator.screen columns rows }

/-- The reply, if any, to the query that this byte completes. -/
def reply (emulator : Emulator Screen) (byte : UInt8) : Option String :=
  if emulator.answerDeviceQueries then
    (emulator.parser.feedByte byte).2.bind (onDispatch display emulator.screen)
  else none

def feedByte (emulator : Emulator Screen) (byte : UInt8) : Emulator Screen :=
  { emulator with
    parser := (emulator.parser.feedByte byte).1
    screen := display.feed emulator.screen byte
    fed := emulator.fed ++ [byte] }

/-- The replies come with the offsets of the bytes that completed their queries. -/
def feed (emulator : Emulator Screen) (offset : Nat) :
    Bytes → Emulator Screen × List (Nat × String)
  | [] => (emulator, [])
  | byte :: rest =>
      let later := (emulator.feedByte display byte).feed (offset + 1) rest
      (later.1, ((emulator.reply display byte).toList.map fun reply => (offset, reply)) ++ later.2)

variable {display} {emulator : Emulator Screen}

@[simp] theorem fed_reset : (emulator.reset display).fed = [] := rfl

@[simp] theorem resets_reset : (emulator.reset display).resets = emulator.resets + 1 := rfl

theorem feed_cons (offset : Nat) (byte : UInt8) (rest : Bytes) :
    emulator.feed display offset (byte :: rest) =
      (((emulator.feedByte display byte).feed display (offset + 1) rest).1,
        ((emulator.reply display byte).toList.map fun reply => (offset, reply)) ++
          ((emulator.feedByte display byte).feed display (offset + 1) rest).2) := rfl

@[simp] theorem fed_resize (columns rows : Nat) :
    (emulator.resize display columns rows).fed = emulator.fed := by
  unfold resize
  split <;> rfl

@[simp] theorem resets_resize (columns rows : Nat) :
    (emulator.resize display columns rows).resets = emulator.resets := by
  unfold resize
  split <;> rfl

theorem fed_feed (offset : Nat) (bytes : Bytes) :
    (emulator.feed display offset bytes).1.fed = emulator.fed ++ bytes := by
  induction bytes generalizing emulator offset with
  | nil => exact (append_nil _).symm
  | cons byte rest ih =>
    rw [feed_cons, ih]
    exact append_assoc _ _ _

theorem resets_feed (offset : Nat) (bytes : Bytes) :
    (emulator.feed display offset bytes).1.resets = emulator.resets := by
  induction bytes generalizing emulator offset with
  | nil => rfl
  | cons byte rest ih =>
    rw [feed_cons, ih]
    rfl

theorem replies_within {offset : Nat} {bytes : Bytes} {reply : Nat × String}
    (member : reply ∈ (emulator.feed display offset bytes).2) :
    offset ≤ reply.1 ∧ reply.1 < offset + bytes.length := by
  induction bytes generalizing emulator offset with
  | nil => cases member
  | cons byte rest ih =>
    rw [feed_cons] at member
    rw [length_cons]
    rcases mem_append.mp member with hfirst | hlater
    · obtain ⟨_, _, rfl⟩ := mem_map.mp hfirst
      omega
    · have hwithin := ih hlater
      omega

theorem replies_increase (display : Display Screen) (emulator : Emulator Screen) (offset : Nat)
    (bytes : Bytes) :
    (emulator.feed display offset bytes).2.Pairwise fun earlier later => earlier.1 < later.1 := by
  induction bytes generalizing emulator offset with
  | nil => exact List.Pairwise.nil
  | cons byte rest ih =>
    rw [feed_cons, pairwise_append]
    refine ⟨?_, ih _ (offset + 1), ?_⟩
    · cases emulator.reply display byte with
      | none => exact List.Pairwise.nil
      | some reply => exact pairwise_singleton _ _
    · intro earlier hearlier later hlater
      obtain ⟨_, _, rfl⟩ := mem_map.mp hearlier
      have hwithin := replies_within hlater
      omega

end Emulator

end Hypeterm.Android
