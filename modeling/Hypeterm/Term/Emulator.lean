import Hypeterm.Android.Emulator
import Hypeterm.Android.WebSocket
import Hypeterm.Term.Operation
import Hypeterm.Term.Parser
import Hypeterm.Term.Width

/-! The phone's terminal emulator.  What the parser reports becomes a list of actions, and an
action changes the active screen or the modes that are not grid mechanics. -/
namespace Hypeterm.Term
open Library Checked
open Hypeterm.Android (sanitizeForMessage primaryAttributes secondaryAttributes)

inductive MouseTracking where
  | off
  | x10
  | normal
  | buttonEvent
  | anyEvent
  deriving DecidableEq

inductive MouseEncoding where
  | x10
  | utf8
  | sgr
  | urxvt
  deriving DecidableEq

inductive CursorShape where
  | block
  | underline
  | bar
  deriving DecidableEq

structure EmulatorConfig where
  columns : Int := 80
  rows : Int := 24
  scrollback : Limits
  maxStringBytes : Nat := 8192
  answerDeviceQueries : Bool := true

/-- What is not grid mechanics: modes, character sets and the title. -/
structure Modes where
  applicationCursorKeys : Bool := false
  applicationKeypad : Bool := false
  bracketedPaste : Bool := false
  focusReporting : Bool := false
  newlineMode : Bool := false
  cursorVisible : Bool := true
  cursorBlinking : Bool := true
  cursorShape : CursorShape := .block
  mouseTracking : MouseTracking := .off
  mouseEncoding : MouseEncoding := .x10
  charsetG0 : UInt8 := 0x42
  charsetG1 : UInt8 := 0x42
  activeCharset : Nat := 0
  title : Bytes := []

inductive ModeChange where
  | applicationCursorKeys (enabled : Bool)
  | applicationKeypad (enabled : Bool)
  | bracketedPaste (enabled : Bool)
  | focusReporting (enabled : Bool)
  | newlineMode (enabled : Bool)
  | cursorVisible (visible : Bool)
  | cursorBlinking (blinking : Bool)
  | cursorStyle (shape : CursorShape) (blinking : Bool)
  | mouseTracking (tracking : MouseTracking)
  | mouseEncoding (encoding : MouseEncoding)
  | charsetG0 (charset : UInt8)
  | charsetG1 (charset : UInt8)
  | activeCharset (charset : Nat)
  | title (title : Bytes)
  /-- DECSTR, as far as it is not about the screen. -/
  | softReset
  /-- Only counted as a change. -/
  | nothing
  deriving DecidableEq

def Modes.change (modes : Modes) : ModeChange → Modes
  | .applicationCursorKeys enabled => { modes with applicationCursorKeys := enabled }
  | .applicationKeypad enabled => { modes with applicationKeypad := enabled }
  | .bracketedPaste enabled => { modes with bracketedPaste := enabled }
  | .focusReporting enabled => { modes with focusReporting := enabled }
  | .newlineMode enabled => { modes with newlineMode := enabled }
  | .cursorVisible visible => { modes with cursorVisible := visible }
  | .cursorBlinking blinking => { modes with cursorBlinking := blinking }
  | .cursorStyle shape blinking => { modes with cursorShape := shape, cursorBlinking := blinking }
  | .mouseTracking tracking => { modes with mouseTracking := tracking }
  | .mouseEncoding encoding => { modes with mouseEncoding := encoding }
  | .charsetG0 charset => { modes with charsetG0 := charset }
  | .charsetG1 charset => { modes with charsetG1 := charset }
  | .activeCharset charset => { modes with activeCharset := charset }
  | .title title => { modes with title }
  | .softReset =>
      { modes with cursorVisible := true, applicationCursorKeys := false, applicationKeypad := false }
  | .nothing => modes

inductive Action where
  | screen (operation : Operation)
  | change (change : ModeChange)
  | enterAltScreen (saveCursor clear : Bool)
  | leaveAltScreen (restoreCursor clear : Bool)
  /-- Mode 1048 is about the primary screen, whichever is active. -/
  | savePrimaryCursor
  | restorePrimaryCursor
  | respond (text : String)
  | reset
  deriving DecidableEq

structure Emulator where
  answerDeviceQueries : Bool
  primary : Screen
  alt : Screen
  parser : Parser
  altScreenActive : Bool := false
  modes : Modes := {}
  altSavedCursor : SavedCursorState := {}
  modeRevision : Nat := 1
  sent : List String := []

def decSpecialGraphic (codePoint : Nat) : Nat :=
  match codePoint with
  | 0x60 => 0x25C6
  | 0x61 => 0x2592
  | 0x62 => 0x2409
  | 0x63 => 0x240C
  | 0x64 => 0x240D
  | 0x65 => 0x240A
  | 0x66 => 0x00B0
  | 0x67 => 0x00B1
  | 0x68 => 0x2424
  | 0x69 => 0x240B
  | 0x6A => 0x2518
  | 0x6B => 0x2510
  | 0x6C => 0x250C
  | 0x6D => 0x2514
  | 0x6E => 0x253C
  | 0x6F => 0x23BA
  | 0x70 => 0x23BB
  | 0x71 => 0x2500
  | 0x72 => 0x23BC
  | 0x73 => 0x23BD
  | 0x74 => 0x251C
  | 0x75 => 0x2524
  | 0x76 => 0x2534
  | 0x77 => 0x252C
  | 0x78 => 0x2502
  | 0x79 => 0x2264
  | 0x7A => 0x2265
  | 0x7B => 0x03C0
  | 0x7C => 0x2260
  | 0x7D => 0x00A3
  | 0x7E => 0x00B7
  | _ => codePoint

def indexedColor (index : Int) : Option Color :=
  if 0 ≤ index ∧ index ≤ 255 then some (.indexed (UInt8.ofNat index.toNat)) else none

def rgbColor (red green blue : Int) : Option Color :=
  if (0 ≤ red ∧ red ≤ 255) ∧ (0 ≤ green ∧ green ≤ 255) ∧ 0 ≤ blue ∧ blue ≤ 255 then
    some (.rgb (UInt8.ofNat red.toNat) (UInt8.ofNat green.toNat) (UInt8.ofNat blue.toNat))
  else none

/-- The colour that follows 38, 48 or 58, and the last parameter it took.  With colons it is
all in one parameter. -/
def sgrColor (params : Params) (i : Int) : Checked (Option Color × Int) := do
  let subCount ← params.subCount i
  let first ← int (i + 1)
  let second ← int (i + 2)
  let third ← int (i + 3)
  let fourth ← int (i + 4)
  if 1 < subCount then do
    let kind ← params.getSub i 1 (-1)
    if kind = 5 then do
      let index ← params.getSub i 2 (-1)
      pure (indexedColor index, i)
    else if kind = 2 then do
      let base : Int := if 6 ≤ subCount then 3 else 2
      let red ← params.getSub i base (-1)
      let green ← params.getSub i (base + 1) (-1)
      let blue ← params.getSub i (base + 2) (-1)
      pure (rgbColor red green blue, i)
    else pure (none, i)
  else do
    let kind ← params.get first (-1)
    if kind = 5 ∧ second < params.count then do
      let index ← params.get second (-1)
      pure (indexedColor index, second)
    else if kind = 2 ∧ fourth < params.count then do
      let red ← params.get second (-1)
      let green ← params.get third (-1)
      let blue ← params.get fourth (-1)
      pure (rgbColor red green blue, fourth)
    else pure (none, if 0 ≤ kind then first else i)

namespace Pen

def setFlags (pen : Pen) (flags : UInt16) : Pen := { pen with flags := pen.flags ||| flags }

def clearFlags (pen : Pen) (flags : UInt16) : Pen := { pen with flags := pen.flags &&& ~~~flags }

def withAttribute (pen : Pen) (code : Int) : Pen :=
  if code = 0 then {}
  else if code = 1 then pen.setFlags flagBold
  else if code = 2 then pen.setFlags flagFaint
  else if code = 3 then pen.setFlags flagItalic
  else if code = 5 then pen.setFlags flagBlink
  else if code = 6 then pen.setFlags flagRapidBlink
  else if code = 7 then pen.setFlags flagInverse
  else if code = 8 then pen.setFlags flagConceal
  else if code = 9 then pen.setFlags flagStrike
  else if code = 21 then (pen.clearFlags flagAnyUnderline).setFlags flagDoubleUnderline
  else if code = 22 then pen.clearFlags (flagBold ||| flagFaint)
  else if code = 23 then pen.clearFlags flagItalic
  else if code = 24 then pen.clearFlags flagAnyUnderline
  else if code = 25 then pen.clearFlags (flagBlink ||| flagRapidBlink)
  else if code = 27 then pen.clearFlags flagInverse
  else if code = 28 then pen.clearFlags flagConceal
  else if code = 29 then pen.clearFlags flagStrike
  else if code = 39 then { pen with fg := .default }
  else if code = 49 then { pen with bg := .default }
  else if code = 53 then pen.setFlags flagOverline
  else if code = 55 then pen.clearFlags flagOverline
  else if code = 59 then { pen with underlineColor := .default }
  else if 30 ≤ code ∧ code ≤ 37 then
    { pen with fg := .indexed (UInt8.ofNat (code - 30).toNat) }
  else if 40 ≤ code ∧ code ≤ 47 then
    { pen with bg := .indexed (UInt8.ofNat (code - 40).toNat) }
  else if 90 ≤ code ∧ code ≤ 97 then
    { pen with fg := .indexed (UInt8.ofNat (code - 90 + 8).toNat) }
  else if 100 ≤ code ∧ code ≤ 107 then
    { pen with bg := .indexed (UInt8.ofNat (code - 100 + 8).toNat) }
  else pen

def underlineStyle (pen : Pen) (style : Int) : Pen :=
  let pen := pen.clearFlags flagAnyUnderline
  if style = 0 then pen
  else if style = 2 then pen.setFlags flagDoubleUnderline
  else if style = 3 then pen.setFlags flagCurlyUnderline
  else pen.setFlags flagUnderline

def setColor (pen : Pen) (code : Int) (color : Color) : Pen :=
  if code = 38 then { pen with fg := color }
  else if code = 48 then { pen with bg := color }
  else { pen with underlineColor := color }

end Pen

def sgrFrom (params : Params) : Nat → Int → Pen → Checked Pen
  | 0, _, pen => pure pen
  | rounds + 1, i, pen =>
      if i < params.count then do
        let code ← params.get i 0
        if code = 4 then do
          let style ← params.getSub i 1 1
          let next ← int (i + 1)
          sgrFrom params rounds next (pen.underlineStyle style)
        else if code = 38 ∨ code = 48 ∨ code = 58 then do
          let (color, i) ← sgrColor params i
          let next ← int (i + 1)
          sgrFrom params rounds next ((color.map (pen.setColor code)).getD pen)
        else do
          let next ← int (i + 1)
          sgrFrom params rounds next (pen.withAttribute code)
      else pure pen

def applySgr (params : Params) (pen : Pen) : Checked Pen :=
  if params.count = 0 then pure {} else sgrFrom params params.count.toNat 0 pen

/-- A decimal number of at most twenty digits that does not exceed `max`. -/
def parseUint64 (text : Bytes) (max : Nat) : Option Nat :=
  if text = [] ∨ 20 < text.length then none
  else
    text.foldl (fun value byte => value.bind fun value =>
      let digit := byte.toNat - 0x30
      if byte < 0x30 ∨ 0x39 < byte then none
      else if (2 ^ 64 - 1 - digit) / 10 < value then none
      else if max < value * 10 + digit then none
      else some (value * 10 + digit)) (some 0)

namespace Emulator

def new (config : EmulatorConfig) : Checked Emulator := do
  let primary ← Screen.new config.columns config.rows (some { limits := config.scrollback })
  let alt ← Screen.new config.columns config.rows none
  pure
    { answerDeviceQueries := config.answerDeviceQueries
      primary
      alt
      parser := { maxStringBytes := config.maxStringBytes } }

def active (emulator : Emulator) : Screen :=
  if emulator.altScreenActive then emulator.alt else emulator.primary

def scrollback (emulator : Emulator) : List Line :=
  (emulator.primary.sink.map Scrollback.lines).getD []

def scrollbackRevision (emulator : Emulator) : Nat :=
  (emulator.primary.sink.map Scrollback.revision).getD 0

def revision (emulator : Emulator) : Nat :=
  emulator.primary.revision + emulator.alt.revision + emulator.scrollbackRevision +
    emulator.modeRevision

def translateCharset (emulator : Emulator) (codePoint : Nat) : Nat :=
  let charset :=
    if emulator.modes.activeCharset = 0 then emulator.modes.charsetG0 else emulator.modes.charsetG1
  if charset = 0x30 ∧ 0x60 ≤ codePoint ∧ codePoint ≤ 0x7E then decSpecialGraphic codePoint
  else codePoint

def onPrint (emulator : Emulator) (codePoint : Nat) : List Action :=
  if codePoint < 0x20 ∨ codePoint = 0x7F then []
  else
    let translated := emulator.translateCharset codePoint
    if charWidth translated = 0 then [.screen (.addCombiningMark translated)]
    else [.screen (.putChar translated (charWidth translated))]

def onExecute (emulator : Emulator) (control : UInt8) : List Action :=
  if control = 0x08 then [.screen .backspace]
  else if control = 0x09 then [.screen (.tab 1)]
  else if control = 0x0A ∨ control = 0x0B ∨ control = 0x0C then
    if emulator.modes.newlineMode then [.screen .lineFeed, .screen .carriageReturn]
    else [.screen .lineFeed]
  else if control = 0x0D then [.screen .carriageReturn]
  else if control = 0x0E then [.change (.activeCharset 1)]
  else if control = 0x0F then [.change (.activeCharset 0)]
  else []

def answer (emulator : Emulator) (text : String) : List Action :=
  if emulator.answerDeviceQueries then [.respond text] else []

def handleDecSequence (intermediate final : UInt8) : List Action :=
  if intermediate = 0x28 then [.change (.charsetG0 final)]
  else if intermediate = 0x29 then [.change (.charsetG1 final)]
  else if intermediate = 0x23 then if final = 0x38 then [.screen (.fillScreen 0x45)] else []
  else []

def onEscape (emulator : Emulator) (intermediates : Bytes) (final : UInt8) : List Action :=
  match intermediates with
  | intermediate :: _ => handleDecSequence intermediate final
  | [] =>
      if final = 0x44 then [.screen .lineFeed]
      else if final = 0x45 then [.screen .carriageReturn, .screen .lineFeed]
      else if final = 0x48 then [.screen .setTabStop]
      else if final = 0x4D then [.screen .reverseIndex]
      else if final = 0x5A then emulator.answer primaryAttributes
      else if final = 0x37 then [.screen .saveCursor]
      else if final = 0x38 then [.screen .restoreCursor]
      else if final = 0x3D then [.change (.applicationKeypad true)]
      else if final = 0x3E then [.change (.applicationKeypad false)]
      else if final = 0x63 then [.reset]
      else []

def setCursorStyle (style : Int) : List Action :=
  if style = 0 ∨ style = 1 then [.change (.cursorStyle .block true)]
  else if style = 2 then [.change (.cursorStyle .block false)]
  else if style = 3 then [.change (.cursorStyle .underline true)]
  else if style = 4 then [.change (.cursorStyle .underline false)]
  else if style = 5 then [.change (.cursorStyle .bar true)]
  else if style = 6 then [.change (.cursorStyle .bar false)]
  else []

def setMode (enabled : Bool) (mode : Int) : List Action :=
  if mode = 4 then [.screen (.setInsertMode enabled)]
  else if mode = 20 then [.change (.newlineMode enabled)]
  else []

def setPrivateMode (enabled : Bool) (mode : Int) : List Action :=
  let tracking (tracking : MouseTracking) : List Action :=
    [.change (.mouseTracking (if enabled then tracking else .off))]
  let encoding (encoding : MouseEncoding) : List Action :=
    [.change (.mouseEncoding (if enabled then encoding else .x10))]
  let counted (action : Action) : List Action := [action, .change .nothing]
  if mode = 1 then [.change (.applicationCursorKeys enabled)]
  else if mode = 3 then
    -- DECCOLM would resize, but the size is the publisher's: the screen is only cleared.
    [.screen (.eraseInDisplay 2), .screen (.cursorToPosition 0 0), .change .nothing]
  else if mode = 5 then counted (.screen (.setReverseVideo enabled))
  else if mode = 6 then counted (.screen (.setOriginMode enabled))
  else if mode = 7 then counted (.screen (.setAutowrap enabled))
  else if mode = 9 then tracking .x10
  else if mode = 12 then [.change (.cursorBlinking enabled)]
  else if mode = 25 then [.change (.cursorVisible enabled)]
  else if mode = 47 then
    counted (if enabled then .enterAltScreen false false else .leaveAltScreen false false)
  else if mode = 66 then [.change (.applicationKeypad enabled)]
  else if mode = 1000 then tracking .normal
  else if mode = 1002 then tracking .buttonEvent
  else if mode = 1003 then tracking .anyEvent
  else if mode = 1004 then [.change (.focusReporting enabled)]
  else if mode = 1005 then encoding .utf8
  else if mode = 1006 then encoding .sgr
  else if mode = 1015 then encoding .urxvt
  else if mode = 1047 then
    counted (if enabled then .enterAltScreen false false else .leaveAltScreen false true)
  else if mode = 1048 then counted (if enabled then .savePrimaryCursor else .restorePrimaryCursor)
  else if mode = 1049 then
    counted (if enabled then .enterAltScreen true true else .leaveAltScreen true true)
  else if mode = 2004 then [.change (.bracketedPaste enabled)]
  else [.change .nothing]

def modeState (isSet : Bool) : Int := if isSet then 1 else 2

def ansiModeState (emulator : Emulator) (mode : Int) : Int :=
  if mode = 4 then modeState emulator.active.insertMode
  else if mode = 20 then modeState emulator.modes.newlineMode
  else 0

def privateModeState (emulator : Emulator) (mode : Int) : Int :=
  if mode = 1 then modeState emulator.modes.applicationCursorKeys
  else if mode = 5 then modeState emulator.active.reverseVideo
  else if mode = 6 then modeState emulator.active.originMode
  else if mode = 7 then modeState emulator.active.autowrap
  else if mode = 12 then modeState emulator.modes.cursorBlinking
  else if mode = 25 then modeState emulator.modes.cursorVisible
  else if mode = 1000 then modeState (emulator.modes.mouseTracking == .normal)
  else if mode = 1002 then modeState (emulator.modes.mouseTracking == .buttonEvent)
  else if mode = 1003 then modeState (emulator.modes.mouseTracking == .anyEvent)
  else if mode = 1004 then modeState emulator.modes.focusReporting
  else if mode = 1006 then modeState (emulator.modes.mouseEncoding == .sgr)
  else if mode = 47 ∨ mode = 1047 ∨ mode = 1049 then modeState emulator.altScreenActive
  else if mode = 2004 then modeState emulator.modes.bracketedPaste
  else 0

def paramsFrom (params : Params) : Nat → Int → Checked (List Int)
  | 0, _ => pure []
  | rounds + 1, i =>
      if i < params.count then do
        let value ← params.get i 0
        let next ← int (i + 1)
        let rest ← paramsFrom params rounds next
        pure (value :: rest)
      else pure []

def onPrivateCsi (emulator : Emulator) (params : Params) (final : UInt8) :
    Checked (List Action) := do
  let first ← params.get 0 0
  if final = 0x68 then do
    let modes ← paramsFrom params params.count.toNat 0
    pure (modes.flatMap (setPrivateMode true))
  else if final = 0x6C then do
    let modes ← paramsFrom params params.count.toNat 0
    pure (modes.flatMap (setPrivateMode false))
  else if final = 0x6E ∧ first = 6 then do
    let row ← int (emulator.active.cursorRow + 1)
    let column ← int (emulator.active.cursorColumn + 1)
    pure (emulator.answer ("\x1b[?" ++ toString row ++ ";" ++ toString column ++ ";1R"))
  else if final = 0x70 ∧ params.intermediates = [0x24] then
    pure (emulator.answer
      ("\x1b[?" ++ toString first ++ ";" ++ toString (emulator.privateModeState first) ++ "$y"))
  else pure []

/-- A reply to DSR; the cursor's row is relative to the origin when DECOM is set. -/
def deviceStatus (emulator : Emulator) (report : Int) : Checked (List Action) :=
  if report = 5 then pure (emulator.answer "\x1b[0n")
  else if report = 6 then do
    let row ← int (emulator.active.cursorRow + 1)
    let column ← int (emulator.active.cursorColumn + 1)
    let row ← (
      if emulator.active.originMode then int (row - emulator.active.scrollTop) else pure row)
    pure (emulator.answer ("\x1b[" ++ toString row ++ ";" ++ toString column ++ "R"))
  else pure []

def softReset (emulator : Emulator) : Checked (List Action) := do
  let last ← int (emulator.active.rows - 1)
  pure
    [.screen (.setOriginMode false), .screen (.setAutowrap true), .screen (.setInsertMode false),
      .screen (.setScrollRegion 0 last), .screen (.setPen {}), .change .softReset]

/-- The CSI sequences without a private marker.  `count` is the first parameter, 1 when it
is left out, and `mode` the same with 0. -/
def onPlainCsi (emulator : Emulator) (params : Params) (final : UInt8) :
    Checked (List Action) := do
  let count ← params.get 0 1
  let mode ← params.get 0 0
  let place ← int (count - 1)
  if final = 0x40 then pure [.screen (.insertCharacters count)]
  else if final = 0x41 then pure [.screen (.cursorUp count false)]
  else if final = 0x42 ∨ final = 0x65 then pure [.screen (.cursorDown count false)]
  else if final = 0x43 ∨ final = 0x61 then pure [.screen (.cursorForward count)]
  else if final = 0x44 then pure [.screen (.cursorBackward count)]
  else if final = 0x45 then pure [.screen (.cursorDown count true)]
  else if final = 0x46 then pure [.screen (.cursorUp count true)]
  else if final = 0x47 ∨ final = 0x60 then pure [.screen (.cursorToColumn place)]
  else if final = 0x48 ∨ final = 0x66 then do
    let column ← params.get 1 1
    let column ← int (column - 1)
    pure [.screen (.cursorToPosition place column)]
  else if final = 0x49 then pure [.screen (.tab count)]
  else if final = 0x4A then pure [.screen (.eraseInDisplay mode)]
  else if final = 0x4B then pure [.screen (.eraseInLine mode)]
  else if final = 0x4C then pure [.screen (.insertLines count)]
  else if final = 0x4D then pure [.screen (.deleteLines count)]
  else if final = 0x50 then pure [.screen (.deleteCharacters count)]
  else if final = 0x53 then pure [.screen (.scrollUp count)]
  else if final = 0x54 then pure [.screen (.scrollDown count)]
  else if final = 0x58 then pure [.screen (.eraseCharacters count)]
  else if final = 0x5A then pure [.screen (.backTab count)]
  else if final = 0x62 then pure [.screen (.repeatLast count)]
  else if final = 0x63 then pure (emulator.answer primaryAttributes)
  else if final = 0x64 then pure [.screen (.cursorToRow place)]
  else if final = 0x67 then pure [.screen (.clearTabStop mode)]
  else if final = 0x68 then do
    let modes ← paramsFrom params params.count.toNat 0
    pure (modes.flatMap (setMode true))
  else if final = 0x6C then do
    let modes ← paramsFrom params params.count.toNat 0
    pure (modes.flatMap (setMode false))
  else if final = 0x6D then do
    let pen ← applySgr params emulator.active.pen
    pure [.screen (.setPen pen)]
  else if final = 0x6E then emulator.deviceStatus mode
  else if final = 0x70 then
    if params.intermediates = [0x21] then emulator.softReset
    else if params.intermediates = [0x24] then
      pure (emulator.answer
        ("\x1b[" ++ toString mode ++ ";" ++ toString (emulator.ansiModeState mode) ++ "$y"))
    else pure []
  else if final = 0x71 then
    pure (if params.intermediates = [0x20] then setCursorStyle mode else [])
  else if final = 0x72 then do
    let bottom ← params.get 1 emulator.active.rows
    let bottom ← int (bottom - 1)
    pure [.screen (.setScrollRegion place bottom)]
  else if final = 0x73 then pure [.screen .saveCursor]
  else if final = 0x75 then pure [.screen .restoreCursor]
  else pure []

def onCsi (emulator : Emulator) (params : Params) (final : UInt8) : Checked (List Action) :=
  if params.marker = 0x3F then emulator.onPrivateCsi params final
  else if params.marker = 0x3E then
    pure (if final = 0x63 then emulator.answer secondaryAttributes else [])
  else if params.marker = 0x3D then pure []
  else emulator.onPlainCsi params final

def onOsc (emulator : Emulator) (parts : List Bytes) (truncated : Bool) : List Action :=
  match parseUint64 (parts.headD []) 100000 with
  | none => []
  | some command =>
      if (command = 0 ∨ command = 2) ∧ truncated = false then
        let title := sanitizeForMessage (parts.getD 1 []) 256
        if title = emulator.modes.title then [] else [.change (.title title)]
      else []

def actions (emulator : Emulator) (event : Event) : Checked (List Action) :=
  match event with
  | .print codePoint => pure (emulator.onPrint codePoint)
  | .execute control => pure (emulator.onExecute control)
  | .escape intermediates final => pure (emulator.onEscape intermediates final)
  | .csi params final => emulator.onCsi params final
  | .osc parts truncated => pure (emulator.onOsc parts truncated)
  | .dcs _ _ _ _ => pure []

def onActive (emulator : Emulator) (operation : Operation) : Checked Emulator :=
  if emulator.altScreenActive then do
    let alt ← operation.perform emulator.alt
    pure { emulator with alt }
  else do
    let primary ← operation.perform emulator.primary
    pure { emulator with primary }

def enterAltScreen (emulator : Emulator) (saveCursor clear : Bool) : Checked Emulator :=
  if emulator.altScreenActive then pure emulator
  else do
    let primary := if saveCursor then emulator.primary.saveCursor else emulator.primary
    let alt := { emulator.alt with pen := primary.pen }
    let alt ← (if clear then alt.clearAll else pure alt)
    let last ← int (alt.rows - 1)
    let alt ← alt.setScrollRegion 0 last
    pure
      { emulator with
        primary
        alt
        altScreenActive := true
        modeRevision := emulator.modeRevision + 1 }

def leaveAltScreen (emulator : Emulator) (restoreCursor clear : Bool) : Checked Emulator :=
  if emulator.altScreenActive then do
    let alt ← (if clear then emulator.alt.clearAll else pure emulator.alt)
    let primary ← (
      if restoreCursor then emulator.primary.restoreCursor else pure emulator.primary)
    pure
      { emulator with
        primary
        alt
        altScreenActive := false
        modeRevision := emulator.modeRevision + 1 }
  else pure emulator

def reset (emulator : Emulator) : Checked Emulator := do
  let primary ← Screen.reset
    { emulator.primary with sink := emulator.primary.sink.map Scrollback.clearScrollback }
  let alt ← emulator.alt.reset
  pure
    { emulator with
      primary
      alt
      parser := emulator.parser.reset
      altScreenActive := false
      modes := {}
      altSavedCursor := {}
      modeRevision := emulator.modeRevision + 1 }

def perform (emulator : Emulator) (action : Action) : Checked Emulator :=
  match action with
  | .screen operation => emulator.onActive operation
  | .change change =>
      pure
        { emulator with
          modes := emulator.modes.change change
          modeRevision := emulator.modeRevision + 1 }
  | .enterAltScreen saveCursor clear => emulator.enterAltScreen saveCursor clear
  | .leaveAltScreen restoreCursor clear => emulator.leaveAltScreen restoreCursor clear
  | .savePrimaryCursor =>
      let primary := emulator.primary.saveCursor
      pure { emulator with primary, altSavedCursor := primary.saved }
  | .restorePrimaryCursor => do
      let primary ← Screen.restoreCursor { emulator.primary with saved := emulator.altSavedCursor }
      pure { emulator with primary }
  | .respond text => pure { emulator with sent := emulator.sent ++ [text] }
  | .reset => emulator.reset

def performAll : List Action → Emulator → Checked Emulator
  | [], emulator => pure emulator
  | action :: rest, emulator => do
      let emulator ← emulator.perform action
      performAll rest emulator

def handle (emulator : Emulator) (event : Event) : Checked Emulator := do
  let actions ← emulator.actions event
  performAll actions emulator

def handleAll : List Event → Emulator → Checked Emulator
  | [], emulator => pure emulator
  | event :: rest, emulator => do
      let emulator ← emulator.handle event
      handleAll rest emulator

/-- The parser goes on from the state that the byte left it in, unless RIS resets it. -/
def feedByte (emulator : Emulator) (byte : UInt8) : Checked Emulator := do
  let (parser, events) ← emulator.parser.feedByte byte
  handleAll events { emulator with parser }

def feed : Bytes → Emulator → Checked Emulator
  | [], emulator => pure emulator
  | byte :: rest, emulator => do
      let emulator ← emulator.feedByte byte
      feed rest emulator

end Emulator

end Hypeterm.Term
