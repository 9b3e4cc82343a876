import Hypeterm.Term.Screen

/-! What the terminal may ask of the active screen. -/
namespace Hypeterm.Term
open Library

inductive Operation where
  | putChar (codePoint : Nat) (width : Int)
  | addCombiningMark (mark : Nat)
  | repeatLast (count : Int)
  | carriageReturn
  | lineFeed
  | reverseIndex
  | backspace
  | tab (count : Int)
  | backTab (count : Int)
  | setTabStop
  | clearTabStop (mode : Int)
  | cursorUp (count : Int) (resetColumn : Bool)
  | cursorDown (count : Int) (resetColumn : Bool)
  | cursorForward (count : Int)
  | cursorBackward (count : Int)
  | cursorToColumn (column : Int)
  | cursorToRow (row : Int)
  | cursorToPosition (row column : Int)
  | saveCursor
  | restoreCursor
  | eraseInDisplay (mode : Int)
  | eraseInLine (mode : Int)
  | eraseCharacters (count : Int)
  | insertCharacters (count : Int)
  | deleteCharacters (count : Int)
  | insertLines (count : Int)
  | deleteLines (count : Int)
  | scrollUp (count : Int)
  | scrollDown (count : Int)
  | fillScreen (codePoint : Nat)
  | setScrollRegion (top bottom : Int)
  | setOriginMode (value : Bool)
  | setAutowrap (value : Bool)
  | setInsertMode (value : Bool)
  | setReverseVideo (value : Bool)
  | setPen (pen : Pen)
  deriving DecidableEq

def Operation.perform (operation : Operation) (screen : Screen) : Checked Screen :=
  match operation with
  | .putChar codePoint width => screen.putChar codePoint width
  | .addCombiningMark mark => screen.addCombiningMark mark
  | .repeatLast count => screen.repeatLast count
  | .carriageReturn => pure screen.carriageReturn
  | .lineFeed => screen.lineFeed
  | .reverseIndex => screen.reverseIndex
  | .backspace => screen.backspace
  | .tab count => screen.tab count
  | .backTab count => screen.backTab count
  | .setTabStop => screen.setTabStop
  | .clearTabStop mode => screen.clearTabStop mode
  | .cursorUp count resetColumn => screen.cursorUp count resetColumn
  | .cursorDown count resetColumn => screen.cursorDown count resetColumn
  | .cursorForward count => screen.cursorForward count
  | .cursorBackward count => screen.cursorBackward count
  | .cursorToColumn column => screen.cursorToColumn column
  | .cursorToRow row => screen.cursorToRow row
  | .cursorToPosition row column => screen.cursorToPosition row column
  | .saveCursor => pure screen.saveCursor
  | .restoreCursor => screen.restoreCursor
  | .eraseInDisplay mode => screen.eraseInDisplay mode
  | .eraseInLine mode => screen.eraseInLine mode
  | .eraseCharacters count => screen.eraseCharacters count
  | .insertCharacters count => screen.insertCharacters count
  | .deleteCharacters count => screen.deleteCharacters count
  | .insertLines count => screen.insertLines count
  | .deleteLines count => screen.deleteLines count
  | .scrollUp count => screen.scrollUp count
  | .scrollDown count => screen.scrollDown count
  | .fillScreen codePoint => screen.fillScreen codePoint
  | .setScrollRegion top bottom => screen.setScrollRegion top bottom
  | .setOriginMode value => pure (screen.setOriginMode value)
  | .setAutowrap value => pure { screen with autowrap := value }
  | .setInsertMode value => pure { screen with insertMode := value }
  | .setReverseVideo value => pure (screen.setReverseVideo value)
  | .setPen pen => pure { screen with pen }

end Hypeterm.Term
