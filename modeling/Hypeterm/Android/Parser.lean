import Hypeterm.Types

/-! The phone's escape-sequence parser, as far as it decides which sequences complete.  What
a control string collects and what the text decodes to reach neither its state nor a
query. -/
namespace Hypeterm.Android

/-- CSI parameters.  `none` is a value that was left out. -/
structure Params where
  values : Nat → Nat → Option Nat
  subCounts : Nat → Nat
  count : Nat
  currentSub : Nat
  overflowed : Bool
  marker : UInt8
  intermediates : Bytes

namespace Params

def maxParams : Nat := 32

def maxSubParams : Nat := 8

def maxValue : Nat := 65535

def clear : Params := ⟨fun _ _ => none, fun _ => 0, 0, 0, false, 0, []⟩

/-- A leading `;` means that the first parameter is left out. -/
def nextParam (params : Params) : Params :=
  let count := max params.count 1
  if count < maxParams then
    { params with
      count := count + 1
      subCounts := Function.update params.subCounts count 0
      currentSub := 0 }
  else { params with count, overflowed := true }

def nextSubParam (params : Params) : Params :=
  let count := max params.count 1
  if params.currentSub + 1 < maxSubParams then
    { params with
      count
      currentSub := params.currentSub + 1
      subCounts := Function.update params.subCounts (count - 1)
        (max (params.subCounts (count - 1)) (params.currentSub + 2)) }
  else { params with count, overflowed := true }

def pushDigit (params : Params) (digit : Nat) : Params :=
  let started :=
    if params.count = 0 then
      { params with count := 1, currentSub := 0, subCounts := Function.update params.subCounts 0 1 }
    else params
  let index := started.count - 1
  let slot := (started.values index started.currentSub).getD 0
  { started with
    subCounts := Function.update started.subCounts index
      (max (started.subCounts index) (started.currentSub + 1))
    values := Function.update started.values index
      (Function.update (started.values index) started.currentSub
        (some (min (slot * 10 + digit) maxValue))) }

def get (params : Params) (index fallback : Nat) : Nat :=
  if index < params.count then (params.values index 0).getD fallback else fallback

def pushIntermediate (params : Params) (byte : UInt8) : Params :=
  if params.intermediates.length < 4 then
    { params with intermediates := params.intermediates ++ [byte] }
  else { params with overflowed := true }

end Params

inductive ParserState where
  | ground
  | escape
  | escapeIntermediate
  | csiEntry
  | csiParam
  | csiIntermediate
  | csiIgnore
  | oscString
  | dcsEntry
  | dcsParam
  | dcsIntermediate
  | dcsPassthrough
  | dcsIgnore
  | sosPmApcString
  deriving DecidableEq

structure Parser where
  state : ParserState
  params : Params
  intermediates : Bytes

inductive Dispatch where
  | escape (intermediates : Bytes) (final : UInt8)
  | csi (params : Params) (final : UInt8)

namespace Parser

def reset : Parser := ⟨.ground, Params.clear, []⟩

def enterState (parser : Parser) (state : ParserState) : Parser :=
  match state with
  | .escape | .csiEntry | .dcsEntry => ⟨state, Params.clear, []⟩
  | _ => { parser with state }

def handleControl (parser : Parser) (byte : UInt8) : Option Parser :=
  if byte = 0x1B then some (parser.enterState .escape)
  else if byte = 0x18 ∨ byte = 0x1A then some (parser.enterState .ground)
  else none

def isIntermediate (byte : UInt8) : Bool := 0x20 ≤ byte && byte ≤ 0x2F

def isFinal (byte : UInt8) : Bool := 0x40 ≤ byte && byte ≤ 0x7E

def isEscapeFinal (byte : UInt8) : Bool := 0x30 ≤ byte && byte ≤ 0x7E

def isDigit (byte : UInt8) : Bool := 0x30 ≤ byte && byte ≤ 0x39

def isMarker (byte : UInt8) : Bool := 0x3C ≤ byte && byte ≤ 0x3F

def completeEscape (parser : Parser) (byte : UInt8) : Parser × Option Dispatch :=
  (if parser.intermediates = [] ∧ byte = 0x63 then reset else parser.enterState .ground,
    some (.escape parser.intermediates byte))

def completeCsi (parser : Parser) (byte : UInt8) : Parser × Option Dispatch :=
  (parser.enterState .ground, some (.csi parser.params byte))

def feedEscape (parser : Parser) (byte : UInt8) : Parser × Option Dispatch :=
  if byte < 0x20 then (parser, none)
  else if isIntermediate byte then
    let intermediates := parser.intermediates ++ [byte]
    -- Absurdly many: the rest of the sequence is consumed.
    if 4 < intermediates.length then
      (({ parser with intermediates } : Parser).enterState .csiIgnore, none)
    else ({ parser with intermediates, state := .escapeIntermediate }, none)
  else if byte = 0x5B then (parser.enterState .csiEntry, none)
  else if byte = 0x5D then (parser.enterState .oscString, none)
  else if byte = 0x50 then (parser.enterState .dcsEntry, none)
  else if byte = 0x58 ∨ byte = 0x5E ∨ byte = 0x5F then (parser.enterState .sosPmApcString, none)
  else if isEscapeFinal byte then parser.completeEscape byte
  else (parser, none)

def feedEscapeIntermediate (parser : Parser) (byte : UInt8) : Parser × Option Dispatch :=
  if byte < 0x20 then (parser, none)
  else if isIntermediate byte then
    if parser.intermediates.length < 4 then
      ({ parser with intermediates := parser.intermediates ++ [byte] }, none)
    else (parser, none)
  else if isEscapeFinal byte then parser.completeEscape byte
  else (parser, none)

/-- The parameters of a CSI or a DCS.  A private marker may only come first. -/
def feedParam (parser : Parser) (entry param intermediate ignore : ParserState) (byte : UInt8)
    (complete : Parser × Option Dispatch) : Parser × Option Dispatch :=
  if isDigit byte then
    ({ parser with params := parser.params.pushDigit (byte.toNat - 0x30), state := param }, none)
  else if byte = 0x3B then
    ({ parser with params := parser.params.nextParam, state := param }, none)
  else if byte = 0x3A then
    ({ parser with params := parser.params.nextSubParam, state := param }, none)
  else if isMarker byte then
    if parser.state = entry ∧ parser.params.marker = 0 then
      ({ parser with params := { parser.params with marker := byte }, state := param }, none)
    else ({ parser with state := ignore }, none)
  else if isIntermediate byte then
    ({ parser with params := parser.params.pushIntermediate byte, state := intermediate }, none)
  else if isFinal byte then complete
  else ({ parser with state := ignore }, none)

def feedCsiIntermediate (parser : Parser) (byte : UInt8) : Parser × Option Dispatch :=
  if byte < 0x20 then (parser, none)
  else if isIntermediate byte then
    ({ parser with params := parser.params.pushIntermediate byte }, none)
  else if isFinal byte then parser.completeCsi byte
  else ({ parser with state := .csiIgnore }, none)

def feedDcsIntermediate (parser : Parser) (byte : UInt8) : Parser × Option Dispatch :=
  if isIntermediate byte then
    ({ parser with params := parser.params.pushIntermediate byte }, none)
  else if isFinal byte then (parser.enterState .dcsPassthrough, none)
  else if 0x30 ≤ byte ∧ byte ≤ 0x3F then ({ parser with state := .dcsIgnore }, none)
  else (parser, none)

/-- A control string, up to what ends it.  BEL ends some of them. -/
def feedString (parser : Parser) (belEnds : Bool) (byte : UInt8) : Parser × Option Dispatch :=
  if byte = 0x07 ∧ belEnds = true then (parser.enterState .ground, none)
  else if byte = 0x1B then (parser.enterState .escape, none)
  else if byte = 0x18 ∨ byte = 0x1A then (parser.enterState .ground, none)
  else (parser, none)

def feedByte (parser : Parser) (byte : UInt8) : Parser × Option Dispatch :=
  match parser.state with
  | .ground => (if byte = 0x1B then parser.enterState .escape else parser, none)
  | .oscString | .sosPmApcString | .dcsPassthrough => parser.feedString true byte
  | .dcsIgnore => parser.feedString false byte
  | state =>
      match parser.handleControl byte with
      | some parser => (parser, none)
      | none =>
          match state with
          | .escape => parser.feedEscape byte
          | .escapeIntermediate => parser.feedEscapeIntermediate byte
          | .csiIntermediate => parser.feedCsiIntermediate byte
          | .csiIgnore => (if isFinal byte then parser.enterState .ground else parser, none)
          | .dcsIntermediate => parser.feedDcsIntermediate byte
          | .dcsEntry | .dcsParam =>
              if byte < 0x20 then (parser, none)
              else
                parser.feedParam .dcsEntry .dcsParam .dcsIntermediate .dcsIgnore byte
                  (parser.enterState .dcsPassthrough, none)
          | _ =>
              if byte < 0x20 then (parser, none)
              else
                parser.feedParam .csiEntry .csiParam .csiIntermediate .csiIgnore byte
                  (parser.completeCsi byte)

end Parser

end Hypeterm.Android
