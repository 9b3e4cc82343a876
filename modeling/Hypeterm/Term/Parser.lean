import Hypeterm.Android.Parser
import Hypeterm.Term.Utf8

/-! The whole escape-sequence parser of the phone's terminal: the tables of its parameters,
the control strings it collects and the text it decodes.  The states and the classes of
bytes are those of the parser that only finds queries. -/
namespace Hypeterm.Term
open Library Checked
open Hypeterm.Android (ParserState)
open Hypeterm.Android.Parser (isIntermediate isFinal isEscapeFinal isDigit isMarker)

def maxParams : Nat := 32

def maxSubParams : Nat := 8

def missing : Int := -1

def maxValue : Int := 65535

/-- The tables have a fixed capacity.  `marker` is the private marker, or 0. -/
structure Params where
  values : List (List Int)
  subCounts : List Nat
  count : Int := 0
  currentSub : Int := 0
  overflowed : Bool := false
  marker : UInt8 := 0
  intermediates : Bytes := []
  deriving DecidableEq

namespace Params

def clear : Params where
  values := List.replicate maxParams (List.replicate maxSubParams missing)
  subCounts := List.replicate maxParams 0

/-- A leading `;` or `:` means that the first parameter is left out. -/
def started (params : Params) : Params :=
  if params.count = 0 then { params with count := 1 } else params

def nextParam (params : Params) : Checked Params :=
  let params := params.started
  if params.count < maxParams then do
    let count ← int (params.count + 1)
    let index ← int (count - 1)
    let subCounts ← put params.subCounts index 0
    pure { params with count, subCounts, currentSub := 0 }
  else pure { params with overflowed := true }

def countSub (params : Params) (index : Int) : Checked Params := do
  let subCount ← get params.subCounts index
  if (subCount : Int) ≤ params.currentSub then do
    let next ← int (params.currentSub + 1)
    let subCounts ← put params.subCounts index (next.toNat % 256)
    pure { params with subCounts }
  else pure params

def nextSubParam (params : Params) : Checked Params := do
  let params := params.started
  let index ← int (params.count - 1)
  let next ← int (params.currentSub + 1)
  if next < maxSubParams then countSub { params with currentSub := next } index
  else pure { params with overflowed := true }

def pushDigit (params : Params) (digit : UInt8) : Checked Params := do
  let params ← (
    if params.count = 0 then do
      let subCounts ← put params.subCounts 0 1
      pure { params with count := 1, currentSub := 0, subCounts }
    else pure params)
  let index ← int (params.count - 1)
  if (maxParams : Int) ≤ index then pure { params with overflowed := true }
  else do
    let params ← params.countSub index
    let row ← get params.values index
    let slot ← get row params.currentSub
    let slot := if slot = missing then 0 else slot
    let slot ← (
      if slot ≤ maxValue then do
        let tens ← int (slot * 10)
        let slot ← int (tens + digit.toNat)
        pure (if maxValue < slot then maxValue else slot)
      else pure slot)
    let row ← put row params.currentSub slot
    let values ← put params.values index row
    pure { params with values }

def get (params : Params) (index fallback : Int) : Checked Int :=
  if index < 0 ∨ params.count ≤ index then pure fallback
  else do
    let row ← Checked.get params.values index
    let value ← Checked.get row 0
    pure (if value = missing then fallback else value)

def subCount (params : Params) (index : Int) : Checked Int :=
  if index < 0 ∨ params.count ≤ index then pure 0
  else do
    let count ← Checked.get params.subCounts index
    pure count

def getSub (params : Params) (index sub fallback : Int) : Checked Int :=
  if index < 0 ∨ params.count ≤ index then pure fallback
  else do
    let count ← Checked.get params.subCounts index
    if sub < 0 ∨ (count : Int) ≤ sub then pure fallback
    else do
      let row ← Checked.get params.values index
      let value ← Checked.get row sub
      pure (if value = missing then fallback else value)

def pushIntermediate (params : Params) (byte : UInt8) : Params :=
  if params.intermediates.length < 4 then
    { params with intermediates := params.intermediates ++ [byte] }
  else { params with overflowed := true }

end Params

inductive Event where
  | print (codePoint : Nat)
  | execute (control : UInt8)
  | escape (intermediates : Bytes) (final : UInt8)
  | csi (params : Params) (final : UInt8)
  | osc (parts : List Bytes) (truncated : Bool)
  | dcs (params : Params) (final : UInt8) (data : Bytes) (truncated : Bool)
  deriving DecidableEq

structure Parser where
  maxStringBytes : Nat := 8192
  state : ParserState := .ground
  params : Params := .clear
  intermediates : Bytes := []
  stringBuffer : Bytes := []
  stringTruncated : Bool := false
  dcsFinal : UInt8 := 0
  decoder : Utf8Decoder := {}

/-- Bounded: from the sixteenth part on, separators stay in the last one. -/
def splitParts : Bytes → List Bytes → Bytes → List Bytes
  | [], parts, current => parts ++ [current]
  | byte :: rest, parts, current =>
      if byte = 0x3B ∧ parts.length + 1 < 16 then splitParts rest (parts ++ [current]) []
      else splitParts rest parts (current ++ [byte])

namespace Parser

def reset (parser : Parser) : Parser := { maxStringBytes := parser.maxStringBytes }

def enterState (parser : Parser) (state : ParserState) : Parser :=
  match state with
  | .escape | .csiEntry | .dcsEntry => { parser with state, params := .clear, intermediates := [] }
  | .oscString | .sosPmApcString | .dcsPassthrough =>
      { parser with state, stringBuffer := [], stringTruncated := false }
  | _ => { parser with state }

def flushUtf8 (parser : Parser) : Parser × List Event :=
  let (decoder, flushed) := parser.decoder.flush
  ({ parser with decoder }, flushed.toList.map Event.print)

def dispatchOsc (parser : Parser) : Parser × List Event :=
  ({ parser with stringBuffer := [], stringTruncated := false },
    [.osc (splitParts parser.stringBuffer [] []) parser.stringTruncated])

def dispatchDcs (parser : Parser) : Parser × List Event :=
  ({ parser with stringBuffer := [], stringTruncated := false, dcsFinal := 0 },
    [.dcs parser.params parser.dcsFinal parser.stringBuffer parser.stringTruncated])

/-- What is left of the text and, in a DCS, of the string is reported before the sequence
ends. -/
def abandon (parser : Parser) (state : ParserState) : Parser × List Event :=
  let (parser, printed) := parser.flushUtf8
  let (parser, dispatched) :=
    if parser.state = .dcsPassthrough then parser.dispatchDcs else (parser, [])
  (parser.enterState state, printed ++ dispatched)

def handleControl (parser : Parser) (byte : UInt8) : Option (Parser × List Event) :=
  if byte = 0x1B then some (parser.abandon .escape)
  else if byte = 0x18 ∨ byte = 0x1A then some (parser.abandon .ground)
  else none

/-- The byte that ends an ill-formed sequence is looked at once more, with the decoder then
between two sequences. -/
def groundLook : Nat → Parser → UInt8 → Checked (Parser × List Event)
  | 0, parser, _ => pure (parser, [])
  | looks + 1, parser, byte =>
      if byte = 0x1B then
        let (parser, printed) := parser.flushUtf8
        pure (parser.enterState .escape, printed)
      else if byte < 0x20 then
        let (parser, printed) := parser.flushUtf8
        pure (parser, printed ++ [.execute byte])
      else if byte = 0x7F then pure (parser, [])
      else do
        let (decoder, decoded) ← parser.decoder.feed byte
        let parser := { parser with decoder }
        match decoded with
        | .incomplete => pure (parser, [])
        | .emit codePoint => pure (parser, [.print codePoint])
        | .again codePoint => do
            let (parser, events) ← groundLook looks parser byte
            pure (parser, .print codePoint :: events)

def ground (parser : Parser) (byte : UInt8) : Checked (Parser × List Event) :=
  groundLook 2 parser byte

def completeEscape (parser : Parser) (byte : UInt8) : Parser × List Event :=
  (parser.enterState .ground, [.escape parser.intermediates byte])

def completeCsi (parser : Parser) (byte : UInt8) : Parser × List Event :=
  (parser.enterState .ground, [.csi parser.params byte])

def completeDcs (parser : Parser) (byte : UInt8) : Parser × List Event :=
  (({ parser with dcsFinal := byte } : Parser).enterState .dcsPassthrough, [])

def feedEscape (parser : Parser) (byte : UInt8) : Parser × List Event :=
  if byte < 0x20 then (parser, [.execute byte])
  else if isIntermediate byte then
    let intermediates := parser.intermediates ++ [byte]
    -- Absurdly many: the rest of the sequence is consumed.
    if 4 < intermediates.length then
      (({ parser with intermediates } : Parser).enterState .csiIgnore, [])
    else ({ parser with intermediates, state := .escapeIntermediate }, [])
  else if byte = 0x5B then (parser.enterState .csiEntry, [])
  else if byte = 0x5D then (parser.enterState .oscString, [])
  else if byte = 0x50 then (parser.enterState .dcsEntry, [])
  else if byte = 0x58 ∨ byte = 0x5E ∨ byte = 0x5F then (parser.enterState .sosPmApcString, [])
  else if isEscapeFinal byte then parser.completeEscape byte
  else (parser, [])

def feedEscapeIntermediate (parser : Parser) (byte : UInt8) : Parser × List Event :=
  if byte < 0x20 then (parser, [.execute byte])
  else if isIntermediate byte then
    if parser.intermediates.length < 4 then
      ({ parser with intermediates := parser.intermediates ++ [byte] }, [])
    else (parser, [])
  else if isEscapeFinal byte then parser.completeEscape byte
  else (parser, [])

/-- The parameters of a CSI or a DCS.  A private marker may only come first. -/
def feedParam (parser : Parser) (entry param intermediate ignore : ParserState) (byte : UInt8)
    (complete : Parser × List Event) : Checked (Parser × List Event) :=
  if isDigit byte then do
    let params ← parser.params.pushDigit (byte - 0x30)
    pure ({ parser with params, state := param }, [])
  else if byte = 0x3B then do
    let params ← parser.params.nextParam
    pure ({ parser with params, state := param }, [])
  else if byte = 0x3A then do
    let params ← parser.params.nextSubParam
    pure ({ parser with params, state := param }, [])
  else if isMarker byte then
    if parser.state = entry ∧ parser.params.marker = 0 then
      pure ({ parser with params := { parser.params with marker := byte }, state := param }, [])
    else pure ({ parser with state := ignore }, [])
  else if isIntermediate byte then
    pure ({ parser with params := parser.params.pushIntermediate byte, state := intermediate }, [])
  else if isFinal byte then pure complete
  else pure ({ parser with state := ignore }, [])

def feedCsiIntermediate (parser : Parser) (byte : UInt8) : Parser × List Event :=
  if byte < 0x20 then (parser, [.execute byte])
  else if isIntermediate byte then
    ({ parser with params := parser.params.pushIntermediate byte }, [])
  else if isFinal byte then parser.completeCsi byte
  else ({ parser with state := .csiIgnore }, [])

def feedCsiIgnore (parser : Parser) (byte : UInt8) : Parser × List Event :=
  if byte < 0x20 then (parser, [.execute byte])
  else if isFinal byte then (parser.enterState .ground, [])
  else (parser, [])

def feedDcsIntermediate (parser : Parser) (byte : UInt8) : Parser × List Event :=
  if isIntermediate byte then
    ({ parser with params := parser.params.pushIntermediate byte }, [])
  else if isFinal byte then parser.completeDcs byte
  else if 0x30 ≤ byte ∧ byte ≤ 0x3F then ({ parser with state := .dcsIgnore }, [])
  else (parser, [])

/-- Longer strings are read to their end, but the excess is not kept. -/
def collect (parser : Parser) (byte : UInt8) : Parser :=
  if parser.stringBuffer.length < parser.maxStringBytes then
    { parser with stringBuffer := parser.stringBuffer ++ [byte] }
  else { parser with stringTruncated := true }

def feedOscString (parser : Parser) (byte : UInt8) : Parser × List Event :=
  if byte = 0x07 then
    let (parser, events) := parser.dispatchOsc
    (parser.enterState .ground, events)
  else if byte = 0x1B then
    let (parser, events) := parser.dispatchOsc
    (parser.enterState .escape, events)
  else if byte = 0x18 ∨ byte = 0x1A then (parser.enterState .ground, [])
  else if byte < 0x20 then (parser, [])
  else (parser.collect byte, [])

def feedDcsPassthrough (parser : Parser) (byte : UInt8) : Parser × List Event :=
  if byte = 0x1B then
    let (parser, events) := parser.dispatchDcs
    (parser.enterState .escape, events)
  else if byte = 0x18 ∨ byte = 0x1A ∨ byte = 0x07 then
    let (parser, events) := parser.dispatchDcs
    (parser.enterState .ground, events)
  else (parser.collect byte, [])

/-- Strings that are consumed and discarded.  BEL ends some of them. -/
def feedDiscarded (parser : Parser) (belEnds : Bool) (byte : UInt8) : Parser × List Event :=
  if byte = 0x07 ∧ belEnds = true then (parser.enterState .ground, [])
  else if byte = 0x1B then (parser.enterState .escape, [])
  else if byte = 0x18 ∨ byte = 0x1A then (parser.enterState .ground, [])
  else (parser, [])

def feedByte (parser : Parser) (byte : UInt8) : Checked (Parser × List Event) :=
  match parser.state with
  | .ground => parser.ground byte
  | .oscString => pure (parser.feedOscString byte)
  | .sosPmApcString => pure (parser.feedDiscarded true byte)
  | .dcsPassthrough => pure (parser.feedDcsPassthrough byte)
  | .dcsIgnore => pure (parser.feedDiscarded false byte)
  | state =>
      match parser.handleControl byte with
      | some handled => pure handled
      | none =>
          match state with
          | .escape => pure (parser.feedEscape byte)
          | .escapeIntermediate => pure (parser.feedEscapeIntermediate byte)
          | .csiIntermediate => pure (parser.feedCsiIntermediate byte)
          | .csiIgnore => pure (parser.feedCsiIgnore byte)
          | .dcsIntermediate => pure (parser.feedDcsIntermediate byte)
          | .dcsEntry | .dcsParam =>
              if byte < 0x20 then pure (parser, [])
              else
                parser.feedParam .dcsEntry .dcsParam .dcsIntermediate .dcsIgnore byte
                  (parser.completeDcs byte)
          | _ =>
              if byte < 0x20 then pure (parser, [.execute byte])
              else
                parser.feedParam .csiEntry .csiParam .csiIntermediate .csiIgnore byte
                  (parser.completeCsi byte)

end Parser

end Hypeterm.Term
