import Hypeterm.Types
import Hypeterm.Library.Checked

/-! The incremental UTF-8 decoder of the phone's terminal. -/
namespace Hypeterm.Term
open Library Checked

def replacementChar : Nat := 0xFFFD

structure Utf8Decoder where
  accumulator : Nat := 0
  remaining : Int := 0
  total : Int := 0
  lowerBound : UInt8 := 0x80
  upperBound : UInt8 := 0xBF
  deriving DecidableEq

/-- What a byte completes.  After `again` the byte itself is still to be read. -/
inductive Decoded where
  | incomplete
  | emit (codePoint : Nat)
  | again (codePoint : Nat)
  deriving DecidableEq

namespace Utf8Decoder

/-- The first byte of a sequence.  The bounds of the second exclude overlong forms and
surrogates. -/
def start (decoder : Utf8Decoder) (byte : UInt8) : Utf8Decoder × Decoded :=
  if byte < 0x80 then (decoder, .emit byte.toNat)
  else if 0xC2 ≤ byte ∧ byte ≤ 0xDF then (⟨byte.toNat &&& 0x1F, 1, 2, 0x80, 0xBF⟩, .incomplete)
  else if 0xE0 ≤ byte ∧ byte ≤ 0xEF then
    let bounds : UInt8 × UInt8 :=
      if byte = 0xE0 then (0xA0, 0xBF) else if byte = 0xED then (0x80, 0x9F) else (0x80, 0xBF)
    (⟨byte.toNat &&& 0x0F, 2, 3, bounds.1, bounds.2⟩, .incomplete)
  else if 0xF0 ≤ byte ∧ byte ≤ 0xF4 then
    let bounds : UInt8 × UInt8 :=
      if byte = 0xF0 then (0x90, 0xBF) else if byte = 0xF4 then (0x80, 0x8F) else (0x80, 0xBF)
    (⟨byte.toNat &&& 0x07, 3, 4, bounds.1, bounds.2⟩, .incomplete)
  else (decoder, .emit replacementChar)

/-- A byte that cannot continue the sequence ends it and gets a second look. -/
def feed (decoder : Utf8Decoder) (byte : UInt8) : Checked (Utf8Decoder × Decoded) :=
  if decoder.remaining = 0 then pure (decoder.start byte)
  else if byte < decoder.lowerBound ∨ decoder.upperBound < byte then
    pure ({}, .again replacementChar)
  else do
    let accumulator := ((decoder.accumulator <<< 6) % 2 ^ 32) ||| (byte.toNat &&& 0x3F)
    let remaining ← int (decoder.remaining - 1)
    if remaining = 0 then pure ({}, .emit accumulator)
    else pure ({ decoder with accumulator, remaining, lowerBound := 0x80, upperBound := 0xBF },
      .incomplete)

/-- A sequence in progress becomes one replacement character. -/
def flush (decoder : Utf8Decoder) : Utf8Decoder × Option Nat :=
  if decoder.remaining = 0 then (decoder, none) else ({}, some replacementChar)

def hasPartialSequence (decoder : Utf8Decoder) : Bool := decide (0 < decoder.remaining)

end Utf8Decoder

end Hypeterm.Term
