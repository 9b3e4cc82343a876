import Hypeterm.Term.Utf8Decoding

/-! What the parser prints of a text without escape sequences.  C0 controls end a sequence
that is in progress, DEL is as if it were not there, and the end of the bytes ends nothing. -/
namespace Hypeterm.Term
open Library Library.Utf8 Checked List

def Event.printed : Event → Option Nat
  | .print codePoint => some codePoint
  | _ => none

def printed (events : List Event) : List Nat := events.filterMap Event.printed

def isDel (byte : UInt8) : Bool := byte == 0x7F

def shown (codePoint : Nat) : Bool := decide (0x20 ≤ codePoint)

def withoutDel (bytes : Bytes) : Bytes := bytes.filter fun byte => !isDel byte

theorem withoutDel_cons {byte : UInt8} (other : byte ≠ 0x7F) (rest : Bytes) :
    withoutDel (byte :: rest) = byte :: withoutDel rest := by
  unfold withoutDel isDel
  rw [filter_cons_of_pos]
  simpa using other

theorem filter_shown_cons {codePoint : Nat} (visible : 0x20 ≤ codePoint) (out : List Nat) :
    (codePoint :: out).filter shown = codePoint :: out.filter shown :=
  filter_cons_of_pos (decide_eq_true visible)

theorem printed_append (earlier later : List Event) :
    printed (earlier ++ later) = printed earlier ++ printed later :=
  filterMap_append

def Utf8Decoder.Reads (decoder : Utf8Decoder) (part : Bytes) : Prop :=
  (part = [] ∧ decoder = {}) ∨ decoder.Carrying part

theorem Utf8Decoder.Reads.flush {decoder : Utf8Decoder} {part : Bytes} (reads : decoder.Reads part) :
    decoder.flush.1 = {} ∧ Decodes part decoder.flush.2.toList := by
  rcases reads with ⟨rfl, rfl⟩ | hcarrying
  · exact ⟨rfl, .done⟩
  · rw [hcarrying.flush.1]
    exact ⟨rfl, hcarrying.flush.2⟩

namespace Parser

variable {parser : Parser} {part : Bytes}

/-- After the byte the parser is still in the ground state, and what it printed is what the
byte adds to the decoding. -/
structure Takes (parser : Parser) (part : Bytes) (byte : UInt8) (result : Parser × List Event)
    (next : Utf8Decoder) (left : Bytes) : Prop where
  parser : result.1 = { parser with decoder := next }
  reads : next.Reads left
  decodes : ∀ rest out, Decodes (left ++ rest) out →
    ∃ whole, Decodes (part ++ byte :: rest) whole ∧
      whole.filter shown = printed result.2 ++ out.filter shown

theorem value_groundLook {byte : UInt8} (text : 0x20 ≤ byte) (other : byte ≠ 0x7F) (looks : Nat)
    (parser : Parser) : (groundLook (looks + 1) parser byte).value =
      match (parser.decoder.feed byte).value with
      | (decoder, .incomplete) => ({ parser with decoder }, [])
      | (decoder, .emit codePoint) => ({ parser with decoder }, [.print codePoint])
      | (decoder, .again codePoint) =>
          ((groundLook looks { parser with decoder } byte).value.1,
            .print codePoint :: (groundLook looks { parser with decoder } byte).value.2) := by
  have hescape : byte ≠ 0x1B := by
    rintro rfl
    exact absurd text (by decide)
  rw [groundLook, if_neg hescape, if_neg (UInt8.not_lt.mpr text), if_neg other, value_bind]
  generalize (parser.decoder.feed byte).value = fed
  obtain ⟨decoder, decoded⟩ := fed
  cases decoded with
  | incomplete | emit codePoint => rfl
  | again codePoint => rfl

theorem takes_idle (idle : parser.decoder = {}) {byte : UInt8} (text : 0x20 ≤ byte)
    (other : byte ≠ 0x7F) (looks : Nat) :
    ∃ next left, Takes parser [] byte (groundLook (looks + 1) parser byte).value next left := by
  rw [value_groundLook text other, idle]
  rcases Utf8Decoder.feed_idle byte with ⟨codePoint, hfeed, hvisible, hdecodes⟩ |
    ⟨next, hfeed, hnext⟩
  · rw [hfeed]
    refine ⟨{}, [], rfl, .inl ⟨rfl, rfl⟩, fun rest out later => ⟨_, hdecodes rest out later, ?_⟩⟩
    exact filter_shown_cons (hvisible text) out
  · rw [hfeed]
    exact ⟨next, [byte], rfl, .inr hnext, fun rest out later => ⟨out, later, rfl⟩⟩

theorem takes_text (reads : parser.decoder.Reads part) {byte : UInt8} (text : 0x20 ≤ byte)
    (other : byte ≠ 0x7F) :
    ∃ next left, Takes parser part byte (groundLook 2 parser byte).value next left := by
  rcases reads with ⟨rfl, hidle⟩ | hcarrying
  · exact takes_idle hidle text other 1
  rw [value_groundLook text other]
  rcases hcarrying.feed_cases byte with ⟨-, codePoint, hfeed, hvisible, hdecodes⟩ |
    ⟨-, next, hfeed, hnext⟩ | ⟨hfeed, hdecodes⟩
  · rw [hfeed]
    refine ⟨{}, [], rfl, .inl ⟨rfl, rfl⟩, fun rest out later => ⟨_, hdecodes rest out later, ?_⟩⟩
    exact filter_shown_cons hvisible out
  · rw [hfeed]
    refine ⟨next, part ++ [byte], rfl, .inr hnext, fun rest out later => ⟨out, ?_, rfl⟩⟩
    rwa [append_cons]
  · -- the byte is looked at once more
    rw [hfeed]
    obtain ⟨next, left, htakes⟩ :=
      @takes_idle { parser with decoder := {} } rfl byte text other 0
    refine ⟨next, left, htakes.parser, htakes.reads, fun rest out later => ?_⟩
    obtain ⟨whole, hwhole, hprinted⟩ := htakes.decodes rest out later
    refine ⟨_, hdecodes rest whole hwhole, ?_⟩
    rw [filter_shown_cons (by decide), hprinted]
    rfl

theorem takes_control (reads : parser.decoder.Reads part) {byte : UInt8} (control : byte < 0x20)
    (other : byte ≠ 0x1B) :
    ∃ next left, Takes parser part byte (groundLook 2 parser byte).value next left := by
  have hbyte : byte.toNat < 0x20 := control
  have hhidden (out : List Nat) : (byte.toNat :: out).filter shown = out.filter shown :=
    filter_cons_of_neg fun visible => absurd (of_decide_eq_true visible) (Nat.not_le.mpr hbyte)
  rw [groundLook, if_neg other, if_pos control]
  unfold flushUtf8
  rcases reads with ⟨rfl, hidle⟩ | hcarrying
  · rw [hidle]
    refine ⟨{}, [], rfl, .inl ⟨rfl, rfl⟩, fun rest out later => ⟨_, .ascii (by omega) later, ?_⟩⟩
    exact hhidden out
  · rw [hcarrying.flush.1]
    refine ⟨{}, [], rfl, .inl ⟨rfl, rfl⟩, fun rest out later => ?_⟩
    rcases hcarrying.feed_cases byte with ⟨hhigh, -⟩ | ⟨hhigh, -⟩ | ⟨-, hdecodes⟩
    · exact absurd (UInt8.lt_of_le_of_lt hhigh control) (by decide)
    · exact absurd (UInt8.lt_of_le_of_lt hhigh control) (by decide)
    · refine ⟨_, hdecodes rest _ (.ascii (by omega) later), ?_⟩
      rw [filter_shown_cons (by decide), hhidden]
      rfl

theorem feed_ground (ground : parser.state = .ground) (reads : parser.decoder.Reads part)
    {bytes : Bytes} (noEscape : 0x1B ∉ bytes) :
    (feed bytes parser).value.1.state = .ground ∧
      ∃ whole, Decodes (part ++ withoutDel bytes) whole ∧
        printed (feed bytes parser).value.2 ++
          (feed bytes parser).value.1.decoder.flush.2.toList = whole.filter shown := by
  induction bytes generalizing parser part with
  | nil =>
    refine ⟨ground, parser.decoder.flush.2.toList, ?_, ?_⟩
    · rw [withoutDel, filter_nil, append_nil]
      exact reads.flush.2
    · rcases reads with ⟨-, hidle⟩ | hcarrying
      · rw [feed, value_pure, hidle]
        rfl
      · rw [feed, value_pure, hcarrying.flush.1]
        rfl
  | cons byte rest ih =>
    rw [mem_cons, not_or] at noEscape
    have hbyte : (parser.feedByte byte).value = (groundLook 2 parser byte).value := by
      unfold feedByte
      rw [ground]
      rfl
    rw [feed_cons, hbyte]
    by_cases hdel : byte = 0x7F
    · subst hdel
      have hlook : (groundLook 2 parser 0x7F).value = (parser, []) := rfl
      rw [hlook]
      exact ih ground reads noEscape.2
    obtain ⟨next, left, htakes⟩ :
        ∃ next left, Takes parser part byte (groundLook 2 parser byte).value next left := by
      by_cases hcontrol : byte < 0x20
      · exact takes_control reads hcontrol (Ne.symm noEscape.1)
      · exact takes_text reads (UInt8.not_lt.mp hcontrol) hdel
    rw [htakes.parser, withoutDel_cons hdel]
    obtain ⟨hstate, out, hdecodes, hprinted⟩ :=
      @ih { parser with decoder := next } left ground htakes.reads noEscape.2
    obtain ⟨whole, hwhole, hshown⟩ := htakes.decodes _ _ hdecodes
    refine ⟨hstate, whole, hwhole, ?_⟩
    rw [printed_append, append_assoc, hprinted, hshown]

end Parser

/-- Decoding replaces each maximal ill-formed subpart once and undoes encoding; the parser
prints a text without ESC as it decodes without DEL and C0 controls, short of a sequence that
the end of the bytes leaves unfinished. -/
theorem utf8_decoding (bytes : Bytes) {text : List Nat}
    (scalars : ∀ codePoint ∈ text, IsScalar codePoint) {parser : Parser}
    (ground : parser.state = .ground) (idle : parser.decoder = {}) (noEscape : 0x1B ∉ bytes) :
    (∃ out, decodeUtf8Lossy bytes = ⟨some out, true⟩ ∧
      ∀ other, Decodes bytes other ↔ other = out) ∧
    (decodeUtf8Lossy (encodeUtf8 text)).value = some text ∧
    (Parser.feed bytes parser).value.1.state = .ground ∧
    some (printed (Parser.feed bytes parser).value.2 ++
        (Parser.feed bytes parser).value.1.decoder.flush.2.toList) =
      (decodeUtf8Lossy (withoutDel bytes)).value.map fun out => out.filter shown := by
  obtain ⟨hsafe, out, hout, hdecodes⟩ := holds_decodeUtf8Lossy bytes
  obtain ⟨hground, whole, hwhole, hprinted⟩ := Parser.feed_ground ground (.inl ⟨rfl, idle⟩) noEscape
  obtain ⟨kept, hkept, hkeptDecodes⟩ := (holds_decodeUtf8Lossy (withoutDel bytes)).2
  refine ⟨⟨out, ?_, fun other => ⟨fun decodes => decodes.unique hdecodes, ?_⟩⟩,
    decodeUtf8Lossy_encodeUtf8 scalars, hground, ?_⟩
  · rw [← hout, ← hsafe]
  · rintro rfl
    exact hdecodes
  · rw [hprinted, hkept, hkeptDecodes.unique hwhole]
    rfl

/-- A DEL inside a sequence does not end it, and the end of the bytes does not either. -/
theorem del_inside_sequence : printed (Parser.feed [0xE2, 0x7F, 0x82, 0xAC] {}).value.2 = [0x20AC] ∧
      (decodeUtf8Lossy [0xE2, 0x7F, 0x82, 0xAC]).value = some [0xFFFD, 0x7F, 0xFFFD, 0xFFFD] ∧
      printed (Parser.feed [0x61, 0xE2] {}).value.2 = [0x61] ∧
      (decodeUtf8Lossy [0x61, 0xE2]).value = some [0x61, 0xFFFD] := by
  refine ⟨?_, ?_, ?_, ?_⟩
  · decide
  · decide
  · decide
  · decide

/-- A tab and a stray byte in a text, which also has a DEL. -/
theorem utf8_decoding_tab :
    (∃ out, decodeUtf8Lossy [0x61, 0xC3, 0x09, 0x7F, 0x80] = ⟨some out, true⟩ ∧
      ∀ other, Decodes [0x61, 0xC3, 0x09, 0x7F, 0x80] other ↔ other = out) ∧
    (decodeUtf8Lossy (encodeUtf8 [0x20AC, 0x1F600])).value = some [0x20AC, 0x1F600] ∧
    (Parser.feed [0x61, 0xC3, 0x09, 0x7F, 0x80] {}).value.1.state = .ground ∧
    some (printed (Parser.feed [0x61, 0xC3, 0x09, 0x7F, 0x80] {}).value.2 ++
        (Parser.feed [0x61, 0xC3, 0x09, 0x7F, 0x80] {}).value.1.decoder.flush.2.toList) =
      (decodeUtf8Lossy (withoutDel [0x61, 0xC3, 0x09, 0x7F, 0x80])).value.map
        fun out => out.filter shown :=
  utf8_decoding [0x61, 0xC3, 0x09, 0x7F, 0x80]
    (by simp [IsScalar]) rfl rfl (by decide)

end Hypeterm.Term
