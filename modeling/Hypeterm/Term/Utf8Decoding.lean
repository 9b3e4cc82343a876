import Hypeterm.Library.MaximalSubparts
import Hypeterm.Term.ParamText

/-! Whole texts through the incremental decoder, and the characters that the parser prints. -/
namespace Hypeterm.Term
open Library Library.Utf8 Checked List

def appendUtf8 (codePoint : Nat) (out : Bytes) : Bytes :=
  let c := if 0x10FFFF < codePoint ∨ (0xD800 ≤ codePoint ∧ codePoint ≤ 0xDFFF) then replacementChar
    else codePoint
  if c < 0x80 then out ++ [UInt8.ofNat c]
  else if c < 0x800 then
    out ++ [UInt8.ofNat (0xC0 ||| (c >>> 6)), UInt8.ofNat (0x80 ||| (c &&& 0x3F))]
  else if c < 0x10000 then
    out ++ [UInt8.ofNat (0xE0 ||| (c >>> 12)), UInt8.ofNat (0x80 ||| ((c >>> 6) &&& 0x3F)),
      UInt8.ofNat (0x80 ||| (c &&& 0x3F))]
  else
    out ++ [UInt8.ofNat (0xF0 ||| (c >>> 18)), UInt8.ofNat (0x80 ||| ((c >>> 12) &&& 0x3F)),
      UInt8.ofNat (0x80 ||| ((c >>> 6) &&& 0x3F)), UInt8.ofNat (0x80 ||| (c &&& 0x3F))]

def encodeUtf8 (text : List Nat) : Bytes := text.foldl (fun out c => appendUtf8 c out) []

/-- The loop of `decodeUtf8Lossy`, with what it appends; `none` when it takes more rounds. -/
def decodeRounds : Nat → Utf8Decoder → Bytes → Checked (Option (List Nat))
  | _, decoder, [] => pure (some decoder.flush.2.toList)
  | 0, _, _ :: _ => pure none
  | rounds + 1, decoder, byte :: rest => do
      let (decoder, decoded) ← decoder.feed byte
      match decoded with
      | .incomplete => decodeRounds rounds decoder rest
      | .emit codePoint => do
          let later ← decodeRounds rounds decoder rest
          pure (later.map (codePoint :: ·))
      | .again codePoint => do
          let later ← decodeRounds rounds decoder (byte :: rest)
          pure (later.map (codePoint :: ·))

def decodeUtf8Lossy (bytes : Bytes) : Checked (Option (List Nat)) :=
  decodeRounds (2 * bytes.length) {} bytes

namespace Utf8Decoder

variable {decoder : Utf8Decoder} {part : Bytes}

def expected (decoder : Utf8Decoder) : Expected :=
  ⟨decoder.remaining.toNat, decoder.lowerBound.toNat, decoder.upperBound.toNat⟩

/-- In the middle of a sequence, of which it has read a part. -/
structure Carrying (decoder : Utf8Decoder) (part : Bytes) : Prop where
  nonempty : part ≠ []
  completes : ∀ more, WellFormed (part ++ more) ↔ decoder.expected.Completes more
  remaining : 0 < decoder.remaining ∧ decoder.remaining ≤ 3
  bounds : 0x80 ≤ decoder.lowerBound.toNat ∧
    decoder.lowerBound.toNat ≤ decoder.upperBound.toNat ∧ decoder.upperBound.toNat ≤ 0xBF
  accumulator : decoder.accumulator = scalarValue part
  small : (decoder.accumulator + 1) * 64 ^ decoder.remaining.toNat ≤ 2 ^ 21

theorem start_cases (byte : UInt8) :
    (expectedOf byte = some ⟨0, 0x80, 0xBF⟩ ∧ start {} byte = ({}, .emit (leadBits byte))) ∨
    (expectedOf byte = none ∧ start {} byte = ({}, .emit replacementChar)) ∨
    ((start {} byte).2 = .incomplete ∧ expectedOf byte = some (start {} byte).1.expected ∧
      (0 < (start {} byte).1.remaining ∧ (start {} byte).1.remaining ≤ 3) ∧
      (0x80 ≤ (start {} byte).1.lowerBound.toNat ∧
        (start {} byte).1.lowerBound.toNat ≤ (start {} byte).1.upperBound.toNat ∧
        (start {} byte).1.upperBound.toNat ≤ 0xBF) ∧
      (start {} byte).1.accumulator = leadBits byte ∧
      ((start {} byte).1.accumulator + 1) * 64 ^ (start {} byte).1.remaining.toNat ≤ 2 ^ 21) := by
  revert byte
  apply forall_uint8
  decide +kernel

theorem start_spec (byte : UInt8) :
    (WellFormed [byte] ∧ start {} byte = ({}, .emit (scalarValue [byte]))) ∨
    ((∀ more, ¬WellFormed (byte :: more)) ∧ start {} byte = ({}, .emit replacementChar)) ∨
    ((start {} byte).2 = .incomplete ∧ (start {} byte).1.Carrying [byte]) := by
  rcases start_cases byte with ⟨hrow, hstart⟩ | ⟨hrow, hstart⟩ |
    ⟨hincomplete, hrow, hremaining, hbounds, haccumulator, hsmall⟩
  · exact .inl ⟨wellFormed_of_expectedOf hrow rfl, hstart⟩
  · refine .inr (.inl ⟨fun more wellFormed => ?_, hstart⟩)
    obtain ⟨expected, hsome, -⟩ := wellFormed_cons.mp wellFormed
    cases hrow.symm.trans hsome
  · refine .inr (.inr ⟨hincomplete, ?_⟩)
    refine ⟨cons_ne_nil _ _, fun more => ?_, hremaining, hbounds, haccumulator, hsmall⟩
    rw [singleton_append, wellFormed_cons, hrow]
    constructor
    · rintro ⟨expected, ⟨⟩, completes⟩
      exact completes
    · exact fun completes => ⟨_, rfl, completes⟩

theorem scalarValue_append (nonempty : part ≠ []) (byte : UInt8) :
    scalarValue (part ++ [byte]) = scalarValue part * 64 + (byte.toNat - 0x80) := by
  cases part with
  | nil => exact absurd rfl nonempty
  | cons lead more => exact foldl_append

theorem low_bits {byte : UInt8} (within : Within 0x80 0xBF byte) :
    byte.toNat &&& 0x3F = byte.toNat - 0x80 ∧ byte.toNat - 0x80 < 64 := by
  obtain ⟨hlow, hhigh⟩ := within
  have hbits : byte.toNat &&& 0x3F = byte.toNat % 64 := Nat.and_two_pow_sub_one_eq_mod _ 6
  omega

theorem Carrying.feed (carrying : decoder.Carrying part) (byte : UInt8) : Holds (fun result =>
      (¬Within decoder.lowerBound.toNat decoder.upperBound.toNat byte ∧
        result = ({}, .again replacementChar)) ∨
      (0x80 ≤ byte ∧ WellFormed (part ++ [byte]) ∧
        result = ({}, .emit (scalarValue (part ++ [byte])))) ∨
      (0x80 ≤ byte ∧ result.2 = .incomplete ∧ result.1.Carrying (part ++ [byte])))
      (decoder.feed byte) := by
  obtain ⟨hpositive, hfew⟩ := carrying.remaining
  obtain ⟨hlow, hrange, hhigh⟩ := carrying.bounds
  unfold Utf8Decoder.feed
  rw [if_neg (by omega)]
  refine .ite (fun houtside => .pure (.inl ⟨fun hwithin => ?_, rfl⟩)) fun hinside => ?_
  · rw [UInt8.lt_iff_toNat_lt, UInt8.lt_iff_toNat_lt] at houtside
    obtain ⟨hfrom, hto⟩ := hwithin
    omega
  rw [UInt8.lt_iff_toNat_lt, UInt8.lt_iff_toNat_lt] at hinside
  have hwithin : Within decoder.lowerBound.toNat decoder.upperBound.toNat byte := by
    constructor
    · omega
    · omega
  obtain ⟨hbits, hsix⟩ := @low_bits byte ⟨by omega, by omega⟩
  have hpower : decoder.remaining.toNat = (decoder.remaining - 1).toNat + 1 := by omega
  have hsmall := carrying.small
  rw [hpower, Nat.pow_succ, Nat.mul_comm _ 64, ← Nat.mul_assoc] at hsmall
  have hshort : (decoder.accumulator + 1) * 64 ≤ 2 ^ 21 :=
    Nat.le_trans (Nat.le_mul_of_pos_right _ (Nat.pow_pos (Nat.zero_lt_succ 63))) hsmall
  have hvalue : ((decoder.accumulator <<< 6) % 2 ^ 32) ||| (byte.toNat &&& 0x3F) =
      scalarValue (part ++ [byte]) := by
    have hshift : decoder.accumulator <<< 6 = decoder.accumulator * 64 := Nat.shiftLeft_eq _ 6
    have hsix : byte.toNat - 0x80 < 2 ^ 6 := hsix
    rw [hbits, scalarValue_append carrying.nonempty, ← carrying.accumulator,
      Nat.mod_eq_of_lt (by omega), ← Nat.shiftLeft_add_eq_or_of_lt hsix, hshift]
  have hcompletes (more : Bytes) : WellFormed ((part ++ [byte]) ++ more) ↔
      Expected.Completes ⟨(decoder.remaining - 1).toNat, 0x80, 0xBF⟩ more := by
    have hcount : (decoder.remaining - 1).toNat = decoder.remaining.toNat - 1 := by omega
    rw [append_assoc, carrying.completes, hcount]
    constructor
    · exact fun completes => completes.2.2
    · exact fun completes => ⟨Int.pos_iff_toNat_pos.mp hpositive, hwithin, completes⟩
  refine .int (by omega) (by omega) ?_
  have hcontinues : 0x80 ≤ byte := UInt8.le_iff_toNat_le.mpr (Nat.le_trans hlow hwithin.1)
  refine .ite (fun hlast => .pure (.inr (.inl ⟨hcontinues, ?_, ?_⟩))) fun hmore =>
    .pure (.inr (.inr ⟨hcontinues, rfl, ?_⟩))
  · rw [← append_nil (part ++ [byte]), hcompletes, hlast]
    rfl
  · exact congrArg (fun codePoint => (({} : Utf8Decoder), Decoded.emit codePoint)) hvalue
  · have hleft : 0 < decoder.remaining - 1 ∧ decoder.remaining - 1 ≤ 3 := by omega
    refine ⟨?_, hcompletes, hleft, ?_, hvalue, ?_⟩
    · exact append_ne_nil_of_right_ne_nil _ (cons_ne_nil _ _)
    · exact (by decide : 0x80 ≤ 0x80 ∧ 0x80 ≤ 0xBF ∧ 0xBF ≤ 0xBF)
    · refine Nat.le_trans (Nat.mul_le_mul_right _ ?_) hsmall
      dsimp only
      rw [hvalue, scalarValue_append carrying.nonempty, ← carrying.accumulator]
      omega

theorem Carrying.subpart (carrying : decoder.Carrying part) {rest : Bytes}
    (outside : ∀ byte ∈ rest.head?, ¬Within decoder.lowerBound.toNat decoder.upperBound.toNat byte) :
    MaximalSubpart part rest := by
  have hpositive := Int.pos_iff_toNat_pos.mp carrying.remaining.1
  have hbounds := carrying.bounds
  obtain ⟨more, hmore⟩ := decoder.expected.exists_completes hbounds.2.1
    (Nat.lt_of_le_of_lt (Nat.le_trans hbounds.2.1 hbounds.2.2) (by decide))
  have hbegins : WellFormed (part ++ more) := (carrying.completes more).mpr hmore
  have hstops {between back : Bytes} (same : between ++ back = rest) (later : Bytes) :
      between ≠ [] → ¬WellFormed (part ++ between ++ later) := by
    intro hsome wellFormed
    obtain ⟨byte, tail, rfl⟩ := exists_cons_of_ne_nil hsome
    rw [append_assoc, carrying.completes] at wellFormed
    subst same
    exact outside byte rfl wellFormed.2.1
  refine ⟨fun front back same wellFormed => ?_, .inr ⟨carrying.nonempty, more, hbegins⟩, ?_⟩
  · rcases append_eq_append_iff.mp same with ⟨between, rfl, -⟩ | ⟨between, rfl, hrest⟩
    · rw [append_assoc] at hbegins
      obtain ⟨rfl, rfl⟩ := append_eq_nil_iff.mp (wellFormed.eq_nil_of_append hbegins)
      have hnone := hmore.length
      rw [length_nil] at hnone
      exact Nat.ne_of_lt hpositive hnone
    · by_cases hnil : between = []
      · subst hnil
        rw [append_nil] at wellFormed
        have hnone := ((carrying.completes []).mp (by rwa [append_nil])).length
        exact Nat.ne_of_lt hpositive hnone
      · refine hstops hrest.symm [] hnil ?_
        rwa [append_nil]
  · intro front back same longer later
    rcases append_eq_append_iff.mp same with ⟨between, rfl, -⟩ | ⟨between, rfl, hrest⟩
    · rw [length_append] at longer
      omega
    · refine hstops hrest.symm later ?_
      rintro rfl
      rw [append_nil] at longer
      exact Nat.lt_irrefl _ longer

theorem subpart_single {byte : UInt8} (nothing : ∀ more, ¬WellFormed (byte :: more))
    (rest : Bytes) : MaximalSubpart [byte] rest := by
  have hnone {front back : Bytes} (same : front ++ back = [byte] ++ rest) (later : Bytes)
      (some : front ≠ []) : ¬WellFormed (front ++ later) := by
    obtain ⟨first, tail, rfl⟩ := exists_cons_of_ne_nil some
    cases (List.cons.inj same).1
    exact nothing _
  refine ⟨fun front back same wellFormed => ?_, .inl rfl, fun front back same longer later => ?_⟩
  · refine hnone same [] ?_ (by rwa [append_nil])
    rintro rfl
    exact not_wellFormed_nil wellFormed
  · exact hnone same later (length_pos_iff.mp (Nat.lt_of_le_of_lt (Nat.zero_le _) longer))

theorem feed_idle (byte : UInt8) :
    (∃ codePoint, (({} : Utf8Decoder).feed byte) = pure ({}, .emit codePoint) ∧
      (0x20 ≤ byte → 0x20 ≤ codePoint) ∧
      ∀ rest out, Decodes rest out → Decodes (byte :: rest) (codePoint :: out)) ∨
    ∃ decoder, (({} : Utf8Decoder).feed byte) = pure (decoder, .incomplete) ∧
      decoder.Carrying [byte] := by
  have hfeed : ({} : Utf8Decoder).feed byte = pure (start {} byte) := rfl
  rw [hfeed]
  rcases start_spec byte with ⟨hwell, hstart⟩ | ⟨hnothing, hstart⟩ | ⟨hincomplete, hcarrying⟩
  · have hascii : byte.toNat ≤ 0x7F := by
      cases hwell with
      | row1 hascii => exact hascii.2
    have hvalue : scalarValue [byte] = byte.toNat := if_pos (Nat.lt_succ_of_le hascii)
    rw [hvalue] at hstart
    exact .inl ⟨byte.toNat, congrArg pure hstart, UInt8.le_iff_toNat_le.mp, fun _ _ => .ascii hascii⟩
  · refine .inl ⟨replacementChar, congrArg pure hstart, fun _ => by decide, ?_⟩
    exact fun rest out later => .replaced (subpart_single hnothing rest) later
  · refine .inr ⟨_, ?_, hcarrying⟩
    rw [← hincomplete]

theorem le_scalarValue {front : Bytes} (wellFormed : WellFormed front) (long : front.length ≠ 1) :
    0x20 ≤ scalarValue front := by
  cases wellFormed
  case row1 => exact absurd rfl long
  all_goals
    unfold Within at *
    simp only [scalarValue, foldl_cons, foldl_nil, leadBits]
    split
    · omega
    split
    · omega
    split
    · omega
    · omega

theorem Carrying.feed_cases (carrying : decoder.Carrying part) (byte : UInt8) :
    (0x80 ≤ byte ∧ ∃ codePoint, (decoder.feed byte).value = ({}, .emit codePoint) ∧ 0x20 ≤ codePoint ∧
      ∀ rest out, Decodes rest out → Decodes (part ++ byte :: rest) (codePoint :: out)) ∨
    (0x80 ≤ byte ∧ ∃ next, (decoder.feed byte).value = (next, .incomplete) ∧
      next.Carrying (part ++ [byte])) ∨
    ((decoder.feed byte).value = ({}, .again replacementChar) ∧
      ∀ rest out, Decodes (byte :: rest) out →
        Decodes (part ++ byte :: rest) (replacementChar :: out)) := by
  rcases (carrying.feed byte).2 with ⟨houtside, hvalue⟩ | ⟨hhigh, hwell, hvalue⟩ |
    ⟨hhigh, hincomplete, hnext⟩
  · refine .inr (.inr ⟨hvalue, fun rest out later => .replaced (carrying.subpart ?_) later⟩)
    rintro _ ⟨⟩
    exact houtside
  · refine .inl ⟨hhigh, _, hvalue, le_scalarValue hwell ?_, fun rest out later => ?_⟩
    · have hpart := length_pos_iff.mpr carrying.nonempty
      rw [length_append, length_singleton]
      omega
    · rw [append_cons]
      exact .sequence hwell later
  · refine .inr (.inl ⟨hhigh, _, ?_, hnext⟩)
    rw [← hincomplete]

theorem Carrying.flush (carrying : decoder.Carrying part) :
    decoder.flush = ({}, some replacementChar) ∧ Decodes part [replacementChar] := by
  have hpositive := carrying.remaining.1
  refine ⟨if_neg (by omega), ?_⟩
  rw [← append_nil part]
  exact .replaced (carrying.subpart fun byte none => by cases none) .done

theorem holds_decodeRounds (rounds : Nat) (bytes : Bytes) :
    (2 * bytes.length ≤ rounds + 1 → Holds (fun result => ∃ out, result = some out ∧ Decodes bytes out)
      (decodeRounds rounds {} bytes)) ∧
    ∀ {decoder : Utf8Decoder} {part : Bytes}, decoder.Carrying part → 2 * bytes.length ≤ rounds →
      Holds (fun result => ∃ out, result = some out ∧ Decodes (part ++ bytes) out)
        (decodeRounds rounds decoder bytes) := by
  induction rounds generalizing bytes with
  | zero =>
    cases bytes with
    | nil =>
      refine ⟨fun _ => .pure ⟨[], rfl, .done⟩, fun carrying _ => .pure ⟨_, rfl, ?_⟩⟩
      rw [carrying.flush.1, append_nil]
      exact carrying.flush.2
    | cons byte rest =>
      rw [length_cons]
      exact ⟨fun enough => by omega, fun _ enough => by omega⟩
  | succ rounds ih =>
    cases bytes with
    | nil =>
      refine ⟨fun _ => .pure ⟨[], rfl, .done⟩, fun carrying _ => .pure ⟨_, rfl, ?_⟩⟩
      rw [carrying.flush.1, append_nil]
      exact carrying.flush.2
    | cons byte rest =>
      rw [length_cons]
      constructor
      · intro enough
        unfold decodeRounds
        rcases feed_idle byte with ⟨codePoint, hfeed, -, hdecodes⟩ | ⟨next, hfeed, hnext⟩
        · rw [hfeed]
          refine .bind (.pure rfl) ?_
          rintro _ rfl
          refine ((ih rest).1 (by omega)).bind ?_
          rintro _ ⟨out, rfl, later⟩
          exact .pure ⟨_, rfl, hdecodes _ _ later⟩
        · rw [hfeed]
          refine .bind (.pure rfl) ?_
          rintro _ rfl
          exact (ih rest).2 hnext (by omega)
      · intro decoder part carrying enough
        unfold decodeRounds
        refine .bind ⟨(carrying.feed byte).1, rfl⟩ ?_
        rintro _ rfl
        rcases carrying.feed_cases byte with ⟨-, codePoint, hfeed, -, hdecodes⟩ |
          ⟨-, next, hfeed, hnext⟩ | ⟨hfeed, hdecodes⟩
        · rw [hfeed]
          refine ((ih rest).1 (by omega)).bind ?_
          rintro _ ⟨out, rfl, later⟩
          exact .pure ⟨_, rfl, hdecodes _ _ later⟩
        · rw [hfeed, append_cons]
          exact (ih rest).2 hnext (by omega)
        · rw [hfeed]
          refine ((ih (byte :: rest)).1 ?_).bind ?_
          · rw [length_cons]
            omega
          · rintro _ ⟨out, rfl, later⟩
            exact .pure ⟨_, rfl, hdecodes _ _ later⟩

end Utf8Decoder

theorem holds_decodeUtf8Lossy (bytes : Bytes) :
    Holds (fun result => ∃ out, result = some out ∧ Decodes bytes out) (decodeUtf8Lossy bytes) :=
  (Utf8Decoder.holds_decodeRounds _ bytes).1 (Nat.le_succ _)

def IsScalar (codePoint : Nat) : Prop :=
  codePoint < 0xD800 ∨ (0xDFFF < codePoint ∧ codePoint ≤ 0x10FFFF)

theorem toNat_continuation (bits : Nat) :
    (UInt8.ofNat (0x80 ||| (bits &&& 0x3F))).toNat = 0x80 + bits % 64 := by
  have hall : ∀ low : Fin 64, (UInt8.ofNat (0x80 ||| low.val)).toNat = 0x80 + low.val := by
    decide
  have hbits : bits &&& 0x3F = bits % 64 := Nat.and_two_pow_sub_one_eq_mod _ 6
  rw [hbits]
  exact hall ⟨bits % 64, Nat.mod_lt _ (by decide)⟩

theorem toNat_lead {bits : Nat} : (bits < 32 → (UInt8.ofNat (0xC0 ||| bits)).toNat = 0xC0 + bits) ∧
      (bits < 16 → (UInt8.ofNat (0xE0 ||| bits)).toNat = 0xE0 + bits) ∧
      (bits < 8 → (UInt8.ofNat (0xF0 ||| bits)).toNat = 0xF0 + bits) := by
  have htwo : ∀ low : Fin 32, (UInt8.ofNat (0xC0 ||| low.val)).toNat = 0xC0 + low.val := by
    decide
  have hthree : ∀ low : Fin 16, (UInt8.ofNat (0xE0 ||| low.val)).toNat = 0xE0 + low.val := by
    decide
  have hfour : ∀ low : Fin 8, (UInt8.ofNat (0xF0 ||| low.val)).toNat = 0xF0 + low.val := by
    decide
  exact ⟨fun h => htwo ⟨bits, h⟩, fun h => hthree ⟨bits, h⟩, fun h => hfour ⟨bits, h⟩⟩

theorem wellFormed_appendUtf8 {codePoint : Nat} (scalar : IsScalar codePoint) (out : Bytes) :
    ∃ front, appendUtf8 codePoint out = out ++ front ∧ WellFormed front ∧
      scalarValue front = codePoint := by
  unfold IsScalar at scalar
  have hkept : ¬(0x10FFFF < codePoint ∨ (0xD800 ≤ codePoint ∧ codePoint ≤ 0xDFFF)) := by omega
  unfold appendUtf8
  rw [if_neg hkept]
  by_cases hone : codePoint < 0x80
  · rw [if_pos hone]
    have hbyte : (UInt8.ofNat codePoint).toNat = codePoint := by
      rw [UInt8.toNat_ofNat', Nat.mod_eq_of_lt (by omega)]
    refine ⟨_, rfl, .row1 ?_, ?_⟩
    · rw [Within, hbyte]
      omega
    · simp only [scalarValue, foldl_nil, leadBits, hbyte, if_pos hone]
  rw [if_neg hone]
  by_cases htwo : codePoint < 0x800
  · rw [if_pos htwo]
    have hlead := toNat_lead.1 (show codePoint >>> 6 < 32 by omega)
    have hlast := toNat_continuation codePoint
    generalize UInt8.ofNat (0xC0 ||| codePoint >>> 6) = a at hlead ⊢
    generalize UInt8.ofNat (0x80 ||| codePoint &&& 0x3F) = b at hlast ⊢
    refine ⟨_, rfl, .row2 ⟨by omega, by omega⟩ ⟨by omega, by omega⟩, ?_⟩
    simp only [scalarValue, foldl_cons, foldl_nil, leadBits]
    rw [if_neg (by omega), if_pos (by omega)]
    omega
  rw [if_neg htwo]
  by_cases hthree : codePoint < 0x10000
  · rw [if_pos hthree]
    have hlead := toNat_lead.2.1 (show codePoint >>> 12 < 16 by omega)
    have hmiddle := toNat_continuation (codePoint >>> 6)
    have hlast := toNat_continuation codePoint
    generalize UInt8.ofNat (0xE0 ||| codePoint >>> 12) = a at hlead ⊢
    generalize UInt8.ofNat (0x80 ||| codePoint >>> 6 &&& 0x3F) = b at hmiddle ⊢
    generalize UInt8.ofNat (0x80 ||| codePoint &&& 0x3F) = c at hlast ⊢
    have hvalue : scalarValue [a, b, c] = codePoint := by
      simp only [scalarValue, foldl_cons, foldl_nil, leadBits]
      rw [if_neg (by omega), if_neg (by omega), if_pos (by omega)]
      omega
    refine ⟨_, rfl, ?_, hvalue⟩
    have hc : Within 0x80 0xBF c := ⟨by omega, by omega⟩
    by_cases hfirst : codePoint < 0x1000
    · exact .row3 ⟨by omega, by omega⟩ ⟨by omega, by omega⟩ hc
    by_cases hbelow : codePoint < 0xD000
    · exact .row4 ⟨by omega, by omega⟩ ⟨by omega, by omega⟩ hc
    by_cases hsurrogates : codePoint < 0xE000
    · exact .row5 ⟨by omega, by omega⟩ ⟨by omega, by omega⟩ hc
    · exact .row6 ⟨by omega, by omega⟩ ⟨by omega, by omega⟩ hc
  · rw [if_neg hthree]
    have hlead := toNat_lead.2.2 (show codePoint >>> 18 < 8 by omega)
    have hsecond := toNat_continuation (codePoint >>> 12)
    have hthird := toNat_continuation (codePoint >>> 6)
    have hlast := toNat_continuation codePoint
    generalize UInt8.ofNat (0xF0 ||| codePoint >>> 18) = a at hlead ⊢
    generalize UInt8.ofNat (0x80 ||| codePoint >>> 12 &&& 0x3F) = b at hsecond ⊢
    generalize UInt8.ofNat (0x80 ||| codePoint >>> 6 &&& 0x3F) = c at hthird ⊢
    generalize UInt8.ofNat (0x80 ||| codePoint &&& 0x3F) = d at hlast ⊢
    have hvalue : scalarValue [a, b, c, d] = codePoint := by
      simp only [scalarValue, foldl_cons, foldl_nil, leadBits]
      rw [if_neg (by omega), if_neg (by omega), if_neg (by omega)]
      omega
    refine ⟨_, rfl, ?_, hvalue⟩
    have hc : Within 0x80 0xBF c := ⟨by omega, by omega⟩
    have hd : Within 0x80 0xBF d := ⟨by omega, by omega⟩
    by_cases hfirst : codePoint < 0x40000
    · exact .row7 ⟨by omega, by omega⟩ ⟨by omega, by omega⟩ hc hd
    by_cases hbelow : codePoint < 0x100000
    · exact .row8 ⟨by omega, by omega⟩ ⟨by omega, by omega⟩ hc hd
    · exact .row9 ⟨by omega, by omega⟩ ⟨by omega, by omega⟩ hc hd

theorem decodes_encodeUtf8 {text : List Nat} (scalars : ∀ codePoint ∈ text, IsScalar codePoint) :
    Decodes (encodeUtf8 text) text := by
  have hfrom (out : Bytes) : ∃ whole, text.foldl (fun out c => appendUtf8 c out) out = out ++ whole ∧
      Decodes whole text := by
    induction text generalizing out with
    | nil => exact ⟨[], (append_nil out).symm, .done⟩
    | cons codePoint rest ih =>
      obtain ⟨hscalar, hrest⟩ := forall_mem_cons.mp scalars
      obtain ⟨front, happend, hwell, hvalue⟩ := wellFormed_appendUtf8 hscalar out
      obtain ⟨whole, hwhole, hdecodes⟩ := ih hrest (out ++ front)
      refine ⟨front ++ whole, ?_, ?_⟩
      · rw [foldl_cons, happend, hwhole, append_assoc]
      · rw [← hvalue]
        exact .sequence hwell hdecodes
  obtain ⟨whole, hwhole, hdecodes⟩ := hfrom []
  rw [encodeUtf8, hwhole]
  exact hdecodes

theorem decodeUtf8Lossy_encodeUtf8 {text : List Nat}
    (scalars : ∀ codePoint ∈ text, IsScalar codePoint) :
    (decodeUtf8Lossy (encodeUtf8 text)).value = some text := by
  obtain ⟨out, hout, hdecodes⟩ := (holds_decodeUtf8Lossy (encodeUtf8 text)).2
  rw [hout, hdecodes.unique (decodes_encodeUtf8 scalars)]

end Hypeterm.Term
