import Mathlib.Data.List.Basic

/-! UTF-8 as a table of well-formed sequences, and the decoding that puts one replacement
character in the place of each maximal subpart of what is ill-formed. -/
namespace Hypeterm.Library.Utf8

open List

def Within (low high : Nat) (byte : UInt8) : Prop := low ≤ byte.toNat ∧ byte.toNat ≤ high

/-- The well-formed sequences, as the standard lists them. -/
inductive WellFormed : List UInt8 → Prop
  | row1 {a : UInt8} : Within 0x00 0x7F a → WellFormed [a]
  | row2 {a b : UInt8} : Within 0xC2 0xDF a → Within 0x80 0xBF b → WellFormed [a, b]
  | row3 {a b c : UInt8} : Within 0xE0 0xE0 a → Within 0xA0 0xBF b → Within 0x80 0xBF c →
      WellFormed [a, b, c]
  | row4 {a b c : UInt8} : Within 0xE1 0xEC a → Within 0x80 0xBF b → Within 0x80 0xBF c →
      WellFormed [a, b, c]
  | row5 {a b c : UInt8} : Within 0xED 0xED a → Within 0x80 0x9F b → Within 0x80 0xBF c →
      WellFormed [a, b, c]
  | row6 {a b c : UInt8} : Within 0xEE 0xEF a → Within 0x80 0xBF b → Within 0x80 0xBF c →
      WellFormed [a, b, c]
  | row7 {a b c d : UInt8} : Within 0xF0 0xF0 a → Within 0x90 0xBF b → Within 0x80 0xBF c →
      Within 0x80 0xBF d → WellFormed [a, b, c, d]
  | row8 {a b c d : UInt8} : Within 0xF1 0xF3 a → Within 0x80 0xBF b → Within 0x80 0xBF c →
      Within 0x80 0xBF d → WellFormed [a, b, c, d]
  | row9 {a b c d : UInt8} : Within 0xF4 0xF4 a → Within 0x80 0x8F b → Within 0x80 0xBF c →
      Within 0x80 0xBF d → WellFormed [a, b, c, d]

def leadBits (byte : UInt8) : Nat :=
  if byte.toNat < 0x80 then byte.toNat
  else if byte.toNat < 0xE0 then byte.toNat - 0xC0
  else if byte.toNat < 0xF0 then byte.toNat - 0xE0
  else byte.toNat - 0xF0

def scalarValue : List UInt8 → Nat
  | [] => 0
  | lead :: more => more.foldl (fun value byte => value * 64 + (byte.toNat - 0x80)) (leadBits lead)

/-- At a place where no well-formed sequence starts: the longest beginning of one, or else a
single byte. -/
structure MaximalSubpart (part rest : List UInt8) : Prop where
  unconvertible : ∀ front back, front ++ back = part ++ rest → ¬WellFormed front
  begins : part.length = 1 ∨ part ≠ [] ∧ ∃ more, WellFormed (part ++ more)
  maximal : ∀ front back, front ++ back = part ++ rest → part.length < front.length →
    ∀ more, ¬WellFormed (front ++ more)

inductive Decodes : List UInt8 → List Nat → Prop
  | done : Decodes [] []
  | sequence {front rest : List UInt8} {codePoints : List Nat} (wellFormed : WellFormed front)
      (later : Decodes rest codePoints) :
      Decodes (front ++ rest) (scalarValue front :: codePoints)
  | replaced {part rest : List UInt8} {codePoints : List Nat} (subpart : MaximalSubpart part rest)
      (later : Decodes rest codePoints) :
      Decodes (part ++ rest) (0xFFFD :: codePoints)

/-- How many bytes are still to come, and where the first of them lies. -/
structure Expected where
  count : Nat
  low : Nat
  high : Nat
  deriving DecidableEq

def Expected.after (expected : Expected) : Expected := ⟨expected.count - 1, 0x80, 0xBF⟩

def Expected.Completes (expected : Expected) : List UInt8 → Prop
  | [] => expected.count = 0
  | byte :: rest =>
      0 < expected.count ∧ Within expected.low expected.high byte ∧ expected.after.Completes rest

/-- What the first byte makes one expect; some bytes start nothing. -/
def expectedOf (lead : UInt8) : Option Expected :=
  if lead.toNat ≤ 0x7F then some ⟨0, 0x80, 0xBF⟩
  else if lead.toNat < 0xC2 then none
  else if lead.toNat ≤ 0xDF then some ⟨1, 0x80, 0xBF⟩
  else if lead.toNat = 0xE0 then some ⟨2, 0xA0, 0xBF⟩
  else if lead.toNat = 0xED then some ⟨2, 0x80, 0x9F⟩
  else if lead.toNat ≤ 0xEF then some ⟨2, 0x80, 0xBF⟩
  else if lead.toNat = 0xF0 then some ⟨3, 0x90, 0xBF⟩
  else if lead.toNat = 0xF4 then some ⟨3, 0x80, 0x8F⟩
  else if lead.toNat ≤ 0xF3 then some ⟨3, 0x80, 0xBF⟩
  else none

variable {more : List UInt8}

theorem Expected.Completes.length {expected : Expected}
    (completes : expected.Completes more) : more.length = expected.count := by
  induction more generalizing expected with
  | nil => exact completes.symm
  | cons byte rest ih =>
    obtain ⟨hcount, -, hrest⟩ := completes
    have hlength := ih hrest
    have hafter : expected.after.count = expected.count - 1 := rfl
    rw [length_cons]
    omega

theorem Expected.exists_completes (expected : Expected) (range : expected.low ≤ expected.high)
    (byte : expected.low < 256) : ∃ more, expected.Completes more := by
  obtain ⟨count, low, high⟩ := expected
  induction count generalizing low high with
  | zero => exact ⟨[], rfl⟩
  | succ count ih =>
    obtain ⟨more, hmore⟩ := ih 0x80 0xBF (Nat.le_of_ble_eq_true rfl) (Nat.le_of_ble_eq_true rfl)
    refine ⟨UInt8.ofNat low :: more, Nat.succ_pos count, ?_, hmore⟩
    rw [Within, UInt8.toNat_ofNat', Nat.mod_eq_of_lt byte]
    exact ⟨Nat.le_refl low, range⟩

theorem completes_one {low high : Nat} :
    Expected.Completes ⟨1, low, high⟩ more ↔ ∃ b, more = [b] ∧ Within low high b := by
  constructor
  · intro completes
    obtain ⟨b, rfl⟩ := length_eq_one_iff.mp completes.length
    exact ⟨b, rfl, completes.2.1⟩
  · rintro ⟨b, rfl, hb⟩
    exact ⟨Nat.one_pos, hb, rfl⟩

theorem completes_two {low high : Nat} : Expected.Completes ⟨2, low, high⟩ more ↔
      ∃ b c, more = [b, c] ∧ Within low high b ∧ Within 0x80 0xBF c := by
  constructor
  · intro completes
    obtain ⟨b, c, rfl⟩ := length_eq_two.mp completes.length
    exact ⟨b, c, rfl, completes.2.1, completes.2.2.2.1⟩
  · rintro ⟨b, c, rfl, hb, hc⟩
    exact ⟨Nat.two_pos, hb, Nat.one_pos, hc, rfl⟩

theorem completes_three {low high : Nat} : Expected.Completes ⟨3, low, high⟩ more ↔
      ∃ b c d, more = [b, c, d] ∧ Within low high b ∧ Within 0x80 0xBF c ∧ Within 0x80 0xBF d := by
  constructor
  · intro completes
    obtain ⟨b, c, d, rfl⟩ := length_eq_three.mp completes.length
    exact ⟨b, c, d, rfl, completes.2.1, completes.2.2.2.1, completes.2.2.2.2.2.1⟩
  · rintro ⟨b, c, d, rfl, hb, hc, hd⟩
    exact ⟨Nat.zero_lt_succ 2, hb, Nat.two_pos, hc, Nat.one_pos, hd, rfl⟩

theorem expectedOf_eq {lead : UInt8} {low high : Nat} (within : Within low high lead)
    {expected : Expected} (row : ∀ code : Fin 256, low ≤ code.val → code.val ≤ high →
      expectedOf (UInt8.ofNat code) = some expected) : expectedOf lead = some expected := by
  have hlead := row ⟨lead.toNat, lead.toNat_lt⟩ within.1 within.2
  rwa [UInt8.ofNat_toNat] at hlead

theorem expectedOf_of_wellFormed {lead : UInt8} (wellFormed : WellFormed (lead :: more)) :
    ∃ expected, expectedOf lead = some expected ∧ expected.Completes more := by
  cases wellFormed with
  | row1 ha => exact ⟨⟨0, 0x80, 0xBF⟩, expectedOf_eq ha (by decide +kernel), rfl⟩
  | row2 ha hb =>
    exact ⟨⟨1, 0x80, 0xBF⟩, expectedOf_eq ha (by decide +kernel), completes_one.mpr ⟨_, rfl, hb⟩⟩
  | row3 ha hb hc =>
    exact ⟨⟨2, 0xA0, 0xBF⟩, expectedOf_eq ha (by decide +kernel), completes_two.mpr ⟨_, _, rfl, hb, hc⟩⟩
  | row4 ha hb hc =>
    exact ⟨⟨2, 0x80, 0xBF⟩, expectedOf_eq ha (by decide +kernel), completes_two.mpr ⟨_, _, rfl, hb, hc⟩⟩
  | row5 ha hb hc =>
    exact ⟨⟨2, 0x80, 0x9F⟩, expectedOf_eq ha (by decide +kernel), completes_two.mpr ⟨_, _, rfl, hb, hc⟩⟩
  | row6 ha hb hc =>
    exact ⟨⟨2, 0x80, 0xBF⟩, expectedOf_eq ha (by decide +kernel), completes_two.mpr ⟨_, _, rfl, hb, hc⟩⟩
  | row7 ha hb hc hd =>
    exact ⟨⟨3, 0x90, 0xBF⟩, expectedOf_eq ha (by decide +kernel), completes_three.mpr ⟨_, _, _, rfl, hb, hc, hd⟩⟩
  | row8 ha hb hc hd =>
    exact ⟨⟨3, 0x80, 0xBF⟩, expectedOf_eq ha (by decide +kernel), completes_three.mpr ⟨_, _, _, rfl, hb, hc, hd⟩⟩
  | row9 ha hb hc hd =>
    exact ⟨⟨3, 0x80, 0x8F⟩, expectedOf_eq ha (by decide +kernel), completes_three.mpr ⟨_, _, _, rfl, hb, hc, hd⟩⟩

theorem wellFormed_of_expectedOf {lead : UInt8} {expected : Expected}
    (row : expectedOf lead = some expected) (completes : expected.Completes more) :
    WellFormed (lead :: more) := by
  unfold expectedOf at row
  split at row
  · rename_i hlead
    cases row
    cases eq_nil_of_length_eq_zero completes.length
    exact .row1 ⟨Nat.zero_le _, hlead⟩
  split at row
  · cases row
  split at row
  · cases row
    obtain ⟨b, rfl, hb⟩ := completes_one.mp completes
    exact .row2 ⟨by omega, by omega⟩ hb
  split at row
  · cases row
    obtain ⟨b, c, rfl, hb, hc⟩ := completes_two.mp completes
    exact .row3 ⟨by omega, by omega⟩ hb hc
  split at row
  · cases row
    obtain ⟨b, c, rfl, hb, hc⟩ := completes_two.mp completes
    exact .row5 ⟨by omega, by omega⟩ hb hc
  split at row
  · cases row
    obtain ⟨b, c, rfl, hb, hc⟩ := completes_two.mp completes
    by_cases hlow : lead.toNat ≤ 0xEC
    · exact .row4 ⟨by omega, hlow⟩ hb hc
    · exact .row6 ⟨by omega, by omega⟩ hb hc
  split at row
  · cases row
    obtain ⟨b, c, d, rfl, hb, hc, hd⟩ := completes_three.mp completes
    exact .row7 ⟨by omega, by omega⟩ hb hc hd
  split at row
  · cases row
    obtain ⟨b, c, d, rfl, hb, hc, hd⟩ := completes_three.mp completes
    exact .row9 ⟨by omega, by omega⟩ hb hc hd
  split at row
  · cases row
    obtain ⟨b, c, d, rfl, hb, hc, hd⟩ := completes_three.mp completes
    exact .row8 ⟨by omega, by omega⟩ hb hc hd
  · cases row

theorem wellFormed_cons {lead : UInt8} : WellFormed (lead :: more) ↔
    ∃ expected, expectedOf lead = some expected ∧ expected.Completes more := by
  constructor
  · exact expectedOf_of_wellFormed
  · rintro ⟨expected, row, completes⟩
    exact wellFormed_of_expectedOf row completes

theorem Decodes.ascii {byte : UInt8} (ascii : byte.toNat ≤ 0x7F) {rest : List UInt8}
    {codePoints : List Nat} (later : Decodes rest codePoints) :
    Decodes (byte :: rest) (byte.toNat :: codePoints) := by
  have hvalue : scalarValue [byte] = byte.toNat := if_pos (Nat.lt_succ_of_le ascii)
  rw [← hvalue]
  exact .sequence (.row1 ⟨Nat.zero_le _, ascii⟩) later

theorem not_wellFormed_nil : ¬WellFormed [] := by
  rintro ⟨⟩

theorem WellFormed.eq_nil_of_append {front back : List UInt8} (short : WellFormed front)
    (long : WellFormed (front ++ back)) : back = [] := by
  cases front with
  | nil => exact absurd short not_wellFormed_nil
  | cons lead more =>
    obtain ⟨expected, hexpected, hmore⟩ := wellFormed_cons.mp short
    rw [cons_append] at long
    obtain ⟨other, hother, hlong⟩ := wellFormed_cons.mp long
    cases hexpected.symm.trans hother
    have hlength := hmore.length.trans hlong.length.symm
    rw [length_append] at hlength
    exact eq_nil_of_length_eq_zero (by omega)

theorem eq_of_append_eq {front back other rest : List UInt8} (same : front ++ back = other ++ rest)
    (first : WellFormed front) (second : WellFormed other) : front = other := by
  rcases append_eq_append_iff.mp same with ⟨between, rfl, -⟩ | ⟨between, rfl, -⟩
  · rw [first.eq_nil_of_append second, append_nil]
  · rw [second.eq_nil_of_append first, append_nil]

theorem MaximalSubpart.ne_nil {part rest : List UInt8} (subpart : MaximalSubpart part rest) :
    part ≠ [] := by
  rintro rfl
  rcases subpart.begins with hone | ⟨hsome, -⟩
  · cases hone
  · exact hsome rfl

theorem MaximalSubpart.length_le {part rest other later : List UInt8}
    (subpart : MaximalSubpart part rest) (longer : MaximalSubpart other later)
    (same : part ++ rest = other ++ later) : other.length ≤ part.length := by
  have hpart := length_pos_iff.mpr subpart.ne_nil
  rcases longer.begins with hone | ⟨-, more, hmore⟩
  · omega
  · by_contra hlonger
    exact subpart.maximal other later same.symm (by omega) more hmore

theorem MaximalSubpart.eq {part rest other later : List UInt8}
    (first : MaximalSubpart part rest) (second : MaximalSubpart other later)
    (same : part ++ rest = other ++ later) : part = other ∧ rest = later := by
  have hforth := first.length_le second same
  have hback := second.length_le first same.symm
  exact append_inj same (by omega)

theorem Decodes.unique {bytes : List UInt8} {one other : List Nat} (first : Decodes bytes one)
    (second : Decodes bytes other) : one = other := by
  induction first generalizing other with
  | done =>
    generalize hbytes : ([] : List UInt8) = bytes at second
    cases second with
    | done => rfl
    | sequence wellFormed later =>
      obtain ⟨rfl, -⟩ := append_eq_nil_iff.mp hbytes.symm
      exact absurd wellFormed not_wellFormed_nil
    | replaced subpart later =>
      exact absurd (append_eq_nil_iff.mp hbytes.symm).1 subpart.ne_nil
  | @sequence front rest codePoints wellFormed later ih =>
    generalize hbytes : front ++ rest = bytes at second
    cases second with
    | done =>
      obtain ⟨rfl, -⟩ := append_eq_nil_iff.mp hbytes
      exact absurd wellFormed not_wellFormed_nil
    | sequence otherWellFormed otherLater =>
      cases eq_of_append_eq hbytes wellFormed otherWellFormed
      cases append_cancel_left hbytes
      rw [ih otherLater]
    | replaced subpart otherLater =>
      exact absurd wellFormed (subpart.unconvertible _ _ hbytes)
  | @replaced part rest codePoints subpart later ih =>
    generalize hbytes : part ++ rest = bytes at second
    cases second with
    | done => exact absurd (append_eq_nil_iff.mp hbytes).1 subpart.ne_nil
    | sequence otherWellFormed otherLater =>
      exact absurd otherWellFormed (subpart.unconvertible _ _ hbytes.symm)
    | replaced otherSubpart otherLater =>
      obtain ⟨rfl, rfl⟩ := subpart.eq otherSubpart hbytes
      rw [ih otherLater]

end Hypeterm.Library.Utf8
