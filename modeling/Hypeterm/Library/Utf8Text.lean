import Hypeterm.Library.CharBoundary
import Mathlib.Data.List.GetD

/-! Text as UTF-8 bytes.  The bytes at which a character starts are those that do not
continue one, so a boundary can be found by looking at single bytes, and one is never more
than three bytes away. -/
namespace Hypeterm.Library

open List

def encodeText (text : List Char) : List UInt8 := text.flatMap String.utf8EncodeChar

@[simp] theorem encodeText_nil : encodeText [] = [] := rfl

@[simp] theorem encodeText_cons (c : Char) (text : List Char) :
    encodeText (c :: text) = String.utf8EncodeChar c ++ encodeText text := rfl

theorem encodeText_append (front back : List Char) :
    encodeText (front ++ back) = encodeText front ++ encodeText back :=
  flatMap_append

@[simp] theorem length_encodeText (text : List Char) :
    (encodeText text).length = byteLength text := by
  induction text with
  | nil => rfl
  | cons c rest ih => simp [ih]

def isContinuation (byte : UInt8) : Bool := byte &&& 0xC0 == 0x80

theorem forall_uint8 {holds : UInt8 → Prop} (each : ∀ code : Fin 256, holds (UInt8.ofNat code)) :
    ∀ byte, holds byte := by
  intro byte
  have hbyte := each ⟨byte.toNat, byte.toNat_lt⟩
  rwa [UInt8.ofNat_toNat] at hbyte

theorem byte_marks : ∀ byte : UInt8, (byte.IsUTF8FirstByte → isContinuation byte = false) ∧
    isContinuation (byte &&& 0x3f ||| 0x80) = true ∧ (isContinuation byte = true → 0x80 ≤ byte) ∧
    0x80 ≤ byte ||| 0xc0 ∧ 0x80 ≤ byte ||| 0xe0 ∧ 0x80 ≤ byte ||| 0xf0 := by
  apply forall_uint8
  decide +kernel

theorem isContinuation_of_first {byte : UInt8} (first : byte.IsUTF8FirstByte) :
    isContinuation byte = false :=
  (byte_marks byte).1 first

theorem isContinuation_tail (low : UInt8) : isContinuation (low &&& 0x3f ||| 0x80) = true :=
  (byte_marks low).2.1

theorem high_of_isContinuation {byte : UInt8} (inside : isContinuation byte = true) :
    0x80 ≤ byte :=
  (byte_marks byte).2.2.1 inside

theorem high_lead (low : UInt8) :
    0x80 ≤ low ||| 0xc0 ∧ 0x80 ≤ low ||| 0xe0 ∧ 0x80 ≤ low ||| 0xf0 :=
  (byte_marks low).2.2.2

theorem utf8EncodeChar_shape (c : Char) :
    ∃ lead tail, String.utf8EncodeChar c = lead :: tail ∧ isContinuation lead = false ∧
      tail.all isContinuation = true ∧ (lead < 0x80 → tail = []) := by
  have hfirst := @UInt8.isUTF8FirstByte_getElem_zero_utf8EncodeChar c
  match hsize : c.utf8Size, c.utf8Size_pos, c.utf8Size_le_four with
  | 1, _, _ =>
    simp only [String.utf8EncodeChar_eq_singleton hsize, getElem_cons_zero] at hfirst ⊢
    exact ⟨_, _, rfl, isContinuation_of_first hfirst, rfl, fun _ => rfl⟩
  | 2, _, _ =>
    simp only [String.utf8EncodeChar_eq_cons_cons hsize, getElem_cons_zero] at hfirst ⊢
    refine ⟨_, _, rfl, isContinuation_of_first hfirst, ?_, ?_⟩
    · simp only [all_cons, all_nil, isContinuation_tail, Bool.and_true]
    · exact fun low => absurd low (UInt8.not_lt.mpr (high_lead _).1)
  | 3, _, _ =>
    simp only [String.utf8EncodeChar_eq_cons_cons_cons hsize, getElem_cons_zero] at hfirst ⊢
    refine ⟨_, _, rfl, isContinuation_of_first hfirst, ?_, ?_⟩
    · simp only [all_cons, all_nil, isContinuation_tail, Bool.and_true]
    · exact fun low => absurd low (UInt8.not_lt.mpr (high_lead _).2.1)
  | 4, _, _ =>
    simp only [String.utf8EncodeChar_eq_cons_cons_cons_cons hsize, getElem_cons_zero]
      at hfirst ⊢
    refine ⟨_, _, rfl, isContinuation_of_first hfirst, ?_, ?_⟩
    · simp only [all_cons, all_nil, isContinuation_tail, Bool.and_true]
    · exact fun low => absurd low (UInt8.not_lt.mpr (high_lead _).2.2)

theorem isCharBoundary_iff {text : List Char} {count : Nat} (within : count ≤ byteLength text) :
    IsCharBoundary text count ↔ isContinuation ((encodeText text).getD count 0) = false := by
  induction text generalizing count with
  | nil =>
    cases Nat.le_zero.mp within
    exact iff_of_true ⟨[], [], rfl, rfl⟩ rfl
  | cons c rest ih =>
    obtain ⟨lead, tail, hbytes, hlead, htail, -⟩ := utf8EncodeChar_shape c
    have hsize : c.utf8Size = tail.length + 1 := by
      rw [← String.length_utf8EncodeChar, hbytes, length_cons]
    rw [byteLength_cons] at within
    cases count with
    | zero =>
      apply iff_of_true ⟨[], c :: rest, rfl, rfl⟩
      rw [encodeText_cons, hbytes]
      exact hlead
    | succ count =>
      rw [encodeText_cons, hbytes, cons_append, getD_cons_succ]
      by_cases hinside : count < tail.length
      · -- inside the first character
        rw [getD_append _ _ _ _ hinside, getD_eq_getElem _ _ hinside]
        rw [all_eq_true.mp htail _ (getElem_mem hinside)]
        apply iff_of_false _ (by decide)
        rintro ⟨front, back, htext, hlength⟩
        cases front with
        | nil => cases hlength
        | cons d front =>
          cases (List.cons.inj htext).1
          rw [byteLength_cons] at hlength
          omega
      · rw [getD_append_right _ _ _ _ (Nat.not_lt.mp hinside)]
        rw [← ih (by omega)]
        constructor
        · rintro ⟨front, back, htext, hlength⟩
          cases front with
          | nil => cases hlength
          | cons d front =>
            obtain ⟨rfl, hrest⟩ := List.cons.inj htext
            rw [byteLength_cons] at hlength
            exact ⟨front, back, hrest, by omega⟩
        · rintro ⟨front, back, rfl, hlength⟩
          refine ⟨c :: front, back, rfl, ?_⟩
          rw [byteLength_cons]
          omega

theorem exists_boundary_near {text : List Char} {count : Nat} (within : count ≤ byteLength text) :
    ∃ near ≤ count, count ≤ near + 3 ∧ IsCharBoundary text near := by
  induction text generalizing count with
  | nil =>
    cases Nat.le_zero.mp within
    exact ⟨0, Nat.le_refl 0, Nat.zero_le 3, [], [], rfl, rfl⟩
  | cons c rest ih =>
    have hfour := c.utf8Size_le_four
    rw [byteLength_cons] at within
    by_cases hinside : count < c.utf8Size
    · exact ⟨0, Nat.zero_le count, by omega, [], c :: rest, rfl, rfl⟩
    · obtain ⟨near, hnear, hfar, front, back, rfl, hlength⟩ :=
        @ih (count - c.utf8Size) (by omega)
      refine ⟨c.utf8Size + near, by omega, by omega, c :: front, back, rfl, ?_⟩
      rw [byteLength_cons, hlength]

theorem IsCharBoundary.split {text : List Char} {count : Nat} (boundary : IsCharBoundary text count) :
    ∃ front back, text = front ++ back ∧ (encodeText text).take count = encodeText front ∧
      (encodeText text).drop count = encodeText back := by
  obtain ⟨front, back, rfl, hlength⟩ := boundary
  rw [← length_encodeText] at hlength
  refine ⟨front, back, rfl, ?_, ?_⟩
  · rw [encodeText_append, ← hlength, take_left]
  · rw [encodeText_append, ← hlength, drop_left]

end Hypeterm.Library
