import Mathlib.Data.List.Lex
import Mathlib.Data.Nat.Digits.Defs

/-! Decimal numbers of a fixed width, and records of them with one character after each.
The text order of two such records is the order of their fields. -/
namespace Hypeterm.Library

open List

theorem append_lt_append_of_lt {α : Type*} [LT α] {first second : List α}
    (length_eq : first.length = second.length) (lt : first < second) (front back : List α) :
    first ++ front < second ++ back := by
  induction first generalizing second with
  | nil =>
    rw [length_nil] at length_eq
    rw [length_eq_zero_iff.mp length_eq.symm] at lt
    exact absurd lt (not_lt_nil _)
  | cons a first ih =>
    cases second with
    | nil => cases length_eq
    | cons b second =>
      rw [cons_append, cons_append]
      rcases cons_lt_cons_iff.mp lt with hlt | ⟨heq, hlt⟩
      · exact cons_lt_cons_iff.mpr (.inl hlt)
      · refine cons_lt_cons_iff.mpr (.inr ⟨heq, ih ?_ hlt⟩)
        simpa using length_eq

theorem append_lt_append_left {α : Type*} [LT α] (common : List α) {front back : List α}
    (lt : front < back) : common ++ front < common ++ back := by
  induction common with
  | nil => exact lt
  | cons a common ih =>
    rw [cons_append, cons_append]
    exact cons_lt_cons_iff.mpr (.inr ⟨rfl, ih⟩)

/-- The last `width` decimal digits, most significant first. -/
def decimal : Nat → Nat → List Char
  | 0, _ => []
  | width + 1, n => decimal width (n / 10) ++ [Nat.digitChar (n % 10)]

def decimalValue (text : List Char) : Nat :=
  text.foldl (fun value c => value * 10 + (c.toNat - '0'.toNat)) 0

@[simp] theorem length_decimal (width n : Nat) : (decimal width n).length = width := by
  induction width generalizing n with
  | zero => rfl
  | succ width ih => simp [decimal, ih]

theorem digitChar_spec (n : Nat) :
    (Nat.digitChar (n % 10)).isDigit = true ∧ (Nat.digitChar (n % 10)).toNat = n % 10 + 48 := by
  have hdigits : ∀ digit < 10,
      (Nat.digitChar digit).isDigit = true ∧ (Nat.digitChar digit).toNat = digit + 48 := by decide
  exact hdigits (n % 10) (Nat.mod_lt n (by decide))

theorem isDigit_decimal {width n : Nat} : ∀ c ∈ decimal width n, c.isDigit = true := by
  induction width generalizing n with
  | zero =>
    intro c hc
    cases hc
  | succ width ih =>
    intro c hc
    rcases mem_append.mp hc with hc | hc
    · exact ih c hc
    · rw [mem_singleton.mp hc]
      exact (digitChar_spec n).1

theorem decimalValue_decimal {width n : Nat} (fits : n < 10 ^ width) :
    decimalValue (decimal width n) = n := by
  induction width generalizing n with
  | zero =>
    rw [Nat.pow_zero] at fits
    simp only [decimal, decimalValue, foldl_nil]
    omega
  | succ width ih =>
    have hhigh : n / 10 < 10 ^ width := by
      rw [Nat.pow_succ] at fits
      exact Nat.div_lt_of_lt_mul (by omega)
    have hvalue := ih hhigh
    unfold decimalValue at hvalue ⊢
    rw [decimal, foldl_append, hvalue]
    simp only [foldl_cons, foldl_nil, (digitChar_spec n).2]
    have hzero : '0'.toNat = 48 := rfl
    omega

theorem decimal_lt_decimal {width m n : Nat} (fits : n < 10 ^ width) (lt : m < n) :
    decimal width m < decimal width n := by
  induction width generalizing m n with
  | zero =>
    rw [Nat.pow_zero] at fits
    omega
  | succ width ih =>
    have hhigh : n / 10 < 10 ^ width := by
      rw [Nat.pow_succ] at fits
      exact Nat.div_lt_of_lt_mul (by omega)
    by_cases hdiv : m / 10 < n / 10
    · exact append_lt_append_of_lt (by rw [length_decimal, length_decimal]) (ih hhigh hdiv) _ _
    · have hsame : m / 10 = n / 10 := by omega
      have hdigit : Nat.digitChar (m % 10) < Nat.digitChar (n % 10) := by
        rw [Char.lt_def, UInt32.lt_iff_toNat_lt]
        change (Nat.digitChar (m % 10)).toNat < (Nat.digitChar (n % 10)).toNat
        rw [(digitChar_spec m).2, (digitChar_spec n).2]
        omega
      rw [decimal, decimal, hsame]
      apply append_lt_append_left
      exact cons_lt_cons_iff.mpr (.inl hdigit)

def fieldsText : List (Nat × Char) → List Nat → List Char
  | (width, after) :: formats, value :: values =>
      decimal width value ++ after :: fieldsText formats values
  | _, _ => []

def readFields : List (Nat × Char) → List Char → Option (List Nat)
  | [], [] => some []
  | [], _ :: _ => none
  | (width, after) :: formats, text =>
      let field := text.take width
      if field.length = width ∧ field.all Char.isDigit ∧ (text.drop width).head? = some after then
        (readFields formats (text.drop (width + 1))).map (decimalValue field :: ·)
      else none

variable {formats : List (Nat × Char)}

theorem mem_fieldsText {values : List Nat} {c : Char}
    (mem : c ∈ fieldsText formats values) : c.isDigit = true ∨ c ∈ formats.map Prod.snd := by
  induction formats generalizing values with
  | nil => cases mem
  | cons format formats ih =>
    obtain ⟨width, after⟩ := format
    cases values with
    | nil => cases mem
    | cons value values =>
      rw [fieldsText, mem_append, mem_cons] at mem
      rcases mem with hdigit | rfl | hrest
      · exact .inl (isDigit_decimal c hdigit)
      · exact .inr mem_cons_self
      · exact (ih hrest).imp_right (mem_cons_of_mem _)

def Fit (formats : List (Nat × Char)) (values : List Nat) : Prop :=
  Forall₂ (fun format value => value < 10 ^ format.1) formats values

theorem readFields_fieldsText {values : List Nat}
    (fit : Fit formats values) : readFields formats (fieldsText formats values) = some values := by
  induction fit with
  | nil => rfl
  | @cons format value formats values fits _ ih =>
    obtain ⟨width, after⟩ := format
    have hfield : (fieldsText ((width, after) :: formats) (value :: values)).take width =
        decimal width value := by
      simp [fieldsText]
    have hrest : (fieldsText ((width, after) :: formats) (value :: values)).drop width =
        after :: fieldsText formats values := by
      simp [fieldsText]
    have hafter : (fieldsText ((width, after) :: formats) (value :: values)).drop (width + 1) =
        fieldsText formats values := by
      rw [← drop_drop, hrest]
      rfl
    have hdigits : (decimal width value).all Char.isDigit = true :=
      all_eq_true.mpr isDigit_decimal
    unfold readFields
    dsimp only
    rw [hfield, hrest, hafter, ih, decimalValue_decimal fits, if_pos]
    · rfl
    · exact ⟨length_decimal width value, hdigits, rfl⟩

theorem fieldsText_lt_fieldsText {values others : List Nat}
    (fit : Fit formats others) (length_eq : values.length = others.length) (lt : values < others) :
    fieldsText formats values < fieldsText formats others := by
  induction fit generalizing values with
  | nil =>
    rw [length_eq_zero_iff.mp length_eq] at lt
    exact absurd lt (lt_irrefl _)
  | @cons format other formats others fits fit ih =>
    obtain ⟨width, after⟩ := format
    cases values with
    | nil => cases length_eq
    | cons value values =>
      rcases cons_lt_cons_iff.mp lt with hlt | ⟨rfl, hlt⟩
      · exact append_lt_append_of_lt (by rw [length_decimal, length_decimal])
          (decimal_lt_decimal fits hlt) _ _
      · apply append_lt_append_left
        refine cons_lt_cons_iff.mpr (.inr ⟨rfl, ih ?_ hlt⟩)
        simpa using length_eq

end Hypeterm.Library
