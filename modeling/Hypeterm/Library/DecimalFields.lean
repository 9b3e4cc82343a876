import Mathlib.Data.List.GetD
import Mathlib.Tactic.Ring

/-! Text of decimal numbers in fields: two separators, the outer one between groups and the
inner one between the members of a group, and numbers that stop at a limit. -/
namespace Hypeterm.Library

open List

def decimalOf (digits : List Nat) : Nat := digits.foldl (fun value digit => value * 10 + digit) 0

theorem foldl_decimal (value : Nat) (digits : List Nat) :
    digits.foldl (fun value digit => value * 10 + digit) value =
      value * 10 ^ digits.length + decimalOf digits := by
  induction digits generalizing value with
  | nil => simp [decimalOf]
  | cons digit rest ih =>
    have hcons : decimalOf (digit :: rest) = digit * 10 ^ rest.length + decimalOf rest := by
      rw [decimalOf, foldl_cons, Nat.zero_mul, Nat.zero_add]
      exact ih digit
    rw [foldl_cons, ih, hcons, length_cons]
    ring

theorem decimalOf_append (front back : List Nat) :
    decimalOf (front ++ back) = decimalOf front * 10 ^ back.length + decimalOf back := by
  rw [decimalOf, foldl_append]
  exact foldl_decimal _ _

theorem decimalOf_eq_zero {digits : List Nat} : decimalOf digits = 0 ↔ ∀ digit ∈ digits, digit = 0 := by
  induction digits with
  | nil => exact iff_of_true rfl fun digit hdigit => by cases hdigit
  | cons digit rest ih =>
    have hcons : decimalOf (digit :: rest) = digit * 10 ^ rest.length + decimalOf rest :=
      decimalOf_append [digit] rest |>.trans (by simp [decimalOf])
    rw [hcons, Nat.add_eq_zero_iff, ih, forall_mem_cons]
    have hpower : 10 ^ rest.length ≠ 0 := Nat.ne_of_gt (Nat.pow_pos (by decide))
    rw [Nat.mul_eq_zero, or_iff_left hpower]

def saturate (limit value digit : Nat) : Nat := min limit (value * 10 + digit)

theorem foldl_saturate (limit value : Nat) (digits : List Nat) :
    digits.foldl (saturate limit) (min limit value) =
      min limit (digits.foldl (fun value digit => value * 10 + digit) value) := by
  induction digits generalizing value with
  | nil => rfl
  | cons digit rest ih =>
    rw [foldl_cons, foldl_cons, ← ih]
    congr 1
    unfold saturate
    omega

theorem foldl_saturate_zero (limit : Nat) (digits : List Nat) :
    digits.foldl (saturate limit) 0 = min limit (decimalOf digits) := by
  have hfolded := foldl_saturate limit 0 digits
  rwa [Nat.min_zero] at hfolded

theorem min_decimalOf_append_iff {limit : Nat} {front back : List Nat} (more : back ≠ []) :
    min limit (decimalOf (front ++ back)) = min limit (decimalOf front) ↔
      limit ≤ decimalOf front ∨ decimalOf front = 0 ∧ ∀ digit ∈ back, digit = 0 := by
  rw [← @decimalOf_eq_zero back, decimalOf_append]
  have hpower : 10 ≤ 10 ^ back.length := by
    apply Nat.le_self_pow
    rw [Ne, length_eq_zero_iff]
    exact more
  have hgrow := Nat.mul_le_mul_left (decimalOf front) hpower
  constructor
  · intro hsame
    by_cases hlimit : limit ≤ decimalOf front
    · exact .inl hlimit
    · exact .inr ⟨by omega, by omega⟩
  · rintro (hlimit | ⟨hfront, hback⟩)
    · omega
    · rw [hfront, hback, Nat.zero_mul]

variable {Symbol : Type} [BEq Symbol] {outer inner symbol : Symbol}

/-- What stands between two separators, nothing beyond the last one. -/
def piece (separator : Symbol) (text : List Symbol) (i : Nat) : List Symbol :=
  (text.splitOn separator).getD i []

variable (separator : Symbol)

theorem piece_nil (i : Nat) : piece separator [] i = [] := by
  cases i <;> rfl

def field (outer inner : Symbol) (text : List Symbol) (i j : Nat) : List Symbol :=
  piece inner (piece outer text i) j

theorem field_nil (i j : Nat) : field outer inner [] i j = [] := by
  rw [field, piece_nil, piece_nil]

theorem length_splitOn (text : List Symbol) :
    (text.splitOn separator).length = text.count separator + 1 := by
  induction text with
  | nil => rfl
  | cons symbol rest ih =>
    rw [splitOn_cons_eq_if_modifyHead, count_cons]
    split
    · rw [length_cons, ih]
    · rw [length_modifyHead, ih]

variable [LawfulBEq Symbol]

theorem piece_separator_zero (text : List Symbol) : piece separator (separator :: text) 0 = [] := by
  rw [piece, splitOn_cons_eq_if_modifyHead, if_pos (beq_self_eq_true _)]
  rfl

theorem piece_separator_succ (text : List Symbol) (i : Nat) :
    piece separator (separator :: text) (i + 1) = piece separator text i := by
  rw [piece, splitOn_cons_eq_if_modifyHead, if_pos (beq_self_eq_true _)]
  rfl

theorem piece_cons_zero {separator : Symbol} (other : symbol ≠ separator) (text : List Symbol) :
    piece separator (symbol :: text) 0 = symbol :: piece separator text 0 := by
  unfold piece
  rw [splitOn_cons_eq_if_modifyHead, if_neg (by simpa using other)]
  have hsome := splitOn_ne_nil separator text
  cases hsplit : text.splitOn separator with
  | nil => exact absurd hsplit hsome
  | cons first rest => rfl

theorem piece_cons_succ {separator : Symbol} (other : symbol ≠ separator) (text : List Symbol)
    (i : Nat) : piece separator (symbol :: text) (i + 1) = piece separator text (i + 1) := by
  unfold piece
  rw [splitOn_cons_eq_if_modifyHead, if_neg (by simpa using other)]
  cases text.splitOn separator with
  | nil => rfl
  | cons first rest => rfl

theorem field_outer_zero (text : List Symbol) (j : Nat) :
    field outer inner (outer :: text) 0 j = [] := by
  rw [field, piece_separator_zero, piece_nil]

theorem field_outer_succ (text : List Symbol) (i j : Nat) :
    field outer inner (outer :: text) (i + 1) j = field outer inner text i j := by
  rw [field, piece_separator_succ]
  rfl

theorem field_inner_zero (distinct : inner ≠ outer) (text : List Symbol) :
    field outer inner (inner :: text) 0 0 = [] := by
  rw [field, piece_cons_zero distinct, piece_separator_zero]

theorem field_inner_succ (distinct : inner ≠ outer) (text : List Symbol) (j : Nat) :
    field outer inner (inner :: text) 0 (j + 1) = field outer inner text 0 j := by
  rw [field, piece_cons_zero distinct, piece_separator_succ]
  rfl

theorem field_cons_group (other : symbol ≠ outer) (text : List Symbol) (i j : Nat) :
    field outer inner (symbol :: text) (i + 1) j = field outer inner text (i + 1) j := by
  rw [field, piece_cons_succ other]
  rfl

theorem field_cons_zero (other : symbol ≠ outer) (inside : symbol ≠ inner) (text : List Symbol) :
    field outer inner (symbol :: text) 0 0 = symbol :: field outer inner text 0 0 := by
  rw [field, piece_cons_zero other, piece_cons_zero inside]
  rfl

theorem field_cons_succ (other : symbol ≠ outer) (inside : symbol ≠ inner) (text : List Symbol)
    (j : Nat) : field outer inner (symbol :: text) 0 (j + 1) = field outer inner text 0 (j + 1) := by
  rw [field, piece_cons_zero other, piece_cons_succ inside]
  rfl

end Hypeterm.Library
