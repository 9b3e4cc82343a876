import Mathlib.Algebra.Group.Nat.Defs
import Mathlib.Data.List.Induction

/-! Fixed-width big-endian numbers, and fields that follow their length. -/
namespace Hypeterm.Library

open List

/-- The last `width` base-256 digits of a number, most significant first. -/
def toBeBytes : Nat → Nat → List UInt8
  | 0, _ => []
  | width + 1, n => toBeBytes width (n / 256) ++ [UInt8.ofNat n]

def fromBeBytes (bytes : List UInt8) : Nat :=
  bytes.foldl (fun value byte => value * 256 + byte.toNat) 0

@[simp] theorem length_toBeBytes (width n : Nat) : (toBeBytes width n).length = width := by
  induction width generalizing n with
  | zero => rfl
  | succ width ih => simp [toBeBytes, ih]

theorem fromBeBytes_concat (bytes : List UInt8) (byte : UInt8) :
    fromBeBytes (bytes ++ [byte]) = fromBeBytes bytes * 256 + byte.toNat := by
  simp [fromBeBytes]

theorem fromBeBytes_toBeBytes_mod (width n : Nat) :
    fromBeBytes (toBeBytes width n) = n % 256 ^ width := by
  induction width generalizing n with
  | zero =>
    rw [Nat.pow_zero, Nat.mod_one]
    rfl
  | succ width ih =>
    have hdigits : n % (256 * 256 ^ width) = n % 256 + 256 * (n / 256 % 256 ^ width) := Nat.mod_mul
    have hpower : 256 ^ (width + 1) = 256 * 256 ^ width := Nat.pow_succ'
    rw [toBeBytes, fromBeBytes_concat, ih, UInt8.toNat_ofNat', hpower, hdigits]
    omega

theorem fromBeBytes_toBeBytes {width n : Nat} (fits : n < 256 ^ width) :
    fromBeBytes (toBeBytes width n) = n := by
  rw [fromBeBytes_toBeBytes_mod, Nat.mod_eq_of_lt fits]

theorem toBeBytes_inj {width m n : Nat} (m_fits : m < 256 ^ width) (n_fits : n < 256 ^ width)
    (eq : toBeBytes width m = toBeBytes width n) : m = n := by
  have hvalue := congrArg fromBeBytes eq
  rwa [fromBeBytes_toBeBytes m_fits, fromBeBytes_toBeBytes n_fits] at hvalue

theorem fromBeBytes_lt (bytes : List UInt8) : fromBeBytes bytes < 256 ^ bytes.length := by
  induction bytes using reverseRecOn with
  | nil => exact Nat.one_pos
  | append_singleton bytes byte ih =>
    have hbyte := byte.toNat_lt
    rw [fromBeBytes_concat, length_append, length_singleton, Nat.pow_succ]
    omega

theorem toBeBytes_fromBeBytes (bytes : List UInt8) :
    toBeBytes bytes.length (fromBeBytes bytes) = bytes := by
  induction bytes using reverseRecOn with
  | nil => rfl
  | append_singleton bytes byte ih =>
    have hbyte := byte.toNat_lt
    have hfront : (fromBeBytes bytes * 256 + byte.toNat) / 256 = fromBeBytes bytes := by omega
    have hlast : UInt8.ofNat (fromBeBytes bytes * 256 + byte.toNat) = byte := by
      apply UInt8.toNat_inj.mp
      rw [UInt8.toNat_ofNat']
      omega
    rw [length_append, length_singleton, toBeBytes, fromBeBytes_concat, hfront, hlast, ih]

def lengthPrefixed (width : Nat) (fields : List (List UInt8)) : List UInt8 :=
  fields.flatMap fun field => toBeBytes width field.length ++ field

theorem lengthPrefixed_cons (width : Nat) (field : List UInt8) (fields : List (List UInt8)) :
    lengthPrefixed width (field :: fields) =
      toBeBytes width field.length ++ (field ++ lengthPrefixed width fields) := by
  simp [lengthPrefixed]

theorem field_append_inj {width : Nat} {first second rest rest' : List UInt8}
    (first_short : first.length < 256 ^ width) (second_short : second.length < 256 ^ width)
    (eq : toBeBytes width first.length ++ (first ++ rest) =
      toBeBytes width second.length ++ (second ++ rest')) : first = second ∧ rest = rest' := by
  obtain ⟨hlength, hbody⟩ := append_inj eq (by simp)
  exact append_inj hbody (toBeBytes_inj first_short second_short hlength)

theorem lengthPrefixed_inj {width : Nat} (positive : 0 < width) {fields others : List (List UInt8)}
    (fields_short : ∀ field ∈ fields, field.length < 256 ^ width)
    (others_short : ∀ field ∈ others, field.length < 256 ^ width)
    (eq : lengthPrefixed width fields = lengthPrefixed width others) : fields = others := by
  have hne : ∀ (field : List UInt8) (rest : List (List UInt8)),
      lengthPrefixed width (field :: rest) ≠ [] := by
    intro field rest hnil
    have hlength := congrArg List.length hnil
    rw [lengthPrefixed_cons, length_append, length_toBeBytes, length_nil] at hlength
    omega
  induction fields generalizing others with
  | nil =>
    cases others with
    | nil => rfl
    | cons field rest => exact absurd eq.symm (hne field rest)
  | cons field fields ih =>
    cases others with
    | nil => exact absurd eq (hne field fields)
    | cons other others =>
      rw [lengthPrefixed_cons, lengthPrefixed_cons] at eq
      obtain ⟨rfl, hrest⟩ := field_append_inj (fields_short field mem_cons_self)
        (others_short other mem_cons_self) eq
      rw [ih (fun field hfield => fields_short field (mem_cons_of_mem _ hfield))
        (fun field hfield => others_short field (mem_cons_of_mem _ hfield)) hrest]

end Hypeterm.Library
