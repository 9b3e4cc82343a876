import Mathlib.Data.List.Basic

/-! URL-safe Base64.  Three bytes are four digits of six bits; one or two bytes at the
end are two or three digits whose unused bits are zero. -/
namespace Hypeterm.Library.Base64

open List

def alphabet : List Char :=
  "ABCDEFGHIJKLMNOPQRSTUVWXYZabcdefghijklmnopqrstuvwxyz0123456789-_".toList

def digit (value : Nat) : Char := alphabet.getD value 'A'

def digitValue (c : Char) : Option Nat := alphabet.idxOf? c

def encode : List UInt8 → List Char
  | [] => []
  | [a] => [digit (a.toNat / 4), digit (a.toNat % 4 * 16)]
  | [a, b] =>
      [digit (a.toNat / 4), digit (a.toNat % 4 * 16 + b.toNat / 16), digit (b.toNat % 16 * 4)]
  | a :: b :: c :: rest =>
      digit (a.toNat / 4) :: digit (a.toNat % 4 * 16 + b.toNat / 16) ::
        digit (b.toNat % 16 * 4 + c.toNat / 64) :: digit (c.toNat % 64) :: encode rest

def decodeDigits : List Nat → Option (List UInt8)
  | [] => some []
  | [_] => none
  | [w, x] => if x % 16 = 0 then some [UInt8.ofNat (w * 4 + x / 16)] else none
  | [w, x, y] =>
      if y % 4 = 0 then
        some [UInt8.ofNat (w * 4 + x / 16), UInt8.ofNat (x % 16 * 16 + y / 4)]
      else none
  | w :: x :: y :: z :: rest =>
      (decodeDigits rest).map fun bytes =>
        UInt8.ofNat (w * 4 + x / 16) :: UInt8.ofNat (x % 16 * 16 + y / 4) ::
          UInt8.ofNat (y % 4 * 64 + z) :: bytes

def decode (text : List Char) : Option (List UInt8) := (text.mapM digitValue).bind decodeDigits

def decodePadded (text : List Char) : Option (List UInt8) :=
  let body := text.takeWhile (· ≠ '=')
  if text.length % 4 = 0 ∧ text = body ++ List.replicate (text.length - body.length) '=' ∧
      text.length - body.length ≤ 2 then decode body
  else none

theorem digitValue_digit {value : Nat} (small : value < 64) : digitValue (digit value) = some value := by
  have hall : ∀ value < 64, digitValue (digit value) = some value := by decide +kernel
  exact hall value small

def digits : List UInt8 → List Nat
  | [] => []
  | [a] => [a.toNat / 4, a.toNat % 4 * 16]
  | [a, b] => [a.toNat / 4, a.toNat % 4 * 16 + b.toNat / 16, b.toNat % 16 * 4]
  | a :: b :: c :: rest =>
      a.toNat / 4 :: (a.toNat % 4 * 16 + b.toNat / 16) :: (b.toNat % 16 * 4 + c.toNat / 64) ::
        c.toNat % 64 :: digits rest

variable (bytes : List UInt8)

theorem encode_eq : encode bytes = (digits bytes).map digit := by
  induction bytes using encode.induct with
  | case1 | case2 | case3 => rfl
  | case4 a b c rest ih => simp [encode, digits, ih]

theorem digits_lt : ∀ value ∈ digits bytes, value < 64 := by
  induction bytes using digits.induct with
  | case1 => simp [digits]
  | case2 a =>
    have ha := a.toNat_lt
    simp only [digits, mem_cons, not_mem_nil, or_false]
    rintro value (rfl | rfl) <;> omega
  | case3 a b =>
    have ha := a.toNat_lt
    have hb := b.toNat_lt
    simp only [digits, mem_cons, not_mem_nil, or_false]
    rintro value (rfl | rfl | rfl) <;> omega
  | case4 a b c rest ih =>
    have ha := a.toNat_lt
    have hb := b.toNat_lt
    have hc := c.toNat_lt
    simp only [digits, mem_cons]
    rintro value (rfl | rfl | rfl | rfl | hrest)
    · omega
    · omega
    · omega
    · omega
    · exact ih value hrest

theorem ofNat_eq (byte : UInt8) {n : Nat} (eq : n = byte.toNat) : UInt8.ofNat n = byte := by
  rw [eq, UInt8.ofNat_toNat]

theorem decodeDigits_digits : decodeDigits (digits bytes) = some bytes := by
  induction bytes using digits.induct with
  | case1 => rfl
  | case2 a =>
    have hunused : a.toNat % 4 * 16 % 16 = 0 := by omega
    simp only [digits, decodeDigits, hunused, if_true]
    rw [ofNat_eq a (by omega)]
  | case3 a b =>
    have hb := b.toNat_lt
    have hunused : b.toNat % 16 * 4 % 4 = 0 := by omega
    simp only [digits, decodeDigits, hunused, if_true]
    rw [ofNat_eq a (by omega), ofNat_eq b (by omega)]
  | case4 a b c rest ih =>
    have hb := b.toNat_lt
    have hc := c.toNat_lt
    simp only [digits, decodeDigits, ih, Option.map_some]
    rw [ofNat_eq a (by omega), ofNat_eq b (by omega), ofNat_eq c (by omega)]

theorem mapM_digitValue {values : List Nat} (small : ∀ value ∈ values, value < 64) :
    (values.map digit).mapM digitValue = some values := by
  induction values with
  | nil => rfl
  | cons value values ih =>
    have hrest := ih fun other hother => small other (mem_cons_of_mem _ hother)
    rw [map_cons, mapM_cons, digitValue_digit (small value mem_cons_self), hrest]
    rfl

theorem decode_encode : decode (encode bytes) = some bytes := by
  rw [encode_eq, decode, mapM_digitValue (digits_lt bytes), Option.bind_some, decodeDigits_digits]

end Hypeterm.Library.Base64
