import Mathlib.Algebra.GroupWithZero.Nat
import Mathlib.Algebra.BigOperators.Group.List.Basic

/-! Slices of UTF-8 text by byte counts.  A slice that would cut a character apart, or that
reaches past the end, does not exist. -/
namespace Hypeterm.Library

def byteLength (text : List Char) : Nat := (text.map Char.utf8Size).sum

@[simp] theorem byteLength_cons (c : Char) (text : List Char) :
    byteLength (c :: text) = c.utf8Size + byteLength text := by
  simp [byteLength]

def sliceTo : List Char → Nat → Option (List Char)
  | _, 0 => some []
  | [], _ + 1 => none
  | c :: rest, count + 1 =>
      if c.utf8Size ≤ count + 1 then
        (sliceTo rest (count + 1 - c.utf8Size)).map (c :: ·)
      else none

/-- Some characters at the front have just that many bytes. -/
def IsCharBoundary (text : List Char) (count : Nat) : Prop :=
  ∃ front back, text = front ++ back ∧ byteLength front = count

theorem sliceTo_byteLength (front back : List Char) :
    sliceTo (front ++ back) (byteLength front) = some front := by
  induction front with
  | nil =>
    cases back with
    | nil => rfl
    | cons => rfl
  | cons c rest ih =>
    have hpos := c.utf8Size_pos
    obtain ⟨count, hcount⟩ : ∃ count, c.utf8Size + byteLength rest = count + 1 :=
      ⟨c.utf8Size + byteLength rest - 1, by omega⟩
    rw [byteLength_cons, hcount, List.cons_append, sliceTo, if_pos (by omega), ← hcount,
      Nat.add_sub_cancel_left, ih]
    rfl

theorem sliceTo_spec {text front : List Char} {count : Nat} (cut : sliceTo text count = some front) :
    ∃ back, text = front ++ back ∧ byteLength front = count := by
  induction text generalizing front count with
  | nil =>
    cases count with
    | zero =>
      cases cut
      exact ⟨[], rfl, rfl⟩
    | succ => cases cut
  | cons c rest ih =>
    cases count with
    | zero =>
      cases cut
      exact ⟨c :: rest, rfl, rfl⟩
    | succ count =>
      rw [sliceTo] at cut
      split at cut
      · rename_i hfits
        obtain ⟨front', hcut, rfl⟩ := Option.map_eq_some_iff.mp cut
        obtain ⟨back, rfl, hlength⟩ := ih hcut
        exact ⟨back, rfl, by rw [byteLength_cons]; omega⟩
      · cases cut

theorem isSome_sliceTo {text : List Char} {count : Nat} :
    (sliceTo text count).isSome = true ↔ IsCharBoundary text count := by
  constructor
  · intro hsome
    obtain ⟨front, hcut⟩ := Option.isSome_iff_exists.mp hsome
    obtain ⟨back, htext, hlength⟩ := sliceTo_spec hcut
    exact ⟨front, back, htext, hlength⟩
  · rintro ⟨front, back, rfl, rfl⟩
    rw [sliceTo_byteLength]
    rfl

instance (text : List Char) (count : Nat) : Decidable (IsCharBoundary text count) :=
  decidable_of_iff _ isSome_sliceTo

theorem isCharBoundary_byteLength (text : List Char) : IsCharBoundary text (byteLength text) :=
  ⟨text, [], (List.append_nil text).symm, rfl⟩

end Hypeterm.Library
