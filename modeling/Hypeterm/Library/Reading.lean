import Mathlib.Data.List.Basic

/-! A reader that takes one item from the front of a stream, used until the stream ends. -/
namespace Hypeterm.Library

open List

variable {Byte Item Error : Type*}

/-- At most `fuel` items; as many as there are bytes will do when every item takes one. -/
def readAll (read : List Byte → Except Error (Item × List Byte)) :
    Nat → List Byte → Except Error (List Item)
  | _, [] => .ok []
  | 0, _ => .ok []
  | fuel + 1, bytes =>
      match read bytes with
      | .error error => .error error
      | .ok (item, rest) => (readAll read fuel rest).map (item :: ·)

variable {read : List Byte → Except Error (Item × List Byte)} {encode : Item → List Byte}

theorem readAll_of_ne_nil {fuel : Nat} {bytes : List Byte} (nonempty : bytes ≠ []) :
    readAll read (fuel + 1) bytes =
      match read bytes with
      | .error error => .error error
      | .ok (item, rest) => (readAll read fuel rest).map (item :: ·) := by
  cases bytes with
  | nil => exact absurd rfl nonempty
  | cons byte rest => rfl

theorem readAll_flatMap_iff {good : Item → Prop} {items : List Item}
    (exactly : ∀ item ∈ items, ∀ rest rest',
      read (encode item ++ rest) = .ok (item, rest') ↔ good item ∧ rest' = rest)
    (nonempty : ∀ item, encode item ≠ []) {fuel : Nat}
    (enough : (items.flatMap encode).length ≤ fuel) :
    readAll read fuel (items.flatMap encode) = .ok items ↔ ∀ item ∈ items, good item := by
  induction items generalizing fuel with
  | nil =>
    refine iff_of_true ?_ (fun item member => ?_)
    · cases fuel <;> rfl
    · cases member
  | cons item items ih =>
    have hpos := length_pos_iff.mpr (nonempty item)
    rw [flatMap_cons, length_append] at enough
    cases fuel with
    | zero => omega
    | succ fuel =>
      have hrest := @ih (fun other member => exactly other (mem_cons_of_mem _ member)) fuel
        (by omega)
      rw [flatMap_cons, readAll_of_ne_nil (by simp [nonempty item]), forall_mem_cons, ← hrest]
      have hexact := exactly item mem_cons_self (items.flatMap encode)
      constructor
      · intro hread
        cases htaken : read (encode item ++ items.flatMap encode) with
        | error error =>
          rw [htaken] at hread
          cases hread
        | ok taken =>
          rw [htaken] at hread
          dsimp only at hread
          cases hitems : readAll read fuel taken.2 with
          | error error =>
            rw [hitems] at hread
            cases hread
          | ok others =>
            rw [hitems] at hread
            cases hread
            obtain ⟨hgood, hsame⟩ := (hexact taken.2).mp htaken
            exact ⟨hgood, hsame ▸ hitems⟩
      · rintro ⟨hgood, hitems⟩
        rw [(hexact _).mpr ⟨hgood, rfl⟩]
        dsimp only
        rw [hitems]
        rfl

end Hypeterm.Library
