import Mathlib.Data.List.DropRight
import Mathlib.Data.List.Flatten

/-! Lines that are cut into pieces, and when trimming every piece on its own loses nothing. -/
namespace Hypeterm.Library

open List

variable {α β : Type}

/-- A line ends with the first row that does not go on, the last one at the end. -/
def linesBy (goesOn : β → Bool) : List β → List (List β)
  | [] => []
  | row :: rest =>
      match goesOn row, linesBy goesOn rest with
      | true, line :: others => (row :: line) :: others
      | _, others => [row] :: others

def joinedBy (goesOn : β → Bool) (separator : List α) (read : β → List α) : List β → List α
  | [] => []
  | [row] => read row
  | row :: rest =>
      read row ++ (if goesOn row then [] else separator) ++ joinedBy goesOn separator read rest

section Lines

variable {goesOn : β → Bool} {separator : List α}

theorem linesBy_cons_ne_nil (row : β) (rest : List β) : linesBy goesOn (row :: rest) ≠ [] := by
  unfold linesBy
  split
  · exact cons_ne_nil _ _
  · exact cons_ne_nil _ _

theorem mem_of_mem_linesBy {rows line : List β} (member : line ∈ linesBy goesOn rows) :
    ∀ row ∈ line, row ∈ rows := by
  induction rows generalizing line with
  | nil => cases member
  | cons first rest ih =>
    unfold linesBy at member
    split at member
    · rename_i hlines
      rw [hlines] at ih
      rcases mem_cons.mp member with rfl | hother
      · intro row hrow
        rcases mem_cons.mp hrow with rfl | hrow
        · exact mem_cons_self
        · exact mem_cons_of_mem _ (ih mem_cons_self row hrow)
      · exact fun row hrow => mem_cons_of_mem _ (ih (mem_cons_of_mem _ hother) row hrow)
    · rcases mem_cons.mp member with rfl | hother
      · exact fun row hrow => mem_singleton.mp hrow ▸ mem_cons_self
      · exact fun row hrow => mem_cons_of_mem _ (ih hother row hrow)

theorem joinedBy_cons_cons (read : β → List α) (row next : β) (rest : List β) :
    joinedBy goesOn separator read (row :: next :: rest) =
      read row ++ (if goesOn row then [] else separator) ++
        joinedBy goesOn separator read (next :: rest) := rfl

theorem joinedBy_eq_intercalate (read : β → List α) (rows : List β) :
    joinedBy goesOn separator read rows =
      separator.intercalate ((linesBy goesOn rows).map fun line => line.flatMap read) := by
  induction rows with
  | nil => rfl
  | cons row rest ih =>
    cases rest with
    | nil =>
      cases hgoes : goesOn row <;> simp [joinedBy, linesBy, hgoes, intercalate_singleton]
    | cons next others =>
      obtain ⟨line, more, hlines⟩ :=
        exists_cons_of_ne_nil (@linesBy_cons_ne_nil _ goesOn next others)
      rw [hlines] at ih
      rw [joinedBy_cons_cons, ih]
      unfold linesBy
      rw [hlines]
      cases goesOn row with
      | false =>
        rw [map_cons, map_cons, map_cons, intercalate_cons_cons,
          flatMap_singleton, if_neg Bool.false_ne_true]
      | true =>
        rw [map_cons, map_cons, if_pos rfl, append_nil, flatMap_cons]
        cases more with
        | nil => rw [map_nil, intercalate_singleton, intercalate_singleton]
        | cons =>
          rw [map_cons, intercalate_cons_cons, intercalate_cons_cons]
          simp only [append_assoc]

variable {short long : β → List α} (shorter : ∀ line, (short line).length ≤ (long line).length)

include shorter

theorem length_intercalate_le (lines : List β) : (separator.intercalate (lines.map short)).length ≤
      (separator.intercalate (lines.map long)).length := by
  induction lines with
  | nil => exact Nat.le_refl _
  | cons line rest ih =>
    have hline := shorter line
    cases rest with
    | nil => simpa only [map_cons, map_nil, intercalate_singleton] using hline
    | cons next others =>
      rw [map_cons, map_cons] at ih ⊢
      rw [map_cons, map_cons, intercalate_cons_cons, intercalate_cons_cons]
      simp only [length_append]
      omega

theorem intercalate_eq_iff (lines : List β) :
    separator.intercalate (lines.map short) = separator.intercalate (lines.map long) ↔
      ∀ line ∈ lines, short line = long line := by
  induction lines with
  | nil => exact ⟨fun _ _ member => absurd member not_mem_nil, fun _ => rfl⟩
  | cons line rest ih =>
    rw [forall_mem_cons, ← ih]
    cases rest with
    | nil => simp only [map_cons, map_nil, intercalate_singleton, and_true]
    | cons next others =>
      have hline := shorter line
      have hrest := @length_intercalate_le _ _ separator _ _ shorter (next :: others)
      rw [map_cons, map_cons] at hrest ⊢
      rw [map_cons, map_cons, intercalate_cons_cons, intercalate_cons_cons]
      constructor
      · intro hsame
        have hlength := congrArg List.length hsame
        simp only [length_append] at hlength
        obtain ⟨hfirst, hothers⟩ := append_inj hsame (by simp only [length_append]; omega)
        exact ⟨append_cancel_right hfirst, hothers⟩
      · rintro ⟨hfirst, hothers⟩
        rw [hfirst, hothers]

end Lines

/-- Only `text` is read; what is around it belongs to the piece as well. -/
structure Piece (α : Type) where
  front : List α := []
  text : List α
  back : List α := []

namespace Piece

def whole (piece : Piece α) : List α := piece.front ++ piece.text ++ piece.back

variable (blank : α → Bool)

def kept (piece : Piece α) : List α := piece.text.rdropWhile blank

/-- Trimming the pieces one by one loses nothing but blanks at the end of the line. -/
def Intact : List (Piece α) → Prop
  | [] => True
  | piece :: rest =>
      (if ∀ element ∈ rest.flatMap whole, blank element = true then
        (∀ element ∈ piece.whole, blank element = true) ∨
          (piece.front = [] ∧ ∀ element ∈ piece.back, blank element = true)
      else piece.front = [] ∧ piece.back = [] ∧ piece.kept blank = piece.text) ∧
        Intact rest

variable {blank} {piece : Piece α} {front back : List α}

theorem rdropWhile_append_blank (hblank : ∀ element ∈ back, blank element = true) :
    (front ++ back).rdropWhile blank = front.rdropWhile blank := by
  induction back using reverseRecOn with
  | nil => rw [append_nil]
  | append_singleton init last ih =>
    rw [← append_assoc, rdropWhile_concat_pos _ _ _ (hblank last (by simp))]
    exact ih fun element member => hblank element (by simp [member])

theorem rdropWhile_append_some (hsome : ¬∀ element ∈ back, blank element = true) :
    (front ++ back).rdropWhile blank = front ++ back.rdropWhile blank := by
  induction back using reverseRecOn with
  | nil => exact absurd (fun _ member => absurd member not_mem_nil) hsome
  | append_singleton init last ih =>
    rw [← append_assoc]
    by_cases hlast : blank last = true
    · rw [rdropWhile_concat_pos _ _ _ hlast, rdropWhile_concat_pos _ _ _ hlast]
      apply ih
      intro hinit
      apply hsome
      intro element member
      rcases mem_append.mp member with hmember | hmember
      · exact hinit element hmember
      · rw [mem_singleton.mp hmember]
        exact hlast
    · rw [rdropWhile_concat_neg _ _ _ hlast, rdropWhile_concat_neg _ _ _ hlast, append_assoc]

theorem length_rdropWhile_pos (hsome : ¬∀ element ∈ back, blank element = true) :
    0 < (back.rdropWhile blank).length := by
  rw [length_pos_iff]
  exact fun hnil => hsome (rdropWhile_eq_nil_iff.mp hnil)

theorem length_kept_le (piece : Piece α) : (piece.kept blank).length ≤ piece.text.length :=
  ( rdropWhile_prefix _ _).length_le

theorem length_whole (piece : Piece α) :
    piece.whole.length = piece.front.length + piece.text.length + piece.back.length := by
  rw [whole, length_append, length_append]

theorem rdropWhile_whole (piece : Piece α) : piece.whole.rdropWhile blank =
      if ∀ element ∈ piece.back, blank element = true then
        if ∀ element ∈ piece.text, blank element = true then piece.front.rdropWhile blank
        else piece.front ++ piece.kept blank
      else piece.front ++ piece.text ++ piece.back.rdropWhile blank := by
  unfold whole
  split
  · rename_i hback
    rw [rdropWhile_append_blank hback]
    split
    · rename_i htext
      exact rdropWhile_append_blank htext
    · rename_i htext
      exact rdropWhile_append_some htext
  · rename_i hback
    exact rdropWhile_append_some hback

theorem kept_eq_nil (hblank : ∀ element ∈ piece.whole, blank element = true) :
    piece.kept blank = [] := by
  apply rdropWhile_eq_nil_iff.mpr
  intro element member
  apply hblank
  exact mem_append_left _ (mem_append_right _ member)

theorem length_kept_le_whole (piece : Piece α) :
    (piece.kept blank).length ≤ (piece.whole.rdropWhile blank).length := by
  rw [rdropWhile_whole]
  have hkept : (piece.kept blank).length ≤ piece.text.length := piece.length_kept_le
  split
  · split
    · rename_i htext
      rw [kept, rdropWhile_eq_nil_iff.mpr htext]
      exact Nat.zero_le _
    · rw [length_append]
      omega
  · rw [length_append, length_append]
    omega

theorem rdropWhile_line_cons (piece : Piece α) (rest : List (Piece α)) :
    ((piece :: rest).flatMap whole).rdropWhile blank =
      if ∀ element ∈ rest.flatMap whole, blank element = true then piece.whole.rdropWhile blank
      else piece.whole ++ (rest.flatMap whole).rdropWhile blank := by
  rw [flatMap_cons]
  split
  · rename_i hrest
    exact rdropWhile_append_blank hrest
  · rename_i hrest
    exact rdropWhile_append_some hrest

theorem kept_line_eq_nil {line : List (Piece α)}
    (hblank : ∀ element ∈ line.flatMap whole, blank element = true) :
    line.flatMap (kept blank) = [] := by
  rw [flatMap_eq_nil_iff]
  intro piece member
  apply kept_eq_nil
  exact fun element hmember => hblank element (mem_flatMap.mpr ⟨piece, member, hmember⟩)

theorem length_kept_line_le (line : List (Piece α)) :
    (line.flatMap (kept blank)).length ≤ ((line.flatMap whole).rdropWhile blank).length := by
  induction line with
  | nil => exact Nat.zero_le _
  | cons piece rest ih =>
    rw [rdropWhile_line_cons, flatMap_cons]
    have hkept : (piece.kept blank).length ≤ piece.text.length := piece.length_kept_le
    have hwhole := piece.length_whole
    split
    · rename_i hrest
      rw [kept_line_eq_nil hrest, append_nil]
      exact piece.length_kept_le_whole
    · rw [length_append, length_append]
      omega

theorem intact_of_blank {line : List (Piece α)}
    (hblank : ∀ element ∈ line.flatMap whole, blank element = true) : Intact blank line := by
  induction line with
  | nil => exact trivial
  | cons piece rest ih =>
    rw [flatMap_cons] at hblank
    have hrest : ∀ element ∈ rest.flatMap whole, blank element = true :=
      fun element member => hblank element (mem_append_right _ member)
    refine ⟨?_, ih hrest⟩
    rw [if_pos hrest]
    exact .inl fun element member => hblank element (mem_append_left _ member)

theorem kept_eq_trimmed_iff (piece : Piece α) : piece.kept blank = piece.whole.rdropWhile blank ↔
      (∀ element ∈ piece.whole, blank element = true) ∨
        (piece.front = [] ∧ ∀ element ∈ piece.back, blank element = true) := by
  constructor
  · intro hkept
    have hlength := congrArg List.length hkept
    have hshort : (piece.kept blank).length ≤ piece.text.length := piece.length_kept_le
    rw [rdropWhile_whole] at hkept hlength
    split at hkept
    · rename_i hback
      rw [if_pos hback] at hlength
      split at hkept
      · rename_i htext
        left
        rw [kept, rdropWhile_eq_nil_iff.mpr htext] at hkept
        have hfront := rdropWhile_eq_nil_iff.mp hkept.symm
        intro element member
        rcases mem_append.mp member with hmember | hmember
        · rcases mem_append.mp hmember with hmember | hmember
          · exact hfront element hmember
          · exact htext element hmember
        · exact hback element hmember
      · rename_i htext
        rw [if_neg htext, length_append] at hlength
        exact .inr ⟨length_eq_zero_iff.mp (by omega), hback⟩
    · rename_i hback
      have hpositive := length_rdropWhile_pos hback
      rw [if_neg hback, length_append, length_append] at hlength
      omega
  · rintro (hblank | ⟨hfront, hback⟩)
    · rw [kept_eq_nil hblank, rdropWhile_eq_nil_iff.mpr hblank]
    · rw [whole, hfront, nil_append, rdropWhile_append_blank hback, kept]

theorem kept_eq_whole_iff (piece : Piece α) : piece.kept blank = piece.whole ↔
      piece.front = [] ∧ piece.back = [] ∧ piece.kept blank = piece.text := by
  constructor
  · intro hkept
    have hlength := congrArg List.length hkept
    have hshort : (piece.kept blank).length ≤ piece.text.length := piece.length_kept_le
    rw [length_whole] at hlength
    have hfront : piece.front = [] := length_eq_zero_iff.mp (by omega)
    have hback : piece.back = [] := length_eq_zero_iff.mp (by omega)
    rw [whole, hfront, hback, nil_append, append_nil] at hkept
    exact ⟨hfront, hback, hkept⟩
  · rintro ⟨hfront, hback, hkept⟩
    rw [whole, hfront, hback, nil_append, append_nil, hkept]

theorem kept_line_eq_iff (line : List (Piece α)) :
    line.flatMap (kept blank) = (line.flatMap whole).rdropWhile blank ↔ Intact blank line := by
  induction line with
  | nil => exact ⟨fun _ => trivial, fun _ => rfl⟩
  | cons piece rest ih =>
    rw [rdropWhile_line_cons, flatMap_cons]
    unfold Intact
    split
    · rename_i hrest
      rw [kept_line_eq_nil hrest, append_nil, kept_eq_trimmed_iff]
      exact (and_iff_left (intact_of_blank hrest)).symm
    · rename_i hrest
      rw [← kept_eq_whole_iff, ← ih]
      constructor
      · intro hsame
        -- neither side can be shorter
        have hlength := congrArg List.length hsame
        have hkept : (piece.kept blank).length ≤ piece.text.length := piece.length_kept_le
        have hwhole := piece.length_whole
        have hline := @length_kept_line_le _ blank rest
        rw [length_append, length_append] at hlength
        exact append_inj hsame (by omega)
      · rintro ⟨hpiece, hrest⟩
        rw [hpiece, hrest]

end Piece

end Hypeterm.Library
