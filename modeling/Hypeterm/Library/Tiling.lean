import Mathlib.Data.List.Basic

/-! Lists that are cut into single elements and adjacent pairs, and where they may be cut. -/
namespace Hypeterm.Library

open List

/-- What stands alone, what begins a pair and what ends one. -/
structure Pairing (α : Type*) where
  single : α → Prop
  first : α → Prop
  second : α → Prop
  single_not_first : ∀ a, single a → ¬first a
  single_not_second : ∀ a, single a → ¬second a
  first_not_second : ∀ a, first a → ¬second a

variable {α : Type*} {tiles : Pairing α}

inductive Tiled (tiles : Pairing α) : List α → Prop
  | nil : Tiled tiles []
  | single {a : α} {rest : List α} (alone : tiles.single a) (tail : Tiled tiles rest) :
      Tiled tiles (a :: rest)
  | pair {a b : α} {rest : List α} (first : tiles.first a) (second : tiles.second b)
      (tail : Tiled tiles rest) : Tiled tiles (a :: b :: rest)

namespace Tiled

theorem append {front back : List α} (left : Tiled tiles front) (right : Tiled tiles back) :
    Tiled tiles (front ++ back) := by
  induction left with
  | nil => exact right
  | single alone _ ih => exact .single alone ih
  | pair first second _ ih => exact .pair first second ih

variable {elements : List α}

theorem of_forall (alone : ∀ a ∈ elements, tiles.single a) : Tiled tiles elements := by
  induction elements with
  | nil => exact .nil
  | cons a rest ih =>
    refine .single (alone a mem_cons_self) (ih ?_)
    exact fun b hb => alone b (mem_cons_of_mem _ hb)

theorem replicate {a : α} (alone : tiles.single a) (count : Nat) :
    Tiled tiles (List.replicate count a) := by
  refine of_forall fun b hb => ?_
  rw [eq_of_mem_replicate hb]
  exact alone

theorem split {front back : List α} (tiled : Tiled tiles (front ++ back))
    (clean : ∀ a ∈ back.head?, ¬tiles.second a) : Tiled tiles front ∧ Tiled tiles back := by
  generalize hwhole : front ++ back = whole at tiled
  induction tiled generalizing front with
  | nil =>
    obtain ⟨rfl, rfl⟩ := append_eq_nil_iff.mp hwhole
    exact ⟨.nil, .nil⟩
  | single alone tail ih =>
    cases front with
    | nil =>
      rw [nil_append] at hwhole
      exact ⟨.nil, hwhole ▸ .single alone tail⟩
    | cons a front =>
      obtain ⟨rfl, hrest⟩ := List.cons.inj hwhole
      obtain ⟨hfront, hback⟩ := ih hrest
      exact ⟨.single alone hfront, hback⟩
  | pair first second tail ih =>
    match front with
    | [] =>
      rw [nil_append] at hwhole
      exact ⟨.nil, hwhole ▸ .pair first second tail⟩
    | [a] =>
      rw [singleton_append, List.cons.injEq] at hwhole
      exact absurd second (clean _ (by rw [hwhole.2]; rfl))
    | a :: b :: front =>
      rw [cons_append, cons_append, List.cons.injEq, List.cons.injEq] at hwhole
      obtain ⟨rfl, rfl, hrest⟩ := hwhole
      obtain ⟨hfront, hback⟩ := ih hrest
      exact ⟨.pair first second hfront, hback⟩

section

variable (tiled : Tiled tiles elements)
include tiled

theorem cut {index : Nat} (clean : ∀ a ∈ elements[index]?, ¬tiles.second a) :
    Tiled tiles (elements.take index) ∧ Tiled tiles (elements.drop index) := by
  refine split ?_ ?_
  · rwa [take_append_drop]
  · rwa [head?_drop]

theorem head_not_second {a : α} (head : elements.head? = some a) : ¬tiles.second a := by
  cases tiled with
  | nil => cases head
  | single alone _ =>
    cases head
    exact tiles.single_not_second a alone
  | pair first _ _ =>
    cases head
    exact tiles.first_not_second a first

theorem kinds {a : α} (mem : a ∈ elements) : tiles.single a ∨ tiles.first a ∨ tiles.second a := by
  induction tiled with
  | nil => cases mem
  | single alone _ ih =>
    rcases mem_cons.mp mem with rfl | hrest
    · exact .inl alone
    · exact ih hrest
  | pair first second _ ih =>
    rcases mem_cons.mp mem with rfl | hrest
    · exact .inr (Or.inl first)
    rcases mem_cons.mp hrest with rfl | hrest
    · exact .inr (Or.inr second)
    · exact ih hrest

theorem around {index : Nat} (inside : index < elements.length) :
    ∃ front back, Tiled tiles front ∧ Tiled tiles back ∧
      ((∃ a, tiles.single a ∧ elements = front ++ a :: back ∧ index = front.length) ∨
        ∃ a b, tiles.first a ∧ tiles.second b ∧ elements = front ++ a :: b :: back ∧
          (index = front.length ∨ index = front.length + 1)) := by
  induction tiled generalizing index with
  | nil => cases inside
  | @single one rest alone tail ih =>
    cases index with
    | zero => exact ⟨[], rest, .nil, tail, .inl ⟨one, alone, rfl, rfl⟩⟩
    | succ index =>
      obtain ⟨front, back, hfront, hback, hplace⟩ := ih (Nat.lt_of_succ_lt_succ inside)
      refine ⟨one :: front, back, .single alone hfront, hback, ?_⟩
      rcases hplace with ⟨a, ha, rfl, rfl⟩ | ⟨a, b, ha, hb, rfl, hindex⟩
      · exact .inl ⟨a, ha, rfl, rfl⟩
      · refine .inr ⟨a, b, ha, hb, rfl, ?_⟩
        simp only [length_cons]
        omega
  | @pair one two rest first second tail ih =>
    match index with
    | 0 => exact ⟨[], rest, .nil, tail, .inr ⟨one, two, first, second, rfl, .inl rfl⟩⟩
    | 1 => exact ⟨[], rest, .nil, tail, .inr ⟨one, two, first, second, rfl, .inr rfl⟩⟩
    | index + 2 =>
      obtain ⟨front, back, hfront, hback, hplace⟩ :=
        ih (Nat.lt_of_succ_lt_succ (Nat.lt_of_succ_lt_succ inside))
      refine ⟨one :: two :: front, back, .pair first second hfront, hback, ?_⟩
      rcases hplace with ⟨a, ha, rfl, rfl⟩ | ⟨a, b, ha, hb, rfl, hindex⟩
      · exact .inl ⟨a, ha, rfl, rfl⟩
      · refine .inr ⟨a, b, ha, hb, rfl, ?_⟩
        simp only [length_cons]
        omega

theorem first_iff {index : Nat} {a : α} (here : elements[index]? = some a) :
    tiles.first a ↔ ∃ b, elements[index + 1]? = some b ∧ tiles.second b := by
  induction tiled generalizing index with
  | nil => cases here
  | @single other rest alone tail ih =>
    cases index with
    | succ index => exact ih here
    | zero =>
      cases here
      refine iff_of_false (tiles.single_not_first _ alone) ?_
      rintro ⟨b, hnext, hb⟩
      exact tail.head_not_second (head?_eq_getElem?.trans hnext) hb
  | @pair one two rest first second tail ih =>
    match index with
    | 0 =>
      cases here
      exact iff_of_true first ⟨two, rfl, second⟩
    | 1 =>
      cases here
      refine iff_of_false (fun hfirst => tiles.first_not_second _ hfirst second) ?_
      rintro ⟨b, hnext, hb⟩
      exact tail.head_not_second (head?_eq_getElem?.trans hnext) hb
    | index + 2 => exact ih here

theorem second_follows {index : Nat} {b : α}
    (here : elements[index]? = some b) (second : tiles.second b) :
    ∃ before a, index = before + 1 ∧ elements[before]? = some a ∧ tiles.first a := by
  induction tiled generalizing index with
  | nil => cases here
  | single alone tail ih =>
    cases index with
    | zero =>
      cases here
      exact absurd second (tiles.single_not_second _ alone)
    | succ index =>
      obtain ⟨before, a, rfl, ha, hfirst⟩ := ih here
      exact ⟨before + 1, a, rfl, ha, hfirst⟩
  | @pair one two rest first _ tail ih =>
    match index with
    | 0 =>
      cases here
      exact absurd second (tiles.first_not_second _ first)
    | 1 => exact ⟨0, one, rfl, rfl, first⟩
    | index + 2 =>
      obtain ⟨before, a, rfl, ha, hfirst⟩ := ih here
      exact ⟨before + 2, a, rfl, ha, hfirst⟩

end

end Tiled

end Hypeterm.Library
