import Hypeterm.Term.Resize

/-! A law that holds of every row goes on to hold when rows only move, leave or are replaced by
blank ones. -/
namespace Hypeterm.Term
open Library Checked

structure Line.Law (law : Line → Prop) : Prop where
  empty : law default
  blank : ∀ (width : Nat) (pen : Pen), law (Line.new width (blankCell pen))

def EveryLine (law : Line → Prop) (lines : List Line) : Prop := ∀ line ∈ lines, law line

namespace EveryLine

variable {law : Line → Prop} {lines : List Line}

theorem getD (rule : Line.Law law) (every : EveryLine law lines) (row : Nat) :
    law (lines.getD row default) := by
  rw [List.getD_eq_getElem?_getD]
  cases hline : lines[row]? with
  | none => exact rule.empty
  | some line => exact every line (List.mem_of_getElem? hline)

theorem set (every : EveryLine law lines) {row : Nat} {line : Line} (holds : law line) :
    EveryLine law (lines.set row line) := by
  intro other member
  rcases List.mem_or_eq_of_mem_set member with hold | rfl
  · exact every other hold
  · exact holds

section

variable (rule : Line.Law law) (every : EveryLine law lines)
include rule every

theorem freshRows (width : Nat) (pen : Pen) (rounds : Nat) (first : Int) : EveryLine law
      (forUp (fun row lines => put lines row (Line.new width (blankCell pen))) rounds first
        lines).value := by
  apply value_forUp_induction ?_ every
  intro row lines every
  exact every.set (rule.blank width pen)

theorem movedUp (count : Int) (rounds : Nat) (top : Int) : EveryLine law (forUp (fun row lines => do
      let source ← int (row + count)
      let line ← get lines source
      put lines row line) rounds top lines).value := by
  apply value_forUp_induction ?_ every
  intro row lines every
  exact every.set (every.getD rule _)

theorem movedDown (count : Int) (rounds : Nat)
    (bottom : Int) : EveryLine law (forDown (fun row lines => do
      let source ← int (row - count)
      let line ← get lines source
      put lines row line) rounds bottom lines).value := by
  induction rounds generalizing bottom lines with
  | zero => exact every
  | succ rounds ih => exact ih (every.set (every.getD rule _)) _

end

end EveryLine

namespace Screen

variable {screen : Screen}

theorem value_pushRows (top : Int) (toScrollback : Bool) (rounds : Nat) (screen : Screen) :
    ∃ sink, (forUp (fun i (screen : Screen) => do
      let row ← int (top + i)
      let line ← get screen.lines row
      pure (if toScrollback then screen.pushLine line else screen)) rounds 0 screen).value =
      { screen with sink } := by
  refine @value_forUp_induction Screen _ (fun next => ∃ sink, next = { screen with sink }) ?_ _ _ _
    ⟨screen.sink, rfl⟩
  rintro i _ ⟨sink, rfl⟩
  rw [value_bind, value_bind, value_pure]
  split
  · exact ⟨_, rfl⟩
  · exact ⟨sink, rfl⟩

end Screen

end Hypeterm.Term
