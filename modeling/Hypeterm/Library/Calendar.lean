import Hypeterm.Library.FixedWidth

/-! The proleptic Gregorian calendar from the year 0, and blocks of varying length in general. -/
namespace Hypeterm.Library

open List

def total (length : Nat → Nat) : Nat → Nat → Nat
  | 0, _ => 0
  | count + 1, first => length first + total length count (first + 1)

def locate (length : Nat → Nat) : Nat → Nat → Nat → Nat × Nat
  | 0, first, n => (first, n)
  | count + 1, first, n =>
      if n < length first then (first, n)
      else locate length count (first + 1) (n - length first)

def place (length : Nat → Nat) (first : Nat) (at_ : Nat × Nat) : Nat :=
  total length (at_.1 - first) first + at_.2

variable {length : Nat → Nat} {count first m n : Nat}

theorem locate_succ : locate length (count + 1) first n =
    if n < length first then (first, n) else locate length count (first + 1) (n - length first) := rfl

theorem total_add (more : Nat) :
    total length (count + more) first = total length count first + total length more (first + count) := by
  induction count generalizing first with
  | zero => rw [Nat.zero_add, total, Nat.zero_add, Nat.add_zero]
  | succ count ih =>
    rw [Nat.succ_add, total, total, ih, Nat.add_assoc (length first), Nat.add_assoc first,
      Nat.add_comm 1]

theorem total_periodic {period : Nat} (periodic : ∀ i, length (i + period) = length i) :
    total length count (first + period) = total length count first := by
  induction count generalizing first with
  | zero => rfl
  | succ count ih => rw [total, total, periodic, Nat.add_right_comm, ih]

theorem total_periods {period : Nat} (periodic : ∀ i, length (i + period) = length i) (k : Nat) :
    total length (period * k) 0 = total length period 0 * k := by
  induction k with
  | zero => rfl
  | succ k ih =>
    rw [Nat.mul_succ, Nat.add_comm, total_add, total_periodic periodic, ih, Nat.mul_succ, Nat.add_comm]

theorem le_locate : first ≤ (locate length count first n).1 := by
  induction count generalizing first n with
  | zero => exact Nat.le_refl _
  | succ count ih =>
    rw [locate_succ]
    split
    · exact Nat.le_refl _
    · exact Nat.le_of_succ_le ih

theorem locate_lt (small : n < total length count first) :
    (locate length count first n).1 < first + count ∧
      (locate length count first n).2 < length (locate length count first n).1 := by
  induction count generalizing first n with
  | zero => cases small
  | succ count ih =>
    rw [locate_succ]
    split
    · rename_i hhere
      exact ⟨by omega, hhere⟩
    · rename_i hlater
      have hrest : n - length first < total length count (first + 1) := by
        unfold total at small
        omega
      have hfound := ih hrest
      exact ⟨by omega, hfound.2⟩

theorem place_locate : place length first (locate length count first n) = n := by
  induction count generalizing first n with
  | zero => exact (congrArg (total length · first + n) (Nat.sub_self first)).trans (Nat.zero_add n)
  | succ count ih =>
    rw [locate_succ]
    split
    · simp [place, total]
    · rename_i hlater
      have hle : first + 1 ≤ (locate length count (first + 1) (n - length first)).1 := le_locate
      have hrest : place length (first + 1) (locate length count (first + 1) (n - length first)) =
        n - length first := ih
      have hindex : (locate length count (first + 1) (n - length first)).1 - first =
          ((locate length count (first + 1) (n - length first)).1 - (first + 1)) + 1 := by omega
      unfold place at hrest ⊢
      rw [hindex, total]
      omega

theorem locate_lex (lt : m < n) :
    (locate length count first m).1 < (locate length count first n).1 ∨
      (locate length count first m).1 = (locate length count first n).1 ∧
        (locate length count first m).2 < (locate length count first n).2 := by
  induction count generalizing first m n with
  | zero => exact .inr ⟨rfl, lt⟩
  | succ count ih =>
    rw [locate_succ, locate_succ]
    by_cases hm : m < length first
    · by_cases hn : n < length first
      · rw [if_pos hm, if_pos hn]
        exact .inr ⟨rfl, lt⟩
      · rw [if_pos hm, if_neg hn]
        exact .inl le_locate
    · have hn : ¬ n < length first := by omega
      rw [if_neg hm, if_neg hn]
      exact ih (by omega)

def leapYear (year : Nat) : Bool := year % 4 = 0 && (year % 100 ≠ 0 || year % 400 = 0)

def yearDays (year : Nat) : Nat := if leapYear year then 366 else 365

def monthDays (leap : Bool) (month : Nat) : Nat :=
  if month = 2 then (if leap then 29 else 28)
  else if month = 4 ∨ month = 6 ∨ month = 9 ∨ month = 11 then 30 else 31

def calendarDays : Nat := 3652425

theorem calendarDays_eq : calendarDays = total yearDays 10000 0 := by
  have hperiodic : ∀ year, yearDays (year + 400) = yearDays year := by
    intro year
    have h4 : (year + 400) % 4 = year % 4 := by omega
    have h100 : (year + 400) % 100 = year % 100 := by omega
    unfold yearDays leapYear
    rw [h4, h100, Nat.add_mod_right]
  have hcycle : total yearDays 400 0 = 146097 := by decide +kernel
  have hall := total_periods hperiodic 25
  rw [hcycle] at hall
  exact hall.symm

def civil (day : Nat) : Nat × Nat × Nat :=
  let inYear := locate yearDays 10000 0 day
  let inMonth := locate (monthDays (leapYear inYear.1)) 12 1 inYear.2
  (inYear.1, inMonth.1, inMonth.2 + 1)

def dayNumber (year month day : Nat) : Option Nat :=
  if year < 10000 ∧ 1 ≤ month ∧ month ≤ 12 ∧ 1 ≤ day ∧ day ≤ monthDays (leapYear year) month then
    some (place yearDays 0 (year, place (monthDays (leapYear year)) 1 (month, day - 1)))
  else none

theorem total_monthDays (leap : Bool) : total (monthDays leap) 12 1 = if leap then 366 else 365 := by
  cases leap <;> rfl

theorem civil_bounds {day : Nat} (small : day < calendarDays) :
    (civil day).1 < 10000 ∧ 1 ≤ (civil day).2.1 ∧ (civil day).2.1 ≤ 12 ∧ 1 ≤ (civil day).2.2 ∧
      (civil day).2.2 ≤ monthDays (leapYear (civil day).1) (civil day).2.1 := by
  rw [calendarDays_eq] at small
  have hyear := locate_lt small
  have hdays : (locate yearDays 10000 0 day).2 <
      total (monthDays (leapYear (locate yearDays 10000 0 day).1)) 12 1 := by
    rw [total_monthDays]
    exact hyear.2
  have hmonth := locate_lt hdays
  have hfirst : 1 ≤ (locate (monthDays (leapYear (locate yearDays 10000 0 day).1)) 12 1
    (locate yearDays 10000 0 day).2).1 := le_locate
  unfold civil
  dsimp only
  exact ⟨by omega, hfirst, by omega, by omega, by omega⟩

theorem dayNumber_civil {day : Nat} (small : day < calendarDays) :
    dayNumber (civil day).1 (civil day).2.1 (civil day).2.2 = some day := by
  unfold dayNumber
  rw [if_pos (civil_bounds small)]
  have hmonth : place (monthDays (leapYear (civil day).1)) 1
      ((civil day).2.1, (civil day).2.2 - 1) = (locate yearDays 10000 0 day).2 := place_locate
  rw [hmonth]
  exact congrArg some place_locate

theorem civil_lt {day later : Nat} (lt : day < later) :
    [(civil day).1, (civil day).2.1, (civil day).2.2] <
      [(civil later).1, (civil later).2.1, (civil later).2.2] := by
  rcases @locate_lex yearDays 10000 0 _ _ lt with hyear | ⟨hyear, hday⟩
  · exact cons_lt_cons_iff.mpr (.inl hyear)
  · refine cons_lt_cons_iff.mpr (.inr ⟨hyear, ?_⟩)
    unfold civil
    dsimp only
    rw [hyear]
    rcases @locate_lex (monthDays (leapYear (locate yearDays 10000 0 later).1)) 12 1 _ _ hday
      with hmonth | ⟨hmonth, hday⟩
    · exact cons_lt_cons_iff.mpr (.inl hmonth)
    · refine cons_lt_cons_iff.mpr (.inr ⟨hmonth, ?_⟩)
      exact cons_lt_cons_iff.mpr (.inl (Nat.succ_lt_succ hday))

attribute [irreducible] civil

end Hypeterm.Library
