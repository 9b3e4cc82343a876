import Mathlib.Algebra.Order.BigOperators.Group.Finset

/-! Tasks, numbered in the order they start, and a limit on what they take.  A task that
has passed the test of the limit and not yet taken its share counts as taking it. -/
namespace Hypeterm.Library

open List Function Option

variable {Task : Type*}

def countTasks (test : Task → Bool) (tasks : Nat → Option Task) (started : Nat) : Nat :=
  (range started).countP fun id => (tasks id).any test

variable (test : Task → Bool)

theorem countTasks_succ (tasks : Nat → Option Task) (started : Nat) :
    countTasks test tasks (started + 1) =
      countTasks test tasks started + if (tasks started).any test then 1 else 0 := by
  simp [countTasks, range_succ, countP_append, countP_singleton]

theorem countTasks_congr {test : Task → Bool} {tasks others : Nat → Option Task} {started : Nat}
    (same : ∀ id < started, (others id).any test = (tasks id).any test) :
    countTasks test others started = countTasks test tasks started := by
  unfold countTasks
  apply countP_congr
  intro id member
  rw [same id (mem_range.mp member)]

theorem countTasks_none (started : Nat) : countTasks test (fun _ => none) started = 0 := by
  simp [countTasks]

theorem countTasks_update_outside (tasks : Nat → Option Task)
    {id started : Nat} (outside : started ≤ id) (task : Task) :
    countTasks test (Function.update tasks id (some task)) started =
      countTasks test tasks started := by
  apply countTasks_congr
  intro other below
  rw [update_of_ne (by omega)]

theorem countTasks_start (tasks : Nat → Option Task) (started : Nat) (task : Task) :
    countTasks test (Function.update tasks started (some task)) (started + 1) =
      countTasks test tasks started + if test task then 1 else 0 := by
  rw [countTasks_succ, update_self, any_some,
    countTasks_update_outside test tasks (Nat.le_refl started)]

variable {tasks : Nat → Option Task}

theorem countTasks_update {id started : Nat}
    {task : Task} (found : tasks id = some task) (below : id < started) (later : Task) :
    countTasks test (Function.update tasks id (some later)) started +
        (if test task then 1 else 0) =
      countTasks test tasks started + if test later then 1 else 0 := by
  induction started with
  | zero => omega
  | succ started ih =>
    rw [countTasks_succ, countTasks_succ]
    by_cases hlast : id = started
    · subst hlast
      rw [countTasks_update_outside test tasks (Nat.le_refl id), update_self, found,
        any_some, any_some]
      omega
    · have hbefore := ih (by omega)
      rw [update_of_ne (Ne.symm hlast)]
      omega

theorem countTasks_mono {test other : Task → Bool} (weaker : ∀ task, test task → other task)
    (tasks : Nat → Option Task) (started : Nat) :
    countTasks test tasks started ≤ countTasks other tasks started := by
  apply countP_mono_left
  intro id _ htest
  obtain ⟨task, hfound, htask⟩ := (Option.any_eq_true _ _).mp htest
  exact (Option.any_eq_true _ _).mpr ⟨task, hfound, weaker task htask⟩

theorem countTasks_pos {test : Task → Bool} {id started : Nat}
    {task : Task} (found : tasks id = some task) (below : id < started) (passes : test task = true) :
    0 < countTasks test tasks started := by
  apply countP_pos_iff.mpr
  exact ⟨id, mem_range.mpr below, by rw [found]; exact passes⟩

theorem countTasks_balance {first second third fourth : Task → Bool}
    (same : ∀ task, (first task).toNat + (second task).toNat =
      (third task).toNat + (fourth task).toNat) (tasks : Nat → Option Task) (started : Nat) :
    countTasks first tasks started + countTasks second tasks started =
      countTasks third tasks started + countTasks fourth tasks started := by
  induction started with
  | zero => rfl
  | succ started ih =>
    simp only [countTasks_succ]
    cases tasks started with
    | none =>
      simp only [any_none]
      omega
    | some task =>
      have hone : ∀ share : Bool, (if share = true then 1 else 0) = share.toNat := by decide
      have hsame := same task
      simp only [any_some, hone]
      omega

theorem sum_shares_le (shares later : Nat → Nat) {holder holders : Nat} (gained lost : Nat)
    (below : holder < holders) (others : ∀ other, other ≠ holder → later other ≤ shares other)
    (one : later holder + lost ≤ shares holder + gained) :
    ∑ other ∈ Finset.range holders, later other + lost ≤
      ∑ other ∈ Finset.range holders, shares other + gained := by
  have hmember := Finset.mem_range.mpr below
  rw [← Finset.add_sum_erase _ later hmember, ← Finset.add_sum_erase _ shares hmember]
  have hrest : ∑ other ∈ (Finset.range holders).erase holder, later other ≤
      ∑ other ∈ (Finset.range holders).erase holder, shares other := by
    apply Finset.sum_le_sum
    intro other member
    exact others other (Finset.ne_of_mem_erase member)
  omega

theorem limit_update {test : Task → Bool} {id started : Nat}
    {task later : Task} {limit used : Nat} (found : tasks id = some task) (below : id < started)
    (paid : used + countTasks test tasks started + (if test later then 1 else 0) ≤
      limit + if test task then 1 else 0) :
    used + countTasks test (Function.update tasks id (some later)) started ≤ limit := by
  have hmoved := countTasks_update test found below later
  omega

end Hypeterm.Library
