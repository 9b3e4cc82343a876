import Mathlib.Data.List.Basic

/-! Runs of a labelled partial step function.  A label carries every choice the
environment or the scheduler makes, so one list of labels determines one run
and a concrete run can be evaluated. -/
namespace Hypeterm.Library

open List

variable {State Action : Type*}

/-- Take the listed actions in order; `none` when one of them is not enabled. -/
def run (step : State → Action → Option State) : State → List Action → Option State
  | state, [] => some state
  | state, action :: rest => (step state action).bind fun next => run step next rest

/-- The same system with every action that breaks `allowed` disabled.  Its runs
are the runs of `step` all of whose steps meet the condition. -/
def restrict (step : State → Action → Option State) (allowed : State → Action → Prop)
    [∀ state action, Decidable (allowed state action)] : State → Action → Option State :=
  fun state action => if allowed state action then step state action else none

variable {step : State → Action → Option State}

theorem restrict_eq_some
    {allowed : State → Action → Prop} [∀ state action, Decidable (allowed state action)]
    {state next : State} {action : Action} :
    restrict step allowed state action = some next ↔
      allowed state action ∧ step state action = some next := by
  unfold restrict
  split
  · rename_i h
    simp [h]
  · rename_i h
    simp [h]

theorem run_cons_eq_some {state final : State} {action : Action} {rest : List Action} :
    run step state (action :: rest) = some final ↔
      ∃ next, step state action = some next ∧ run step next rest = some final := by
  simp only [run, Option.bind_eq_some_iff]

theorem run_append {state middle final : State}
    {earlier later : List Action} (reached : run step state earlier = some middle)
    (continued : run step middle later = some final) :
    run step state (earlier ++ later) = some final := by
  induction earlier generalizing state with
  | nil =>
    simp only [run, Option.some.injEq] at reached
    subst reached
    exact continued
  | cons action rest ih =>
    obtain ⟨next, hstep, hrest⟩ := run_cons_eq_some.mp reached
    exact run_cons_eq_some.mpr ⟨next, hstep, ih hrest⟩

theorem run_invariant {step : State → Action → Option State} {Inv : State → Prop}
    (preserved : ∀ state action next, Inv state → step state action = some next → Inv next)
    {state final : State} {actions : List Action} (start : Inv state)
    (taken : run step state actions = some final) : Inv final := by
  induction actions generalizing state with
  | nil =>
    simp only [run, Option.some.injEq] at taken
    exact taken ▸ start
  | cons action rest ih =>
    obtain ⟨next, hstep, hrest⟩ := run_cons_eq_some.mp taken
    exact ih (preserved state action next start hstep) hrest

theorem restrict_invariant {step : State → Action → Option State}
    {allowed : State → Action → Prop} [∀ state action, Decidable (allowed state action)]
    {Inv : State → Prop}
    (preserved : ∀ state action next, Inv state → allowed state action →
      step state action = some next → Inv next)
    {state final : State} {actions : List Action} (start : Inv state)
    (taken : run (restrict step allowed) state actions = some final) : Inv final := by
  refine run_invariant ?_ start taken
  intro state action next inv hstep
  obtain ⟨hallowed, hstep⟩ := restrict_eq_some.mp hstep
  exact preserved state action next inv hallowed hstep

/-- When a step keeps `good` exactly if it is allowed, the runs that stay good are the runs of
allowed steps. -/
theorem always_iff_restrict {step : State → Action → Option State}
    {allowed : State → Action → Prop} [∀ state action, Decidable (allowed state action)]
    {good : State → Prop}
    (exactly : ∀ state action next, good state → step state action = some next →
      (good next ↔ allowed state action))
    {state final : State} {actions : List Action} (start : good state)
    (taken : run step state actions = some final) :
    (∀ earlier later middle, actions = earlier ++ later →
      run step state earlier = some middle → good middle) ↔
      run (restrict step allowed) state actions = some final := by
  induction actions generalizing state with
  | nil =>
    cases taken
    constructor
    · exact fun _ => rfl
    · intro _ earlier later middle hsplit hmiddle
      cases (append_eq_nil_iff.mp hsplit.symm).1
      cases hmiddle
      exact start
  | cons action rest ih =>
    obtain ⟨next, hstep, hrest⟩ := run_cons_eq_some.mp taken
    have hexact := exactly state action next start hstep
    constructor
    · intro always
      have hnext : good next := by
        refine always [action] rest next rfl ?_
        exact run_cons_eq_some.mpr ⟨next, hstep, rfl⟩
      refine run_cons_eq_some.mpr ⟨next, restrict_eq_some.mpr ⟨hexact.mp hnext, hstep⟩, ?_⟩
      refine (ih hnext hrest).mp ?_
      intro earlier later middle hsplit hmiddle
      exact always (action :: earlier) later middle (congrArg (action :: ·) hsplit)
        (run_cons_eq_some.mpr ⟨next, hstep, hmiddle⟩)
    · intro restricted earlier later middle hsplit hmiddle
      obtain ⟨other, htaken, hlater⟩ := run_cons_eq_some.mp restricted
      obtain ⟨hallowed, hother⟩ := restrict_eq_some.mp htaken
      cases hstep.symm.trans hother
      cases earlier with
      | nil =>
        cases hmiddle
        exact start
      | cons first earlier =>
        obtain ⟨rfl, htail⟩ := List.cons.inj hsplit
        obtain ⟨second, hfirst, hsecond⟩ := run_cons_eq_some.mp hmiddle
        cases hstep.symm.trans hfirst
        exact (ih (hexact.mpr hallowed) hrest).mpr hlater earlier later middle htail hsecond

theorem run_length_le {Inv : State → Prop} {measure : State → Nat}
    (lowers : ∀ state action next, Inv state → step state action = some next →
      Inv next ∧ measure next < measure state)
    {state final : State} {actions : List Action} (start : Inv state)
    (taken : run step state actions = some final) : actions.length ≤ measure state := by
  induction actions generalizing state with
  | nil => exact Nat.zero_le _
  | cons action rest ih =>
    obtain ⟨next, hstep, hrest⟩ := run_cons_eq_some.mp taken
    obtain ⟨hnext, hlower⟩ := lowers state action next start hstep
    exact Nat.lt_of_le_of_lt (ih hnext hrest) hlower

theorem run_replicate {Inv : State → Prop} {action : Action}
    (stays : ∀ state, Inv state → ∃ next, step state action = some next ∧ Inv next)
    {state : State} (start : Inv state) (count : Nat) :
    ∃ final, run step state (List.replicate count action) = some final := by
  induction count generalizing state with
  | zero => exact ⟨state, rfl⟩
  | succ count ih =>
    obtain ⟨next, hstep, hnext⟩ := stays state start
    obtain ⟨final, hrest⟩ := ih hnext
    exact ⟨final, run_cons_eq_some.mpr ⟨next, hstep, hrest⟩⟩

def EachAfter {Entry : Type*} (holds : List Entry → Entry → Prop) (record : List Entry) : Prop :=
  ∀ earlier entry later, record = earlier ++ entry :: later → holds earlier entry

theorem EachAfter.nil {Entry : Type*} {holds : List Entry → Entry → Prop} : EachAfter holds [] := by
  intro earlier entry later hsplit
  simp at hsplit

theorem EachAfter.concat {Entry : Type*} {holds : List Entry → Entry → Prop} {record : List Entry}
    {entry : Entry} (before : EachAfter holds record) (last : holds record entry) :
    EachAfter holds (record ++ [entry]) := by
  intro earlier other later hsplit
  rcases eq_nil_or_concat later with rfl | ⟨later', final, rfl⟩
  · obtain ⟨rfl, hentry⟩ := append_inj' hsplit rfl
    exact (List.cons.inj hentry).1 ▸ last
  · rw [concat_eq_append, ← cons_append, ← append_assoc] at hsplit
    obtain ⟨hrecord, -⟩ := append_inj' hsplit rfl
    exact before earlier other later' hrecord

end Hypeterm.Library
