import Mathlib.Data.List.Basic

/-! Computations that record whether they stayed in bounds.  A check that fails does not
stop the computation, so what it computes and whether that was safe are two questions. -/
namespace Hypeterm.Library

structure Checked (α : Type) where
  value : α
  safe : Bool

namespace Checked

variable {α β State : Type}

instance : Monad Checked where
  pure value := ⟨value, true⟩
  bind first next := ⟨(next first.value).value, first.safe && (next first.value).safe⟩

@[simp] theorem value_pure (value : α) : (Pure.pure value : Checked α).value = value := rfl

@[simp] theorem safe_pure (value : α) : (Pure.pure value : Checked α).safe = true := rfl

@[simp] theorem value_bind (first : Checked α) (next : α → Checked β) :
    (first >>= next).value = (next first.value).value := rfl

@[simp] theorem safe_bind (first : Checked α) (next : α → Checked β) :
    (first >>= next).safe = (first.safe && (next first.value).safe) := rfl

@[simp] theorem value_ite (condition : Prop) [Decidable condition] (yes no : Checked α) :
    (if condition then yes else no).value = if condition then yes.value else no.value := by
  split <;> rfl

@[simp] theorem safe_ite (condition : Prop) [Decidable condition] (yes no : Checked α) :
    (if condition then yes else no).safe = if condition then yes.safe else no.safe := by
  split <;> rfl

/-- A result of `int` arithmetic, which must fit 32 bits. -/
def int (result : Int) : Checked Int :=
  ⟨result, decide (-2147483648 ≤ result ∧ result ≤ 2147483647)⟩

/-- An `int` used as a size, which must not be negative. -/
def size (number : Int) : Checked Nat := ⟨number.toNat, decide (0 ≤ number)⟩

def get [Inhabited α] (elements : List α) (index : Int) : Checked α :=
  ⟨elements.getD index.toNat default, decide (0 ≤ index ∧ index < elements.length)⟩

def put (elements : List α) (index : Int) (element : α) : Checked (List α) :=
  ⟨elements.set index.toNat element, decide (0 ≤ index ∧ index < elements.length)⟩

@[simp] theorem value_int (result : Int) : (int result).value = result := rfl

@[simp] theorem safe_int (result : Int) :
    (int result).safe = decide (-2147483648 ≤ result ∧ result ≤ 2147483647) := rfl

@[simp] theorem value_size (number : Int) : (size number).value = number.toNat := rfl

@[simp] theorem safe_size (number : Int) : (size number).safe = decide (0 ≤ number) := rfl

variable (elements : List α)

@[simp] theorem value_get [Inhabited α] (index : Int) :
    (get elements index).value = elements.getD index.toNat default := rfl

@[simp] theorem safe_get [Inhabited α] (index : Int) :
    (get elements index).safe = decide (0 ≤ index ∧ index < elements.length) := rfl

@[simp] theorem value_put (index : Int) (element : α) :
    (put elements index element).value = elements.set index.toNat element := rfl

@[simp] theorem safe_put (index : Int) (element : α) :
    (put elements index element).safe = decide (0 ≤ index ∧ index < elements.length) := rfl

/-- `for (int i = start; i < start + count; ++i)`. -/
def forUp (body : Int → State → Checked State) : Nat → Int → State → Checked State
  | 0, _, state => pure state
  | count + 1, start, state => do
      let state ← body start state
      let next ← int (start + 1)
      forUp body count next state

/-- `for (int i = start; i > start - count; --i)`. -/
def forDown (body : Int → State → Checked State) : Nat → Int → State → Checked State
  | 0, _, state => pure state
  | count + 1, start, state => do
      let state ← body start state
      let next ← int (start - 1)
      forDown body count next state

/-- The computation is safe and its result meets the postcondition. -/
def Holds (post : α → Prop) (computed : Checked α) : Prop :=
  computed.safe = true ∧ post computed.value

variable {post : β → Prop} {middle : α → Prop}

theorem Holds.pure {post : α → Prop} {value : α} (met : post value) :
    Holds post (Pure.pure value) := ⟨rfl, met⟩

theorem Holds.bind {first : Checked α} {next : α → Checked β} (before : Holds middle first)
    (after : ∀ value, middle value → Holds post (next value)) : Holds post (first >>= next) := by
  obtain ⟨hsafe, hpost⟩ := after first.value before.2
  exact ⟨by rw [safe_bind, before.1, hsafe]; rfl, hpost⟩

theorem Holds.mono {post weaker : α → Prop} {computed : Checked α} (holds : Holds post computed)
    (implies : ∀ value, post value → weaker value) : Holds weaker computed :=
  ⟨holds.1, implies _ holds.2⟩

theorem Holds.ite {post : α → Prop} {condition : Prop} [Decidable condition]
    {yes no : Checked α} (whenTrue : condition → Holds post yes)
    (whenFalse : ¬condition → Holds post no) : Holds post (if condition then yes else no) := by
  split
  · exact whenTrue ‹_›
  · exact whenFalse ‹_›

theorem holds_int {result : Int} (low : -2147483648 ≤ result) (high : result ≤ 2147483647) :
    Holds (fun value => value = result) (int result) :=
  ⟨by simp [low, high], rfl⟩

theorem Holds.int {post : β → Prop} {result : Int} {next : Int → Checked β}
    (low : -2147483648 ≤ result) (high : result ≤ 2147483647) (rest : Holds post (next result)) :
    Holds post (int result >>= next) := by
  refine (holds_int low high).bind ?_
  rintro _ rfl
  exact rest

theorem holds_size {number : Int} (natural : 0 ≤ number) :
    Holds (fun value : Nat => (value : Int) = number) (size number) :=
  ⟨by simp [natural], Int.toNat_of_nonneg natural⟩

theorem holds_get [Inhabited α] {elements : List α} {index : Int}
    (inside : 0 ≤ index ∧ index < elements.length) :
    Holds (fun element => element = elements.getD index.toNat default) (get elements index) :=
  ⟨by simpa using inside, rfl⟩

theorem holds_put {elements : List α} {index : Int} {element : α}
    (inside : 0 ≤ index ∧ index < elements.length) :
    Holds (fun updated => updated = elements.set index.toNat element) (put elements index element) :=
  ⟨by simpa using inside, rfl⟩

theorem Holds.forUp (Inv : Int → State → Prop) {body : Int → State → Checked State} {count : Nat}
    {start : Int} {state : State} (low : -2147483648 ≤ start) (high : start + count ≤ 2147483647)
    (initially : Inv start state)
    (round : ∀ index state, start ≤ index → index < start + count → Inv index state →
      Holds (Inv (index + 1)) (body index state)) :
    Holds (Inv (start + count)) (forUp body count start state) := by
  induction count generalizing start state with
  | zero =>
    refine Holds.pure ?_
    simpa using initially
  | succ count ih =>
    have hfirst := round start state (Int.le_refl _) (by omega) initially
    refine hfirst.bind fun state hstate => ?_
    refine (holds_int (by omega) (by omega)).bind ?_
    rintro next rfl
    have hrest := ih (by omega) (by omega) hstate
      fun index state hlow hhigh => round index state (by omega) (by omega)
    have hend : start + 1 + (count : Int) = start + ((count + 1 : Nat) : Int) := by
      omega
    exact hend ▸ hrest

theorem Holds.forDown (Inv : Int → State → Prop) {body : Int → State → Checked State}
    {count : Nat} {start : Int} {state : State} (low : -2147483648 ≤ start - count) (high : start ≤ 2147483647)
    (initially : Inv start state)
    (round : ∀ index state, index ≤ start → start - count < index → Inv index state →
      Holds (Inv (index - 1)) (body index state)) :
    Holds (Inv (start - count)) (forDown body count start state) := by
  induction count generalizing start state with
  | zero =>
    refine Holds.pure ?_
    simpa using initially
  | succ count ih =>
    have hfirst := round start state (Int.le_refl _) (by omega) initially
    refine hfirst.bind fun state hstate => ?_
    refine (holds_int (by omega) (by omega)).bind ?_
    rintro next rfl
    have hrest := ih (by omega) (by omega) hstate
      fun index state hhigh hlow => round index state (by omega) (by omega)
    have hend : start - 1 - (count : Int) = start - ((count + 1 : Nat) : Int) := by
      omega
    exact hend ▸ hrest

theorem value_forUp_induction {body : Int → State → Checked State} {Inv : State → Prop}
    (round : ∀ index state, Inv state → Inv (body index state).value) {count : Nat} {start : Int}
    {state : State} (initially : Inv state) : Inv (forUp body count start state).value := by
  induction count generalizing start state with
  | zero => exact initially
  | succ count ih => exact ih (round start state initially)

theorem value_forUp_range {body : Int → State → Checked State} {Inv : Nat → State → Prop}
    {count : Nat} {start : Nat} {state : State}
    (round : ∀ index state, start ≤ index → index < start + count → Inv index state →
      Inv (index + 1) (body index state).value)
    (initially : Inv start state) : Inv (start + count) (forUp body count start state).value := by
  induction count generalizing start state with
  | zero => exact initially
  | succ count ih =>
    have hfirst := round start state (Nat.le_refl _) (by omega) initially
    have hrest := ih (fun index state hlow hhigh => round index state (by omega) (by omega)) hfirst
    rw [(by omega : start + 1 + count = start + (count + 1)), Int.natCast_succ] at hrest
    unfold forUp
    rw [value_bind, value_bind, value_int]
    exact hrest

theorem value_forUp_keeps {body : Int → State → Checked State} {read : State → β} {place : Int}
    (keeps : ∀ index state, 0 ≤ index → index ≠ place → read (body index state).value = read state)
    {start : Int} (natural : 0 ≤ start) {count : Nat}
    (outside : place < start ∨ start + count ≤ place) (state : State) :
    read (forUp body count start state).value = read state := by
  induction count generalizing start state with
  | zero => rfl
  | succ count ih =>
    have hrest := @ih (start + 1) (by omega) (by omega) (body start state).value
    exact hrest.trans (keeps start state natural (by omega))

theorem value_forDown_keeps {body : Int → State → Checked State} {read : State → β} {place : Int}
    (keeps : ∀ index state, 0 ≤ index → index ≠ place → read (body index state).value = read state)
    {count : Nat} {start : Int} (natural : (count : Int) ≤ start + 1)
    (outside : start < place ∨ place ≤ start - count) (state : State) :
    read (forDown body count start state).value = read state := by
  induction count generalizing start state with
  | zero => rfl
  | succ count ih =>
    have hrest := @ih (start - 1) (by omega) (by omega) (body start state).value
    exact hrest.trans (keeps start state (by omega) (by omega))

end Checked

end Hypeterm.Library
