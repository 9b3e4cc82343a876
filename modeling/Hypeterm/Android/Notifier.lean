import Hypeterm.Library.Runs

/-! The wake-up channel of the network thread: an atomic flag and a pipe. Each atomic step of each
call is a step of its own, so a run is an interleaving of the calls of any number of threads. -/
namespace Hypeterm.Android

open Library

/-- `held` is the number of bytes in the pipe.  `notifying` calls have set the flag and have
yet to write; `draining` calls have cleared it and have yet to find the pipe empty. -/
structure Notifier where
  pending : Bool
  held : Nat
  notifying : Nat
  draining : Nat
  deriving DecidableEq

/-- `notify` and `drain` are the first steps of a call, the compare-and-set and the store;
`write` and `read` are a further step of some call that has taken its first. -/
inductive NotifierAction where
  | notify
  | write
  | drain
  | read

namespace Notifier

def initial : Notifier := ⟨false, 0, 0, 0⟩

def buffer : Nat := 64

/-- `capacity` is that of the pipe, and 0 when `pipe` has failed: then nothing is written and
nothing is read.  A full pipe refuses the byte, and `Notify` ignores that. -/
def step (capacity : Nat) (notifier : Notifier) : NotifierAction → Option Notifier
  | .notify =>
      if notifier.pending then some notifier
      else some { notifier with pending := true, notifying := notifier.notifying + 1 }
  | .write =>
      match notifier.notifying with
      | 0 => none
      | notifying + 1 =>
          some { notifier with held := min (notifier.held + 1) capacity, notifying }
  | .drain => some { notifier with pending := false, draining := notifier.draining + 1 }
  | .read =>
      match notifier.draining with
      | 0 => none
      | draining + 1 =>
          if notifier.held = 0 then some { notifier with draining }
          else some { notifier with held := notifier.held - buffer }

def Quiet (notifier : Notifier) : Prop := notifier.notifying = 0 ∧ notifier.draining = 0

/-- A `poll` that watches the notifier returns. -/
def Readable (notifier : Notifier) : Prop := 0 < notifier.held

/-- A flag that is set has a byte in the pipe, or a call that will write one. -/
def Hears (notifier : Notifier) : Prop :=
  notifier.pending = true → 0 < notifier.held ∨ 0 < notifier.notifying

/-- No `read` takes the last byte from under a flag that a `Notify` has set since `Drain`
cleared it, and no byte is lost for want of a pipe. -/
def keepsHearing (capacity : Nat) (notifier : Notifier) : NotifierAction → Bool
  | .notify | .drain => true
  | .write => 0 < capacity || !notifier.pending || 1 < notifier.notifying
  | .read => !notifier.pending || notifier.held == 0 || buffer < notifier.held ||
      0 < notifier.notifying

theorem hears_step_iff {capacity : Nat} {notifier next : Notifier} {action : NotifierAction}
    (hears : notifier.Hears) (stepped : step capacity notifier action = some next) :
    next.Hears ↔ keepsHearing capacity notifier action = true := by
  cases action with
  | notify =>
    apply iff_of_true _ rfl
    simp only [step] at stepped
    split at stepped
    · cases stepped
      exact hears
    · cases stepped
      exact fun _ => .inr (Nat.succ_pos _)
  | write =>
    cases hcount : notifier.notifying with
    | zero => simp [step, hcount] at stepped
    | succ count =>
      simp only [step, hcount, Option.some.injEq] at stepped
      subst stepped
      cases hpending : notifier.pending with
      | false => simp [Hears, keepsHearing, hpending]
      | true =>
        simp [Hears, keepsHearing, hpending, hcount, Nat.lt_min]
  | drain =>
    apply iff_of_true _ rfl
    cases stepped
    exact fun pending => by cases pending
  | read =>
    cases hcount : notifier.draining with
    | zero => simp [step, hcount] at stepped
    | succ count =>
      simp only [step, hcount] at stepped
      split at stepped
      · rename_i hempty
        cases stepped
        apply iff_of_true hears
        simp [keepsHearing, hempty]
      · rename_i hheld
        cases stepped
        cases hpending : notifier.pending with
        | false => simp [Hears, keepsHearing, hpending]
        | true => simp [Hears, keepsHearing, hpending, hheld, Nat.sub_pos_iff_lt]

theorem initial_hears : initial.Hears := fun pending => by cases pending

theorem Hears.readable {notifier : Notifier} (hears : notifier.Hears) (quiet : notifier.Quiet)
    (pending : notifier.pending = true) : notifier.Readable := by
  apply (hears pending).resolve_right
  rw [quiet.1]
  exact Nat.lt_irrefl 0

def noDrain : NotifierAction → Bool
  | .notify | .write => true
  | .drain | .read => false

theorem hears_notified {capacity : Nat} (opened : 0 < capacity) {notifier next : Notifier}
    {action : NotifierAction} (notified : notifier.pending = true ∧ notifier.Hears)
    (calm : noDrain action = true) (stepped : step capacity notifier action = some next) :
    next.pending = true ∧ next.Hears := by
  cases action with
  | notify =>
    simp only [step, notified.1, if_true, Option.some.injEq] at stepped
    exact stepped ▸ notified
  | write =>
    have hkeeps : keepsHearing capacity notifier .write = true := by
      simp [keepsHearing, opened]
    have hhears := (hears_step_iff notified.2 stepped).mpr hkeeps
    cases hcount : notifier.notifying with
    | zero => simp [step, hcount] at stepped
    | succ count =>
      simp only [step, hcount, Option.some.injEq] at stepped
      subst stepped
      exact ⟨notified.1, hhears⟩
  | drain => cases calm
  | read => cases calm

theorem readable_after_notify {capacity : Nat} (opened : 0 < capacity) {notifier final : Notifier}
    {calls : List NotifierAction} (hears : notifier.Hears) (calm : calls.all noDrain = true)
    (taken : run (step capacity) notifier (.notify :: calls) = some final) (quiet : final.Quiet) :
    final.Readable := by
  obtain ⟨next, hnotify, hcalls⟩ := run_cons_eq_some.mp taken
  have hnext : next.pending = true := by
    simp only [step] at hnotify
    split at hnotify
    · rename_i hpending
      cases hnotify
      exact hpending
    · cases hnotify
      rfl
  have hhears : next.Hears := (hears_step_iff hears hnotify).mpr rfl
  clear hnotify taken hears
  suffices hfinal : final.pending = true ∧ final.Hears from hfinal.2.readable quiet hfinal.1
  induction calls generalizing next with
  | nil =>
    cases hcalls
    exact ⟨hnext, hhears⟩
  | cons action rest ih =>
    obtain ⟨hcalm, hrest⟩ := Bool.and_eq_true_iff.mp calm
    obtain ⟨middle, hstep, hcalls⟩ := run_cons_eq_some.mp hcalls
    have hmiddle := hears_notified opened ⟨hnext, hhears⟩ hcalm hstep
    exact ih hrest middle hcalls hmiddle.1 hmiddle.2

theorem deaf_settles (capacity : Nat) (notifier : Notifier) (deaf : ¬ notifier.Hears) :
    ∃ final, run (step capacity) notifier (List.replicate notifier.draining .read) = some final ∧
      final.Quiet ∧ final.pending = true ∧ ¬ final.Readable := by
  obtain ⟨pending, held, notifying, draining⟩ := notifier
  simp only [Hears, Classical.not_imp, not_or, Nat.not_lt, Nat.le_zero] at deaf
  obtain ⟨rfl, rfl, rfl⟩ := deaf
  apply Exists.intro ⟨true, 0, 0, 0⟩
  refine ⟨?_, ⟨rfl, rfl⟩, rfl, Nat.lt_irrefl 0⟩
  induction draining with
  | zero => rfl
  | succ draining ih => exact run_cons_eq_some.mpr ⟨⟨true, 0, 0, draining⟩, rfl, ih⟩

/-- Whatever the order of the steps, the flag has its byte throughout exactly when each step
leaves it one.  Then a quiet notifier has no flag without a byte, and a `Notify` from there
makes the next `poll` return; otherwise the calls in progress end with the flag alone. -/
theorem never_deaf_iff (capacity : Nat) (actions : List NotifierAction) (notifier : Notifier)
    (ran : run (step capacity) initial actions = some notifier) :
    ((∀ earlier later middle, actions = earlier ++ later →
        run (step capacity) initial earlier = some middle → middle.Hears) ↔
      run (restrict (step capacity) fun state action => keepsHearing capacity state action = true)
        initial actions = some notifier) ∧
    (run (restrict (step capacity) fun state action => keepsHearing capacity state action = true)
        initial actions = some notifier → notifier.Quiet →
      (notifier.pending = true → notifier.Readable) ∧
      ∀ calls final, 0 < capacity → calls.all noDrain = true →
        run (step capacity) notifier (.notify :: calls) = some final → final.Quiet →
          final.Readable) ∧
    (¬ notifier.Hears →
      ∃ final, run (step capacity) notifier (List.replicate notifier.draining .read) =
          some final ∧ final.Quiet ∧ final.pending = true ∧ ¬ final.Readable) := by
  refine ⟨?_, ?_, deaf_settles capacity notifier⟩
  · apply always_iff_restrict _ initial_hears ran
    exact fun state action next hears stepped => hears_step_iff hears stepped
  · intro restricted quiet
    have hhears : notifier.Hears := by
      apply restrict_invariant _ initial_hears restricted
      exact fun state action next hears allowed stepped => (hears_step_iff hears stepped).mpr allowed
    constructor
    · exact hhears.readable quiet
    · intro calls final opened calm taken hquiet
      exact readable_after_notify opened hhears calm taken hquiet

/-- Two calls of `Notify`, the second while a `Drain` that has found the first one's byte
goes on reading. -/
theorem two_calls_heard :
    (run (restrict (step 4096) fun state action => keepsHearing 4096 state action = true) initial
        [.notify, .write, .drain, .read, .notify, .read, .write] =
      some ⟨true, 1, 0, 0⟩) ∧
    (⟨true, 1, 0, 0⟩ : Notifier).Readable ∧
    ∃ final, run (step 4096) ⟨true, 1, 0, 0⟩ [.notify] = some final ∧ final.Readable := by
  have hran : run (step 4096) initial
      [.notify, .write, .drain, .read, .notify, .read, .write] = some ⟨true, 1, 0, 0⟩ := by decide
  have hkept : run (restrict (step 4096) fun state action => keepsHearing 4096 state action = true)
      initial [.notify, .write, .drain, .read, .notify, .read, .write] =
        some ⟨true, 1, 0, 0⟩ := by decide
  have hheard := (never_deaf_iff 4096 _ _ hran).2.1 hkept ⟨rfl, rfl⟩
  exact ⟨hkept, hheard.1 rfl, _, rfl, hheard.2 [] _ (by decide) rfl rfl ⟨rfl, rfl⟩⟩

theorem notify_deaf {capacity : Nat} {notifier : Notifier} (pending : notifier.pending = true)
    (count : Nat) : run (step capacity) notifier (List.replicate count .notify) = some notifier := by
  induction count with
  | zero => rfl
  | succ count ih =>
    apply run_cons_eq_some.mpr
    exact ⟨notifier, by simp [step, pending], ih⟩

/-- A whole `Notify` between the store and the reads of a `Drain` has its byte read. -/
theorem goes_deaf : ∃ notifier, run (step 4096) initial
        [.notify, .write, .drain, .notify, .write, .read, .read] = some notifier ∧
      notifier.Quiet ∧ notifier.pending = true ∧ ¬ notifier.Readable ∧
      ∀ count, run (step 4096) notifier (List.replicate count .notify) = some notifier :=
  ⟨⟨true, 0, 0, 0⟩, by decide, ⟨rfl, rfl⟩, rfl, Nat.lt_irrefl 0, notify_deaf rfl⟩

end Notifier

end Hypeterm.Android
