import Hypeterm.Term.Cell
import Mathlib.Algebra.GroupWithZero.Nat

/-! What the scrollback counts.  A row is an object here: what it costs depends on the
capacities that its vectors got, and a row that is pushed is copied when it has trailing
blanks, to an object with capacities of its own. -/
namespace Hypeterm.Term.Accounting

open Library Checked List

/-- A row in memory, which nobody changes while it is stored. -/
structure HeldLine where
  line : Line
  cellCapacity : Nat
  markCapacities : List Nat

structure Sizes where
  line : Nat
  cell : Nat
  entry : Nat
  codePoint : Nat

def HeldLine.memoryBytes (sizes : Sizes) (held : HeldLine) : Nat :=
  sizes.line + held.cellCapacity * sizes.cell +
    (held.markCapacities.map fun capacity => sizes.entry + capacity * sizes.codePoint).sum

structure Limits where
  maxLines : Nat := 10000
  maxBytes : Nat := 32 * 1024 * 1024

structure Scrollback where
  limits : Limits := {}
  lines : List HeldLine := []
  bytes : Nat := 0
  evicted : Nat := 0
  pushed : Nat := 0
  revision : Nat := 1

/-- An unsigned difference, which must not wrap. -/
def subtract (total cost : Nat) : Checked Nat := ⟨total - cost, decide (cost ≤ total)⟩

namespace Scrollback

variable (sizes : Sizes)

def trimLines (scrollback : Scrollback) : List HeldLine → Checked Scrollback
  | [] => pure { scrollback with lines := [] }
  | front :: rest =>
      if scrollback.limits.maxLines < rest.length + 1 ∨
          scrollback.limits.maxBytes < scrollback.bytes ∧ 1 < rest.length + 1 then do
        let bytes ← subtract scrollback.bytes (front.memoryBytes sizes)
        trimLines
          { scrollback with
            bytes
            evicted := scrollback.evicted + 1
            revision := scrollback.revision + 1 }
          rest
      else pure { scrollback with lines := front :: rest }

def trim (scrollback : Scrollback) : Checked Scrollback := scrollback.trimLines sizes scrollback.lines

def setLimits (scrollback : Scrollback) (limits : Limits) : Checked Scrollback :=
  trim sizes
    { scrollback with
      limits := {
        maxLines := if limits.maxLines = 0 then 1 else limits.maxLines
        maxBytes := if limits.maxBytes = 0 then 1024 * 1024 else limits.maxBytes } }

/-- A row is stored without its trailing blanks; the copy gets the given capacities. -/
def stored (held : HeldLine) (cellCapacity : Nat) (markCapacities : List Nat) : HeldLine :=
  if held.line.trimmedLength < held.line.size then
    ⟨held.line.resize held.line.trimmedLength {}, cellCapacity, markCapacities⟩
  else held

def pushLine (scrollback : Scrollback) : Option HeldLine → Checked Scrollback
  | none => pure scrollback
  | some line =>
      trim sizes
        { scrollback with
          bytes := scrollback.bytes + line.memoryBytes sizes
          lines := scrollback.lines ++ [line]
          pushed := scrollback.pushed + 1
          revision := scrollback.revision + 1 }

def clearScrollback (scrollback : Scrollback) : Scrollback :=
  if scrollback.lines.isEmpty then scrollback
  else
    { scrollback with
      evicted := scrollback.evicted + scrollback.lines.length
      lines := []
      bytes := 0
      revision := scrollback.revision + 1 }

def replaceAll (scrollback : Scrollback) (lines : List (Option HeldLine)) : Checked Scrollback :=
  let lines := lines.reduceOption
  trim sizes
    { scrollback with
      lines
      bytes := (lines.map (HeldLine.memoryBytes sizes)).sum
      revision := scrollback.revision + 1 }

def release (total : Nat) : List HeldLine → Checked Nat
  | [] => pure total
  | line :: rest => do
      let total ← subtract total (line.memoryBytes sizes)
      release total rest

def takeNewest (scrollback : Scrollback) (count : Nat) : Checked (List HeldLine × Scrollback) := do
  let count := min count scrollback.lines.length
  let taken := scrollback.lines.drop (scrollback.lines.length - count)
  let bytes ← release sizes scrollback.bytes taken
  pure (taken,
    { scrollback with
      lines := scrollback.lines.take (scrollback.lines.length - count)
      bytes
      revision := if 0 < count then scrollback.revision + 1 else scrollback.revision })

end Scrollback

/-- A call.  A push names the capacities that a copy would get. -/
inductive Operation where
  | setLimits (limits : Limits)
  | pushLine (line : Option HeldLine) (cellCapacity : Nat) (markCapacities : List Nat)
  | clearScrollback
  | replaceAll (lines : List (Option HeldLine))
  | takeNewest (count : Nat)

/-- The scrollback, and the rows that were pushed since it was last emptied or replaced, less
those that were taken back: what it would hold without limits. -/
structure Recorded where
  scrollback : Scrollback
  history : List HeldLine := []

def Recorded.perform (sizes : Sizes) (recorded : Recorded) : Operation → Checked Recorded
  | .setLimits limits => do
      let scrollback ← recorded.scrollback.setLimits sizes limits
      pure { recorded with scrollback }
  | .pushLine line cellCapacity markCapacities => do
      let line := line.map fun held => Scrollback.stored held cellCapacity markCapacities
      let scrollback ← recorded.scrollback.pushLine sizes line
      pure ⟨scrollback, recorded.history ++ line.toList⟩
  | .clearScrollback => pure ⟨recorded.scrollback.clearScrollback, []⟩
  | .replaceAll lines => do
      let scrollback ← recorded.scrollback.replaceAll sizes lines
      pure ⟨scrollback, lines.reduceOption⟩
  | .takeNewest count => do
      let (taken, scrollback) ← recorded.scrollback.takeNewest sizes count
      pure ⟨scrollback, recorded.history.take (recorded.history.length - taken.length)⟩

def Recorded.performAll (sizes : Sizes) (recorded : Recorded) : List Operation → Checked Recorded
  | [] => pure recorded
  | operation :: rest => do
      let next ← recorded.perform sizes operation
      next.performAll sizes rest

def total (sizes : Sizes) (lines : List HeldLine) : Nat :=
  (lines.map (HeldLine.memoryBytes sizes)).sum

structure Accounted (sizes : Sizes) (recorded : Recorded) : Prop where
  exact : recorded.scrollback.bytes = total sizes recorded.scrollback.lines
  lines_le : recorded.scrollback.lines.length ≤ recorded.scrollback.limits.maxLines
  bytes_le : recorded.scrollback.bytes ≤ recorded.scrollback.limits.maxBytes ∨
    recorded.scrollback.lines.length ≤ 1
  newest : recorded.scrollback.lines <:+ recorded.history

/-- The counters, which no operation lets decrease. -/
def Scrollback.Grows (before after : Scrollback) : Prop :=
  before.pushed ≤ after.pushed ∧ before.revision ≤ after.revision

variable {sizes : Sizes}

@[simp] theorem total_nil : total sizes [] = 0 := rfl

@[simp] theorem total_cons (line : HeldLine) (lines : List HeldLine) :
    total sizes (line :: lines) = line.memoryBytes sizes + total sizes lines := sum_cons

theorem total_append (lines more : List HeldLine) :
    total sizes (lines ++ more) = total sizes lines + total sizes more := by
  simp [total]

theorem holds_subtract {whole cost : Nat} (enough : cost ≤ whole) :
    Holds (fun rest => rest = whole - cost) (subtract whole cost) :=
  ⟨decide_eq_true enough, rfl⟩

theorem holds_release (lines : List HeldLine) {whole : Nat} (enough : total sizes lines ≤ whole) :
    Holds (fun rest => rest = whole - total sizes lines) (Scrollback.release sizes whole lines) := by
  induction lines generalizing whole with
  | nil => exact .pure rfl
  | cons line rest ih =>
    rw [total_cons] at enough
    refine (holds_subtract (by omega)).bind ?_
    rintro _ rfl
    refine (ih (by omega)).mono ?_
    rintro _ rfl
    rw [total_cons]
    omega

/-- What a trim leaves: a newest part within both limits, counted exactly. -/
structure Trimmed (sizes : Sizes) (scrollback : Scrollback) (lines : List HeldLine)
    (trimmed : Scrollback) : Prop where
  grows : scrollback.Grows trimmed
  limits_eq : trimmed.limits = scrollback.limits
  exact : trimmed.bytes = total sizes trimmed.lines
  lines_le : trimmed.lines.length ≤ trimmed.limits.maxLines
  bytes_le : trimmed.bytes ≤ trimmed.limits.maxBytes ∨ trimmed.lines.length ≤ 1
  newest : trimmed.lines <:+ lines

theorem holds_trimLines (lines : List HeldLine) {scrollback : Scrollback}
    (exact : scrollback.bytes = total sizes lines) :
    Holds (Trimmed sizes scrollback lines) (scrollback.trimLines sizes lines) := by
  induction lines generalizing scrollback with
  | nil =>
    exact .pure ⟨⟨Nat.le_refl _, Nat.le_refl _⟩, rfl, exact, Nat.zero_le _,
      Or.inr (Nat.zero_le _), suffix_refl _⟩
  | cons front rest ih =>
    rw [total_cons] at exact
    unfold Scrollback.trimLines
    refine .ite (fun _ => ?_) fun within => ?_
    · refine (holds_subtract (by omega)).bind ?_
      rintro _ rfl
      refine (ih (by dsimp only; omega)).mono ?_
      intro trimmed holds
      obtain ⟨hpushed, hrevision⟩ := holds.grows
      exact ⟨⟨hpushed, (Nat.le_succ _).trans hrevision⟩, holds.limits_eq, holds.exact,
        holds.lines_le, holds.bytes_le, holds.newest.trans (suffix_cons front rest)⟩
    · refine .pure ⟨⟨Nat.le_refl _, Nat.le_refl _⟩, rfl, ?_, ?_, ?_, suffix_refl _⟩
      · rw [total_cons]
        exact exact
      · dsimp only
        rw [length_cons]
        omega
      · dsimp only
        rw [length_cons]
        omega

theorem holds_trim {scrollback : Scrollback}
    (exact : scrollback.bytes = total sizes scrollback.lines) :
    Holds (Trimmed sizes scrollback scrollback.lines) (scrollback.trim sizes) :=
  holds_trimLines scrollback.lines exact

theorem Trimmed.accounted {scrollback trimmed : Scrollback} {lines history : List HeldLine}
    (holds : Trimmed sizes scrollback lines trimmed) (newest : lines <:+ history) :
    Accounted sizes ⟨trimmed, history⟩ :=
  ⟨holds.exact, holds.lines_le, holds.bytes_le, holds.newest.trans newest⟩

variable {recorded : Recorded}

theorem Accounted.setLimits (accounted : Accounted sizes recorded) (limits : Limits) :
    Holds (fun next => Accounted sizes next ∧ recorded.scrollback.Grows next.scrollback)
      (recorded.perform sizes (.setLimits limits)) := by
  refine (holds_trim (by exact accounted.exact)).bind ?_
  intro trimmed holds
  exact .pure ⟨holds.accounted accounted.newest, holds.grows⟩

theorem Accounted.pushLine (accounted : Accounted sizes recorded) (line : Option HeldLine)
    (cellCapacity : Nat) (markCapacities : List Nat) :
    Holds (fun next => Accounted sizes next ∧ recorded.scrollback.Grows next.scrollback)
      (recorded.perform sizes (.pushLine line cellCapacity markCapacities)) := by
  cases line with
  | none =>
    refine .pure ⟨?_, Nat.le_refl _, Nat.le_refl _⟩
    change Accounted sizes ⟨recorded.scrollback, recorded.history ++ []⟩
    rw [append_nil]
    exact accounted
  | some held =>
    refine (holds_trim ?_).bind ?_
    · dsimp only
      rw [accounted.exact, total_append, total_cons, total_nil, Nat.add_zero]
    · intro trimmed holds
      obtain ⟨hpushed, hrevision⟩ := holds.grows
      refine .pure ⟨holds.accounted ?_, (Nat.le_succ _).trans hpushed,
        (Nat.le_succ _).trans hrevision⟩
      obtain ⟨older, hhistory⟩ := accounted.newest
      exact ⟨older, (append_assoc _ _ _).symm.trans (congrArg (· ++ _) hhistory)⟩

theorem Accounted.clearScrollback (accounted : Accounted sizes recorded) :
    Holds (fun next => Accounted sizes next ∧ recorded.scrollback.Grows next.scrollback)
      (recorded.perform sizes .clearScrollback) := by
  refine .pure ?_
  unfold Scrollback.clearScrollback
  split
  · rename_i hempty
    have hnone := List.isEmpty_iff.mp hempty
    refine ⟨⟨accounted.exact, accounted.lines_le, accounted.bytes_le, ?_⟩, Nat.le_refl _,
      Nat.le_refl _⟩
    simp only [hnone, suffix_refl]
  · exact ⟨⟨rfl, Nat.zero_le _, .inr (Nat.zero_le _), suffix_refl _⟩, Nat.le_refl _,
      Nat.le_succ _⟩

theorem Accounted.replaceAll (lines : List (Option HeldLine)) :
    Holds (fun next => Accounted sizes next ∧ recorded.scrollback.Grows next.scrollback)
      (recorded.perform sizes (.replaceAll lines)) := by
  refine (holds_trim (by rfl)).bind ?_
  intro trimmed holds
  obtain ⟨hpushed, hrevision⟩ := holds.grows
  exact .pure ⟨holds.accounted (suffix_refl _), hpushed, (Nat.le_succ _).trans hrevision⟩

theorem holds_takeNewest {scrollback : Scrollback}
    (exact : scrollback.bytes = total sizes scrollback.lines) (count : Nat) :
    let newest := min count scrollback.lines.length
    let older := scrollback.lines.take (scrollback.lines.length - newest)
    Holds (fun taken => taken = (scrollback.lines.drop (scrollback.lines.length - newest),
        { scrollback with
          lines := older
          bytes := total sizes older
          revision := if 0 < newest then scrollback.revision + 1 else scrollback.revision }))
      (scrollback.takeNewest sizes count) := by
  have hsplit := congrArg (total sizes) (take_append_drop
    (scrollback.lines.length - min count scrollback.lines.length) scrollback.lines)
  rw [total_append] at hsplit
  refine (holds_release _ (by omega)).bind ?_
  rintro _ rfl
  have hrest : scrollback.bytes - total sizes (scrollback.lines.drop
        (scrollback.lines.length - min count scrollback.lines.length)) =
      total sizes (scrollback.lines.take
        (scrollback.lines.length - min count scrollback.lines.length)) := by omega
  rw [hrest]
  exact .pure rfl

theorem Accounted.takeNewest (accounted : Accounted sizes recorded) (count : Nat) :
    Holds (fun next => Accounted sizes next ∧ recorded.scrollback.Grows next.scrollback)
      (recorded.perform sizes (.takeNewest count)) := by
  have hlines := accounted.lines_le
  have hbytes := accounted.bytes_le
  have hexact := accounted.exact
  obtain ⟨older, hhistory⟩ := accounted.newest
  have hsplit := congrArg (total sizes) (take_append_drop (recorded.scrollback.lines.length -
    min count recorded.scrollback.lines.length) recorded.scrollback.lines)
  rw [total_append] at hsplit
  refine (holds_takeNewest hexact count).bind ?_
  rintro _ rfl
  refine .pure ⟨⟨rfl, ?_, ?_, ?_⟩, Nat.le_refl _, ?_⟩
  · dsimp only
    rw [length_take]
    omega
  · dsimp only
    rw [length_take]
    omega
  · -- The rows that are taken back are the last ones of the history.
    have hleft : (older ++ recorded.scrollback.lines).length - (recorded.scrollback.lines.drop
          (recorded.scrollback.lines.length - min count recorded.scrollback.lines.length)).length =
        older.length +
          (recorded.scrollback.lines.length - min count recorded.scrollback.lines.length) := by
      rw [length_append, length_drop]
      omega
    rw [← hhistory, hleft, take_length_add_append]
    exact suffix_append _ _
  · dsimp only
    split <;> omega

theorem Accounted.perform (accounted : Accounted sizes recorded) (operation : Operation) :
    Holds (fun next => Accounted sizes next ∧ recorded.scrollback.Grows next.scrollback)
      (recorded.perform sizes operation) := by
  cases operation with
  | setLimits limits => exact accounted.setLimits limits
  | pushLine line cellCapacity markCapacities =>
    exact accounted.pushLine line cellCapacity markCapacities
  | clearScrollback => exact accounted.clearScrollback
  | replaceAll lines => exact Accounted.replaceAll lines
  | takeNewest count => exact accounted.takeNewest count

theorem Accounted.performAll (accounted : Accounted sizes recorded) (operations : List Operation) :
    Holds (fun final => Accounted sizes final ∧ recorded.scrollback.Grows final.scrollback)
      (recorded.performAll sizes operations) := by
  induction operations generalizing recorded with
  | nil => exact .pure ⟨accounted, Nat.le_refl _, Nat.le_refl _⟩
  | cons operation rest ih =>
    refine (accounted.perform operation).bind ?_
    rintro next ⟨hnext, hpushed, hrevision⟩
    refine (ih hnext).mono ?_
    rintro final ⟨hfinal, hpushed', hrevision'⟩
    exact ⟨hfinal, hpushed.trans hpushed', hrevision.trans hrevision'⟩

/-- From an empty scrollback, under whatever limits it was made with, no operation makes the
count wrap; the count is exact, both limits hold, what is retained is the newest part of the
history, and no further operations let a counter decrease. -/
theorem scrollback_accounting (sizes : Sizes) (limits : Limits) (operations more : List Operation) :
    Holds (fun recorded => Accounted sizes recorded ∧
        Holds (fun later => recorded.scrollback.Grows later.scrollback)
          (recorded.performAll sizes more))
      (Recorded.performAll sizes { scrollback := { limits } } operations) := by
  have hinitial : Accounted sizes { scrollback := { limits } } :=
    ⟨rfl, Nat.zero_le _, .inl (Nat.zero_le _), suffix_refl _⟩
  refine (hinitial.performAll operations).mono ?_
  rintro recorded ⟨haccounted, -⟩
  exact ⟨haccounted, (haccounted.performAll more).mono fun _ holds => holds.2⟩

end Hypeterm.Term.Accounting
