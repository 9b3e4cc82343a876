import Mathlib.Algebra.Order.Field.Basic
import Mathlib.Tactic.Linarith
import Mathlib.Tactic.FieldSimp
import Mathlib.Tactic.Ring

/-! Token buckets in exact arithmetic: a bucket gains tokens at a constant rate up to its
capacity, and every request that is granted takes one. -/
namespace Hypeterm.Library

open List

structure TokenBucket (K : Type*) where
  tokens : K
  lastRefill : K

namespace TokenBucket

variable {K : Type*} [Field K] [LinearOrder K]

def full (capacity now : K) : TokenBucket K := ⟨capacity, now⟩

def refill (bucket : TokenBucket K) (capacity rate now : K) : TokenBucket K :=
  ⟨min (bucket.tokens + (now - bucket.lastRefill) * rate) capacity, now⟩

def take (bucket : TokenBucket K) : TokenBucket K × Bool :=
  if 1 ≤ bucket.tokens then ({ bucket with tokens := bucket.tokens - 1 }, true)
  else (bucket, false)

def request (bucket : TokenBucket K) (capacity rate now : K) : TokenBucket K × Bool :=
  (bucket.refill capacity rate now).take

/-- How many of the requests made at the listed times are granted. -/
def granted (capacity rate : K) : TokenBucket K → List K → Nat
  | _, [] => 0
  | bucket, now :: later =>
      let requested := bucket.request capacity rate now
      (if requested.2 then 1 else 0) + granted capacity rate requested.1 later

section

variable {bucket : TokenBucket K} {capacity rate now : K}

@[simp] theorem lastRefill_request : (bucket.request capacity rate now).1.lastRefill = now := by
  unfold request take
  split <;> rfl

theorem tokens_request : (bucket.request capacity rate now).1.tokens +
        ((if (bucket.request capacity rate now).2 then 1 else 0 : Nat) : K) =
      (bucket.refill capacity rate now).tokens := by
  unfold request take
  split
  · simp
  · simp

theorem tokens_refill_le : (bucket.refill capacity rate now).tokens ≤ capacity := min_le_right _ _

theorem tokens_refill_le_grown : (bucket.refill capacity rate now).tokens ≤
    bucket.tokens + (now - bucket.lastRefill) * rate := min_le_left _ _

@[simp] theorem refill_full : (full capacity now).refill capacity rate now = full capacity now := by
  unfold refill full
  simp

variable [IsStrictOrderedRing K]

section

variable (stocked : 0 ≤ bucket.tokens) (roomy : 0 ≤ capacity)
include stocked roomy

theorem tokens_refill_nonneg (grows : 0 ≤ rate) (later : bucket.lastRefill ≤ now) :
    0 ≤ (bucket.refill capacity rate now).tokens := by
  have hgrown : 0 ≤ (now - bucket.lastRefill) * rate := mul_nonneg (sub_nonneg.mpr later) grows
  exact le_min (add_nonneg stocked hgrown) roomy

theorem tokens_request_nonneg (grows : 0 ≤ rate) (later : bucket.lastRefill ≤ now) :
    0 ≤ (bucket.request capacity rate now).1.tokens := by
  have hrefilled := tokens_refill_nonneg stocked roomy grows later
  unfold request take
  split
  · rename_i henough
    exact sub_nonneg.mpr henough
  · exact hrefilled

theorem refill_eq_full {window : K}
    (positive : 0 < window) (idle : bucket.lastRefill + window ≤ now) :
    bucket.refill capacity (capacity / window) now = full capacity now := by
  have hrate : 0 ≤ capacity / window := div_nonneg roomy positive.le
  have hgrown : capacity ≤ (now - bucket.lastRefill) * (capacity / window) := by
    calc capacity = window * (capacity / window) := by field_simp
      _ ≤ (now - bucket.lastRefill) * (capacity / window) :=
        mul_le_mul_of_nonneg_right (by linarith) hrate
  unfold refill full
  rw [min_eq_right (by linarith)]

end

theorem granted_le_of_bucket {stop : K} {times : List K} (stocked : 0 ≤ bucket.tokens)
    (roomy : 0 ≤ capacity) (grows : 0 ≤ rate)
    (ordered : (bucket.lastRefill :: times).Pairwise (· ≤ ·))
    (ends : ∀ now ∈ bucket.lastRefill :: times, now ≤ stop) :
    (granted capacity rate bucket times : K) ≤
      bucket.tokens + (stop - bucket.lastRefill) * rate := by
  induction times generalizing bucket with
  | nil =>
    have hends := ends bucket.lastRefill mem_cons_self
    have hgrown : 0 ≤ (stop - bucket.lastRefill) * rate :=
      mul_nonneg (sub_nonneg.mpr hends) grows
    simp only [granted, Nat.cast_zero]
    linarith
  | cons now later ih =>
    obtain ⟨hbefore, hordered⟩ := pairwise_cons.mp ordered
    have hlater := hbefore now mem_cons_self
    have hrest := @ih (bucket.request capacity rate now).1
      (tokens_request_nonneg stocked roomy grows hlater)
      (by rw [lastRefill_request]; exact hordered)
      (by
        rw [lastRefill_request]
        exact fun other member => ends other (mem_cons_of_mem _ member))
    have htokens := @tokens_request K _ _ bucket capacity rate now
    have hgrown := @tokens_refill_le_grown K _ _ bucket capacity rate now
    rw [lastRefill_request] at hrest
    simp only [granted, Nat.cast_add]
    calc _ ≤ _ := add_le_add_right hrest _
      _ = (bucket.refill capacity rate now).tokens + (stop - now) * rate := by
        rw [← htokens]
        ring
      _ ≤ bucket.tokens + (now - bucket.lastRefill) * rate + (stop - now) * rate :=
        add_le_add_left hgrown _
      _ = bucket.tokens + (stop - bucket.lastRefill) * rate := by ring

theorem granted_le {start stop : K} {times : List K} (stocked : 0 ≤ bucket.tokens)
    (roomy : 0 ≤ capacity) (grows : 0 ≤ rate)
    (ordered : (bucket.lastRefill :: times).Pairwise (· ≤ ·)) (span : start ≤ stop)
    (within : ∀ now ∈ times, start ≤ now ∧ now ≤ stop) :
    (granted capacity rate bucket times : K) ≤ capacity + (stop - start) * rate := by
  cases times with
  | nil =>
    have hgrown : 0 ≤ (stop - start) * rate := mul_nonneg (sub_nonneg.mpr span) grows
    simp only [granted, Nat.cast_zero]
    linarith
  | cons now later =>
    obtain ⟨hbefore, hordered⟩ := pairwise_cons.mp ordered
    have hlater := hbefore now mem_cons_self
    have hrest := @granted_le_of_bucket K _ _ (bucket.request capacity rate now).1 capacity rate _
      stop later (tokens_request_nonneg stocked roomy grows hlater) roomy grows
      (by rw [lastRefill_request]; exact hordered)
      (by
        rw [lastRefill_request]
        exact fun other member => (within other member).2)
    have htokens := @tokens_request K _ _ bucket capacity rate now
    have hroom := @tokens_refill_le K _ _ bucket capacity rate now
    have hfrom : (stop - now) * rate ≤ (stop - start) * rate :=
      mul_le_mul_of_nonneg_right (by linarith [(within now mem_cons_self).1]) grows
    rw [lastRefill_request] at hrest
    simp only [granted, Nat.cast_add]
    calc _ ≤ _ := add_le_add_right hrest _
      _ = (bucket.refill capacity rate now).tokens + (stop - now) * rate := by
        rw [← htokens]
        ring
      _ ≤ capacity + (stop - start) * rate := add_le_add hroom hfrom

end

end TokenBucket

end Hypeterm.Library
