import Mathlib.Data.List.Sort

/-! Ranges of a stream and the segments that store them.  Positions count from
the start of the stream; a segment names its own bounds, as a stored row does. -/
namespace Hypeterm.Library

open List

variable {α : Type*}

def slice (stream : List α) (lo hi : Nat) : List α :=
  (stream.drop lo).take (hi - lo)

variable {stream : List α}

theorem length_slice {lo hi : Nat} (bound : hi ≤ stream.length) :
    (slice stream lo hi).length = hi - lo := by
  unfold slice
  rw [length_take, length_drop]
  omega

@[simp] theorem slice_self (stream : List α) (lo : Nat) : slice stream lo lo = [] := by
  simp [slice]

theorem slice_length (stream : List α) (lo : Nat) :
    slice stream lo stream.length = stream.drop lo := by
  unfold slice
  exact take_of_length_le (by rw [length_drop])

theorem slice_append_slice (stream : List α) {lo mid hi : Nat} (low : lo ≤ mid)
    (high : mid ≤ hi) : slice stream lo mid ++ slice stream mid hi = slice stream lo hi := by
  unfold slice
  have hmid : stream.drop mid = (stream.drop lo).drop (mid - lo) := by
    rw [drop_drop]
    congr 1
    omega
  have hsum : hi - lo = (mid - lo) + (hi - mid) := by omega
  rw [hmid, hsum, take_add]

theorem drop_slice (stream : List α) (lo hi count : Nat) :
    (slice stream lo hi).drop count = slice stream (lo + count) hi := by
  unfold slice
  rw [drop_take, drop_drop]
  congr 1
  omega

theorem slice_append {hi : Nat} (added : List α) (lo : Nat)
    (bound : hi ≤ stream.length) : slice (stream ++ added) lo hi = slice stream lo hi := by
  unfold slice
  rcases Nat.le_total lo hi with low | low
  · rw [drop_append_of_le_length (low.trans bound), take_append_of_le_length]
    rw [length_drop]
    omega
  · simp [Nat.sub_eq_zero_of_le low]

theorem slice_append_right (stream added : List α) :
    slice (stream ++ added) stream.length (stream.length + added.length) = added := by
  unfold slice
  rw [drop_left, Nat.add_sub_cancel_left, take_length]

theorem slice_take {hi count : Nat} (lo : Nat) (bound : hi ≤ count) :
    slice (stream.take count) lo hi = slice stream lo hi := by
  unfold slice
  rw [drop_take, take_take]
  congr 1
  omega

/-- A stored range: its bounds as recorded and its content. -/
structure Segment (α : Type*) where
  start : Nat
  stop : Nat
  payload : List α

/-- Consecutive segments, oldest first, that cover `[lo, hi)` exactly and hold
the stream's own elements there. -/
def Tiles (stream : List α) : Nat → List (Segment α) → Nat → Prop
  | lo, [], hi => lo = hi
  | lo, segment :: rest, hi =>
      segment.start = lo ∧ lo < segment.stop ∧ segment.stop ≤ stream.length ∧
        segment.payload = slice stream lo segment.stop ∧ Tiles stream segment.stop rest hi

variable {segments : List (Segment α)}

theorem Tiles.le {lo hi : Nat} (tiles : Tiles stream lo segments hi) : lo ≤ hi := by
  induction segments generalizing lo with
  | nil => exact Nat.le_of_eq tiles
  | cons segment rest ih =>
    obtain ⟨_, hlt, _, _, hrest⟩ := tiles
    exact hlt.le.trans (ih hrest)

theorem Tiles.bounds {lo hi : Nat}
    (tiles : Tiles stream lo segments hi) {segment : Segment α} (member : segment ∈ segments) :
    lo ≤ segment.start ∧ segment.start < segment.stop ∧ segment.stop ≤ hi := by
  induction segments generalizing lo with
  | nil => cases member
  | cons first rest ih =>
    obtain ⟨hstart, hlt, _, _, hrest⟩ := tiles
    rcases mem_cons.mp member with rfl | member
    · exact ⟨hstart.ge, hstart ▸ hlt, hrest.le⟩
    · obtain ⟨hlow, hmid, hhigh⟩ := ih hrest member
      exact ⟨hlt.le.trans hlow, hmid, hhigh⟩

theorem Tiles.pairwise {lo hi : Nat} (tiles : Tiles stream lo segments hi) :
    segments.Pairwise fun left right => left.stop ≤ right.start := by
  induction segments generalizing lo with
  | nil => exact List.Pairwise.nil
  | cons first rest ih =>
    obtain ⟨_, _, _, _, hrest⟩ := tiles
    exact List.Pairwise.cons (fun segment member => (hrest.bounds member).1) (ih hrest)

theorem Tiles.eq_of_start_eq {lo hi : Nat}
    (tiles : Tiles stream lo segments hi) {left right : Segment α} (leftMem : left ∈ segments)
    (rightMem : right ∈ segments) (same : left.start = right.start) : left = right := by
  induction segments generalizing lo with
  | nil => cases leftMem
  | cons first rest ih =>
    have hpairwise := (pairwise_cons.mp tiles.pairwise).1
    have hfirst := tiles.bounds mem_cons_self
    obtain ⟨_, _, _, _, hrest⟩ := tiles
    rcases mem_cons.mp leftMem with heqLeft | leftMem
    · rcases mem_cons.mp rightMem with heqRight | rightMem
      · rw [heqLeft, heqRight]
      · have := hpairwise right rightMem
        rw [heqLeft] at same
        omega
    · rcases mem_cons.mp rightMem with heq | rightMem
      · have := hpairwise left leftMem
        rw [heq] at same
        omega
      · exact ih hrest leftMem rightMem

theorem Tiles.congr {stream other : List α} {lo hi : Nat}
    (tiles : Tiles stream lo segments hi) (bound : hi ≤ other.length)
    (agree : ∀ low high, high ≤ hi → slice stream low high = slice other low high) :
    Tiles other lo segments hi := by
  induction segments generalizing lo with
  | nil => exact tiles
  | cons first rest ih =>
    obtain ⟨hstart, hlt, _, hpayload, hrest⟩ := tiles
    refine ⟨hstart, hlt, hrest.le.trans bound, ?_, ih hrest⟩
    rw [hpayload]
    exact agree lo first.stop hrest.le

theorem Tiles.append {lo hi : Nat}
    (tiles : Tiles stream lo segments hi) (added : List α) (bound : hi ≤ stream.length) :
    Tiles (stream ++ added) lo segments hi := by
  apply tiles.congr
  · rw [length_append]
    omega
  · intro low high hhigh
    rw [slice_append added low (hhigh.trans bound)]

theorem Tiles.take {stream : List α} {lo hi : Nat} {segments : List (Segment α)}
    (tiles : Tiles stream lo segments hi) (bound : hi ≤ stream.length) :
    Tiles (stream.take hi) lo segments hi := by
  apply tiles.congr
  · rw [length_take]
    omega
  · intro low high hhigh
    rw [slice_take low hhigh]

theorem Tiles.snoc {lo mid hi : Nat}
    (tiles : Tiles stream lo segments mid) (grows : mid < hi) (bound : hi ≤ stream.length) :
    Tiles stream lo (segments ++ [⟨mid, hi, slice stream mid hi⟩]) hi := by
  induction segments generalizing lo with
  | nil =>
    have hbound : lo = mid := tiles
    subst hbound
    exact ⟨rfl, grows, bound, rfl, rfl⟩
  | cons first rest ih =>
    obtain ⟨hstart, hlt, hstop, hpayload, hrest⟩ := tiles
    exact ⟨hstart, hlt, hstop, hpayload, ih hrest⟩

/-- The segment that stores `[lo, hi)`; an empty range needs none. -/
def rangeSegments (stream : List α) (lo hi : Nat) : List (Segment α) :=
  if lo < hi then [⟨lo, hi, slice stream lo hi⟩] else []

theorem Tiles.append_range {lo mid hi : Nat}
    (tiles : Tiles stream lo segments mid) (order : mid ≤ hi) (bound : hi ≤ stream.length) :
    Tiles stream lo (segments ++ rangeSegments stream mid hi) hi := by
  unfold rangeSegments
  split
  · rename_i hgrows
    exact tiles.snoc hgrows bound
  · rename_i hempty
    rw [append_nil, show hi = mid by omega]
    exact tiles

theorem tiles_range {lo hi : Nat} (order : lo ≤ hi) (bound : hi ≤ stream.length) :
    Tiles stream lo (rangeSegments stream lo hi) hi :=
  Tiles.append_range (show Tiles stream lo [] lo from rfl) order bound

def Segment.above (segment : Segment α) (cut : Nat) : Segment α :=
  ⟨cut, segment.stop, segment.payload.drop (cut - segment.start)⟩

/-- Cutting a tiling from below keeps the segments that reach past the cut.
Only the first of them can start below it, and trimming that one restores an
exact tiling of what is left. -/
theorem Tiles.cut {stream : List α} {lo hi cut : Nat} {segments : List (Segment α)}
    (tiles : Tiles stream lo segments hi) (low : lo ≤ cut) (high : cut ≤ hi) :
    Tiles stream cut (segments.filter fun segment => cut < segment.stop) hi ∨
      ∃ first rest, (segments.filter fun segment => cut < segment.stop) = first :: rest ∧
        first.start < cut ∧ cut < first.stop ∧ Tiles stream cut (first.above cut :: rest) hi := by
  induction segments generalizing lo with
  | nil =>
    have hbound : lo = hi := tiles
    exact .inl (le_antisymm high (hbound ▸ low))
  | cons segment rest ih =>
    obtain ⟨hstart, hlt, hstop, hpayload, hrest⟩ := tiles
    by_cases hcut : cut < segment.stop
    · have hkeep : (rest.filter fun other => cut < other.stop) = rest := by
        rw [filter_eq_self]
        intro other member
        have := hrest.bounds member
        simp only [decide_eq_true_eq]
        omega
      have hfilter : ((segment :: rest).filter fun other => cut < other.stop) = segment :: rest := by
        rw [filter_cons_of_pos (by simpa using hcut), hkeep]
      by_cases hlow : segment.start < cut
      · right
        refine ⟨segment, rest, hfilter, hlow, hcut, rfl, hcut, hstop, ?_, hrest⟩
        change segment.payload.drop (cut - segment.start) = slice stream cut segment.stop
        rw [hpayload, drop_slice, ← hstart]
        congr 1
        omega
      · left
        have hcutlo : cut = lo := by omega
        rw [hfilter, hcutlo]
        exact ⟨hstart, hlt, hstop, hpayload, hrest⟩
    · rw [filter_cons_of_neg (by simpa using hcut)]
      exact ih hrest (by omega)

end Hypeterm.Library
