import Hypeterm.Types
import Hypeterm.Library.Stream

/-! The bounded in-memory replay buffer.  It always holds a contiguous suffix of
a terminal's output stream, never longer than its capacity. -/
namespace Hypeterm.Relay

open Library List

/-- Both bounds are carried by the value: no operation can build a ring without
room for a byte or one that holds more than its capacity. -/
structure Ring where
  buf : Bytes
  earliestOffset : Nat
  capacity : Nat
  capacity_pos : 0 < capacity
  bounded : buf.length ≤ capacity

def Ring.new (capacity earliestOffset : Nat) : Ring where
  buf := []
  earliestOffset := earliestOffset
  capacity := max capacity 1
  capacity_pos := by omega
  bounded := by simp

def Ring.endOffset (ring : Ring) : Nat := ring.earliestOffset + ring.buf.length

/-- Rebuild from a durable checkpoint.  A stored suffix longer than a capacity
reduced since is trimmed to its newest bytes. -/
def Ring.fromRetained (capacity earliestOffset : Nat) (retained : Bytes) : Ring :=
  let ring := Ring.new capacity earliestOffset
  if h : ring.capacity < retained.length then
    let drop := retained.length - ring.capacity
    { ring with
      buf := retained.drop drop
      earliestOffset := ring.earliestOffset + drop
      bounded := by
        rw [length_drop]
        omega }
  else
    { ring with buf := retained, bounded := Nat.le_of_not_lt h }

/-- Apply a capacity change, evicting at once when the new capacity is smaller.
Returns the number of bytes evicted. -/
def Ring.setCapacity (ring : Ring) (capacity : Nat) : Ring × Nat :=
  let capacity := max capacity 1
  if capacity = ring.capacity then (ring, 0)
  else
    -- A drain of nothing and an offset increase of nothing leave a ring that
    -- fits as it was, so the source's `overflow > 0` test needs no second branch.
    let overflow := ring.buf.length - capacity
    ({ buf := ring.buf.drop overflow
       earliestOffset := ring.earliestOffset + overflow
       capacity := capacity
       capacity_pos := by omega
       bounded := by
        rw [length_drop]
        omega }, overflow)

/-- Append a payload, evicting the oldest bytes first when the window would
overflow.  A frame at least as large as the window replaces all of it: the
stream advances by the frame's full length and only its tail is retained. -/
def Ring.append (ring : Ring) (data : Bytes) : Ring × Nat :=
  if data.isEmpty then (ring, 0)
  else if h : ring.capacity ≤ data.length then
    let evicted := ring.buf.length + (data.length - ring.capacity)
    let newEnd := ring.endOffset + data.length
    ({ ring with
       buf := data.drop (data.length - ring.capacity)
       earliestOffset := newEnd - ring.capacity
       bounded := by
        rw [length_drop]
        omega }, evicted)
  else
    let overflow := ring.buf.length + data.length - ring.capacity
    ({ ring with
       buf := ring.buf.drop overflow ++ data
       earliestOffset := ring.earliestOffset + overflow
       bounded := by
        rw [length_append, length_drop]
        omega }, overflow)

/-- Copy `len` bytes from position `start` out of a deque that lies in memory as
two contiguous halves. -/
def copyHalves (first second : Bytes) (start len : Nat) : Bytes :=
  let fromFirst := min start first.length
  let takeFirst := min (first.length - fromFirst) len
  let out := (first.drop fromFirst).take takeFirst
  if out.length < len then
    let remaining := len - out.length
    let fromSecond := start - first.length
    out ++ (second.drop fromSecond).take remaining
  else out

theorem copyHalves_eq (first second : Bytes) (start len : Nat) :
    copyHalves first second start len = ((first ++ second).drop start).take len := by
  unfold copyHalves
  dsimp only
  rcases Nat.le_total start first.length with hstart | hstart
  · have htake : (first.drop start).take (min (first.length - start) len) =
        (first.drop start).take len := by
      rw [← length_drop, take_eq_take_iff]
      omega
    have hfrom : start - first.length = 0 := by omega
    rw [Nat.min_eq_left hstart, drop_append_of_le_length hstart, take_append, htake,
      hfrom, drop_zero, length_take, length_drop]
    split
    · congr 2
      omega
    · have hnone : len - (first.length - start) = 0 := by omega
      rw [hnone, take_zero, append_nil]
  · rw [Nat.min_eq_right hstart, Nat.sub_self, Nat.zero_min, take_zero,
      drop_append, drop_eq_nil_of_le hstart, nil_append]
    simp only [length_nil, Nat.sub_zero, nil_append]
    split
    · rfl
    · have hlen : len = 0 := by omega
      rw [hlen, take_zero]

/-- Copy out `[lo, hi)`, or `none` if any of it is outside the retained window.
By `copyHalves_eq` it is immaterial where the deque is split; here its first
half is everything. -/
def Ring.readRange (ring : Ring) (lo hi : Nat) : Option Bytes :=
  if hi < lo ∨ lo < ring.earliestOffset ∨ ring.endOffset < hi then none
  else some (copyHalves ring.buf [] (lo - ring.earliestOffset) (hi - lo))

structure Ring.Exposes (ring : Ring) (stream : Bytes) : Prop where
  earliest_le : ring.earliestOffset ≤ stream.length
  buf_eq : ring.buf = stream.drop ring.earliestOffset

variable {stream : Bytes}

theorem Ring.Exposes.endOffset_eq {ring : Ring} (exposes : ring.Exposes stream) :
    ring.endOffset = stream.length := by
  have hle := exposes.earliest_le
  rw [Ring.endOffset, exposes.buf_eq, length_drop]
  omega

theorem Ring.fromRetained_eq (capacity earliestOffset : Nat) (retained : Bytes) :
    (Ring.fromRetained capacity earliestOffset retained).earliestOffset =
        earliestOffset + (retained.length - max capacity 1) ∧
      (Ring.fromRetained capacity earliestOffset retained).buf =
        retained.drop (retained.length - max capacity 1) ∧
      (Ring.fromRetained capacity earliestOffset retained).capacity = max capacity 1 := by
  by_cases hfits : max capacity 1 < retained.length
  · have hlong : (Ring.new capacity earliestOffset).capacity < retained.length := hfits
    unfold Ring.fromRetained
    simp only [dif_pos hlong]
    exact ⟨rfl, rfl, rfl⟩
  · have hshort : ¬ (Ring.new capacity earliestOffset).capacity < retained.length := hfits
    have hzero : retained.length - max capacity 1 = 0 := by omega
    unfold Ring.fromRetained
    simp only [dif_neg hshort]
    rw [hzero]
    exact ⟨rfl, rfl, rfl⟩

theorem Ring.Exposes.fromRetained {earliestOffset : Nat} (capacity : Nat)
    (bound : earliestOffset ≤ stream.length) :
    (Ring.fromRetained capacity earliestOffset (stream.drop earliestOffset)).Exposes stream := by
  obtain ⟨hearliest, hbuf, _⟩ :=
    Ring.fromRetained_eq capacity earliestOffset (stream.drop earliestOffset)
  have hlen : (stream.drop earliestOffset).length = stream.length - earliestOffset :=
    length_drop
  constructor
  · rw [hearliest, hlen]
    omega
  · rw [hearliest, hbuf, drop_drop]

theorem Ring.Exposes.setCapacity {ring : Ring} (exposes : ring.Exposes stream)
    (capacity : Nat) : (ring.setCapacity capacity).1.Exposes stream := by
  unfold Ring.setCapacity
  dsimp only
  split
  · exact exposes
  · have hend := exposes.endOffset_eq
    unfold Ring.endOffset at hend
    constructor
    · dsimp only
      omega
    · dsimp only
      rw [exposes.buf_eq, drop_drop]

theorem Ring.Exposes.append {ring : Ring} (exposes : ring.Exposes stream)
    (data : Bytes) : (ring.append data).1.Exposes (stream ++ data) := by
  have hend := exposes.endOffset_eq
  have hbounded := ring.bounded
  unfold Ring.append
  split
  · rename_i hempty
    rw [List.isEmpty_iff.mp hempty, append_nil]
    exact exposes
  · split
    · rename_i hlarge
      constructor
      · dsimp only
        rw [length_append]
        omega
      · dsimp only
        have hskip : ring.endOffset + data.length - ring.capacity =
            stream.length + (data.length - ring.capacity) := by omega
        have hold : stream.drop (stream.length + (data.length - ring.capacity)) = [] :=
          drop_eq_nil_of_le (Nat.le_add_right _ _)
        rw [hskip, drop_append, hold, nil_append, Nat.add_sub_cancel_left]
    · rename_i hsmall
      unfold Ring.endOffset at hend
      constructor
      · dsimp only
        rw [length_append]
        omega
      · dsimp only
        rw [drop_append_of_le_length (by omega), ← drop_drop, ← exposes.buf_eq]

theorem Ring.Exposes.readRange {ring : Ring} (exposes : ring.Exposes stream)
    {lo hi : Nat} (order : lo ≤ hi) (low : ring.earliestOffset ≤ lo) (high : hi ≤ stream.length) :
    ring.readRange lo hi = some (slice stream lo hi) := by
  unfold Ring.readRange
  rw [exposes.endOffset_eq, if_neg (by omega), copyHalves_eq, append_nil, exposes.buf_eq, drop_drop]
  unfold slice
  congr 3
  omega

theorem Ring.earliestOffset_le_setCapacity (ring : Ring) (capacity : Nat) :
    ring.earliestOffset ≤ (ring.setCapacity capacity).1.earliestOffset := by
  unfold Ring.setCapacity
  dsimp only
  split
  · exact Nat.le_refl _
  · exact Nat.le_add_right _ _

theorem Ring.earliestOffset_le_append (ring : Ring) (data : Bytes) :
    ring.earliestOffset ≤ (ring.append data).1.earliestOffset := by
  unfold Ring.append
  split
  · exact Nat.le_refl _
  · split
    · rename_i hlarge
      dsimp only [Ring.endOffset]
      omega
    · exact Nat.le_add_right _ _

end Hypeterm.Relay
