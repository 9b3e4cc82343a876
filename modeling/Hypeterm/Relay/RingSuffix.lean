import Hypeterm.Relay.Ring

/-! The ring against the stream it is a window of.  The reference keeps every byte; the ring's
offsets are machine words, which the sums of the source wrap. -/
namespace Hypeterm.Relay

open Library List

def Ring.wrap (ring : Ring) : Ring := { ring with earliestOffset := ring.earliestOffset % 2 ^ 64 }

inductive RingOp where
  | append (data : Bytes)
  | setCapacity (capacity : Nat)

def Ring.perform (ring : Ring) : RingOp → Ring × Nat
  | .append data => ((ring.append data).1.wrap, (ring.append data).2)
  | .setCapacity capacity => ((ring.setCapacity capacity).1.wrap, (ring.setCapacity capacity).2)

def Ring.performAll (ring : Ring) : List RingOp → Ring × List Nat
  | [] => (ring, [])
  | op :: rest =>
      let performed := (ring.perform op).1.performAll rest
      (performed.1, (ring.perform op).2 :: performed.2)

/-- `read_range` of a deque whose contiguous halves are given. -/
def Ring.readHalves (ring : Ring) (first second : Bytes) (lo hi : Nat) : Option Bytes :=
  if hi < lo ∨ lo < ring.earliestOffset ∨ ring.endOffset % 2 ^ 64 < hi then none
  else some (copyHalves first second (lo - ring.earliestOffset) (hi - lo))

/-- The whole stream, of which the newest `kept` bytes are exposed. -/
structure Suffix where
  stream : Bytes
  kept : Nat
  capacity : Nat

namespace Suffix

/-- As many of the kept bytes as fit stay; the others are counted. -/
def trim (suffix : Suffix) : Suffix × Nat :=
  ({ suffix with kept := min suffix.kept suffix.capacity },
    suffix.kept - min suffix.kept suffix.capacity)

def ofRetained (capacity : Nat) (retained : Bytes) : Suffix :=
  (trim ⟨retained, retained.length, max capacity 1⟩).1

def perform (suffix : Suffix) : RingOp → Suffix × Nat
  | .append data =>
      trim { suffix with
        stream := suffix.stream ++ data
        kept := suffix.kept + data.length }
  | .setCapacity capacity => trim { suffix with capacity := max capacity 1 }

def performAll (suffix : Suffix) : List RingOp → Suffix × List Nat
  | [] => (suffix, [])
  | op :: rest =>
      let performed := (suffix.perform op).1.performAll rest
      (performed.1, (suffix.perform op).2 :: performed.2)

def earliest (suffix : Suffix) : Nat := suffix.stream.length - suffix.kept

end Suffix

/-- The ring of a stream that begins at `start` holds what the reference exposes. -/
structure Ring.Refines (ring : Ring) (start : Nat) (suffix : Suffix) : Prop where
  capacity_eq : ring.capacity = suffix.capacity
  kept_le : suffix.kept ≤ suffix.stream.length
  buf_eq : ring.buf = suffix.stream.drop suffix.earliest
  earliest_eq : ring.earliestOffset = (start + suffix.earliest) % 2 ^ 64

variable {ring : Ring} {start : Nat} {suffix : Suffix}

theorem Ring.Refines.length_buf (refines : ring.Refines start suffix) :
    ring.buf.length = suffix.kept := by
  have hkept := refines.kept_le
  rw [refines.buf_eq, length_drop, Suffix.earliest]
  omega

theorem Ring.refines_fromRetained (capacity start : Nat) (retained : Bytes) :
    (Ring.fromRetained capacity start retained).wrap.Refines start
      (Suffix.ofRetained capacity retained) := by
  obtain ⟨hearliest, hbuf, hcapacity⟩ := Ring.fromRetained_eq capacity start retained
  have hdropped : (Suffix.ofRetained capacity retained).earliest =
      retained.length - max capacity 1 := by
    simp only [Suffix.earliest, Suffix.ofRetained, Suffix.trim]
    omega
  constructor
  · exact hcapacity
  · exact Nat.min_le_left _ _
  · rw [hdropped]
    exact hbuf
  · rw [hdropped, ← hearliest]
    rfl

section

variable (refines : ring.Refines start suffix)
include refines

/-- Each of the three ways to append drops what the reference drops. -/
theorem Ring.Refines.append (data : Bytes) :
    (ring.perform (.append data)).1.Refines start (suffix.perform (.append data)).1 ∧
      (ring.perform (.append data)).2 = (suffix.perform (.append data)).2 := by
  have hlength := refines.length_buf
  have hbounded := ring.bounded
  have hkept := refines.kept_le
  have hcapacity := refines.capacity_eq
  have hearliest := refines.earliest_eq
  have hbuf := refines.buf_eq
  unfold Suffix.earliest at hearliest hbuf
  unfold Ring.perform Ring.append
  dsimp only
  split
  · rename_i hempty
    have hnone := List.isEmpty_iff.mp hempty
    subst hnone
    have hsame : min suffix.kept suffix.capacity = suffix.kept := by omega
    simp only [Suffix.perform, Suffix.trim, append_nil, length_nil, Nat.add_zero, hsame,
      Nat.sub_self, and_true]
    exact ⟨hcapacity, hkept, hbuf, by rw [Ring.wrap, hearliest, Nat.mod_mod]; rfl⟩
  · split
    · rename_i hlarge
      have hnew : min (suffix.kept + data.length) suffix.capacity = ring.capacity := by omega
      simp only [Suffix.perform, Suffix.trim, hnew]
      refine ⟨⟨hcapacity, ?_, ?_, ?_⟩, by omega⟩
      · dsimp only
        rw [length_append]
        omega
      · have hall : (suffix.stream ++ data).length - ring.capacity =
            suffix.stream.length + (data.length - ring.capacity) := by
          rw [length_append]
          omega
        change data.drop _ = (suffix.stream ++ data).drop (_ - _)
        rw [hall, drop_append, drop_eq_nil_of_le (Nat.le_add_right _ _),
          nil_append, Nat.add_sub_cancel_left]
      · simp only [Ring.wrap, Ring.endOffset, Suffix.earliest, length_append]
        omega
    · rename_i hsmall
      have hdropped : suffix.kept + data.length - min (suffix.kept + data.length) suffix.capacity =
          ring.buf.length + data.length - ring.capacity := by omega
      simp only [Suffix.perform, Suffix.trim]
      refine ⟨⟨hcapacity, ?_, ?_, ?_⟩, hdropped.symm⟩
      · dsimp only
        rw [length_append]
        omega
      · change ring.buf.drop (ring.buf.length + data.length - ring.capacity) ++ data =
          (suffix.stream ++ data).drop
            ((suffix.stream ++ data).length - min (suffix.kept + data.length) suffix.capacity)
        rw [hlength, hbuf, drop_drop, length_append, drop_append_of_le_length (by omega)]
        congr 2
        omega
      · simp only [Ring.wrap, Suffix.earliest, length_append]
        omega

theorem Ring.Refines.setCapacity (capacity : Nat) :
    (ring.perform (.setCapacity capacity)).1.Refines start
        (suffix.perform (.setCapacity capacity)).1 ∧
      (ring.perform (.setCapacity capacity)).2 = (suffix.perform (.setCapacity capacity)).2 := by
  have hlength := refines.length_buf
  have hbounded := ring.bounded
  have hkept := refines.kept_le
  have hearliest := refines.earliest_eq
  have hbuf := refines.buf_eq
  unfold Suffix.earliest at hearliest hbuf
  unfold Ring.perform Ring.setCapacity
  dsimp only
  split
  · rename_i hsame
    have hall : min suffix.kept (max capacity 1) = suffix.kept := by omega
    simp only [Suffix.perform, Suffix.trim, hall, Nat.sub_self, and_true]
    exact ⟨hsame.symm, hkept, hbuf, by rw [Ring.wrap, hearliest, Nat.mod_mod]; rfl⟩
  · simp only [Suffix.perform, Suffix.trim]
    refine ⟨⟨rfl, (Nat.min_le_left _ _).trans hkept, ?_, ?_⟩, by omega⟩
    · change ring.buf.drop (ring.buf.length - max capacity 1) =
        suffix.stream.drop (suffix.stream.length - min suffix.kept (max capacity 1))
      rw [hlength, hbuf, drop_drop]
      congr 1
      omega
    · simp only [Ring.wrap, Suffix.earliest]
      omega

theorem Ring.Refines.performAll (ops : List RingOp) :
    (ring.performAll ops).1.Refines start (suffix.performAll ops).1 ∧
      (ring.performAll ops).2 = (suffix.performAll ops).2 := by
  induction ops generalizing ring suffix with
  | nil => exact ⟨refines, rfl⟩
  | cons op rest ih =>
    have hstep : (ring.perform op).1.Refines start (suffix.perform op).1 ∧
        (ring.perform op).2 = (suffix.perform op).2 := by
      cases op with
      | append data => exact refines.append data
      | setCapacity capacity => exact refines.setCapacity capacity
    obtain ⟨hrest, hreturned⟩ := ih hstep.1
    exact ⟨hrest, congrArg₂ List.cons hstep.2 hreturned⟩

theorem Ring.Refines.readHalves
    (bound : start + suffix.stream.length < 2 ^ 64) {first second : Bytes}
    (halves : first ++ second = ring.buf) (lo hi : Nat) :
    ring.readHalves first second lo hi =
      if start + suffix.earliest ≤ lo ∧ lo ≤ hi ∧ hi ≤ start + suffix.stream.length then
        some (slice suffix.stream (lo - start) (hi - start)) else none := by
  have hlength := refines.length_buf
  have hkept := refines.kept_le
  have hend : ring.endOffset % 2 ^ 64 = start + suffix.stream.length := by
    rw [Ring.endOffset, refines.earliest_eq, hlength, Suffix.earliest]
    omega
  have hearliest : ring.earliestOffset = start + suffix.earliest := by
    rw [refines.earliest_eq, Suffix.earliest]
    omega
  unfold Ring.readHalves
  rw [hend, hearliest]
  split
  · rw [if_neg (by omega)]
  · rw [if_pos (by omega), copyHalves_eq, halves, refines.buf_eq, drop_drop, slice]
    congr 2
    · omega
    · congr 1
      omega

end

/-- After any operations the ring holds the newest bytes that the reference exposes and has
returned what the reference dropped.  It is read exactly where the reference is, as long as no
offset of the stream leaves the machine word. -/
theorem ring_refines_suffix (capacity start : Nat) (retained : Bytes) (ops : List RingOp) :
    let ring := (Ring.fromRetained capacity start retained).wrap.performAll ops
    let suffix := (Suffix.ofRetained capacity retained).performAll ops
    ring.1.Refines start suffix.1 ∧ ring.2 = suffix.2 ∧
      (start + suffix.1.stream.length < 2 ^ 64 →
        ∀ first second, first ++ second = ring.1.buf → ∀ lo hi,
          ring.1.readHalves first second lo hi =
            if start + suffix.1.earliest ≤ lo ∧ lo ≤ hi ∧ hi ≤ start + suffix.1.stream.length then
              some (slice suffix.1.stream (lo - start) (hi - start)) else none) := by
  obtain ⟨hrefines, hreturned⟩ := (Ring.refines_fromRetained capacity start retained).performAll ops
  exact ⟨hrefines, hreturned, fun bound _ _ halves lo hi => hrefines.readHalves bound halves lo hi⟩

/-- An oversized frame, and a deque split within it. -/
theorem ring_refines_suffix_oversized :
    let ring := (Ring.fromRetained 4 100 [1, 2]).wrap.performAll [.append [3, 4, 5, 6, 7, 8]]
    ring.2 = [4] ∧ ring.1.readHalves [5] [6, 7, 8] 104 107 = some [5, 6, 7] := by
  obtain ⟨hrefines, hreturned, hread⟩ :=
    ring_refines_suffix 4 100 [1, 2] [.append [3, 4, 5, 6, 7, 8]]
  exact ⟨hreturned.trans (by decide),
    (hread (by decide) [5] [6, 7, 8] (by decide) 104 107).trans (by decide)⟩

/-- The end of a stream that passes the last offset is small, so that not even the empty range
at its start can be read. -/
theorem ring_unreadable_past_the_last_offset :
    let start := 2 ^ 64 - 1
    let ring := (Ring.fromRetained 4 start [1, 2]).wrap
    let suffix := Suffix.ofRetained 4 [1, 2]
    ring.buf = suffix.stream ∧ start + suffix.earliest ≤ start ∧
      start ≤ start + suffix.stream.length ∧
      ring.readHalves suffix.stream [] start start ≠ some (slice suffix.stream 0 0) := by
  decide

end Hypeterm.Relay
