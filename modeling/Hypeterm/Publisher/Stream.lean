import Hypeterm.Types
import Hypeterm.Library.Stream

/-! One terminal's outgoing byte stream: offsets, retention and resynchronisation.
Nothing here knows the relay; what it says arrives as the arguments of `attached`,
`acknowledge` and `mismatch`. -/
namespace Hypeterm.Publisher

open Library List

/-- Bytes sent but not yet acknowledged durable, kept so they can be sent again. -/
structure Retained where
  start : Nat
  bytes : Bytes
  deriving DecidableEq

namespace Retained

def new : Retained := ⟨0, []⟩

def endOffset (retained : Retained) : Nat := retained.start + retained.bytes.length

def isEmpty (retained : Retained) : Bool := retained.bytes.isEmpty

def append (retained : Retained) (chunk : Bytes) : Retained :=
  { retained with bytes := retained.bytes ++ chunk }

/-- Forget everything the relay has committed to storage. -/
def releaseThrough (retained : Retained) (durableOffset : Nat) : Retained :=
  if durableOffset ≤ retained.start then retained
  else
    let dropCount := min (durableOffset - retained.start) retained.bytes.length
    ⟨retained.start + dropCount, retained.bytes.drop dropCount⟩

/-- The retained bytes from `offset` on; `none` means those bytes are gone, or were
never there. -/
def fromOffset (retained : Retained) (offset : Nat) : Option Bytes :=
  if offset < retained.start ∨ retained.endOffset < offset then none
  else some (retained.bytes.drop (offset - retained.start))

def restartAt (_retained : Retained) (offset : Nat) : Retained := ⟨offset, []⟩

end Retained

/-- What the caller should do next with a terminal's stream. -/
inductive Resync where
  | retransmit (start : Nat) (bytes : Bytes)
  | nothing
  | unrecoverable
  deriving DecidableEq

/-- The sending half of one terminal's stream. -/
structure Outgoing where
  retained : Retained
  nextOffset : Nat
  positioned : Bool
  resyncTarget : Option Nat
  window : Nat
  deriving DecidableEq

def conservativeWindow : Nat := 64 * 1024

namespace Outgoing

def new : Outgoing := ⟨.new, 0, false, none, conservativeWindow⟩

def unacked (stream : Outgoing) : Nat := stream.nextOffset - stream.retained.start

def maySend (stream : Outgoing) : Bool := stream.positioned && stream.unacked < stream.window

def setWindow (stream : Outgoing) (window : Nat) : Outgoing :=
  { stream with window := max window conservativeWindow }

/-- The connection is gone; the retained bytes are what survives that. -/
def detached (stream : Outgoing) : Outgoing :=
  { stream with positioned := false, resyncTarget := none }

/-- The first statements of `attached`.  While nothing has been sent, the stream starts
where the relay is. -/
def place (stream : Outgoing) (nextOffset : Nat) : Outgoing :=
  let opened := { stream with positioned := true, resyncTarget := none }
  if opened.retained.isEmpty ∧ opened.retained.start = 0 ∧ opened.nextOffset = 0 then
    { opened with retained := opened.retained.restartAt nextOffset }
  else opened

/-- The relay has opened this terminal, again or for the first time, and says where its
stream continues. -/
def attached (stream : Outgoing) (nextOffset : Nat) : Outgoing × Resync :=
  let placed := stream.place nextOffset
  if nextOffset < placed.retained.start then (placed, .unrecoverable)
  else
    match placed.retained.fromOffset nextOffset with
    | some bytes =>
        if bytes.isEmpty then ({ placed with nextOffset }, .nothing)
        else
          ({ placed with nextOffset := nextOffset + bytes.length }, .retransmit nextOffset bytes)
    -- Past the end: an earlier process got further under this `local_ref`.
    | none => ({ placed with retained := placed.retained.restartAt nextOffset, nextOffset }, .nothing)

/-- Hand a chunk to the stream.  The result is the offset it starts at, or `none` when
it must wait. -/
def send (stream : Outgoing) (chunk : Bytes) : Outgoing × Option Nat :=
  if stream.positioned then
    ({ stream with
       retained := stream.retained.append chunk
       nextOffset := stream.nextOffset + chunk.length }, some stream.nextOffset)
  else (stream, none)

def acknowledge (stream : Outgoing) (durableOffset : Nat) : Outgoing :=
  { stream with retained := stream.retained.releaseThrough durableOffset }

/-- The relay refused a frame and named where it is.  A refusal that names the offset
answered last is an echo of it. -/
def mismatch (stream : Outgoing) (authoritative : Nat) : Outgoing × Resync :=
  if stream.resyncTarget = some authoritative then (stream, .nothing)
  else
    let aimed := { stream with resyncTarget := some authoritative }
    match aimed.retained.fromOffset authoritative with
    | some bytes =>
        ({ aimed with nextOffset := authoritative + bytes.length },
          if bytes.isEmpty then .nothing else .retransmit authoritative bytes)
    | none => (aimed, .unrecoverable)

end Outgoing

/-! Whatever the relay says, the next byte handed to it belongs at the end of what is
retained. -/

theorem Retained.endOffset_append (retained : Retained) (chunk : Bytes) :
    (retained.append chunk).endOffset = retained.endOffset + chunk.length := by
  simp [Retained.append, Retained.endOffset, Nat.add_assoc]

theorem Retained.endOffset_releaseThrough (retained : Retained) (durableOffset : Nat) :
    (retained.releaseThrough durableOffset).endOffset = retained.endOffset := by
  unfold Retained.releaseThrough Retained.endOffset
  split
  · rfl
  · dsimp only
    rw [length_drop]
    omega

theorem Retained.fromOffset_eq_some {retained : Retained} {offset : Nat} {bytes : Bytes}
    (found : retained.fromOffset offset = some bytes) :
    retained.start ≤ offset ∧ bytes = retained.bytes.drop (offset - retained.start) ∧
      offset + bytes.length = retained.endOffset := by
  unfold Retained.fromOffset at found
  split at found
  · cases found
  · rename_i hinside
    cases found
    unfold Retained.endOffset at hinside ⊢
    refine ⟨by omega, rfl, ?_⟩
    rw [length_drop]
    omega

def Outgoing.Aligned (stream : Outgoing) : Prop :=
  stream.nextOffset = stream.retained.endOffset

namespace Outgoing

variable {stream : Outgoing}

theorem Aligned.new : Aligned new := rfl

section

variable (aligned : stream.Aligned)
include aligned

theorem Aligned.setWindow (window : Nat) : (stream.setWindow window).Aligned := aligned

theorem Aligned.detached : stream.detached.Aligned := aligned

theorem Aligned.send (chunk : Bytes) : (stream.send chunk).1.Aligned := by
  unfold Outgoing.send
  split
  · unfold Aligned at aligned ⊢
    rw [Retained.endOffset_append, aligned]
  · exact aligned

theorem Aligned.acknowledge (durableOffset : Nat) : (stream.acknowledge durableOffset).Aligned := by
  unfold Aligned at aligned ⊢
  unfold Outgoing.acknowledge
  rw [Retained.endOffset_releaseThrough, aligned]

end

/-- Unless the bytes are gone `attached` aligns the stream: it goes on where the relay is
and has what is beyond that sent again. -/
theorem Aligned.attached (aligned : stream.Aligned) {nextOffset : Nat}
    (recovered : (stream.attached nextOffset).2 ≠ .unrecoverable) :
    (stream.attached nextOffset).1.Aligned ∧
      (stream.attached nextOffset).1.resyncTarget = none ∧
      (stream.attached nextOffset).1.nextOffset = max nextOffset stream.nextOffset ∧
      ((stream.attached nextOffset).2 = .nothing ∧ stream.nextOffset ≤ nextOffset ∨
        ∃ bytes, (stream.attached nextOffset).2 = .retransmit nextOffset bytes ∧ bytes ≠ [] ∧
          nextOffset + bytes.length = stream.nextOffset) := by
  have hplaced : (stream.place nextOffset).resyncTarget = none ∧
      ((stream.place nextOffset).retained.endOffset = stream.nextOffset ∨
        (stream.place nextOffset).retained.endOffset = nextOffset ∧ stream.nextOffset = 0) := by
    unfold Outgoing.place
    dsimp only
    split
    · rename_i hfresh
      exact ⟨rfl, .inr ⟨rfl, hfresh.2.2⟩⟩
    · exact ⟨rfl, .inl aligned.symm⟩
  obtain ⟨htarget, hend⟩ := hplaced
  unfold Outgoing.attached at recovered ⊢
  dsimp only at recovered ⊢
  split
  · rename_i hbehind
    rw [if_pos hbehind] at recovered
    exact absurd rfl recovered
  · rename_i hheld
    split
    · rename_i bytes hfound
      have hreach := (Retained.fromOffset_eq_some hfound).2.2
      split
      · rename_i hempty
        rw [List.isEmpty_iff.mp hempty, length_nil, Nat.add_zero] at hreach
        exact ⟨hreach, htarget, by dsimp only; omega, .inl ⟨rfl, by omega⟩⟩
      · rename_i hbytes
        have hpos : 0 < bytes.length := length_pos_iff.mpr (by simpa using hbytes)
        have hlast : nextOffset + bytes.length = stream.nextOffset := by omega
        refine ⟨hreach, htarget, by dsimp only; omega, .inr ⟨bytes, rfl, ?_, hlast⟩⟩
        exact length_pos_iff.mp hpos
    · rename_i hmissing
      have hbeyond : (stream.place nextOffset).retained.endOffset < nextOffset := by
        unfold Retained.fromOffset at hmissing
        split at hmissing
        · rename_i houtside
          exact houtside.resolve_left hheld
        · cases hmissing
      exact ⟨rfl, htarget, by dsimp only; omega, .inl ⟨rfl, by omega⟩⟩

/-- The answer to a refusal leaves the end of the stream where it is.  Only one that
names another offset than the last, short of the end, has bytes sent again. -/
theorem Aligned.mismatch (aligned : stream.Aligned) (authoritative : Nat) :
    (stream.mismatch authoritative).1.Aligned ∧
      (stream.mismatch authoritative).1.resyncTarget = some authoritative ∧
      (stream.mismatch authoritative).1.nextOffset = stream.nextOffset ∧
      ∀ start bytes, (stream.mismatch authoritative).2 = .retransmit start bytes →
        start = authoritative ∧ stream.resyncTarget ≠ some authoritative ∧ bytes ≠ [] ∧
          start + bytes.length = stream.nextOffset := by
  unfold Outgoing.mismatch
  split
  · rename_i hecho
    exact ⟨aligned, hecho, rfl, fun start bytes heq => by cases heq⟩
  · rename_i hnews
    dsimp only
    split
    · rename_i bytes hfound
      have hreach := (Retained.fromOffset_eq_some hfound).2.2
      refine ⟨hreach, rfl, hreach.trans aligned.symm, ?_⟩
      intro start again heq
      split at heq
      · cases heq
      · rename_i hbytes
        cases heq
        exact ⟨rfl, hnews, by simpa using hbytes, hreach.trans aligned.symm⟩
    · exact ⟨aligned, rfl, rfl, fun start bytes heq => by cases heq⟩

end Outgoing

/-! What the retained bytes are for: they are the end of everything sent, so any range
from their start on can be sent again as it was. -/

structure Retained.Keeps (retained : Retained) (sent : Bytes) : Prop where
  start_le : retained.start ≤ sent.length
  bytes_eq : retained.bytes = sent.drop retained.start

namespace Retained.Keeps

variable {retained : Retained} {sent : Bytes}

theorem new : Retained.new.Keeps [] := ⟨Nat.le_refl _, rfl⟩

section

variable (keeps : retained.Keeps sent)
include keeps

theorem endOffset_eq : retained.endOffset = sent.length := by
  have hle := keeps.start_le
  unfold Retained.endOffset
  rw [keeps.bytes_eq, length_drop]
  omega

theorem append (chunk : Bytes) : (retained.append chunk).Keeps (sent ++ chunk) where
  start_le := by
    have := keeps.start_le
    rw [length_append]
    exact this.trans (Nat.le_add_right _ _)
  bytes_eq := by
    simp only [Retained.append]
    rw [drop_append_of_le_length keeps.start_le, keeps.bytes_eq]

theorem releaseThrough (durableOffset : Nat) :
    (retained.releaseThrough durableOffset).Keeps sent := by
  unfold Retained.releaseThrough
  split
  · exact keeps
  · have hend := keeps.endOffset_eq
    unfold Retained.endOffset at hend
    constructor
    · dsimp only
      omega
    · dsimp only
      rw [keeps.bytes_eq, drop_drop]

theorem fromOffset_eq {offset : Nat}
    (held : retained.start ≤ offset) (bound : offset ≤ sent.length) :
    retained.fromOffset offset = some (sent.drop offset) := by
  unfold Retained.fromOffset
  rw [keeps.endOffset_eq, if_neg (by omega), keeps.bytes_eq, drop_drop]
  congr 2
  omega

end

theorem restartAt (retained : Retained) {offset : Nat} (bound : offset = sent.length) :
    (retained.restartAt offset).Keeps sent where
  start_le := bound.le
  bytes_eq := by
    rw [bound, Retained.restartAt, drop_length]

end Retained.Keeps

/-- Everything from an offset on, as the stream asks for it to be sent again. -/
def resend (sent : Bytes) (offset : Nat) : Resync :=
  if offset < sent.length then .retransmit offset (sent.drop offset) else .nothing

/-- The stream against everything it was ever given. -/
structure Outgoing.Carries (stream : Outgoing) (sent : Bytes) : Prop where
  keeps : stream.retained.Keeps sent
  nextOffset_eq : stream.nextOffset = sent.length

namespace Outgoing.Carries

variable {stream : Outgoing} {sent : Bytes}

theorem new : Outgoing.new.Carries [] := ⟨.new, rfl⟩

section

variable (carries : stream.Carries sent)
include carries

theorem setWindow (window : Nat) :
    (stream.setWindow window).Carries sent := ⟨carries.keeps, carries.nextOffset_eq⟩

theorem detached : stream.detached.Carries sent :=
  ⟨carries.keeps, carries.nextOffset_eq⟩

theorem acknowledge (durableOffset : Nat) : (stream.acknowledge durableOffset).Carries sent :=
  ⟨carries.keeps.releaseThrough durableOffset, carries.nextOffset_eq⟩

theorem send {chunk : Bytes} {start : Nat} {after : Outgoing}
    (taken : stream.send chunk = (after, some start)) :
    start = sent.length ∧ after.Carries (sent ++ chunk) := by
  unfold Outgoing.send at taken
  split at taken
  · cases taken
    refine ⟨carries.nextOffset_eq, carries.keeps.append chunk, ?_⟩
    rw [length_append, ← carries.nextOffset_eq]
  · cases taken

theorem place {nextOffset : Nat} (bound : nextOffset ≤ sent.length) :
    (stream.place nextOffset).Carries sent ∧
      (stream.place nextOffset).retained.start = stream.retained.start := by
  unfold Outgoing.place
  dsimp only
  split
  · rename_i hfresh
    have hzero : sent.length = 0 := carries.nextOffset_eq.symm.trans hfresh.2.2
    have hnext : nextOffset = sent.length := by omega
    refine ⟨⟨.restartAt stream.retained hnext, carries.nextOffset_eq⟩, ?_⟩
    rw [hfresh.2.1, hnext, hzero]
    rfl
  · exact ⟨⟨carries.keeps, carries.nextOffset_eq⟩, rfl⟩

end

/-- Inside what was sent `attached` resumes there, or says that the bytes are gone. -/
theorem attached (carries : stream.Carries sent) {nextOffset : Nat}
    (bound : nextOffset ≤ sent.length) :
    (stream.attached nextOffset).1.Carries sent ∧
      (stream.attached nextOffset).1.retained.start = stream.retained.start ∧
      (stream.attached nextOffset).2 =
        if nextOffset < stream.retained.start then .unrecoverable else resend sent nextOffset := by
  obtain ⟨hplaced, hstart⟩ := carries.place bound
  unfold Outgoing.attached
  dsimp only
  rw [hstart]
  split
  · exact ⟨hplaced, hstart, rfl⟩
  · rename_i hheld
    rw [hplaced.keeps.fromOffset_eq (hstart ▸ Nat.le_of_not_lt hheld) bound]
    unfold resend
    dsimp only
    split
    · rename_i hempty
      have hlength : sent.length ≤ nextOffset := by simpa using hempty
      rw [if_neg (Nat.not_lt_of_le hlength)]
      exact ⟨⟨hplaced.keeps, le_antisymm bound hlength⟩, hstart, rfl⟩
    · rename_i hbytes
      have hlength : nextOffset < sent.length := by simpa using hbytes
      rw [if_pos hlength]
      refine ⟨⟨hplaced.keeps, ?_⟩, hstart, rfl⟩
      rw [length_drop]
      exact Nat.add_sub_of_le bound

/-- So does `mismatch`, but for an echo. -/
theorem mismatch (carries : stream.Carries sent) {authoritative : Nat}
    (bound : authoritative ≤ sent.length) :
    (stream.mismatch authoritative).1.Carries sent ∧
      (stream.mismatch authoritative).2 =
        if stream.resyncTarget = some authoritative then .nothing
        else if authoritative < stream.retained.start then .unrecoverable
        else resend sent authoritative := by
  unfold Outgoing.mismatch
  split
  · exact ⟨carries, rfl⟩
  · dsimp only
    split
    · rename_i bytes hfound
      obtain ⟨hheld, _, _⟩ := Retained.fromOffset_eq_some hfound
      rw [carries.keeps.fromOffset_eq hheld bound] at hfound
      cases hfound
      rw [if_neg (Nat.not_lt_of_le hheld)]
      refine ⟨⟨carries.keeps, ?_⟩, ?_⟩
      · rw [length_drop]
        exact Nat.add_sub_of_le bound
      · unfold resend
        by_cases hlength : authoritative < sent.length
        · rw [if_pos hlength, if_neg (by simpa using hlength)]
        · rw [if_neg hlength, if_pos (by simpa using hlength)]
    · rename_i hnone
      by_cases hheld : stream.retained.start ≤ authoritative
      · rw [carries.keeps.fromOffset_eq hheld bound] at hnone
        cases hnone
      · rw [if_pos (Nat.lt_of_not_le hheld)]
        exact ⟨⟨carries.keeps, carries.nextOffset_eq⟩, rfl⟩

end Outgoing.Carries

namespace Outgoing

variable (stream : Outgoing)

theorem retained_mismatch (authoritative : Nat) :
    (stream.mismatch authoritative).1.retained = stream.retained := by
  unfold mismatch
  split
  · rfl
  · dsimp only
    split <;> rfl

theorem start_send (chunk : Bytes) :
    (stream.send chunk).1.retained.start = stream.retained.start := by
  unfold send
  split <;> rfl

theorem start_acknowledge (durableOffset : Nat) :
    (stream.acknowledge durableOffset).retained.start = stream.retained.start ∨
      (stream.acknowledge durableOffset).retained.start ≤ durableOffset := by
  unfold acknowledge Retained.releaseThrough
  split
  · exact .inl rfl
  · right
    dsimp only
    omega

end Outgoing

end Hypeterm.Publisher
