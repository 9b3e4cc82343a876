import Hypeterm.Android.Paste
import Mathlib.Data.List.TakeWhile

/-! How much of a paste arrives. Each chunk is sent in frames, in order, until one fails; then the
next chunk is sent. -/
namespace Hypeterm.Android

open Library List

/-- What becomes of a frame: it is written, the write fails before its first byte, or it fails
after a part of the frame. -/
inductive SendOutcome where
  | written
  | unsent
  | torn
  deriving DecidableEq

def SendOutcome.isWritten : SendOutcome → Bool
  | .written => true
  | .unsent | .torn => false

namespace Paste

/-- A part of a paste, with the place that it has there. -/
structure Piece where
  offset : Nat
  bytes : Bytes
  deriving DecidableEq

structure Attempt where
  piece : Piece
  outcome : SendOutcome

def Attempt.isWritten (attempt : Attempt) : Bool := attempt.outcome.isWritten

/-- The frames of a chunk that begins at `offset`; the relay never allows less than 16 bytes a
frame, so the length of the chunk is fuel enough. -/
def pieces (limit : Nat) : Nat → Nat → Bytes → List Piece
  | 0, _, _ => []
  | fuel + 1, offset, bytes =>
      if bytes.isEmpty then []
      else
        ⟨offset, bytes.take limit⟩ ::
          pieces limit fuel (offset + (bytes.take limit).length) (bytes.drop limit)

/-- The frames of a paste, if every one of them is sent. -/
def allPieces (limit : Nat) : Nat → List Bytes → List Piece
  | _, [] => []
  | offset, chunk :: rest =>
      pieces limit chunk.length offset chunk ++ allPieces limit (offset + chunk.length) rest

/-- `SendInputBytes` returns at the first frame that fails.  `outcome` is what becomes of each
call of `SendInput`, numbered from `attempt` on. -/
def sendInputBytes (outcome : Nat → SendOutcome) : Nat → List Piece → List Attempt
  | _, [] => []
  | attempt, piece :: rest =>
      ⟨piece, outcome attempt⟩ ::
        if (outcome attempt).isWritten then sendInputBytes outcome (attempt + 1) rest else []

/-- The loop of the paste command, which goes on whatever `SendInputBytes` has done. -/
def sendChunks (limit : Nat) (outcome : Nat → SendOutcome) : Nat → Nat → List Bytes → List Attempt
  | _, _, [] => []
  | attempt, offset, chunk :: rest =>
      let made := sendInputBytes outcome attempt (pieces limit chunk.length offset chunk)
      made ++ sendChunks limit outcome (attempt + made.length) (offset + chunk.length) rest

/-- What the relay can read: the frames written, up to one that is torn. -/
def readable : List Attempt → List Piece
  | [] => []
  | attempt :: rest =>
      match attempt.outcome with
      | .written => attempt.piece :: readable rest
      | .unsent => readable rest
      | .torn => []

/-- Something is written after a torn frame.  It takes the place of what that one lacks. -/
def garbled : List Attempt → Bool
  | [] => false
  | attempt :: rest =>
      match attempt.outcome with
      | .written | .unsent => garbled rest
      | .torn => rest.any fun later => later.outcome ≠ .unsent

/-- The relay takes the frames, numbered from `next`, that have the number it expects and that
it does not refuse for another reason; `index` counts the frames. -/
def accepted (refuses : Nat → Bool) : Nat → Nat → Nat → List Piece → List Piece
  | _, _, _, [] => []
  | expected, next, index, piece :: rest =>
      if next = expected && !refuses index then
        piece :: accepted refuses (expected + 1) (next + 1) (index + 1) rest
      else accepted refuses expected (next + 1) (index + 1) rest

/-- One paste command: the options, whether the subscription is up and takes input, what
becomes of each frame, where the two counters stand, which frames the relay refuses, and
whether it takes what is garbled for a frame. -/
structure Delivery where
  options : Options
  inputAvailable : Bool
  limit : Nat
  floor : 16 ≤ limit
  outcome : Nat → SendOutcome
  nextClientSequence : Nat
  expectedSequence : Nat
  refuses : Nat → Bool
  takesGarbled : Bool

namespace Delivery

/-- Without a subscription that takes input, each chunk is reported to the user and not sent. -/
def attempts (delivery : Delivery) (text : Bytes) : List Attempt :=
  if delivery.inputAvailable then
    sendChunks delivery.limit delivery.outcome 0 0 (prepare delivery.options text).1
  else []

def acceptedFrames (delivery : Delivery) (text : Bytes) : List (Option Piece) :=
  (accepted delivery.refuses delivery.expectedSequence delivery.nextClientSequence 0
      (readable (delivery.attempts text))).map some ++
    if garbled (delivery.attempts text) && delivery.takesGarbled then [none] else []

def ArrivesAsPrefix (delivery : Delivery) (text : Bytes) : Prop :=
  delivery.acceptedFrames text <+:
    (allPieces delivery.limit 0 (prepare delivery.options text).1).map some

/-- The frames written before the first that fails, and those that can be read after it. -/
def before (delivery : Delivery) (text : Bytes) : List Attempt :=
  (delivery.attempts text).takeWhile Attempt.isWritten

def after (delivery : Delivery) (text : Bytes) : List Piece :=
  readable ((delivery.attempts text).dropWhile Attempt.isWritten)

/-- Nothing garbled is taken; and the relay is ahead of none of the frames and, where it is in
step with them, refuses a frame before it would take one from after a failure. -/
def KeepsOrder (delivery : Delivery) (text : Bytes) : Prop :=
  (garbled (delivery.attempts text) && delivery.takesGarbled) = false ∧
    (delivery.expectedSequence < delivery.nextClientSequence ∨
      (delivery.expectedSequence = delivery.nextClientSequence ∧
        (delivery.after text = [] ∨
          ∃ index ≤ (delivery.before text).length, delivery.refuses index = true)) ∨
      (delivery.nextClientSequence < delivery.expectedSequence ∧
        ((readable (delivery.attempts text)).length ≤
            delivery.expectedSequence - delivery.nextClientSequence ∨
          delivery.refuses (delivery.expectedSequence - delivery.nextClientSequence) = true)))

end Delivery

theorem pieces_spec {limit fuel : Nat} (positive : 0 < limit) (offset : Nat) {bytes : Bytes}
    (enough : bytes.length ≤ fuel) :
    ((pieces limit fuel offset bytes).map Piece.bytes).flatten = bytes ∧
      (∀ piece ∈ pieces limit fuel offset bytes,
        offset ≤ piece.offset ∧ piece.offset < offset + bytes.length) ∧
      (pieces limit fuel offset bytes).Pairwise fun left right => left.offset < right.offset := by
  induction fuel generalizing offset bytes with
  | zero =>
    cases length_eq_zero_iff.mp (Nat.le_zero.mp enough)
    exact ⟨rfl, (fun piece member => by cases member), List.Pairwise.nil⟩
  | succ fuel ih =>
    unfold pieces
    split
    · rename_i hempty
      cases List.isEmpty_iff.mp hempty
      exact ⟨rfl, (fun piece member => by cases member), List.Pairwise.nil⟩
    · rename_i hbytes
      have hlength : 0 < bytes.length := length_pos_iff.mpr (by simpa using hbytes)
      have htake : (bytes.take limit).length = min limit bytes.length := length_take
      have hdrop : (bytes.drop limit).length = bytes.length - limit := length_drop
      obtain ⟨hflat, hrange, hpairwise⟩ :=
        @ih (offset + (bytes.take limit).length) (bytes.drop limit) (by omega)
      refine ⟨?_, ?_, ?_⟩
      · rw [map_cons, flatten_cons, hflat, take_append_drop]
      · intro piece member
        rcases mem_cons.mp member with rfl | hrest
        · exact ⟨Nat.le_refl _, Nat.lt_add_of_pos_right hlength⟩
        · have hpiece := hrange piece hrest
          omega
      · apply List.Pairwise.cons _ hpairwise
        intro piece member
        have hpiece := (hrange piece member).1
        change offset < piece.offset
        omega

theorem allPieces_spec {limit : Nat} (positive : 0 < limit) (offset : Nat) (chunks : List Bytes) :
    ((allPieces limit offset chunks).map Piece.bytes).flatten = chunks.flatten ∧
      (∀ piece ∈ allPieces limit offset chunks, offset ≤ piece.offset) ∧
      (allPieces limit offset chunks).Pairwise fun left right => left.offset < right.offset := by
  induction chunks generalizing offset with
  | nil => exact ⟨rfl, (fun piece member => by cases member), List.Pairwise.nil⟩
  | cons chunk rest ih =>
    obtain ⟨hflat, hrange, hpairwise⟩ := pieces_spec positive offset (Nat.le_refl chunk.length)
    obtain ⟨hrestFlat, hrestRange, hrestPairwise⟩ := ih (offset + chunk.length)
    refine ⟨?_, ?_, ?_⟩
    · rw [allPieces, map_append, flatten_append, hflat, hrestFlat, flatten_cons]
    · intro piece member
      rcases mem_append.mp member with hhere | hlater
      · exact (hrange piece hhere).1
      · exact Nat.le_trans (Nat.le_add_right _ _) (hrestRange piece hlater)
    · apply pairwise_append.mpr
      refine ⟨hpairwise, hrestPairwise, ?_⟩
      intro left hleft right hright
      exact Nat.lt_of_lt_of_le (hrange left hleft).2 (hrestRange right hright)

theorem sendInputBytes_cases (outcome : Nat → SendOutcome) (attempt : Nat) (parts : List Piece) :
    (sendInputBytes outcome attempt parts).map Attempt.piece <+: parts ∧
      (((sendInputBytes outcome attempt parts).all Attempt.isWritten = true ∧
          (sendInputBytes outcome attempt parts).map Attempt.piece = parts) ∨
        ∃ front failed, sendInputBytes outcome attempt parts = front ++ [failed] ∧
          front.all Attempt.isWritten = true ∧ failed.isWritten = false) := by
  induction parts generalizing attempt with
  | nil => exact ⟨prefix_refl _, .inl ⟨rfl, rfl⟩⟩
  | cons piece rest ih =>
    obtain ⟨hinitial, hcases⟩ := ih (attempt + 1)
    unfold sendInputBytes
    cases hwritten : (outcome attempt).isWritten with
    | false =>
      rw [if_neg Bool.false_ne_true]
      constructor
      · exact cons_prefix_cons.mpr ⟨rfl, nil_prefix⟩
      · exact .inr ⟨[], ⟨piece, outcome attempt⟩, rfl, rfl, hwritten⟩
    | true =>
      rw [if_pos rfl]
      constructor
      · exact cons_prefix_cons.mpr ⟨rfl, hinitial⟩
      · rcases hcases with ⟨hall, hsame⟩ | ⟨front, failed, hmade, hfront, hfailed⟩
        · left
          rw [all_cons, hall, map_cons, hsame, Bool.and_true]
          exact ⟨hwritten, rfl⟩
        · right
          refine ⟨⟨piece, outcome attempt⟩ :: front, failed, ?_, ?_, hfailed⟩
          · rw [hmade, cons_append]
          · rw [all_cons, hfront, Bool.and_true]
            exact hwritten

theorem sendChunks_sublist (limit : Nat) (outcome : Nat → SendOutcome) (attempt offset : Nat)
    (chunks : List Bytes) :
    ((sendChunks limit outcome attempt offset chunks).map Attempt.piece).Sublist
      (allPieces limit offset chunks) := by
  induction chunks generalizing attempt offset with
  | nil => exact Sublist.slnil
  | cons chunk rest ih =>
    simp only [sendChunks, allPieces, map_append]
    apply Sublist.append
    · exact (sendInputBytes_cases outcome attempt _).1.sublist
    · exact ih _ _

theorem sendChunks_front (limit : Nat) (outcome : Nat → SendOutcome) (attempt offset : Nat)
    (chunks : List Bytes) :
    ((sendChunks limit outcome attempt offset chunks).takeWhile Attempt.isWritten).map
        Attempt.piece <+: allPieces limit offset chunks ∧
      ∀ failed rest, (sendChunks limit outcome attempt offset chunks).dropWhile Attempt.isWritten =
            failed :: rest →
          ((sendChunks limit outcome attempt offset chunks).takeWhile Attempt.isWritten).map
            Attempt.piece ++ [failed.piece] <+: allPieces limit offset chunks := by
  induction chunks generalizing attempt offset with
  | nil => exact ⟨prefix_refl _, fun failed rest stuck => by cases stuck⟩
  | cons chunk rest ih =>
    simp only [sendChunks, allPieces]
    obtain ⟨hinitial, hcases⟩ :=
      sendInputBytes_cases outcome attempt (pieces limit chunk.length offset chunk)
    rcases hcases with ⟨hall, hsame⟩ | ⟨front, failed, hmade, hfront, hfailed⟩
    · have hwritten : ∀ made ∈ sendInputBytes outcome attempt
          (pieces limit chunk.length offset chunk), made.isWritten = true :=
        all_eq_true.mp hall
      obtain ⟨hrest, hnext⟩ := ih (attempt + (sendInputBytes outcome attempt
        (pieces limit chunk.length offset chunk)).length) (offset + chunk.length)
      rw [takeWhile_append_of_pos hwritten, dropWhile_append_of_pos hwritten]
      rw [map_append, hsame]
      constructor
      · exact (prefix_append_right_inj _).mpr hrest
      · intro stopped later hstopped
        rw [append_assoc]
        exact (prefix_append_right_inj _).mpr (hnext stopped later hstopped)
    · rw [hmade, map_append] at hinitial
      have hwritten : ∀ made ∈ front, made.isWritten = true := all_eq_true.mp hfront
      rw [hmade, append_assoc, singleton_append]
      rw [takeWhile_append_of_pos hwritten, dropWhile_append_of_pos hwritten]
      rw [takeWhile_cons_of_neg (by simp [hfailed]), append_nil]
      rw [dropWhile_cons_of_neg (by simp [hfailed])]
      constructor
      · exact ((prefix_append _ _).trans hinitial).trans (prefix_append _ _)
      · intro stopped later hstopped
        cases hstopped
        exact hinitial.trans (prefix_append _ _)

theorem readable_sublist (attempts : List Attempt) :
    (readable attempts).Sublist (attempts.map Attempt.piece) := by
  induction attempts with
  | nil => exact Sublist.slnil
  | cons attempt rest ih =>
    unfold readable
    split
    · exact ih.cons_cons _
    · exact ih.cons _
    · exact nil_sublist _

theorem readable_split (attempts : List Attempt) :
    readable attempts = (attempts.takeWhile Attempt.isWritten).map Attempt.piece ++
      readable (attempts.dropWhile Attempt.isWritten) := by
  induction attempts with
  | nil => rfl
  | cons attempt rest ih =>
    cases hwritten : attempt.isWritten with
    | false =>
      rw [takeWhile_cons_of_neg (by simp [hwritten])]
      rw [dropWhile_cons_of_neg (by simp [hwritten])]
      rfl
    | true =>
      rw [takeWhile_cons_of_pos hwritten, dropWhile_cons_of_pos hwritten]
      rw [map_cons, cons_append, ← ih]
      cases houtcome : attempt.outcome with
      | written => simp only [readable, houtcome]
      | unsent => simp [Attempt.isWritten, houtcome, SendOutcome.isWritten] at hwritten
      | torn => simp [Attempt.isWritten, houtcome, SendOutcome.isWritten] at hwritten

theorem readable_failed {failed : Attempt} {rest : List Attempt}
    (unwritten : failed.isWritten = false) :
    (readable (failed :: rest)).Sublist (rest.map Attempt.piece) := by
  unfold readable
  split
  · rename_i houtcome
    simp [Attempt.isWritten, houtcome, SendOutcome.isWritten] at unwritten
  · exact readable_sublist rest
  · exact nil_sublist _

theorem accepted_behind {refuses : Nat → Bool} {expected next : Nat} (behind : expected < next)
    (index : Nat) (parts : List Piece) : accepted refuses expected next index parts = [] := by
  induction parts generalizing next index with
  | nil => rfl
  | cons piece rest ih =>
    have hnumber : ¬ next = expected := by omega
    simp only [accepted, hnumber, decide_false, Bool.false_and, Bool.false_eq_true, if_false]
    exact ih (Nat.lt_succ_of_lt behind) (index + 1)

theorem accepted_ahead (refuses : Nat → Bool) (next ahead index : Nat) (parts : List Piece) :
    accepted refuses (next + ahead) next index parts =
      accepted refuses (next + ahead) (next + ahead) (index + ahead) (parts.drop ahead) := by
  induction ahead generalizing next index parts with
  | zero => rfl
  | succ ahead ih =>
    cases parts with
    | nil => rfl
    | cons piece rest =>
      have hnumber : ¬ next = next + (ahead + 1) := by omega
      have hnext := ih (next + 1) (index + 1) rest
      rw [Nat.add_right_comm, Nat.add_assoc, Nat.add_right_comm index] at hnext
      conv_lhs => rw [accepted]
      simp only [hnumber, decide_false, Bool.false_and, Bool.false_eq_true, if_false]
      exact hnext

theorem accepted_in_step (refuses : Nat → Bool) (expected index : Nat) (parts : List Piece) :
    accepted refuses expected expected index parts <+: parts ∧
      ∀ place, place < (accepted refuses expected expected index parts).length ↔
        place < parts.length ∧ ∀ earlier ≤ place, refuses (index + earlier) = false := by
  induction parts generalizing expected index with
  | nil => exact ⟨prefix_refl _, fun place => by simp [accepted]⟩
  | cons piece rest ih =>
    obtain ⟨hinitial, hplaces⟩ := ih (expected + 1) (index + 1)
    unfold accepted
    cases hrefuses : refuses index with
    | true =>
      simp only [Bool.not_true, Bool.and_false, Bool.false_eq_true, if_false]
      rw [accepted_behind (Nat.lt_succ_self _)]
      refine ⟨ nil_prefix, fun place => iff_of_false (Nat.not_lt_zero _) ?_⟩
      rintro ⟨-, hnone⟩
      have hfirst := hnone 0 (Nat.zero_le _)
      rw [Nat.add_zero, hrefuses] at hfirst
      cases hfirst
    | false =>
      simp only [decide_true, Bool.not_false, Bool.and_true, if_true]
      refine ⟨cons_prefix_cons.mpr ⟨rfl, hinitial⟩, fun place => ?_⟩
      cases place with
      | zero =>
        refine iff_of_true (Nat.succ_pos _) ⟨Nat.succ_pos _, ?_⟩
        intro earlier hearlier
        cases Nat.le_zero.mp hearlier
        exact hrefuses
      | succ place =>
        rw [length_cons, length_cons, Nat.succ_lt_succ_iff, Nat.succ_lt_succ_iff]
        rw [hplaces place]
        have hshift : ∀ earlier, index + 1 + earlier = index + (earlier + 1) := by
          intro earlier
          omega
        apply and_congr_right
        intro _
        constructor
        · intro hnone earlier hearlier
          cases earlier with
          | zero => exact hrefuses
          | succ earlier =>
            rw [← hshift]
            exact hnone earlier (Nat.le_of_succ_le_succ hearlier)
        · intro hnone earlier hearlier
          rw [hshift]
          exact hnone (earlier + 1) (Nat.succ_le_succ hearlier)

namespace Delivery

variable {delivery : Delivery} {text : Bytes}

theorem limit_pos (delivery : Delivery) : 0 < delivery.limit :=
  Nat.lt_of_lt_of_le (Nat.succ_pos 15) delivery.floor

section

variable (delivery text)
include delivery text

theorem pairwise_pieces : (allPieces delivery.limit 0 (prepare delivery.options text).1).Pairwise
      fun left right => left.offset < right.offset :=
  (allPieces_spec delivery.limit_pos 0 _).2.2

theorem attempts_sublist : ((delivery.attempts text).map Attempt.piece).Sublist
      (allPieces delivery.limit 0 (prepare delivery.options text).1) := by
  unfold attempts
  split
  · exact sendChunks_sublist _ _ _ _ _
  · exact nil_sublist _

theorem attempts_front : (delivery.before text).map Attempt.piece <+:
        allPieces delivery.limit 0 (prepare delivery.options text).1 ∧
      ∀ failed rest, (delivery.attempts text).dropWhile Attempt.isWritten = failed :: rest →
        (delivery.before text).map Attempt.piece ++ [failed.piece] <+:
          allPieces delivery.limit 0 (prepare delivery.options text).1 := by
  unfold before attempts
  split
  · exact sendChunks_front _ _ _ _ _
  · exact ⟨ nil_prefix, fun failed rest stuck => by cases stuck⟩

theorem readable_eq : readable (delivery.attempts text) =
      (delivery.before text).map Attempt.piece ++ delivery.after text :=
  readable_split _

end

theorem getElem?_of_initial {front whole : List Piece} (begins : front <+: whole) {place : Nat}
    (within : place < front.length) : whole[place]? = front[place]? := by
  obtain ⟨rest, rfl⟩ := begins
  exact getElem?_append_left within

theorem after_cons {first : Piece} {more : List Piece} (read : delivery.after text = first :: more) :
    ∃ failed : Piece, failed ≠ first ∧
      (delivery.before text).map Attempt.piece ++ [failed] <+:
        allPieces delivery.limit 0 (prepare delivery.options text).1 := by
  cases htail : (delivery.attempts text).dropWhile Attempt.isWritten with
  | nil =>
    rw [after, htail] at read
    cases read
  | cons failed rest =>
    have hunwritten : failed.isWritten = false := by
      have hhead := head?_dropWhile_not Attempt.isWritten (delivery.attempts text)
      rw [htail] at hhead
      simpa using hhead
    have hfirst : first ∈ rest.map Attempt.piece := by
      apply (readable_failed hunwritten).subset
      rw [after, htail] at read
      rw [read]
      exact mem_cons_self
    have hsplit : delivery.attempts text = delivery.before text ++ failed :: rest := by
      rw [before, ← htail, takeWhile_append_dropWhile]
    have hpairwise := List.Pairwise.sublist (delivery.attempts_sublist text)
      (delivery.pairwise_pieces text)
    rw [hsplit, map_append, map_cons] at hpairwise
    have hless := rel_of_pairwise_cons (pairwise_append.mp hpairwise).2.1 hfirst
    refine ⟨failed.piece, ?_, (delivery.attempts_front text).2 failed rest htail⟩
    rintro rfl
    exact Nat.lt_irrefl _ hless

/-- A relay in step with the paste takes a beginning of it exactly if it gets nothing from
after a failure, or stops before. -/
theorem in_step_iff (delivery : Delivery) (text : Bytes) (expected : Nat) :
    accepted delivery.refuses expected expected 0 (readable (delivery.attempts text)) <+:
        allPieces delivery.limit 0 (prepare delivery.options text).1 ↔
      delivery.after text = [] ∨
        ∃ index ≤ (delivery.before text).length, delivery.refuses index = true := by
  obtain ⟨hinitial, hplaces⟩ :=
    accepted_in_step delivery.refuses expected 0 (readable (delivery.attempts text))
  have hread := delivery.readable_eq text
  have hlength : ((delivery.before text).map Attempt.piece).length =
      (delivery.before text).length := length_map _
  constructor
  · intro harrives
    by_contra hnot
    obtain ⟨hafter, hrefuses⟩ := not_or.mp hnot
    obtain ⟨first, more, hcons⟩ := exists_cons_of_ne_nil hafter
    obtain ⟨failed, hfailed, hnext⟩ := after_cons hcons
    have hplace : (delivery.before text).length <
        (accepted delivery.refuses expected expected 0
          (readable (delivery.attempts text))).length := by
      rw [hplaces, hread, length_append, hlength, hcons, length_cons]
      refine ⟨by omega, fun earlier hearlier => ?_⟩
      rw [Nat.zero_add, ← Bool.not_eq_true]
      exact fun hrefused => hrefuses ⟨earlier, hearlier, hrefused⟩
    have hstop : (allPieces delivery.limit 0
        (prepare delivery.options text).1)[(delivery.before text).length]? = some failed := by
      rw [getElem?_of_initial hnext (by rw [length_append, hlength]; exact Nat.lt_succ_self _)]
      rw [← hlength, getElem?_concat_length]
    have hfirst : (readable (delivery.attempts text))[(delivery.before text).length]? =
        some first := by
      rw [hread, hcons, ← hlength, getElem?_append_right (Nat.le_refl _), Nat.sub_self]
      rfl
    rw [getElem?_of_initial hinitial hplace] at hfirst
    rw [getElem?_of_initial harrives hplace, hfirst] at hstop
    exact hfailed (Option.some.inj hstop).symm
  · rintro (hnone | ⟨index, hindex, hrefused⟩)
    · rw [hread, hnone, append_nil] at hinitial ⊢
      exact hinitial.trans (delivery.attempts_front text).1
    · have hshort : (accepted delivery.refuses expected expected 0
          (readable (delivery.attempts text))).length ≤
            ((delivery.before text).map Attempt.piece).length := by
        rw [hlength, ← Nat.not_lt, hplaces]
        rintro ⟨-, hnone⟩
        have hindex := hnone index hindex
        rw [Nat.zero_add, hrefused] at hindex
        cases hindex
      apply IsPrefix.trans _ (delivery.attempts_front text).1
      apply prefix_of_prefix_length_le hinitial _ hshort
      rw [hread]
      exact prefix_append _ _

theorem ahead_iff (delivery : Delivery) (text : Bytes) {next expected : Nat}
    (ahead : next < expected) :
    accepted delivery.refuses expected next 0 (readable (delivery.attempts text)) <+:
        allPieces delivery.limit 0 (prepare delivery.options text).1 ↔
      (readable (delivery.attempts text)).length ≤ expected - next ∨
        delivery.refuses (expected - next) = true := by
  obtain ⟨count, rfl⟩ := Nat.exists_eq_add_of_lt ahead
  rw [Nat.add_assoc, Nat.add_sub_cancel_left, accepted_ahead, Nat.zero_add]
  obtain ⟨hinitial, hplaces⟩ := accepted_in_step delivery.refuses (next + (count + 1)) (count + 1)
    ((readable (delivery.attempts text)).drop (count + 1))
  have hfirst := hplaces 0
  rw [length_drop] at hfirst
  generalize accepted delivery.refuses (next + (count + 1)) (next + (count + 1)) (count + 1)
    ((readable (delivery.attempts text)).drop (count + 1)) = taken at hinitial hfirst ⊢
  constructor
  · intro harrives
    by_contra hnot
    obtain ⟨hlong, hrefuses⟩ := not_or.mp hnot
    have hplace : 0 < taken.length := by
      refine hfirst.mpr ⟨by omega, fun earlier hearlier => ?_⟩
      cases Nat.le_zero.mp hearlier
      simpa using hrefuses
    have hsublist := (readable_sublist (delivery.attempts text)).trans
      (delivery.attempts_sublist text)
    have hpairwise := List.Pairwise.sublist hsublist (delivery.pairwise_pieces text)
    have hless := pairwise_iff_getElem.mp hpairwise 0 (count + 1) (by omega) (by omega)
      (Nat.succ_pos count)
    have hhead : (allPieces delivery.limit 0 (prepare delivery.options text).1)[0]? =
        some (readable (delivery.attempts text))[count + 1] := by
      rw [getElem?_of_initial harrives hplace, ← getElem?_of_initial hinitial hplace]
      rw [getElem?_drop]
      exact getElem?_eq_getElem _
    -- the head of the paste would stand behind a frame that is no earlier in it
    have hmember := hsublist.subset
      (getElem_mem (by omega : 0 < (readable (delivery.attempts text)).length))
    have hordered := delivery.pairwise_pieces text
    generalize allPieces delivery.limit 0 (prepare delivery.options text).1 = whole
      at hhead hmember hordered
    cases whole with
    | nil => cases hmember
    | cons head rest =>
      cases hhead
      rcases mem_cons.mp hmember with hsame | hrest
      · rw [hsame] at hless
        exact Nat.lt_irrefl _ hless
      · exact Nat.lt_asymm hless (rel_of_pairwise_cons hordered hrest)
  · intro hnothing
    have hempty : taken = [] := by
      apply length_eq_zero_iff.mp
      apply Nat.le_zero.mp
      rw [← Nat.not_lt, hfirst]
      rintro ⟨hlong, hnone⟩
      rcases hnothing with hshort | hrefused
      · omega
      · have hfirst := hnone 0 (Nat.le_refl 0)
        rw [Nat.add_zero, hrefused] at hfirst
        cases hfirst
    rw [hempty]
    exact nil_prefix

/-- A paste arrives as a beginning of itself exactly when its order is kept; and then the bytes
accepted are a prefix of its chunks'. -/
theorem arrives_as_prefix_iff (delivery : Delivery) (text : Bytes) :
    (delivery.ArrivesAsPrefix text ↔ delivery.KeepsOrder text) ∧
      (delivery.ArrivesAsPrefix text →
        (((delivery.acceptedFrames text).filterMap id).map Piece.bytes).flatten <+:
          (prepare delivery.options text).1.flatten) := by
  constructor
  · have hframes : delivery.ArrivesAsPrefix text ↔
        (garbled (delivery.attempts text) && delivery.takesGarbled) = false ∧
          accepted delivery.refuses delivery.expectedSequence delivery.nextClientSequence 0
              (readable (delivery.attempts text)) <+:
            allPieces delivery.limit 0 (prepare delivery.options text).1 := by
      unfold ArrivesAsPrefix acceptedFrames
      cases garbled (delivery.attempts text) && delivery.takesGarbled with
      | false =>
        rw [if_neg Bool.false_ne_true, append_nil]
        rw [prefix_map_iff_of_injective (fun _ _ => Option.some.inj), and_iff_right rfl]
      | true =>
        rw [if_pos rfl]
        apply iff_of_false _ (fun both => by cases both.1)
        intro harrives
        have hnone : none ∈ (allPieces delivery.limit 0
            (prepare delivery.options text).1).map some :=
          harrives.subset (mem_append_right _ (mem_singleton_self _))
        obtain ⟨piece, -, hpiece⟩ := mem_map.mp hnone
        cases hpiece
    rw [hframes]
    apply and_congr_right
    intro _
    rcases Nat.lt_trichotomy delivery.expectedSequence delivery.nextClientSequence
      with hbehind | hstep | hahead
    · rw [accepted_behind hbehind]
      exact iff_of_true nil_prefix (Or.inl hbehind)
    · rw [hstep, in_step_iff]
      simp only [Nat.lt_irrefl, false_and, true_and, false_or, or_false]
    · rw [ahead_iff delivery text hahead]
      have hnotBehind : ¬ delivery.expectedSequence < delivery.nextClientSequence := by omega
      have hnotStep : ¬ delivery.expectedSequence = delivery.nextClientSequence := by omega
      simp only [hnotBehind, hnotStep, hahead, false_and, true_and, false_or]
  · rintro ⟨missing, hmissing⟩
    have hall : (allPieces delivery.limit 0 (prepare delivery.options text).1) =
        (delivery.acceptedFrames text).filterMap id ++ missing.filterMap id := by
      rw [← filterMap_append, hmissing, filterMap_map]
      exact filterMap_some.symm
    rw [← (allPieces_spec delivery.limit_pos 0 (prepare delivery.options text).1).1, hall]
    rw [map_append, flatten_append]
    exact prefix_append _ _

/-- Eight bytes pasted in two chunks, of which the first waits for a socket that is full until
the wait is interrupted. -/
def interrupted : Delivery where
  options := ⟨4, 64, false, true⟩
  inputAvailable := true
  limit := 4096
  floor := by decide
  outcome := fun attempt => if attempt = 0 then .unsent else .written
  nextClientSequence := 1
  expectedSequence := 1
  refuses := fun _ => false
  takesGarbled := false

/-- Only the second chunk is accepted. -/
theorem second_chunk_alone : interrupted.acceptedFrames [97, 98, 99, 100, 101, 102, 103, 104] =
        [some ⟨4, [101, 102, 103, 104]⟩] ∧
      ¬ interrupted.ArrivesAsPrefix [97, 98, 99, 100, 101, 102, 103, 104] := by
  have hframes : interrupted.acceptedFrames [97, 98, 99, 100, 101, 102, 103, 104] =
      [some ⟨4, [101, 102, 103, 104]⟩] := by decide
  refine ⟨hframes, ?_⟩
  unfold ArrivesAsPrefix
  rw [hframes]
  decide

end Delivery

end Paste

end Hypeterm.Android
