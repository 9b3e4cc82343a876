import Mathlib.Data.List.Nodup
import Hypeterm.Library.Runs

/-! Pipelined, numbered requests over ordered links. The receiver accepts only the number it
expects and answers every request in order; the sender numbers on, and after a refusal starts
again behind the last number it knows to be accepted. -/
namespace Hypeterm.Library

open List

structure Numbered (α : Type*) where
  sequence : Nat
  batch : Nat
  value : α
  deriving DecidableEq

/-- Requests whose answer the sender has heard, requests answered and not heard, requests
on their way or in the receiver's hands; the number the receiver expects, and the sender's
counters. -/
structure Pipeline (α β : Type*) where
  heard : List (Numbered α × β)
  unheard : List (Numbered α × β)
  pending : List (Numbered α)
  expected : Nat
  accepted : Nat
  next : Nat

variable {α β : Type*} {ok : β → Bool}

namespace Pipeline

def initial : Pipeline α β := ⟨[], [], [], 1, 0, 1⟩

def answered (pipeline : Pipeline α β) : List (Numbered α × β) :=
  pipeline.heard ++ pipeline.unheard

def unanswered (pipeline : Pipeline α β) : List (Numbered α) :=
  pipeline.unheard.map Prod.fst ++ pipeline.pending

def requests (pipeline : Pipeline α β) : List (Numbered α) :=
  pipeline.heard.map Prod.fst ++ pipeline.unanswered

def batch (ok : β → Bool) (pipeline : Pipeline α β) : Nat :=
  (pipeline.heard.filter fun pair => !ok pair.2).length

def Broken (ok : β → Bool) (answers : List (Numbered α × β)) (batch : Nat) : Prop :=
  ∃ pair ∈ answers, pair.1.batch = batch ∧ ok pair.2 = false

def Begun (ok : β → Bool) (pipeline : Pipeline α β) : Prop :=
  ∃ request ∈ pipeline.requests, request.batch = pipeline.batch ok

/-- Every unanswered request of an earlier batch comes after a refusal the sender has heard
in that batch. -/
def Settled (ok : β → Bool) (pipeline : Pipeline α β) : Prop :=
  ∀ request ∈ pipeline.unanswered, request.batch < pipeline.batch ok →
    Broken ok pipeline.heard request.batch

def send (ok : β → Bool) (pipeline : Pipeline α β) (value : α) : Pipeline α β :=
  { pipeline with
    pending := pipeline.pending ++ [⟨pipeline.next, pipeline.batch ok, value⟩]
    next := pipeline.next + 1 }

def answer (ok : β → Bool) (pipeline : Pipeline α β) (request : Numbered α)
    (rest : List (Numbered α)) (reply : β) : Pipeline α β :=
  { pipeline with
    pending := rest
    unheard := pipeline.unheard ++ [(request, reply)]
    expected := if ok reply then pipeline.expected + 1 else pipeline.expected }

/-- An acceptance raises the counters; after a refusal the sender starts again behind the
last accepted number. -/
def hear (ok : β → Bool) (pipeline : Pipeline α β) (pair : Numbered α × β)
    (rest : List (Numbered α × β)) : Pipeline α β :=
  if ok pair.2 then
    { pipeline with
      heard := pipeline.heard ++ [pair]
      unheard := rest
      accepted := max pipeline.accepted pair.1.sequence
      next := max pipeline.next (max pipeline.accepted pair.1.sequence + 1) }
  else
    { pipeline with
      heard := pipeline.heard ++ [pair]
      unheard := rest
      next := pipeline.accepted + 1 }

/-- What is on its way: requests behind a refusal in their batch, which number too high,
then requests of one batch that number on from what the receiver expects. -/
structure Shape (ok : β → Bool) (answers : List (Numbered α × β)) (expected : Nat)
    (doomed fresh : List (Numbered α)) : Prop where
  above : ∀ request ∈ doomed, expected < request.sequence
  broken : ∀ request ∈ doomed, Broken ok answers request.batch
  consecutive : fresh.map Numbered.sequence = range' expected fresh.length
  unbroken : ∀ request ∈ fresh, ¬ Broken ok answers request.batch
  one : ∀ first ∈ fresh, ∀ second ∈ fresh, first.batch = second.batch

structure Aligned (ok : β → Bool) (pipeline : Pipeline α β) : Prop where
  batch_le : ∀ request ∈ pipeline.requests, request.batch ≤ pipeline.batch ok
  closed : pipeline.answered.Pairwise fun first second =>
    first.1.batch = second.1.batch → ok first.2 = false → ok second.2 = false
  counted : (pipeline.answered.filter fun pair => ok pair.2).map (fun pair => pair.1.sequence) =
    range' 1 (pipeline.answered.filter fun pair => ok pair.2).length
  expected_eq : pipeline.expected = (pipeline.answered.filter fun pair => ok pair.2).length + 1
  accepted_eq : pipeline.accepted = (pipeline.heard.filter fun pair => ok pair.2).length
  idle : ¬ pipeline.Begun ok → pipeline.next = pipeline.accepted + 1
  settled : pipeline.Begun ok → pipeline.Settled ok
  below : ∀ request ∈ pipeline.requests, request.batch = pipeline.batch ok →
    request.sequence < pipeline.next
  behind : pipeline.Begun ok → Broken ok pipeline.answered (pipeline.batch ok) →
    pipeline.expected < pipeline.next
  shape : ∃ doomed fresh, pipeline.pending = doomed ++ fresh ∧
    Shape ok pipeline.answered pipeline.expected doomed fresh ∧
    (pipeline.Begun ok → ¬ Broken ok pipeline.answered (pipeline.batch ok) →
      pipeline.next = pipeline.expected + fresh.length)

variable {pipeline : Pipeline α β}

theorem Aligned.initial : Aligned ok (initial : Pipeline α β) where
  batch_le := by simp [Pipeline.initial, requests, unanswered]
  closed := List.Pairwise.nil
  counted := rfl
  expected_eq := rfl
  accepted_eq := rfl
  idle := fun _ => rfl
  settled := by simp [Begun, Pipeline.initial, requests, unanswered]
  below := by simp [Pipeline.initial, requests, unanswered]
  behind := by simp [Begun, Pipeline.initial, requests, unanswered]
  shape := ⟨[], [], rfl, ⟨by simp, by simp, rfl, by simp, by simp⟩, by
    simp [Begun, Pipeline.initial, requests, unanswered]⟩

theorem Broken.mono {answers more : List (Numbered α × β)} {batch : Nat}
    (broken : Broken ok answers batch) (sub : ∀ pair ∈ answers, pair ∈ more) :
    Broken ok more batch := by
  obtain ⟨pair, hmem, hbatch⟩ := broken
  exact ⟨pair, sub pair hmem, hbatch⟩

theorem Broken.of_heard {batch : Nat} (broken : Broken ok pipeline.heard batch) :
    Broken ok pipeline.answered batch :=
  broken.mono fun _ hmem => mem_append_left _ hmem

theorem begun_of_broken (broken : Broken ok pipeline.answered (pipeline.batch ok)) :
    pipeline.Begun ok := by
  obtain ⟨pair, hmem, hbatch, -⟩ := broken
  refine ⟨pair.1, ?_, hbatch⟩
  rcases mem_append.mp hmem with hheard | hunheard
  · exact mem_append_left _ (mem_map_of_mem hheard)
  · exact mem_append_right _ (mem_append_left _ (mem_map_of_mem hunheard))

theorem Aligned.refused_of_heard (aligned : Aligned ok pipeline) {pair : Numbered α × β}
    (unheard : pair ∈ pipeline.unheard) (broken : Broken ok pipeline.heard pair.1.batch) :
    ok pair.2 = false := by
  obtain ⟨earlier, hearlier, hbatch, hrefused⟩ := broken
  exact (pairwise_append.mp aligned.closed).2.2 earlier hearlier pair unheard hbatch hrefused

section

variable (aligned : Aligned ok pipeline) (settled : pipeline.Settled ok)
include aligned settled

theorem Aligned.fresh_current
    {doomed fresh : List (Numbered α)} (pending_eq : pipeline.pending = doomed ++ fresh)
    (shape : Shape ok pipeline.answered pipeline.expected doomed fresh) :
    ∀ request ∈ fresh, request.batch = pipeline.batch ok := by
  intro request hmem
  have hunanswered : request ∈ pipeline.unanswered := by
    rw [unanswered, pending_eq]
    exact mem_append_right _ (mem_append_right _ hmem)
  have hle := aligned.batch_le request (mem_append_right _ hunanswered)
  rcases Nat.lt_or_eq_of_le hle with hlt | heq
  · exact absurd (settled request hunanswered hlt).of_heard (shape.unbroken request hmem)
  · exact heq

theorem Aligned.fresh_nil_of_broken
    {doomed fresh : List (Numbered α)} (pending_eq : pipeline.pending = doomed ++ fresh)
    (shape : Shape ok pipeline.answered pipeline.expected doomed fresh)
    (broken : Broken ok pipeline.answered (pipeline.batch ok)) : fresh = [] := by
  cases fresh with
  | nil => rfl
  | cons request rest =>
    have hcurrent := aligned.fresh_current settled pending_eq shape request mem_cons_self
    exact absurd (hcurrent ▸ broken) (shape.unbroken request mem_cons_self)

/-- Nothing of the new batch is sent and every earlier batch is settled: all acceptances
have been heard, so the sender's number is the one the receiver expects. -/
theorem Aligned.next_of_idle (idle : ¬ pipeline.Begun ok) {doomed fresh : List (Numbered α)}
    (pending_eq : pipeline.pending = doomed ++ fresh)
    (shape : Shape ok pipeline.answered pipeline.expected doomed fresh) :
    fresh = [] ∧ pipeline.next = pipeline.expected := by
  have hbroken : ∀ request ∈ pipeline.unanswered, Broken ok pipeline.heard request.batch := by
    intro request hunanswered
    have hmem : request ∈ pipeline.requests := mem_append_right _ hunanswered
    refine settled request hunanswered (Nat.lt_of_le_of_ne (aligned.batch_le request hmem) ?_)
    intro hbatch
    exact idle ⟨request, hmem, hbatch⟩
  constructor
  · cases fresh with
    | nil => rfl
    | cons request rest =>
      have hunanswered : request ∈ pipeline.unanswered := by
        simp [unanswered, pending_eq]
      exact absurd (hbroken request hunanswered).of_heard (shape.unbroken request mem_cons_self)
  · have hnone : (pipeline.unheard.filter fun pair => ok pair.2) = [] := by
      rw [filter_eq_nil_iff]
      intro pair hmem
      have hunanswered : pair.1 ∈ pipeline.unanswered :=
        mem_append_left _ (mem_map_of_mem hmem)
      simp [aligned.refused_of_heard hmem (hbroken pair.1 hunanswered)]
    rw [aligned.idle idle, aligned.expected_eq, aligned.accepted_eq, answered, filter_append,
      hnone, append_nil]

end

theorem requests_send (value : α) : (pipeline.send ok value).requests =
      pipeline.requests ++ [⟨pipeline.next, pipeline.batch ok, value⟩] := by
  simp [requests, unanswered, send, append_assoc]

theorem begun_send (value : α) : (pipeline.send ok value).Begun ok := by
  refine ⟨⟨pipeline.next, pipeline.batch ok, value⟩, ?_, rfl⟩
  rw [requests_send]
  exact mem_append_right _ mem_cons_self

variable {answers : List (Numbered α × β)} {expected : Nat}

theorem Shape.send_doomed {doomed : List (Numbered α)} {request : Numbered α}
    (shape : Shape ok answers expected doomed []) (above : expected < request.sequence)
    (broken : Broken ok answers request.batch) :
    Shape ok answers expected (doomed ++ [request]) [] where
  above := by
    intro other hmem
    rcases mem_append.mp hmem with hbefore | hlast
    · exact shape.above other hbefore
    · rwa [mem_singleton.mp hlast]
  broken := by
    intro other hmem
    rcases mem_append.mp hmem with hbefore | hlast
    · exact shape.broken other hbefore
    · rwa [mem_singleton.mp hlast]
  consecutive := rfl
  unbroken := by simp
  one := by simp

theorem Shape.send_fresh {doomed fresh : List (Numbered α)} {request : Numbered α}
    (shape : Shape ok answers expected doomed fresh)
    (next : request.sequence = expected + fresh.length)
    (unbroken : ¬ Broken ok answers request.batch)
    (current : ∀ other ∈ fresh, other.batch = request.batch) :
    Shape ok answers expected doomed (fresh ++ [request]) where
  above := shape.above
  broken := shape.broken
  consecutive := by
    rw [map_append, shape.consecutive, length_append, length_singleton, range'_concat]
    simp [next]
  unbroken := by
    intro other hmem
    rcases mem_append.mp hmem with hbefore | hlast
    · exact shape.unbroken other hbefore
    · rwa [mem_singleton.mp hlast]
  one := by
    have hall : ∀ other ∈ fresh ++ [request], other.batch = request.batch := by
      intro other hmem
      rcases mem_append.mp hmem with hbefore | hlast
      · exact current other hbefore
      · rw [mem_singleton.mp hlast]
    intro first hfirst second hsecond
    rw [hall first hfirst, hall second hsecond]

theorem Aligned.send (aligned : Aligned ok pipeline) (settled : pipeline.Settled ok) (value : α) :
    Aligned ok (pipeline.send ok value) where
  batch_le := by
    intro request hmem
    rw [requests_send] at hmem
    rcases mem_append.mp hmem with hbefore | hlast
    · exact aligned.batch_le request hbefore
    · rw [mem_singleton.mp hlast]
      exact Nat.le_refl _
  closed := aligned.closed
  counted := aligned.counted
  expected_eq := aligned.expected_eq
  accepted_eq := aligned.accepted_eq
  idle := fun idle => absurd (begun_send value) idle
  settled := by
    intro _ request hmem hlt
    rw [unanswered, Pipeline.send, ← append_assoc] at hmem
    rcases mem_append.mp hmem with hbefore | hlast
    · exact settled request hbefore hlt
    · rw [mem_singleton.mp hlast] at hlt
      exact absurd hlt (Nat.lt_irrefl _)
  below := by
    intro request hmem hbatch
    rw [requests_send] at hmem
    rcases mem_append.mp hmem with hbefore | hlast
    · exact Nat.lt_succ_of_lt (aligned.below request hbefore hbatch)
    · rw [mem_singleton.mp hlast]
      exact Nat.lt_succ_self _
  behind := by
    intro _ hbroken
    exact Nat.lt_succ_of_lt (aligned.behind (begun_of_broken hbroken) hbroken)
  shape := by
    obtain ⟨doomed, fresh, hpending, hshape, hnext⟩ := aligned.shape
    by_cases hbroken : Broken ok pipeline.answered (pipeline.batch ok)
    · obtain rfl := aligned.fresh_nil_of_broken settled hpending hshape hbroken
      refine ⟨doomed ++ [⟨pipeline.next, pipeline.batch ok, value⟩], [], ?_,
        hshape.send_doomed (aligned.behind (begun_of_broken hbroken) hbroken) hbroken, ?_⟩
      · simp [Pipeline.send, hpending]
      · intro _ hunbroken
        exact absurd hbroken hunbroken
    · have hnumber : pipeline.next = pipeline.expected + fresh.length := by
        by_cases hbegun : pipeline.Begun ok
        · exact hnext hbegun hbroken
        · obtain ⟨rfl, heq⟩ := aligned.next_of_idle settled hbegun hpending hshape
          exact heq
      refine ⟨doomed, fresh ++ [⟨pipeline.next, pipeline.batch ok, value⟩], ?_,
        hshape.send_fresh hnumber hbroken (aligned.fresh_current settled hpending hshape), ?_⟩
      · simp [Pipeline.send, hpending]
      · intro _ _
        simp [Pipeline.send, hnumber]
        omega

variable {request : Numbered α} {rest : List (Numbered α)} {reply : β}

theorem answered_answer :
    (pipeline.answer ok request rest reply).answered = pipeline.answered ++ [(request, reply)] := by
  simp [answered, answer, append_assoc]

theorem unanswered_answer (pending_eq : pipeline.pending = request :: rest) :
    (pipeline.answer ok request rest reply).unanswered = pipeline.unanswered := by
  simp [unanswered, answer, pending_eq]

theorem requests_answer (pending_eq : pipeline.pending = request :: rest) :
    (pipeline.answer ok request rest reply).requests = pipeline.requests := by
  rw [requests, unanswered_answer pending_eq]
  rfl

theorem broken_concat {batch : Nat} : Broken ok (answers ++ [(request, reply)]) batch ↔
      Broken ok answers batch ∨ request.batch = batch ∧ ok reply = false := by
  simp only [Broken, mem_append, mem_singleton]
  constructor
  · rintro ⟨pair, hmem | rfl, hpair⟩
    · exact .inl ⟨pair, hmem, hpair⟩
    · exact .inr hpair
  · rintro (⟨pair, hmem, hpair⟩ | hpair)
    · exact ⟨pair, .inl hmem, hpair⟩
    · exact ⟨_, .inr rfl, hpair⟩

theorem Shape.head_sequence
    {doomed : List (Numbered α)} (shape : Shape ok answers expected doomed (request :: rest)) :
    request.sequence = expected := by
  have hconsecutive := shape.consecutive
  rw [map_cons, length_cons, range'_succ] at hconsecutive
  exact (List.cons.inj hconsecutive).1

theorem Aligned.head (aligned : Aligned ok pipeline) (pending_eq : pipeline.pending = request :: rest) :
    (Shape ok pipeline.answered pipeline.expected [] (request :: rest) ∧
        (pipeline.Begun ok → ¬ Broken ok pipeline.answered (pipeline.batch ok) →
          pipeline.next = pipeline.expected + (request :: rest).length)) ∨
      ∃ doomed fresh, rest = doomed ++ fresh ∧
        Shape ok pipeline.answered pipeline.expected (request :: doomed) fresh ∧
        (pipeline.Begun ok → ¬ Broken ok pipeline.answered (pipeline.batch ok) →
          pipeline.next = pipeline.expected + fresh.length) := by
  obtain ⟨doomed, fresh, hpending, hshape, hnext⟩ := aligned.shape
  rw [pending_eq] at hpending
  cases doomed with
  | nil =>
    rw [nil_append] at hpending
    subst hpending
    exact .inl ⟨hshape, hnext⟩
  | cons first others =>
    rw [cons_append] at hpending
    obtain ⟨rfl, hrest⟩ := List.cons.inj hpending
    exact .inr ⟨others, fresh, hrest, hshape, hnext⟩

theorem Aligned.broken_of_mismatch (aligned : Aligned ok pipeline)
    (pending_eq : pipeline.pending = request :: rest)
    (mismatch : request.sequence ≠ pipeline.expected) :
    Broken ok pipeline.answered request.batch := by
  rcases aligned.head pending_eq with ⟨hshape, -⟩ | ⟨doomed, fresh, -, hshape, -⟩
  · exact absurd hshape.head_sequence mismatch
  · exact hshape.broken request mem_cons_self

/-- Every answer that tells of a mismatch comes after a refusal in the batch of its request. -/
def Explained (ok mismatch : β → Bool) : List (Numbered α × β) → Prop :=
  EachAfter fun earlier pair => mismatch pair.2 = true → Broken ok earlier pair.1.batch

theorem Explained.answer {mismatch : β → Bool} (explained : Explained ok mismatch pipeline.answered)
    (aligned : Aligned ok pipeline) (pending_eq : pipeline.pending = request :: rest)
    (differs : mismatch reply = true → request.sequence ≠ pipeline.expected) :
    Explained ok mismatch (pipeline.answer ok request rest reply).answered := by
  rw [answered_answer]
  exact EachAfter.concat explained fun hmismatch =>
    aligned.broken_of_mismatch pending_eq (differs hmismatch)

theorem Shape.accept
    (shape : Shape ok answers expected [] (request :: rest)) (accepted : ok reply = true) :
    Shape ok (answers ++ [(request, reply)]) (expected + 1) [] rest where
  above := by simp
  broken := by simp
  consecutive := by
    have hconsecutive := shape.consecutive
    rw [map_cons, length_cons, range'_succ] at hconsecutive
    exact (List.cons.inj hconsecutive).2
  unbroken := by
    intro other hmem
    rw [broken_concat]
    rintro (hbroken | ⟨-, hrefused⟩)
    · exact shape.unbroken other (mem_cons_of_mem _ hmem) hbroken
    · rw [accepted] at hrefused
      cases hrefused
  one := fun first hfirst second hsecond =>
    shape.one first (mem_cons_of_mem _ hfirst) second (mem_cons_of_mem _ hsecond)

theorem Shape.refuse_fresh
    (shape : Shape ok answers expected [] (request :: rest)) (refused : ok reply = false) :
    Shape ok (answers ++ [(request, reply)]) expected rest [] where
  above := by
    intro other hmem
    have hconsecutive := shape.consecutive
    rw [map_cons, length_cons, range'_succ] at hconsecutive
    have hsequence : other.sequence ∈ range' (expected + 1) rest.length := by
      rw [← (List.cons.inj hconsecutive).2]
      exact mem_map_of_mem hmem
    exact (List.mem_range'_1.mp hsequence).1
  broken := by
    intro other hmem
    rw [broken_concat]
    exact .inr ⟨shape.one request mem_cons_self other (mem_cons_of_mem _ hmem), refused⟩
  consecutive := rfl
  unbroken := by simp
  one := by simp

theorem Shape.refuse_doomed
    {fresh : List (Numbered α)} (shape : Shape ok answers expected (request :: rest) fresh) :
    Shape ok (answers ++ [(request, reply)]) expected rest fresh where
  above := fun other hmem => shape.above other (mem_cons_of_mem _ hmem)
  broken := fun other hmem =>
    broken_concat.mpr (.inl (shape.broken other (mem_cons_of_mem _ hmem)))
  consecutive := shape.consecutive
  unbroken := by
    intro other hmem
    rw [broken_concat]
    rintro (hbroken | ⟨hbatch, -⟩)
    · exact shape.unbroken other hmem hbroken
    · exact shape.unbroken other hmem (hbatch ▸ shape.broken request mem_cons_self)
  one := shape.one

theorem Aligned.shape_answer (aligned : Aligned ok pipeline)
    (pending_eq : pipeline.pending = request :: rest)
    (accepts : ok reply = true → request.sequence = pipeline.expected) :
    ∃ doomed fresh, rest = doomed ++ fresh ∧
      Shape ok (pipeline.answered ++ [(request, reply)])
        (if ok reply then pipeline.expected + 1 else pipeline.expected) doomed fresh ∧
      (pipeline.Begun ok →
        ¬ Broken ok (pipeline.answered ++ [(request, reply)]) (pipeline.batch ok) →
          pipeline.next =
            (if ok reply then pipeline.expected + 1 else pipeline.expected) + fresh.length) := by
  have hweaken : ¬ Broken ok (pipeline.answered ++ [(request, reply)]) (pipeline.batch ok) →
      ¬ Broken ok pipeline.answered (pipeline.batch ok) := by
    intro hunbroken hbroken
    exact hunbroken (broken_concat.mpr (.inl hbroken))
  rcases aligned.head pending_eq with ⟨hshape, hnext⟩ | ⟨doomed, fresh, rfl, hshape, hnext⟩
  · cases hreply : ok reply with
    | true =>
      refine ⟨[], rest, rfl, hshape.accept hreply, ?_⟩
      intro hbegun hunbroken
      rw [hnext hbegun (hweaken hunbroken), length_cons]
      simp only [if_true]
      omega
    | false =>
      refine ⟨rest, [], (append_nil _).symm, hshape.refuse_fresh hreply, ?_⟩
      intro hbegun hunbroken
      -- the refused request belongs to the sender's batch, which is now broken
      have hcurrent := aligned.fresh_current (aligned.settled hbegun) (pending_eq.trans rfl) hshape
        request mem_cons_self
      exact absurd (broken_concat.mpr (.inr ⟨hcurrent, hreply⟩)) hunbroken
  · have hrefused : ok reply = false := by
      cases hreply : ok reply with
      | false => rfl
      | true =>
        have habove := hshape.above request mem_cons_self
        rw [accepts hreply] at habove
        exact absurd habove (Nat.lt_irrefl _)
    refine ⟨doomed, fresh, rfl, ?_, ?_⟩
    · rw [hrefused]
      exact hshape.refuse_doomed
    · intro hbegun hunbroken
      rw [hrefused]
      exact hnext hbegun (hweaken hunbroken)

theorem Aligned.unbroken_of_expected (aligned : Aligned ok pipeline)
    (pending_eq : pipeline.pending = request :: rest)
    (expected : request.sequence = pipeline.expected) :
    ¬ Broken ok pipeline.answered request.batch := by
  rcases aligned.head pending_eq with ⟨hshape, -⟩ | ⟨doomed, fresh, -, hshape, -⟩
  · exact hshape.unbroken request mem_cons_self
  · have habove := hshape.above request mem_cons_self
    rw [expected] at habove
    exact absurd habove (Nat.lt_irrefl _)

theorem Aligned.counted_answer (aligned : Aligned ok pipeline)
    (accepts : ok reply = true → request.sequence = pipeline.expected) :
    ((pipeline.answered ++ [(request, reply)]).filter fun pair => ok pair.2).map
        (fun pair => pair.1.sequence) =
      range' 1 ((pipeline.answered ++ [(request, reply)]).filter fun pair => ok pair.2).length := by
  cases hreply : ok reply with
  | false => simpa [filter_append, hreply] using aligned.counted
  | true =>
    have hsequence := accepts hreply
    rw [aligned.expected_eq] at hsequence
    have hone : ([(request, reply)].filter fun pair : Numbered α × β => ok pair.2) =
        [(request, reply)] := by simp [hreply]
    rw [filter_append, hone, map_append, length_append, aligned.counted,
      length_singleton, List.range'_1_concat]
    simp [hsequence, Nat.add_comm]

theorem Aligned.answer (aligned : Aligned ok pipeline) (pending_eq : pipeline.pending = request :: rest)
    (accepts : ok reply = true → request.sequence = pipeline.expected) :
    Aligned ok (pipeline.answer ok request rest reply) where
  batch_le := by
    rw [requests_answer pending_eq]
    exact aligned.batch_le
  closed := by
    rw [answered_answer, pairwise_append]
    refine ⟨aligned.closed, pairwise_singleton _ _, ?_⟩
    intro first hfirst second hsecond hbatch hrefused
    rw [mem_singleton] at hsecond
    subst hsecond
    cases hreply : ok reply with
    | false => rfl
    | true =>
      exact absurd ⟨first, hfirst, hbatch, hrefused⟩
        (aligned.unbroken_of_expected pending_eq (accepts hreply))
  counted := by
    rw [answered_answer]
    exact aligned.counted_answer accepts
  expected_eq := by
    rw [answered_answer, filter_append, length_append]
    simp only [Pipeline.answer, aligned.expected_eq]
    cases hreply : ok reply <;> simp [hreply]
  accepted_eq := aligned.accepted_eq
  idle := by
    rw [Begun, requests_answer pending_eq]
    exact aligned.idle
  settled := by
    rw [Begun, requests_answer pending_eq, Settled, unanswered_answer pending_eq]
    exact aligned.settled
  below := by
    rw [requests_answer pending_eq]
    exact aligned.below
  behind := by
    rw [Begun, requests_answer pending_eq, answered_answer]
    intro hbegun hbroken
    have hbatch : (pipeline.answer ok request rest reply).batch ok = pipeline.batch ok := rfl
    rw [hbatch, broken_concat] at hbroken
    cases hreply : ok reply with
    | true =>
      -- an accepted request is fresh, so the sender's batch is not broken
      have hunbroken := aligned.unbroken_of_expected pending_eq (accepts hreply)
      obtain ⟨doomed, fresh, hpending, hshape, -⟩ := aligned.shape
      rcases hbroken with hbroken | ⟨-, hrefused⟩
      · obtain rfl := aligned.fresh_nil_of_broken (aligned.settled hbegun) hpending hshape hbroken
        rw [pending_eq, append_nil] at hpending
        exact absurd (hshape.broken request (hpending ▸ mem_cons_self)) hunbroken
      · rw [hreply] at hrefused
        cases hrefused
    | false =>
      simp only [Pipeline.answer, hreply, Bool.false_eq_true, if_false]
      by_cases hbefore : Broken ok pipeline.answered (pipeline.batch ok)
      · exact aligned.behind hbegun hbefore
      · have hcurrent := (hbroken.resolve_left hbefore).1
        rcases aligned.head pending_eq with ⟨hshape, -⟩ | ⟨doomed, fresh, -, hshape, -⟩
        · have hmem : request ∈ pipeline.requests := by
            simp [requests, unanswered, pending_eq]
          rw [← hshape.head_sequence]
          exact aligned.below request hmem hcurrent
        · exact absurd (hcurrent ▸ hshape.broken request mem_cons_self) hbefore
  shape := by
    rw [Begun, requests_answer pending_eq, answered_answer]
    exact aligned.shape_answer pending_eq accepts

variable {pair : Numbered α × β} {others : List (Numbered α × β)}

theorem answered_hear (unheard_eq : pipeline.unheard = pair :: others) :
    (pipeline.hear ok pair others).answered = pipeline.answered := by
  unfold hear
  split <;> simp [answered, unheard_eq]

theorem requests_hear (unheard_eq : pipeline.unheard = pair :: others) :
    (pipeline.hear ok pair others).requests = pipeline.requests := by
  unfold hear
  split <;> simp [requests, unanswered, unheard_eq]

theorem hear_kept (pipeline : Pipeline α β) (ok : β → Bool) (pair : Numbered α × β)
    (others : List (Numbered α × β)) :
    (pipeline.hear ok pair others).expected = pipeline.expected ∧
      (pipeline.hear ok pair others).pending = pipeline.pending := by
  unfold hear
  split <;> exact ⟨rfl, rfl⟩

theorem batch_hear_accepted (accepted : ok pair.2 = true) :
    (pipeline.hear ok pair others).batch ok = pipeline.batch ok := by
  simp [batch, hear, accepted]

theorem batch_hear_refused (refused : ok pair.2 = false) :
    (pipeline.hear ok pair others).batch ok = pipeline.batch ok + 1 := by
  simp [batch, hear, refused]

section

variable (aligned : Aligned ok pipeline) (unheard_eq : pipeline.unheard = pair :: others)
include aligned unheard_eq

theorem Aligned.heard_sequence (accepted : ok pair.2 = true) :
    pair.1.sequence = pipeline.accepted + 1 ∧ pipeline.accepted + 1 < pipeline.expected := by
  have hcounted := aligned.counted
  have hfilter : (pipeline.answered.filter fun pair => ok pair.2) =
      (pipeline.heard.filter fun pair => ok pair.2) ++
        pair :: (others.filter fun pair => ok pair.2) := by
    simp [answered, unheard_eq, filter_append, accepted]
  have hexpected := aligned.expected_eq
  rw [hfilter] at hcounted hexpected
  rw [map_append, map_cons, length_append, length_cons, ← Nat.add_assoc] at hcounted
  rw [length_append, length_cons, ← aligned.accepted_eq] at hexpected
  have hat := congrArg (fun sequences => sequences[pipeline.accepted]?) hcounted
  have hlength : ((pipeline.heard.filter fun pair => ok pair.2).map
      fun pair => pair.1.sequence).length = pipeline.accepted := by
    rw [length_map, aligned.accepted_eq]
  rw [getElem?_append_right (Nat.le_of_eq hlength), hlength, Nat.sub_self,
    getElem?_cons_zero, getElem?_range' (by rw [← aligned.accepted_eq]; omega)] at hat
  constructor
  · have := Option.some.inj hat
    omega
  · omega

theorem Aligned.hear_accepted (accepted : ok pair.2 = true) :
    Aligned ok (pipeline.hear ok pair others) := by
  obtain ⟨hsequence, hexpected⟩ := aligned.heard_sequence unheard_eq accepted
  have hcounters : (pipeline.hear ok pair others).accepted = pipeline.accepted + 1 ∧
      (pipeline.hear ok pair others).next = max pipeline.next (pipeline.accepted + 2) := by
    rw [hear, if_pos accepted]
    simp only [hsequence]
    omega
  obtain ⟨hexpected_eq, hpending_eq⟩ := hear_kept pipeline ok pair others
  have hbegun : (pipeline.hear ok pair others).Begun ok ↔ pipeline.Begun ok := by
    rw [Begun, requests_hear unheard_eq, batch_hear_accepted accepted]
    exact Iff.rfl
  -- a sender that has begun its batch is ahead of the receiver already
  have hnext : pipeline.Begun ok → (pipeline.hear ok pair others).next = pipeline.next := by
    intro hbegun
    obtain ⟨doomed, fresh, -, -, hshape⟩ := aligned.shape
    have hbehind := aligned.behind hbegun
    have hahead := hshape hbegun
    rw [hcounters.2]
    by_cases hbroken : Broken ok pipeline.answered (pipeline.batch ok)
    · have := hbehind hbroken
      omega
    · have := hahead hbroken
      omega
  exact {
    batch_le := by
      rw [requests_hear unheard_eq, batch_hear_accepted accepted]
      exact aligned.batch_le
    closed := by
      rw [answered_hear unheard_eq]
      exact aligned.closed
    counted := by
      rw [answered_hear unheard_eq]
      exact aligned.counted
    expected_eq := by
      rw [answered_hear unheard_eq, hexpected_eq]
      exact aligned.expected_eq
    accepted_eq := by
      rw [hcounters.1, aligned.accepted_eq, hear, if_pos accepted]
      simp [filter_append, accepted]
    idle := by
      rw [hbegun, hcounters.1, hcounters.2]
      intro hidle
      have := aligned.idle hidle
      omega
    settled := by
      rw [hbegun]
      intro hbegun request hmem hlt
      rw [batch_hear_accepted accepted] at hlt
      have hbefore : request ∈ pipeline.unanswered := by
        rw [hear, if_pos accepted] at hmem
        rw [unanswered, unheard_eq]
        exact mem_cons_of_mem _ hmem
      refine (aligned.settled hbegun request hbefore hlt).mono ?_
      intro other hother
      rw [hear, if_pos accepted]
      exact mem_append_left _ hother
    below := by
      intro request hmem hbatch
      rw [requests_hear unheard_eq] at hmem
      rw [batch_hear_accepted accepted] at hbatch
      rw [hnext ⟨request, hmem, hbatch⟩]
      exact aligned.below request hmem hbatch
    behind := by
      rw [hbegun, answered_hear unheard_eq, batch_hear_accepted accepted, hexpected_eq]
      intro hbegun hbroken
      rw [hnext hbegun]
      exact aligned.behind hbegun hbroken
    shape := by
      obtain ⟨doomed, fresh, hpending, hshape, hahead⟩ := aligned.shape
      rw [hbegun, answered_hear unheard_eq, batch_hear_accepted accepted, hexpected_eq, hpending_eq]
      refine ⟨doomed, fresh, hpending, hshape, ?_⟩
      intro hbegun hunbroken
      rw [hnext hbegun]
      exact hahead hbegun hunbroken }

theorem Aligned.hear_refused (refused : ok pair.2 = false) :
    Aligned ok (pipeline.hear ok pair others) := by
  have hnot : ¬ ok pair.2 = true := by
    rw [refused]
    exact Bool.false_ne_true
  have hcounters : (pipeline.hear ok pair others).accepted = pipeline.accepted ∧
      (pipeline.hear ok pair others).next = pipeline.accepted + 1 := by
    rw [hear, if_neg hnot]
    exact ⟨rfl, rfl⟩
  obtain ⟨hexpected_eq, hpending_eq⟩ := hear_kept pipeline ok pair others
  -- every request there is belongs to an earlier batch
  have hidle : ¬ (pipeline.hear ok pair others).Begun ok := by
    rintro ⟨request, hmem, hbatch⟩
    rw [requests_hear unheard_eq] at hmem
    rw [batch_hear_refused refused] at hbatch
    have := aligned.batch_le request hmem
    omega
  exact {
    batch_le := by
      intro request hmem
      rw [requests_hear unheard_eq] at hmem
      rw [batch_hear_refused refused]
      exact Nat.le_succ_of_le (aligned.batch_le request hmem)
    closed := by
      rw [answered_hear unheard_eq]
      exact aligned.closed
    counted := by
      rw [answered_hear unheard_eq]
      exact aligned.counted
    expected_eq := by
      rw [answered_hear unheard_eq, hexpected_eq]
      exact aligned.expected_eq
    accepted_eq := by
      rw [hcounters.1, aligned.accepted_eq, hear, if_neg hnot]
      simp [filter_append, refused]
    idle := fun _ => by rw [hcounters.1, hcounters.2]
    settled := fun hbegun => absurd hbegun hidle
    below := by
      intro request hmem hbatch
      exact absurd ⟨request, hmem, hbatch⟩ hidle
    behind := fun hbegun => absurd hbegun hidle
    shape := by
      obtain ⟨doomed, fresh, hpending, hshape, -⟩ := aligned.shape
      rw [answered_hear unheard_eq, hexpected_eq, hpending_eq]
      exact ⟨doomed, fresh, hpending, hshape, fun hbegun => absurd hbegun hidle⟩ }

end

end Pipeline

end Hypeterm.Library
