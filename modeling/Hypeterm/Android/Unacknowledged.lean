import Hypeterm.Android.InputLink

/-! Input that may not have arrived.  A subscription counts the bytes that it has sent and the
relay has not acknowledged, and the controller, when it lets go of the connection, tells the
user if there are any. -/
namespace Hypeterm.Android

open Library List

/-- A frame that was written, with its place among those written on the subscription. -/
structure SentFrame where
  ordinal : Nat
  sequence : Nat
  size : Nat

/-- A subscription's sequencing and its count, with the frames written and the ordinals of
those that the relay has refused. -/
structure Accounting where
  session : InputSession
  unacknowledgedInputBytes : Nat
  sent : List SentFrame
  refused : List Nat

/-- `written` tells whether the frame got onto the socket.  An error of the relay does not name
the frames that it is about; `about` does. -/
inductive AccountingAction where
  | limits (maxInputFrameBytes : Nat)
  | send (payload : Bytes) (written : Bool)
  | inputAck (accepted : Nat)
  | refusal (code : String) (about : List Nat)

namespace Accounting

def subscribed (maxInputFrameBytes : Nat) (inputAvailable : Bool) : Accounting :=
  ⟨(InputSession.connect maxInputFrameBytes).handleSubscribed inputAvailable, 0, [], []⟩

def isOutstanding (accounting : Accounting) (frame : SentFrame) : Bool :=
  accounting.session.acceptedThrough < frame.sequence && !accounting.refused.contains frame.ordinal

def outstanding (accounting : Accounting) : List SentFrame :=
  accounting.sent.filter accounting.isOutstanding

def outstandingBytes (accounting : Accounting) : Nat :=
  (accounting.outstanding.map SentFrame.size).sum

/-- A subscription does not live to use up its 64-bit sequence numbers.  The relay answers
for frames that it was sent. -/
def step (accounting : Accounting) : AccountingAction → Option Accounting
  | .limits maxInputFrameBytes =>
      some { accounting with session := { accounting.session with maxInputFrameBytes } }
  | .send payload written =>
      if accounting.session.nextClientSequence + 1 < 2 ^ 64 then
        match accounting.session.sendInput payload with
        | .ok (_, after) =>
            if written then
              some { accounting with
                session := after
                unacknowledgedInputBytes := accounting.unacknowledgedInputBytes + payload.length
                sent := accounting.sent ++
                  [⟨accounting.sent.length, accounting.session.nextClientSequence,
                    payload.length⟩] }
            else some accounting
        | .error _ => some accounting
      else none
  | .inputAck accepted =>
      if accepted + 1 < 2 ^ 64 then
        some { accounting with
          session := accounting.session.handleInputAck accepted
          unacknowledgedInputBytes := 0 }
      else none
  | .refusal code about =>
      if about.all fun ordinal => ordinal < accounting.sent.length then
        (accounting.session.handleError code).map fun after =>
          { accounting with
            session := after
            unacknowledgedInputBytes := 0
            refused := accounting.refused ++ about }
      else none

end Accounting

/-- What the user is told when the controller disconnects: of input that may be lost, and why
it goes on to reconnect if it does. -/
def disconnectNotices (unacknowledged : Nat) (reconnecting : Option String) : List String :=
  (if 0 < unacknowledged then ["some typed input may not have reached the terminal"] else []) ++
    reconnecting.toList

namespace Accounting

def Counted (accounting : Accounting) : Prop :=
  accounting.unacknowledgedInputBytes = accounting.outstandingBytes

def settlesAll (accounting : Accounting) : AccountingAction → Bool
  | .limits _ | .send _ _ => true
  | .inputAck accepted =>
      accounting.outstanding.all fun frame => frame.sequence ≤ accepted
  | .refusal _ about =>
      accounting.outstanding.all fun frame => about.contains frame.ordinal

structure Numbered (accounting : Accounting) : Prop where
  sequence : accounting.session.acceptedThrough < accounting.session.nextClientSequence
  ordinal : ∀ ordinal ∈ accounting.refused, ordinal < accounting.sent.length
  size : ∀ frame ∈ accounting.sent, 0 < frame.size

theorem numbered_subscribed (maxInputFrameBytes : Nat) (inputAvailable : Bool) :
    (subscribed maxInputFrameBytes inputAvailable).Numbered where
  sequence := Nat.one_pos
  ordinal := fun ordinal member => by cases member
  size := fun frame member => by cases member

/-- What a step does: nothing to the frames, or it adds one, or it answers some. -/
inductive Effect (accounting next : Accounting) : AccountingAction → Prop
  | idle (action : AccountingAction) (settles : accounting.settlesAll action = true)
      (count : next.unacknowledgedInputBytes = accounting.unacknowledgedInputBytes)
      (accepted : next.session.acceptedThrough = accounting.session.acceptedThrough)
      (sequence : next.session.nextClientSequence = accounting.session.nextClientSequence)
      (sent : next.sent = accounting.sent) (refused : next.refused = accounting.refused) :
      Effect accounting next action
  | written (payload : Bytes) (nonempty : 0 < payload.length)
      (count : next.unacknowledgedInputBytes =
        accounting.unacknowledgedInputBytes + payload.length)
      (accepted : next.session.acceptedThrough = accounting.session.acceptedThrough)
      (sequence : next.session.nextClientSequence = accounting.session.nextClientSequence + 1)
      (sent : next.sent = accounting.sent ++
        [⟨accounting.sent.length, accounting.session.nextClientSequence, payload.length⟩])
      (refused : next.refused = accounting.refused) :
      Effect accounting next (.send payload true)
  | acknowledged (through : Nat) (count : next.unacknowledgedInputBytes = 0)
      (accepted : next.session.acceptedThrough = max accounting.session.acceptedThrough through)
      (sequence : next.session.acceptedThrough < next.session.nextClientSequence)
      (sent : next.sent = accounting.sent) (refused : next.refused = accounting.refused) :
      Effect accounting next (.inputAck through)
  | refused (code : String) (about : List Nat) (count : next.unacknowledgedInputBytes = 0)
      (known : ∀ ordinal ∈ about, ordinal < accounting.sent.length)
      (accepted : next.session.acceptedThrough = accounting.session.acceptedThrough)
      (sequence : next.session.nextClientSequence = next.session.acceptedThrough + 1)
      (sent : next.sent = accounting.sent) (refused : next.refused = accounting.refused ++ about) :
      Effect accounting next (.refusal code about)

variable {accounting next : Accounting} {action : AccountingAction}

theorem step_effect
    (stepped : step accounting action = some next) : Effect accounting next action := by
  cases action with
  | limits maxInputFrameBytes =>
    cases stepped
    exact Effect.idle _ rfl rfl rfl rfl rfl rfl
  | send payload written =>
    simp only [step] at stepped
    split at stepped
    · cases hsend : accounting.session.sendInput payload with
      | error refusal =>
        simp only [hsend, Option.some.injEq] at stepped
        subst stepped
        exact Effect.idle _ rfl rfl rfl rfl rfl rfl
      | ok result =>
        obtain ⟨frame, after⟩ := result
        simp only [hsend] at stepped
        cases written with
        | false =>
          cases stepped
          exact Effect.idle _ rfl rfl rfl rfl rfl rfl
        | true =>
          cases stepped
          unfold InputSession.sendInput at hsend
          split at hsend
          · cases hsend
          · split at hsend
            · cases hsend
            · rename_i hnonempty
              split at hsend
              · cases hsend
              · split at hsend
                · cases hsend
                · cases hsend
                  refine Effect.written payload ?_ rfl rfl rfl rfl rfl
                  apply length_pos_iff.mpr
                  simpa using hnonempty
    · cases stepped
  | inputAck accepted =>
    simp only [step] at stepped
    split at stepped
    · cases stepped
      refine Effect.acknowledged accepted rfl rfl ?_ rfl rfl
      exact Nat.lt_of_lt_of_le (Nat.lt_succ_self _) (Nat.le_max_right _ _)
    · cases stepped
  | refusal code about =>
    simp only [step] at stepped
    split at stepped
    · rename_i hknown
      simp only [InputSession.handleError] at stepped
      split at stepped
      · cases stepped
        refine Effect.refused code about rfl ?_ rfl rfl rfl rfl
        intro ordinal member
        have hordinal := all_eq_true.mp hknown ordinal member
        simpa using hordinal
      · cases stepped
    · cases stepped

theorem numbered_step
    (numbered : accounting.Numbered) (stepped : step accounting action = some next) :
    next.Numbered := by
  cases step_effect stepped with
  | idle action settles count accepted sequence sent refused =>
    constructor
    · rw [accepted, sequence]
      exact numbered.sequence
    · rw [sent, refused]
      exact numbered.ordinal
    · rw [sent]
      exact numbered.size
  | written payload nonempty count accepted sequence sent refused =>
    constructor
    · rw [accepted, sequence]
      exact Nat.lt_succ_of_lt numbered.sequence
    · rw [sent, refused, length_append]
      exact fun ordinal member => Nat.lt_add_right _ (numbered.ordinal ordinal member)
    · rw [sent]
      intro frame member
      rcases mem_append.mp member with hold | hnew
      · exact numbered.size frame hold
      · cases mem_singleton.mp hnew
        exact nonempty
  | acknowledged through count accepted sequence sent refused =>
    constructor
    · exact sequence
    · rw [sent, refused]
      exact numbered.ordinal
    · rw [sent]
      exact numbered.size
  | refused code about count known accepted sequence sent refused =>
    constructor
    · rw [sequence]
      exact Nat.lt_succ_self _
    · rw [sent, refused]
      intro ordinal member
      rcases mem_append.mp member with hold | hnew
      · exact numbered.ordinal ordinal hold
      · exact known ordinal hnew
    · rw [sent]
      exact numbered.size

theorem counted_zero_iff (numbered : accounting.Numbered)
    (zero : accounting.unacknowledgedInputBytes = 0) :
    accounting.Counted ↔ accounting.outstanding = [] := by
  unfold Counted outstandingBytes
  rw [zero]
  constructor
  · intro hsum
    apply eq_nil_iff_forall_not_mem.mpr
    intro frame member
    have hsize := numbered.size frame (mem_of_mem_filter member)
    have hzero := List.sum_eq_zero_iff_forall_eq_nat.mp hsum.symm frame.size (mem_map_of_mem member)
    omega
  · intro hnil
    rw [hnil]
    rfl

theorem outstanding_congr
    (accepted : next.session.acceptedThrough = accounting.session.acceptedThrough)
    (sent : next.sent = accounting.sent) (refused : next.refused = accounting.refused) :
    next.outstanding = accounting.outstanding := by
  unfold outstanding isOutstanding
  rw [accepted, sent, refused]

theorem outstanding_answered_iff {settled : SentFrame → Bool} (sent : next.sent = accounting.sent)
    (answered : ∀ frame, next.isOutstanding frame =
      (accounting.isOutstanding frame && !settled frame)) :
    next.outstanding = [] ↔ accounting.outstanding.all settled = true := by
  unfold outstanding
  rw [sent, filter_eq_nil_iff, all_eq_true]
  constructor
  · intro hnone frame member
    obtain ⟨hsent, hout⟩ := mem_filter.mp member
    have hframe := hnone frame hsent
    rw [answered, hout, Bool.true_and] at hframe
    simpa using hframe
  · intro hall frame hsent
    rw [answered]
    intro hboth
    obtain ⟨hout, hsettled⟩ := Bool.and_eq_true_iff.mp hboth
    rw [hall frame (mem_filter.mpr ⟨hsent, hout⟩)] at hsettled
    cases hsettled

theorem counted_step_iff (numbered : accounting.Numbered) (counted : accounting.Counted)
    (stepped : step accounting action = some next) :
    next.Counted ↔ accounting.settlesAll action = true := by
  have hnumbered := numbered_step numbered stepped
  cases step_effect stepped with
  | idle action settles count accepted sequence sent refused =>
    apply iff_of_true _ settles
    unfold Counted outstandingBytes
    rw [outstanding_congr accepted sent refused, count]
    exact counted
  | written payload nonempty count accepted sequence sent refused =>
    apply iff_of_true _ rfl
    have hnew : next.outstanding = accounting.outstanding ++
        [⟨accounting.sent.length, accounting.session.nextClientSequence, payload.length⟩] := by
      have hordinal : accounting.sent.length ∉ accounting.refused :=
        fun member => Nat.lt_irrefl _ (numbered.ordinal _ member)
      have hsequence := numbered.sequence
      unfold outstanding isOutstanding
      rw [accepted, sent, refused, filter_append]
      simp [hordinal, hsequence]
    unfold Counted outstandingBytes
    rw [hnew, count, map_append, sum_append, counted]
    rfl
  | acknowledged through count accepted sequence sent refused =>
    rw [counted_zero_iff hnumbered count]
    apply outstanding_answered_iff sent
    intro frame
    unfold isOutstanding
    rw [accepted, refused, Bool.eq_iff_iff]
    simp only [Bool.and_eq_true, decide_eq_true_eq, Bool.not_eq_true', decide_eq_false_iff_not]
    constructor
    · rintro ⟨hsequence, hrefused⟩
      exact ⟨⟨by omega, hrefused⟩, by omega⟩
    · rintro ⟨⟨hsequence, hrefused⟩, hthrough⟩
      exact ⟨by omega, hrefused⟩
  | refused code about count known accepted sequence sent refused =>
    rw [counted_zero_iff hnumbered count]
    apply outstanding_answered_iff sent
    intro frame
    unfold isOutstanding
    rw [accepted, refused, contains_append, Bool.not_or, Bool.and_assoc]

/-- Some frame may be lost, and the user is told so on disconnecting. -/
def Reported (accounting : Accounting) : Prop :=
  accounting.outstanding ≠ [] →
    0 < accounting.unacknowledgedInputBytes ∧
      accounting.unacknowledgedInputBytes = accounting.outstandingBytes ∧
      ∀ reconnecting, "some typed input may not have reached the terminal" ∈
        disconnectNotices accounting.unacknowledgedInputBytes reconnecting

theorem reported (numbered : accounting.Numbered)
    (counted : accounting.Counted) : accounting.Reported := by
  intro hsome
  have hpositive : 0 < accounting.unacknowledgedInputBytes := by
    apply Nat.pos_of_ne_zero
    exact fun zero => hsome ((counted_zero_iff numbered zero).mp counted)
  refine ⟨hpositive, counted, fun reconnecting => ?_⟩
  unfold disconnectNotices
  rw [if_pos hpositive]
  exact mem_append_left _ (mem_singleton_self _)

/-- Over a whole subscription: the count is that of the outstanding frames throughout exactly
when every answer settles all that is outstanding, and then what may be lost is reported. -/
theorem counted_always_iff (maxInputFrameBytes : Nat) (inputAvailable : Bool)
    (actions : List AccountingAction) (accounting : Accounting)
    (ran : run step (subscribed maxInputFrameBytes inputAvailable) actions = some accounting) :
    ((∀ earlier later middle, actions = earlier ++ later →
        run step (subscribed maxInputFrameBytes inputAvailable) earlier = some middle →
          middle.Counted) ↔
      run (restrict step fun state action => state.settlesAll action = true)
        (subscribed maxInputFrameBytes inputAvailable) actions = some accounting) ∧
    (run (restrict step fun state action => state.settlesAll action = true)
        (subscribed maxInputFrameBytes inputAvailable) actions = some accounting →
      accounting.Reported) := by
  have hexact : ∀ state action next, (state.Numbered ∧ state.Counted) →
      step state action = some next →
        ((next.Numbered ∧ next.Counted) ↔ state.settlesAll action = true) := by
    intro state action next good stepped
    rw [and_iff_right (numbered_step good.1 stepped)]
    exact counted_step_iff good.1 good.2 stepped
  have hstart : (subscribed maxInputFrameBytes inputAvailable).Numbered ∧
      (subscribed maxInputFrameBytes inputAvailable).Counted :=
    ⟨numbered_subscribed _ _, rfl⟩
  have hall := always_iff_restrict hexact hstart ran
  constructor
  · rw [← hall]
    constructor
    · intro always earlier later middle hsplit hmiddle
      have hnumbered : middle.Numbered :=
        run_invariant (fun _ _ _ => numbered_step) hstart.1 hmiddle
      exact ⟨hnumbered, always earlier later middle hsplit hmiddle⟩
    · intro always earlier later middle hsplit hmiddle
      exact (always earlier later middle hsplit hmiddle).2
  · intro restricted
    obtain ⟨hnumbered, hcounted⟩ := hall.mpr restricted actions [] accounting
      (append_nil actions).symm ran
    exact reported hnumbered hcounted

def twoKeys : Accounting := ⟨⟨true, true, 4096, 3, 1⟩, 1, [⟨0, 1, 1⟩, ⟨1, 2, 1⟩], []⟩

theorem two_keys_reported :
    run step (subscribed 4096 true) [.send [97] true, .inputAck 1, .send [98] true] =
        some twoKeys ∧
      twoKeys.outstanding = [⟨1, 2, 1⟩] ∧ twoKeys.Reported :=
  ⟨rfl, rfl, (counted_always_iff 4096 true [.send [97] true, .inputAck 1, .send [98] true]
    twoKeys rfl).2 rfl⟩

/-- Two keys in flight, the first of which is acknowledged: the second is not counted. -/
theorem second_key_uncounted : ∃ accounting, run step (subscribed 4096 true)
        [.send [97] true, .send [98] true, .inputAck 1] = some accounting ∧
      accounting.outstanding = [⟨1, 2, 1⟩] ∧ accounting.unacknowledgedInputBytes = 0 ∧
      disconnectNotices accounting.unacknowledgedInputBytes none = [] ∧ ¬ accounting.Reported :=
  ⟨_, rfl, rfl, rfl, rfl, fun reported => Nat.lt_irrefl 0 (reported (by decide)).1⟩

end Accounting

end Hypeterm.Android
