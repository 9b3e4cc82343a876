import Hypeterm.Relay.Input

/-! The relay's input sequence.  A sequence is claimed from the handle before the
frame is handed on, so the delivered sequences are consecutive only where a claim is
followed by its own delivery: no second claim of the terminal comes between, and the
channel takes the frame. -/
namespace Hypeterm.Relay.Input

open Library List

def claimOf (system : System) (id : Nat) : Option (Uuid × Nat) :=
  match system.mirrors id with
  | some ⟨terminalId, _, _, _, .claimed _ relaySequence, _⟩ => some (terminalId, relaySequence)
  | _ => none

def claimOpen (system : System) (terminalId : Uuid) : Bool :=
  (range system.nextMirror).any fun id =>
    match claimOf system id with
    | some claim => claim.1 = terminalId
    | none => false

def hasRoom (registry : Registry) (deviceId : Uuid) : Bool :=
  match (registry.publishers deviceId).bind PublisherSlot.inputTx with
  | some inputTx =>
      (registry.channels inputTx).receiverAlive &&
        decide ((registry.channels inputTx).queue.length < (registry.channels inputTx).capacity)
  | none => false

/-- A subscription claims only while no claim of its terminal is open, and delivers
only into a channel with room. -/
def claimsInOrder (system : System) : Action → Bool
  | .proceed id _ _ =>
      match system.mirrors id with
      | some mirror =>
          match mirror.phase with
          | .approved _ => !claimOpen system mirror.terminalId
          | .claimed _ _ =>
              match system.terminals mirror.terminalId with
              | some handle => hasRoom system.registry handle.deviceId
              | none => true
          | _ => true
      | none => true
  | _ => true

def deliveredSequences (system : System) (terminalId : Uuid) : List Nat :=
  (system.delivered.filter fun delivered => delivered.terminalId = terminalId).map
    Delivered.relaySequence

def counterOf (system : System) (terminalId : Uuid) : Option Nat :=
  (system.terminals terminalId).map fun handle => handle.inner.nextInputSequence

/-- What holds of one terminal: the delivered sequences are consecutive, and the
handle's counter is one ahead of them, or two while a claim is open. -/
structure Sequenced (system : System) (terminalId : Uuid) : Prop where
  consecutive : deliveredSequences system terminalId =
    range' 1 (deliveredSequences system terminalId).length
  absent : counterOf system terminalId = none → deliveredSequences system terminalId = []
  claimed : ∀ id sequence, claimOf system id = some (terminalId, sequence) →
    sequence = (deliveredSequences system terminalId).length + 1 ∧
      counterOf system terminalId = some ((deliveredSequences system terminalId).length + 2)
  unique : ∀ id₁ id₂ sequence₁ sequence₂, claimOf system id₁ = some (terminalId, sequence₁) →
    claimOf system id₂ = some (terminalId, sequence₂) → id₁ = id₂
  free : ∀ counter, counterOf system terminalId = some counter →
    (∀ id sequence, claimOf system id ≠ some (terminalId, sequence)) →
      counter = (deliveredSequences system terminalId).length + 1

structure Ordered (system : System) : Prop where
  mirror_lt : ∀ id mirror, system.mirrors id = some mirror → id < system.nextMirror
  sequenced : ∀ terminalId, Sequenced system terminalId

variable {system next : System} {terminalId : Uuid} {id : Nat} {mirror : Mirror}

theorem Ordered.initial : Ordered System.initial where
  mirror_lt := by simp [System.initial]
  sequenced := fun terminalId => {
    consecutive := by simp [System.initial, deliveredSequences]
    absent := by simp [System.initial, deliveredSequences]
    claimed := by simp [System.initial, claimOf]
    unique := by simp [System.initial, claimOf]
    free := by simp [System.initial, counterOf] }

theorem Ordered.claim_lt (ordered : Ordered system) {claim : Uuid × Nat}
    (claimed : claimOf system id = some claim) : id < system.nextMirror := by
  unfold claimOf at claimed
  split at claimed
  · rename_i hmirror
    exact ordered.mirror_lt _ _ hmirror
  · cases claimed

theorem Sequenced.kept (sequenced : Sequenced system terminalId)
    (log_eq : deliveredSequences next terminalId = deliveredSequences system terminalId)
    (claims : ∀ id sequence, claimOf next id = some (terminalId, sequence) ↔
      claimOf system id = some (terminalId, sequence))
    (counter : counterOf next terminalId = counterOf system terminalId ∨
      counterOf system terminalId = none ∧ counterOf next terminalId = some 1) :
    Sequenced next terminalId := by
  obtain ⟨hconsecutive, habsent, hclaimed, hunique, hfree⟩ := sequenced
  cases counter with
  | inl same =>
    constructor
    all_goals simp only [log_eq, claims, same, ne_eq]
    · exact hconsecutive
    · exact habsent
    · exact hclaimed
    · exact hunique
    · exact hfree
  | inr fresh =>
    have hnil := habsent fresh.1
    constructor
    all_goals simp only [log_eq, claims, fresh.2, hnil, ne_eq, length_nil]
    · rfl
    · intro _
      trivial
    · intro id sequence hclaim
      rw [fresh.1] at hclaimed
      cases (hclaimed id sequence hclaim).2
    · exact hunique
    · intro counter hcounter _
      cases hcounter
      rfl

theorem Ordered.kept (ordered : Ordered system) (delivered_eq : next.delivered = system.delivered)
    (claims : ∀ id, claimOf next id = claimOf system id)
    (counters : ∀ terminalId, counterOf next terminalId = counterOf system terminalId ∨
      counterOf system terminalId = none ∧ counterOf next terminalId = some 1)
    (mirror_lt : ∀ id mirror, next.mirrors id = some mirror → id < next.nextMirror) :
    Ordered next where
  mirror_lt := mirror_lt
  sequenced := fun terminalId => by
    refine (ordered.sequenced terminalId).kept ?_ ?_ (counters terminalId)
    · unfold deliveredSequences
      rw [delivered_eq]
    · intro id sequence
      rw [claims]

def Mirror.claim (mirror : Mirror) : Option (Uuid × Nat) :=
  match mirror.phase with
  | .claimed _ relaySequence => some (mirror.terminalId, relaySequence)
  | _ => none

theorem claimOf_eq (known : system.mirrors id = some mirror) : claimOf system id = mirror.claim := by
  obtain ⟨terminalId, version, maySendInput, state, phase, sent⟩ := mirror
  cases phase <;> simp [claimOf, known, Mirror.claim]

theorem claimOf_setMirror (id other : Nat) (mirror : Mirror) :
    claimOf (system.setMirror id mirror) other =
      if other = id then mirror.claim else claimOf system other := by
  split
  · rename_i hother
    apply claimOf_eq
    simp [System.setMirror, hother]
  · rename_i hother
    simp [claimOf, System.setMirror, hother]

theorem Ordered.mirror_lt_setMirror (ordered : Ordered system) (known : id < system.nextMirror) :
    ∀ other mirror', (system.setMirror id mirror).mirrors other = some mirror' →
      other < system.nextMirror := by
  intro other mirror' hmirror
  simp only [System.setMirror, Function.update_apply] at hmirror
  split at hmirror
  · rename_i hother
    rw [hother]
    exact known
  · exact ordered.mirror_lt _ _ hmirror

theorem Ordered.setMirror (ordered : Ordered system) (known : id < system.nextMirror)
    (claim_eq : mirror.claim = claimOf system id) : Ordered (system.setMirror id mirror) := by
  refine ordered.kept rfl ?_ (fun _ => .inl rfl) (ordered.mirror_lt_setMirror known)
  intro other
  rw [claimOf_setMirror]
  split
  · rename_i hother
    rw [hother, claim_eq]
  · rfl

theorem apply_nextInputSequence (handle : TerminalHandle) {op : HandleOp}
    (other : op ≠ .nextInputSequence) :
    (handle.apply op).inner.nextInputSequence = handle.inner.nextInputSequence := by
  cases op with
  | nextInputSequence => exact absurd rfl other
  | append expectedOffset payload capacity =>
    simp only [TerminalHandle.apply, TerminalHandle.append]
    split
    · rfl
    · split
      · rfl
      · split <;> rfl
  | shrinkToCapacity capacity =>
    simp only [TerminalHandle.apply, TerminalHandle.shrinkToCapacity]
    split <;> rfl
  | resize cols rows =>
    simp only [TerminalHandle.apply, TerminalHandle.resize]
    split <;> rfl
  | subscribe fromOffset chunkBytes queueMessages queueBytes =>
    simp only [TerminalHandle.apply, TerminalHandle.subscribe]
    split
    · rename_i hok
      split at hok
      · cases hok
      · cases hok
        rfl
    · rfl
  | beginClose reason =>
    simp only [TerminalHandle.apply, TerminalHandle.beginClose]
    split <;> rfl
  | updateMetadata | unsubscribe | terminateSubscribers | receive | release | dropReceiver => rfl

theorem counterOf_setHandle (terminalId other : Uuid) (handle : TerminalHandle) :
    counterOf (system.setHandle terminalId handle) other =
      if other = terminalId then some handle.inner.nextInputSequence else counterOf system other := by
  unfold counterOf System.setHandle
  simp only [Function.update_apply]
  split <;> rfl

theorem no_claim (ordered : Ordered system) (closed : claimOpen system terminalId = false) :
    ∀ id sequence, claimOf system id ≠ some (terminalId, sequence) := by
  intro id sequence hclaim
  simp only [claimOpen, any_eq_false, mem_range] at closed
  have := closed id (ordered.claim_lt hclaim)
  simp [hclaim] at this

theorem Mirror.terminalId_of_claim {sequence : Nat} (claimed : mirror.claim = some (terminalId, sequence)) :
    mirror.terminalId = terminalId := by
  unfold Mirror.claim at claimed
  split at claimed
  · cases claimed
    rfl
  · cases claimed

variable {handle : TerminalHandle} {decoded : MirrorInputFrame} {relaySequence : Nat}

theorem Ordered.claim (ordered : Ordered system) (known : system.mirrors id = some mirror)
    (resident : system.terminals mirror.terminalId = some handle)
    (closed : claimOpen system mirror.terminalId = false) :
    Ordered (system.claim id mirror handle decoded) := by
  have hcounter : counterOf system mirror.terminalId = some handle.inner.nextInputSequence := by
    simp [counterOf, resident]
  have hnone := no_claim ordered closed
  have hfree := (ordered.sequenced mirror.terminalId).free _ hcounter hnone
  have hclaims : ∀ other, claimOf (system.claim id mirror handle decoded) other =
      if other = id then some (mirror.terminalId, handle.inner.nextInputSequence)
      else claimOf system other := fun other => claimOf_setMirror id other _
  have hcounters : ∀ other, counterOf (system.claim id mirror handle decoded) other =
      if other = mirror.terminalId then some (handle.inner.nextInputSequence + 1)
      else counterOf system other := fun other => counterOf_setHandle mirror.terminalId other _
  refine { mirror_lt := ordered.mirror_lt_setMirror (ordered.mirror_lt _ _ known), sequenced := ?_ }
  intro terminalId
  have hbefore := ordered.sequenced terminalId
  have hlog : deliveredSequences (system.claim id mirror handle decoded) terminalId =
      deliveredSequences system terminalId := rfl
  by_cases hterminal : terminalId = mirror.terminalId
  · subst hterminal
    refine { consecutive := hbefore.consecutive, absent := ?_, claimed := ?_, unique := ?_, free := ?_ }
    · rw [hcounters, if_pos rfl]
      intro h
      cases h
    · intro other sequence hclaim
      rw [hclaims] at hclaim
      split at hclaim
      · cases hclaim
        rw [hlog, hcounters, if_pos rfl, hfree]
        exact ⟨rfl, rfl⟩
      · exact absurd hclaim (hnone _ _)
    · intro id₁ id₂ sequence₁ sequence₂ hclaim₁ hclaim₂
      rw [hclaims] at hclaim₁ hclaim₂
      split at hclaim₁
      · split at hclaim₂
        · rename_i hid₁ hid₂
          rw [hid₁, hid₂]
        · exact absurd hclaim₂ (hnone _ _)
      · exact absurd hclaim₁ (hnone _ _)
    · intro counter _ hclosed
      exact absurd (by rw [hclaims, if_pos rfl]) (hclosed id handle.inner.nextInputSequence)
  · refine hbefore.kept hlog ?_ (.inl (by rw [hcounters, if_neg hterminal]))
    intro other sequence
    rw [hclaims]
    split
    · rename_i hother
      rw [hother, claimOf_eq known]
      constructor
      · intro h
        cases h
        exact absurd rfl hterminal
      · intro h
        exact absurd (Mirror.terminalId_of_claim h).symm hterminal
    · exact Iff.rfl

theorem deliverToPublisher_of_hasRoom {registry : Registry} {deviceId : Uuid}
    (room : hasRoom registry deviceId = true) (delivery : PublisherDelivery) :
    ∃ slot after, registry.publishers deviceId = some slot ∧
      registry.deliverToPublisher deviceId delivery = .ok after := by
  unfold hasRoom at room
  split at room
  · rename_i inputTx hinput
    simp only [Option.bind_eq_some_iff] at hinput
    obtain ⟨slot, hslot, hinputTx⟩ := hinput
    simp only [Bool.and_eq_true, decide_eq_true_eq] at room
    simp [Registry.deliverToPublisher, hslot, hinputTx, Channel.trySend, room.1,
      Nat.not_le.mpr room.2]
  · cases room

theorem deliveredSequences_deliver (room : hasRoom system.registry handle.deviceId = true)
    (terminalId : Uuid) :
    deliveredSequences (system.deliver id mirror handle decoded relaySequence) terminalId =
      deliveredSequences system terminalId ++
        if mirror.terminalId = terminalId then [relaySequence] else [] := by
  obtain ⟨slot, registry, hslot, hok⟩ := deliverToPublisher_of_hasRoom room
    (.input mirror.terminalId relaySequence decoded.payload)
  simp only [System.deliver, hok, hslot, deliveredSequences, System.setMirror, Option.toList_some,
    map_cons, map_nil, filter_append, map_append]
  split
  · rename_i hterminal
    simp [hterminal]
  · rename_i hterminal
    simp [hterminal]

theorem claimOf_deliver (other : Nat) :
    claimOf (system.deliver id mirror handle decoded relaySequence) other =
      if other = id then none else claimOf system other := by
  unfold System.deliver
  split
  · exact claimOf_setMirror id other _
  · rename_i error _
    cases error with
    | noPublisher => exact claimOf_setMirror id other _
    | backpressure => exact claimOf_setMirror id other _

theorem Ordered.deliver (ordered : Ordered system) (known : system.mirrors id = some mirror)
    (claimed : mirror.phase = .claimed decoded relaySequence)
    (room : hasRoom system.registry handle.deviceId = true) :
    Ordered (system.deliver id mirror handle decoded relaySequence) := by
  have hclaim : claimOf system id = some (mirror.terminalId, relaySequence) := by
    rw [claimOf_eq known, Mirror.claim, claimed]
  obtain ⟨hsequence, hcounter⟩ := (ordered.sequenced _).claimed id relaySequence hclaim
  have hcounters : ∀ other, counterOf (system.deliver id mirror handle decoded relaySequence) other =
      counterOf system other := by
    intro other
    unfold System.deliver
    split <;> rfl
  refine { mirror_lt := ?_, sequenced := ?_ }
  · unfold System.deliver
    split
    · exact ordered.mirror_lt_setMirror (ordered.mirror_lt _ _ known)
    · exact ordered.mirror_lt_setMirror (ordered.mirror_lt _ _ known)
  intro terminalId
  have hbefore := ordered.sequenced terminalId
  have hlog : deliveredSequences (system.deliver id mirror handle decoded relaySequence) terminalId =
      deliveredSequences system terminalId ++
        if mirror.terminalId = terminalId then [relaySequence] else [] :=
    deliveredSequences_deliver room terminalId
  by_cases hterminal : mirror.terminalId = terminalId
  · subst hterminal
    rw [if_pos rfl] at hlog
    have hnone : ∀ other sequence,
        claimOf (system.deliver id mirror handle decoded relaySequence) other ≠
          some (mirror.terminalId, sequence) := by
      intro other sequence hother
      rw [claimOf_deliver] at hother
      split at hother
      · cases hother
      · exact absurd (hbefore.unique _ _ _ _ hother hclaim) (by assumption)
    refine { consecutive := ?_, absent := ?_, claimed := ?_, unique := ?_, free := ?_ }
    · rw [hlog, length_append, length_singleton, List.range'_1_concat,
        ← hbefore.consecutive, hsequence, Nat.add_comm]
    · rw [hcounters, hcounter]
      intro h
      cases h
    · intro other sequence hother
      exact absurd hother (hnone other sequence)
    · intro id₁ _ sequence₁ _ hother
      exact absurd hother (hnone id₁ sequence₁)
    · intro counter hnext _
      rw [hcounters, hcounter] at hnext
      cases hnext
      rw [hlog, length_append, length_singleton]
  · rw [if_neg hterminal, append_nil] at hlog
    refine hbefore.kept hlog ?_ (.inl (hcounters terminalId))
    intro other sequence
    rw [claimOf_deliver]
    split
    · rename_i hother
      rw [hother, hclaim]
      constructor
      · intro h
        cases h
      · intro h
        cases h
        exact absurd rfl hterminal
    · exact Iff.rfl

theorem takeFrame_claim (bytes : Bytes) (settings : Settings) :
    (mirror.takeFrame bytes settings).claim = none := by
  unfold Mirror.takeFrame
  split
  · rfl
  split
  · rfl
  · split
    · rfl
    · split <;> rfl

theorem checkAccepts_claim (settings : Settings) (decoded : MirrorInputFrame)
    (handle : TerminalHandle) : (mirror.checkAccepts settings decoded handle).claim = none := by
  unfold Mirror.checkAccepts
  split <;> rfl

theorem checkFrame_claim (settings : Settings) (decoded : MirrorInputFrame) (handle : TerminalHandle)
    (framesTaken bytesTaken : Bool) :
    (mirror.checkFrame settings decoded handle framesTaken bytesTaken).claim = none := by
  unfold Mirror.checkFrame
  split
  · rfl
  split
  · rfl
  split
  · rfl
  split
  · rfl
  split <;> rfl

theorem Ordered.proceed (ordered : Ordered system)
    {framesTaken bytesTaken : Bool} (known : system.mirrors id = some mirror)
    (resident : system.terminals mirror.terminalId = some handle)
    (allowed : claimsInOrder system (.proceed id framesTaken bytesTaken) = true)
    (taken : system.proceed id mirror handle framesTaken bytesTaken = some next) : Ordered next := by
  have hlt := ordered.mirror_lt _ _ known
  have hclaim := claimOf_eq known
  simp only [claimsInOrder, known, resident] at allowed
  unfold System.proceed at taken
  split at taken
  · rename_i hphase
    cases taken
    refine ordered.setMirror hlt ?_
    rw [checkAccepts_claim, hclaim, Mirror.claim, hphase]
  · rename_i hphase
    cases taken
    refine ordered.setMirror hlt ?_
    rw [checkFrame_claim, hclaim, Mirror.claim, hphase]
  · rename_i hphase
    cases taken
    rw [hphase] at allowed
    exact ordered.claim known resident (by simpa using allowed)
  · rename_i hphase
    cases taken
    rw [hphase] at allowed
    exact ordered.deliver known hphase allowed
  · cases taken
  · cases taken

theorem Ordered.step (ordered : Ordered system) {action : Action}
    (allowed : claimsInOrder system action = true) (taken : Input.step system action = some next) :
    Ordered next := by
  cases action with
  | load row capacity retained =>
    simp only [Input.step] at taken
    split at taken
    · rename_i habsent
      cases taken
      refine ordered.kept rfl (fun _ => rfl) ?_ ordered.mirror_lt
      intro terminalId
      rw [counterOf_setHandle]
      split
      · rename_i hterminal
        exact .inr ⟨by simp [counterOf, hterminal, habsent], rfl⟩
      · exact .inl rfl
    · cases taken
  | handle terminalId op =>
    simp only [Input.step] at taken
    split at taken
    · rename_i handle hhandle
      split at taken
      · cases taken
      · rename_i hop
        cases taken
        refine ordered.kept rfl (fun _ => rfl) ?_ ordered.mirror_lt
        intro other
        rw [counterOf_setHandle]
        split
        · rename_i hterminal
          rw [apply_nextInputSequence handle hop]
          exact .inl (by simp [counterOf, hterminal, hhandle])
        · exact .inl rfl
    · cases taken
  | attach | detach | closeReceiver =>
    cases taken
    exact ordered.kept rfl (fun _ => rfl) (fun _ => .inl rfl) ordered.mirror_lt
  | receive generation =>
    simp only [Input.step] at taken
    split at taken
    · cases taken
      exact ordered.kept rfl (fun _ => rfl) (fun _ => .inl rfl) ordered.mirror_lt
    · cases taken
  | connect terminalId version maySendInput =>
    simp only [Input.step] at taken
    split at taken
    · cases taken
      have hcounted : Ordered { system with nextMirror := system.nextMirror + 1 } :=
        ordered.kept rfl (fun _ => rfl) (fun _ => .inl rfl)
          fun id mirror hmirror => Nat.lt_succ_of_lt (ordered.mirror_lt id mirror hmirror)
      refine hcounted.setMirror (Nat.lt_succ_self _) ?_
      cases hclaim : claimOf system system.nextMirror with
      | none => exact hclaim.symm
      | some claim => exact absurd (ordered.claim_lt hclaim) (Nat.lt_irrefl _)
    · cases taken
  | frame id bytes settings =>
    simp only [Input.step] at taken
    split at taken
    · rename_i mirror hmirror
      split at taken
      · rename_i hphase
        cases taken
        refine ordered.setMirror (ordered.mirror_lt _ _ hmirror) ?_
        rw [takeFrame_claim, claimOf_eq hmirror, Mirror.claim, hphase]
      · cases taken
    · cases taken
  | proceed id framesTaken bytesTaken =>
    simp only [Input.step] at taken
    split at taken
    · rename_i hmirror
      split at taken
      · rename_i hhandle
        exact ordered.proceed hmirror hhandle allowed taken
      · cases taken
    · cases taken
  | disconnect id =>
    simp only [Input.step] at taken
    split at taken
    · rename_i mirror hmirror
      split at taken
      · rename_i hphase
        cases taken
        refine ordered.setMirror (ordered.mirror_lt _ _ hmirror) ?_
        rw [claimOf_eq hmirror, Mirror.claim, Mirror.claim, hphase]
      · cases taken
    · cases taken

/-- In every run where claims of a terminal do not overlap and each one meets a
channel with room, the sequences that enter the publisher's channel are 1, 2, …, n. -/
theorem delivered_sequences_count_up {actions : List Action}
    (taken : run (restrict step fun system action => claimsInOrder system action) System.initial
      actions = some system) (terminalId : Uuid) :
    deliveredSequences system terminalId =
      range' 1 (deliveredSequences system terminalId).length := by
  have hkept : ∀ state action after, Ordered state → claimsInOrder state action = true →
      step state action = some after → Ordered after :=
    fun _ _ _ ordered allowed hstep => ordered.step allowed hstep
  exact ((restrict_invariant hkept Ordered.initial taken).sequenced terminalId).consecutive

/-- Terminal 7 of device 1, a connection whose channel holds one frame, and two
subscriptions. -/
def inputSetup : List Action :=
  [.load ⟨7, 1, "owner", "shell", "shell", .opened, none, none, none, true, none, 0, 0⟩ 8 [],
    .attach 1 "conn" .v2 1, .connect 7 .v2 true, .connect 7 .v2 true]

def approval (mirror clientSequence : Nat) : List Action :=
  [.frame mirror (encodeMirrorInputFrame clientSequence [0x61]) ⟨true, 16⟩,
    .proceed mirror true true, .proceed mirror true true]

def forwarding (mirror : Nat) : List Action :=
  [.proceed mirror true true, .proceed mirror true true]

/-- The publisher keeps up and the subscriptions take turns. -/
def turnsRun : List Action :=
  inputSetup ++ approval 0 1 ++ approval 1 1 ++ forwarding 1 ++ [.receive 1] ++ forwarding 0

theorem delivered_sequences_in_turnsRun :
    ∃ system, run (restrict step fun system action => claimsInOrder system action) System.initial
        turnsRun = some system ∧
      (deliveredSequences system 7).length = 2 ∧ deliveredSequences system 7 = range' 1 2 :=
  ⟨_, rfl, rfl, delivered_sequences_count_up
    (show run (restrict step fun system action => claimsInOrder system action) System.initial
      turnsRun = some _ from rfl) 7⟩

/-- A frame meets a full channel and is sent again after the publisher caught up. -/
def backpressureRun : List Action :=
  inputSetup ++ approval 0 1 ++ forwarding 0 ++ approval 0 2 ++ forwarding 0 ++ [.receive 1] ++
    approval 0 2 ++ forwarding 0

/-- A refused frame burns the sequence it claimed. -/
theorem refused_frame_leaves_a_gap : ¬ ∀ (actions : List Action) (system : System),
      run step System.initial actions = some system → ∀ terminalId,
        deliveredSequences system terminalId =
          range' 1 (deliveredSequences system terminalId).length := by
  intro claim
  have hoverall : (run step System.initial backpressureRun).map
      (fun system => deliveredSequences system 7) = some [1, 3] := by decide +kernel
  obtain ⟨system, hrun, hsequences⟩ := Option.map_eq_some_iff.mp hoverall
  have hcount := claim backpressureRun system hrun 7
  rw [hsequences] at hcount
  exact absurd hcount (by decide)

end Hypeterm.Relay.Input
