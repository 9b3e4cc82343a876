import Hypeterm.Db.Challenges
import Hypeterm.Db.Listing
import Hypeterm.Http.Upgrade
import Hypeterm.Settings.Snapshot

/-! Proof of possession. A challenge is drawn and stored by one request and claimed by another;
two handlers verify what they claim. -/
namespace Hypeterm.Http.Challenges

open Hypeterm.Crypto List Option
open Db.Challenges
open Hypeterm.Http.Upgrade (Auth)
open Library
open Settings (Snapshot)
open Util

namespace Keys

def authChallengeTtlSeconds : String := "auth.challenge_ttl_seconds"
def authChallengeBytes : String := "auth.challenge_bytes"
def featuresIdentityRegistrationEnabled : String := "features.identity_registration_enabled"
def featuresDeviceRegistrationEnabled : String := "features.device_registration_enabled"
def limitsMaxDeviceNameBytes : String := "limits.max_device_name_bytes"

end Keys

structure Env where
  primitives : Primitives
  parseRfc3339 : String → Option Instant

structure ChallengeRequest where
  operation : String
  algorithm : String
  publicKey : String
  ownerIdentityId : Option String

structure ChallengeResponse where
  challengeId : String
  challenge : String
  signatureContext : String
  signingInput : String
  expiresAt : String
  keyFingerprint : String

def featureDisabled (message : String) : ApiError := .new 403 "feature_disabled" message

def checkOperation (snapshot : Snapshot) (identities : List String) (request : ChallengeRequest) :
    Operation → Except ApiError (Option String)
  | .registerIdentity =>
      if snapshot.bool Keys.featuresIdentityRegistrationEnabled then .ok none
      else .error (featureDisabled "identity registration is disabled")
  | .registerDevice =>
      if !snapshot.bool Keys.featuresDeviceRegistrationEnabled then
        .error (featureDisabled "device registration is disabled")
      else
        match request.ownerIdentityId with
        | none => .error (.validation "owner_identity_id is required for register_device")
        | some owner =>
            if identities.contains owner then .ok (some owner)
            else .error (.validation "owner_identity_id is not a registered identity")
  | .authenticateIdentity | .authenticateDevice => .ok none

def checkRequest (env : Env) (snapshot : Snapshot) (identities : List String)
    (request : ChallengeRequest) : Except ApiError (Operation × PublicKey × Option String) :=
  match Operation.parse request.operation with
  | none => .error (.validation s!"unknown operation: {request.operation}")
  | some operation => do
      let key ← PublicKey.parse env.primitives request.algorithm request.publicKey
        (snapshot.list Settings.Keys.authSupportedKeyAlgorithms)
      let owner ← checkOperation snapshot identities request operation
      pure (operation, key, owner)

def publicOrigin (snapshot : Snapshot) : String :=
  snapshot.string Settings.Keys.serverPublicOrigin

def epochMillis : Nat := 719528 * 86400000

def unixMillis (instant : Instant) : UInt64 :=
  UInt64.ofNat (instant.nanos / 1000000 - epochMillis)

def draftOf (env : Env) (snapshot : Snapshot) (checked : Operation × PublicKey × Option String)
    (challengeId : String) (challenge : Bytes) (expiresAt : Instant) : Draft where
  origin := publicOrigin snapshot
  challengeId := challengeId
  challenge := challenge
  operation := checked.1
  key := checked.2.1
  ownerIdentityId := checked.2.2
  deviceKeyFingerprint :=
    match checked.1 with
    | .registerDevice => some (checked.2.1.fingerprint env.primitives)
    | _ => none
  expiresAt := expiresAt

def signingInput (env : Env) (draft : Draft) : SigningInput where
  origin := draft.origin
  challengeId := draft.challengeId
  challenge := draft.challenge
  operation := draft.operation
  keyFingerprint := draft.key.fingerprint env.primitives
  ownerIdentityId := draft.ownerIdentityId.getD ""
  deviceKeyFingerprint := draft.deviceKeyFingerprint.getD ""
  expiresAtUnixMs := unixMillis draft.expiresAt

def responseOf (env : Env) (draft : Draft) : ChallengeResponse where
  challengeId := draft.challengeId
  challenge := b64Encode draft.challenge
  signatureContext := challengeSignatureContext
  signingInput := b64Encode (signingInput env draft).encode
  expiresAt := toRfc3339 draft.expiresAt
  keyFingerprint := draft.key.fingerprint env.primitives

/-- What reaches the claim: a request of `verify_challenge` with the operations it is for,
or a device registration. -/
inductive Presentation where
  | signed (challengeId : String) (signature : Bytes) (expected : List Operation)
  | registration (challengeId : String) (signature : Bytes) (identityId : String) (key : PublicKey)

def Presentation.challengeId : Presentation → String
  | .signed challengeId _ _ => challengeId
  | .registration challengeId _ _ _ => challengeId

def presentSigned (challengeId signature : String) (expected : List Operation) :
    Except ApiError Presentation :=
  match b64Decode signature with
  | none => .error (.invalid "signature must be base64url-encoded")
  | some signature => .ok (.signed challengeId signature expected)

structure RegisterDeviceRequest where
  name : String
  algorithm : String
  publicKey : String
  challengeId : String
  deviceSignature : String
  role : Option String

def requireIdentity (auth : Auth) : Except ApiError Unit :=
  match auth.principal with
  | .identity _ => .ok ()
  | .device _ => .error (.insufficientScope "this operation requires an identity token")

def presentRegistration (env : Env) (snapshot : Snapshot) (auth : Auth)
    (request : RegisterDeviceRequest) : Except ApiError Presentation := do
  requireIdentity auth
  auth.requireScope "devices:write"
  if !snapshot.bool Keys.featuresDeviceRegistrationEnabled then
    throw (featureDisabled "device registration is disabled")
  let name := Upgrade.trim request.name
  if name.isEmpty ||
      Snapshot.u64 snapshot.values Keys.limitsMaxDeviceNameBytes < name.utf8ByteSize then
    throw (.validation "name must be non-empty and within the configured length")
  if request.role.any fun role => (Db.Listing.parseRole role).isNone then
    throw (.validation "role must be publisher, client, or both")
  let key ← PublicKey.parse env.primitives request.algorithm request.publicKey
    (snapshot.list Settings.Keys.authSupportedKeyAlgorithms)
  match b64Decode request.deviceSignature with
  | none => throw (.invalid "device_signature must be base64url-encoded")
  | some signature => pure (.registration request.challengeId signature auth.identityId key)

def claimError : ChallengeClaim → Except ApiError ChallengeRecord
  | .claimed record => .ok record
  | .alreadyConsumed =>
      .error (.new 401 "challenge_consumed" "this challenge has already been used")
  | .expired => .error (.new 401 "challenge_expired" "this challenge has expired")
  | .unknown => .error (.new 401 "challenge_invalid" "unknown challenge")

/-- The message that the signature must cover, from the claimed record. -/
def rebuilt (snapshot : Snapshot) (record : ChallengeRecord) : SigningInput where
  origin := publicOrigin snapshot
  challengeId := record.challengeId
  challenge := record.challenge
  operation := record.operation
  keyFingerprint := record.keyFingerprint
  ownerIdentityId := record.ownerIdentityId.getD ""
  deviceKeyFingerprint := record.deviceKeyFingerprint.getD ""
  expiresAtUnixMs := unixMillis record.expiresAt

def challengeInvalid (message : String) : ApiError := .new 401 "challenge_invalid" message

def signatureInvalid (message : String) : ApiError := .new 401 "signature_invalid" message

def settle (env : Env) (snapshot : Snapshot) (claim : ChallengeClaim) :
    Presentation → Except ApiError ChallengeRecord
  | .signed _ signature expected => do
      let record ← claimError claim
      if !expected.contains record.operation then
        throw (challengeInvalid ("challenge was issued for " ++ record.operation.asStr))
      if !record.key.verify env.primitives (rebuilt snapshot record).encode signature then
        throw (signatureInvalid "signature does not verify against the challenge")
      pure record
  | .registration _ signature identityId key => do
      let record ← claimError claim
      if record.operation ≠ .registerDevice then
        throw (challengeInvalid "challenge was not issued for register_device")
      if record.ownerIdentityId ≠ some identityId then
        throw (challengeInvalid "challenge is bound to a different owner identity")
      let fingerprint := key.fingerprint env.primitives
      if record.deviceKeyFingerprint ≠ some fingerprint ∨ record.keyFingerprint ≠ fingerprint then
        throw (challengeInvalid "challenge is bound to a different device key")
      if !key.verify env.primitives (rebuilt snapshot record).encode signature then
        throw (signatureInvalid "device_signature does not verify against the challenge")
      pure record

inductive Phase where
  | requested (snapshot : Snapshot) (request : ChallengeRequest)
  | drafted (draft : Draft)
  | created (result : Except ApiError ChallengeResponse)
  | presented (snapshot : Snapshot) (presentation : Presentation)
  | claimed (snapshot : Snapshot) (presentation : Presentation) (claim : ChallengeClaim)
  | settled (result : Except ApiError ChallengeRecord)

inductive Event where
  | issued (draft : Draft)
  | attempted (challengeId : String) (time : Instant) (claim : ChallengeClaim)

/-- `history` records what was issued and attempted, the newest first. -/
structure System where
  now : Instant
  snapshot : Snapshot
  identities : List String
  challenges : List ChallengeRow
  nextCall : Nat
  calls : Nat → Option Phase
  history : List Event

def System.initial (now : Instant) (snapshot : Snapshot) : System :=
  { now, snapshot, identities := [], challenges := [], nextCall := 0, calls := fun _ => none
    history := [] }

def System.start (system : System) (phase : Phase) : System :=
  { system with
    nextCall := system.nextCall + 1, calls := Function.update system.calls system.nextCall (some phase) }

def System.setPhase (system : System) (id : Nat) (phase : Phase) : System :=
  { system with calls := Function.update system.calls id (some phase) }

def later (instant : Instant) (nanos : Nat) : Option Instant :=
  if h : instant.nanos + nanos < calendarDays * dayNanos then some ⟨_, h⟩ else none

def addSeconds (instant : Instant) (seconds : Int64) : Option Instant :=
  let nanos : Int := instant.nanos + seconds.toInt * secondNanos
  if h : 0 ≤ nanos ∧ nanos.toNat < calendarDays * dayNanos then some ⟨nanos.toNat, h.2⟩ else none

inductive Action where
  | request (request : ChallengeRequest)
  | draft (id : Nat) (challengeId : String) (challenge : Bytes)
  | insert (id : Nat)
  | present (challengeId signature : String) (expected : List Operation)
  | register (auth : Auth) (request : RegisterDeviceRequest)
  | claim (id : Nat) (elapsed : Nat)
  | check (id : Nat)
  | sweep
  | tick (elapsed : Nat)
  | publish (snapshot : Snapshot)
  | registerIdentity (identityId : String)

def System.startPresentation (system : System) : Except ApiError Presentation → System
  | .ok presentation => system.start (.presented system.snapshot presentation)
  | .error e => system.start (.settled (.error e))

def step (env : Env) (system : System) : Action → Option System
  | .request request => some (system.start (.requested system.snapshot request))
  | .draft id challengeId challenge =>
      match system.calls id with
      | some (.requested snapshot request) =>
          match checkRequest env snapshot system.identities request with
          | .error e => some (system.setPhase id (.created (.error e)))
          | .ok checked =>
              if challenge.length = Snapshot.u64 snapshot.values Keys.authChallengeBytes then
                let ttl := Snapshot.int snapshot.values Keys.authChallengeTtlSeconds
                (addSeconds system.now ttl).map fun expiresAt => system.setPhase id
                  (.drafted (draftOf env snapshot checked challengeId challenge expiresAt))
              else none
      | _ => none
  | .insert id =>
      match system.calls id with
      | some (.drafted draft) =>
          match insertChallenge env.primitives system.challenges draft system.now with
          | .error e => some (system.setPhase id (.created (.error e)))
          | .ok challenges =>
              some { system.setPhase id (.created (.ok (responseOf env draft))) with
                challenges, history := .issued draft :: system.history }
      | _ => none
  | .present challengeId signature expected =>
      some (system.startPresentation (presentSigned challengeId signature expected))
  | .register auth request =>
      some (system.startPresentation (presentRegistration env system.snapshot auth request))
  | .claim id elapsed =>
      match system.calls id with
      | some (.presented snapshot presentation) =>
          (later system.now elapsed).map fun time =>
            let (challenges, claim) := claimChallenge env.parseRfc3339 system.challenges
              presentation.challengeId system.now time
            { system.setPhase id (.claimed snapshot presentation claim) with
              now := time, challenges
              history := .attempted presentation.challengeId time claim :: system.history }
      | _ => none
  | .check id =>
      match system.calls id with
      | some (.claimed snapshot presentation claim) =>
          some (system.setPhase id (.settled (settle env snapshot claim presentation)))
      | _ => none
  | .sweep =>
      some { system with challenges := deleteExpiredChallenges system.challenges system.now }
  | .tick elapsed => (later system.now elapsed).map fun now => { system with now }
  | .publish snapshot => some { system with snapshot }
  | .registerIdentity identityId =>
      some { system with identities := system.identities ++ [identityId] }

def Event.about (challengeId : String) : Event → Bool
  | .issued draft => draft.challengeId = challengeId
  | .attempted named _ _ => named = challengeId

def latest (challengeId : String) (history : List Event) : Option Event :=
  history.find? fun event => event.about challengeId

structure Matches (env : Env) (draft : Draft) (time : Instant) (record : ChallengeRecord) :
    Prop where
  in_time : time.nanos ≤ draft.expiresAt.nanos
  message : ∀ snapshot, publicOrigin snapshot = draft.origin →
    rebuilt snapshot record = signingInput env draft

def Sound (env : Env) : List Event → Prop
  | [] => True
  | .issued _ :: earlier => Sound env earlier
  | .attempted challengeId time claim :: earlier =>
      (∀ record, claim = .claimed record → ∃ draft,
        latest challengeId earlier = some (.issued draft) ∧ Matches env draft time record) ∧
        Sound env earlier

structure Inv (env : Env) (system : System) : Prop where
  distinct : (system.challenges.map ChallengeRow.challengeId).Nodup
  live : ∀ row ∈ system.challenges, row.consumedAt = none → ∃ draft created,
    latest row.challengeId system.history = some (.issued draft) ∧
      row = draft.row env.primitives created
  sound : Sound env system.history

variable {env : Env} {system next : System}

theorem Inv.initial (now : Instant) (snapshot : Snapshot) :
    Inv env (System.initial now snapshot) where
  distinct := nodup_nil
  live row mem := by cases mem
  sound := trivial

theorem Inv.of_eq (inv : Inv env system) (challenges_eq : next.challenges = system.challenges)
    (history_eq : next.history = system.history) : Inv env next where
  distinct := challenges_eq ▸ inv.distinct
  live := by
    rw [challenges_eq, history_eq]
    exact inv.live
  sound := history_eq ▸ inv.sound

theorem Inv.start (inv : Inv env system) (phase : Phase) : Inv env (system.start phase) :=
  inv.of_eq rfl rfl

theorem Inv.setPhase (inv : Inv env system) (id : Nat) (phase : Phase) :
    Inv env (system.setPhase id phase) :=
  inv.of_eq rfl rfl

theorem unixMillis_truncated (instant : Instant) :
    unixMillis instant.truncated = unixMillis instant := by
  have hmillis : instant.truncated.nanos / 1000000 = instant.nanos / 1000000 := by
    simp only [Instant.truncated, Instant.micros]
    omega
  rw [unixMillis, unixMillis, hmillis]

variable {draft : Draft} {time : Instant} {challengeId : String} {history : List Event}

theorem matches_of_claimed
    (lawful : ∀ instant, env.parseRfc3339 (toRfc3339 instant) = some instant.truncated)
    {created : Instant} {record : ChallengeRecord}
    (here : (draft.row env.primitives created).challengeId = challengeId)
    (operation : Operation.parse (draft.row env.primitives created).operation =
      some record.operation)
    (in_time : time.nanos ≤ record.expiresAt.nanos)
    (record_eq : record = ⟨challengeId, record.operation,
      ⟨(draft.row env.primitives created).algorithm, (draft.row env.primitives created).publicKey⟩,
      (draft.row env.primitives created).keyFingerprint,
      (draft.row env.primitives created).ownerIdentityId,
      (draft.row env.primitives created).deviceKeyFingerprint,
      (draft.row env.primitives created).challenge,
      (env.parseRfc3339 (draft.row env.primitives created).expiresAt).getD time⟩) :
    Matches env draft time record := by
  have hoperation : record.operation = draft.operation := by
    rw [Draft.row, Operation.parse_asStr] at operation
    exact (Option.some.inj operation).symm
  have hexpires : record.expiresAt = draft.expiresAt.truncated := by
    rw [record_eq, Draft.row, lawful]
    rfl
  constructor
  · rw [hexpires] at in_time
    exact in_time.trans (Nat.div_mul_le_self _ _)
  · intro snapshot origin_eq
    unfold rebuilt signingInput
    rw [hexpires, unixMillis_truncated, hoperation, origin_eq, record_eq, ← here]
    rfl

theorem latest_issued_of_ne (other : draft.challengeId ≠ challengeId) :
    latest challengeId (.issued draft :: history) = latest challengeId history := by
  simp [latest, Event.about, other]

theorem latest_attempted_of_ne {attempted : String}
    {claim : ChallengeClaim} (other : attempted ≠ challengeId) :
    latest challengeId (.attempted attempted time claim :: history) = latest challengeId history := by
  simp [latest, Event.about, other]

theorem Inv.insert (inv : Inv env system) {challenges : List ChallengeRow}
    (inserted : insertChallenge env.primitives system.challenges draft system.now = .ok challenges)
    (challenges_eq : next.challenges = challenges)
    (history_eq : next.history = .issued draft :: system.history) : Inv env next := by
  unfold insertChallenge at inserted
  split at inserted
  · cases inserted
  · rename_i hfresh
    cases inserted
    have hother : ∀ row ∈ system.challenges, draft.challengeId ≠ row.challengeId := by
      intro row hrow heq
      exact hfresh (List.any_eq_true.mpr ⟨row, hrow, decide_eq_true heq.symm⟩)
    constructor
    · rw [challenges_eq, map_append, nodup_append]
      refine ⟨inv.distinct, nodup_singleton _, ?_⟩
      intro id hid added hadded
      obtain ⟨row, hrow, rfl⟩ := List.mem_map.mp hid
      rw [mem_singleton.mp hadded]
      exact (hother row hrow).symm
    · rw [challenges_eq, history_eq]
      intro row hrow hunconsumed
      rcases mem_append.mp hrow with hrow | hrow
      · rw [latest_issued_of_ne (hother row hrow)]
        exact inv.live row hrow hunconsumed
      · rw [mem_singleton.mp hrow]
        exact ⟨draft, system.now, by simp [latest, Event.about, Draft.row], rfl⟩
    · rw [history_eq]
      exact inv.sound

theorem Inv.claim
    (lawful : ∀ instant, env.parseRfc3339 (toRfc3339 instant) = some instant.truncated)
    (inv : Inv env system)
    (challenges_eq : next.challenges =
      (claimChallenge env.parseRfc3339 system.challenges challengeId system.now time).1)
    (history_eq : next.history = .attempted challengeId time
      (claimChallenge env.parseRfc3339 system.challenges challengeId system.now time).2 ::
        system.history) : Inv env next := by
  constructor
  · rw [challenges_eq, challengeId_claimChallenge]
    exact inv.distinct
  · rw [challenges_eq, history_eq]
    intro row hrow hunconsumed
    obtain ⟨hmem, hother⟩ := unconsumed_of_claimChallenge inv.distinct hrow hunconsumed
    rw [latest_attempted_of_ne (Ne.symm hother)]
    exact inv.live row hmem hunconsumed
  · rw [history_eq]
    refine ⟨?_, inv.sound⟩
    intro record hclaimed
    obtain ⟨row, hrow, hid, hunconsumed, hoperation, htime, hrecord⟩ :=
      claimed_of_claimChallenge hclaimed
    obtain ⟨draft, created, hlatest, rfl⟩ := inv.live row hrow hunconsumed
    rw [hid] at hlatest
    exact ⟨draft, hlatest, matches_of_claimed lawful hid hoperation htime hrecord⟩

theorem Inv.step (lawful : ∀ instant, env.parseRfc3339 (toRfc3339 instant) = some instant.truncated)
    (inv : Inv env system) {action : Action} (taken : step env system action = some next) :
    Inv env next := by
  cases action with
  | request request =>
    cases taken
    exact inv.start _
  | draft id challengeId challenge =>
    simp only [Challenges.step] at taken
    split at taken
    · split at taken
      · cases taken
        exact inv.setPhase _ _
      · split at taken
        · obtain ⟨expiresAt, -, rfl⟩ := map_eq_some_iff.mp taken
          exact inv.setPhase _ _
        · cases taken
    · cases taken
  | insert id =>
    simp only [Challenges.step] at taken
    split at taken
    · rename_i draft hphase
      split at taken
      · cases taken
        exact inv.setPhase _ _
      · rename_i challenges hinserted
        cases taken
        exact inv.insert hinserted rfl rfl
    · cases taken
  | present challengeId signature expected =>
    cases taken
    unfold System.startPresentation
    split
    · exact inv.start _
    · exact inv.start _
  | register auth request =>
    cases taken
    unfold System.startPresentation
    split
    · exact inv.start _
    · exact inv.start _
  | claim id elapsed =>
    simp only [Challenges.step] at taken
    split at taken
    · obtain ⟨time, -, rfl⟩ := map_eq_some_iff.mp taken
      exact inv.claim lawful rfl rfl
    · cases taken
  | check id =>
    simp only [Challenges.step] at taken
    split at taken
    · cases taken
      exact inv.setPhase _ _
    · cases taken
  | sweep =>
    cases taken
    constructor
    · exact inv.distinct.sublist (filter_sublist.map _)
    · intro row hrow
      exact inv.live row (mem_of_mem_filter hrow)
    · exact inv.sound
  | tick elapsed =>
    simp only [Challenges.step] at taken
    obtain ⟨now, -, rfl⟩ := map_eq_some_iff.mp taken
    exact inv.of_eq rfl rfl
  | publish snapshot =>
    cases taken
    exact inv.of_eq rfl rfl
  | registerIdentity identityId =>
    cases taken
    exact inv.of_eq rfl rfl

def Event.issues (challengeId : String) : Event → Bool
  | .issued draft => draft.challengeId = challengeId
  | .attempted _ _ _ => false

def Event.claims (challengeId : String) : Event → Bool
  | .attempted named _ (.claimed _) => named = challengeId
  | .attempted _ _ _ | .issued _ => false

theorem about_of_claims {event : Event} (claims : event.claims challengeId = true) :
    ∃ time record, event = .attempted challengeId time (.claimed record) := by
  cases event with
  | issued draft => cases claims
  | attempted named time claim =>
    cases claim with
    | claimed record =>
      have hnamed : named = challengeId := of_decide_eq_true claims
      exact ⟨time, record, by rw [hnamed]⟩
    | alreadyConsumed | expired | unknown => cases claims

theorem claims_le_issues (sound : Sound env history) (challengeId : String) :
    history.countP (Event.claims challengeId) ≤ history.countP (Event.issues challengeId) ∧
      ∀ draft, latest challengeId history = some (.issued draft) →
        history.countP (Event.claims challengeId) < history.countP (Event.issues challengeId) := by
  induction history with
  | nil => exact ⟨Nat.le_refl _, fun draft hlatest => by cases hlatest⟩
  | cons event earlier ih =>
    cases event with
    | issued issued =>
      obtain ⟨hle, hlt⟩ := ih sound
      rw [countP_cons_of_neg (by simp [Event.claims])]
      by_cases hid : issued.challengeId = challengeId
      · rw [countP_cons_of_pos (by simpa [Event.issues] using hid)]
        exact ⟨Nat.le_succ_of_le hle, fun _ _ => Nat.lt_succ_of_le hle⟩
      · rw [countP_cons_of_neg (by simpa [Event.issues] using hid), latest_issued_of_ne hid]
        exact ⟨hle, hlt⟩
    | attempted named time claim =>
      obtain ⟨hle, hlt⟩ := ih sound.2
      have hissues : ¬ Event.issues challengeId (.attempted named time claim) = true := by
        simp [Event.issues]
      rw [countP_cons_of_neg hissues]
      by_cases hid : named = challengeId
      · subst hid
        refine ⟨?_, fun draft hlatest => by simp [latest, Event.about] at hlatest⟩
        by_cases hclaims : (Event.attempted named time claim).claims named = true
        · rw [countP_cons_of_pos hclaims]
          obtain ⟨_, record, heq⟩ := about_of_claims hclaims
          cases heq
          obtain ⟨draft, hlatest, -⟩ := sound.1 record rfl
          exact hlt draft hlatest
        · rw [countP_cons_of_neg hclaims]
          exact hle
      · have hclaims : ¬ (Event.attempted named time claim).claims challengeId = true := by
          intro hclaims
          obtain ⟨_, _, heq⟩ := about_of_claims hclaims
          cases heq
          exact hid rfl
        rw [countP_cons_of_neg hclaims, latest_attempted_of_ne hid]
        exact ⟨hle, hlt⟩

theorem Sound.of_append {later earlier : List Event} (sound : Sound env (later ++ earlier)) :
    Sound env earlier := by
  induction later with
  | nil => exact sound
  | cons event later ih =>
    cases event with
    | issued draft => exact ih sound
    | attempted challengeId time claim => exact ih sound.2

theorem mem_of_latest {event : Event} (found : latest challengeId history = some event) :
    event ∈ history ∧ event.about challengeId = true :=
  ⟨mem_of_find?_eq_some found, by simpa using find?_some found⟩

/-- What challenges authorise.  An identifier that is issued once is claimed at most once. -/
structure AuthoriseOnce (env : Env) (system : System) : Prop where
  at_most_once : ∀ challengeId, system.history.countP (Event.claims challengeId) ≤
    system.history.countP (Event.issues challengeId)
  /-- A claim is in time, and the message rebuilt from it is the issued one. -/
  claimed : ∀ later earlier challengeId time record,
    system.history = later ++ .attempted challengeId time (.claimed record) :: earlier →
      ∃ draft, .issued draft ∈ earlier ∧ draft.challengeId = challengeId ∧
        time.nanos ≤ draft.expiresAt.nanos ∧
          ∀ snapshot, publicOrigin snapshot = draft.origin →
            b64Encode (rebuilt snapshot record).encode = (responseOf env draft).signingInput
  /-- After an attempt, whatever came of it, only a new issue can be claimed. -/
  consumed : ∀ later middle earlier challengeId time claim time' record,
    system.history = later ++ .attempted challengeId time' (.claimed record) ::
      (middle ++ .attempted challengeId time claim :: earlier) →
      ∃ draft, .issued draft ∈ middle ∧ draft.challengeId = challengeId
  stored : ∀ row ∈ system.challenges, ∀ time claim,
    latest row.challengeId system.history = some (.attempted row.challengeId time claim) →
      row.consumedAt ≠ none

theorem Inv.authoriseOnce (inv : Inv env system) : AuthoriseOnce env system where
  at_most_once challengeId := (claims_le_issues inv.sound challengeId).1
  claimed := by
    intro later earlier challengeId time record hhistory
    have hsound := inv.sound
    rw [hhistory] at hsound
    obtain ⟨draft, hlatest, hmatches⟩ := hsound.of_append.1 record rfl
    obtain ⟨hmem, habout⟩ := mem_of_latest hlatest
    refine ⟨draft, hmem, of_decide_eq_true habout, hmatches.in_time, ?_⟩
    intro snapshot horigin
    rw [hmatches.message snapshot horigin]
    rfl
  consumed := by
    intro later middle earlier challengeId time claim time' record hhistory
    have hsound := inv.sound
    rw [hhistory] at hsound
    obtain ⟨draft, hlatest, -⟩ := hsound.of_append.1 record rfl
    have habout := (mem_of_latest hlatest).2
    unfold latest at hlatest
    rw [find?_append, or_eq_some_iff] at hlatest
    rcases hlatest with hmiddle | ⟨-, hrest⟩
    · exact ⟨draft, mem_of_find?_eq_some hmiddle, of_decide_eq_true habout⟩
    · simp [Event.about] at hrest
  stored := by
    intro row hrow time claim hlatest hunconsumed
    obtain ⟨draft, created, hissued, -⟩ := inv.live row hrow hunconsumed
    rw [hissued] at hlatest
    cases hlatest

/-- In every run, whatever the order of the steps. -/
theorem challenges_authorise_once
    (lawful : ∀ instant, env.parseRfc3339 (toRfc3339 instant) = some instant.truncated)
    {now : Instant} {snapshot : Snapshot} {actions : List Action}
    (reached : run (step env) (System.initial now snapshot) actions = some system) :
    AuthoriseOnce env system := by
  have hinv : Inv env system :=
    run_invariant (fun _ _ _ inv taken => inv.step lawful taken) (Inv.initial now snapshot) reached
  exact hinv.authoriseOnce

def sampleEnv : Env where
  primitives :=
    { sha256 := fun _ =>
        [185, 175, 163, 174, 138, 107, 183, 204, 40, 39, 105, 238, 151, 129, 199, 107, 63, 123,
          9, 143, 31, 236, 105, 109, 233, 186, 153, 138, 54, 59, 104, 35]
      validPoint := fun _ => true
      verifyStrict := fun _ _ _ => false }
  parseRfc3339 := readRfc3339

def sampleActions : List Action :=
  [.request ⟨"register_identity", "ed25519", "11qYAYKxCrfVS_7TyWQHOg7hcvPapiMlrwIaaPcHURo", none⟩,
    .draft 0 "01JZQ0S6Z8E4M3T9V5W7X2Y1K6" (List.replicate 32 7), .insert 0,
    .present "01JZQ0S6Z8E4M3T9V5W7X2Y1K6" "AA" [.registerIdentity], .claim 1 1000, .check 1,
    .present "01JZQ0S6Z8E4M3T9V5W7X2Y1K6" "AA" [.registerIdentity], .claim 2 1000]

theorem sample_challenge_authorises_once :
    ∃ system, run (step sampleEnv) (System.initial sampleInstant
          ⟨1, Settings.resolve Settings.emptyValues⟩) sampleActions = some system ∧
        system.history.countP (Event.claims "01JZQ0S6Z8E4M3T9V5W7X2Y1K6") = 1 ∧
          AuthoriseOnce sampleEnv system := by
  have hrun : (run (step sampleEnv) (System.initial sampleInstant
      ⟨1, Settings.resolve Settings.emptyValues⟩) sampleActions).map (fun system =>
        system.history.countP (Event.claims "01JZQ0S6Z8E4M3T9V5W7X2Y1K6")) = some 1 := by
    decide +kernel
  obtain ⟨system, hreached, hcount⟩ := map_eq_some_iff.mp hrun
  exact ⟨system, hreached, hcount, challenges_authorise_once readRfc3339_toRfc3339 hreached⟩

end Hypeterm.Http.Challenges
