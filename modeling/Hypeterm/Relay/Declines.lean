import Hypeterm.Library.CharBoundary
import Hypeterm.Relay.Registry

/-! A publisher that refuses to open a terminal.  The caller is told a reason from a closed set;
the free text goes to the log, cut at a byte count. -/
namespace Hypeterm.Relay

open Library

def hexDigest (digest : Digest) : String :=
  String.ofList ((List.range 64).map fun place =>
    Nat.digitChar (digest.toNat / 16 ^ (63 - place) % 16))

structure OpenDeclined where
  inReplyTo : String
  reason : String
  detail : Option String

def knownReasons : List String :=
  ["not_permitted", "unsupported", "busy", "limit_reached", "internal_error"]

def declineReason (reason : String) : String :=
  if reason ∈ knownReasons then reason else "internal_error"

def Registry.namedOpen (registry : Registry) (deviceId : Uuid) (inReplyTo : String) :
    Option PendingOpen :=
  registry.pendingOpens.find? fun entry =>
    entry.deviceId = deviceId ∧ hexDigest entry.requestId = inReplyTo

def Registry.resolveOpen (registry : Registry) (deviceId : Uuid) (inReplyTo : Option String)
    (outcome : OpenOutcome) : Registry :=
  match inReplyTo with
  | none => registry
  | some text =>
      match registry.namedOpen deviceId text with
      | none => registry
      | some entry => (registry.resolveOpenRequest deviceId entry.requestId outcome).1

def loggedDetail (detail : Option String) : Option (List Char) :=
  match detail with
  | none => some []
  | some text => sliceTo text.toList (min (byteLength text.toList) 200)

/-- `none` is a panic, which ends the connection's task.  The fields of a log event are
evaluated only while something listens to it, which `logged` says. -/
def onOpenDeclined (registry : Registry) (deviceId : Uuid) (logged : Bool)
    (message : OpenDeclined) : Option (Registry × Bool) :=
  let reason := declineReason message.reason
  match if logged then loggedDetail message.detail else some [] with
  | none => none
  | some _ =>
      some (registry.resolveOpen deviceId (some message.inReplyTo) (.declined reason), true)

theorem declineReason_mem (reason : String) : declineReason reason ∈ knownReasons := by
  unfold declineReason
  split
  · assumption
  · decide

section

variable {registry : Registry} {deviceId : Uuid} {message : OpenDeclined}

theorem pendingOpen_of_namedOpen {inReplyTo : String} {entry : PendingOpen}
    (found : registry.namedOpen deviceId inReplyTo = some entry) :
    registry.pendingOpen deviceId entry.requestId = some entry := by
  unfold Registry.namedOpen at found
  unfold Registry.pendingOpen
  obtain ⟨hentry, before, after, hsplit, hbefore⟩ := List.find?_eq_some_iff_append.mp found
  obtain ⟨hdevice, htext⟩ := of_decide_eq_true hentry
  refine List.find?_eq_some_iff_append.mpr ⟨?_, before, after, hsplit, ?_⟩
  · exact decide_eq_true ⟨hdevice, rfl⟩
  · intro other member
    have hother := hbefore other member
    simp only [Bool.not_eq_true', decide_eq_false_iff_not, not_and] at hother ⊢
    intro hsameDevice hsame
    exact hother hsameDevice (hsame ▸ htext)

theorem resolveOpen_spec (inReplyTo : String) (outcome : OpenOutcome) :
    (∀ entry, registry.namedOpen deviceId inReplyTo = some entry →
      registry.resolveOpen deviceId (some inReplyTo) outcome =
        registry.updateWatch entry.tx fun watch => watch.send outcome) ∧
    (registry.namedOpen deviceId inReplyTo = none →
      registry.resolveOpen deviceId (some inReplyTo) outcome = registry) := by
  constructor
  · intro entry found
    unfold Registry.resolveOpen
    dsimp only
    rw [found]
    dsimp only
    rw [Registry.resolveOpenRequest, pendingOpen_of_namedOpen found]
  · intro missing
    unfold Registry.resolveOpen
    dsimp only
    rw [missing]

/-- The message was handled: the entry it names has a reason from the closed set, and the
connection stays. -/
structure Handled (registry : Registry) (deviceId : Uuid) (message : OpenDeclined)
    (result : Option (Registry × Bool)) : Prop where
  answered : ∃ after reason, result = some (after, true) ∧ reason ∈ knownReasons ∧
    (∀ entry, registry.namedOpen deviceId message.inReplyTo = some entry →
      after = registry.updateWatch entry.tx fun watch => watch.send (.declined reason)) ∧
    (registry.namedOpen deviceId message.inReplyTo = none → after = registry)

theorem loggedDetail_isSome (detail : Option String) : (loggedDetail detail).isSome = true ↔
      ∀ text, detail = some text → 200 < byteLength text.toList →
        IsCharBoundary text.toList 200 := by
  cases detail with
  | none => simp [loggedDetail]
  | some text =>
    simp only [loggedDetail, isSome_sliceTo, Option.some.injEq, forall_eq']
    by_cases hlong : 200 < byteLength text.toList
    · rw [Nat.min_eq_right (Nat.le_of_lt hlong)]
      simp [hlong]
    · rw [Nat.min_eq_left (Nat.le_of_not_lt hlong)]
      simp [hlong, isCharBoundary_byteLength]

theorem handled_iff (logged : Bool) :
    Handled registry deviceId message (onOpenDeclined registry deviceId logged message) ↔
      (logged = true → (loggedDetail message.detail).isSome = true) := by
  constructor
  · rintro handled rfl
    obtain ⟨after, reason, hresult, -⟩ := handled.answered
    unfold onOpenDeclined at hresult
    cases hlogged : loggedDetail message.detail with
    | none => simp [hlogged] at hresult
    | some => rfl
  · intro hsome
    obtain ⟨kept, hkept⟩ : ∃ kept,
        (if logged then loggedDetail message.detail else some []) = some kept := by
      cases logged with
      | false => exact ⟨[], rfl⟩
      | true => exact Option.isSome_iff_exists.mp (hsome rfl)
    unfold onOpenDeclined
    rw [hkept]
    obtain ⟨hnamed, hmissing⟩ := @resolveOpen_spec registry deviceId message.inReplyTo
      (.declined (declineReason message.reason))
    exact ⟨_, _, rfl, declineReason_mem message.reason, hnamed, hmissing⟩

/-- A refusal is handled exactly when its event is not logged, or its detail has at most 200
bytes, or a character begins at byte 200. -/
theorem decline_handled_iff (logged : Bool) :
    Handled registry deviceId message (onOpenDeclined registry deviceId logged message) ↔
      (logged = true → ∀ text, message.detail = some text → 200 < byteLength text.toList →
        IsCharBoundary text.toList 200) := by
  rw [handled_iff, loggedDetail_isSome]

end

def straddlingDetail : List Char := List.replicate 199 'a' ++ ['é']

theorem straddlingDetail_boundary :
    200 < byteLength straddlingDetail ∧ ¬ IsCharBoundary straddlingDetail 200 := by
  decide +kernel

theorem straddling_detail_panics :
    ¬ ∀ (registry : Registry) (deviceId : Uuid) (logged : Bool) (message : OpenDeclined),
      Handled registry deviceId message (onOpenDeclined registry deviceId logged message) := by
  intro claim
  have hhandled := claim Registry.new 1 true ⟨"", "busy", some (String.ofList straddlingDetail)⟩
  have hcut := (loggedDetail_isSome _).mp (handled_iff true |>.mp hhandled rfl) _ rfl
  rw [String.toList_ofList] at hcut
  exact straddlingDetail_boundary.2 (hcut straddlingDetail_boundary.1)

end Hypeterm.Relay
