import Hypeterm.Crypto
import Hypeterm.Library.Table

/-! Challenges as they are stored.  A challenge is consumed by the first attempt that
reaches it, before anything about the attempt is checked. -/
namespace Hypeterm.Db.Challenges

open Hypeterm.Crypto
open Library
open Util

structure ChallengeRow where
  challengeId : String
  operation : String
  algorithm : String
  publicKey : Bytes
  keyFingerprint : String
  ownerIdentityId : Option String
  deviceKeyFingerprint : Option String
  challenge : Bytes
  createdAt : String
  expiresAt : String
  consumedAt : Option String

structure Draft where
  origin : String
  challengeId : String
  challenge : Bytes
  operation : Operation
  key : PublicKey
  ownerIdentityId : Option String
  deviceKeyFingerprint : Option String
  expiresAt : Instant

def Draft.row (primitives : Primitives) (draft : Draft) (now : Instant) : ChallengeRow where
  challengeId := draft.challengeId
  operation := draft.operation.asStr
  algorithm := draft.key.algorithm
  publicKey := draft.key.bytes
  keyFingerprint := draft.key.fingerprint primitives
  ownerIdentityId := draft.ownerIdentityId
  deviceKeyFingerprint := draft.deviceKeyFingerprint
  challenge := draft.challenge
  createdAt := toRfc3339 now
  expiresAt := toRfc3339 draft.expiresAt
  consumedAt := none

def insertChallenge (primitives : Primitives) (rows : List ChallengeRow) (draft : Draft)
    (now : Instant) : Except ApiError (List ChallengeRow) :=
  if rows.any fun row => row.challengeId = draft.challengeId then
    .error (.internal "database error: UNIQUE constraint failed: challenges.challenge_id")
  else .ok (rows ++ [draft.row primitives now])

structure ChallengeRecord where
  challengeId : String
  operation : Operation
  key : PublicKey
  keyFingerprint : String
  ownerIdentityId : Option String
  deviceKeyFingerprint : Option String
  challenge : Bytes
  expiresAt : Instant

inductive ChallengeClaim where
  | claimed (record : ChallengeRecord)
  | alreadyConsumed
  | expired
  | unknown

def consume (challengeId : String) (now : Instant) : List ChallengeRow → List ChallengeRow :=
  update ChallengeRow.challengeId challengeId fun row =>
    { row with consumedAt := some (toRfc3339 now) }

/-- Mark a challenge consumed and return it.  The clock is read when the mark is written
and again for the expiry. -/
def claimChallenge (parseRfc3339 : String → Option Instant) (rows : List ChallengeRow)
    (challengeId : String) (now later : Instant) : List ChallengeRow × ChallengeClaim :=
  match lookup ChallengeRow.challengeId challengeId rows with
  | none => (rows, .unknown)
  | some row =>
      if row.consumedAt.isSome then (rows, .alreadyConsumed)
      else
        let rows := consume challengeId now rows
        let expiresAt := (parseRfc3339 row.expiresAt).getD later
        if expiresAt.nanos < later.nanos then (rows, .expired)
        else
          match Operation.parse row.operation with
          | none => (rows, .unknown)
          | some operation =>
              (rows, .claimed
                { challengeId, operation, key := ⟨row.algorithm, row.publicKey⟩
                  keyFingerprint := row.keyFingerprint, ownerIdentityId := row.ownerIdentityId
                  deviceKeyFingerprint := row.deviceKeyFingerprint, challenge := row.challenge
                  expiresAt })

/-- The instant some seconds earlier, at the earliest the start of the calendar. -/
def secondsBefore (instant : Instant) (seconds : Nat) : Instant :=
  ⟨instant.nanos - seconds * secondNanos, Nat.lt_of_le_of_lt (Nat.sub_le _ _) instant.inCalendar⟩

def deleteExpiredChallenges (rows : List ChallengeRow) (now : Instant) : List ChallengeRow :=
  rows.filter fun row => !(row.expiresAt < toRfc3339 (secondsBefore now 3600))

variable {primitives : Primitives} {parseRfc3339 : String → Option Instant}
  {rows : List ChallengeRow} {challengeId : String} {now later : Instant}

theorem claimChallenge_cases :
    (claimChallenge parseRfc3339 rows challengeId now later).1 = consume challengeId now rows ∨
      (∀ row, lookup ChallengeRow.challengeId challengeId rows = some row → row.consumedAt ≠ none) ∧
        (claimChallenge parseRfc3339 rows challengeId now later).1 = rows := by
  unfold claimChallenge
  cases hfound : lookup ChallengeRow.challengeId challengeId rows with
  | none =>
    right
    simp
  | some row =>
    cases hconsumed : row.consumedAt with
    | some time =>
      right
      simp [hconsumed]
    | none =>
      left
      simp only [hconsumed, Option.isSome_none, Bool.false_eq_true, if_false]
      split
      · rfl
      · split
        · rfl
        · rfl

theorem challengeId_claimChallenge :
    (claimChallenge parseRfc3339 rows challengeId now later).1.map ChallengeRow.challengeId =
      rows.map ChallengeRow.challengeId := by
  rcases @claimChallenge_cases parseRfc3339 rows challengeId now later with hrows | ⟨-, hrows⟩
  · rw [hrows, consume, update, List.map_map]
    apply List.map_congr_left
    intro row _
    by_cases hid : row.challengeId = challengeId
    · simp [hid]
    · simp [hid]
  · rw [hrows]

theorem unconsumed_of_claimChallenge (distinct : (rows.map ChallengeRow.challengeId).Nodup)
    {row : ChallengeRow} (mem : row ∈ (claimChallenge parseRfc3339 rows challengeId now later).1)
    (unconsumed : row.consumedAt = none) : row ∈ rows ∧ row.challengeId ≠ challengeId := by
  rcases @claimChallenge_cases parseRfc3339 rows challengeId now later with
    hrows | ⟨hconsumed, hrows⟩
  · rw [hrows] at mem
    obtain ⟨before, hbefore, rfl⟩ := List.mem_map.mp mem
    by_cases hid : before.challengeId = challengeId
    · simp [hid] at unconsumed
    · simp only [if_neg hid]
      exact ⟨hbefore, hid⟩
  · rw [hrows] at mem
    refine ⟨mem, ?_⟩
    rintro rfl
    exact hconsumed row (lookup_of_mem distinct mem) unconsumed

theorem claimed_of_claimChallenge {record : ChallengeRecord}
    (claimed : (claimChallenge parseRfc3339 rows challengeId now later).2 = .claimed record) :
    ∃ row ∈ rows, row.challengeId = challengeId ∧ row.consumedAt = none ∧
      Operation.parse row.operation = some record.operation ∧ later.nanos ≤ record.expiresAt.nanos ∧
      record = ⟨challengeId, record.operation, ⟨row.algorithm, row.publicKey⟩, row.keyFingerprint,
        row.ownerIdentityId, row.deviceKeyFingerprint, row.challenge,
        (parseRfc3339 row.expiresAt).getD later⟩ := by
  unfold claimChallenge at claimed
  cases hfound : lookup ChallengeRow.challengeId challengeId rows with
  | none => simp [hfound] at claimed
  | some row =>
    cases hconsumed : row.consumedAt with
    | some time => simp [hfound, hconsumed] at claimed
    | none =>
      simp only [hfound, hconsumed, Option.isSome_none, Bool.false_eq_true, if_false] at claimed
      split at claimed
      · cases claimed
      · rename_i hlive
        split at claimed
        · cases claimed
        · rename_i operation hoperation
          cases claimed
          exact ⟨row, mem_of_lookup hfound, key_of_lookup hfound, hconsumed, hoperation,
            Nat.not_lt.mp hlive, rfl⟩

end Hypeterm.Db.Challenges
