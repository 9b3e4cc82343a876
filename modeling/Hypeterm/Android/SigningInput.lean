import Hypeterm.Android.BinaryFrames
import Hypeterm.Crypto
import Hypeterm.Publisher.Crypto

/-! What the phone signs.  The relay supplies the bytes; the phone takes them apart and
compares the fields with what it asked for before its key is used.  Its texts are byte
strings. -/
namespace Hypeterm.Android.SigningInput

open Library Checked List
open Util (utf8Bytes)
open Hypeterm.Publisher.Crypto (Remaining Bounded maxFields remaining_end remaining_next
  remaining_start)
open BinaryFrames (readRange holds_readRange readUint64BigEndian writeUint64BigEndian
  writeUint64BigEndian_eq)

abbrev ChallengeOperation := Crypto.Operation

def challengeOperationName : ChallengeOperation → String
  | .registerIdentity => "register_identity"
  | .authenticateIdentity => "authenticate_identity"
  | .registerDevice => "register_device"
  | .authenticateDevice => "authenticate_device"

def challengeSignatureContext : String := "terminal-relay-challenge-v1"

/-- A field's length is cast to 32 bits. -/
def lengthBytes (bytes : Bytes) : Bytes :=
  let length := UInt32.ofNat bytes.length
  [24, 16, 8, 0].map fun shift : UInt32 => (length >>> shift &&& 0xFF).toUInt8

def field (buffer bytes : Bytes) : Bytes := buffer ++ (lengthBytes bytes ++ bytes)

def fieldUint64 (buffer : Bytes) (value : UInt64) : Bytes :=
  field buffer (writeUint64BigEndian value)

structure Input where
  origin : Bytes
  challengeId : Bytes
  challenge : Bytes
  operation : ChallengeOperation
  keyFingerprint : Bytes
  ownerIdentityId : Bytes
  deviceKeyFingerprint : Bytes
  expiresAtUnixMs : UInt64

def Input.encode (input : Input) : Bytes :=
  fieldUint64 (field (field (field (field (field (field (field (field []
    (utf8Bytes challengeSignatureContext)) input.origin) input.challengeId) input.challenge)
      (utf8Bytes (challengeOperationName input.operation))) input.keyFingerprint)
        input.ownerIdentityId) input.deviceKeyFingerprint) input.expiresAtUnixMs

structure Expected where
  challengeId : Bytes
  challenge : Bytes
  operation : ChallengeOperation
  keyFingerprint : Bytes
  ownerIdentityId : Bytes
  deviceKeyFingerprint : Bytes
  expectedOrigin : Bytes

def readUint32 (encoded : Bytes) (position : Nat) : Checked UInt32 := do
  let first ← get encoded (position : Nat)
  let second ← get encoded (position + 1 : Nat)
  let third ← get encoded (position + 2 : Nat)
  let fourth ← get encoded (position + 3 : Nat)
  pure (first.toUInt32 <<< 24 ||| second.toUInt32 <<< 16 ||| third.toUInt32 <<< 8 |||
    fourth.toUInt32)

/-- The loop of `Split` from a position on.  A loop that needs more rounds is not safe. -/
def splitFrom (encoded : Bytes) : Nat → Nat → List Bytes → Checked (Option (List Bytes))
  | 0, _, _ => ⟨none, false⟩
  | rounds + 1, position, fields =>
      if position < encoded.length then
        if encoded.length - position < 4 then pure none
        else do
          let length ← readUint32 encoded position
          let position := position + 4
          if encoded.length - position < length.toNat then pure none
          else do
            let field ← readRange encoded position (position + length.toNat)
            let fields := fields ++ [field]
            if maxFields < fields.length then pure none
            else splitFrom encoded rounds (position + length.toNat) fields
      else pure (some fields)

def split (encoded : Bytes) : Checked (Option (List Bytes)) :=
  splitFrom encoded (encoded.length + 1) 0 []

def checkFields (expected : Expected) : Option (List Bytes) → Except String Unit
  | some [context, origin, challengeId, challenge, operation, key, owner, device, expiry] =>
      if context ≠ utf8Bytes challengeSignatureContext then
        .error "challenge signing input has an unexpected context"
      else if expected.expectedOrigin ≠ [] ∧ origin ≠ expected.expectedOrigin then
        .error "challenge signing input binds an unexpected origin"
      else if challengeId ≠ expected.challengeId then
        .error "challenge signing input binds a different challenge id"
      else if challenge ≠ expected.challenge then
        .error "challenge signing input binds different challenge bytes"
      else if operation ≠ utf8Bytes (challengeOperationName expected.operation) then
        .error "challenge signing input binds a different operation"
      else if key ≠ expected.keyFingerprint then
        .error "challenge signing input binds a different key"
      else if expected.ownerIdentityId ≠ [] ∧ owner ≠ expected.ownerIdentityId then
        .error "challenge signing input binds a different owner identity"
      else if expected.deviceKeyFingerprint ≠ [] ∧ device ≠ expected.deviceKeyFingerprint then
        .error "challenge signing input binds a different device key"
      else if expiry.length ≠ 8 then
        .error "challenge signing input has a malformed expiry field"
      else .ok ()
  | _ => .error "challenge signing input is not the expected nine-field encoding"

def verifySigningInput (signingInput : Bytes) (expected : Expected) :
    Checked (Except String Unit) := do
  let fields ← split signingInput
  pure (checkFields expected fields)

theorem lengthBytes_eq (bytes : Bytes) : lengthBytes bytes = toBeBytes 4 bytes.length := by
  have hdigit : ∀ shift : UInt32, shift.toNat < 32 → ∀ number,
      (UInt32.ofNat bytes.length).toNat / 2 ^ shift.toNat % 256 = number % 256 →
      (UInt32.ofNat bytes.length >>> shift &&& 0xFF).toUInt8 = UInt8.ofNat number := by
    intro shift hshift number hnumber
    apply UInt8.toNat_inj.mp
    rw [UInt32.toNat_toUInt8, UInt32.toNat_and, UInt32.toNat_shiftRight, UInt8.toNat_ofNat',
      Nat.mod_eq_of_lt hshift, Nat.shiftRight_eq_div_pow]
    change (_ &&& 2 ^ 8 - 1) % 2 ^ 8 = _
    rw [Nat.and_two_pow_sub_one_eq_mod, Nat.mod_mod]
    exact hnumber
  have hlength : (UInt32.ofNat bytes.length).toNat = bytes.length % 2 ^ 32 := UInt32.toNat_ofNat'
  simp only [lengthBytes, toBeBytes, map_cons, map_nil, nil_append,
    cons_append, Nat.div_div_eq_div_mul]
  rw [hlength] at hdigit
  refine congrArg₂ cons (hdigit 24 (by decide) _ ?_) ?_
  · change bytes.length % 2 ^ 32 / 2 ^ 24 % 256 = _
    omega
  refine congrArg₂ cons (hdigit 16 (by decide) _ ?_) ?_
  · change bytes.length % 2 ^ 32 / 2 ^ 16 % 256 = _
    omega
  refine congrArg₂ cons (hdigit 8 (by decide) _ ?_) ?_
  · change bytes.length % 2 ^ 32 / 2 ^ 8 % 256 = _
    omega
  refine congrArg₂ cons (hdigit 0 (by decide) _ ?_) rfl
  change bytes.length % 2 ^ 32 / 2 ^ 0 % 256 = _
  omega

def Input.fields (input : Input) : List Bytes :=
  [utf8Bytes challengeSignatureContext, input.origin, input.challengeId, input.challenge,
    utf8Bytes (challengeOperationName input.operation), input.keyFingerprint,
    input.ownerIdentityId, input.deviceKeyFingerprint, toBeBytes 8 input.expiresAtUnixMs.toNat]

theorem Input.encode_eq (input : Input) : input.encode = lengthPrefixed 4 input.fields := by
  simp [Input.encode, fieldUint64, field, lengthBytes_eq, writeUint64BigEndian_eq, lengthPrefixed,
    Input.fields, append_assoc]

/-- The same values as the server holds them. -/
def ofServer (input : Crypto.SigningInput) : Input where
  origin := utf8Bytes input.origin
  challengeId := utf8Bytes input.challengeId
  challenge := input.challenge
  operation := input.operation
  keyFingerprint := utf8Bytes input.keyFingerprint
  ownerIdentityId := utf8Bytes input.ownerIdentityId
  deviceKeyFingerprint := utf8Bytes input.deviceKeyFingerprint
  expiresAtUnixMs := input.expiresAtUnixMs

theorem encode_ofServer (input : Crypto.SigningInput) : (ofServer input).encode = input.encode := by
  have hname : challengeOperationName input.operation = input.operation.asStr := by
    cases input.operation <;> rfl
  rw [Input.encode_eq, input.encode_eq]
  simp only [Input.fields, ofServer, Crypto.SigningInput.fields, hname]
  rfl

theorem holds_readUint32 {encoded : Bytes} {position : Nat} (inside : position + 4 ≤ encoded.length) :
    Holds (fun length => length.toNat =
        fromBeBytes ((encoded.take (position + 4)).drop position))
      (readUint32 encoded position) := by
  obtain ⟨first, second, third, fourth, rest, hdrop⟩ :
      ∃ first second third fourth rest,
        encoded.drop position = first :: second :: third :: fourth :: rest := by
    have hlength : (encoded.drop position).length = encoded.length - position := length_drop
    match hdrop : encoded.drop position with
    | first :: second :: third :: fourth :: rest => exact ⟨_, _, _, _, _, rfl⟩
    | [] | [_] | [_, _] | [_, _, _] =>
      rw [hdrop] at hlength
      simp only [length_cons, length_nil] at hlength
      omega
  have hget : ∀ index, encoded.getD (position + index) default =
      (first :: second :: third :: fourth :: rest).getD index default := by
    intro index
    rw [← hdrop, getD_eq_getElem?_getD, getD_eq_getElem?_getD, getElem?_drop]
  have hinside : ∀ index : Nat, index < 4 → (0 : Int) ≤ (position + index : Nat) ∧
      ((position + index : Nat) : Int) < encoded.length := fun index hindex => by omega
  refine (holds_get (hinside 0 (by decide))).bind ?_
  rintro _ rfl
  refine (holds_get (hinside 1 (by decide))).bind ?_
  rintro _ rfl
  refine (holds_get (hinside 2 (by decide))).bind ?_
  rintro _ rfl
  refine (holds_get (hinside 3 (by decide))).bind ?_
  rintro _ rfl
  refine .pure ?_
  simp only [Int.toNat_natCast, hget, getD_cons_zero, getD_cons_succ]
  rw [drop_take, Nat.add_sub_cancel_left, hdrop]
  simp only [take_succ_cons, take_zero, fromBeBytes, foldl_cons, foldl_nil]
  have hfirst := first.toNat_lt
  have hsecond := second.toNat_lt
  have hthird := third.toNat_lt
  have hfourth := fourth.toNat_lt
  rw [UInt32.toNat_or, UInt32.toNat_or, UInt32.toNat_or, UInt32.toNat_shiftLeft,
    UInt32.toNat_shiftLeft, UInt32.toNat_shiftLeft, UInt8.toNat_toUInt32, UInt8.toNat_toUInt32,
    UInt8.toNat_toUInt32, UInt8.toNat_toUInt32]
  change first.toNat <<< 24 % 2 ^ 32 ||| second.toNat <<< 16 % 2 ^ 32 |||
    third.toNat <<< 8 % 2 ^ 32 ||| fourth.toNat = _
  have hshift : ∀ digit count, digit < 256 → count ≤ 24 →
      digit <<< count % 2 ^ 32 = digit <<< count := by
    intro digit count hdigit hcount
    apply Nat.mod_eq_of_lt
    rw [Nat.shiftLeft_eq]
    calc digit * 2 ^ count < 2 ^ 8 * 2 ^ count := Nat.mul_lt_mul_of_pos_right hdigit (Nat.two_pow_pos _)
      _ = 2 ^ (8 + count) := (Nat.pow_add _ _ _).symm
      _ ≤ 2 ^ 32 := Nat.pow_le_pow_right (by decide) (by omega)
  rw [hshift _ 24 hfirst (by decide), hshift _ 16 hsecond (by decide), hshift _ 8 hthird (by decide),
    Nat.or_assoc, Nat.or_assoc, ← Nat.shiftLeft_add_eq_or_of_lt (i := 8) (by omega)]
  have hlow : third.toNat <<< 8 + fourth.toNat < 2 ^ 16 := by
    rw [Nat.shiftLeft_eq]
    omega
  rw [← Nat.shiftLeft_add_eq_or_of_lt hlow]
  have hmiddle : second.toNat <<< 16 + (third.toNat <<< 8 + fourth.toNat) < 2 ^ 24 := by
    rw [Nat.shiftLeft_eq, Nat.shiftLeft_eq]
    omega
  rw [← Nat.shiftLeft_add_eq_or_of_lt hmiddle, Nat.shiftLeft_eq, Nat.shiftLeft_eq, Nat.shiftLeft_eq]
  omega

theorem holds_splitFrom {encoded : Bytes} {rounds position : Nat} {fields : List Bytes}
    (enough : encoded.length < position + rounds) (inside : position ≤ encoded.length)
    (few : fields.length ≤ maxFields) :
    Holds (fun parsed => ∀ all, parsed = some all ↔ Remaining encoded position fields all)
      (splitFrom encoded rounds position fields) := by
  induction rounds generalizing position fields with
  | zero => omega
  | succ rounds ih =>
    unfold splitFrom
    refine .ite (fun hbefore => ?_) (fun hpast => ?_)
    · refine .ite (fun hcut => .pure fun all => ?_) (fun hhead => ?_)
      · refine iff_of_false (by simp) fun remaining => ?_
        obtain ⟨field, rest, -, -, hdrop, -⟩ := remaining.head hbefore
        have hlength := congrArg List.length hdrop
        rw [length_drop, length_append, length_toBeBytes] at hlength
        omega
      · refine (holds_readUint32 (by omega)).bind fun length length_eq => ?_
        have htail : position + 4 + length.toNat = position + 4 +
            fromBeBytes ((encoded.take (position + 4)).drop position) := by rw [length_eq]
        refine .ite (fun hcut => .pure fun all => ?_) (fun hfits => ?_)
        · refine iff_of_false (by simp) fun remaining => ?_
          exact absurd (remaining.tail_le hbefore rfl rfl htail) (by omega)
        · refine (holds_readRange (by omega) (by omega)).bind fun field field_eq => ?_
          have hnext := fun all => @remaining_next encoded position fields all _ _ _ field
            rfl rfl htail (by omega) field_eq
          refine .ite (fun hmany => .pure fun all => ?_) (fun hfew => ?_)
          · refine iff_of_false (by simp) fun remaining => ?_
            obtain ⟨⟨rest, rfl, -, -⟩, hall⟩ := (hnext all).mp remaining
            rw [length_append] at hall
            omega
          · refine (ih (by omega) (by omega) (by omega)).mono fun parsed hparsed all => ?_
            exact (hparsed all).trans (hnext all).symm
    · refine .pure fun all => ?_
      rw [Option.some.injEq]
      exact (remaining_end (by omega) few).symm

theorem holds_split (encoded : Bytes) : Holds (fun parsed => ∀ fields, parsed = some fields ↔
        lengthPrefixed 4 fields = encoded ∧ Bounded fields) (split encoded) := by
  refine (holds_splitFrom (by omega) (Nat.zero_le _) (Nat.zero_le _)).mono ?_
  intro parsed hparsed fields
  rw [hparsed, remaining_start, Publisher.Crypto.encode_eq]

structure Input.Matches (input : Input) (expected : Expected) : Prop where
  challengeId : input.challengeId = expected.challengeId
  challenge : input.challenge = expected.challenge
  operation : input.operation = expected.operation
  keyFingerprint : input.keyFingerprint = expected.keyFingerprint
  origin : expected.expectedOrigin ≠ [] → input.origin = expected.expectedOrigin
  ownerIdentityId : expected.ownerIdentityId ≠ [] →
    input.ownerIdentityId = expected.ownerIdentityId
  deviceKeyFingerprint : expected.deviceKeyFingerprint ≠ [] →
    input.deviceKeyFingerprint = expected.deviceKeyFingerprint

theorem not_guarded {guard expected found : Bytes} :
    ¬(guard ≠ [] ∧ found ≠ expected) ↔ (guard ≠ [] → found = expected) := by
  rw [not_and, not_not]

theorem checkFields_ok_iff (expected : Expected) (fields : List Bytes) :
    checkFields expected (some fields) = .ok () ↔
      ∃ input : Input, fields = input.fields ∧ input.Matches expected := by
  constructor
  · intro ok
    unfold checkFields at ok
    split at ok
    · rename_i context origin challengeId challenge operation key owner device expiry heq
      cases heq
      simp only [ite_eq_iff, reduceCtorEq, and_false, false_or, not_not, not_guarded, and_true] at ok
      obtain ⟨rfl, horigin, rfl, rfl, rfl, rfl, howner, hdevice, hexpiry⟩ := ok
      have hexpires : expiry = toBeBytes 8 (UInt64.ofNat (fromBeBytes expiry)).toNat := by
        have hlt := fromBeBytes_lt expiry
        rw [hexpiry] at hlt
        change _ < 2 ^ 64 at hlt
        rw [UInt64.toNat_ofNat', Nat.mod_eq_of_lt hlt, ← hexpiry, toBeBytes_fromBeBytes]
      exact ⟨⟨origin, expected.challengeId, expected.challenge, expected.operation,
        expected.keyFingerprint, owner, device, UInt64.ofNat (fromBeBytes expiry)⟩,
        by rw [Input.fields, ← hexpires], ⟨rfl, rfl, rfl, rfl, horigin, howner, hdevice⟩⟩
    · cases ok
  · rintro ⟨input, rfl, matched⟩
    simp only [checkFields, Input.fields, ite_eq_iff, reduceCtorEq, and_false, false_or, not_not,
      not_guarded, and_true, length_toBeBytes, true_and]
    exact ⟨matched.origin, matched.challengeId, matched.challenge, by rw [matched.operation],
      matched.keyFingerprint, matched.ownerIdentityId, matched.deviceKeyFingerprint⟩

/-- No field is so long that its length does not fit 32 bits. -/
def Input.Short (input : Input) : Prop := ∀ field ∈ input.fields, field.length < 2 ^ 32

theorem holds_verifySigningInput (signingInput : Bytes) (expected : Expected) :
    Holds (fun result => result = .ok () ↔
        ∃ input : Input, input.Short ∧ signingInput = input.encode ∧ input.Matches expected)
      (verifySigningInput signingInput expected) := by
  have few : ∀ {input : Input}, input.fields.length ≤ maxFields := by
    simp [Input.fields, maxFields]
  refine (holds_split signingInput).bind ?_
  intro parsed hparsed
  refine .pure ?_
  cases parsed with
  | none =>
    refine iff_of_false nofun ?_
    rintro ⟨input, hshort, rfl, -⟩
    have hsplit := (hparsed input.fields).mpr ⟨(input.encode_eq).symm, few, hshort⟩
    cases hsplit
  | some fields =>
    obtain ⟨hencoded, hfew, hshort⟩ := (hparsed fields).mp rfl
    rw [checkFields_ok_iff]
    constructor
    · rintro ⟨input, rfl, hmatches⟩
      exact ⟨input, hshort, by rw [input.encode_eq, hencoded], hmatches⟩
    · rintro ⟨input, hinput, rfl, hmatches⟩
      have hsplit := (hparsed input.fields).mpr ⟨(input.encode_eq).symm, few, hinput⟩
      exact ⟨input, Option.some.inj hsplit, hmatches⟩

/-- The check never reads outside the bytes and accepts exactly the encodings of inputs with the
expected values; and the server encodes the same values to the same bytes. -/
theorem signs_only_what_it_checked :
    (∀ signingInput expected, Holds (fun result => result = .ok () ↔
        ∃ input : Input, input.Short ∧ signingInput = input.encode ∧ input.Matches expected)
      (verifySigningInput signingInput expected)) ∧
      ∀ input : Crypto.SigningInput, (ofServer input).encode = input.encode :=
  ⟨holds_verifySigningInput, encode_ofServer⟩

def longOrigin : Input :=
  ⟨List.replicate (2 ^ 32) 0, [0x61], [], .registerIdentity, [], [], [], 0⟩

/-- The length of a field of 2 ^ 32 bytes is written as zero, so that its bytes are read as the
fields after it. -/
theorem long_origin_refused : longOrigin.Matches ⟨[0x61], [], .registerIdentity, [], [], [], []⟩ ∧
      (verifySigningInput longOrigin.encode ⟨[0x61], [], .registerIdentity, [], [], [], []⟩).value ≠
        .ok () := by
  refine ⟨⟨rfl, rfl, rfl, rfl, nofun, nofun, nofun⟩, fun ok => ?_⟩
  obtain ⟨input, hshort, heq, hmatches⟩ := (holds_verifySigningInput _ _).2.mp ok
  simp only [Input.encode_eq, Input.fields, lengthPrefixed_cons, hmatches.challengeId] at heq
  have horigin : input.origin.length < 2 ^ 32 := hshort input.origin (by simp [Input.fields])
  obtain ⟨-, hrest⟩ := append_inj heq (by simp)
  obtain ⟨-, hrest⟩ := append_inj hrest rfl
  obtain ⟨hlength, hrest⟩ := append_inj hrest (by simp)
  have hzero := congrArg fromBeBytes hlength
  have hnone : longOrigin.origin.length = 2 ^ 32 := length_replicate
  rw [fromBeBytes_toBeBytes_mod, fromBeBytes_toBeBytes horigin, hnone] at hzero
  have hempty : input.origin = [] := eq_nil_of_length_eq_zero hzero.symm
  rw [hempty, nil_append] at hrest
  have hzeros : longOrigin.origin = [0, 0, 0, 0] ++ List.replicate (2 ^ 32 - 4) 0 := by
    change (List.replicate (4 + (2 ^ 32 - 4)) 0 : Bytes) = _
    rw [replicate_add]
    rfl
  rw [hzeros, append_assoc] at hrest
  obtain ⟨hfour, -⟩ := append_inj hrest (by simp)
  exact absurd hfour (by decide)

end Hypeterm.Android.SigningInput
