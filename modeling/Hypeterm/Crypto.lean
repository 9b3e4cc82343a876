import Hypeterm.Error
import Hypeterm.Settings.Value
import Hypeterm.Util

/-! Public keys, their fingerprints, and what a challenge signature covers.  Both texts are
sequences of length-prefixed fields and start with a context of their own. -/
namespace Hypeterm.Crypto

open Library
open Util

def identityFingerprintContext : String := "terminal-relay-identity-v1"

def challengeSignatureContext : String := "terminal-relay-challenge-v1"

structure PublicKey where
  algorithm : String
  bytes : Bytes

def algorithmEd25519 : String := "ed25519"

def asciiLower (text : String) : String := text.map Char.toLower

/-- What comes from the cryptographic libraries. -/
structure Primitives where
  sha256 : Bytes → Bytes
  /-- Whether 32 bytes are a point of the curve. -/
  validPoint : Bytes → Bool
  verifyStrict : (key message signature : Bytes) → Bool

def PublicKey.parse (primitives : Primitives) (algorithm encoded : String)
    (supported : List String) : Except ApiError PublicKey :=
  let algorithm := asciiLower (String.ofList (Settings.trim algorithm.toList))
  let unsupported := ApiError.new 422 "unsupported_algorithm"
    s!"unsupported key algorithm: {algorithm}"
  if supported.all fun name => asciiLower name ≠ algorithm then .error unsupported
  else
    match b64Decode encoded with
    | none => .error (.invalid "public_key must be base64url-encoded")
    | some bytes =>
        if algorithm ≠ algorithmEd25519 then .error unsupported
        else if bytes.length ≠ 32 then
          .error (.validation s!"ed25519 public keys must be 32 bytes, got {bytes.length}")
        else if primitives.validPoint bytes then .ok ⟨algorithm, bytes⟩
        else .error (.validation "not a valid ed25519 public key")

def PublicKey.verify (primitives : Primitives) (key : PublicKey) (message signature : Bytes) :
    Bool :=
  key.algorithm = algorithmEd25519 && key.bytes.length = 32 && primitives.validPoint key.bytes &&
    signature.length = 64 && primitives.verifyStrict key.bytes message signature

def PublicKey.fingerprintInput (key : PublicKey) : Bytes :=
  (((LengthPrefixed.new.fieldStr identityFingerprintContext).fieldStr key.algorithm).field
    key.bytes).finish

def PublicKey.fingerprint (primitives : Primitives) (key : PublicKey) : String :=
  b64Encode (primitives.sha256 key.fingerprintInput)

inductive Operation where
  | registerIdentity
  | authenticateIdentity
  | registerDevice
  | authenticateDevice
  deriving DecidableEq

def Operation.asStr : Operation → String
  | registerIdentity => "register_identity"
  | authenticateIdentity => "authenticate_identity"
  | registerDevice => "register_device"
  | authenticateDevice => "authenticate_device"

def Operation.parse : String → Option Operation
  | "register_identity" => some registerIdentity
  | "authenticate_identity" => some authenticateIdentity
  | "register_device" => some registerDevice
  | "authenticate_device" => some authenticateDevice
  | _ => none

theorem Operation.parse_asStr (operation : Operation) :
    Operation.parse operation.asStr = some operation := by
  cases operation <;> rfl

/-- Everything bound into a challenge signature.  The last two texts are empty for an
operation that is not about a device. -/
structure SigningInput where
  origin : String
  challengeId : String
  challenge : Bytes
  operation : Operation
  keyFingerprint : String
  ownerIdentityId : String
  deviceKeyFingerprint : String
  expiresAtUnixMs : UInt64
  deriving DecidableEq

namespace SigningInput

def encode (input : SigningInput) : Bytes :=
  (((((((((LengthPrefixed.new.fieldStr challengeSignatureContext).fieldStr input.origin).fieldStr
    input.challengeId).field input.challenge).fieldStr input.operation.asStr).fieldStr
      input.keyFingerprint).fieldStr input.ownerIdentityId).fieldStr
        input.deviceKeyFingerprint).fieldU64 input.expiresAtUnixMs).finish

def fields (input : SigningInput) : List Bytes :=
  [utf8Bytes challengeSignatureContext, utf8Bytes input.origin, utf8Bytes input.challengeId,
    input.challenge, utf8Bytes input.operation.asStr, utf8Bytes input.keyFingerprint,
    utf8Bytes input.ownerIdentityId, utf8Bytes input.deviceKeyFingerprint,
    toBeBytes 8 input.expiresAtUnixMs.toNat]

theorem encode_eq (input : SigningInput) : input.encode = lengthPrefixed 4 input.fields :=
  LengthPrefixed.finish_foldl LengthPrefixed.new input.fields

theorem fields_inj {input other : SigningInput} (eq : input.fields = other.fields) :
    input = other := by
  simp only [fields, List.cons.injEq, and_true, true_and] at eq
  obtain ⟨horigin, hid, hchallenge, hoperation, hkey, howner, hdevice, hexpires⟩ := eq
  have hoperation' := congrArg Operation.parse (utf8Bytes_injective hoperation)
  rw [Operation.parse_asStr, Operation.parse_asStr, Option.some_inj] at hoperation'
  have hfits : ∀ value : UInt64, value.toNat < 256 ^ 8 := fun value => value.toNat_lt
  have hexpires' := UInt64.toNat_inj.mp (toBeBytes_inj (hfits _) (hfits _) hexpires)
  cases input
  cases other
  simp only [mk.injEq]
  exact ⟨utf8Bytes_injective horigin, utf8Bytes_injective hid, hchallenge, hoperation',
    utf8Bytes_injective hkey, utf8Bytes_injective howner, utf8Bytes_injective hdevice, hexpires'⟩

end SigningInput

def Short (fields : List Bytes) : Prop := ∀ field ∈ fields, field.length < 2 ^ 32

instance (fields : List Bytes) : Decidable (Short fields) :=
  inferInstanceAs (Decidable (∀ field ∈ fields, field.length < 2 ^ 32))

theorem PublicKey.fingerprintInput_eq (key : PublicKey) : key.fingerprintInput =
    lengthPrefixed 4 [utf8Bytes identityFingerprintContext, utf8Bytes key.algorithm, key.bytes] :=
  LengthPrefixed.finish_foldl LengthPrefixed.new
    [utf8Bytes identityFingerprintContext, utf8Bytes key.algorithm, key.bytes]

theorem fingerprintInput_ne_encode (key : PublicKey) (input : SigningInput) :
    key.fingerprintInput ≠ input.encode := by
  rw [key.fingerprintInput_eq, input.encode_eq, SigningInput.fields, lengthPrefixed_cons,
    lengthPrefixed_cons _ (utf8Bytes challengeSignatureContext)]
  intro heq
  obtain ⟨hlength, -⟩ := List.append_inj heq (by simp)
  exact absurd hlength (by decide)

/-- Equal bytes come from equal fields: of any sequence, of two signing inputs, and never of
a fingerprint and a signing input. -/
theorem length_prefixed_encodings_injective :
    (∀ fields others : List Bytes, Short fields → Short others →
        (fields.foldl LengthPrefixed.field .new).finish =
          (others.foldl LengthPrefixed.field .new).finish → fields = others) ∧
      (∀ input other : SigningInput, Short input.fields → Short other.fields →
        input.encode = other.encode → input = other) ∧
      ∀ (key : PublicKey) (input : SigningInput), key.fingerprintInput ≠ input.encode := by
  have hinj : ∀ fields others : List Bytes, Short fields → Short others →
      lengthPrefixed 4 fields = lengthPrefixed 4 others → fields = others :=
    fun fields others hfields hothers heq =>
      @lengthPrefixed_inj 4 (by decide) fields others hfields hothers heq
  refine ⟨?_, ?_, fingerprintInput_ne_encode⟩
  · intro fields others hfields hothers heq
    rw [LengthPrefixed.finish_foldl, LengthPrefixed.finish_foldl] at heq
    exact hinj fields others hfields hothers heq
  · intro input other hinput hother heq
    rw [input.encode_eq, other.encode_eq] at heq
    exact SigningInput.fields_inj (hinj _ _ hinput hother heq)

def sampleInput (origin challengeId : String) : SigningInput :=
  ⟨origin, challengeId, [1, 2], .registerDevice, "key", "owner", "key", 1767225600000⟩

/-- Moving a character over a field boundary changes the bytes. -/
theorem shifted_boundary_differs :
    (([[97, 98], [99]] : List Bytes).foldl LengthPrefixed.field .new).finish ≠
        (([[97], [98, 99]] : List Bytes).foldl LengthPrefixed.field .new).finish ∧
      (sampleInput "https://a" "b").encode ≠ (sampleInput "https://" "ab").encode := by
  constructor
  · intro heq
    have hfields := length_prefixed_encodings_injective.1 _ _ (by decide) (by decide) heq
    exact absurd hfields (by decide)
  · intro heq
    have hinput := length_prefixed_encodings_injective.2.1 _ _ (by decide)
      (by decide) heq
    exact absurd hinput (by decide)

end Hypeterm.Crypto
