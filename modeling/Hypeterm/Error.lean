import Hypeterm.Types

/-! The error envelope every API failure renders. -/
namespace Hypeterm

structure ApiError where
  status : Nat
  code : String
  message : String
  retryAfter : Option Nat := none
  wwwAuthenticate : Option String := none
  deriving DecidableEq

namespace ApiError

def new (status : Nat) (code message : String) : ApiError := { status, code, message }

def invalid (message : String) : ApiError := new 400 "invalid_request" message

def validation (message : String) : ApiError := new 422 "validation_failed" message

def unauthorized (message : String) : ApiError :=
  { new 401 "unauthorized" message with wwwAuthenticate := some "Bearer" }

def insufficientScope (message : String) : ApiError := new 403 "insufficient_scope" message

/-- Ownership failures render as 404 too, so that existence is not revealed. -/
def notFound : ApiError := new 404 "not_found" "Resource not found"

def conflict (message : String) : ApiError := new 409 "conflict" message

def rateLimited (retryAfter : Nat) : ApiError :=
  { new 429 "rate_limited" "Rate limit exceeded" with retryAfter := some retryAfter }

def limitExceeded (message : String) : ApiError := new 409 "limit_exceeded" message

def idempotencyKeyRequired (message : String) : ApiError :=
  new 400 "idempotency_key_required" message

def publisherUnavailable (message : String) : ApiError :=
  { new 503 "publisher_unavailable" message with retryAfter := some 5 }

def publisherDeclined (message : String) : ApiError := new 502 "publisher_declined" message

def publisherTimeout (message : String) : ApiError := new 504 "publisher_timeout" message

def internal (message : String) : ApiError := new 500 "internal_error" message

def storageUnavailable (message : String) : ApiError := new 503 "storage_unavailable" message

def withCode (error : ApiError) (code : String) : ApiError := { error with code }

end ApiError

theorem bind_eq_ok {α β : Type} {first : Except ApiError α} {rest : α → Except ApiError β} {b : β} :
    (first >>= rest) = .ok b ↔ ∃ a, first = .ok a ∧ rest a = .ok b := by
  cases first with
  | error e => simp [bind, Except.bind]
  | ok a => simp [bind, Except.bind]

end Hypeterm
