import Turnstile.Access.Error
import Turnstile.Files.Error

/-!
# Service failures

`AppError` is what the web layer reports, each with the HTTP status it maps
to: a missing credential or an unknown subject is not found (404), a subject
without entitlement is forbidden (403), a lookup outage in the system of
record is unavailable (503), and everything else is an internal error (500).
-/

namespace Turnstile

/-- A failure of the service. -/
inductive AppError where
  | credentialMissing
  | subjectUnknown
  | notEntitled
  | clientAddressMissing
  | auth (cause : AuthError)
  | config (detail : String)
  | io (cause : IoError)
  deriving DecidableEq, Repr, Inhabited

namespace AppError

/-- The human-readable message. -/
def message : AppError → String
  | .credentialMissing => "credential missing"
  | .subjectUnknown => "subject does not exist"
  | .notEntitled => "subject is not entitled"
  | .clientAddressMissing => "client address unavailable"
  | .auth e => "authorization error: " ++ e.message
  | .config d => "invalid configuration: " ++ d
  | .io e => "I/O error: " ++ e.message

/-- The name of the case. -/
def variant : AppError → String
  | .credentialMissing => "CredentialMissing"
  | .subjectUnknown => "SubjectUnknown"
  | .notEntitled => "NotEntitled"
  | .clientAddressMissing => "ClientAddressMissing"
  | .auth _ => "Auth"
  | .config _ => "Config"
  | .io _ => "Io"

/-- The HTTP status of the failure. -/
def httpStatus : AppError → Nat
  | .credentialMissing | .subjectUnknown => 404
  | .notEntitled => 403
  | .auth .credentialMissing => 404
  | .auth (.lookupFailed _) => 503
  | _ => 500

end AppError

end Turnstile
