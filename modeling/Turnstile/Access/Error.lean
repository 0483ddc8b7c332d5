import Turnstile.Store.Error
import Turnstile.Ident.Error

/-!
# Access-control failures

`AuthError` is what the gate and the blocklist report: a missing credential, a
failed lookup in the system of record, a failed status-cache write, a failed
blocklist update, or a failure of the basic vocabulary.
-/

namespace Turnstile

/-- A failure of access control. -/
inductive AuthError where
  | credentialMissing
  | lookupFailed (cause : StoreError)
  | cacheWrite (cause : StoreError)
  | blocklistUpdate (cause : StoreError)
  | core (cause : CoreError)
  deriving DecidableEq, Repr, Inhabited

namespace AuthError

/-- The human-readable message, with the cause's message inside. -/
def message : AuthError → String
  | .credentialMissing => "credential missing"
  | .lookupFailed e => "subject record lookup failed: " ++ e.message
  | .cacheWrite e => "status cache write failed: " ++ e.message
  | .blocklistUpdate e => "blocklist update failed: " ++ e.message
  | .core e => "core error: " ++ e.message

/-- The name of the case. -/
def variant : AuthError → String
  | .credentialMissing => "CredentialMissing"
  | .lookupFailed _ => "RecordLookupTransientFailure"
  | .cacheWrite _ => "CacheWrite"
  | .blocklistUpdate _ => "BlocklistUpdate"
  | .core _ => "Core"

end AuthError

end Turnstile
