import Turnstile.Store.Error
import Turnstile.Ident.Error
import Turnstile.Files.Error

/-!
# Metering failures

`MeterError` is what leases, drains and log shipping report: a store
failure, a failure of the basic vocabulary, a file-system failure, a log path
without a file name, or an archive batch for which every object name was
taken.
-/

namespace Turnstile

/-- A failure of metering, archiving or shipping. -/
inductive MeterError where
  | store (cause : StoreError)
  | core (cause : CoreError)
  | io (cause : IoError)
  | logFileName (path : String)
  | nameExhausted (name : String)
  deriving DecidableEq, Repr, Inhabited

namespace MeterError

/-- The human-readable message, with the cause's message inside. -/
def message : MeterError → String
  | .store e => "store error: " ++ e.message
  | .core e => "core error: " ++ e.message
  | .io e => "I/O error: " ++ e.message
  | .logFileName p => "log path has no file name: " ++ p
  | .nameExhausted n => "no free object name for " ++ n

/-- The name of the case. -/
def variant : MeterError → String
  | .store _ => "Store"
  | .core _ => "Core"
  | .io _ => "Io"
  | .logFileName _ => "LogFileName"
  | .nameExhausted _ => "NameExhausted"

end MeterError

end Turnstile
