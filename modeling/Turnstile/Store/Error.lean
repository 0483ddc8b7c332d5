/-!
# Store failures

`StoreError` is what a store operation can fail with: a database failure with
its own text, an unavailable store, an object name already taken, a missing
bucket, stored data that cannot be used, or in-process state left unusable by
an operation that halted halfway. `StoreError.message` holds their wording.
-/

namespace Turnstile

/-- A failed store operation. -/
inductive StoreError where
  | database (detail : String)
  | unavailable (detail : String)
  | serialization (detail : String)
  | objectExists (bucket name : String)
  | bucketNotFound (bucket : String)
  | invalidData (detail : String)
  | poisoned (detail : String)
  deriving DecidableEq, Repr, Inhabited

namespace StoreError

/-- The human-readable message. -/
def message : StoreError → String
  | .database d => "database error: " ++ d
  | .unavailable d => "store unavailable: " ++ d
  | .serialization d => "serialization error: " ++ d
  | .objectExists b n => "object already exists: " ++ b ++ "/" ++ n
  | .bucketNotFound b => "bucket not found: " ++ b
  | .invalidData d => "invalid data: " ++ d
  | .poisoned d => "lock poisoned: " ++ d

/-- The name of the case. -/
def variant : StoreError → String
  | .database _ => "Database"
  | .unavailable _ => "Unavailable"
  | .serialization _ => "Serialization"
  | .objectExists .. => "ObjectExists"
  | .bucketNotFound _ => "BucketNotFound"
  | .invalidData _ => "InvalidData"
  | .poisoned _ => "Poisoned"

end StoreError

end Turnstile
