import Turnstile.Store.Table
import Turnstile.Json.Value
import Turnstile.Time.Instant

/-!
# The system of record

The system of record keeps a document for each registered credential and the
set of blocked client addresses, each with the moment it was first blocked;
a later block of the same address keeps that first moment. It also counts
how many times a document was looked up.

A document is a JSON object. Its entitlement is the `premium-status` field
when that field is a boolean.
-/

namespace Turnstile

/-- The entitlement a document states, if its `premium-status` field is a boolean. -/
def entitlementOf (doc : Json) : Option Bool :=
  match doc.field? "premium-status" with
  | some (.bool b) => some b
  | _ => none

/-- Documents by credential, blocked addresses, and the number of lookups so far. -/
structure Records where
  subjects : Table Json := {}
  blocked : Table Instant := {}
  lookups : Nat := 0
  deriving Inhabited

namespace Records

/-- The records with an address blocked at a moment, unless it is blocked already. -/
def block (r : Records) (address : String) (at_ : Instant) : Records :=
  if r.blocked.contains address then r else { r with blocked := r.blocked.insert address at_ }

/-- Blocking keeps the moment of the first block. -/
theorem block_get_of_contains (r : Records) (address : String) (at_ : Instant)
    (h : r.blocked.contains address = true) : (r.block address at_).blocked = r.blocked := by
  simp [block, h]

end Records

end Turnstile
