import Turnstile.Store.Backend
import Turnstile.Access.Error

/-!
# The address blocklist

The blocklist keeps abusive client addresses out. The system of record holds
the blocked addresses; the key-value store caches each block found there
under `blocked-ip:` and the address, for the blocklist's lifetime.

An address is blocked when a live cache entry says so, or else when the
system of record says so (and then the entry is cached). A cache that cannot
be reached is passed over, and a record lookup that fails lets the address
through. Blocking records the address at the present wall-clock moment and
then caches it; only a failure of the system of record is reported. Screening
an address that reached an unknown route blocks it unless it is blocked
already, and says which of the two happened.
-/

namespace Turnstile

/-- The blocklist, with the lifetime of cached blocks in seconds. -/
structure Blocklist where
  lifetime : Nat := 3600
  deriving DecidableEq, Repr, Inhabited

/-- What screening an address did. -/
inductive Verdict where
  | alreadyBlocked
  | newlyBlocked
  deriving DecidableEq, Repr

/-- The name of a verdict. -/
def Verdict.name : Verdict → String
  | .alreadyBlocked => "AlreadyBlocked"
  | .newlyBlocked => "NewlyBlocked"

namespace Blocklist

open StoreOp

/-- The cache key of an address. -/
def cacheKey (address : String) : String := "blocked-ip:" ++ address

/-- Caches a block for the blocklist's lifetime, ignoring a failure. -/
def remember (bl : Blocklist) (address : String) : StoreOp Unit := do
  let _ ← kvSet (cacheKey address) "blocked" (some (bl.lifetime * 1000))
  pure ()

/-- Whether an address is blocked. -/
def isBlocked (bl : Blocklist) (address : String) : StoreOp Bool := do
  if let .ok true ← kvExists (cacheKey address) then return true
  match ← isAddressBlocked address with
  | .ok true =>
    bl.remember address
    pure true
  | _ => pure false

/-- Blocks an address at a moment. -/
def block (bl : Blocklist) (address : String) (now : Instant) : StoreOp (Except AuthError Unit) := do
  match ← recordBlocked address now with
  | .error e => pure (.error (.blocklistUpdate e))
  | .ok () =>
    bl.remember address
    pure (.ok ())

/-- Blocks an address unless it is blocked already. -/
def screen (bl : Blocklist) (address : String) (now : Instant) :
    StoreOp (Except AuthError Verdict) := do
  if ← bl.isBlocked address then return .ok .alreadyBlocked
  match ← bl.block address now with
  | .error e => pure (.error e)
  | .ok () => pure (.ok .newlyBlocked)

end Blocklist

end Turnstile
