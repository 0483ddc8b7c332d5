import Turnstile.Store.Backend
import Turnstile.Access.Error
import Turnstile.Ident.Credential
import Turnstile.Status

/-!
# The authorization gate

The gate answers whether a credential names a registered subject and whether
that subject is entitled. It is a cache-aside layer over the system of
record: a live cached status under the credential's status key is the answer
as it stands; otherwise the document is fetched and resolved, and the result
is cached for the gate's lifetime. A cached text that does not read as a
status, or a cache that cannot be reached, counts as a miss, and a failed
cache write is ignored. A failed fetch is reported and nothing is cached.

Resolving a document: no document means an unknown subject; a document means
a registered one, entitled when its entitlement flag says so.
-/

namespace Turnstile

/-- The status a fetched document stands for. -/
def resolveDocument : Option Json → Status
  | none => .unknown
  | some doc => .ofRegistered ((entitlementOf doc).getD false)

/-- The gate, with the lifetime of cached statuses in seconds. -/
structure Gate where
  lifetime : Nat := 86400
  deriving DecidableEq, Repr, Inhabited

/-- What the status cache holds for a credential. -/
inductive CacheLookup where
  | hit (s : Status)
  | miss
  deriving DecidableEq, Repr

namespace Gate

open StoreOp

/-- The cached status of a credential; unreadable values and cache failures are misses. -/
def cached (c : Credential) : StoreOp CacheLookup := do
  match ← kvGet c.statusKey with
  | .ok (some raw) =>
    match Status.ofText raw with
    | .ok s => pure (.hit s)
    | .error _ => pure .miss
  | _ => pure .miss

/-- Caches a status for the gate's lifetime. -/
def remember (g : Gate) (c : Credential) (s : Status) : StoreOp (Except AuthError Unit) := do
  let r ← kvSet c.statusKey s.toText (some (g.lifetime * 1000))
  pure (r.mapError .cacheWrite)

/-- The status of a credential: cached, or fetched, resolved and cached. -/
def authorizeCredential (g : Gate) (c : Credential) : StoreOp (Except AuthError Status) := do
  if let .hit s ← cached c then return .ok s
  match ← fetchSubject c.text with
  | .error e => pure (.error (.lookupFailed e))
  | .ok doc =>
    let s := resolveDocument doc
    let _ ← g.remember c s
    pure (.ok s)

/-- The status of a presented key; a missing or empty key is refused before any store call. -/
def authorize (g : Gate) (raw : Option String) : StoreOp (Except AuthError Status) :=
  match Credential.parse raw with
  | .error _ => pure (.error .credentialMissing)
  | .ok c => g.authorizeCredential c

end Gate

end Turnstile
