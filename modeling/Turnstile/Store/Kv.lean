import Turnstile.Store.Table

/-!
# Expiring text values

The key-value store keeps a text under a key, with an optional moment after
which the entry no longer counts. Moments are whole milliseconds on the
clock the store reads. An entry is live while its expiry lies strictly after
the present moment; a lapsed entry stays stored but cannot be read, and a
write replaces it.
-/

namespace Turnstile

/-- A stored text and the moment it lapses, if it does. -/
structure KvEntry where
  value : String
  expiresAt : Option Nat
  deriving DecidableEq, Repr

/-- Whether an entry still counts at a moment. -/
def KvEntry.isLive (e : KvEntry) (now : Nat) : Bool :=
  match e.expiresAt with
  | none => true
  | some t => now < t

/-- Texts by key, each with its expiry. -/
structure Kv where
  entries : Table KvEntry := {}
  deriving Inhabited

namespace Kv

/-- The live text under a key. -/
def lookup (kv : Kv) (now : Nat) (key : String) : Option String :=
  match kv.entries.get? key with
  | some e => if e.isLive now then some e.value else none
  | none => none

/-- The store with a text written under a key, lapsing at the given moment. -/
def put (kv : Kv) (key value : String) (expiresAt : Option Nat) : Kv :=
  ⟨kv.entries.insert key ⟨value, expiresAt⟩⟩

/-- How many entries are live. -/
def liveCount (kv : Kv) (now : Nat) : Nat :=
  (kv.entries.entries.filter fun e => e.2.isLive now).length

/-- A text just written is read back while it is live. -/
theorem lookup_put_self (kv : Kv) (now : Nat) (key value : String) (t : Option Nat) :
    (kv.put key value t).lookup now key = if (KvEntry.mk value t).isLive now then some value
      else none := by
  simp [lookup, put]

end Kv

end Turnstile
