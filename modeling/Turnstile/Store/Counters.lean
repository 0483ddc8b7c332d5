import Turnstile.Store.Table
import Turnstile.Store.Error

/-!
# Counters and leases

The counter store keeps a count under each key and, beside the counts, named
leases: a lease has a holder and a moment at which it lapses. Keys come out
in ascending order, so a scan by prefix is sorted.

Two kinds of arithmetic are in use. Saturating addition stops at the largest
unsigned 64-bit word. Checked addition keeps counts within the signed 64-bit
range: a delta above it is refused before anything is written, and a sum
above it is stored as an inexact number that no later read can turn back into
a count (`Count.inexact`).

A lease can be taken when there is none, when it has lapsed (its moment is
not after the present one), or when the taker already holds it; taking it
sets holder and moment anew. Only the holder can give it up, lapsed or not.

An operation that halts while it changes the counters (a lease whose lapse
cannot be represented) leaves them poisoned: from then on every operation
that reads or writes them fails, and an inspection sees none.
-/

namespace Turnstile

/-- The largest unsigned 64-bit word. -/
def wordMax : Nat := Nat.pow 2 64 - 1

/-- The largest signed 64-bit integer, the bound of checked counts. -/
def signedMax : Nat := Nat.pow 2 63 - 1

/-- A stored count: a whole number, or a number kept only inexactly after an overflow. -/
inductive Count where
  | exact (n : Nat)
  | inexact
  deriving DecidableEq, Repr

/-- Who holds a lease: a party named by text, or a drainer by its serial number. -/
inductive Holder where
  | named (text : String)
  | drainer (serial : Nat)
  deriving DecidableEq, Repr

/-- A lease: its holder and the moment it lapses. -/
structure Lease where
  holder : Holder
  expiresAt : Nat
  deriving DecidableEq, Repr

/-- Counts and leases by key, and whether an operation halted while it was changing them,
which leaves them unusable for good. -/
structure Counters where
  counts : Table Count := {}
  leases : Table Lease := {}
  poisoned : Bool := false
  deriving Inhabited

/-- The failure of reading a count that was stored inexactly. -/
def inexactColumn : StoreError := .database "Invalid column type Real at index: 0, name: value"

/-- A count as a number, failing for an inexact one. -/
def Count.read : Count → Except StoreError Nat
  | .exact n => .ok n
  | .inexact => .error inexactColumn

namespace Counters

/-- The store with a delta added to a key by saturating addition; a missing key starts at 0. -/
def addSaturating (c : Counters) (key : String) (delta : Nat) : Counters × Nat :=
  let n := match c.counts.get? key with
    | some (.exact n) => n
    | _ => 0
  let m := min (n + delta) wordMax
  ({ c with counts := c.counts.insert key (.exact m) }, m)

/-- The store with a delta added to a key by checked addition, and the new count or why
there is none. -/
def addChecked (c : Counters) (key : String) (delta : Nat) : Counters × Except StoreError Nat :=
  if delta > signedMax then
    (c, .error (.invalidData ("count " ++ toString delta ++ " overflows")))
  else
    match c.counts.get? key with
    | none => ({ c with counts := c.counts.insert key (.exact delta) }, .ok delta)
    | some (.exact n) =>
      if n + delta ≤ signedMax then
        ({ c with counts := c.counts.insert key (.exact (n + delta)) }, .ok (n + delta))
      else ({ c with counts := c.counts.insert key .inexact }, .error inexactColumn)
    | some .inexact => (c, .error inexactColumn)

/-- The store without a key, and the count it held. -/
def take (c : Counters) (key : String) : Counters × Option Count :=
  ({ c with counts := c.counts.erase key }, c.counts.get? key)

/-- Whether a holder may take a lease at a moment. -/
def mayLease (c : Counters) (name : String) (holder : Holder) (now : Nat) : Bool :=
  match c.leases.get? name with
  | some l => l.holder == holder || l.expiresAt ≤ now
  | none => true

/-- The store with a lease granted. -/
def grant (c : Counters) (name : String) (holder : Holder) (expiresAt : Nat) : Counters :=
  { c with leases := c.leases.insert name ⟨holder, expiresAt⟩ }

/-- The store with a lease given up by its holder, and whether it was held by them. -/
def release (c : Counters) (name : String) (holder : Holder) : Counters × Bool :=
  match c.leases.get? name with
  | some l =>
    if l.holder = holder then ({ c with leases := c.leases.erase name }, true) else (c, false)
  | none => (c, false)

/-- A saturating increment reads back as the capped sum. -/
theorem addSaturating_get (c : Counters) (key : String) (delta : Nat) :
    (c.addSaturating key delta).1.counts.get? key = some (.exact (c.addSaturating key delta).2) := by
  simp [addSaturating]

end Counters

end Turnstile
