import Turnstile.Store.Kv
import Turnstile.Store.Counters
import Turnstile.Store.Records
import Turnstile.Store.Blobs
import Turnstile.Halt

/-!
# Backends

A backend plays the four store roles of the service: the key-value store of
cached statuses and blocked addresses, the counters with their leases, the
system of record, and the blob store. Its engine is the in-process memory
engine or the durable SQL engine, and the two agree on everything except:

* counts: memory adds with saturation, the durable engine with checks
  (`Counters.addChecked`);
* time: memory lifetimes run on the service's monotonic clock, in
  milliseconds. The durable engine measures them on the machine's wall
  clock, which a run does not move measurably, so its present moment is
  fixed: a lifetime of 0 has lapsed on arrival and any other has not;
* deadlines: memory adds a lifetime to the present moment and halts when the
  sum leaves the range of representable time (whole seconds up to the
  largest signed 64-bit integer, counted from the machine's monotonic origin,
  which a session starts `monotonicStart` after); the durable engine caps it
  instead;
* prefixes: the durable engine measures a prefix up to its first NUL, so a
  prefix that holds NUL matches no key.

Memory stores can also be made to fail on purpose: each store has an outage
switch, increments and uploads can be rejected, and each counter operation
can be made to fail by name. A named failure is checked first, then the
outage, then the rejection of increments or uploads.

`StoreOp` is an operation over a backend: it returns a result or a store
failure, and may halt the service.
-/

namespace Turnstile

/-- The engine that keeps a backend's data. -/
inductive Engine where
  | memory
  | durable
  deriving DecidableEq, Repr, Inhabited

/-- The operations of the counter store, which can be made to fail by name. -/
inductive CounterOp where
  | ping
  | incrBy
  | peek
  | scanPrefix
  | getDel
  | tryAcquireLease
  | releaseLease
  deriving DecidableEq, Repr

namespace CounterOp

/-- The name of an operation. -/
def name : CounterOp → String
  | .ping => "ping"
  | .incrBy => "incr_by"
  | .peek => "peek"
  | .scanPrefix => "scan_prefix"
  | .getDel => "get_del"
  | .tryAcquireLease => "try_acquire_lease"
  | .releaseLease => "release_lease"

/-- Every operation. -/
def all : List CounterOp :=
  [.ping, .incrBy, .peek, .scanPrefix, .getDel, .tryAcquireLease, .releaseLease]

/-- The operation of a name. -/
def ofName? (s : String) : Option CounterOp := all.find? (·.name == s)

end CounterOp

/-- The four store roles. -/
inductive StoreRole where
  | kv
  | counters
  | records
  | blobs
  deriving DecidableEq, Repr

/-- How a store is called when it is down. -/
def StoreRole.title : StoreRole → String
  | .kv => "key-value store"
  | .counters => "counter store"
  | .records => "system of record"
  | .blobs => "blob store"

/-- The switches that make memory stores fail on purpose. -/
structure Faults where
  down : List StoreRole := []
  rejectIncrements : Bool := false
  rejectPuts : Bool := false
  failing : List CounterOp := []
  deriving Inhabited

/-- The stores of a backend, their engine, the monotonic clock in milliseconds and the fault
switches. -/
structure Backend where
  engine : Engine
  clock : Nat := 0
  kv : Kv := {}
  counters : Counters := {}
  records : Records := {}
  blobs : Blobs := {}
  faults : Faults := {}
  deriving Inhabited

/-- An operation over a backend that may halt the service. -/
abbrev StoreOp := ExceptT Halt (StateM Backend)

/-- Halts with the failure of a computation, or goes on with its value. -/
def halting {α : Type} : Except Halt α → StoreOp α
  | .ok a => pure a
  | .error h => throw h

namespace Backend

/-- The present moment of lifetimes. -/
def now (b : Backend) : Nat :=
  match b.engine with
  | .memory => b.clock
  | .durable => 0

/-- How far, in milliseconds, the monotonic clock of a session stands from the machine's
origin when the session starts: the machine has been up for at least a second. -/
def monotonicStart : Nat := 1000

/-- The moment a lifetime in milliseconds ends, counted from the present one. -/
def deadline (b : Backend) (lifetime : Nat) : Except Halt Nat :=
  match b.engine with
  | .memory =>
    if (monotonicStart + b.clock + lifetime) / 1000 > signedMax then .error .deadlineOverflow
    else .ok (b.clock + lifetime)
  | .durable => .ok (min lifetime signedMax)

/-- Whether a key starts with a prefix, as the engine matches prefixes. -/
def matchesPrefix (b : Backend) (pre key : String) : Bool :=
  match b.engine with
  | .memory => pre.toList.isPrefixOf key.toList
  | .durable => !pre.toList.contains '\x00' && pre.toList.isPrefixOf key.toList

/-- Fails when a store is down. -/
def available (b : Backend) (r : StoreRole) : Except StoreError Unit :=
  if b.faults.down.contains r then .error (.unavailable (r.title ++ " is down")) else .ok ()

/-- Fails when a counter operation is made to fail, or the counter store is down. -/
def counterGuard (b : Backend) (op : CounterOp) : Except StoreError Unit :=
  if b.faults.failing.contains op then .error (.unavailable ("scripted failure of " ++ op.name))
  else b.available .counters

/-- Fails when the counters were poisoned; `what` names the part an operation works on. -/
def stateGuard (b : Backend) (what : String) : Except StoreError Unit :=
  if b.counters.poisoned then .error (.poisoned (what ++ ": poisoned lock: another task failed inside"))
  else .ok ()

end Backend

namespace StoreOp

open Backend

/-- Checks that a store is reachable. -/
def ping (r : StoreRole) : StoreOp (Except StoreError Unit) := do
  let b ← get
  pure <| match r with
    | .counters => b.counterGuard .ping
    | _ => b.available r

/-- The live text under a key. -/
def kvGet (key : String) : StoreOp (Except StoreError (Option String)) := do
  let b ← get
  pure do
    b.available .kv
    pure (b.kv.lookup b.now key)

/-- Whether a live text is under a key. -/
def kvExists (key : String) : StoreOp (Except StoreError Bool) := do
  let r ← kvGet key
  pure (r.map Option.isSome)

/-- Writes a text under a key, with a lifetime in milliseconds or none. -/
def kvSet (key value : String) (lifetime : Option Nat) : StoreOp (Except StoreError Unit) := do
  let b ← get
  match b.available .kv with
  | .error e => pure (.error e)
  | .ok () =>
    let expiry ← match lifetime with
      | none => pure none
      | some l => some <$> halting (b.deadline l)
    set { b with kv := b.kv.put key value expiry }
    pure (.ok ())

/-- Adds a delta to a count and gives the new count. -/
def incr (key : String) (delta : Nat) : StoreOp (Except StoreError Nat) := do
  let b ← get
  match b.counterGuard .incrBy with
  | .error e => pure (.error e)
  | .ok () =>
    if b.faults.rejectIncrements then pure (.error (.unavailable "counter increments rejected"))
    else if let .error e := b.stateGuard "counters" then pure (.error e)
    else
      match b.engine with
      | .memory =>
        let (c, n) := b.counters.addSaturating key delta
        set { b with counters := c }
        pure (.ok n)
      | .durable =>
        let (c, r) := b.counters.addChecked key delta
        set { b with counters := c }
        pure r

/-- The count under a key, if any. -/
def peek (key : String) : StoreOp (Except StoreError (Option Nat)) := do
  let b ← get
  pure do
    b.counterGuard .peek
    b.stateGuard "counters"
    match b.counters.counts.get? key with
    | some c => some <$> c.read
    | none => pure none

/-- The keys that start with a prefix, in ascending order. -/
def scan (pre : String) : StoreOp (Except StoreError (List String)) := do
  let b ← get
  pure do
    b.counterGuard .scanPrefix
    b.stateGuard "counters"
    pure (b.counters.counts.keys.filter (b.matchesPrefix pre))

/-- Removes a key and gives the count it held. -/
def getDel (key : String) : StoreOp (Except StoreError (Option Nat)) := do
  let b ← get
  match b.counterGuard .getDel >>= fun _ => b.stateGuard "counters" with
  | .error e => pure (.error e)
  | .ok () =>
    let (c, old) := b.counters.take key
    set { b with counters := c }
    pure <| match old with
      | some n => some <$> n.read
      | none => .ok none

/-- Takes a lease for a lifetime in milliseconds, if the holder may. -/
def acquire (name : String) (holder : Holder) (lifetime : Nat) :
    StoreOp (Except StoreError Bool) := do
  let b ← get
  match b.counterGuard .tryAcquireLease >>= fun _ => b.stateGuard "leases" with
  | .error e => pure (.error e)
  | .ok () =>
    if b.counters.mayLease name holder b.now then
      let t ← match b.deadline lifetime with
        | .ok t => pure t
        | .error h =>
          set { b with counters := { b.counters with poisoned := true } }
          throw h
      set { b with counters := b.counters.grant name holder t }
      pure (.ok true)
    else pure (.ok false)

/-- Gives up a lease, if the holder holds it. -/
def release (name : String) (holder : Holder) : StoreOp (Except StoreError Bool) := do
  let b ← get
  match b.counterGuard .releaseLease >>= fun _ => b.stateGuard "leases" with
  | .error e => pure (.error e)
  | .ok () =>
    let (c, held) := b.counters.release name holder
    set { b with counters := c }
    pure (.ok held)

/-- The document of a credential, counting the lookup. -/
def fetchSubject (credential : String) : StoreOp (Except StoreError (Option Json)) := do
  modify fun b => { b with records := { b.records with lookups := b.records.lookups + 1 } }
  let b ← get
  pure do
    b.available .records
    pure (b.records.subjects.get? credential)

/-- Registers or replaces the document of a credential. -/
def insertSubject (credential : String) (doc : Json) : StoreOp Unit :=
  modify fun b => { b with records := { b.records with
    subjects := b.records.subjects.insert credential doc } }

/-- Whether an address is blocked. -/
def isAddressBlocked (address : String) : StoreOp (Except StoreError Bool) := do
  let b ← get
  pure do
    b.available .records
    pure (b.records.blocked.contains address)

/-- Blocks an address at a moment, keeping an earlier block. -/
def recordBlocked (address : String) (at_ : Instant) : StoreOp (Except StoreError Unit) := do
  let b ← get
  match b.available .records with
  | .error e => pure (.error e)
  | .ok () =>
    set { b with records := b.records.block address at_ }
    pure (.ok ())

/-- Creates a bucket if missing, and tells whether it did. -/
def ensureBucket (bucket : String) : StoreOp (Except StoreError Bool) := do
  let b ← get
  match b.available .blobs with
  | .error e => pure (.error e)
  | .ok () =>
    let (bs, created) := b.blobs.ensure bucket
    set { b with blobs := bs }
    pure (.ok created)

/-- Writes a new object, counting the attempt. -/
def putObject (bucket name : String) (blob : Blob) : StoreOp (Except StoreError Unit) := do
  modify fun b => { b with blobs := { b.blobs with putAttempts := b.blobs.putAttempts + 1 } }
  let b ← get
  let check : Except StoreError Unit := do
    b.available .blobs
    if b.faults.rejectPuts then throw (.unavailable "blob store rejected upload")
    match b.blobs.buckets.get? bucket with
    | none => throw (.bucketNotFound bucket)
    | some objs => if objs.contains name then throw (.objectExists bucket name)
  match check with
  | .error e => pure (.error e)
  | .ok () =>
    set { b with blobs := b.blobs.add bucket name blob }
    pure (.ok ())

/-- The object under a name in a bucket. -/
def getObject (bucket name : String) : StoreOp (Except StoreError (Option Blob)) := do
  let b ← get
  pure do
    b.available .blobs
    pure ((b.blobs.objects bucket).get? name)

/-- The names in a bucket that start with a prefix, in ascending order. -/
def listObjects (bucket pre : String) : StoreOp (Except StoreError (List String)) := do
  let b ← get
  pure do
    b.available .blobs
    pure ((b.blobs.objects bucket).keys.filter (b.matchesPrefix pre))

end StoreOp

end Turnstile
