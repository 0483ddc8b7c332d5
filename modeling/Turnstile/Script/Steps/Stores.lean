import Turnstile.Script.Ops.Archive
import Turnstile.Service.World
import Turnstile.Meter.Error

/-!
# Session steps on the stores

A session step reads its fields, runs on the session's world and answers with
a value, a failure of the service, or a refusal that leaves the world as it
was. The steps here work on the stores directly: the key-value store, the
counters and leases, the system of record and the blob store. The steps that
inspect the memory stores or switch their faults refuse other backends.
-/

namespace Turnstile.Script

open StoreOp World

/-- A store failure as an answer. -/
def storeFailure (e : StoreError) : Answer := .fail ("StoreError::" ++ e.variant) e.message

/-- An access-control failure as an answer. -/
def authFailure (e : AuthError) : Answer := .fail ("AuthError::" ++ e.variant) e.message

/-- A metering failure as an answer. -/
def meterFailure (e : MeterError) : Answer := .fail ("MeterError::" ++ e.variant) e.message

/-- The answer of a store result. -/
def ofStore {α : Type} (f : α → Json) : Except StoreError α → Answer
  | .ok a => .ok (f a)
  | .error e => storeFailure e

/-- Runs a step on decoded fields, or refuses it without changing anything. -/
def decoding {α : Type} (d : Decoded α) (k : α → Run Answer) : Run Answer :=
  match d with
  | .ok a => k a
  | .error m => pure (.refused m)

/-- Runs a step only on the plain memory backend. -/
def memoryOnly (k : Run Answer) : Run Answer := do
  if (← get).flavor = .memory then k else pure (.refused "step needs the memory backend")

/-- The store role a `store` field names, among those given. -/
def readStore (req : Json) (roles : List (String × StoreRole)) (refusal : String) :
    Decoded StoreRole := do
  let name ← needString req "store"
  match roles.lookup name with
  | some r => pure r
  | none => throw refusal

/-- The view of a stored object. -/
def blobView (bucket name : String) (b : Blob) : Json :=
  .object [("bucket", .string bucket), ("name", .string name),
    ("content_type", .string b.contentType), ("body", .string b.body)]

/-- The objects of a bucket with their content, in name order. -/
def objectsOf (bucket : String) : StoreOp (Except StoreError (List Json)) := do
  match ← listObjects bucket "" with
  | .error e => pure (.error e)
  | .ok names =>
    names.foldlM (fun acc name => do
      match acc with
      | .error e => pure (.error e)
      | .ok views =>
        match ← getObject bucket name with
        | .error e => pure (.error e)
        | .ok none => pure (.ok views)
        | .ok (some b) => pure (.ok (views ++ [.object [("name", .string name),
            ("content_type", .string b.contentType), ("body", .string b.body)]]))) (.ok [])

/-- Steps on the key-value store, the counters and leases. -/
def kvAndCounterStep (name : String) (req : Json) : Option (Run Answer) :=
  match name with
  | "kv_get" => some <| decoding (needString req "key") fun key => do
    pure (ofStore (Json.opt .string) (← onStores (kvGet key)))
  | "kv_set" => some <| decoding (do
      pure (← needString req "key", ← needString req "value", ← optional req "ttl_ms" asWord))
    fun (key, value, ttl) => do pure (ofStore (fun _ => .null) (← onStores (kvSet key value ttl)))
  | "kv_exists" => some <| decoding (needString req "key") fun key => do
    pure (ofStore .bool (← onStores (kvExists key)))
  | "ping" => some <| decoding (readStore req
      [("kv", .kv), ("counters", .counters), ("blobs", .blobs)] "store must be kv, counters or blobs")
    fun r => do pure (ofStore (fun _ => .null) (← onStores (ping r)))
  | "incr" => some <| decoding (do pure (← needString req "key", ← needWord req "delta"))
    fun (key, delta) => do pure (ofStore .nat (← onStores (incr key delta)))
  | "peek" => some <| decoding (needString req "key") fun key => do
    pure (ofStore (Json.opt .nat) (← onStores (peek key)))
  | "scan" => some <| decoding (needString req "prefix") fun p => do
    pure (ofStore (fun ks => .array (ks.map .string)) (← onStores (scan p)))
  | "get_del" => some <| decoding (needString req "key") fun key => do
    pure (ofStore (Json.opt .nat) (← onStores (getDel key)))
  | "lease_acquire" => some <| decoding (do
      pure (← needString req "name", ← needString req "holder", ← needWord req "ttl_ms"))
    fun (n, h, ttl) => do pure (ofStore .bool (← onStores (acquire n (.named h) ttl)))
  | "lease_release" => some <| decoding (do
      pure (← needString req "name", ← needString req "holder"))
    fun (n, h) => do pure (ofStore .bool (← onStores (release n (.named h))))
  | _ => none

/-- Steps on the system of record and the blob store. -/
def recordAndBlobStep (name : String) (req : Json) : Option (Run Answer) :=
  match name with
  | "insert_subject" => some do
    if (← get).flavor = .shared then return .refused "insert_subject needs a typed store"
    decoding (do
        pure (← needString req "credential", ← need req "document" >>= asObject "document"))
      fun (c, doc) => do
        onStores (insertSubject c doc)
        pure (.ok .null)
  | "fetch_subject" => some <| decoding (needString req "credential") fun c => do
    pure (ofStore (Json.opt id) (← onStores (fetchSubject c)))
  | "is_address_blocked" => some <| decoding (needString req "address") fun a => do
    pure (ofStore .bool (← onStores (isAddressBlocked a)))
  | "record_blocked" => some <| decoding (do
      pure (← needString req "address", ← optional req "at" asInstant))
    fun (a, t) => do
      let t := t.getD (← get).wall
      pure (ofStore (fun _ => .null) (← onStores (recordBlocked a t)))
  | "ensure_bucket" => some <| decoding (needString req "bucket") fun b => do
    pure (ofStore .bool (← onStores (ensureBucket b)))
  | "put_object" => some <| decoding (do
      pure (← needString req "bucket", ← needString req "name", ← needString req "body",
        ← optional req "content_type" asString))
    fun (b, n, body, ct) => do
      pure (ofStore (fun _ => .null)
        (← onStores (putObject b n ⟨ct.getD archiveContentType, body⟩)))
  | "get_object" => some <| decoding (do pure (← needString req "bucket", ← needString req "name"))
    fun (b, n) => do pure (ofStore (Json.opt (blobView b n)) (← onStores (getObject b n)))
  | "list_objects" => some <| decoding (do
      pure (← needString req "bucket", ← needString req "prefix"))
    fun (b, p) => do pure (ofStore (fun ns => .array (ns.map .string)) (← onStores (listObjects b p)))
  | "objects" => some <| decoding (needString req "bucket") fun b => do
    pure (ofStore .array (← onStores (objectsOf b)))
  | _ => none

/-- The world with the backend's fault switches changed. -/
def setFaults (f : Faults → Faults) : Run Unit :=
  modify fun w => { w with backend := { w.backend with faults := f w.backend.faults } }

/-- A list with an element put in or taken out. -/
def toggled {α : Type} [DecidableEq α] (xs : List α) (x : α) (on : Bool) : List α :=
  if on then (if xs.contains x then xs else xs ++ [x]) else xs.filter (· != x)

/-- The total of the counts in archive entries, halting when it leaves the unsigned 64-bit
range. -/
def entriesTotal (entries : List Archive.Entry) : Except Halt Nat :=
  entries.foldlM (fun acc e =>
    if acc + e.count > wordMax then .error .sumOverflow else .ok (acc + e.count)) 0

/-- The archived objects of a bucket, each with its parsed entries; a body that does not
parse halts the service. -/
def archivedIn (bucket : String) : Run (List (String × List Archive.Entry)) := do
  let objs := ((← get).backend.blobs.objects bucket).entries
  objs.mapM fun (name, blob) =>
    match Archive.parseBody blob.body with
    | .ok es => pure (name, es)
    | .error f => throw (.unmet "archive body is valid" (CoreError.decoding f.message).structural)

/-- The segment of a fixture id, halting when it is not valid. -/
def fixtureSegment (what text : String) : Run Segment :=
  match Segment.parse text with
  | .ok g => pure g
  | .error e => throw (.unmet ("valid " ++ what ++ " id") e.structural)

/-- Steps that inspect the memory stores or switch their faults. -/
def memoryStep (name : String) (req : Json) : Option (Run Answer) :=
  match name with
  | "fault" => some <| memoryOnly <| decoding (do
      let r ← readStore req [("kv", .kv), ("counters", .counters), ("records", .records),
        ("blobs", .blobs)] "store must be kv, counters, records or blobs"
      pure (r, ← needBool req "down"))
    fun (r, down) => do
      setFaults fun f => { f with down := toggled f.down r down }
      pure (.ok .null)
  | "fail_increments" => some <| memoryOnly <| decoding (needBool req "on") fun on => do
    setFaults fun f => { f with rejectIncrements := on }
    pure (.ok .null)
  | "fail_puts" => some <| memoryOnly <| decoding (needBool req "on") fun on => do
    setFaults fun f => { f with rejectPuts := on }
    pure (.ok .null)
  | "fail_op" => some <| memoryOnly <| decoding (do
      let n ← needString req "op"
      let some op := CounterOp.ofName? n | throw "unknown counter operation"
      pure (op, ← needBool req "on"))
    fun (op, on) => do
      setFaults fun f => { f with failing := toggled f.failing op on }
      pure (.ok .null)
  | "snapshot" => some <| memoryOnly do
    let c := (← get).backend.counters
    let counts := if c.poisoned then [] else c.counts.entries
    pure (.ok (.array (counts.map fun (k, c) => .array [.string k, match c with
      | .exact n => .nat n
      | .inexact => .null])))
  | "put_attempts" => some <| memoryOnly do pure (.ok (.nat (← get).backend.blobs.putAttempts))
  | "lookup_count" => some <| memoryOnly do pure (.ok (.nat (← get).backend.records.lookups))
  | "kv_len" => some <| memoryOnly do
    let b := (← get).backend
    pure (.ok (.nat (b.kv.liveCount b.now)))
  | "kv_is_empty" => some <| memoryOnly do
    let b := (← get).backend
    pure (.ok (.bool (b.kv.liveCount b.now == 0)))
  | "blocked_at" => some <| memoryOnly <| decoding (needString req "address") fun a => do
    pure (.ok (Json.opt (fun t => .string t.text) ((← get).backend.records.blocked.get? a)))
  | "register" => some <| memoryOnly <| decoding (do
      let c ← needString req "credential"
      let flag ← match present? req "entitled" with
        | none => pure none
        | some (.bool b) => pure (some b)
        | some _ => throw "entitled must be a bool or null"
      pure (c, flag))
    fun (c, flag) => do
      let doc : Json := .object (match flag with
        | some b => [("premium-status", .bool b)]
        | none => [])
      onStores (insertSubject c doc)
      pure (.ok .null)
  | "count" => some <| memoryOnly <| decoding (do
      pure (← needString req "resource", ← needString req "subject"))
    fun (r, s) => do
      let r ← fixtureSegment "resource" r
      let s ← fixtureSegment "subject" s
      let key := CounterKey.encode ⟨r, s⟩
      let c := (← get).backend.counters
      pure (.ok (match c.counts.get? key with
        | some (.exact n) => if c.poisoned then .null else .nat n
        | _ => .null))
  | "archived" => some <| memoryOnly <| decoding (needString req "bucket") fun b => do
    let objs ← archivedIn b
    pure (.ok (.array (objs.map fun (name, es) => .array [.string name, .array (es.map entryView)])))
  | "archived_total" => some <| memoryOnly <| decoding (needString req "bucket") fun b => do
    let objs ← archivedIn b
    match entriesTotal (objs.flatMap (·.2)) with
    | .ok t => pure (.ok (.nat t))
    | .error h => throw h
  | _ => none

end Turnstile.Script
