import Turnstile.Script.Ops.Wire
import Turnstile.Archive.Batch

/-!
# Requests about instants, archive batches and object names

Instants in requests are RFC 3339 texts or whole seconds since the epoch.
-/

namespace Turnstile.Script

/-- An instant given as RFC 3339 text or as seconds since the epoch. -/
def asInstant (name : String) : Json → Decoded Instant
  | .string s =>
    match Instant.ofRfc3339 s with
    | .ok t => pure t
    | .error f => throw ("bad time " ++ name ++ ": " ++ f.text)
  | v => do
    let secs ← asInt name v
    match Instant.ofUnix secs with
    | some t => pure t
    | none => throw ("bad time " ++ name ++ ": out of range")

/-- A required instant field. -/
def needInstant (j : Json) (name : String) : Decoded Instant := need j name >>= asInstant name

/-- A segment that must be valid, or the answer that reports why not. -/
def segmentOr (s : String) : Except Answer Segment :=
  (Segment.parse s).mapError coreFailure

/-- The view of an archive entry. -/
def entryView (e : Archive.Entry) : Json :=
  .object [("resource", .string e.resource.text), ("access_count", .nat e.count),
    ("last_synced", .string e.lastSynced.text)]

/-- `archive_object_name`: the object name of a subject's batch. -/
def archiveNameOp (req : Json) : Answer := ofDecoded do
  let subject ← needString req "subject"
  let at_ ← needInstant req "at"
  let attempt ← needWord req "attempt"
  if attempt ≥ Nat.pow 2 32 then throw "attempt must fit u32"
  pure <| match segmentOr subject with
    | .error a => a
    | .ok g => .ok (.string (Naming.archiveObject g at_ attempt))

/-- `app_log_object_name`: the object name of a shipped log file. -/
def logNameOp (req : Json) : Answer := ofDecoded do
  let name ← needString req "file_name"
  let at_ ← needInstant req "at"
  pure (.ok (.string (Naming.logObject name at_)))

/-- One requested entry: its resource text, count and optional instant. -/
def readEntry (j : Json) : Decoded (String × Nat × Option Instant) := do
  let r ← needString j "resource"
  let c ← needWord j "count"
  let t ← optional j "at" asInstant
  pure (r, c, t)

/-- `batch`: a batch built from entries, with its name, body and total. -/
def batchOp (req : Json) : Answer := ofDecoded do
  let subject ← needString req "subject"
  let drainedAt ← needInstant req "drained_at"
  let entries ← match ← need req "entries" with
    | .array items => items.mapM readEntry
    | _ => throw "field entries must be a list"
  let attempt ← (optional req "attempt" asWord).map (·.getD 0)
  if attempt ≥ Nat.pow 2 32 then throw "attempt must fit u32"
  pure <| match build subject drainedAt entries with
    | .error a => a
    | .ok b =>
      match b.total? with
      | none => .halt "attempt to add with overflow"
      | some total =>
        .ok (.object [("is_empty", .bool b.entries.isEmpty), ("object_name", .string (b.objectName attempt)),
          ("body", .string b.body), ("total_count", .nat total)])
where
  /-- The batch, or the answer for its first invalid identifier. -/
  build (subject : String) (drainedAt : Instant) (entries : List (String × Nat × Option Instant)) :
      Except Answer Archive.Batch := do
    let g ← segmentOr subject
    entries.foldlM (fun b (r, c, t) => do
      let rg ← segmentOr r
      pure (b.push ⟨rg, c, t.getD drainedAt⟩)) (Archive.Batch.empty g drainedAt)

/-- `parse_entries`: the entries of an archive body, and the body written again. -/
def parseEntriesOp (req : Json) : Answer := ofDecoded do
  let body ← needString req "body"
  pure <| match Archive.parseBody body with
    | .ok es => .ok (.object [("entries", .array (es.map entryView)),
        ("reserialized", .string (Archive.bodyText es))])
    | .error e => coreFailure (.decoding e.message)

end Turnstile.Script
