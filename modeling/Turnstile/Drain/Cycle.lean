import Turnstile.Drain.Report
import Turnstile.Meter.Error
import Turnstile.Store.Backend
import Turnstile.Archive.Batch
import Turnstile.Ident.CounterKey
import Turnstile.Service.Config

/-!
# Drain cycles

A drainer moves the counts of the counter namespace into archive objects, one
object per subject and cycle. A cycle runs only when the counter store
answers and the drainer takes its lease; it gives the lease up at the end,
whatever happened.

Within a cycle the keys of the namespace are taken in ascending order. A key
that does not decode is quarantined: its count is removed and added under
`quarantine:` and the key; when that addition fails the count goes back under
the key (and is lost if that fails too). A decodable key is removed and its
positive count becomes an entry of its subject's batch, stamped with the
moment of the cycle; an empty count or a failed removal is only counted.

Batches are uploaded in ascending subject order, under the first free name of
attempts 0 to 99. A batch whose upload fails is put back, entry by entry,
into its counter keys.

Sums of units are unsigned 64-bit words: a sum that leaves the range halts
the service, after the removals and uploads already made.
-/

namespace Turnstile

/-- A drainer: its settings and the holder it takes its lease as. -/
structure Drainer where
  settings : DrainSettings
  holder : Holder
  deriving DecidableEq, Repr

/-- The content type of archive objects. -/
def archiveContentType : String := "application/json"

/-- The tag in front of a quarantined key. -/
def quarantineTag : String := "quarantine:"

/-- The sum of two unsigned 64-bit words, halting when it leaves the range. -/
def wordSum (a b : Nat) : StoreOp Nat :=
  if a + b > wordMax then throw .sumOverflow else pure (a + b)

namespace Drainer

open StoreOp Archive

/-- Adds a count taken from a malformed key under its quarantine key, and gives the units
moved; when that fails the count goes back under the key. -/
def moveToQuarantine (raw : String) (c : Nat) : StoreOp Nat := do
  match ← incr (quarantineTag ++ raw) c with
  | .ok _ => pure c
  | .error _ =>
    let _ ← incr raw c
    pure 0

/-- Moves the count of a malformed key under its quarantine key, and gives the units moved. -/
def quarantine (raw : String) : StoreOp Nat := do
  match ← getDel raw with
  | .ok (some c) => if c = 0 then pure 0 else moveToQuarantine raw c
  | _ => pure 0

/-- Batches by subject text, with an entry added to the batch of a key's subject. -/
def addEntry (batches : Table Batch) (key : CounterKey) (count : Nat) (now : Instant) :
    Table Batch :=
  let b := (batches.get? key.subject.text).getD (Batch.empty key.subject now)
  batches.insert key.subject.text (b.push ⟨key.resource, count, now⟩)

/-- Drains one scanned key into the report and the batches. -/
def drainKey (now : Instant) (acc : DrainReport × Table Batch) (raw : String) :
    StoreOp (DrainReport × Table Batch) := do
  let (r, batches) := acc
  match CounterKey.decode raw with
  | .error _ =>
    let q ← quarantine raw
    let units ← wordSum r.unitsQuarantined q
    pure ({ r with malformedKeys := r.malformedKeys + 1, unitsQuarantined := units }, batches)
  | .ok key =>
    match ← getDel raw with
    | .ok (some c) =>
      if c = 0 then pure ({ r with emptyKeys := r.emptyKeys + 1 }, batches)
      else
        let units ← wordSum r.unitsDrained c
        pure ({ r with keysDrained := r.keysDrained + 1, unitsDrained := units },
          addEntry batches key c now)
    | .ok none => pure ({ r with emptyKeys := r.emptyKeys + 1 }, batches)
    | .error _ => pure ({ r with readFailures := r.readFailures + 1 }, batches)

/-- Uploads a batch under the first free name, trying `left` more attempts from `attempt`. -/
def uploadFrom (d : Drainer) (b : Batch) : Nat → Nat → StoreOp (Except MeterError String)
  | 0, _ => pure (.error (.nameExhausted (b.objectName 0)))
  | left + 1, attempt => do
    let name := b.objectName attempt
    match ← putObject d.settings.bucket name ⟨archiveContentType, b.body⟩ with
    | .ok () => pure (.ok name)
    | .error (.objectExists _ _) => d.uploadFrom b left (attempt + 1)
    | .error e => pure (.error (.store e))

/-- Uploads a batch under the first free name of attempts 0 to 99. -/
def upload (d : Drainer) (b : Batch) : StoreOp (Except MeterError String) :=
  d.uploadFrom b 100 0

/-- Puts one entry of a batch back into its counter key. -/
def restoreEntry (b : Batch) (r : DrainReport) (e : Entry) : StoreOp DrainReport := do
  match ← incr (CounterKey.encode ⟨e.resource, b.subject⟩) e.count with
  | .ok _ => pure r
  | .error _ => pure { r with restoreFailures := r.restoreFailures + 1 }

/-- Puts a batch back into its counter keys. -/
def restore (b : Batch) (r : DrainReport) : StoreOp DrainReport := do
  let r ← b.entries.foldlM (restoreEntry b) r
  pure { r with batchesRestored := r.batchesRestored + 1 }

/-- Counts a batch stored under a name into the report. -/
def tally (r : DrainReport) (b : Batch) (name : String) : StoreOp DrainReport := do
  let total ← match b.total? with
    | some t => pure t
    | none => throw .sumOverflow
  let units ← wordSum r.unitsArchived total
  pure { r with unitsArchived := units, objects := r.objects ++ [name] }

/-- Uploads a batch, or puts it back when the upload fails. -/
def archive (d : Drainer) (r : DrainReport) (b : Batch) : StoreOp DrainReport := do
  match ← d.upload b with
  | .ok name => tally r b name
  | .error _ => restore b r

/-- Drains the namespace: scans, drains key by key, then archives batch by batch. -/
def drainNamespace (d : Drainer) (now : Instant) : StoreOp DrainReport := do
  match ← scan CounterKey.namespaceText with
  | .error _ => pure {}
  | .ok keys =>
    let (r, batches) ← keys.foldlM (drainKey now) ({ keysScanned := keys.length }, {})
    batches.entries.foldlM (fun r e => d.archive r e.2) r

/-- One drain cycle at a wall-clock moment. -/
def cycle (d : Drainer) (now : Instant) : StoreOp DrainReport := do
  if (← ping .counters) matches .error _ then return .skip .storeUnreachable
  match ← acquire d.settings.leaseName d.holder (d.settings.leaseTtl * 1000) with
  | .error _ => pure (.skip .storeUnreachable)
  | .ok false => pure (.skip .leaseHeld)
  | .ok true =>
    let r ← d.drainNamespace now
    let _ ← release d.settings.leaseName d.holder
    pure r

/-- Takes the drainer's lease. -/
def acquireLease (d : Drainer) : StoreOp (Except MeterError Bool) := do
  pure ((← acquire d.settings.leaseName d.holder (d.settings.leaseTtl * 1000)).mapError .store)

/-- Gives the drainer's lease up. -/
def releaseLease (d : Drainer) : StoreOp (Except MeterError Bool) := do
  pure ((← release d.settings.leaseName d.holder).mapError .store)

end Drainer

end Turnstile
