import Turnstile.Json.Value

/-!
# Drain reports

A drain cycle reports what it did: how many counter keys it scanned, drained,
quarantined as malformed, found empty or failed to read; how many units it
drained, archived and quarantined; the objects it uploaded; the batches it
put back after a failed upload and the units it could not put back. A cycle
that did not run reports only why: the counter store was unreachable, the
lease was held by another drainer, or a cycle of the same drainer was
already running.
-/

namespace Turnstile

/-- Why a drain cycle did not run. -/
inductive SkipReason where
  | storeUnreachable
  | leaseHeld
  | cycleInProgress
  deriving DecidableEq, Repr

/-- The name of a reason. -/
def SkipReason.name : SkipReason → String
  | .storeUnreachable => "StoreUnreachable"
  | .leaseHeld => "LeaseHeld"
  | .cycleInProgress => "CycleInProgress"

/-- What one drain cycle did. -/
structure DrainReport where
  skipped : Option SkipReason := none
  keysScanned : Nat := 0
  keysDrained : Nat := 0
  malformedKeys : Nat := 0
  unitsQuarantined : Nat := 0
  emptyKeys : Nat := 0
  readFailures : Nat := 0
  unitsDrained : Nat := 0
  unitsArchived : Nat := 0
  objects : List String := []
  batchesRestored : Nat := 0
  restoreFailures : Nat := 0
  deriving DecidableEq, Repr, Inhabited

namespace DrainReport

/-- The report of a cycle that did not run. -/
def skip (r : SkipReason) : DrainReport := { skipped := some r }

/-- How many batches were uploaded. -/
def batchesUploaded (r : DrainReport) : Nat := r.objects.length

/-- The JSON view of a report. -/
def view (r : DrainReport) : Json :=
  .object [
    ("skipped", Json.opt (fun s => .string s.name) r.skipped),
    ("keys_scanned", .nat r.keysScanned), ("keys_drained", .nat r.keysDrained),
    ("malformed_keys", .nat r.malformedKeys), ("units_quarantined", .nat r.unitsQuarantined),
    ("empty_keys", .nat r.emptyKeys), ("read_failures", .nat r.readFailures),
    ("units_drained", .nat r.unitsDrained), ("units_archived", .nat r.unitsArchived),
    ("objects", .array (r.objects.map .string)), ("batches_uploaded", .nat r.batchesUploaded),
    ("batches_restored", .nat r.batchesRestored), ("restore_failures", .nat r.restoreFailures)]

end DrainReport

end Turnstile
