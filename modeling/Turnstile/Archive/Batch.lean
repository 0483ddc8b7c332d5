import Turnstile.Archive.Entry
import Turnstile.Archive.Naming

/-!
# Archive batches

A batch collects the entries drained for one subject in one drain cycle, in
the order they were drained. Its object name comes from the subject and the
drain time, its body is the entries' body text, and its total is the sum of
the counts, which must fit an unsigned 64-bit word.
-/

namespace Turnstile.Archive

/-- The entries drained for one subject in one cycle. -/
structure Batch where
  subject : Segment
  drainedAt : Instant
  entries : List Entry

namespace Batch

/-- A batch with no entries yet. -/
def empty (subject : Segment) (drainedAt : Instant) : Batch := ⟨subject, drainedAt, []⟩

/-- The batch with one more entry at the end. -/
def push (b : Batch) (e : Entry) : Batch := { b with entries := b.entries ++ [e] }

/-- The object name of the batch for an upload attempt. -/
def objectName (b : Batch) (attempt : Nat) : String :=
  Naming.archiveObject b.subject b.drainedAt attempt

/-- The body text of the batch. -/
def body (b : Batch) : String := bodyText b.entries

/-- The sum of counts, added from the first entry on, or `none` when a partial sum leaves
the unsigned 64-bit range. -/
def total? (b : Batch) : Option Nat :=
  b.entries.foldlM (fun acc e => if acc + e.count < wordBound then some (acc + e.count) else none) 0

end Batch

end Turnstile.Archive
