import Turnstile.Store.Table

/-!
# Buckets of objects

The blob store keeps buckets, and in each bucket objects by name. An object
has a content type and a body. Objects are written once: a name that is
taken cannot be written again, and writing needs its bucket. The store also
counts every attempted write, failed ones included.
-/

namespace Turnstile

/-- A stored object: its content type and body. -/
structure Blob where
  contentType : String
  body : String
  deriving DecidableEq, Repr

/-- Buckets by name, each with its objects by name, and the number of attempted writes. -/
structure Blobs where
  buckets : Table (Table Blob) := {}
  putAttempts : Nat := 0
  deriving Inhabited

namespace Blobs

/-- The objects of a bucket, none when the bucket is missing. -/
def objects (b : Blobs) (bucket : String) : Table Blob :=
  (b.buckets.get? bucket).getD {}

/-- The store with a bucket, created if missing, and whether it was created. -/
def ensure (b : Blobs) (bucket : String) : Blobs × Bool :=
  if b.buckets.contains bucket then (b, false)
  else ({ b with buckets := b.buckets.insert bucket {} }, true)

/-- The store with an object added to an existing bucket. -/
def add (b : Blobs) (bucket name : String) (blob : Blob) : Blobs :=
  { b with buckets := b.buckets.modify bucket (·.insert name blob) }

end Blobs

end Turnstile
