import Turnstile.Store.Backend
import Turnstile.Meter.Error
import Turnstile.Files.Tree
import Turnstile.Archive.Naming

/-!
# Log shipping

Shipping copies a log file into a bucket of the blob store, under a name made
of the file's name and the wall-clock moment (`Naming.logObject`), as plain
text. The file's name is the last component of its path; a path that ends in
`..`, or has no component at all (`.`, the empty path), has none, and cannot
be shipped. A missing file ships nothing. A name already taken in the bucket
fails, like every other store failure.
-/

namespace Turnstile

/-- The content type of shipped logs. -/
def logContentType : String := "text/plain"

/-- The last component of a path, unless it is `..` or there is none. -/
def fileName? (path : String) : Option String :=
  match (FileTree.components path).getLast? with
  | some ".." => none
  | some c => some c
  | none => none

/-- Whether a path is relative and names a parent (`..`) at most in its last component. -/
def isShippable (path : String) : Bool :=
  !path.startsWith "/" && !(FileTree.components path).dropLast.contains ".."

/-- Ships a file of a tree to a bucket at a moment: the object name, or none for a missing
file. -/
def shipFile (tree : FileTree) (path bucket : String) (now : Instant) :
    StoreOp (Except MeterError (Option String)) := do
  match fileName? path with
  | none => pure (.error (.logFileName path))
  | some name =>
    match tree.read path with
    | .error .notFound => pure (.ok none)
    | .error e => pure (.error (.io e))
    | .ok body =>
      let obj := Naming.logObject name now
      match ← StoreOp.putObject bucket obj ⟨logContentType, body⟩ with
      | .ok () => pure (.ok (some obj))
      | .error e => pure (.error (.store e))

end Turnstile
