/-!
# File-system failures

`IoError` is what reading or opening a file can fail with, worded as the
operating system words it, with its error number.
-/

namespace Turnstile

/-- A failed file-system operation. -/
inductive IoError where
  | notFound
  | isDirectory
  | notDirectory
  deriving DecidableEq, Repr, Inhabited

/-- The operating system's wording. -/
def IoError.message : IoError → String
  | .notFound => "No such file or directory (os error 2)"
  | .isDirectory => "Is a directory (os error 21)"
  | .notDirectory => "Not a directory (os error 20)"

end Turnstile
