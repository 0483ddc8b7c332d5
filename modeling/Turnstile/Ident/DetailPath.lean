import Turnstile.Ident.Segment
import Turnstile.Text.Split

/-!
# Detail paths

A request path reads a detail resource when it is the version root followed by
`/detail/` and a non-empty piece before the next `/`; that piece names the
resource.
-/

namespace Turnstile

/-- The resource named by a detail path under `root`, if the path is one. -/
def detailResource (path root : String) : Option Segment := do
  let rest ← Text.dropLead? root.toList path.toList
  let rest ← Text.dropLead? "/detail/".toList rest
  match Segment.parse (String.ofList (rest.takeWhile (· ≠ '/'))) with
  | .ok g => some g
  | .error _ => none

end Turnstile
