import Turnstile.Ident.Segment
import Turnstile.Text.Split

/-!
# Counter keys

A counter key names the counter of one (resource, subject) pair inside the
metered namespace: `endpoint:/detail/news:<resource>/user:<subject>`.
`CounterKey.decode` reads a key back. It splits at every `/` and wants exactly
four pieces, then the fixed `endpoint:` and `detail` pieces, then the `news:`
and `user:` tags (each removed once), then non-empty segments, in that order.
Because segments hold no `/`, decoding an encoded key gives the pair back.
-/

namespace Turnstile

/-- The counter of one resource read by one subject. -/
structure CounterKey where
  resource : Segment
  subject : Segment
  deriving DecidableEq

namespace CounterKey

/-- The start shared by every counter key. -/
def namespaceText : String := "endpoint:/detail/news:"

/-- The text of the key. -/
def encode (k : CounterKey) : String :=
  namespaceText ++ k.resource.text ++ "/user:" ++ k.subject.text

/-- The pair named by a key text, or why the text is not a counter key. -/
def decode (key : String) : Except CoreError CounterKey :=
  let fail := fun (f : KeyFault) => Except.error (CoreError.malformedKey key f)
  match Text.splitOn '/' key.toList with
  | [p0, p1, p2, p3] =>
    if p0 ≠ "endpoint:".toList ∨ p1 ≠ "detail".toList then fail .outsideNamespace
    else
      match Text.dropLead? "news:".toList p2 with
      | none => fail .missingResourceTag
      | some r =>
        match Text.dropLead? "user:".toList p3 with
        | none => fail .missingSubjectTag
        | some s =>
          match Segment.parse (String.ofList r) with
          | .error _ => fail .emptyResource
          | .ok resource =>
            match Segment.parse (String.ofList s) with
            | .error _ => fail .emptySubject
            | .ok subject => .ok ⟨resource, subject⟩
  | _ => fail .segmentCount

end CounterKey

end Turnstile
