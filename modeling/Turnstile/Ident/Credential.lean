import Turnstile.Ident.Segment

/-!
# Credentials

A credential is the non-empty key a caller presents. It names its status-cache
entry (`apikey:` followed by the key) and, when it is a valid segment, the
subject whose reads are counted. Its redacted form shows at most the first
four characters.
-/

namespace Turnstile

/-- A non-empty API key. -/
structure Credential where
  text : String
  text_ne : text ≠ ""

namespace Credential

/-- A present, non-empty key; anything else is a missing credential. -/
def parse : Option String → Except CoreError Credential
  | some s => if h : s = "" then .error .credentialMissing else .ok ⟨s, h⟩
  | none => .error .credentialMissing

/-- The status-cache key of this credential. -/
def statusKey (c : Credential) : String := "apikey:" ++ c.text

/-- The subject this credential names, if it is a valid segment. -/
def subject (c : Credential) : Except CoreError Segment := Segment.parse c.text

/-- The first four characters followed by an ellipsis. -/
def redacted (c : Credential) : String :=
  "Credential(" ++ String.ofList (c.text.toList.take 4) ++ "…)"

end Credential

end Turnstile
