import Turnstile.Text.Quoted

/-!
# Errors of the basic vocabulary

`CoreError` collects what can go wrong with the service's basic values: a
missing credential, an identifier that is empty or holds a `/`, a counter key
outside the metered namespace, and wire text that cannot be written or read.
`CoreError.message` is the one place where their wording lives; identifiers
and keys inside a message are quoted with `Text.quote`.
-/

namespace Turnstile

/-- Why a text is not a valid identifier. -/
inductive SegmentFault where
  | empty
  | containsSlash
  deriving DecidableEq, Repr

/-- The reason as it is written in messages. -/
def SegmentFault.text : SegmentFault → String
  | .empty => "empty"
  | .containsSlash => "contains '/'"

/-- Why a text is not a counter key. -/
inductive KeyFault where
  | segmentCount
  | outsideNamespace
  | missingResourceTag
  | missingSubjectTag
  | emptyResource
  | emptySubject
  deriving DecidableEq, Repr

/-- The reason as it is written in messages. -/
def KeyFault.text : KeyFault → String
  | .segmentCount => "expected 4 '/'-separated segments"
  | .outsideNamespace => "outside the counter namespace"
  | .missingResourceTag => "missing 'news:' segment"
  | .missingSubjectTag => "missing 'user:' segment"
  | .emptyResource => "empty resource id"
  | .emptySubject => "empty subject id"

/-- A failure of the basic vocabulary. -/
inductive CoreError where
  | credentialMissing
  | invalidIdentifier (value : String) (fault : SegmentFault)
  | malformedKey (key : String) (fault : KeyFault)
  | encoding (detail : String)
  | decoding (detail : String)
  deriving DecidableEq, Repr

namespace CoreError

/-- The human-readable message. -/
def message : CoreError → String
  | .credentialMissing => "credential missing"
  | .invalidIdentifier v f => "invalid identifier " ++ Text.quote v ++ ": " ++ f.text
  | .malformedKey k f => "malformed counter key " ++ Text.quote k ++ ": " ++ f.text
  | .encoding d => "encoding error: " ++ d
  | .decoding d => "decoding error: " ++ d

/-- The name of the case, as reported next to the message. -/
def variant : CoreError → String
  | .credentialMissing => "CredentialMissing"
  | .invalidIdentifier .. => "InvalidIdentifier"
  | .malformedKey .. => "MalformedKey"
  | .encoding _ => "Encoding"
  | .decoding _ => "Decoding"

/-- The structural form used when a failure stops the service: the case with its fields. -/
def structural : CoreError → String
  | .credentialMissing => "CredentialMissing"
  | .invalidIdentifier v f =>
    "InvalidIdentifier \x7b value: " ++ Text.quote v ++ ", reason: " ++ Text.quote f.text ++ " \x7d"
  | .malformedKey k f =>
    "MalformedKey \x7b key: " ++ Text.quote k ++ ", reason: " ++ Text.quote f.text ++ " \x7d"
  | .encoding d => "Encoding(" ++ Text.quote d ++ ")"
  | .decoding d => "Decoding(" ++ Text.quote d ++ ")"

end CoreError

end Turnstile
