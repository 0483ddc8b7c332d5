import Turnstile.Script.Answer
import Turnstile.Script.Field
import Turnstile.Ident.Credential
import Turnstile.Ident.CounterKey
import Turnstile.Ident.DetailPath

/-!
# Requests about identifiers, credentials and counter keys

Each request reads its fields, runs one operation of the basic vocabulary and
answers with its result or its `CoreError`.
-/

namespace Turnstile.Script

/-- A failure of the basic vocabulary as an answer. -/
def coreFailure (e : CoreError) : Answer :=
  .fail ("CoreError::" ++ e.variant) e.message

/-- The answer of a computation that may fail in the basic vocabulary. -/
def ofCore {α : Type} (f : α → Json) : Except CoreError α → Answer
  | .ok a => .ok (f a)
  | .error e => coreFailure e

/-- The answer of a decoded request, or its refusal. -/
def ofDecoded : Decoded Answer → Answer
  | .ok a => a
  | .error msg => .refused msg

/-- The role a segment plays: it names a subject or a resource. -/
inductive Role where
  | subject
  | resource

/-- The role's name in structural text. -/
def Role.typeName : Role → String
  | .subject => "SubjectId"
  | .resource => "ResourceId"

/-- Reads the `kind` field. -/
def readRole (req : Json) : Decoded Role := do
  match ← needString req "kind" with
  | "subject" => pure .subject
  | "resource" => pure .resource
  | _ => throw "kind must be subject or resource"

/-- The views of a credential. -/
def credentialView (c : Credential) : Json :=
  .object [("as_str", .string c.text), ("debug", .string c.redacted),
    ("status_key", .string c.statusKey),
    ("subject", (ofCore (fun g => .string g.text) c.subject).toJson)]

/-- `credential`: parse a raw key. -/
def credentialOp (req : Json) : Answer := ofDecoded do
  let raw ← optional req "raw" asString
  pure (ofCore credentialView (Credential.parse raw))

/-- `identifier`: validate a segment in a role. -/
def identifierOp (req : Json) : Answer := ofDecoded do
  let role ← readRole req
  let value ← needString req "value"
  pure <| ofCore (fun g => .object [("display", .string g.text),
      ("debug", .string (role.typeName ++ "(" ++ g.text ++ ")")),
      ("json", .string (Json.quote g.text))]) (Segment.parse value)

/-- The counter key of two segment texts, resource checked first. -/
def keyOf (resource subject : String) : Except CoreError CounterKey := do
  let r ← Segment.parse resource
  let s ← Segment.parse subject
  pure ⟨r, s⟩

/-- `key_encode`: the text of a counter key. -/
def keyEncodeOp (req : Json) : Answer := ofDecoded do
  let r ← needString req "resource"
  let s ← needString req "subject"
  pure <| ofCore (fun k => .object [("encoded", .string k.encode),
      ("display", .string k.encode), ("debug", .string ("CounterKey(" ++ k.encode ++ ")"))])
    (keyOf r s)

/-- `key_decode`: the pair named by a key text. -/
def keyDecodeOp (req : Json) : Answer := ofDecoded do
  let key ← needString req "key"
  pure <| ofCore (fun k => .object [("resource", .string k.resource.text),
      ("subject", .string k.subject.text), ("reencoded", .string k.encode)])
    (CounterKey.decode key)

/-- `detail_resource`: the resource a path reads, if any. -/
def detailResourceOp (req : Json) : Answer := ofDecoded do
  let path ← needString req "path"
  let root ← needString req "prefix"
  pure (.ok (Json.opt (fun g => .string g.text) (detailResource path root)))

/-- `fixture_counter_key`: the key of two segments that must be valid. -/
def fixtureKeyOp (req : Json) : Answer := ofDecoded do
  let r ← needString req "resource"
  let s ← needString req "subject"
  pure <| match Segment.parse r with
    | .error e => .halt ("valid resource id: " ++ e.structural)
    | .ok rg =>
      match Segment.parse s with
      | .error e => .halt ("valid subject id: " ++ e.structural)
      | .ok sg => .ok (.string (CounterKey.encode ⟨rg, sg⟩))

end Turnstile.Script
