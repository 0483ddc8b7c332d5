import Turnstile.Script.Ops.Archive
import Turnstile.Script.Ops.Request
import Turnstile.Script.Ops.Host
import Turnstile.Script.Session

/-!
# Answering a request

`Script.respond` reads the `op` field of a request and hands the request to
the operation it names.
-/

namespace Turnstile.Script

/-- `status_to_json`: the wire text of a status. -/
def statusToTextOp (req : Json) : Answer := ofDecoded do
  let e ← needBool req "exists"
  let p ← needBool req "entitled"
  pure (.ok (.string (Status.toText ⟨e, p⟩)))

/-- `entitlement`: the entitlement flag of a subject document, if it is a boolean. -/
def entitlementOp (req : Json) : Answer := ofDecoded do
  let doc ← need req "document" >>= asObject "document"
  pure <| .ok <| match doc.field? "premium-status" with
    | some (.bool b) => .bool b
    | _ => .null

/-- The answer to one request. -/
def respond (req : Json) : Answer :=
  match present? req "op" with
  | some (.string op) =>
    match op with
    | "credential" => credentialOp req
    | "identifier" => identifierOp req
    | "key_encode" => keyEncodeOp req
    | "key_decode" => keyDecodeOp req
    | "detail_resource" => detailResourceOp req
    | "fixture_counter_key" => fixtureKeyOp req
    | "status_to_json" => statusToTextOp req
    | "entitlement" => entitlementOp req
    | "identifier_from_json" => identifierFromTextOp req
    | "status_from_json" => statusFromTextOp req
    | "config" => configOp req
    | "config_build" => configBuildOp req
    | "archive_object_name" => archiveNameOp req
    | "app_log_object_name" => logNameOp req
    | "batch" => batchOp req
    | "parse_entries" => parseEntriesOp req
    | "request" => requestOp req
    | "config_load" => configLoadOp req
    | "init_tracing" => initTracingOp req
    | "testkit_generate" => generateOp req
    | "fixed_instant" => .ok (.string Instant.fixed.text)
    | "session" => sessionOp req
    | other => .refused ("unknown op " ++ other)
  | _ => .refused "missing field op"

end Turnstile.Script
