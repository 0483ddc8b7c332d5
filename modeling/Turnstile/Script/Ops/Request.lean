import Turnstile.Script.Ops.Ident
import Turnstile.Request

/-!
# Requests about inbound HTTP requests

Reads the description of an inbound request and answers what the service
sees of it.
-/

namespace Turnstile.Script

/-- The inbound request described by the fields `path`, `headers` and `remote_addr`. -/
def readRequest (j : Json) : Decoded Request := do
  let path ← (optional j "path" asString).map (·.getD "")
  let headers ← match present? j "headers" with
    | none => pure []
    | some (.array items) =>
      items.mapM fun
        | .array [.string k, .string v] => pure (k, v)
        | _ => throw "headers must be [name, value] string pairs"
    | some _ => throw "headers must be a list"
  let peer ← optional j "remote_addr" asString
  pure { path, headers, peer }

/-- `request`: the header looked up and the client IP. -/
def requestOp (req : Json) : Answer := ofDecoded do
  let r ← readRequest req
  let name ← needString req "header"
  pure (.ok (.object [("header", Json.opt .string (r.header? name)),
    ("client_ip", Json.opt .string r.clientIp)]))

end Turnstile.Script
