import Turnstile.Script.Ops.Ident
import Turnstile.Status
import Turnstile.Service.Config
import Turnstile.Service.Error

/-!
# Requests about wire texts and configuration

Reading identifiers, statuses and configurations from JSON text, and building
configurations step by step.
-/

namespace Turnstile.Script

/-- A failure of the service as an answer, with its HTTP status. -/
def appFailure (e : AppError) : Answer :=
  .failure ("AppError::" ++ e.variant) e.message (some e.httpStatus)

/-- `identifier_from_json`: a segment read from JSON text; the failure is the reader's. -/
def identifierFromTextOp (req : Json) : Answer := ofDecoded do
  let _ ← readRole req
  let text ← needString req "json"
  let reader : Json.Reader String := do
    let s ← Json.Reader.string
    match Segment.parse s with
    | .ok g => pure g.text
    | .error e => Json.Reader.failUnplaced e.message
  pure <| match Json.Reader.whole reader text with
    | .ok s => .ok (.string s)
    | .error e => .fail "serde" e.message

/-- The answer to a status request. -/
def statusView (s : Status) : Json :=
  .object [("exists", .bool s.registered), ("entitled", .bool s.entitled)]

/-- `status_from_json`: a status read from its wire text. -/
def statusFromTextOp (req : Json) : Answer := ofDecoded do
  let raw ← needString req "raw"
  pure (ofCore statusView (Status.ofText raw))

/-- `config`: a configuration read from text and checked. -/
def configOp (req : Json) : Answer := ofDecoded do
  let raw ← needString req "raw"
  pure <| match Config.ofText raw with
    | .ok c => .ok c.view
    | .error m => appFailure (.config m)

/-- One builder step applied to a configuration. -/
def buildStep (c : Config) (name : String) (v : Json) : Decoded Config := do
  let word : Decoded Nat := asWord "value" v |>.mapError fun _ => "value must be a non-negative integer"
  let flag : Decoded Bool := asBool "value" v |>.mapError fun _ => "value must be a bool"
  let str : Decoded String := asString "value" v |>.mapError fun _ => "value must be a string"
  match name with
  | "gate_new" => pure { c with gate := {} }
  | "gate_status_ttl" => pure { c with gate.statusTtl := ← word }
  | "gate_version_prefix" => pure { c with gate.versionRoot := ← str }
  | "gate_require_entitlement" => pure { c with gate.requireEntitlement := ← flag }
  | "meter_workers" => pure { c with meter.workers := ← word }
  | "meter_queue_capacity" => pure { c with meter.queueCapacity := ← word }
  | "drain_interval" => pure { c with drain.interval := ← word }
  | "drain_bucket" => pure { c with drain.bucket := ← str }
  | "drain_lease_ttl" => pure { c with drain.leaseTtl := ← word }
  | "drain_on_shutdown" => pure { c with drain.drainOnShutdown := ← flag }
  | "blocklist_cache_ttl" => pure { c with blocklist.cacheTtl := ← word }
  | "log_shipping_enabled_for" => pure { c with shipping := ShippingSettings.enabledFor (← str) }
  | "database" => pure { c with database := some (← str) }
  | other => throw ("unknown builder " ++ other)

/-- Reads the builder steps of a request. -/
def readSteps (req : Json) : Decoded (List (String × Json)) := do
  match present? req "calls" with
  | none => pure []
  | some (.array items) =>
    items.mapM fun
      | .array [.string n, v] => pure (n, v)
      | .array [.string n] => pure (n, .null)
      | _ => throw "calls must be [name, value] pairs"
  | some _ => throw "calls must be a list"

/-- `config_build`: a configuration built from a base by builder steps, and its check. -/
def configBuildOp (req : Json) : Answer := ofDecoded do
  let base ← optional req "base" asString
  let steps ← readSteps req
  match base.map Config.ofText with
  | some (.error m) => pure (appFailure (.config m))
  | some (.ok c) => build c steps
  | none => build {} steps
where
  /-- Applies the steps and reports the result with its check. -/
  build (c : Config) (steps : List (String × Json)) : Decoded Answer := do
    let c ← steps.foldlM (fun c (n, v) => buildStep c n v) c
    pure <| .ok <| .object [("config", c.view),
      ("validate", match c.check with
        | some f => (appFailure (.config f.text)).toJson
        | none => .null)]

end Turnstile.Script
