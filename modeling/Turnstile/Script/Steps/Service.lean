import Turnstile.Script.Steps.Parts
import Turnstile.Script.Ops.Request

/-!
# Session steps on the running service

Steps that start the service from a configuration (a JSON object or its
text), send it requests, call its gate, meter and drainer, and shut it
down. The service runs only on the memory stores; a step that needs it
before it was started is refused.
-/

namespace Turnstile.Script

open StoreOp World

/-- Runs a step with the running service, if there is one. -/
def withApp (k : App → Run Answer) : Run Answer := do
  match (← get).app with
  | some a => k a
  | none => pure (.refused "no app: run app_start first")

/-- The configuration text of a `config` field: the text itself, or an object's text. -/
def configText : Json → Decoded String
  | .string s => pure s
  | v@(.object _) => pure v.render
  | _ => throw "config must be an object or a JSON string"

/-- Starts the service. -/
def startApp (text : String) : Run Answer := do
  match Config.ofText text with
  | .error m => pure (appFailure (.config m))
  | .ok config =>
    let holder ← newHolder
    match ← onStores (App.start config holder) with
    | .error m => pure (.fail "anyhow" m)
    | .ok a =>
      modify fun w => { w with
        stray := w.stray ++ (w.app.map (·.meter.queue)).getD []
        app := some a }
      pure (.ok .null)

/-- Steps of the running service. -/
def serviceStep (name : String) (req : Json) : Option (Run Answer) :=
  match name with
  | "app_start" => some do
    if (← get).flavor.engine ≠ .memory then return .refused "app steps need the memory backend"
    decoding (need req "config" >>= configText) startApp
  | "handle" => some <| withApp fun a => decoding (readRequest req) fun r => do
    let (a, res) ← onStores (a.handle r)
    modify fun w => { w with app := some a }
    pure <| match res with
      | .ok s => .ok (statusView s)
      | .error e => appFailure e
  | "guard_is_blocked" => some <| withApp fun a => decoding (optional req "remote_addr" asString)
    fun peer => do pure (.ok (.bool (← onStores (a.guardBlocked { peer }))))
  | "reject_unknown_route" => some <| withApp fun a => decoding (readRequest req) fun r => do
    pure <| match ← onStores (a.rejectUnknown r (← get).wall) with
      | .ok v => .ok (.string v.name)
      | .error e => appFailure e
  | "app_authorize" => some <| withApp fun a => decoding (optional req "credential" asString)
    fun c => do
      pure <| match ← onStores (a.gate.authorize c) with
        | .ok s => .ok (statusView s)
        | .error e => authFailure e
  | "app_authorize_http" => some <| withApp fun a => decoding (optional req "credential" asString)
    fun c => do
      pure <| match ← onStores (a.gate.authorize c) with
        | .ok s => .ok (statusView s)
        | .error e => appFailure (.auth e)
  | "app_drain" => some <| withApp fun a => do
    pure (.ok (← onStores (a.drainer.cycle (← get).wall)).view)
  | "app_meter_stats" => some <| withApp fun a => pure (.ok (statsView a.meter))
  | "app_shutdown" => some <| withApp fun a => do
    pure (.ok (Json.opt DrainReport.view (← stopApp a)))
  | "app_config" => some <| withApp fun a => pure (.ok a.config.view)
  | "app_ping" => some <| withApp fun _ => do
    pure (ofStore (fun _ => .null) (← onStores (ping .counters)))
  | _ => none

end Turnstile.Script
