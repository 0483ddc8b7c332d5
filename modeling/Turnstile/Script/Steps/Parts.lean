import Turnstile.Script.Steps.Stores

/-!
# Session steps on the parts of the service

Steps that make and use the gate, the blocklist, the meter and named
drainers, move the clocks, ship log files and manage the scratch files. A
step on a part that was not made yet is refused, as is a meter on a backend
other than the memory stores.
-/

namespace Turnstile.Script

open StoreOp World

/-- The view of a meter's tally. -/
def statsView (m : Meter) : Json :=
  .object [("applied", .nat m.applied), ("dropped", .nat m.dropped), ("failed", .nat m.failed)]

/-- Runs a step with the gate, if one was made. -/
def withGate (k : Gate → Run Answer) : Run Answer := do
  match (← get).gate with
  | some g => k g
  | none => pure (.refused "no gate: run gate_new first")

/-- Runs a step with the blocklist, if one was made. -/
def withBlocklist (k : Blocklist → Run Answer) : Run Answer := do
  match (← get).blocklist with
  | some b => k b
  | none => pure (.refused "no blocklist: run blocklist_new first")

/-- Runs a step with the meter, if one was started. -/
def withMeter (k : Meter → Run Answer) : Run Answer := do
  match (← get).meter with
  | some m => k m
  | none => pure (.refused "no meter: run meter_start first")

/-- Runs a step with a named drainer, if it was made. -/
def withDrainer (req : Json) (k : Drainer → Run Answer) : Run Answer :=
  decoding (needString req "name") fun name => do
    match (← get).drainers.lookup name with
    | some d => k d
    | none => pure (.refused ("no drainer " ++ name))

/-- Steps of the gate and the blocklist. -/
def accessStep (name : String) (req : Json) : Option (Run Answer) :=
  match name with
  | "gate_new" => some <| decoding ((optional req "ttl_secs" asWord).map (·.getD 86400)) fun ttl => do
    modify fun w => { w with gate := some ⟨ttl⟩ }
    pure (.ok .null)
  | "authorize" => some <| withGate fun g => decoding (optional req "credential" asString) fun c => do
    pure <| match ← onStores (g.authorize c) with
      | .ok s => .ok (statusView s)
      | .error e => authFailure e
  | "cache_get" => some <| withGate fun _ =>
    decoding (optional req "credential" asString) fun c => do
      match Credential.parse c with
      | .error e => pure (coreFailure e)
      | .ok c =>
        pure <| match ← onStores (Gate.cached c) with
          | .hit s => .ok (.object [("hit", statusView s)])
          | .miss => .ok (.string "miss")
  | "cache_set" => some <| withGate fun g => decoding (do
      pure (← optional req "credential" asString, ← needBool req "exists", ← needBool req "entitled"))
    fun (c, e, p) => do
      match Credential.parse c with
      | .error err => pure (coreFailure err)
      | .ok c =>
        pure <| match ← onStores (g.remember c ⟨e, p⟩) with
          | .ok () => .ok .null
          | .error err => authFailure err
  | "cache_ttl" => some <| withGate fun g => pure (.ok (.nat g.lifetime))
  | "blocklist_new" => some <| decoding ((optional req "cache_ttl_secs" asWord).map (·.getD 3600))
    fun ttl => do
      modify fun w => { w with blocklist := some ⟨ttl⟩ }
      pure (.ok .null)
  | "is_blocked" => some <| withBlocklist fun bl => decoding (needString req "address") fun a => do
    pure (.ok (.bool (← onStores (bl.isBlocked a))))
  | "block" => some <| withBlocklist fun bl => decoding (needString req "address") fun a => do
    pure <| match ← onStores (bl.block a (← get).wall) with
      | .ok () => .ok .null
      | .error e => authFailure e
  | "screen" => some <| withBlocklist fun bl => decoding (needString req "address") fun a => do
    pure <| match ← onStores (bl.screen a (← get).wall) with
      | .ok v => .ok (.string v.name)
      | .error e => authFailure e
  | _ => none

/-- Steps of the standalone meter. -/
def meterStep (name : String) (req : Json) : Option (Run Answer) :=
  match name with
  | "meter_start" => some do
    if (← get).flavor.engine ≠ .memory then return .refused "meter steps need the memory backend"
    decoding (do
        pure (← (optional req "workers" asWord).map (·.getD 4),
          ← (optional req "queue_capacity" asWord).map (·.getD 1024)))
      fun (workers, capacity) => do
        replaceMeter (Meter.start { workers, queueCapacity := capacity })
        pure (.ok .null)
  | "record" => some <| withMeter fun m => decoding (do
      pure (← needString req "resource", ← needString req "subject"))
    fun (r, s) => do
      match Segment.parse r, Segment.parse s with
      | .error e, _ => pure (coreFailure e)
      | _, .error e => pure (coreFailure e)
      | .ok r, .ok s =>
        let (m, d) := m.record ⟨r, s⟩
        modify fun w => { w with meter := some m }
        pure (.ok (.string d.name))
  | "meter_stats" => some <| withMeter fun m => pure (.ok (statsView m))
  | "settle" => some do
    flushAll
    pure (.ok .null)
  | "meter_shutdown" => some <| withMeter fun m => do
    -- a meter already shut down answers at once, without yielding
    if m.closed then return .ok (statsView m)
    flushAll
    match (← get).meter with
    | some m =>
      let m := { m with closed := true }
      modify fun w => { w with meter := some m }
      pure (.ok (statsView m))
    | none => pure (.ok .null)
  | _ => none

/-- Drain settings read from a JSON value as its text would be read; a failure has no
position. -/
def drainSettingsOf (v : Json) : Except String DrainSettings :=
  (Json.Reader.whole DrainSettings.reader v.render).mapError (·.fault.text)

/-- Drain settings with the builder fields of a request applied. -/
def buildDrain (s : DrainSettings) (b : Json) : Decoded DrainSettings := do
  let s ← match ← optional b "interval" asWord with
    | some i => pure { s with interval := i }
    | none => pure s
  let s ← match ← optional b "bucket" asString with
    | some x => pure { s with bucket := x }
    | none => pure s
  let s ← match ← optional b "lease_ttl" asWord with
    | some t => pure { s with leaseTtl := t }
    | none => pure s
  match ← optional b "drain_on_shutdown" asBool with
  | some d => pure { s with drainOnShutdown := d }
  | none => pure s

/-- Steps of named drainers. -/
def drainStep (name : String) (req : Json) : Option (Run Answer) :=
  match name with
  | "drainer_new" => some <| decoding (do
      let n ← needString req "name"
      pure (n, present? req "config", present? req "build"))
    fun (n, config, build) => do
      let base := match config with
        | some v => drainSettingsOf v
        | none => .ok {}
      match base with
      | .error m => pure (.fail "serde" m)
      | .ok s =>
        decoding (match build with
            | some b => buildDrain s b
            | none => pure s)
          fun s => do
            let d : Drainer := ⟨s, ← newHolder⟩
            modify fun w => { w with drainers := (n, d) :: w.drainers.filter (·.1 != n) }
            pure (.ok .null)
  | "drain" => some <| withDrainer req fun d => do
    pure (.ok (← onStores (d.cycle (← get).wall)).view)
  | "drain_concurrent" => some <| withDrainer req fun d => do
    let first ← onStores (d.cycle (← get).wall)
    let second ← if (← get).flavor.engine = .memory then onStores (d.cycle (← get).wall)
      else pure (.skip .cycleInProgress)
    pure (.ok (.array [first.view, second.view]))
  | "drainer_lease" => some <| withDrainer req fun d => decoding (needString req "action") fun a => do
    let op := match a with
      | "acquire" => some d.acquireLease
      | "release" => some d.releaseLease
      | _ => none
    match op with
    | none => pure (.refused "action must be acquire or release")
    | some op =>
      pure <| match ← onStores op with
        | .ok b => .ok (.bool b)
        | .error e => meterFailure e
  | "drainer_config" => some <| withDrainer req fun d => pure (.ok (Config.drainView d.settings))
  | "drainer_lease_name" => some <| withDrainer req fun d => pure (.ok (.string d.settings.leaseName))
  | _ => none

/-- Steps on the clocks, log shipping, the scratch files and reopening the backend. -/
def hostStep (name : String) (req : Json) : Option (Run Answer) :=
  match name with
  | "sleep" => some <| decoding (needWord req "ms") fun ms => do
    sleep ms
    pure (.ok .null)
  | "clock_advance" => some <| decoding (needInt req "secs") fun secs => do
    pure (.ok (.string (← advanceWall secs).text))
  | "clock_set" => some <| decoding (needInstant req "at") fun t => do
    modify fun w => { w with wall := t }
    pure (.ok (.string t.text))
  | "ship" => some <| decoding (do
      let file ← needString req "file"
      unless isShippable file do throw "file must be relative without inner '..'"
      pure (file, ← optional req "content" asString,
        (← optional req "bucket" asString).getD "app-logs"))
    fun (file, content, bucket) => do
      if let some c := content then modify fun w => { w with files := w.files.write file c }
      let answer ← match fileName? file with
        | none => pure (meterFailure (.logFileName file))
        | some _ => do
          flushAll
          let w ← get
          pure <| match ← onStores (shipFile w.files file bucket w.wall) with
            | .ok name => .ok (Json.opt .string name)
            | .error e => meterFailure e
      if content.isSome then modify fun w => { w with files := w.files.remove file }
      pure answer
  | "write_file" => some <| decoding (do
      let p ← needString req "path"
      unless isPlainRelative p do throw "path must be relative without '..'"
      pure (p, ← needString req "content"))
    fun (p, c) => do
      modify fun w => { w with files := w.files.write p c }
      pure (.ok .null)
  | "make_dir" => some <| decoding (do
      let p ← needString req "path"
      unless isPlainRelative p do throw "path must be relative without '..'"
      pure p)
    fun p => do
      modify fun w => { w with files := w.files.makeDirs p }
      pure (.ok .null)
  | "remove_file" => some <| decoding (do
      let p ← needString req "path"
      unless isPlainRelative p do throw "path must be relative without '..'"
      pure p)
    fun p => do
      modify fun w => { w with files := w.files.remove p }
      pure (.ok .null)
  | "reopen" => some do
    if (← get).flavor ≠ .durableFile then return .refused "reopen needs the sqlite_file backend"
    decoding ((optional req "via" asString).map (·.getD "store")) fun via => do
      if via ≠ "store" ∧ via ≠ "backends" then return .refused "via must be store or backends"
      modify fun w => { w with gate := none, blocklist := none, drainers := [] }
      pure (.ok .null)
  | _ => none

end Turnstile.Script
