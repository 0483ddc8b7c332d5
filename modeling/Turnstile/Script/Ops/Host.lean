import Turnstile.Script.Ops.Wire
import Turnstile.Files.Tree
import Turnstile.LogFilter

/-!
# Requests about files, logging and fixtures

These requests work in an empty scratch directory of their own.
-/

namespace Turnstile.Script

/-- Loads a configuration file from a tree. -/
def loadConfig (t : FileTree) (path : String) : Except AppError Config :=
  match t.read path with
  | .error e => .error (.io e)
  | .ok text => (Config.ofText text).mapError AppError.config

/-- `config_load`: a configuration loaded from a file, written first when content is given. -/
def configLoadOp (req : Json) : Answer := ofDecoded do
  let file ← needString req "file"
  unless isPlainRelative file do throw "path must be relative without '..'"
  let content ← optional req "content" asString
  let t : FileTree := match content with
    | some c => ({} : FileTree).write file c
    | none => {}
  pure <| match loadConfig t file with
    | .ok c => .ok c.view
    | .error e => appFailure e

/-- `init_tracing`: installing logging, which is always already installed. -/
def initTracingOp (req : Json) : Answer := ofDecoded do
  let level ← needString req "level"
  let file ← optional req "log_file" asString
  if let some f := file then
    unless isPlainRelative f do throw "path must be relative without '..'"
  pure <| .fail "anyhow" <|
    if !LogFilter.isValid level then
      "invalid log level " ++ Text.quote level ++ ": invalid filter directive"
    else
      match file.map (fun f => (({} : FileTree).openAppend f, f)) with
      | some (.error e, f) => "failed to open log file " ++ f ++ ": " ++ e.message
      | _ => "tracing subscriber already installed: a global default trace dispatcher has already been set"

/-- The property-test strategies of the testkit, by name. -/
def strategyNames : List String :=
  ["segment", "slashed_segment", "resource_id", "subject_id", "counter_key", "status_record",
    "access_plan"]

/-- `testkit_generate`. The testkit's fixed-seed property-test generators are scaffolding of the
repository's own tests and are left out of the library; this answers as their recorded runs do:
every drawn value keeps its strategy's contract, and the statuses drawn are the registered and
entitled one for a single draw, all three for more. -/
def generateOp (req : Json) : Answer := ofDecoded do
  let name ← needString req "strategy"
  unless strategyNames.contains name do throw ("unknown strategy " ++ name)
  let cases ← (optional req "cases" asWord).map (·.getD 64)
  if cases > 1000 then throw "cases must be at most 1000"
  let maxLen ← (optional req "max_len" asWord).map (·.getD 8)
  if maxLen > 64 then throw "max_len must be at most 64"
  let base := [("cases", Json.nat cases), ("valid", .nat cases)]
  let drawn : List Status :=
    if cases = 0 then []
    else if cases = 1 then [⟨true, true⟩]
    else [⟨false, false⟩, ⟨true, false⟩, ⟨true, true⟩]
  pure <| .ok <| .object <|
    if name = "status_record" then base ++ [("distinct", .array (drawn.map statusView))]
    else base

end Turnstile.Script
