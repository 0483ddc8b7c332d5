import Turnstile.Script.Steps.Service

/-!
# Sessions

A session opens a backend (the memory stores, the memory stores seen only
through their common interface, a durable store, or a durable store in a
file that can be reopened), sets the wall clock to its start, and runs its
steps in order. Every step answers; a step that halts the service answers
with the halt, and the steps after it do not run.
-/

namespace Turnstile.Script

/-- The answer of one step on the world. -/
def step (req : Json) : Run Answer :=
  match present? req "do" with
  | some (.string name) =>
    match kvAndCounterStep name req <|> recordAndBlobStep name req <|> memoryStep name req <|>
        accessStep name req <|> meterStep name req <|> drainStep name req <|>
        hostStep name req <|> serviceStep name req with
    | some r => r
    | none => pure (.refused ("unknown step " ++ name))
  | some _ => pure (.refused "field do must be a string")
  | none => pure (.refused "missing field do")

/-- The answers of steps run in order, up to and including a halt. -/
def runSteps : List Json → World → List Answer
  | [], _ => []
  | s :: rest, w =>
    match (ExceptT.run (step s)).run w with
    | (.error h, _) => [.halt h.reason]
    | (.ok a, w') => a :: runSteps rest w'

/-- The flavor of backend a name asks for. -/
def flavorOf : String → Option Flavor
  | "memory" => some .memory
  | "in_memory" => some .shared
  | "sqlite" => some .durable
  | "sqlite_file" => some .durableFile
  | _ => none

/-- `session`: the answers of a session's steps. -/
def sessionOp (req : Json) : Answer := ofDecoded do
  let flavor ← match present? req "backend" with
    | none => pure Flavor.memory
    | some (.string name) =>
      match flavorOf name with
      | some f => pure f
      | none => throw "backend must be memory or sqlite"
    | some _ => throw "backend must be memory or sqlite"
  let start ← (optional req "start" asInstant).map (·.getD Instant.fixed)
  let steps ← match ← need req "steps" with
    | .array items => pure items
    | _ => throw "field steps must be a list"
  pure (.transcript ((runSteps steps (World.fresh flavor start)).map Answer.toJson))

end Turnstile.Script
