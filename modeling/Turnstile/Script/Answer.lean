import Turnstile.Json.Value

/-!
# Answers of the scripted console

The service can be driven by JSON requests, one answer per request. An answer
is a value, a failure the service reports (its kind, its message and, for
failures of the web layer, an HTTP status), a halt of the service with its
reason, a refusal of a request that could not be understood, or the answers of
the steps of a session, one after another.
`Answer.toJson` gives each its JSON shape: `ok`, or `error` with `message`.
-/

namespace Turnstile.Script

/-- What one request produces. -/
inductive Answer where
  | ok (value : Json)
  | failure (kind : String) (message : String) (httpStatus : Option Nat)
  | halt (reason : String)
  | refused (reason : String)
  | transcript (answers : List Json)
  deriving Inhabited

namespace Answer

/-- A reported failure without an HTTP status. -/
def fail (kind message : String) : Answer := .failure kind message none

/-- The JSON shape of an answer. -/
def toJson : Answer → Json
  | .ok v => .object [("ok", v)]
  | .failure kind msg none => .object [("error", .string kind), ("message", .string msg)]
  | .failure kind msg (some st) =>
    .object [("error", .string kind), ("message", .string msg), ("http_status", .nat st)]
  | .halt r => .object [("error", .string "panic"), ("message", .string r)]
  | .refused r => .object [("error", .string "bad_input"), ("message", .string r)]
  | .transcript items => .object [("steps", .array items)]

/-- Whether the service stopped. -/
def isHalt : Answer → Bool
  | .halt _ => true
  | _ => false

end Answer

end Turnstile.Script
