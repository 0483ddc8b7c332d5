/-!
# JSON documents

`Json` is a JSON document as the service stores and exchanges it: objects keep
their fields in the order given, and a number is an integer mantissa scaled
down by a power of ten, so integers of any size stay exact. `Json.render`
writes the compact text form: no blanks, strings escaped with the short
escapes for quote, backslash and the five usual controls, every other control
as a four-digit lower-case `\u` escape, and all other characters as they are.
-/

namespace Turnstile

/-- A JSON document. -/
inductive Json where
  | null
  | bool (b : Bool)
  | number (mantissa : Int) (decimals : Nat)
  | string (s : String)
  | array (items : List Json)
  | object (fields : List (String × Json))
  deriving Inhabited, Repr

namespace Json

/-- An integer as a JSON number. -/
def int (n : Int) : Json := .number n 0

/-- A natural number as a JSON number. -/
def nat (n : Nat) : Json := .number n 0

/-- An optional value, `null` when absent. -/
def opt {α : Type} (f : α → Json) : Option α → Json
  | some a => f a
  | none => .null

/-- The value of the first field called `name`, if this is an object that has one. -/
def field? (j : Json) (name : String) : Option Json :=
  match j with
  | .object fields => (fields.find? (·.1 == name)).map (·.2)
  | _ => none

/-- How one character is written inside a JSON string. -/
def escapeChar (c : Char) : String :=
  if c = '"' then "\\\""
  else if c = '\\' then "\\\\"
  else if c = '\n' then "\\n"
  else if c = '\r' then "\\r"
  else if c = '\t' then "\\t"
  else if c = '\x08' then "\\b"
  else if c = '\x0c' then "\\f"
  else if c.toNat < 0x20 then
    "\\u00" ++ String.ofList [Nat.digitChar (c.toNat / 16), Nat.digitChar (c.toNat % 16)]
  else c.toString

/-- A string as a JSON string literal. -/
def quote (s : String) : String :=
  "\"" ++ String.join (s.toList.map escapeChar) ++ "\""

/-- The decimal text of `mantissa / 10 ^ decimals`. -/
def numberText (mantissa : Int) (decimals : Nat) : String :=
  if decimals = 0 then toString mantissa
  else
    let digits := toString mantissa.natAbs
    let padded := String.ofList (List.replicate (decimals + 1 - digits.length) '0') ++ digits
    let whole := padded.toList.take (padded.length - decimals)
    let frac := padded.toList.drop (padded.length - decimals)
    (if mantissa < 0 then "-" else "") ++ String.ofList whole ++ "." ++ String.ofList frac

/-- The compact text of a document. -/
def render : Json → String
  | .null => "null"
  | .bool true => "true"
  | .bool false => "false"
  | .number m d => numberText m d
  | .string s => quote s
  | .array items => "[" ++ ",".intercalate (items.attach.map fun ⟨j, _⟩ => render j) ++ "]"
  | .object fields =>
    "\x7b" ++ ",".intercalate (fields.attach.map fun ⟨(k, v), _⟩ => quote k ++ ":" ++ render v) ++ "\x7d"
termination_by j => sizeOf j
decreasing_by
  all_goals simp_wf
  · have := List.sizeOf_lt_of_mem ‹j ∈ items›
    omega
  · have := List.sizeOf_lt_of_mem ‹(k, v) ∈ fields›
    simp at this
    omega

end Json

end Turnstile
