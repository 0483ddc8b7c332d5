import Turnstile.Json.Value

/-!
# Reading request fields

Requests are JSON objects. A field that is absent or `null` counts as missing;
a field of the wrong shape refuses the request with a message that names it.
-/

namespace Turnstile.Script

/-- A request part, or why the request is refused. -/
abbrev Decoded := Except String

/-- The largest value of a 64-bit unsigned word, plus one. -/
def wordLimit : Nat := Nat.pow 2 64

/-- The field's value unless it is absent or `null`. -/
def present? (j : Json) (name : String) : Option Json :=
  match j.field? name with
  | some .null => none
  | v => v

/-- A field that must be present. -/
def need (j : Json) (name : String) : Decoded Json :=
  match present? j name with
  | some v => .ok v
  | none => .error ("missing field " ++ name)

/-- A string value. -/
def asString (name : String) : Json → Decoded String
  | .string s => .ok s
  | _ => .error ("field " ++ name ++ " must be a string")

/-- A 64-bit unsigned integer value. -/
def asWord (name : String) : Json → Decoded Nat
  | .number (.ofNat n) 0 => if n < wordLimit then .ok n else .error ("field " ++ name ++ " must be a non-negative integer")
  | _ => .error ("field " ++ name ++ " must be a non-negative integer")

/-- A 64-bit signed integer value. -/
def asInt (name : String) : Json → Decoded Int
  | .number n 0 =>
    if -(Int.pow 2 63) ≤ n ∧ n < Int.pow 2 63 then .ok n else .error ("field " ++ name ++ " must be an integer")
  | _ => .error ("field " ++ name ++ " must be an integer")

/-- A boolean value. -/
def asBool (name : String) : Json → Decoded Bool
  | .bool b => .ok b
  | _ => .error ("field " ++ name ++ " must be a bool")

/-- An object value. -/
def asObject (name : String) : Json → Decoded Json
  | v@(.object _) => .ok v
  | _ => .error ("field " ++ name ++ " must be an object")

/-- A required string field. -/
def needString (j : Json) (name : String) : Decoded String := need j name >>= asString name

/-- A required unsigned integer field. -/
def needWord (j : Json) (name : String) : Decoded Nat := need j name >>= asWord name

/-- A required signed integer field. -/
def needInt (j : Json) (name : String) : Decoded Int := need j name >>= asInt name

/-- A required boolean field. -/
def needBool (j : Json) (name : String) : Decoded Bool := need j name >>= asBool name

/-- An optional field read with `f`. -/
def optional {α : Type} (j : Json) (name : String) (f : String → Json → Decoded α) :
    Decoded (Option α) :=
  match present? j name with
  | some v => some <$> f name v
  | none => .ok none

end Turnstile.Script
