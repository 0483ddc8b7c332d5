import Turnstile.Json.Scan
import Turnstile.Float.Shortest
import Turnstile.Text.Quoted

/-!
# Reading typed values from JSON text

Typed readers on top of the lexical layer. Each reader skips blanks and reads
one value of the shape it wants; a value of another shape is read over and
reported as `invalid type: <found>, expected <wanted>`, placed after it (an
array or object is reported where it opens). A record is read from an object,
by field name in any order with unknown fields skipped and a repeated field
refused, or from an array, by position. The failure of a record's contents is
placed after the record's closing bracket has been looked for, so a failure
without a position of its own points past the record's last field.
-/

namespace Turnstile.Json

/-- How a number that was found is named in messages. -/
def Number.unexpected : Number → String
  | .unsigned n => "integer `" ++ toString n ++ "`"
  | .negative n => "integer `" ++ toString n ++ "`"
  | .float x =>
    let t := x.positional
    let t := if x.isInfinite || t.toList.contains '.' then t else t ++ ".0"
    "floating point `" ++ t ++ "`"

namespace Reader

/-- Reads over the value at the cursor and names what it is, as a type error reports it. -/
def foundValue : Reader String := do
  match ← peek with
  | some 'n' => bump; word "ull".toList; pure "null"
  | some 't' => bump; word "rue".toList; pure "boolean `true`"
  | some 'f' => bump; word "alse".toList; pure "boolean `false`"
  | some '-' => bump; pure (← number false).unexpected
  | some '"' => bump; pure ("string " ++ Text.quote (← text))
  | some '[' => pure "sequence"
  | some '\x7b' => pure "map"
  | some c => if c.isDigit then pure (← number true).unexpected else failAhead .expectedSomeValue
  | none => failAhead .expectedSomeValue

/-- Reads over the value at the cursor and fails: it is not of the wanted shape. -/
def mismatch {α : Type} (wanted : String) : Reader α := do
  failHere (.custom ("invalid type: " ++ (← foundValue) ++ ", expected " ++ wanted))

/-- Fails unless a value starts at the cursor, after blanks. -/
def valueStart : Reader Char := do
  match ← skipBlanks with
  | some c => return c
  | none => failAhead .eofWhileParsingValue

/-- A string; `wanted` names it in messages. -/
def string (wanted : String := "a string") : Reader String := do
  if (← valueStart) = '"' then bump; text else mismatch wanted

/-- A boolean. -/
def bool : Reader Bool := do
  match ← valueStart with
  | 't' => bump; word "rue".toList; return true
  | 'f' => bump; word "alse".toList; return false
  | _ => mismatch "a boolean"

/-- An unsigned 64-bit integer; `wanted` names its type in messages. -/
def word64 (wanted : String) : Reader Nat := do
  let c ← valueStart
  let n ← if c = '-' then bump; number false
    else if c.isDigit then number true
    else mismatch wanted
  match n with
  | .unsigned k => return k
  | .negative k => failHere (.custom ("invalid value: integer `" ++ toString k ++ "`, expected " ++ wanted))
  | .float _ => failHere (.custom ("invalid type: " ++ n.unexpected ++ ", expected " ++ wanted))

/-- `null` or a value read by `r`. -/
def option {α : Type} (r : Reader α) : Reader (Option α) := do
  match ← skipBlanks with
  | some 'n' => bump; word "ull".toList; return none
  | _ => some <$> r

/-- The colon between a key and its value. -/
def colon : Reader Unit := do
  match ← skipBlanks with
  | some ':' => bump
  | some _ => failAhead .expectedColon
  | none => failAhead .eofWhileParsingObject

/-- The next element of an array, or `none` at its end; `first` tells whether one was read. -/
def element {α : Type} (first : Bool) (r : Reader α) : Reader (Option α) := do
  let next ← do
    match ← skipBlanks with
    | some ']' => return none
    | some ',' => if first then pure (some ',') else bump; skipBlanks
    | some c => if first then pure (some c) else failAhead .expectedListCommaOrEnd
    | none => failAhead .eofWhileParsingList
  match next with
  | some ']' => failAhead .trailingComma
  | some _ => some <$> r
  | none => failAhead .eofWhileParsingValue

/-- The next key of an object, or `none` at its end; `first` tells whether one was read. -/
def key (first : Bool) : Reader (Option String) := do
  let next ← do
    match ← skipBlanks with
    | some '\x7d' => return none
    | some ',' => if first then pure (some ',') else bump; skipBlanks
    | some c => if first then pure (some c) else failAhead .expectedObjectCommaOrEnd
    | none => failAhead .eofWhileParsingObject
  match next with
  | some '"' => bump; some <$> text
  | some '\x7d' => failAhead .trailingComma
  | some _ => failAhead .keyMustBeAString
  | none => failAhead .eofWhileParsingValue

/-- The value after a key. -/
def value {α : Type} (r : Reader α) : Reader α := do
  colon; r

/-- The closing brace of an object. -/
def closeObject : Reader Unit := do
  match ← skipBlanks with
  | some '\x7d' => bump
  | some ',' => failAhead .trailingComma
  | some _ => failAhead .trailingCharacters
  | none => failAhead .eofWhileParsingObject

/-- The closing bracket of an array. -/
def closeArray : Reader Unit := do
  match ← skipBlanks with
  | some ']' => bump
  | some ',' =>
    bump
    match ← skipBlanks with
    | some ']' => failAhead .trailingComma
    | _ => failAhead .trailingCharacters
  | some _ => failAhead .trailingCharacters
  | none => failAhead .eofWhileParsingList

/-- Reads contents and then their closing; the first failure wins and is placed after both. -/
def enclosed {α : Type} (contents : Reader α) (closing : Reader Unit) : Reader α := do
  let r ← attempt contents
  let c ← attempt closing
  match r, c with
  | .ok a, .ok () => return a
  | .error e, _ => throw (← place e)
  | .ok _, .error e => throw (← place e)

/-- Walks the keys of an object, handing each to `visit` with the state. -/
def fields {σ : Type} (visit : String → σ → Reader σ) (init : σ) : Reader σ := do
  let rec go : Nat → Bool → σ → Reader σ
    | 0, _, s => return s
    | fuel + 1, first, s => do
      match ← key first with
      | none => return s
      | some k => go fuel false (← visit k s)
  go ((← get).rest.length + 1) true init

/-- A record named `name`, read from an array by `bySeq` or from an object by `byMap`. -/
def record {α : Type} (name : String) (bySeq byMap : Reader α) : Reader α := do
  match ← valueStart with
  | '[' => bump; enclosed bySeq closeArray
  | '\x7b' => bump; enclosed byMap closeObject
  | _ => mismatch ("struct " ++ name)

/-- An array of values read by `r`. -/
def list {α : Type} (r : Reader α) : Reader (List α) := do
  if (← valueStart) = '[' then
    bump
    let rec go : Nat → Bool → List α → Reader (List α)
      | 0, _, acc => return acc.reverse
      | fuel + 1, first, acc => do
        match ← element first r with
        | none => return acc.reverse
        | some a => go fuel false (a :: acc)
    enclosed (do go ((← get).rest.length + 1) true []) closeArray
  else mismatch "a sequence"

/-- The failure for a field given twice. -/
def duplicate {α : Type} (name : String) : Reader α :=
  failUnplaced ("duplicate field `" ++ name ++ "`")

/-- The failure for a field that is required and missing. -/
def missing {α : Type} (name : String) : Reader α :=
  failUnplaced ("missing field `" ++ name ++ "`")

/-- The failure for an array too short for a record. -/
def tooShort {α : Type} (count : Nat) (wanted : String) : Reader α :=
  failUnplaced ("invalid length " ++ toString count ++ ", expected " ++ wanted)

/-- The value of a filled slot; an empty slot fails with `absent`. -/
def present {α : Type} (absent : Reader α) : Option α → Reader α
  | some a => pure a
  | none => absent

/-- A field value stored once: a repeated field fails before its value is read. -/
def once {α : Type} (name : String) (slot : Option α) (r : Reader α) : Reader (Option α) := do
  match slot with
  | some _ => duplicate name
  | none => some <$> value r

/-- Nothing but blanks may follow. -/
def finish : Reader Unit := do
  match ← skipBlanks with
  | some _ => failAhead .trailingCharacters
  | none => pure ()

/-- Reads a whole text as one value. -/
def whole {α : Type} (r : Reader α) (s : String) : Except Failure α :=
  read (do let a ← r; finish; pure a) s

end Reader

end Turnstile.Json
