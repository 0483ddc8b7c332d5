import Turnstile.Json.Cursor
import Turnstile.Float.Binary64

/-!
# Reading JSON text: literals, strings and numbers

The lexical layer of the JSON reader. `Reader.text` reads a string literal
after its opening quote, decoding escapes; a leading surrogate escape must be
followed by a trailing one. `Reader.number` reads a number: integers that fit
an unsigned 64-bit word stay exact, negative integers down to `-2 ^ 63` too,
and everything else becomes the double obtained by scaling the collected
digits with the nearest double of a power of ten, one rounding per step, with
`number out of range` instead of an infinity. `Reader.skipValue` reads over
any value without keeping it, checking its syntax.
-/

namespace Turnstile.Json

/-- A number as the reader keeps it. -/
inductive Number where
  | unsigned (n : Nat)
  | negative (n : Int)
  | float (x : Binary64)
  deriving Inhabited

namespace Reader

/-- Reads the rest of a literal word, its first character already read. -/
def word (expected : List Char) : Reader Unit := do
  for ch in expected do
    match ← peek with
    | none => failHere .eofWhileParsingValue
    | some c => if c = ch then bump else failAhead .expectedSomeIdent

/-- The value of a hexadecimal digit. -/
def hexValue (c : Char) : Option Nat :=
  if '0' ≤ c ∧ c ≤ '9' then some (c.toNat - '0'.toNat)
  else if 'a' ≤ c ∧ c ≤ 'f' then some (c.toNat - 'a'.toNat + 10)
  else if 'A' ≤ c ∧ c ≤ 'F' then some (c.toNat - 'A'.toNat + 10)
  else none

/-- Reads four hexadecimal digits of a `\u` escape. -/
def hexQuad : Reader Nat := do
  let cur ← get
  let four := cur.rest.take 4
  let bytes := (four.map Char.utf8Size).foldr (· + ·) 0
  if bytes < 4 ∧ four.length < 4 then
    -- fewer than four bytes remain: the text ends inside the escape
    modify fun c => Nat.repeat Cursor.advance c.rest.length c
    failHere .eofWhileParsingString
  else
    match four.mapM hexValue with
    | some [a, b, c, d] =>
      modify fun cur => Nat.repeat Cursor.advance 4 cur
      return ((a * 16 + b) * 16 + c) * 16 + d
    | _ => failAfterBytes 4 .invalidEscape

/-- Reads one escape after its backslash, decoding it when `keep` is set. -/
def escape (keep : Bool) : Reader (Option Char) := do
  match ← peek with
  | none => failHere .eofWhileParsingString
  | some c =>
    if c = '"' ∨ c = '\\' ∨ c = '/' then bump; return some c
    else if c = 'b' then bump; return some '\x08'
    else if c = 'f' then bump; return some '\x0c'
    else if c = 'n' then bump; return some '\n'
    else if c = 'r' then bump; return some '\r'
    else if c = 't' then bump; return some '\t'
    else if c = 'u' then
      bump
      let n ← hexQuad
      if !keep then return none
      if 0xDC00 ≤ n ∧ n ≤ 0xDFFF then failHere .loneLeadingSurrogateInHexEscape
      else if 0xD800 ≤ n ∧ n ≤ 0xDBFF then
        match ← peek with
        | none => failHere .eofWhileParsingString
        | some '\\' => bump
        | some _ => failAhead .unexpectedEndOfHexEscape
        match ← peek with
        | none => failHere .eofWhileParsingString
        | some 'u' => bump
        | some _ => failAhead .unexpectedEndOfHexEscape
        let n2 ← hexQuad
        if n2 < 0xDC00 ∨ n2 > 0xDFFF then failHere .loneLeadingSurrogateInHexEscape
        else return some (Char.ofNat (((n - 0xD800) * 0x400 + (n2 - 0xDC00)) + 0x10000))
      else return some (Char.ofNat n)
    else failAhead .invalidEscape

/-- Reads the rest of a string literal after its opening quote, for at most `fuel` characters. -/
def textLoop (keep : Bool) : Nat → List Char → Reader String
  | 0, _ => failHere .eofWhileParsingString
  | fuel + 1, acc => do
    match ← peek with
    | none => failHere .eofWhileParsingString
    | some '"' => bump; return String.ofList acc.reverse
    | some '\\' =>
      bump
      match ← escape keep with
      | some c => textLoop keep fuel (c :: acc)
      | none => textLoop keep fuel acc
    | some c =>
      if c.toNat < 0x20 then
        if keep then failAhead .controlCharacterWhileParsingString
        else failHere .controlCharacterWhileParsingString
      else bump; textLoop keep fuel (c :: acc)

/-- Reads and decodes the rest of a string literal after its opening quote. -/
def text : Reader String := do
  textLoop true ((← get).rest.length + 1) []

/-- Reads over the rest of a string literal after its opening quote. -/
def skipText : Reader Unit := do
  discard <| textLoop false ((← get).rest.length + 1) []

/-- The largest unsigned 64-bit word. -/
def wordMax : Nat := Nat.pow 2 64 - 1

/-- The largest signed 32-bit integer. -/
def int32Max : Int := Int.pow 2 31 - 1

/-- `i` kept within the signed 32-bit range. -/
def clamp32 (i : Int) : Int := max (-(Int.pow 2 31)) (min int32Max i)

/-- The double of `significand * 10 ^ exponent`, scaling step by step with powers of ten. -/
def fromParts (positive : Bool) (significand : Nat) (exponent : Int) : Reader Binary64 := do
  let rec scale : Nat → Binary64 → Int → Reader Binary64
    | 0, f, _ => return f
    | fuel + 1, f, e =>
      if e.natAbs ≤ 308 then
        if 0 ≤ e then
          let g := Binary64.mul f (Binary64.pow10 e.toNat)
          if g.isInfinite then failHere .numberOutOfRange else return g
        else return Binary64.div f (Binary64.pow10 e.natAbs)
      else if f.isZero then return f
      else if 0 ≤ e then failHere .numberOutOfRange
      else scale fuel (Binary64.div f (Binary64.pow10 308)) (e + 308)
  let f ← scale 16 (Binary64.ofNat significand) exponent
  return if positive then f else f.negate

/-- Skips digits. -/
def skipDigits : Reader Unit := do
  let cur ← get
  let n := (cur.rest.takeWhile Char.isDigit).length
  set (Nat.repeat Cursor.advance n cur)

/-- Reads an exponent after its `e`, with the exponent so far `start`. -/
def exponentPart (positive : Bool) (significand : Nat) (start : Int) : Reader Binary64 := do
  bump
  let positiveExp ← do
    match ← peek with
    | some '+' => bump; pure true
    | some '-' => bump; pure false
    | _ => pure true
  match ← peek with
  | none => failHere .eofWhileParsingValue
  | some c =>
    if !c.isDigit then failAhead .invalidNumber
    else
      bump
      let rec digits : Nat → Int → Reader (Option Int)
        | 0, e => return some e
        | fuel + 1, e => do
          match ← peek with
          | some d =>
            if d.isDigit then
              bump
              let v : Int := d.toNat - '0'.toNat
              if e ≥ int32Max / 10 ∧ (e > int32Max / 10 ∨ v > int32Max % 10) then return none
              else digits fuel (e * 10 + v)
            else return some e
          | none => return some e
      match ← digits ((← get).rest.length + 1) (c.toNat - '0'.toNat) with
      | some e =>
        let final := if positiveExp then clamp32 (start + e) else clamp32 (start - e)
        fromParts positive significand final
      | none =>
        if significand ≠ 0 ∧ positiveExp then failHere .numberOutOfRange
        else
          skipDigits
          return if positive then .finite false 0 Binary64.minExp else .finite true 0 Binary64.minExp

/-- Reads a fraction after its point, with the digits so far and the exponent so far. -/
def fractionPart (positive : Bool) (significand : Nat) (before : Int) : Reader Binary64 := do
  bump
  let rec digits : Nat → Nat → Int → Reader (Nat × Int × Bool)
    | 0, s, e => return (s, e, false)
    | fuel + 1, s, e => do
      match ← peek with
      | some d =>
        if d.isDigit then
          let v := d.toNat - '0'.toNat
          if s ≥ wordMax / 10 ∧ (s > wordMax / 10 ∨ v > wordMax % 10) then return (s, e, true)
          else bump; digits fuel (s * 10 + v) (e - 1)
        else return (s, e, false)
      | none => return (s, e, false)
  let (s, after, overflowed) ← digits ((← get).rest.length + 1) significand 0
  if overflowed then
    skipDigits
    match ← peek with
    | some 'e' | some 'E' => exponentPart positive s (before + after)
    | _ => fromParts positive s (before + after)
  else
    if after = 0 then
      match ← peek with
      | some _ => failAhead .invalidNumber
      | none => failAhead .eofWhileParsingValue
    else
      match ← peek with
      | some 'e' | some 'E' => exponentPart positive s (before + after)
      | _ => fromParts positive s (before + after)

/-- What follows the integer digits of a number. -/
def numberTail (positive : Bool) (significand : Nat) : Reader Number := do
  match ← peek with
  | some '.' => return .float (← fractionPart positive significand 0)
  | some 'e' | some 'E' => return .float (← exponentPart positive significand 0)
  | _ =>
    if positive then return .unsigned significand
    else if significand = 0 then return .float (.finite true 0 Binary64.minExp)
    else if significand ≤ Nat.pow 2 63 then return .negative (-(significand : Int))
    else return .float (Binary64.ofNat significand).negate

/-- Reads a number whose sign has been read. -/
def number (positive : Bool) : Reader Number := do
  match ← peek with
  | none => failHere .eofWhileParsingValue
  | some '0' =>
    bump
    match ← peek with
    | some d => if d.isDigit then failAhead .invalidNumber else numberTail positive 0
    | none => numberTail positive 0
  | some c =>
    if !c.isDigit then failAhead .invalidNumber
    else
      bump
      let rec digits : Nat → Nat → Reader Number
        | 0, s => numberTail positive s
        | fuel + 1, s => do
          match ← peek with
          | some d =>
            if d.isDigit then
              let v := d.toNat - '0'.toNat
              if s ≥ wordMax / 10 ∧ (s > wordMax / 10 ∨ v > wordMax % 10) then
                -- too long for a word: the remaining integer digits only scale
                let rec more : Nat → Int → Reader Number
                  | 0, e => return .float (← fromParts positive s e)
                  | fuel + 1, e => do
                    match ← peek with
                    | some d' =>
                      if d'.isDigit then bump; more fuel (e + 1)
                      else if d' = '.' then return .float (← fractionPart positive s e)
                      else if d' = 'e' ∨ d' = 'E' then return .float (← exponentPart positive s e)
                      else return .float (← fromParts positive s e)
                    | none => return .float (← fromParts positive s e)
                more ((← get).rest.length + 1) 0
              else bump; digits fuel (s * 10 + v)
            else numberTail positive s
          | none => numberTail positive s
      digits ((← get).rest.length + 1) (c.toNat - '0'.toNat)

/-- Reads over the rest of a number whose sign has been read. -/
def skipNumber : Reader Unit := do
  match ← peek with
  | some '0' =>
    bump
    match ← peek with
    | some d => if d.isDigit then failAhead .invalidNumber
    | none => pure ()
  | some c => if c.isDigit ∧ c ≠ '0' then bump; skipDigits else failAhead .invalidNumber
  | none => failHere .invalidNumber
  match ← peek with
  | some '.' =>
    bump
    let before := (← get).offset
    skipDigits
    if (← get).offset = before then failAhead .invalidNumber
    match ← peek with
    | some 'e' | some 'E' => skipExponent
    | _ => pure ()
  | some 'e' | some 'E' => skipExponent
  | _ => pure ()
where
  /-- Reads over an exponent. -/
  skipExponent : Reader Unit := do
    bump
    match ← peek with
    | some '+' | some '-' => bump
    | _ => pure ()
    match ← peek with
    | some d => if d.isDigit then bump; skipDigits else failAhead .invalidNumber
    | none => failHere .invalidNumber

/-- Where a skipped value stands: inside an array or an object. -/
inductive Frame where
  | array
  | object
  deriving DecidableEq

/-- Reads over one complete value, with explicit frames for nesting. -/
def skipValue : Reader Unit := do
  let rec run : Nat → List Frame → Reader Unit
    | 0, _ => failHere .eofWhileParsingValue
    | fuel + 1, stack => do
      -- one value, or the opening of an array or object
      let opened ← do
        match ← skipBlanks with
        | none => failAhead .eofWhileParsingValue
        | some 'n' => bump; word "ull".toList; pure none
        | some 't' => bump; word "rue".toList; pure none
        | some 'f' => bump; word "alse".toList; pure none
        | some '-' => bump; skipNumber; pure none
        | some '"' => bump; skipText; pure none
        | some '[' => bump; pure (some Frame.array)
        | some '\x7b' => bump; pure (some Frame.object)
        | some c => if c.isDigit then skipNumber; pure none else failAhead .expectedSomeValue
      -- close what can be closed; `none` means the whole value is read
      let rec close : Nat → Bool → Frame → List Frame → Reader (Option (Frame × List Frame))
        | 0, _, _, _ => failHere .eofWhileParsingValue
        | f + 1, acceptComma, frame, rest => do
          match ← skipBlanks with
          | some ',' =>
            if acceptComma then bump; return some (frame, rest)
            else return some (frame, rest)
          | some ']' =>
            if frame = .array then
              bump
              match rest with
              | [] => return none
              | fr :: rs => close f true fr rs
            else if acceptComma then failAhead .expectedObjectCommaOrEnd
            else return some (frame, rest)
          | some '\x7d' =>
            if frame = .object then
              bump
              match rest with
              | [] => return none
              | fr :: rs => close f true fr rs
            else if acceptComma then failAhead .expectedListCommaOrEnd
            else return some (frame, rest)
          | some _ =>
            if acceptComma then
              failAhead (if frame = .array then .expectedListCommaOrEnd else .expectedObjectCommaOrEnd)
            else return some (frame, rest)
          | none =>
            failAhead (if frame = .array then .eofWhileParsingList else .eofWhileParsingObject)
      let next ← match opened with
        | some frame => close ((← get).rest.length + 2) false frame stack
        | none =>
          match stack with
          | [] => pure none
          | fr :: rs => close ((← get).rest.length + 2) true fr rs
      match next with
      | none => return
      | some (frame, rest) =>
        if frame = .object then
          match ← skipBlanks with
          | some '"' => bump
          | some _ => failAhead .keyMustBeAString
          | none => failAhead .eofWhileParsingObject
          skipText
          match ← skipBlanks with
          | some ':' => bump
          | some _ => failAhead .expectedColon
          | none => failAhead .eofWhileParsingObject
        run fuel (frame :: rest)
  run ((← get).rest.length + 1) []

end Reader

end Turnstile.Json
