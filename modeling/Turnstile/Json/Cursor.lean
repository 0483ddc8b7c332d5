/-!
# Reading JSON text: positions and failures

A `Json.Cursor` is the unread rest of a JSON text together with where it
starts: the byte offset from the start of the text, the line (counted from
one) and the byte offset at which that line starts. A position is reported as
a line and a column, the column counting bytes from the start of the line.

A reading failure is a `Json.Fault` with an optional position. Faults of the
syntax carry the position where they were found; faults about the meaning of a
well-formed value are raised without one and get the position of the reader
when they reach the enclosing value (`Reader.settle`). The message is the
fault's text followed by ` at line L column C` when there is a position.

`Json.Reader` reads with a cursor that stays visible after a failure, so a
failure can still be placed.
-/

namespace Turnstile.Json

/-- The unread rest of a text and where it starts. -/
structure Cursor where
  rest : List Char
  offset : Nat
  line : Nat
  lineStart : Nat
  deriving Inhabited

namespace Cursor

/-- A cursor at the start of a text. -/
def start (s : String) : Cursor := ⟨s.toList, 0, 1, 0⟩

/-- The cursor after one character. -/
def advance (c : Cursor) : Cursor :=
  match c.rest with
  | [] => c
  | ch :: cs =>
    let off := c.offset + ch.utf8Size
    if ch = '\n' then ⟨cs, off, c.line + 1, off⟩ else ⟨cs, off, c.line, c.lineStart⟩

/-- Advancing over a character shortens the rest. -/
theorem advance_rest_length (c : Cursor) (ch : Char) (cs : List Char) (h : c.rest = ch :: cs) :
    c.advance.rest.length < c.rest.length := by
  simp only [advance, h]
  split <;> simp

/-- The line and column of the cursor. -/
def position (c : Cursor) : Nat × Nat := (c.line, c.offset - c.lineStart)

/-- The line and column `n` bytes further on, or at the end of the text if it is shorter. -/
def positionAhead (c : Cursor) (n : Nat) : Nat × Nat :=
  match n, hr : c.rest with
  | 0, _ => c.position
  | _, [] => c.position
  | n + 1, ch :: cs =>
    if ch.utf8Size ≤ n + 1 then
      have := advance_rest_length c ch cs hr
      (c.advance).positionAhead (n + 1 - ch.utf8Size)
    else (c.line, c.offset + n + 1 - c.lineStart)
termination_by c.rest.length

/-- The position one byte ahead, as reported for a fault found at the next character. -/
def peekPosition (c : Cursor) : Nat × Nat := c.positionAhead 1

end Cursor

/-- What went wrong while reading a JSON text. -/
inductive Fault where
  | custom (text : String)
  | eofWhileParsingList
  | eofWhileParsingObject
  | eofWhileParsingString
  | eofWhileParsingValue
  | expectedColon
  | expectedListCommaOrEnd
  | expectedObjectCommaOrEnd
  | expectedSomeIdent
  | expectedSomeValue
  | invalidEscape
  | invalidNumber
  | numberOutOfRange
  | invalidUnicodeCodePoint
  | controlCharacterWhileParsingString
  | keyMustBeAString
  | loneLeadingSurrogateInHexEscape
  | trailingComma
  | trailingCharacters
  | unexpectedEndOfHexEscape
  deriving DecidableEq, Repr, Inhabited

/-- The text of a fault. -/
def Fault.text : Fault → String
  | .custom t => t
  | .eofWhileParsingList => "EOF while parsing a list"
  | .eofWhileParsingObject => "EOF while parsing an object"
  | .eofWhileParsingString => "EOF while parsing a string"
  | .eofWhileParsingValue => "EOF while parsing a value"
  | .expectedColon => "expected `:`"
  | .expectedListCommaOrEnd => "expected `,` or `]`"
  | .expectedObjectCommaOrEnd => "expected `,` or `\x7d`"
  | .expectedSomeIdent => "expected ident"
  | .expectedSomeValue => "expected value"
  | .invalidEscape => "invalid escape"
  | .invalidNumber => "invalid number"
  | .numberOutOfRange => "number out of range"
  | .invalidUnicodeCodePoint => "invalid unicode code point"
  | .controlCharacterWhileParsingString =>
    "control character (\\u0000-\\u001F) found while parsing a string"
  | .keyMustBeAString => "key must be a string"
  | .loneLeadingSurrogateInHexEscape => "lone leading surrogate in hex escape"
  | .trailingComma => "trailing comma"
  | .trailingCharacters => "trailing characters"
  | .unexpectedEndOfHexEscape => "unexpected end of hex escape"

/-- A reading failure, placed or not yet placed. -/
structure Failure where
  fault : Fault
  pos : Option (Nat × Nat)
  deriving Inhabited

/-- The message of a failure. -/
def Failure.message (f : Failure) : String :=
  match f.pos with
  | none => f.fault.text
  | some (l, c) => f.fault.text ++ " at line " ++ toString l ++ " column " ++ toString c

/-- Reading with a cursor that survives failures. -/
abbrev Reader := ExceptT Failure (StateM Cursor)

namespace Reader

/-- The next character, not consumed. -/
def peek : Reader (Option Char) := do
  return (← get).rest.head?

/-- Consumes one character. -/
def bump : Reader Unit := modify Cursor.advance

/-- Skips blanks (space, line feed, tab, carriage return) and shows the next character. -/
def skipBlanks : Reader (Option Char) := do
  let c ← get
  let rest := c.rest.dropWhile fun ch => ch = ' ' || ch = '\n' || ch = '\t' || ch = '\r'
  let n := c.rest.length - rest.length
  set (Nat.repeat Cursor.advance n c)
  return rest.head?

/-- Fails at the cursor. -/
def failHere {α : Type} (f : Fault) : Reader α := do
  throw ⟨f, some (← get).position⟩

/-- Fails one byte ahead of the cursor, where the offending character starts to be read. -/
def failAhead {α : Type} (f : Fault) : Reader α := do
  throw ⟨f, some (← get).peekPosition⟩

/-- Fails `n` bytes ahead of the cursor. -/
def failAfterBytes {α : Type} (n : Nat) (f : Fault) : Reader α := do
  throw ⟨f, some ((← get).positionAhead n)⟩

/-- Fails without a position; the enclosing value places the failure. -/
def failUnplaced {α : Type} (text : String) : Reader α :=
  throw ⟨.custom text, none⟩

/-- The outcome of `r`, kept as a value; the cursor stays where `r` left it. -/
def attempt {α : Type} (r : Reader α) : Reader (Except Failure α) :=
  tryCatch (Except.ok <$> r) (fun e => pure (Except.error e))

/-- Gives an unplaced failure the position of the cursor. -/
def place (e : Failure) : Reader Failure := do
  match e.pos with
  | some _ => return e
  | none => return ⟨e.fault, some (← get).position⟩

/-- Runs `r`; an unplaced failure of it is placed where the cursor stands after `r`. -/
def settle {α : Type} (r : Reader α) : Reader α := do
  match ← attempt r with
  | .ok a => return a
  | .error e => throw (← place e)

/-- Runs a reader on a whole text. -/
def read {α : Type} (r : Reader α) (s : String) : Except Failure α :=
  ((ExceptT.run r).run (Cursor.start s)).1

end Reader

end Turnstile.Json
