import Turnstile.Ident.Segment
import Turnstile.Time.Rfc3339
import Turnstile.Json.Decode
import Turnstile.Json.Value

/-!
# Archive entries

An archive entry records the count drained for one resource and when it was
synchronised. In an archive body it is the object
`{"newsID":…,"accessCount":"…","lastSynced":…}`: the count is a decimal
string and the instant is RFC 3339 in UTC without a fraction, so reading a
body back gives the entries with their instants cut to the whole second.

`Entry.reader` reads one entry: the resource must be a valid segment, the
count a decimal string of an unsigned 64-bit word (an optional `+`, then
digits only), the instant an RFC 3339 text.
-/

namespace Turnstile

/-- The largest unsigned 64-bit word, plus one. -/
def wordBound : Nat := Nat.pow 2 64

namespace Archive

/-- The count drained for one resource, and when. -/
structure Entry where
  resource : Segment
  count : Nat
  lastSynced : Instant

/-- Why a decimal string is not an unsigned 64-bit word. -/
inductive CountFault where
  | empty
  | invalidDigit
  | tooLarge
  deriving DecidableEq

/-- The wording of the fault. -/
def CountFault.text : CountFault → String
  | .empty => "cannot parse integer from empty string"
  | .invalidDigit => "invalid digit found in string"
  | .tooLarge => "number too large to fit in target type"

/-- Reads the digits of a word from the left; the first problem found is reported. -/
def wordDigits : List Char → Nat → Except CountFault Nat
  | [], n => .ok n
  | c :: cs, n =>
    if !c.isDigit then .error .invalidDigit
    else
      let n' := n * 10 + (c.toNat - '0'.toNat)
      if n' ≥ wordBound then .error .tooLarge else wordDigits cs n'

/-- A decimal string as an unsigned 64-bit word: an optional `+`, then digits. -/
def parseCount (s : String) : Except CountFault Nat :=
  match s.toList with
  | [] => .error .empty
  | ['+'] => .error .invalidDigit
  | '+' :: ds => wordDigits ds 0
  | ds => wordDigits ds 0

/-- The body text of a list of entries. -/
def bodyText (entries : List Entry) : String :=
  "[" ++ ",".intercalate (entries.map fun e =>
    "\x7b\"newsID\":" ++ Json.quote e.resource.text ++ ",\"accessCount\":\"" ++ toString e.count ++
      "\",\"lastSynced\":" ++ Json.quote e.lastSynced.wholeText ++ "\x7d") ++ "]"

open Json Reader

/-- Reads a resource field. -/
def resourceReader : Reader Segment := do
  match Segment.parse (← string) with
  | .ok g => pure g
  | .error e => failUnplaced e.message

/-- Reads a count field. -/
def countReader : Reader Nat := do
  match parseCount (← string) with
  | .ok n => pure n
  | .error e => failUnplaced e.text

/-- Reads an instant field. -/
def instantReader : Reader Instant := do
  match Instant.ofRfc3339 (← string) with
  | .ok t => pure t
  | .error e => failUnplaced e.text

/-- Reads one entry, from an object or from `[resource, count, instant]`. -/
def Entry.reader : Reader Entry :=
  record "ArchiveEntry"
    (do
      let wanted := "struct ArchiveEntry with 3 elements"
      let r ← present (tooShort 0 wanted) (← element true resourceReader)
      let c ← present (tooShort 1 wanted) (← element false countReader)
      let t ← present (tooShort 2 wanted) (← element false instantReader)
      return ⟨r, c, t⟩)
    (do
      let (r, c, t) ← fields (fun k (st : Option Segment × Option Nat × Option Instant) =>
          if k = "newsID" then return ((← once "newsID" st.1 resourceReader), st.2)
          else if k = "accessCount" then
            return (st.1, (← once "accessCount" st.2.1 countReader), st.2.2)
          else if k = "lastSynced" then
            return (st.1, st.2.1, (← once "lastSynced" st.2.2 instantReader))
          else do value skipValue; return st) (none, none, none)
      let r ← present (missing "newsID") r
      let c ← present (missing "accessCount") c
      let t ← present (missing "lastSynced") t
      return ⟨r, c, t⟩)

/-- Reads an archive body. -/
def parseBody (body : String) : Except Failure (List Entry) :=
  Reader.whole (list Entry.reader) body

end Archive

end Turnstile
