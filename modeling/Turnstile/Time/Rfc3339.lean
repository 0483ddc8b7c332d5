import Turnstile.Time.Instant

/-!
# Reading RFC 3339 timestamps

`Instant.ofRfc3339` reads `YYYY-MM-DDTHH:MM:SS[.frac](Z|±HH:MM)` and converts
it to UTC. The `T` may also be `t` or a space, the `Z` also `z`, and the
minus of an offset also U+2212. Fractions may have any number of digits, of
which the first nine count. Second 60 is a leap second. Offsets run from
-23:59 to +23:59.

A text is read from left to right and the first problem found is reported:
a text shorter than the shortest timestamp (20 bytes) or one that ends early
is *too short*; a character that does not fit is *invalid*; a field outside
its range, an offset beyond a day, or a day the month does not have is *out
of range*; text after the offset is *trailing*.
-/

namespace Turnstile

/-- Why a text is not a timestamp. -/
inductive TimeFault where
  | outOfRange
  | invalid
  | tooShort
  | tooLong
  deriving DecidableEq, Repr

/-- The wording of the fault. -/
def TimeFault.text : TimeFault → String
  | .outOfRange => "input is out of range"
  | .invalid => "input contains invalid characters"
  | .tooShort => "premature end of input"
  | .tooLong => "trailing input"

namespace Rfc3339

/-- The number of bytes of a character list. -/
def byteLength (cs : List Char) : Nat := (cs.map Char.utf8Size).foldr (· + ·) 0

/-- The value of a run of decimal digits. -/
def digitValue (ds : List Char) : Nat := ds.foldl (fun n c => n * 10 + (c.toNat - '0'.toNat)) 0

/-- Exactly `n` digits. -/
def fixedDigits (cs : List Char) (n : Nat) : Except TimeFault (Nat × List Char) :=
  if byteLength cs < n then .error .tooShort
  else
    let ds := cs.take n
    if ds.all Char.isDigit then .ok (digitValue ds, cs.drop n) else .error .invalid

/-- Fails with `e` unless `c` holds. -/
def require (c : Prop) [Decidable c] (e : TimeFault) : Except TimeFault Unit :=
  if c then pure () else throw e

/-- One expected character. -/
def expect (cs : List Char) (c : Char) : Except TimeFault (List Char) :=
  match cs with
  | [] => .error .tooShort
  | d :: rest => if d = c then .ok rest else .error .invalid

/-- A value that must lie in `[lo, hi]`. -/
def within (v lo hi : Nat) : Except TimeFault Nat :=
  if lo ≤ v ∧ v ≤ hi then .ok v else .error .outOfRange

/-- Nanoseconds from the digits after the point: one to nine count, more are skipped. -/
def fraction (cs : List Char) : Except TimeFault (Nat × List Char) :=
  match cs with
  | [] => .error .tooShort
  | c :: _ =>
    if !c.isDigit then .error .invalid
    else
      let ds := (cs.takeWhile Char.isDigit).take 9
      let rest := (cs.drop ds.length).dropWhile Char.isDigit
      .ok (digitValue ds * Nat.pow 10 (9 - ds.length), rest)

/-- Nanoseconds after the seconds: a fraction when a point follows, none otherwise. -/
def nanos (cs : List Char) : Except TimeFault (Nat × List Char) :=
  match cs with
  | '.' :: rest => fraction rest
  | _ => pure (0, cs)

/-- Two digits of an offset. -/
def offsetDigits (cs : List Char) : Except TimeFault (Char × Char) :=
  if byteLength cs < 2 then .error .tooShort
  else
    match cs with
    | a :: b :: _ => .ok (a, b)
    | _ => .error .tooShort

/-- Whether an offset is west of UTC: after `+`, no; after `-` or U+2212, yes. -/
def offsetSign (c : Char) : Except TimeFault Bool :=
  if c = '+' then pure false
  else if c = '-' ∨ c = '−' then pure true
  else throw .invalid

/-- The minutes of an offset, `00` to `59`. -/
def offsetMinutes (cs : List Char) : Except TimeFault Nat :=
  match offsetDigits cs with
  | .ok (m1, m2) =>
    if '0' ≤ m1 ∧ m1 ≤ '5' ∧ m2.isDigit then pure (digitValue [m1, m2])
    else if '6' ≤ m1 ∧ m1 ≤ '9' ∧ m2.isDigit then throw .outOfRange
    else throw .invalid
  | .error _ => throw .tooShort

/-- The offset from UTC in seconds, east positive. -/
def offset (cs : List Char) : Except TimeFault (Int × List Char) := do
  match cs with
  | [] => throw .tooShort
  | c :: rest =>
    if c = 'Z' ∨ c = 'z' then return (0, rest)
    let negative ← offsetSign c
    let (h1, h2) ← offsetDigits rest
    require (h1.isDigit ∧ h2.isDigit) .invalid
    let hours := digitValue [h1, h2]
    let rest ← expect (rest.drop 2) ':'
    let minutes ← offsetMinutes rest
    let secs : Int := hours * 3600 + minutes * 60
    return (if negative then -secs else secs, rest.drop 2)

/-- The date `YYYY-MM-DD`, its month and day each in range. -/
def readDate (cs : List Char) : Except TimeFault ((Nat × Nat × Nat) × List Char) := do
  let (year, cs) ← fixedDigits cs 4
  let cs ← expect cs '-'
  let (month, cs) ← fixedDigits cs 2
  let month ← within month 1 12
  let cs ← expect cs '-'
  let (day, cs) ← fixedDigits cs 2
  let day ← within day 1 31
  return ((year, month, day), cs)

/-- The wall clock `HH:MM:SS` after its separator `T`, `t` or a space, each field in range. -/
def readClock (cs : List Char) : Except TimeFault ((Nat × Nat × Nat) × List Char) := do
  let cs ← match cs with
    | [] => throw .tooShort
    | c :: rest => if c = 'T' ∨ c = 't' ∨ c = ' ' then pure rest else throw .invalid
  let (hour, cs) ← fixedDigits cs 2
  let hour ← within hour 0 23
  let cs ← expect cs ':'
  let (minute, cs) ← fixedDigits cs 2
  let minute ← within minute 0 59
  let cs ← expect cs ':'
  let (second, cs) ← fixedDigits cs 2
  let second ← within second 0 60
  return ((hour, minute, second), cs)

end Rfc3339

/-- The instant of a date and a wall clock with nanoseconds, at an offset east of UTC. Second 60
is a leap second: it is kept as nanoseconds past the second before it. -/
def Instant.ofFields (year month day hour minute second nano : Nat) (off : Int) :
    Except TimeFault Instant :=
  let leap := second = 60
  let wall : Int := (hour * 3600 + minute * 60 + (if leap then 59 else second) : Nat)
  let total := wall - off
  match Instant.make? (Civil.daysFrom year month day + total / 86400) (total % 86400).toNat
      (nano + if leap then 1000000000 else 0) with
  | some t => pure t
  | none => throw .outOfRange

open Rfc3339 in
/-- The instant written by an RFC 3339 text, converted to UTC. -/
def Instant.ofRfc3339 (s : String) : Except TimeFault Instant := do
  require (20 ≤ s.utf8ByteSize) .tooShort
  let ((year, month, day), cs) ← readDate s.toList
  let ((hour, minute, second), cs) ← readClock cs
  let (nano, cs) ← nanos cs
  let (off, cs) ← offset cs
  require (off.natAbs ≤ 23 * 3600 + 59 * 60) .outOfRange
  require cs.isEmpty .tooLong
  require (Civil.isValid year month day) .outOfRange
  Instant.ofFields year month day hour minute second nano off

end Turnstile
