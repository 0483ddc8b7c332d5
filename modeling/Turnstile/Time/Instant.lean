import Turnstile.Time.Civil

/-!
# Instants

An `Instant` is a moment in UTC: a day, the second of that day and the
nanoseconds into that second. Nanoseconds of one second or more mark a leap
second: the instant lies in the 61st second of a minute, which is shown as
second 60. Instants exist for the years -262143 to 262142.

Adding whole seconds leaves a leap second first: forwards from the second
that follows it, backwards from the second before it, and adding nothing
keeps it. `Instant.text` writes the RFC 3339 form in UTC with `Z`; the
fraction is left out when it is zero and otherwise has 3, 6 or 9 digits,
the fewest that are exact. `Instant.wholeText` leaves out any fraction.
Years outside 0 to 9999 have a sign and at least four digits.
-/

namespace Turnstile

/-- A moment in UTC. -/
structure Instant where
  day : Int
  second : Nat
  nano : Nat
  second_lt : second < 86400
  nano_lt : nano < 2000000000
  deriving DecidableEq

namespace Instant

/-- The first day instants can have: -262143-01-01. -/
def firstDay : Int := Civil.daysFrom (-262143) 1 1

/-- The last day instants can have: 262142-12-31. -/
def lastDay : Int := Civil.daysFrom 262142 12 31

/-- The instant on a day with a second of the day, if the day is in range. -/
def make? (day : Int) (second : Nat) (nano : Nat) : Option Instant :=
  if h : second < 86400 ∧ nano < 2000000000 then
    if firstDay ≤ day ∧ day ≤ lastDay then some ⟨day, second, nano, h.1, h.2⟩ else none
  else none

/-- The instant a number of seconds after the epoch, if it is in range. -/
def ofUnix (secs : Int) : Option Instant :=
  make? (secs / 86400) (secs % 86400).toNat 0

/-- Whole seconds since the epoch, a leap second counting as the second before it. -/
def unixSeconds (t : Instant) : Int := t.day * 86400 + t.second

/-- The instant `d` whole seconds later (earlier when negative), if it is in range. -/
def addSeconds (t : Instant) (d : Int) : Option Instant :=
  if t.nano ≥ 1000000000 ∧ d = 0 then some t
  else
    -- leaving a leap second: forwards from the next second, backwards from the one after it
    let (second, nano) :=
      if t.nano ≥ 1000000000 then
        (if d > 0 then ((t.second : Int), t.nano - 1000000000)
         else ((t.second : Int) + 1, t.nano - 1000000000))
      else ((t.second : Int), t.nano)
    let total := second + d
    make? (t.day + total / 86400) (total % 86400).toNat nano

/-- Year, month and day. -/
def date (t : Instant) : Int × Nat × Nat := Civil.dateOf t.day

/-- Hour, minute and second as shown, a leap second showing as 60. -/
def clock (t : Instant) : Nat × Nat × Nat :=
  let s := t.second
  (s / 3600, s % 3600 / 60, s % 60 + (if t.nano ≥ 1000000000 then 1 else 0))

/-- Nanoseconds into the shown second. -/
def subsecond (t : Instant) : Nat := t.nano % 1000000000

/-- `n` with at least `w` digits, zeros in front. -/
def padded (w : Nat) (n : Nat) : String :=
  let s := toString n
  String.ofList (List.replicate (w - s.length) '0') ++ s

/-- A year with four digits, or with a sign and at least four digits outside 0 to 9999. -/
def yearText (y : Int) : String :=
  if 0 ≤ y ∧ y ≤ 9999 then padded 4 y.toNat
  else (if y < 0 then "-" else "+") ++ padded 4 y.natAbs

/-- `YYYY-MM-DDTHH:MM:SS` of the instant. -/
def dateTimeText (t : Instant) : String :=
  let (y, mo, d) := t.date
  let (h, mi, s) := t.clock
  yearText y ++ "-" ++ padded 2 mo ++ "-" ++ padded 2 d ++ "T" ++
    padded 2 h ++ ":" ++ padded 2 mi ++ ":" ++ padded 2 s

/-- The fraction of the shown second with 3, 6 or 9 digits, the fewest that are exact. -/
def fractionText (t : Instant) : String :=
  let n := t.subsecond
  if n = 0 then ""
  else if n % 1000000 = 0 then "." ++ padded 3 (n / 1000000)
  else if n % 1000 = 0 then "." ++ padded 6 (n / 1000)
  else "." ++ padded 9 n

/-- RFC 3339 text in UTC with the shortest exact fraction. -/
def text (t : Instant) : String := t.dateTimeText ++ t.fractionText ++ "Z"

/-- RFC 3339 text in UTC without a fraction. -/
def wholeText (t : Instant) : String := t.dateTimeText ++ "Z"

/-- The default start of the wall clock: 2024-05-01T10:00:07Z. -/
def fixed : Instant := ⟨Civil.daysFrom 2024 5 1, 36007, 0, by decide, by decide⟩

end Instant

end Turnstile
