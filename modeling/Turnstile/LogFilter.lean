import Turnstile.Text.WordChar
import Turnstile.Text.Split

/-!
# Log filter directives

A log filter is a comma-separated list of directives; empty ones are ignored.
A directive is a level on its own, or one or two selectors followed by an
optional `=` and an optional level. A selector is a target name (word
characters, `:` and `-`) or a span in brackets (anything but `]` inside).
Levels are `trace`, `debug`, `info`, `warn`, `error` and `off` in any ASCII
case, or a digit from 0 to 5.
-/

namespace Turnstile.LogFilter

/-- Whether a character may appear in a target name. -/
def isTargetChar (c : Char) : Bool :=
  c = ':' || c = '-' || Text.inRanges Text.wordRanges c.toNat

/-- Whether a text is a level. -/
def isLevel (cs : List Char) : Bool :=
  let w := String.ofList (cs.map Char.toLower)
  ["trace", "debug", "info", "warn", "error", "off", "0", "1", "2", "3", "4", "5"].contains w

/-- Every rest that can follow one selector at the start of `cs`. -/
def afterSelector (cs : List Char) : List (List Char) :=
  match cs with
  | '[' :: rest =>
    match rest.span (· ≠ ']') with
    | (_, ']' :: after) => [after]
    | _ => []
  | _ =>
    let n := (cs.takeWhile isTargetChar).length
    (List.range n).map fun i => cs.drop (i + 1)

/-- Whether what follows the selectors is acceptable: nothing, or `=` with an optional level. -/
def tailOk : List Char → Bool
  | [] => true
  | '=' :: l => l.isEmpty || isLevel l
  | _ => false

/-- Whether one directive is well formed. -/
def directiveOk (cs : List Char) : Bool :=
  isLevel cs || (afterSelector cs).any fun r =>
    tailOk r || (afterSelector r).any tailOk

/-- Whether a whole filter is well formed. -/
def isValid (s : String) : Bool :=
  (Text.splitOn ',' s.toList).all fun d => d.isEmpty || directiveOk d

end Turnstile.LogFilter
