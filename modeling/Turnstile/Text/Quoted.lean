import Turnstile.Text.Unprintable
import Turnstile.Text.GraphemeExtend

/-!
# Double-quoted text with backslash escapes

`Text.quote` writes a string between double quotes so that every character can
be read back unambiguously: the quote and the backslash are preceded by a
backslash, NUL, tab, carriage return and line feed get their one-letter
escapes, and a character that is unprintable or that extends the grapheme
before it is written as its code point in lower-case hexadecimal,
`\u{301}`. Everything else, including the apostrophe and printable non-ASCII
text, stands for itself.
-/

namespace Turnstile.Text

/-- A character is printable when no unprintable range contains it. -/
def isPrintable (c : Char) : Bool :=
  !inRanges unprintableRanges c.toNat

/-- A character extends the grapheme before it when a grapheme-extend range contains it. -/
def isGraphemeExtend (c : Char) : Bool :=
  inRanges graphemeExtendRanges c.toNat

/-- Lower-case hexadecimal digits of `n`, without leading zeros. -/
def hexDigits (n : Nat) : String :=
  String.ofList (Nat.toDigits 16 n)

/-- The code point of `c` as a braced hexadecimal escape. -/
def codePointEscape (c : Char) : String :=
  "\\u\x7b" ++ hexDigits c.toNat ++ "\x7d"

/-- How one character is written inside double quotes. -/
def escapeChar (c : Char) : String :=
  if c = '\x00' then "\\0"
  else if c = '\t' then "\\t"
  else if c = '\r' then "\\r"
  else if c = '\n' then "\\n"
  else if c = '\\' then "\\\\"
  else if c = '"' then "\\\""
  else if isGraphemeExtend c || !isPrintable c then codePointEscape c
  else c.toString

/-- The text between double quotes, each character escaped by `escapeChar`. -/
def quote (s : String) : String :=
  "\"" ++ String.join (s.toList.map escapeChar) ++ "\""

end Turnstile.Text
