import Turnstile.Float.Binary64

/-!
# Shortest decimal text of a double

Every finite double is the nearest double to all reals of an interval around
it: halfway to each neighbour, the halfway points included when the mantissa
is even. `Binary64.shortestDigits` finds the fewest significant decimal digits
of a number inside that interval; of the two such numbers next to the value
on the same decimal grid it takes the nearer, and the upper one on an exact
tie. `Binary64.positional` writes the digits without an exponent: leading
`0.` and zeros for values below one, trailing zeros for large values, and a
`-` for a negative sign, zero included.
-/

namespace Turnstile

namespace Binary64

/-- `a / b ≤ c / d` for positive denominators. -/
def ratioLe (a b c d : Nat) : Bool := a * d ≤ c * b

/-- `a / b < c / d` for positive denominators. -/
def ratioLt (a b c d : Nat) : Bool := a * d < c * b

/-- `q * 10 ^ k` as a ratio of naturals. -/
def decimalRatio (q : Nat) (k : Int) : Nat × Nat :=
  if 0 ≤ k then (q * Nat.pow 10 k.toNat, 1) else (q, Nat.pow 10 (-k).toNat)

/-- The largest `E` with `10 ^ E ≤ a / b`, for positive `a` and `b`, searched with `fuel` steps below one. -/
def decimalExponent (a b : Nat) (fuel : Nat := 400) : Int :=
  if b ≤ a then ((toString (a / b)).length : Int) - 1
  else
    let rec below (j : Nat) : Nat → Int
      | 0 => -(j : Int)
      | f + 1 => if b ≤ a * Nat.pow 10 j then -(j : Int) else below (j + 1) f
    below 1 fuel

/-- Significant digits and the decimal exponent `k` of the shortest decimal `digits * 10 ^ k`
that rounds to the positive finite value `mant * 2 ^ exp`. -/
def shortestDigits (mant : Nat) (exp : Int) : Nat × Int :=
  -- the value and the ends of its rounding interval, in units of 2 ^ (exp - 2)
  let boundary := mant = Nat.pow 2 52 ∧ exp > minExp
  let (v, lo, hi) := (4 * mant, if boundary then 4 * mant - 1 else 4 * mant - 2, 4 * mant + 2)
  let inclusive := mant % 2 = 0
  let (vn, vd) := scaled v (exp - 2)
  let (ln, ld) := scaled lo (exp - 2)
  let (hn, hd) := scaled hi (exp - 2)
  let inside := fun (q : Nat) (k : Int) =>
    let (cn, cd) := decimalRatio q k
    if inclusive then ratioLe ln ld cn cd && ratioLe cn cd hn hd
    else ratioLt ln ld cn cd && ratioLt cn cd hn hd
  let e := decimalExponent vn vd
  let rec search : Nat → Nat → Nat × Int
    | _, 0 => (0, 0)
    | n, f + 1 =>
      let k : Int := e - n + 1
      let (gn, gd) := decimalRatio 1 k
      -- the value's lower neighbour on the grid of step 10 ^ k
      let q := (vn * gd) / (vd * gn)
      let downOk := inside q k
      let upOk := inside (q + 1) k
      if downOk && upOk then
        let (cn, cd) := decimalRatio q k
        let (un, ud) := decimalRatio (q + 1) k
        -- distances from the value, compared over a common denominator
        let below := vn * cd - cn * vd
        let above := un * vd - vn * ud
        if below * ud < above * cd then (q, k) else (q + 1, k)
      else if downOk then (q, k)
      else if upOk then (q + 1, k)
      else search (n + 1) f
  search 1 17

/-- The digits of `q * 10 ^ k` without trailing zeros, and the position of the decimal point
counted from the left of those digits. -/
def digitsAndPoint (q : Nat) (k : Int) : List Char × Int :=
  let ds := (toString q).toList
  let trimmed := (ds.reverse.dropWhile (· = '0')).reverse
  (trimmed, (ds.length : Int) + k)

/-- Digits with the decimal point at `point`, without an exponent. -/
def placePoint (ds : List Char) (point : Int) : String :=
  if point ≤ 0 then "0." ++ String.ofList (List.replicate (-point).toNat '0') ++ String.ofList ds
  else if point < ds.length then
    String.ofList (ds.take point.toNat) ++ "." ++ String.ofList (ds.drop point.toNat)
  else String.ofList ds ++ String.ofList (List.replicate (point.toNat - ds.length) '0')

/-- The positional decimal text of a value. -/
def positional : Binary64 → String
  | .infinite neg => (if neg then "-" else "") ++ "inf"
  | .finite neg m e =>
    let sign := if neg then "-" else ""
    if m = 0 then sign ++ "0"
    else
      let (q, k) := shortestDigits m e
      let (ds, point) := digitsAndPoint q k
      sign ++ placePoint ds point

end Binary64

end Turnstile
