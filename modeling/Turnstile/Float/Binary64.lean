/-!
# Double-precision numbers by exact rounding

`Binary64` is a double-precision floating-point value: a sign with either a
finite magnitude `mant * 2 ^ exp` or an infinity. Finite values are kept in the
canonical form of the format: a normal value has `2 ^ 52 ≤ mant < 2 ^ 53`, a
subnormal value or zero has `exp = -1074` and `mant < 2 ^ 52`, and
`exp ≤ 971` throughout.

`Binary64.ofRatio` rounds a non-negative ratio of naturals to the nearest
value, a tie going to the even mantissa, and overflows to infinity exactly when
the rounded magnitude reaches `2 ^ 1024`. Multiplication and division round the
exact result once, as the format prescribes.
-/

namespace Turnstile

/-- A double-precision floating-point value. -/
inductive Binary64 where
  | finite (neg : Bool) (mant : Nat) (exp : Int)
  | infinite (neg : Bool)
  deriving DecidableEq, Repr, Inhabited

namespace Binary64

/-- The smallest exponent of the format. -/
def minExp : Int := -1074

/-- The largest exponent of a finite value. -/
def maxExp : Int := 971

/-- `a * 2 ^ e` as a ratio of naturals, for a natural `a`. -/
def scaled (a : Nat) (e : Int) : Nat × Nat :=
  if 0 ≤ e then (a * Nat.pow 2 e.toNat, 1) else (a, Nat.pow 2 (-e).toNat)

/-- `num / den` rounded to the nearest natural, a tie going to the even one. -/
def roundHalfEven (num den : Nat) : Nat :=
  let q := num / den
  let r := num % den
  if 2 * r > den ∨ (2 * r = den ∧ q % 2 = 1) then q + 1 else q

/-- The exponent `e` with `2 ^ 52 ≤ num / den * 2 ^ (-e) < 2 ^ 53`, for positive `num` and `den`. -/
def normalExp (num den : Nat) : Int :=
  let guess : Int := (Nat.log2 num : Int) - (Nat.log2 den : Int) - 52
  -- the guess is off by at most one; check the lower bound of the mantissa
  let (n, d) := if 0 ≤ guess then (num, den * Nat.pow 2 guess.toNat)
    else (num * Nat.pow 2 (-guess).toNat, den)
  if n < Nat.pow 2 52 * d then guess - 1 else guess

/-- The nearest value to `num / den` with sign `neg`; infinite when it is too large. -/
def ofRatio (neg : Bool) (num den : Nat) : Binary64 :=
  if num = 0 ∨ den = 0 then .finite neg 0 minExp
  else
    let e := max (normalExp num den) minExp
    let (n, d) := if 0 ≤ e then (num, den * Nat.pow 2 e.toNat) else (num * Nat.pow 2 (-e).toNat, den)
    let m := roundHalfEven n d
    let (m, e) := if m = Nat.pow 2 53 then (Nat.pow 2 52, e + 1) else (m, e)
    if e > maxExp then .infinite neg else .finite neg m e

/-- The nearest value to a natural number. -/
def ofNat (n : Nat) : Binary64 := ofRatio false n 1

/-- Whether the value is infinite. -/
def isInfinite : Binary64 → Bool
  | .infinite _ => true
  | .finite .. => false

/-- Whether the value is a zero of either sign. -/
def isZero : Binary64 → Bool
  | .finite _ 0 _ => true
  | _ => false

/-- The value with its sign flipped. -/
def negate : Binary64 → Binary64
  | .finite s m e => .finite (!s) m e
  | .infinite s => .infinite (!s)

/-- The rounded product. -/
def mul : Binary64 → Binary64 → Binary64
  | .finite s m e, .finite t n f =>
    let (a, b) := scaled (m * n) (e + f)
    ofRatio (s != t) a b
  | .finite s m _, .infinite t => if m = 0 then .finite (s != t) 0 minExp else .infinite (s != t)
  | .infinite s, .finite t n _ => if n = 0 then .finite (s != t) 0 minExp else .infinite (s != t)
  | .infinite s, .infinite t => .infinite (s != t)

/-- The rounded quotient by a non-zero finite value; other divisors give infinity. -/
def div : Binary64 → Binary64 → Binary64
  | .finite s m e, .finite t n f =>
    if n = 0 then .infinite (s != t)
    else
      let (a, b) := scaled m e
      let (c, d) := scaled n f
      ofRatio (s != t) (a * d) (b * c)
  | .finite s _ _, .infinite t => .finite (s != t) 0 minExp
  | .infinite s, .finite t _ _ => .infinite (s != t)
  | .infinite s, .infinite t => .infinite (s != t)

/-- The nearest value to `10 ^ k`. -/
def pow10 (k : Nat) : Binary64 := ofNat (Nat.pow 10 k)

end Binary64

end Turnstile
