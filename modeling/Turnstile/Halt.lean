/-!
# Halts

A halt stops the service on the spot: a sum of unsigned 64-bit counts that
leaves the range, a monotonic deadline or a wall-clock instant beyond what
time can represent, a span of seconds too large to express, or an
expectation about data that does not hold. Work done before the halt stays
done. `Halt.reason` is the text the service stops with.
-/

namespace Turnstile

/-- Why the service stopped. -/
inductive Halt where
  | deadlineOverflow
  | sumOverflow
  | wallOverflow
  | spanOutOfRange
  | unmet (expectation detail : String)
  deriving DecidableEq, Repr, Inhabited

/-- The text the service stops with. -/
def Halt.reason : Halt → String
  | .deadlineOverflow => "overflow when adding duration to instant"
  | .sumOverflow => "attempt to add with overflow"
  | .wallOverflow => "`DateTime + TimeDelta` overflowed"
  | .spanOutOfRange => "TimeDelta::seconds out of bounds"
  | .unmet e d => e ++ ": " ++ d

end Turnstile
