import Mathlib.Algebra.Field.Defs
import Mathlib.Algebra.Order.Ring.Defs
import PageSkins.Retry

/-!
# Exact amounts of time

Time counted in the numbers of an ordered field, where nothing is rounded and nothing
is too large. What is shown of such amounts is shown of the rules that retries and
breakers follow, not of the doubles that a clock gives.
-/

namespace PageSkins

/-- Exact arithmetic. The one operation that fails is a negative power of zero. -/
instance exactAmount {τ : Type} [Field τ] [LinearOrder τ] : Amount τ where
  ofInt n := .ok n
  zero := 0
  add a b := .ok (a + b)
  sub a b := .ok (a - b)
  mul a b := .ok (a * b)
  power a n := if a = 0 ∧ n < 0 then .error .zeroDivision else .ok (a ^ n)
  less a b := decide (a < b)
  atMost a b := decide (a ≤ b)

end PageSkins
