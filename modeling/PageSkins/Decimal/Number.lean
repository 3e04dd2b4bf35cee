import PageSkins.Decimal.Binary

/-!
# Integers and doubles together

Numbers are integers as long as they can be: sums, differences and products of integers are
integers, and with a double the result is one. Integers and doubles are compared exactly.
-/

namespace PageSkins.Decimal

/-- An integer or a double. -/
inductive Number where
  | int (n : Int)
  | float (x : Float)
deriving Inhabited

/-- Why a number has no result. -/
inductive Overrun where
  /-- An integer is too large to be a double, or a power is. -/
  | tooLarge
  /-- A negative power of zero. -/
  | zeroDivision
deriving Repr, DecidableEq

namespace Number

/-- The double nearest to an integer, if there is one in range. -/
def double? (n : Int) : Except Overrun Float :=
  let x := ofInt n
  if x.isInf then .error .tooLarge else .ok x

def toDouble : Number → Except Overrun Float
  | .int n => double? n
  | .float x => .ok x

/-- An operation that keeps integers. -/
def combine (exact : Int → Int → Int) (rounded : Float → Float → Float) (a b : Number) : Except Overrun Number :=
  match a, b with
  | .int m, .int n => .ok (.int (exact m n))
  | a, b => do return .float (rounded (← a.toDouble) (← b.toDouble))

def add (a b : Number) : Except Overrun Number := combine (· + ·) (· + ·) a b

def sub (a b : Number) : Except Overrun Number := combine (· - ·) (· - ·) a b

def mul (a b : Number) : Except Overrun Number := combine (· * ·) (· * ·) a b

/-- Which power of two a double is, if it is one from two on. -/
def binaryExponent? (x : Float) : Option Nat :=
  let b := Binary.ofFloat x
  if x.isFinite && !isNegative x && b.m == Nat.pow 2 52 && 0 < b.q + 52 then some (b.q + 52).toNat else none

/-- A double to an integer power. Powers of a power of two are exact as long as there is one in range. -/
def powerOfDouble (x : Float) (n : Int) : Except Overrun Float :=
  match binaryExponent? x, n with
  | some k, .ofNat n => if k * n < 1024 then .ok (ofInt (Int.pow 2 (k * n))) else .error .tooLarge
  | _, _ => do
    if x == 0.0 ∧ n < 0 then throw .zeroDivision
    let y := x ^ (← double? n)
    if y.isInf && x.isFinite then throw .tooLarge
    return y

def power (a : Number) (n : Int) : Except Overrun Number :=
  match a with
  | .int m => if 0 ≤ n then .ok (.int (m.pow n.toNat)) else do return .float (← powerOfDouble (← double? m) n)
  | .float x => do return .float (← powerOfDouble x n)

/-- How an integer compares with a double; nothing compares with a double that is no number. -/
def compareInt (n : Int) (x : Float) : Option Ordering :=
  if x.isNaN then none
  else if x.isInf then some (if isNegative x then .gt else .lt)
  else
    let b := Binary.ofFloat x
    let size := cmpScaled n.natAbs 0 b.m b.q
    some <| match decide (n < 0), isNegative x && b.m != 0 with
      | true, false => .lt
      | false, true => .gt
      | false, false => size
      | true, true => size.swap

def compare? : Number → Number → Option Ordering
  | .int m, .int n => some (compare m n)
  | .int m, .float y => compareInt m y
  | .float x, .int n => (compareInt n x).map Ordering.swap
  | .float x, .float y => if x < y then some .lt else if x == y then some .eq else if y < x then some .gt else none

end Number
end PageSkins.Decimal
