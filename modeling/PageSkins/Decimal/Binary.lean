/-!
# Doubles and their decimals

Doubles are held as exact numbers. `Binary` is a finite double as an integer times a power
of two. `Binary.readsBack` tells which decimals round to it; `Binary.shortest` picks the
fewest digits that do, and of those the nearest.
-/

namespace PageSkins.Decimal

/-- A finite double without its sign, `m * 2^q`. -/
structure Binary where
  m : Nat
  q : Int
  /-- The gap to the value below is half the gap to the value above. -/
  narrowBelow : Bool
deriving Repr, DecidableEq

/-- The magnitude of a finite double. -/
def Binary.ofFloat (x : Float) : Binary :=
  let b := x.toBits
  let e := ((b >>> 52) &&& 0x7FF).toNat
  let f := (b &&& 0xFFFFFFFFFFFFF).toNat
  if e == 0 then ⟨f, -1074, false⟩ else ⟨Nat.pow 2 52 + f, (e : Int) - 1075, f == 0 && e > 1⟩

/-- Whether the sign bit is set. -/
def isNegative (x : Float) : Bool := (x.toBits >>> 63) == 1

/-- A decimal, `digits * 10^exp`. -/
structure Dec where
  digits : Nat
  exp : Int
deriving Repr, DecidableEq

/-- Compares `a * 10^i` with `n * 2^j`, exactly. -/
def cmpScaled (a : Nat) (i : Int) (n : Nat) (j : Int) : Ordering :=
  compare (a * Nat.pow 10 i.toNat * Nat.pow 2 (-j).toNat) (n * Nat.pow 2 j.toNat * Nat.pow 10 (-i).toNat)

/-- Whether a decimal lies among the reals that round to this double, to nearest with ties to even. -/
def Binary.readsBack (x : Binary) (d : Dec) : Bool :=
  let lo := if x.narrowBelow then 4 * x.m - 1 else 4 * x.m - 2
  let hi := 4 * x.m + 2
  let inclusive := x.m % 2 == 0
  let below := cmpScaled d.digits d.exp lo (x.q - 2)
  let above := cmpScaled d.digits d.exp hi (x.q - 2)
  (below == .gt || (inclusive && below == .eq)) && (above == .lt || (inclusive && above == .eq))

/-- The least `k` of a few candidates around the binary logarithm with `m * 2^q < 10^k`. -/
def Binary.scale (x : Binary) : Int :=
  let guess := Int.fdiv ((Nat.log2 x.m + x.q) * 30103) 100000
  let fits (k : Int) : Bool := cmpScaled 1 k x.m x.q == .gt
  if fits (guess - 1) then guess - 1
  else if fits guess then guess
  else if fits (guess + 1) then guess + 1
  else guess + 2

/-- The double in units of `10^e`, rounded down. -/
def Binary.floorAt (x : Binary) (e : Int) : Nat :=
  (x.m * Nat.pow 2 x.q.toNat * Nat.pow 10 (-e).toNat) / (Nat.pow 2 (-x.q).toNat * Nat.pow 10 e.toNat)

/-- The nearest of the two neighbours on the grid of `10^e` that read back, if one does. On a tie the
even neighbour is taken. -/
def Binary.onGrid? (x : Binary) (e : Int) : Option Dec :=
  let d := x.floorAt e
  let low : Dec := ⟨d, e⟩
  let high : Dec := ⟨d + 1, e⟩
  match x.readsBack low, x.readsBack high with
  | true, true =>
    match cmpScaled (2 * d + 1) e (2 * x.m) x.q with
    | .gt => some low
    | .lt => some high
    | .eq => some (if d % 2 == 0 then low else high)
  | true, false => some low
  | false, true => some high
  | false, false => none

/-- Moves trailing zeros of the digits into the exponent. The fuel bounds the number of zeros. -/
def Dec.strip : Nat → Dec → Dec
  | 0, d => d
  | fuel + 1, d => if d.digits ≠ 0 ∧ d.digits % 10 = 0 then Dec.strip fuel ⟨d.digits / 10, d.exp + 1⟩ else d

/-- The exact value, the answer where no grid of seventeen digits holds one. -/
def Binary.exact (x : Binary) : Dec :=
  if 0 ≤ x.q then ⟨x.m * Nat.pow 2 x.q.toNat, 0⟩ else ⟨x.m * Nat.pow 5 (-x.q).toNat, x.q⟩

def Binary.shortest (x : Binary) : Dec :=
  if x.m = 0 then ⟨0, 0⟩
  else
    let k := x.scale
    let found := (List.range 17).findSome? fun n : Nat => x.onGrid? (k - (n : Int) - 1)
    (found.getD x.exact).strip 800

/-- Rounds `num / den` to an integer; a half goes to the even neighbour. -/
def roundDiv (num den : Nat) : Nat :=
  let q := num / den
  match compare (2 * (num % den)) den with
  | .lt => q
  | .gt => q + 1
  | .eq => if q % 2 == 0 then q else q + 1

/-- The double in units of `10^-places`, rounded to the nearest integer. -/
def Binary.roundAt (x : Binary) (places : Nat) : Nat :=
  roundDiv (x.m * Nat.pow 2 x.q.toNat * Nat.pow 10 places) (Nat.pow 2 (-x.q).toNat)

def Binary.truncate (x : Binary) : Nat := x.floorAt 0

def Binary.isInteger (x : Binary) : Bool :=
  (x.m * Nat.pow 2 x.q.toNat) % Nat.pow 2 (-x.q).toNat == 0

/-- A finite double as an integer, cut toward zero. -/
def truncate? (x : Float) : Option Int :=
  if x.isFinite then
    let n := (Binary.ofFloat x).truncate
    some (if isNegative x then -(n : Int) else n)
  else none

def isInteger (x : Float) : Bool := x.isFinite && (Binary.ofFloat x).isInteger

/-- The double nearest to an integer; infinite where there is none in range. -/
def ofInt (n : Int) : Float :=
  if n < 0 then -(Float.ofScientific n.natAbs false 0) else Float.ofScientific n.natAbs false 0

def roundTo (places : Nat) (x : Float) : Float :=
  if x.isFinite then
    let r := Float.ofScientific ((Binary.ofFloat x).roundAt places) true places
    if isNegative x then -r else r
  else x

end PageSkins.Decimal
