import PageSkins.Decimal.Binary

/-!
# How numbers are written

Doubles have the fewest digits that identify them, positionally from 10^-4 up to 10^16 and
otherwise with an exponent of at least two digits; integers are written plainly, or in
groups of three.
-/

namespace PageSkins.Decimal

def natDigits (n : Nat) : List Char := Nat.toDigits 10 n

def intText (n : Int) : List Char :=
  if n < 0 then '-' :: natDigits n.natAbs else natDigits n.natAbs

/-- The text of the digits at least `width` long, with zeros in front. -/
def padZeros (width : Nat) (s : List Char) : List Char :=
  List.replicate (width - s.length) '0' ++ s

def Dec.layout (d : Dec) : List Char :=
  let ds := natDigits d.digits
  if d.digits = 0 then "0.0".toList
  else
    -- the exponent of the leading digit
    let e : Int := d.exp + ds.length - 1
    if -4 ≤ e ∧ e < 16 then
      if e < 0 then "0.".toList ++ List.replicate (-e - 1).toNat '0' ++ ds
      else
        let whole := e.toNat + 1
        if ds.length ≤ whole then ds ++ List.replicate (whole - ds.length) '0' ++ ".0".toList
        else ds.take whole ++ '.' :: ds.drop whole
    else
      let mantissa := match ds with
        | [x] => [x]
        | x :: rest => x :: '.' :: rest
        | [] => []
      let sign := if e < 0 then '-' else '+'
      mantissa ++ 'e' :: sign :: padZeros 2 (natDigits e.natAbs)

def floatText (x : Float) : List Char :=
  if x.isNaN then "nan".toList
  else
    let body := if x.isInf then "inf".toList else (Binary.ofFloat x).shortest.layout
    if isNegative x then '-' :: body else body

/-- The digits in groups of three, set apart by commas. -/
def groupThousands (n : Nat) : List Char :=
  let rec go : List Char → List Char
    | a :: b :: c :: d :: rest => a :: b :: c :: ',' :: go (d :: rest)
    | short => short
  (go (natDigits n).reverse).reverse

example : String.ofList (floatText 0.1) = "0.1" := by decide +kernel
example : String.ofList (floatText 1e16) = "1e+16" := by decide +kernel
example : String.ofList (floatText 5e-324) = "5e-324" := by decide +kernel
example : String.ofList (groupThousands 1234567) = "1,234,567" := by decide +kernel

end PageSkins.Decimal
