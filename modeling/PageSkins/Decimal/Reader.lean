import PageSkins.Decimal.Binary
import PageSkins.Text.Blank
import PageSkins.Text.Digit

/-!
# Numbers read from text

Integers and doubles with single underscores between digits, digits of any script, and
blanks around them.
-/

namespace PageSkins.Decimal

open PageSkins.Text

/-- The value of a list of digit values, most significant first. -/
def ofDigits (base : Nat) (ds : List Nat) : Nat := ds.foldl (fun n d => n * base + d) 0

/-- A run of digits at the start of a text, with single underscores between them, and what follows. -/
def takeDigits : List Char → List Nat × List Char
  | '_' :: c :: rest =>
    match digitValue? c with
    | some d => let (ds, r) := takeDigits rest; (d :: ds, r)
    | none => ([], '_' :: c :: rest)
  | c :: rest =>
    match digitValue? c with
    | some d => let (ds, r) := takeDigits rest; (d :: ds, r)
    | none => ([], c :: rest)
  | [] => ([], [])

def digitRun (s : List Char) : List Nat × List Char :=
  match s with
  | '_' :: _ => ([], s)
  | _ => takeDigits s

/-- A sign at the start of a text: true for minus. -/
def takeSign : List Char → Bool × List Char
  | '-' :: r => (true, r)
  | '+' :: r => (false, r)
  | r => (false, r)

/-- An integer: digits with an optional sign, blanks around them allowed. -/
def readInt? (s : List Char) : Option Int :=
  let (neg, body) := takeSign (trim s)
  match digitRun body with
  | ([], _) => none
  | (ds, []) => some (if neg then -(ofDigits 10 ds : Int) else ofDigits 10 ds)
  | _ => none

/-- The double `digits * 10^exp`, correctly rounded. Exponents beyond every double are cut off first. -/
def scaled (digits : Nat) (exp : Int) : Float :=
  if digits = 0 then 0.0
  else if exp > 400 then Float.ofScientific digits false 400
  else if exp + (Nat.log2 digits : Int) < -400 ∧ exp < -20000 then 0.0
  else if exp < 0 then Float.ofScientific digits true exp.natAbs
  else Float.ofScientific digits false exp.toNat

def specialWord? (s : List Char) : Option Float :=
  let w := s.map Char.toLower
  if w = "inf".toList ∨ w = "infinity".toList then some (1.0 / 0.0)
  else if w = "nan".toList then some (0.0 / 0.0)
  else none

/-- An exponent part: nothing, or `e` and a signed run of digits. -/
def readExponent? : List Char → Option Int
  | [] => some 0
  | c :: r =>
    if c = 'e' ∨ c = 'E' then
      let (neg, body) := takeSign r
      match digitRun body with
      | ([], _) => none
      | (ds, []) => some (if neg then -(ofDigits 10 ds : Int) else ofDigits 10 ds)
      | _ => none
    else none

def readMagnitude? (s : List Char) : Option Float :=
  match specialWord? s with
  | some x => some x
  | none =>
    let (whole, r) := digitRun s
    let (frac, r) := match r with
      | '.' :: r' => digitRun r'
      | _ => ([], r)
    if whole.isEmpty && frac.isEmpty then none
    else (readExponent? r).map fun e => scaled (ofDigits 10 (whole ++ frac)) (e - frac.length)

/-- A double: an optional sign, digits with a point, an exponent, or one of the words for infinity and for
no number; blanks around it allowed. -/
def readFloat? (s : List Char) : Option Float :=
  let (neg, body) := takeSign (trim s)
  (readMagnitude? body).map fun x => if neg then -x else x

end PageSkins.Decimal
