import PageSkins.Calendar
import PageSkins.Yaml.Scalar

/-!
# Plain scalars of YAML

Plain scalars look like flags, numbers, moments, nothing at all, or text.
-/

namespace PageSkins.Yaml

open PageSkins.Decimal

/-- What a plain scalar stands for. -/
inductive Look where
  | null
  | flag
  | integer
  | float
  | moment
  /-- The key under which a mapping takes in others. -/
  | merge
  /-- The key of a default value. -/
  | default
  | text
deriving Repr, DecidableEq

def isDigit (c : Char) : Bool := '0' ≤ c && c ≤ '9'

def isDigitOrLine (c : Char) : Bool := isDigit c || c = '_'

def unsigned (s : List Char) : List Char := (takeSign s).2

def flagWords : List String := [
  "yes", "Yes", "YES", "no", "No", "NO", "true", "True", "TRUE", "false", "False", "FALSE", "on", "On", "ON", "off",
  "Off", "OFF"]

/-- Whether all that follows are minutes and seconds: a colon and one or two digits each. -/
def areSixtieths : List Char → Bool
  | ':' :: a :: b :: s =>
    if isDigit b then '0' ≤ a && a ≤ '5' && areSixtieths s else isDigit a && areSixtieths (b :: s)
  | [':', a] => isDigit a
  | s => s.isEmpty

def isInteger (s : List Char) : Bool :=
  match unsigned s with
  | ['0'] => true
  | '0' :: 'b' :: s => !s.isEmpty && s.all fun c => c = '0' || c = '1' || c = '_'
  | '0' :: 'x' :: s => !s.isEmpty && s.all fun c => (hexDigit? c).isSome || c = '_'
  | '0' :: s => s.all fun c => ('0' ≤ c && c ≤ '7') || c = '_'
  | c :: s => isDigit c && areSixtieths (s.dropWhile isDigitOrLine)
  | [] => false

/-- An exponent with its sign, or nothing. -/
def isExponent : List Char → Bool
  | [] => true
  | e :: sign :: s => (e = 'e' || e = 'E') && (sign = '+' || sign = '-') && !s.isEmpty && s.all isDigit
  | _ => false

def isFraction (s : List Char) : Bool := isExponent (s.dropWhile isDigitOrLine)

def isFloat (s : List Char) : Bool :=
  match s with
  | '.' :: c :: r => (isDigit c && isFraction r) || s = ".nan".toList || s = ".NaN".toList || s = ".NAN".toList ||
      s = ".inf".toList || s = ".Inf".toList || s = ".INF".toList
  | s =>
    match unsigned s with
    | '.' :: r => r = "inf".toList || r = "Inf".toList || r = "INF".toList
    | c :: r =>
      isDigit c &&
        match r.dropWhile isDigitOrLine with
        | '.' :: r => isFraction r
        | r =>
          -- minutes and seconds, the last ones with a point
          let whole := r.takeWhile (· != '.')
          !whole.isEmpty && areSixtieths whole && whole.length < r.length &&
            (r.drop (whole.length + 1)).all isDigitOrLine
    | [] => false

def shortNumber? : List Char → Option (Nat × List Char)
  | a :: b :: s =>
    if isDigit a then
      if isDigit b then some ((a.toNat - 48) * 10 + (b.toNat - 48), s) else some (a.toNat - 48, b :: s)
    else none
  | [a] => if isDigit a then some (a.toNat - 48, []) else none
  | [] => none

def pair? : List Char → Option (Nat × List Char)
  | a :: b :: s => if isDigit a ∧ isDigit b then some ((a.toNat - 48) * 10 + (b.toNat - 48), s) else none
  | _ => none

def expect? (c : Char) : List Char → Option (List Char)
  | x :: s => if x = c then some s else none
  | [] => none

/-- A moment as it is written, before the calendar is asked. -/
structure Stamp where
  year : Nat
  month : Nat
  day : Nat
  clock : Option Clock := none
  /-- Minutes from UTC, if told. -/
  offset : Option Int := none

/-- An offset, after blanks: `Z`, or a sign and hours, and minutes after a colon. -/
def offset? (s : List Char) : Option (Option Int) :=
  match s.dropWhile fun c => c = ' ' || c = '\t' with
  | [] => if s.isEmpty then some none else none
  | ['Z'] => some (some 0)
  | c :: r => do
    let sign : Int ← if c = '+' then some 1 else if c = '-' then some (-1) else none
    let (hours, r) ← shortNumber? r
    match r with
    | [] => return some (sign * (hours * 60))
    | ':' :: r =>
      let (minutes, r) ← pair? r
      if r.isEmpty then some (some (sign * (hours * 60 + minutes))) else none
    | _ => none

/-- A day, or a day and a time with blanks or a `T` between them. -/
def stamp? (s : List Char) : Option Stamp := do
  let (century, r) ← pair? s
  let (year, r) ← pair? r
  let (month, r) ← shortNumber? (← expect? '-' r)
  let (day, r) ← shortNumber? (← expect? '-' r)
  let found : Stamp := ⟨century * 100 + year, month, day, none, none⟩
  match r with
  | [] => some found
  | c :: r' =>
    let r ← if c = 'T' ∨ c = 't' then some r' else
      if c = ' ' ∨ c = '\t' then some (r'.dropWhile fun c => c = ' ' || c = '\t') else none
    let (hour, r) ← shortNumber? r
    let (minute, r) ← pair? (← expect? ':' r)
    let (second, r) ← pair? (← expect? ':' r)
    let (fraction, r) := match r with
      | '.' :: r => r.span isDigit
      | r => ([], r)
    let six := (fraction ++ List.replicate 6 '0').take 6
    let offset ← offset? r
    let micro := ofDigits 10 (six.map fun c => c.toNat - 48)
    return { found with clock := some ⟨hour, minute, second, micro⟩, offset }

/-- A day alone has all its digits. -/
def isMoment (s : List Char) : Bool := (stamp? s).any fun t => t.clock.isSome || s.length = 10

def lookOf (s : List Char) : Look :=
  if flagWords.any (·.toList = s) then .flag
  else if isFloat s then .float
  else if isInteger s then .integer
  else if s = ['<', '<'] then .merge
  else if s = [] ∨ s = ['~'] ∨ s = "null".toList ∨ s = "Null".toList ∨ s = "NULL".toList then .null
  else if isMoment s then .moment
  else if s = ['='] then .default
  else .text

/-! ## Their values -/

def flagOf (s : List Char) : Except Fault Bool :=
  let word := String.ofList (s.map Char.toLower)
  if ["yes", "true", "on"].contains word then .ok true
  else if ["no", "false", "off"].contains word then .ok false
  else .error (.unknownFlag word)

/-- Integers of more digits than this are not converted from base ten. -/
def maxDigits : Nat := 4300

/-- Digits in a base that is a power of two. -/
def digitsIn (base : Nat) (s : List Char) : Except Fault Nat :=
  match s.mapM hexDigit? with
  | some ds => if ds.isEmpty || ds.any (· ≥ base) then .error .badValue else .ok (ofDigits base ds)
  | none => .error .badValue

def wholeOf (s : List Char) : Except Fault Int :=
  if s.length > maxDigits then .error .badValue
  else match readInt? s with
    | some n => .ok n
    | none => .error .badValue

def cutAtColons (s : List Char) : List (List Char) :=
  s.foldr (fun c parts => if c = ':' then [] :: parts else match parts with
    | part :: rest => (c :: part) :: rest
    | [] => [[c]]) [[]]

/-- An integer: in base two, eight, ten or sixteen, or in sixties. -/
def integerOf (s : List Char) : Except Fault Int := do
  let s := s.filter (· != '_')
  if s.isEmpty then throw .noDigits
  let (negative, body) := takeSign s
  let n : Int ← match body with
    | [] => throw .noDigits
    | ['0'] => pure 0
    | '0' :: 'b' :: r => Int.ofNat <$> digitsIn 2 r
    | '0' :: 'x' :: r => Int.ofNat <$> digitsIn 16 r
    | '0' :: _ => Int.ofNat <$> digitsIn 8 body
    | _ =>
      if body.contains ':' then do
        pure ((← (cutAtColons body).mapM wholeOf).foldl (fun n d => n * 60 + d) 0)
      else wholeOf body
  return if negative then -n else n

def doubleOf (s : List Char) : Except Fault Float :=
  match readFloat? s with
  | some x => .ok x
  | none => .error .badValue

/-- A double, with a point or in sixties. -/
def floatOf (s : List Char) : Except Fault Float := do
  let s := (s.filter (· != '_')).map Char.toLower
  if s.isEmpty then throw .noDigits
  let (negative, body) := takeSign s
  let x ←
    if body = ".inf".toList then pure (1.0 / 0.0)
    else if body = ".nan".toList then return 0.0 / 0.0
    else if body.contains ':' then do
      let parts ← (cutAtColons body).mapM doubleOf
      pure (parts.reverse.foldl (fun (sum, base) d => (sum + d * base, base * 60.0)) (0.0, 1.0)).1
    else doubleOf body
  return if negative then -x else x

/-- The day or moment of a stamp, if the calendar and the clock have it. -/
def momentOf (s : List Char) : Except Fault (Date ⊕ Moment) := do
  let some t := stamp? s | throw .noMoment
  let some date := Date.ofParts? t.year t.month t.day | throw .badValue
  let some clock := t.clock | return .inl date
  unless clock.hour < 24 ∧ clock.minute < 60 ∧ clock.second < 60 do throw .badValue
  match t.offset with
  | none => return .inr ⟨date, clock, none⟩
  | some minutes =>
    unless minutes.natAbs < 24 * 60 do throw .badValue
    return .inr ⟨date, clock, some (minutes * 60)⟩

end PageSkins.Yaml
