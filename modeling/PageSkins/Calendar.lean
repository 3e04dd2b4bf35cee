import PageSkins.Decimal.Notation

/-!
# Days and moments

The proleptic Gregorian calendar, years 1 to 9999.
-/

namespace PageSkins

structure Date where
  year : Nat
  month : Nat
  day : Nat
deriving Repr, DecidableEq, Inhabited

structure Clock where
  hour : Nat := 0
  minute : Nat := 0
  second : Nat := 0
  micro : Nat := 0
deriving Repr, DecidableEq, Inhabited

/-- A day and a time, with the offset from UTC in seconds where one is known. -/
structure Moment where
  date : Date
  clock : Clock
  offset : Option Int := none
deriving Repr, DecidableEq, Inhabited

namespace Date

def isLeap (year : Nat) : Bool := year % 4 == 0 && (year % 100 != 0 || year % 400 == 0)

def daysInMonth (year month : Nat) : Nat :=
  match month with
  | 2 => if isLeap year then 29 else 28
  | 4 | 6 | 9 | 11 => 30
  | _ => 31

/-- The day, if the calendar has it. -/
def ofParts? (year month day : Nat) : Option Date :=
  if 1 ≤ year ∧ year ≤ 9999 ∧ 1 ≤ month ∧ month ≤ 12 ∧ 1 ≤ day ∧ day ≤ daysInMonth year month then
    some ⟨year, month, day⟩
  else none

def daysBeforeYear (year : Nat) : Nat :=
  let y := year - 1
  y * 365 + y / 4 - y / 100 + y / 400

/-- The day of the year, from 1. -/
def ordinalInYear (d : Date) : Nat :=
  ((List.range (d.month - 1)).map fun m => daysInMonth d.year (m + 1)).foldl (· + ·) 0 + d.day

/-- The number of the day; the first day of year 1 has the number 1. -/
def toNumber (d : Date) : Nat := daysBeforeYear d.year + d.ordinalInYear

/-- The month and day within a year that its `n`-th day falls on. The fuel is the number of months left. -/
def monthOf (year : Nat) : Nat → Nat → Nat → Nat × Nat
  | 0, month, n => (month, n)
  | fuel + 1, month, n =>
    let days := daysInMonth year month
    if n ≤ days then (month, n) else monthOf year fuel (month + 1) (n - days)

def ofNumber? (n : Nat) : Option Date :=
  if n = 0 then none
  else
    -- the estimate is at most one year off
    let guess := (n * 400) / 146097 + 1
    let year := if daysBeforeYear (guess + 1) < n then guess + 1
      else if daysBeforeYear guess < n then guess else guess - 1
    let (month, day) := monthOf year 11 1 (n - daysBeforeYear year)
    if year ≤ 9999 then ofParts? year month day else none

/-- The day of the week, with Monday as 1. -/
def weekday (d : Date) : Nat := (d.toNumber + 6) % 7 + 1

end Date

def twoDigits (n : Nat) : List Char := Decimal.padZeros 2 (Decimal.natDigits n)

def Date.iso (d : Date) : List Char :=
  Decimal.padZeros 4 (Decimal.natDigits d.year) ++ '-' :: twoDigits d.month ++ '-' :: twoDigits d.day

/-- Hours, minutes and seconds, and the fraction in six digits where it is not zero. -/
def Clock.iso (c : Clock) : List Char :=
  twoDigits c.hour ++ ':' :: twoDigits c.minute ++ ':' :: twoDigits c.second ++
    if c.micro = 0 then [] else '.' :: Decimal.padZeros 6 (Decimal.natDigits c.micro)

def offsetText (seconds : Int) : List Char :=
  let minutes := seconds.natAbs / 60
  (if seconds < 0 then '-' else '+') :: twoDigits (minutes / 60) ++ ':' :: twoDigits (minutes % 60)

/-- The moment with a `T` between day and time, and `Z` for UTC itself. -/
def Moment.iso (t : Moment) : List Char :=
  t.date.iso ++ 'T' :: t.clock.iso ++ match t.offset with
    | none => []
    | some 0 => ['Z']
    | some s => offsetText s

example : (Date.ofNumber? ((⟨2031, 2, 3⟩ : Date).toNumber)) = some ⟨2031, 2, 3⟩ := by decide +kernel
example : (Date.ofNumber? ((⟨2000, 12, 31⟩ : Date).toNumber)) = some ⟨2000, 12, 31⟩ := by decide +kernel

end PageSkins
