import PageSkins.Calendar.Iso
import PageSkins.Decimal.Reader

/-!
# Moments in records

A day and a time in full, a day alone, or the seconds since the start of 1970.
-/

namespace PageSkins.Calendar

/-- Two digits with a value up to `max`. -/
def twoUpTo? (max : Nat) (s : List Char) : Option (Nat × List Char) := do
  let (n, r) ← digits? 2 s
  if n ≤ max then some (n, r) else none

/-- A day, with dashes. Year zero is let through here and refused with the moment. -/
def stampDay? (s : List Char) : Option (Date × List Char) := do
  let (year, r) ← digits? 4 s
  match r with
  | '-' :: r =>
    let (month, r) ← digits? 2 r
    match r with
    | '-' :: r =>
      let (day, r) ← digits? 2 r
      if 1 ≤ month ∧ month ≤ 12 ∧ 1 ≤ day ∧ day ≤ Date.daysInMonth year month then
        some (⟨year, month, day⟩, r)
      else none
    | _ => none
  | _ => none

/-- A fraction of a second, one digit at least; six count. -/
def stampFraction? (s : List Char) : Option (Nat × List Char) :=
  let ds := s.takeWhile Char.isDigit
  if ds.isEmpty then none
  else
    let six := (ds ++ List.replicate 6 '0').take 6
    some (six.foldl (fun n c => n * 10 + (c.toNat - 48)) 0, s.dropWhile Char.isDigit)

/-- A time of day: seconds and their fraction may be left out. -/
def stampClock? (s : List Char) : Option (Clock × List Char) := do
  let (hour, r) ← twoUpTo? 23 s
  match r with
  | ':' :: r =>
    let (minute, r) ← twoUpTo? 59 r
    match r with
    | ':' :: r =>
      let (second, r) ← twoUpTo? 59 r
      match r with
      | c :: r' =>
        if c = '.' ∨ c = ',' then
          let (micro, r) ← stampFraction? r'
          return (⟨hour, minute, second, micro⟩, r)
        else return (⟨hour, minute, second, 0⟩, r)
      | [] => return (⟨hour, minute, second, 0⟩, [])
    | _ => return (⟨hour, minute, 0, 0⟩, r)
  | _ => none

/-- The offset that ends a stamp: nothing, `Z`, or hours and minutes after a sign. -/
def stampOffset? : List Char → Option (Option Int)
  | [] => some none
  | ['Z'] | ['z'] => some (some 0)
  | c :: r => do
    let negative ← if c = '+' then some false else if c = '-' ∨ c = '\u2212' then some true else none
    let (hours, r) ← digits? 2 r
    let r := match r with
      | ':' :: r' => r'
      | _ => r
    let (minutes, r) ← twoUpTo? 59 r
    let seconds : Int := hours * 3600 + minutes * 60
    if r.isEmpty ∧ seconds < 86400 then some (some (if negative then -seconds else seconds)) else none

def stampMoment? (s : List Char) : Option Moment := do
  let (date, r) ← stampDay? s
  match r with
  | c :: r =>
    if c = 'T' ∨ c = 't' ∨ c = ' ' ∨ c = '_' then
      let (clock, r) ← stampClock? r
      let offset ← stampOffset? r
      return ⟨date, clock, offset⟩
    else none
  | [] => none

/-- The moment so many seconds and millionths after the start of 1970, from year 1600 to 9999. A number
beyond twenty thousand million counts thousandths of a second. -/
def ofEpoch? (number : Int) (micro : Nat) : Option Moment :=
  let (seconds, extra) :=
    if number.natAbs ≤ 20000000000 then (number, 0)
    else (number.fdiv 1000, (number.fmod 1000).toNat * 1000)
  let total := extra + micro
  let seconds := seconds + (total / 1000000 : Nat)
  if seconds < -11676096000 ∨ seconds > 253402300799 then none
  else
    let ofDay := (seconds.fmod 86400).toNat
    (Date.ofNumber? (seconds.fdiv 86400 + 719163).toNat).map fun date =>
      ⟨date, ⟨ofDay / 3600, ofDay / 60 % 60, ofDay % 60, total % 1000000⟩, some 0⟩

def inRange (n : Int) : Bool := -(Int.pow 2 63) ≤ n && n < Int.pow 2 63

/-- A double as a count: its whole part downwards, and the millionths of its fraction. -/
def ofEpochFloat? (x : Float) : Option Moment :=
  match Decimal.truncate? x.floor with
  | some whole =>
    if inRange whole then
      let fraction := Float.abs (x - (if x < 0 then x.ceil else x.floor))
      ofEpoch? whole (Float.round (fraction * 1000000.0)).toUInt64.toNat
    else none
  | none => none

def ofEpochText? (s : List Char) : Option Moment :=
  let (negative, body) := Decimal.takeSign s
  let whole := body.takeWhile Char.isDigit
  let value (n : Int) : Int := if negative then -n else n
  if whole.isEmpty then none
  else
    let n : Int := Decimal.ofDigits 10 (whole.map fun c => c.toNat - 48)
    match body.dropWhile Char.isDigit with
    | [] => if inRange n then ofEpoch? (value n) 0 else none
    | '.' :: fraction =>
      if fraction.all Char.isDigit ∧ inRange n then
        let micro := if negative then 0
          else
            let x := Decimal.scaled (Decimal.ofDigits 10 ((whole ++ fraction).map fun c => c.toNat - 48))
              (-fraction.length)
            (Float.round ((x - x.floor) * 1000000.0)).toUInt64.toNat
        ofEpoch? (value n) micro
      else none
    | _ => none

/-- What a stamp is read as. -/
inductive Stamp where
  | moment (t : Moment)
  /-- A moment in the year zero, which the calendar does not have. -/
  | yearZero
  | none
deriving Repr, DecidableEq

def Stamp.ofMoment (t : Moment) : Stamp := if t.date.year = 0 then .yearZero else .moment t

/-- The moment that a stamp names; a day alone stands for its first moment. -/
def readStamp (s : List Char) : Stamp :=
  match stampMoment? s with
  | some t => .ofMoment t
  | none =>
    match ofEpochText? s with
    | some t => .moment t
    | none =>
      match stampDay? s with
      | some (date, []) => .ofMoment ⟨date, {}, none⟩
      | _ => .none

end PageSkins.Calendar
