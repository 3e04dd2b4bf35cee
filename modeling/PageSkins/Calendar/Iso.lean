import PageSkins.Calendar

/-!
# Moments in the text forms of the calendar standard

A day by month or by week, with or without dashes; then any one character and a time, with
or without colons; then an offset.
-/

namespace PageSkins.Calendar

/-- A number of exactly `n` digits at the start of a text, and what follows. -/
def digits? : Nat → List Char → Option (Nat × List Char) :=
  go 0
where
  go (value : Nat) : Nat → List Char → Option (Nat × List Char)
    | 0, s => some (value, s)
    | n + 1, c :: s => if c.isDigit then go (value * 10 + (c.toNat - 48)) n s else none
    | _ + 1, [] => none

/-- The number of the Monday on which the first week of a year starts: the week with its first Thursday. -/
def firstMonday (year : Nat) : Int :=
  let first : Int := Date.daysBeforeYear year + 1
  let weekday := ((⟨year, 1, 1⟩ : Date).weekday : Int) - 1
  let monday := first - weekday
  if weekday > 3 then monday + 7 else monday

/-- Whether a year has 53 weeks. -/
def isLongYear (year : Nat) : Bool :=
  let w := (⟨year, 1, 1⟩ : Date).weekday
  w == 4 || (w == 3 && Date.isLeap year)

def ofWeek? (year week day : Nat) : Option Date :=
  if year = 0 ∨ week = 0 ∨ week > 53 ∨ (week = 53 ∧ !isLongYear year) ∨ day = 0 ∨ day > 7 then none
  else Date.ofNumber? (firstMonday year + ((week - 1) * 7 + day - 1 : Nat)).toNat

/-- Where the day ends in a text that starts with one. A week may be followed by the day of the week; in
doubt, a dash after it starts the time. -/
def dayLength (s : List Char) : Nat :=
  if s.length = 7 then 7
  else if s[4]? = some '-' then
    if s[5]? = some 'W' then
      if s[8]? = some '-' then if (s[10]?.any Char.isDigit) then 8 else 10 else 8
    else 10
  else if s[4]? = some 'W' then
    let pos := 7 + ((s.drop 7).takeWhile Char.isDigit).length
    if pos < 9 then pos else if pos % 2 = 0 then 7 else 8
  else 8

/-- A day. `length` is how many characters it takes. -/
def readDay? (length : Nat) (s : List Char) : Option Date := do
  let (year, r) ← digits? 4 s
  let (dashed, r) := match r with
    | '-' :: r' => (true, r')
    | _ => (false, r)
  let dash (t : List Char) : Option (List Char) :=
    if dashed then (match t with | '-' :: t' => some t' | _ => none) else some t
  match r with
  | 'W' :: r =>
    let (week, r) ← digits? 2 r
    if s.length - r.length < length then
      let (day, _) ← digits? 1 (← dash r)
      ofWeek? year week day
    else ofWeek? year week 1
  | _ =>
    let (month, r) ← digits? 2 r
    let (day, _) ← digits? 2 (← dash r)
    Date.ofParts? year month day

/-- The parts of a time, and whether more follows than the time itself. -/
structure ReadTime where
  clock : Clock
  more : Bool
deriving Repr, DecidableEq

/-- A fraction of a second. Six digits count; any further ones are passed over. -/
def readFraction? (bound : Nat) (s : List Char) : Option (Nat × List Char) := do
  let n := min 6 bound
  let (value, r) ← digits? n s
  return (value * Nat.pow 10 (6 - n), r.dropWhile Char.isDigit)

/-- A time in the first `bound` characters of a text. `step` counts the parts read so far, `colons` tells
whether they are set apart. -/
def readParts? : (left : Nat) → (colons : Bool) → List Nat → (bound : Nat) → List Char → Option ReadTime
  | 0, _, parts, bound, s => fraction parts bound s
  | left + 1, colons, parts, bound, s => do
    let (value, r) ← digits? 2 s
    let parts := parts ++ [value]
    let colons := if parts.length = 1 then r.head? = some ':' else colons
    if bound ≤ 3 then return ⟨clockOf parts 0, !r.isEmpty⟩
    match r with
    | ':' :: r' => if colons then readParts? left colons parts (bound - 3) r' else readParts? left colons parts (bound - 2) r
    | c :: r' =>
      if c = '.' ∨ c = ',' then fraction parts (bound - 3) r'
      else if colons then none
      else readParts? left colons parts (bound - 2) r
    | [] => none
where
  clockOf (parts : List Nat) (micro : Nat) : Clock :=
    ⟨parts[0]?.getD 0, parts[1]?.getD 0, parts[2]?.getD 0, micro⟩
  fraction (parts : List Nat) (bound : Nat) (s : List Char) : Option ReadTime := do
    let (micro, r) ← readFraction? bound s
    return ⟨clockOf parts micro, !r.isEmpty⟩

def readClock? (bound : Nat) (s : List Char) : Option ReadTime := readParts? 3 true [] bound s

/-- A time with an offset. What stands between the digits of the time and the sign of the offset is not
looked at. -/
def readTime? (s : List Char) : Option (Clock × Option Int) := do
  let isSign (c : Char) : Bool := c = '+' || c = '-'
  let before := (s.takeWhile fun c => !isSign c).length
  let time ← readClock? before s
  match s.drop before with
  | [] => if time.more then none else some (time.clock, none)
  | sign :: r =>
    let offset ← readClock? r.length r
    if offset.more then none
    else
      let seconds : Int := offset.clock.hour * 3600 + offset.clock.minute * 60 + offset.clock.second
      if seconds ≥ 86400 then none else some (time.clock, some (if sign = '-' then -seconds else seconds))

def Clock.isValid (c : Clock) : Bool := c.hour < 24 && c.minute < 60 && c.second < 60

def ofIso? (s : List Char) : Option Moment :=
  if s.length < 7 then none
  else do
    let length := dayLength s
    let date ← readDay? length s
    match s.drop length with
    | [] => some ⟨date, {}, none⟩
    | _ :: r =>
      let (clock, offset) ← readTime? r
      if Clock.isValid clock then some ⟨date, clock, offset⟩ else none

def dotted (d : Date) : List Char :=
  Decimal.natDigits d.year ++ '.' :: twoDigits d.month ++ '.' :: twoDigits d.day

def withoutZulu (s : List Char) : List Char := s.flatMap fun c => if c = 'Z' then "+00:00".toList else [c]

/-- A text that names a moment as pages show its day; any other text stays as it is. -/
def shownDate (s : List Char) : List Char :=
  match ofIso? (withoutZulu s) with
  | some t => dotted t.date
  | none => s

end PageSkins.Calendar
