import PageSkins.Value
import PageSkins.Decimal.Reader
import PageSkins.Calendar

/-!
# The values and keys of TOML

Text comes with line feeds as its only line ends.
-/

namespace PageSkins.Toml

open PageSkins.Decimal

/-- Why a document is not read. -/
inductive Fault where
  | malformed
  /-- An integer has more digits than are converted. -/
  | integerTooLong
deriving Repr, DecidableEq

abbrev Read (α : Type) := Except Fault (α × List Char)

def isSpace (c : Char) : Bool := c = ' ' || c = '\t'

def skipSpace (s : List Char) : List Char := s.dropWhile isSpace

/-- Control characters other than the tab, which stand in no text of one line. -/
def isControl (c : Char) : Bool := c != '\t' && (c.toNat < 0x20 || c = '\x7f')

def skipComment : List Char → Except Fault (List Char)
  | '#' :: s =>
    if (s.takeWhile (· != '\n')).any isControl then .error .malformed else .ok (s.dropWhile (· != '\n'))
  | s => .ok s

/-- Blanks, line ends and comments between the items of a list. The fuel bounds the number of comments. -/
def skipBetween : Nat → List Char → Except Fault (List Char)
  | 0, s => .ok s
  | fuel + 1, s =>
    match s.dropWhile fun c => isSpace c || c = '\n' with
    | '#' :: r => do skipBetween fuel (← skipComment ('#' :: r))
    | r => .ok r

def hexNumber? (ds : List Char) : Option Nat := do
  let vs ← ds.mapM fun c =>
    if c.isDigit then some (c.toNat - 48)
    else if 'a' ≤ c ∧ c ≤ 'f' then some (c.toNat - 87)
    else if 'A' ≤ c ∧ c ≤ 'F' then some (c.toNat - 55)
    else none
  return ofDigits 16 vs

/-- The character with a number written in base sixteen. Surrogates are no characters. -/
def escaped? (ds : List Char) : Option Char := do
  let n ← hexNumber? ds
  if n < 0xD800 ∨ (0xDFFF < n ∧ n < 0x110000) then some (Char.ofNat n) else none

def shortEscape? : Char → Option Char
  | 'b' => some '\x08'
  | 't' => some '\t'
  | 'n' => some '\n'
  | 'f' => some '\x0c'
  | 'r' => some '\r'
  | '"' => some '"'
  | '\\' => some '\\'
  | _ => none

/-- Where a reader of quoted text stands. -/
inductive Place where
  | text
  /-- After a backslash and blanks: a line end has to come. -/
  | lineEnd
  /-- After a backslash at a line end: blanks and line ends do not count. -/
  | margin
deriving DecidableEq

/-- Up to two more quotes belong to a text before the three that end it. -/
def extraQuotes (quote : Char) (out : List Char) : List Char → List Char × List Char
  | a :: b :: s =>
    if a = quote then if b = quote then (quote :: quote :: out, s) else (quote :: out, b :: s) else (out, a :: b :: s)
  | a :: s => if a = quote then (quote :: out, s) else (out, a :: s)
  | [] => (out, [])

/-- Text in double quotes after the opening ones; `out` holds what was read, last character first. -/
def quotedBody (lines : Bool) (place : Place) (out : List Char) (s : List Char) : Read (List Char) :=
  match s with
  | [] => .error .malformed
  | c :: s =>
    if place = .lineEnd then
      if isSpace c then quotedBody lines .lineEnd out s
      else if c = '\n' then quotedBody lines .margin out s
      else .error .malformed
    else if place = .margin ∧ (isSpace c ∨ c = '\n') then quotedBody lines .margin out s
    else match c, s with
      | '\\', 'u' :: a :: b :: c :: d :: s =>
        match escaped? [a, b, c, d] with
        | some x => quotedBody lines .text (x :: out) s
        | none => .error .malformed
      | '\\', 'U' :: a :: b :: c :: d :: e :: f :: g :: h :: s =>
        match escaped? [a, b, c, d, e, f, g, h] with
        | some x => quotedBody lines .text (x :: out) s
        | none => .error .malformed
      | '\\', c :: s =>
        if lines ∧ c = '\n' then quotedBody lines .margin out s
        else if lines ∧ isSpace c then quotedBody lines .lineEnd out s
        else match shortEscape? c with
          | some x => quotedBody lines .text (x :: out) s
          | none => .error .malformed
      | '\\', [] => .error .malformed
      | '"', '"' :: '"' :: s =>
        if lines then
          let (out, rest) := extraQuotes '"' out s
          .ok (out.reverse, rest)
        else .ok (out.reverse, '"' :: '"' :: s)
      | '"', s => if lines then quotedBody lines .text ('"' :: out) s else .ok (out.reverse, s)
      | c, s =>
        if isControl c ∧ ¬ (lines ∧ c = '\n') then .error .malformed else quotedBody lines .text (c :: out) s
termination_by s.length

def plainBody (s : List Char) : Read (List Char) :=
  let body := s.takeWhile (· != '\'')
  match s.drop body.length with
  | _ :: rest => if body.any isControl then .error .malformed else .ok (body, rest)
  | [] => .error .malformed

/-- Text of several lines in single quotes after the opening ones. -/
def plainLines (out : List Char) : List Char → Read (List Char)
  | [] => .error .malformed
  | '\'' :: '\'' :: '\'' :: s =>
    let (out, rest) := extraQuotes '\'' out s
    .ok (out.reverse, rest)
  | c :: s => if isControl c ∧ c ≠ '\n' then .error .malformed else plainLines (c :: out) s

/-- The line end right after the opening quotes does not count. -/
def dropLineEnd : List Char → List Char
  | '\n' :: s => s
  | s => s

def isBareKeyChar (c : Char) : Bool := c.isAlphanum || c = '-' || c = '_'

def keyPart : List Char → Except Fault (String × List Char)
  | '\'' :: s => do
    let (t, rest) ← plainBody s
    return (String.ofList t, rest)
  | '"' :: s => do
    let (t, rest) ← quotedBody false .text [] s
    return (String.ofList t, rest)
  | s =>
    let bare := s.takeWhile isBareKeyChar
    if bare.isEmpty then .error .malformed else .ok (String.ofList bare, s.drop bare.length)

/-- A key: parts with points between them. The fuel bounds the number of parts. -/
def key : Nat → List Char → Except Fault (List String × List Char)
  | 0, _ => .error .malformed
  | fuel + 1, s => do
    let (part, s) ← keyPart s
    match skipSpace s with
    | '.' :: s =>
      let (more, s) ← key fuel (skipSpace s)
      return (part :: more, s)
    | s => return ([part], s)

/-- Digits with single low lines between them. -/
def digitRun (isDigit : Char → Bool) : List Char → List Char × List Char
  | [] => ([], [])
  | '_' :: c :: s =>
    if isDigit c then
      let (ds, rest) := digitRun isDigit s
      (c :: ds, rest)
    else ([], '_' :: c :: s)
  | c :: s =>
    if isDigit c then
      let (ds, rest) := digitRun isDigit s
      (c :: ds, rest)
    else ([], c :: s)

def digits (isDigit : Char → Bool) (s : List Char) : List Char × List Char :=
  if s.head?.any isDigit then digitRun isDigit s else ([], s)

/-- The digits before a point: a zero alone, or a run that starts with none. -/
def wholePart : List Char → List Char × List Char
  | '0' :: s => (['0'], s)
  | s => digits Char.isDigit s

/-- A point and digits, if both are there. -/
def fractionPart : List Char → List Char × List Char
  | '.' :: s =>
    match digits Char.isDigit s with
    | ([], _) => ([], '.' :: s)
    | (ds, rest) => ('.' :: ds, rest)
  | s => ([], s)

/-- An exponent, if a digit follows its mark and sign. -/
def exponentPart (s : List Char) : List Char × List Char :=
  match s with
  | c :: r =>
    if c = 'e' ∨ c = 'E' then
      let (sign, body) := match r with
        | '+' :: t => (['+'], t)
        | '-' :: t => (['-'], t)
        | t => ([], t)
      match digits Char.isDigit body with
      | ([], _) => ([], s)
      | (ds, rest) => ('e' :: sign ++ ds, rest)
    else ([], s)
  | [] => ([], s)

def baseNumber? (s : List Char) : Option (Nat × List Char) :=
  let inBase (base : Nat) (isDigit : Char → Bool) (r : List Char) : Option (Nat × List Char) :=
    match digits isDigit r with
    | ([], _) => none
    | (ds, rest) => (ds.mapM fun c => hexNumber? [c]).map fun vs => (ofDigits base vs, rest)
  match s with
  | '0' :: 'x' :: r => inBase 16 (fun c => (hexNumber? [c]).isSome) r
  | '0' :: 'b' :: r => inBase 2 (fun c => c = '0' || c = '1') r
  | '0' :: 'o' :: r => inBase 8 (fun c => '0' ≤ c && c ≤ '7') r
  | _ => none

def wordNumber (s : List Char) : Read Value :=
  let (neg, body) := takeSign s
  match body with
  | 'i' :: 'n' :: 'f' :: r => .ok (.float (if neg then -1.0 / 0.0 else 1.0 / 0.0), r)
  | 'n' :: 'a' :: 'n' :: r => .ok (.float (0.0 / 0.0), r)
  | _ => .error .malformed

def number (s : List Char) : Read Value :=
  match baseNumber? s with
  | some (n, rest) => .ok (.int n, rest)
  | none =>
    let (neg, body) := takeSign s
    match wholePart body with
    | ([], _) => wordNumber s
    | (whole, rest) =>
      let (frac, rest) := fractionPart rest
      let (exp, rest) := exponentPart rest
      if frac.isEmpty && exp.isEmpty then
        if whole.length > 4300 then .error .integerTooLong
        else
          let n : Int := ofDigits 10 (whole.map fun c => c.toNat - 48)
          .ok (.int (if neg then -n else n), rest)
      else
        let x := (readFloat? (whole ++ frac ++ exp)).getD 0.0
        .ok (.float (if neg then -x else x), rest)

def twoDigits? (bound : Nat) : List Char → Option (Nat × List Char)
  | a :: b :: s =>
    let n := (a.toNat - 48) * 10 + (b.toNat - 48)
    if a.isDigit ∧ b.isDigit ∧ n < bound then some (n, s) else none
  | _ => none

/-- The digits of a fraction of a second; those beyond the sixth do not count. -/
def micros (s : List Char) : Nat × List Char :=
  match s with
  | '.' :: r =>
    let ds := r.takeWhile Char.isDigit
    if ds.isEmpty then (0, s)
    else
      let six := (ds ++ List.replicate 6 '0').take 6
      (ofDigits 10 (six.map fun c => c.toNat - 48), r.drop ds.length)
  | _ => (0, s)

def clock? (s : List Char) : Option (Clock × List Char) := do
  let (hour, s) ← twoDigits? 24 s
  let ':' :: s := s | none
  let (minute, s) ← twoDigits? 60 s
  let ':' :: s := s | none
  let (second, s) ← twoDigits? 60 s
  let (micro, s) := micros s
  return (⟨hour, minute, second, micro⟩, s)

/-- The distance of a clock from the zero meridian in seconds, if one follows. -/
def offset (s : List Char) : Option Int × List Char :=
  let signed (sign : Int) (r : List Char) : Option Int × List Char :=
    match twoDigits? 24 r with
    | some (hour, ':' :: r) =>
      match twoDigits? 60 r with
      | some (minute, r) => (some (sign * (hour * 3600 + minute * 60)), r)
      | none => (none, s)
    | _ => (none, s)
  match s with
  | 'Z' :: r | 'z' :: r => (some 0, r)
  | '+' :: r => signed 1 r
  | '-' :: r => signed (-1) r
  | _ => (none, s)

def day? (s : List Char) : Option (Nat × Nat × Nat × List Char) := do
  let (century, s) ← twoDigits? 100 s
  let (year, s) ← twoDigits? 100 s
  let '-' :: s := s | none
  let (month, s) ← twoDigits? 13 s
  let '-' :: s := s | none
  let (day, s) ← twoDigits? 32 s
  if month = 0 ∨ day = 0 then none else some (century * 100 + year, month, day, s)

/-- A date, a moment or a time of day, if one is written here. A time of day is given as a moment of the first
day of all. -/
def stamp? (s : List Char) : Option (Read Value) :=
  match day? s with
  | some (year, month, day, rest) =>
    some <| match Date.ofParts? year month day with
    | none => .error .malformed
    | some date =>
      match rest with
      | c :: r =>
        if c ∈ ['T', 't', ' '] then
          match clock? r with
          | some (clock, r) =>
            let (off, r) := offset r
            .ok (.moment ⟨date, clock, off⟩, r)
          | none => .ok (.date date, rest)
        else .ok (.date date, rest)
      | [] => .ok (.date date, rest)
  | none => (clock? s).map fun (clock, r) => .ok (.moment ⟨⟨1, 1, 1⟩, clock, none⟩, r)

end PageSkins.Toml
