import PageSkins.Value
import PageSkins.Decimal.Reader

/-!
# Reading JSON

JSON texts are read into values. Beyond the standard, the words `NaN`, `Infinity` and
`-Infinity` are numbers. Of a key that stands twice in an object the last value counts.
Lists and objects may nest to any depth: a limit that an interpreter sets to its own
recursion is left out.
-/

namespace PageSkins.Json

open PageSkins.Decimal

/-- Why a text is not read. -/
inductive Fault where
  | malformed
  /-- An integer has more digits than are converted. -/
  | integerTooLong
deriving Repr, DecidableEq

def isSpace (c : Char) : Bool := c = ' ' || c = '\t' || c = '\n' || c = '\r'

def skipSpace (s : List Char) : List Char := s.dropWhile isSpace

def hexValue? (c : Char) : Option Nat :=
  if '0' ≤ c ∧ c ≤ '9' then some (c.toNat - 48)
  else if 'a' ≤ c ∧ c ≤ 'f' then some (c.toNat - 87)
  else if 'A' ≤ c ∧ c ≤ 'F' then some (c.toNat - 55)
  else none

def hexUnit? (a b c d : Char) : Option Nat := do
  return ofDigits 16 [← hexValue? a, ← hexValue? b, ← hexValue? c, ← hexValue? d]

def shortEscape? : Char → Option Char
  | '"' => some '"'
  | '\\' => some '\\'
  | '/' => some '/'
  | 'b' => some '\x08'
  | 'f' => some '\x0c'
  | 'n' => some '\n'
  | 'r' => some '\r'
  | 't' => some '\t'
  | _ => none

def joinSurrogates (high low : Nat) : Char :=
  Char.ofNat (0x10000 + (high - 0xD800) * 0x400 + (low - 0xDC00))

/-- A 16-bit unit as a character. A surrogate without its partner is no character; the replacement character
stands for it. -/
def unitChar (n : Nat) : Char := if 0xD800 ≤ n ∧ n < 0xE000 then '\ufffd' else Char.ofNat n

/-- The rest of a string after its opening quote; `out` holds what was read, last character first. -/
def stringBody (out : List Char) : List Char → Except Fault (String × List Char)
  | [] => .error .malformed
  | '"' :: rest => .ok (String.ofList out.reverse, rest)
  | '\\' :: 'u' :: a :: b :: c :: d :: '\\' :: 'u' :: e :: f :: g :: h :: rest =>
    match hexUnit? a b c d, hexUnit? e f g h with
    | some high, some low =>
      if 0xD800 ≤ high ∧ high < 0xDC00 ∧ 0xDC00 ≤ low ∧ low < 0xE000 then
        stringBody (joinSurrogates high low :: out) rest
      else stringBody (unitChar high :: out) ('\\' :: 'u' :: e :: f :: g :: h :: rest)
    | some high, none => stringBody (unitChar high :: out) ('\\' :: 'u' :: e :: f :: g :: h :: rest)
    | none, _ => .error .malformed
  | '\\' :: 'u' :: a :: b :: c :: d :: rest =>
    match hexUnit? a b c d with
    | some n => stringBody (unitChar n :: out) rest
    | none => .error .malformed
  | '\\' :: c :: rest =>
    match shortEscape? c with
    | some x => stringBody (x :: out) rest
    | none => .error .malformed
  | c :: rest => if c.toNat < 0x20 then .error .malformed else stringBody (c :: out) rest
termination_by s => s.length

def asciiDigits (s : List Char) : List Nat × List Char :=
  ((s.takeWhile Char.isDigit).map fun c => c.toNat - 48, s.dropWhile Char.isDigit)

/-- The fraction of a number: a point and digits, if both are there. -/
def fraction? : List Char → Option (List Nat × List Char)
  | '.' :: r => match asciiDigits r with
    | ([], _) => none
    | (ds, rest) => some (ds, rest)
  | _ => none

/-- The exponent of a number, if a digit follows the mark and the sign. -/
def exponent? : List Char → Option (Int × List Char)
  | c :: r =>
    if c = 'e' ∨ c = 'E' then
      let (neg, body) := takeSign r
      match asciiDigits body with
      | ([], _) => none
      | (ds, rest) => some (if neg then -(ofDigits 10 ds : Int) else ofDigits 10 ds, rest)
    else none
  | [] => none

/-- A number without its sign. Integers may have `limit` digits, if there is a limit. -/
def number (limit : Option Nat) (neg : Bool) (s : List Char) : Except Fault (Value × List Char) :=
  let (run, afterRun) := asciiDigits s
  -- a leading zero is a number of its own
  let (whole, rest) := match run with
    | 0 :: _ => ([0], s.drop 1)
    | _ => (run, afterRun)
  if whole.isEmpty then .error .malformed
  else
    let (frac, rest) := (fraction? rest).elim (none, rest) fun (ds, r) => (some ds, r)
    let (exp, rest) := (exponent? rest).elim (none, rest) fun (e, r) => (some e, r)
    if frac.isNone && exp.isNone then
      if limit.any (· < whole.length) then .error .integerTooLong
      else
        let n : Int := ofDigits 10 whole
        .ok (.int (if neg then -n else n), rest)
    else
      let ds := frac.getD []
      let x := scaled (ofDigits 10 (whole ++ ds)) (exp.getD 0 - ds.length)
      .ok (.float (if neg then -x else x), rest)

mutual

/-- A value at the start of a text. The fuel bounds the nesting and the number of items together; the length
of the text is enough of it. -/
def value (limit : Option Nat) : Nat → List Char → Except Fault (Value × List Char)
  | 0, _ => .error .malformed
  | fuel + 1, s =>
    match s with
    | 'n' :: 'u' :: 'l' :: 'l' :: r => .ok (.null, r)
    | 't' :: 'r' :: 'u' :: 'e' :: r => .ok (.bool true, r)
    | 'f' :: 'a' :: 'l' :: 's' :: 'e' :: r => .ok (.bool false, r)
    | 'N' :: 'a' :: 'N' :: r => .ok (.float (0.0 / 0.0), r)
    | 'I' :: 'n' :: 'f' :: 'i' :: 'n' :: 'i' :: 't' :: 'y' :: r => .ok (.float (1.0 / 0.0), r)
    | '-' :: 'I' :: 'n' :: 'f' :: 'i' :: 'n' :: 'i' :: 't' :: 'y' :: r => .ok (.float (-1.0 / 0.0), r)
    | '"' :: r => do
      let (t, rest) ← stringBody [] r
      return (.text t, rest)
    | '[' :: r =>
      match skipSpace r with
      | ']' :: rest => .ok (.list [], rest)
      | r' => do
        let (items, rest) ← listItems limit fuel r'
        return (.list items, rest)
    | '\x7b' :: r =>
      match skipSpace r with
      | '\x7d' :: rest => .ok (.map [], rest)
      | r' => do
        let (pairs, rest) ← entries limit fuel r'
        return (.map (Fields.ofPairs pairs), rest)
    | '-' :: r => number limit true r
    | r => number limit false r

def listItems (limit : Option Nat) : Nat → List Char → Except Fault (List Value × List Char)
  | 0, _ => .error .malformed
  | fuel + 1, s => do
    let (v, r) ← value limit fuel s
    match skipSpace r with
    | ',' :: r' => do
      let (vs, rest) ← listItems limit fuel (skipSpace r')
      return (v :: vs, rest)
    | ']' :: rest => return ([v], rest)
    | _ => .error .malformed

def entries (limit : Option Nat) : Nat → List Char → Except Fault (List (String × Value) × List Char)
  | 0, _ => .error .malformed
  | fuel + 1, s =>
    match s with
    | '"' :: r => do
      let (k, r) ← stringBody [] r
      match skipSpace r with
      | ':' :: r => do
        let (v, r) ← value limit fuel (skipSpace r)
        match skipSpace r with
        | ',' :: r' => do
          let (es, rest) ← entries limit fuel (skipSpace r')
          return ((k, v) :: es, rest)
        | '\x7d' :: rest => return ([(k, v)], rest)
        | _ => .error .malformed
      | _ => .error .malformed
    | _ => .error .malformed

end

def readWith (limit : Option Nat) (s : List Char) : Except Fault Value := do
  let (v, rest) ← value limit (2 * s.length + 2) (skipSpace s)
  if (skipSpace rest).isEmpty then return v else .error .malformed

/-- The value that a whole text holds, with integers of at most 4300 digits. -/
def read (s : List Char) : Except Fault Value := readWith (some 4300) s

end PageSkins.Json
