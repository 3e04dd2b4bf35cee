import PageSkins.Calendar.Stamp
import PageSkins.Value

/-!
# Checked records

Records are checked against what their fields hold. A check never stops at the first thing
that is wrong: all issues of a record are found, in the order of its fields.
-/

namespace PageSkins

open PageSkins.Text PageSkins.Decimal

/-- A step on the way from a record to a part of it. -/
inductive PathStep where
  | field (name : String)
  | item (index : Nat)
deriving Repr, DecidableEq

/-- What can be wrong with a part of a record. -/
inductive Cause where
  | missing
  | notText
  | notInteger
  | integerMalformed
  | integerFraction
  | integerTooLong
  | notFinite
  | notFlag
  | flagMalformed
  | notMoment
  | momentMalformed
  | dayMalformed
  | notMap
  | keyNotText
  | notList
  | notRecord
  | notRecordOfKind
  | unknownField
  | unknownChoice
  | unknownKind
  | kindMissing
  | notAddress
  | addressMalformed
  | addressScheme
  | addressTooLong
  | frozen
  /-- A rule of the record's own, in words. -/
  | refused (rule : String)
deriving Repr, DecidableEq

structure Issue where
  path : List PathStep
  cause : Cause
deriving Repr, DecidableEq

/-- The outcome of a check. -/
inductive Checked (α : Type) where
  | ok (a : α)
  | bad (issues : List Issue)
deriving Repr

namespace Checked

protected def map {α β : Type} (f : α → β) : Checked α → Checked β
  | .ok a => .ok (f a)
  | .bad issues => .bad issues

/-- Issues of both parts are kept, those of the first before those of the second. -/
protected def seq {α β : Type} (f : Checked (α → β)) (a : Unit → Checked α) : Checked β :=
  match f, a () with
  | .ok f, .ok a => .ok (f a)
  | .ok _, .bad ys => .bad ys
  | .bad xs, .ok _ => .bad xs
  | .bad xs, .bad ys => .bad (xs ++ ys)

instance : Applicative Checked where
  pure := .ok
  map := Checked.map
  seq := Checked.seq

def fail {α : Type} (c : Cause) : Checked α := .bad [⟨[], c⟩]

/-- The issues of a part, as issues of the whole. -/
def at' {α : Type} (s : PathStep) : Checked α → Checked α
  | .ok a => .ok a
  | .bad issues => .bad (issues.map fun i => { i with path := s :: i.path })

/-- A rule checked on what was read. -/
def also {α β : Type} (c : Checked α) (rule : α → Checked β) : Checked β :=
  match c with
  | .ok a => rule a
  | .bad issues => .bad issues

def items {α β : Type} (read : α → Checked β) : Nat → List α → Checked (List β)
  | _, [] => .ok []
  | i, a :: rest => List.cons <$> (read a).at' (.item i) <*> items read (i + 1) rest

end Checked

namespace Check

/-- How a part of a record is read. -/
abbrev Reader (α : Type) := Value → Checked α

def text : Reader String
  | .text s => .ok s
  | _ => .fail .notText

/-- Null stands for nothing. -/
def optional {α : Type} (read : Reader α) : Reader (Option α)
  | .null => .ok none
  | v => some <$> read v

/-- White space without the four separators that are blank elsewhere. -/
def isWhite (c : Char) : Bool := isBlank c && !('\x1c' ≤ c && c ≤ '\x1f')

/-- The text from its first digit other than zero. A zero is kept before a point and at the end. Single marks
between digits are passed over with the zeros. -/
def dropZeros? (s : List Char) : Option (List Char) :=
  match s with
  | '0' :: rest => go '0' rest
  | c :: _ => if c = '-' ∨ ('1' ≤ c ∧ c ≤ '9') then some s else none
  | [] => none
where
  go (last : Char) : List Char → Option (List Char)
    | [] => some [last]
    | c :: rest =>
      if c = '0' ∨ c = '_' then go c rest
      else if '1' ≤ c ∧ c ≤ '9' then some (c :: rest)
      else if c = '.' then some (last :: c :: rest)
      else none

/-- The text without a fraction of zeros. -/
def dropFraction (s : List Char) : List Char :=
  match s.dropWhile (· != '.') with
  | _ :: zeros => if zeros.all (· == '0') then s.takeWhile (· != '.') else s
  | [] => s

/-- The text without the low lines between its digits, if each has a neighbour on either side. -/
def dropMarks (s : List Char) : List Char :=
  if s.head? = some '_' ∨ s.getLast? = some '_' ∨ hasPair s then s else s.filter (· != '_')
where
  hasPair : List Char → Bool
    | '_' :: '_' :: _ => true
    | _ :: s => hasPair s
    | [] => false

/-- An integer in text: digits with a sign, white space around them, a fraction of zeros after them. -/
def integerText (s : List Char) : Checked Int :=
  let s := ((s.dropWhile isWhite).reverse.dropWhile isWhite).reverse
  let body := match s with
    | '+' :: '-' :: _ => none
    | '+' :: r => dropZeros? r
    | r => dropZeros? r
  match body with
  | none => .fail .integerMalformed
  | some body =>
    let body := dropMarks (dropFraction body)
    if body.length > 4300 then .fail .integerTooLong
    else
      let (negative, digits) := match body with
        | '-' :: r => (true, r)
        | r => (false, r)
      if digits.isEmpty ∨ !digits.all Char.isDigit ∨ (digits.head? = some '0' ∧ digits.length > 1) then
        .fail .integerMalformed
      else
        let n : Int := ofDigits 10 (digits.map fun c => c.toNat - 48)
        .ok (if negative then -n else n)

def integerFloat (x : Float) : Checked Int :=
  match truncate? x with
  | none => .fail .notFinite
  | some n =>
    if !isInteger x then .fail .integerFraction
    else if -(Int.pow 2 63) < n ∧ n < Int.pow 2 63 then .ok n
    else .fail .integerTooLong

/-- An integer; flags, whole doubles and text stand for one too. -/
def integer : Reader Int
  | .int n => .ok n
  | .bool b => .ok (if b then 1 else 0)
  | .float x => integerFloat x
  | .text s => integerText s.toList
  | _ => .fail .notInteger

def trueWords : List String := ["1", "t", "y", "on", "yes", "true"]

def falseWords : List String := ["0", "f", "n", "no", "off", "false"]

def flagInteger (n : Int) : Checked Bool :=
  if n = 0 then .ok false else if n = 1 then .ok true else .fail .flagMalformed

/-- A flag; zero and one and some words stand for one too. -/
def flag : Reader Bool
  | .bool b => .ok b
  | .int n => if Calendar.inRange n then flagInteger n else .fail .notFlag
  | .float x =>
    match integerFloat x with
    | .ok n => flagInteger n
    | .bad _ => .fail .notFlag
  | .text s =>
    let word := String.ofList (s.toList.map Char.toLower)
    if trueWords.contains word then .ok true
    else if falseWords.contains word then .ok false
    else .fail .flagMalformed
  | _ => .fail .notFlag

/-- A moment; a day stands for its start, a number for the seconds since the start of 1970. -/
def moment : Reader Moment
  | .moment t => .ok t
  | .date d => .ok ⟨d, {}, none⟩
  | .text s =>
    match Calendar.readStamp s.toList with
    | .moment t => .ok t
    | .yearZero => .fail .momentMalformed
    | .none => .fail .dayMalformed
  | .int n =>
    if Calendar.inRange n then ofOption (Calendar.ofEpoch? n 0)
    else if n.natAbs < Nat.pow 2 1024 - Nat.pow 2 970 then .fail .momentMalformed
    else .fail .notMoment
  | .float x => ofOption (Calendar.ofEpochFloat? x)
  | _ => .fail .notMoment
where
  ofOption (t : Option Moment) : Checked Moment :=
    match t with
    | some t => .ok t
    | none => .fail .momentMalformed

def choice {α : Type} (options : List (String × α)) : Reader α
  | .text s => match options.lookup s with
    | some a => .ok a
    | none => .fail .unknownChoice
  | _ => .fail .unknownChoice

def list {α : Type} (read : Reader α) : Reader (List α)
  | .list vs => Checked.items read 0 vs
  | _ => .fail .notList

def entries : List (Value × Value) → Checked (List (String × Value))
  | [] => .ok []
  | (.text k, v) :: rest => List.cons (k, v) <$> entries rest
  | _ :: rest => (fun _ es => es) <$> (Checked.fail .keyNotText : Checked Unit) <*> entries rest

def map : Reader Fields
  | .map es => .ok es
  | .keyed es => entries es
  | _ => .fail .notMap

def texts : Reader (List (String × String))
  | .map es => go es
  | .keyed es => (entries es).also go
  | _ => .fail .notMap
where
  go : Fields → Checked (List (String × String))
    | [] => .ok []
    | (k, v) :: rest => (fun s ts => (k, s) :: ts) <$> (text v).at' (.field k) <*> go rest

def record {α : Type} (read : Fields → Checked α) : Reader α
  | .map es => read es
  | .keyed es => read (es.filterMap fun (k, v) => k.text?.map fun k => (k, v))
  | _ => .fail .notRecord

/-- A field that has to be there. -/
def required {α : Type} (fs : Fields) (name : String) (read : Reader α) : Checked α :=
  match fs.find? name with
  | some v => (read v).at' (.field name)
  | none => .bad [⟨[.field name], .missing⟩]

/-- A field with a value to fall back on. -/
def orElse {α : Type} (fs : Fields) (name : String) (default : α) (read : Reader α) : Checked α :=
  match fs.find? name with
  | some v => (read v).at' (.field name)
  | none => .ok default

/-- Refuses fields that are not known. -/
def only (known : List String) (fs : Fields) : Checked Unit :=
  let unknown := fs.names.filter fun n => !known.contains n
  if unknown.isEmpty then .ok () else .bad (unknown.map fun n => ⟨[.field n], .unknownField⟩)

end Check
end PageSkins
