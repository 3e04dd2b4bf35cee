import PageSkins.Markup.Reference.Table
import PageSkins.Decimal.Reader

/-!
# Character references

A reference is written `&name;`, `&#65;` or `&#x41;`. What stands between the ampersand and
the semicolon is here called the body of the reference.
-/

namespace PageSkins.Markup

open PageSkins.Decimal

/-- A set of names as a tree of their letters. -/
inductive Trie where
  | node (children : List (Char × Trie))
deriving Inhabited

namespace Trie

def empty : Trie := .node []

def next? : Trie → Char → Option Trie
  | .node children, c => children.lookup c

def single : List Char → Trie
  | [] => empty
  | c :: s => .node [(c, single s)]

def insert : List Char → Trie → Trie
  | [], t => t
  | c :: s, .node children =>
    .node (match children.lookup c with
      | some t => children.map fun (d, u) => if d = c then (d, insert s t) else (d, u)
      | none => (c, single s) :: children)

end Trie

namespace Reference

def hexNumber (s : List Char) : Nat :=
  ofDigits 16 (s.map fun c => if c.isDigit then c.toNat - 48 else c.toLower.toNat - 87)

/-- The parts of a text around a character. -/
def partsAt (mark : Char) : List Char → List (List Char)
  | [] => [[]]
  | c :: s =>
    if c = mark then [] :: partsAt mark s
    else match partsAt mark s with
      | part :: rest => (c :: part) :: rest
      | [] => [[c]]

def parseEntry (s : List Char) : String × List Char :=
  match partsAt '=' s with
  | [name, codes] => (String.ofList name, (partsAt '+' codes).map fun h => Char.ofNat (hexNumber h))
  | _ => (String.ofList s, [])

def named : List (String × List Char) :=
  namedTable.flatMap fun line => (partsAt ' ' line.toList).map parseEntry

/-- The names that are also known without a semicolon, with what they stand for. -/
def bare : List (String × List Char) :=
  bareTable.flatMap fun line => (partsAt ' ' line.toList).map fun n =>
    (String.ofList n, (named.lookup (String.ofList n)).getD [])

def names : Trie := named.foldl (fun t e => t.insert e.1.toList) .empty

def isStop (c : Char) : Bool :=
  c ∈ ['<', '&', '=', ';', ' ', '\t', '\n', '\r', '\x0b', '\x0c']

def isHexDigit (c : Char) : Bool :=
  c.isDigit || ('a' ≤ c && c ≤ 'f') || ('A' ≤ c && c ≤ 'F')

/-- The digits of a numeric reference and what follows them. One character that is no digit is passed over
before the semicolon is looked for. -/
def digitsOf (allowed : Char → Bool) : List Char → List Char × List Char
  | [] => ([], [])
  | c :: s =>
    if isStop c then ([], c :: s)
    else if allowed c then let (ds, rest) := digitsOf allowed s; (c :: ds, rest)
    else ([], s)

/-- The letters of a name as far as some known name goes on with them, up to a character that stops. -/
def lettersOf (t : Trie) : List Char → Option (List Char × List Char)
  | [] => some ([], [])
  | c :: s =>
    if isStop c then some ([], c :: s)
    else do
      let t' ← t.next? c
      let (name, rest) ← lettersOf t' s
      return (c :: name, rest)

/-- The body of the reference that follows an ampersand. A name need not be complete: the start of a known
name is taken too. -/
def body? : List Char → Option (List Char)
  | '#' :: s =>
    let (mark, (ds, rest)) := match s with
      | 'x' :: r => (['x'], digitsOf isHexDigit r)
      | 'X' :: r => (['X'], digitsOf isHexDigit r)
      | r => ([], digitsOf Char.isDigit r)
    match rest with
    | ';' :: _ => some ('#' :: (mark ++ ds))
    | _ => none
  | s => do
    let (name, rest) ← lettersOf names s
    match name, rest with
    | [], _ => none
    | _, ';' :: _ => some name
    | _, _ => none

/-- The one way in which reading references fails: a decimal number of more digits than are converted. -/
inductive TooLong where
  | mk
deriving Repr, DecidableEq

/-- What a reference stands for. -/
inductive Meaning where
  | chars (s : List Char)
  /-- Nothing: the ampersand is only an ampersand. -/
  | none
  /-- A decimal number of more digits than are converted. -/
  | tooLong
deriving Repr, DecidableEq

/-- The character with a code point. A surrogate is no character; a private character stands for it. -/
def charOfCode (n : Nat) : Char := if 0xD800 ≤ n ∧ n < 0xE000 then '\ue000' else Char.ofNat n

def ofCode (n : Nat) : Meaning := if 0 < n ∧ n < 0x110000 then .chars [charOfCode n] else .none

/-- What a body stands for. Only names known without a semicolon count here. -/
def meaning (body : List Char) : Meaning :=
  match body with
  | ['#'] | ['#', 'x'] | ['#', 'X'] => .none
  | '#' :: 'x' :: ds | '#' :: 'X' :: ds => ofCode (hexNumber ds)
  | '#' :: ds => if ds.length > 4300 then .tooLong else ofCode (decimalNumber ds)
  | name => match bare.lookup (String.ofList name) with
    | some s => .chars s
    | none => .none
where
  decimalNumber (ds : List Char) : Nat := ofDigits 10 (ds.map fun c => c.toNat - 48)

/-- A text cut before each ampersand. Every part but the first starts with one. -/
def splitAmpersands (s : List Char) : List Char × List (List Char) :=
  match s with
  | [] => ([], [])
  | c :: t =>
    let (first, rest) := splitAmpersands t
    if c = '&' then ([], ('&' :: first) :: rest) else (c :: first, rest)

end Reference
end PageSkins.Markup
