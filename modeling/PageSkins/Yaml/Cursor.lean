/-!
# Places in a YAML text

What the characters of a text mean for its layout, and where they stand.
-/

namespace PageSkins.Yaml

/-- Why a text is not read. -/
inductive Fault where
  | malformed
  /-- A scalar is not what its tag or its look makes it. -/
  | badValue
  /-- A number is too large for what it stands for. -/
  | overflow
  /-- A scalar that is tagged as a moment is none. -/
  | noMoment
  /-- A scalar that is tagged as a number is empty. -/
  | noDigits
  /-- A scalar that is tagged as a flag is none. -/
  | unknownFlag (word : String)
deriving Repr, DecidableEq

/-- A place in a text: what follows it, and how far down and to the right it is. -/
structure Cursor where
  rest : List Char
  index : Nat := 0
  line : Nat := 0
  column : Nat := 0

def isBreak (c : Char) : Bool := c = '\n' || c = '\r' || c = '\x85' || c = '\u2028' || c = '\u2029'

def atLineEnd : Option Char → Bool
  | none => true
  | some c => isBreak c

/-- Whether a word ends: at the end of the text, before a blank and before a line end. -/
def atGap : Option Char → Bool
  | none => true
  | some c => c = ' ' || c = '\t' || isBreak c

def isNameChar (c : Char) : Bool :=
  ('0' ≤ c && c ≤ '9') || ('A' ≤ c && c ≤ 'Z') || ('a' ≤ c && c ≤ 'z') || c = '-' || c = '_'

def isAllowed (c : Char) : Bool :=
  let n := c.toNat
  c = '\t' || c = '\n' || c = '\r' || (0x20 ≤ n && n ≤ 0x7E) || n = 0x85 || (0xA0 ≤ n && n ≤ 0xFFFD) || 0x10000 ≤ n

namespace Cursor

/-- The character `k` places further on. -/
def peek (c : Cursor) (k : Nat) : Option Char := c.rest[k]?

def head (c : Cursor) : Option Char := c.rest.head?

/-- One character further. A line end made of two characters ends the line with the second. A byte order mark has
no width. -/
def next (c : Cursor) : Cursor :=
  match c.rest with
  | [] => c
  | x :: rest =>
    if isBreak x ∧ ¬(x = '\r' ∧ rest.head? = some '\n') then ⟨rest, c.index + 1, c.line + 1, 0⟩
    else ⟨rest, c.index + 1, c.line, if x = '\ufeff' then c.column else c.column + 1⟩

def skip : Nat → Cursor → Cursor
  | 0, c => c
  | n + 1, c => skip n c.next

def run (p : Char → Bool) (c : Cursor) : List Char × Cursor :=
  let s := c.rest.takeWhile p
  (s, c.skip s.length)

def skipSpaces (c : Cursor) : Cursor := (c.run (· = ' ')).2

def skipTo (column : Nat) (c : Cursor) : Cursor :=
  c.skip (min (c.rest.takeWhile (· = ' ')).length (column - c.column))

/-- A line end as it is kept, and the place after it. -/
def lineEnd (c : Cursor) : List Char × Cursor :=
  match c.rest with
  | '\r' :: '\n' :: _ => (['\n'], c.skip 2)
  | x :: _ =>
    if x = '\u2028' ∨ x = '\u2029' then ([x], c.next) else if isBreak x then (['\n'], c.next) else ([], c)
  | [] => ([], c)

/-- Whether a line begins that separates documents. -/
def atMarker (c : Cursor) (mark : Char) : Bool :=
  c.rest.take 3 = List.replicate 3 mark && atGap (c.peek 3)

/-- Whether the text goes on with what separates documents. -/
def atSeparator (c : Cursor) : Bool := c.atMarker '-' || c.atMarker '.'

/-- The rest of a line after an item that ends it: blanks and a comment. -/
def restOfLine (c : Cursor) : Except Fault Cursor :=
  let c := c.skipSpaces
  let c := if c.head = some '#' then (c.run fun x => !isBreak x).2 else c
  if atLineEnd c.head then .ok c.lineEnd.2 else .error .malformed

end Cursor
end PageSkins.Yaml
