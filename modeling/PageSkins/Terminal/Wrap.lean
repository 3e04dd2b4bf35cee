import PageSkins.Text.Width
import PageSkins.Terminal.Tagged

/-!
# Text in lines

Text is laid out in lines of a given width. Words stay whole if they can.
-/

namespace PageSkins.Terminal

open PageSkins.Text

/-- What becomes of a word that is wider than a line. -/
inductive Overflow where
  | fold
  | ellipsis
deriving Repr, DecidableEq

inductive Justify where
  /-- Lines are as long as their text. -/
  | none
  | left
  | center
  | right
deriving Repr, DecidableEq

def cutLines (s : List Char) : List (List Char) :=
  s.foldr (fun c lines => if c = '\n' then [] :: lines else match lines with
    | line :: rest => (c :: line) :: rest
    | [] => [[c]]) [[]]

/-- A line with blanks up to the next multiple of eight columns for each tab. -/
def expandTabs (column : Nat) : List Char → List Char
  | [] => []
  | '\t' :: s =>
    let n := 8 - column % 8
    List.replicate n ' ' ++ expandTabs (column + n) s
  | c :: s => c :: expandTabs (column + width [c]) s

/-- A line in words with the blanks around them; a line without words has none. The fuel bounds their number. -/
def words : Nat → List Char → List (List Char)
  | 0, _ => []
  | fuel + 1, s =>
    let before := s.takeWhile isBlank
    let body := (s.drop before.length).takeWhile (!isBlank ·)
    let rest := s.drop (before.length + body.length)
    if body.isEmpty then []
    else (before ++ body ++ rest.takeWhile isBlank) :: words fuel (rest.dropWhile isBlank)

/-- Where words are put: the finished lines and the present one, both backwards. -/
structure Filling where
  lines : List (List Char) := []
  line : List Char := []
  used : Nat := 0

namespace Filling

def turn (f : Filling) (text : List Char) (used : Nat) : Filling := ⟨f.line.reverse :: f.lines, text.reverse, used⟩

/-- Adds a word that is too wide, in pieces. The first piece starts a line, unless nothing stands before it. -/
def addPieces (f : Filling) : List (List Char) → Filling
  | [] => f
  | p :: rest => (if f.line.isEmpty ∧ f.lines.isEmpty then { f with line := p.reverse, used := width p }
      else f.turn p (width p)).addPieces rest

/-- Adds a word to the line, or to a new one if there is no room. -/
def add (columns : Nat) (overflow : Overflow) (f : Filling) (word : List Char) : Except Fault Filling :=
  let n := width (trimRight word)
  let isFirst := f.line.isEmpty ∧ f.lines.isEmpty
  if f.used + n ≤ columns then .ok { f with line := word.reverse ++ f.line, used := f.used + width word }
  else if n > columns then
    match overflow with
    | .fold => if columns = 0 then .error .noRoom else .ok (f.addPieces (chop columns word))
    | .ellipsis => .ok (if isFirst then { f with line := word.reverse, used := width word } else f.turn word (width word))
  else if f.used ≠ 0 ∧ !isFirst then .ok (f.turn word (width word))
  else .ok { f with line := word.reverse ++ f.line }

end Filling

def divide (columns : Nat) (overflow : Overflow) (s : List Char) : Except Fault (List (List Char)) := do
  let ws := words s.length s
  let f ← ws.foldlM (Filling.add columns overflow) {}
  -- blanks without a word stay where they are
  let line := if ws.isEmpty then s else f.line.reverse
  return (line :: f.lines).reverse

/-- A line without as many blanks at its end as it is too long by. -/
def trimExcess (columns : Nat) (s : List Char) : List Char :=
  let blanks := s.length - (trimRight s).length
  s.take (s.length - min blanks (s.length - columns))

def truncate (columns : Nat) (overflow : Overflow) (s : List Char) : List Char :=
  if width s ≤ columns then s
  else match overflow with
    | .fold => crop columns s
    | .ellipsis => (if columns = 0 then s.dropLast else fit (columns - 1) s) ++ ['…']

def blanks (n : Nat) : List Char := List.replicate n ' '

/-- A line of at most so many columns, put to its side. -/
def justify (columns : Nat) (j : Justify) (overflow : Overflow) (s : List Char) : List Char :=
  match j with
  | .none => truncate columns overflow s
  | .left =>
    let s := truncate columns overflow s
    s ++ blanks (columns - width s)
  | .center =>
    let s := truncate columns overflow (trimRight s)
    let s := blanks ((columns - width s) / 2) ++ s
    s ++ blanks (columns - width s)
  | .right =>
    let s := truncate columns overflow (trimRight s)
    blanks (columns - width s) ++ s

structure Flow where
  justify : Justify := .none
  overflow : Overflow := .fold
  wraps : Bool := true

def wrap (columns : Nat) (flow : Flow) (s : List Char) : Except Fault (List (List Char)) := do
  let parts ← (cutLines s).mapM fun line => do
    let line := if line.contains '\t' then expandTabs 0 line else line
    let lines ← if flow.wraps then divide columns flow.overflow line else pure [line]
    return lines.map fun l => justify columns flow.justify flow.overflow (trimExcess columns l)
  return parts.flatten

/-- The widest line of a text, as it is measured before tabs are expanded. -/
def widest (s : List Char) : Nat :=
  let isEnd (c : Char) : Bool := c = '\n' || c = '\x1c' || c = '\x1d' || c = '\x1e' || c = '\x85' || c = '\u2028' ||
    c = '\u2029'
  ((cutLines (s.map fun c => if isEnd c then '\n' else c)).map width).foldl max 0

end PageSkins.Terminal
