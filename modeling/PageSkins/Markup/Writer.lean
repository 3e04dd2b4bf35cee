import PageSkins.Markup.Reference
import PageSkins.Markup.Tree

/-!
# Trees written as markup

A tree is first laid out in pieces; then the pieces are joined, and where a value may stand
its ampersands are settled: a reference that means something stays, any other ampersand is
escaped.
-/

namespace PageSkins.Markup.Writer

open PageSkins.Markup

/-- Elements of pages that hold nothing and have no closing tag. -/
def emptyElements : List String := [
  "base", "command", "event-source", "link", "meta", "hr", "br", "img", "embed", "param", "area", "col",
  "input", "source", "track", "wbr", "frame"]

/-- Control characters that have no place in text. -/
def isControl (c : Char) : Bool :=
  c.toNat < 9 || c = '\x0b' || c = '\x0c' || (14 ≤ c.toNat && c.toNat < 32)

def showControl (c : Char) : Char := if isControl c then '?' else c

/-- A piece of text: characters still to be escaped, or a reference that stays. -/
inductive Run where
  | chars (s : List Char)
  | reference (body : List Char)
deriving Repr, DecidableEq

def Run.cons (s : List Char) : List Run → List Run
  | .chars t :: rest => .chars (s ++ t) :: rest
  | rest => if s.isEmpty then rest else .chars s :: rest

def Run.ofPart (part : List Char) (rest : List Run) : List Run :=
  match part with
  | '&' :: r =>
    match Reference.body? r with
    | none => Run.cons part rest
    | some body =>
      let rest := Run.cons (r.drop (body.length + 1)) rest
      if body = "amp".toList then Run.cons ['&'] rest else .reference body :: rest
  | s => Run.cons s rest

def runs (s : List Char) : List Run :=
  let (first, parts) := Reference.splitAmpersands s
  Run.cons first (parts.foldr Run.ofPart [])

def escapeChar : Char → List Char
  | '&' => "&amp;".toList
  | '<' => "&lt;".toList
  | '>' => "&gt;".toList
  | c => [c]

def Run.pieces : Run → List (List Char)
  | .chars s => if s.isEmpty then [] else [s.flatMap escapeChar]
  | .reference body => ['&' :: body ++ [';']]

def piece (s : List Char) : List (List Char) := if s.isEmpty then [] else [s]

/-- The pieces of a text. White space at its ends stands apart. -/
def textPieces (s : List Char) : List (List Char) :=
  let body := s.dropWhile isSpace
  let middle := (body.reverse.dropWhile isSpace).reverse
  piece (s.takeWhile isSpace) ++ (runs (middle.map showControl)).flatMap Run.pieces ++
    piece (body.reverse.takeWhile isSpace).reverse

/-- The pieces of an attribute. The quotes are double unless only double ones stand in the value. -/
def attributePieces (a : Attribute) : List (List Char) :=
  let value := a.value.flatMap fun c =>
    if c = '&' then "&amp;".toList else if c = '<' then "&lt;".toList else [c]
  let head := [[' '], a.name.toList, ['=']]
  if value.contains '"' && !value.contains '\'' then head ++ [['\''], value, ['\'']]
  else head ++ [['"'], value.flatMap fun c => if c = '"' then "&quot;".toList else [c], ['"']]

mutual

def treePieces : Tree → List (List Char)
  | .text s => textPieces s
  | .comment => []
  | .element name vocabulary attributes children =>
    let opening := ('<' :: name.toList) :: attributes.flatMap attributePieces ++ [['>']]
    if vocabulary = .page && emptyElements.contains name then opening
    else opening ++ pieces children ++ ['<' :: '/' :: name.toList ++ ['>']]

def pieces : List Tree → List (List Char)
  | [] => []
  | t :: rest => treePieces t ++ pieces rest

end

/-- One ampersand and what follows it up to the next. -/
def settlePart (part : List Char) : Except Reference.TooLong (List Char) :=
  match part with
  | '&' :: r =>
    let escaped := "&amp;".toList ++ r
    match Reference.body? r with
    | none => .ok escaped
    | some body =>
      match Reference.meaning body with
      | .tooLong => .error .mk
      | .none => .ok escaped
      | .chars _ => .ok ('&' :: body ++ ';' :: r.drop (body.length + 1))
  | s => .ok s

/-- A text with every escaped ampersand read back. -/
def plainAmpersands : List Char → List Char
  | '&' :: 'a' :: 'm' :: 'p' :: ';' :: s => '&' :: plainAmpersands s
  | c :: s => c :: plainAmpersands s
  | [] => []

/-- A value with its ampersands settled. -/
def settle (s : List Char) : Except Reference.TooLong (List Char) := do
  let (first, parts) := Reference.splitAmpersands (plainAmpersands s)
  return first ++ (← parts.mapM settlePart).flatten

/-- Joins pieces. `inTag` holds from a piece with `<` to a lone `>`; `valueNext` from an equals sign in a tag to
the piece that is settled, which is the next but a double quote. -/
def join (inTag valueNext : Bool) : List (List Char) → Except Reference.TooLong (List Char)
  | [] => .ok []
  | p :: ps =>
    if inTag then
      if p = ['>'] then do return p ++ (← join false valueNext ps)
      else if valueNext then
        if p = ['"'] then do return p ++ (← join true true ps)
        else do
          let value ← settle p
          return value ++ (← join true false ps)
      else do return p ++ (← join true (p = ['=']) ps)
    else do return p ++ (← join (p.head? = some '<') valueNext ps)

def write (ts : List Tree) : Except Reference.TooLong (List Char) := join false false (pieces ts)

end PageSkins.Markup.Writer
