import PageSkins.Decimal.Reader
import PageSkins.Text.Blank

/-!
# Light and dark backgrounds

A colour is read from text; its brightness decides which of two sets of colours code is
shown in. What is no colour counts as black.
-/

namespace PageSkins

open PageSkins.Text PageSkins.Decimal

/-- A colour by its three parts, each up to 255. -/
structure Rgb where
  red : Nat
  green : Nat
  blue : Nat
deriving Repr, DecidableEq, Inhabited

namespace Rgb

def black : Rgb := ⟨0, 0, 0⟩

def hexDigit? (c : Char) : Option Nat :=
  if '0' ≤ c ∧ c ≤ '9' then some (c.toNat - 48)
  else if 'a' ≤ c ∧ c ≤ 'f' then some (c.toNat - 87)
  else if 'A' ≤ c ∧ c ≤ 'F' then some (c.toNat - 55)
  else none

def ofHex? (s : List Char) : Option Rgb := do
  match ← s.mapM hexDigit? with
  | [r, g, b] => return ⟨r * 17, g * 17, b * 17⟩
  | [r, r', g, g', b, b'] => return ⟨r * 16 + r', g * 16 + g', b * 16 + b'⟩
  | _ => none

/-- A number at the start of a text that starts with a digit: digits, and a fraction if a digit follows the
point. -/
def numeralAt (s : List Char) : List Nat × List Nat × List Char :=
  let whole := s.takeWhile isDecimal
  let rest := s.dropWhile isDecimal
  let digits (t : List Char) := t.filterMap digitValue?
  match rest with
  | '.' :: r =>
    let frac := r.takeWhile isDecimal
    if frac.isEmpty then (digits whole, [], rest) else (digits whole, digits frac, r.dropWhile isDecimal)
  | _ => (digits whole, [], rest)

/-- The numbers in a text, from left to right, as doubles. The fuel bounds the length of the text. -/
def numerals : Nat → List Char → List Float
  | 0, _ => []
  | fuel + 1, s =>
    match s.dropWhile fun c => !isDecimal c with
    | [] => []
    | t =>
      let (whole, frac, rest) := numeralAt t
      scaled (ofDigits 10 (whole ++ frac)) (-frac.length) :: numerals fuel rest

/-- One part of a colour, cut off at 255. A number beyond all doubles is refused. -/
def part? (x : Float) : Option Nat := (truncate? x).map fun n => min 255 n.toNat

/-- What a colour is read as. -/
inductive Reading where
  | color (c : Rgb)
  /-- A part of the colour is too large to be a number. -/
  | overflow
deriving Repr, DecidableEq

/-- The colour that a text names: `#` with digits, or `rgb` with three numbers or more. -/
def read (color : List Char) : Reading :=
  let s := trim color
  match (match s with | '#' :: hex => ofHex? hex | _ => none) with
  | some c => .color c
  | none =>
    if (s.take 3).map Char.toLower = ['r', 'g', 'b'] then
      match numerals (s.length + 1) s with
      | r :: g :: b :: _ =>
        match part? r, part? g, part? b with
        | some r, some g, some b => .color ⟨r, g, b⟩
        | _, _, _ => .overflow
      | _ => .color black
    else .color black

def brightness (c : Rgb) : Float :=
  0.299 * ofInt c.red + 0.587 * ofInt c.green + 0.114 * ofInt c.blue

/-- Whether text on this background needs the colours made for dark pages. -/
def isDark (c : Rgb) : Bool := c.brightness < 128.0

end Rgb

/-- Variables of a style sheet, in order. -/
abbrev Variables := List (String × String)

def lightCode : Variables := [
  ("--blog-code-fg", "#24292e"),
  ("--blog-code-keyword", "#d73a49"),
  ("--blog-code-function", "#6f42c1"),
  ("--blog-code-attr", "#005cc5"),
  ("--blog-code-string", "#032f62"),
  ("--blog-code-builtin", "#e36209"),
  ("--blog-code-comment", "#6a737d"),
  ("--blog-code-tag", "#22863a")]

def darkCode : Variables := [
  ("--blog-code-fg", "#c9d1d9"),
  ("--blog-code-keyword", "#ff7b72"),
  ("--blog-code-function", "#d2a8ff"),
  ("--blog-code-attr", "#79c0ff"),
  ("--blog-code-string", "#a5d6ff"),
  ("--blog-code-builtin", "#ffa657"),
  ("--blog-code-comment", "#8b949e"),
  ("--blog-code-tag", "#7ee787")]

def codePalette (background : Rgb) : Variables := if background.isDark then darkCode else lightCode

end PageSkins
