import PageSkins.Value
import PageSkins.Text.Printable
import PageSkins.Decimal.Notation

/-!
# Values written as literals

Details of an error are shown so: text in quotes, and the words `None`, `True` and `False`.
-/

namespace PageSkins

open PageSkins.Text PageSkins.Decimal

/-- The digits of a number in base sixteen, at least `width` of them. -/
def hexDigits (width n : Nat) : List Char := padZeros width (Nat.toDigits 16 n)

def quotedChar (quote c : Char) : List Char :=
  if c = quote ∨ c = '\\' then ['\\', c]
  else if c = '\n' then ['\\', 'n']
  else if c = '\r' then ['\\', 'r']
  else if c = '\t' then ['\\', 't']
  else if isPrintable c then [c]
  else if c.toNat < 0x100 then '\\' :: 'x' :: hexDigits 2 c.toNat
  else if c.toNat < 0x10000 then '\\' :: 'u' :: hexDigits 4 c.toNat
  else '\\' :: 'U' :: hexDigits 8 c.toNat

/-- Text in single quotes, or in double quotes if it holds single quotes only. -/
def quotedText (s : List Char) : List Char :=
  let quote := if s.contains '\'' && !s.contains '"' then '"' else '\''
  quote :: s.flatMap (quotedChar quote) ++ [quote]

def commaSeparated (parts : List (List Char)) : List Char := [',', ' '].intercalate parts

namespace Value

/-- A moment as plain text, with a blank between day and time. -/
def momentText (t : Moment) : List Char :=
  t.date.iso ++ ' ' :: t.clock.iso ++ t.offset.elim [] offsetText

mutual

def literal : Value → List Char
  | .null => "None".toList
  | .bool b => if b then "True".toList else "False".toList
  | .int n => intText n
  | .float x => floatText x
  | .text s => quotedText s.toList
  | .list items => '[' :: commaSeparated (literals items) ++ [']']
  | .map entries => '\x7b' :: commaSeparated (fieldLiterals entries) ++ ['\x7d']
  | .keyed entries => '\x7b' :: commaSeparated (entryLiterals entries) ++ ['\x7d']
  | .date d => d.iso
  | .moment t => momentText t

def literals : List Value → List (List Char)
  | [] => []
  | v :: rest => literal v :: literals rest

def fieldLiterals : List (String × Value) → List (List Char)
  | [] => []
  | (k, v) :: rest => (quotedText k.toList ++ ':' :: ' ' :: literal v) :: fieldLiterals rest

def entryLiterals : List (Value × Value) → List (List Char)
  | [] => []
  | (k, v) :: rest => (literal k ++ ':' :: ' ' :: literal v) :: entryLiterals rest

end

/-- The plain text of a value: text as it stands, all else as its literal. -/
def plain : Value → List Char
  | .text s => s.toList
  | v => v.literal

/-- Integers of more digits than this have no text. -/
def maxDigits : Nat := 4300

def tooLong (n : Int) : Bool := Nat.pow 10 maxDigits ≤ n.natAbs

end Value
end PageSkins
