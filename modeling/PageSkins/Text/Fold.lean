import PageSkins.Text.Blank

/-!
# Patterns without regard to case

Letters are compared without regard to case, and blanks in any number.
-/

namespace PageSkins.Text

/-- The small ASCII letter that a character is a variant of: capitals, the long s, the two Turkish i and the
Kelvin sign. Any other character is left alone. -/
def foldLetter (c : Char) : Char :=
  if c = '\u017f' then 's'
  else if c = '\u0130' ∨ c = '\u0131' then 'i'
  else if c = '\u212a' then 'k'
  else c.toLower

/-- The lower-case form of a character where that is one of ASCII, and the character itself otherwise. The
long s and the dotless i are small already. -/
def plainLower (c : Char) : Char :=
  if c = '\u0130' then 'i'
  else if c = '\u212a' then 'k'
  else c.toLower

/-- One step of a pattern. -/
inductive Atom where
  /-- A small letter in any of its variants, or any other character as it stands. -/
  | letter (c : Char)
  /-- Blanks, or nothing. -/
  | blanks
  /-- Blanks, one at least. -/
  | someBlanks
deriving Repr, DecidableEq

/-- A sequence of steps. No letter of a pattern is blank, so taking all blanks at once loses no match. -/
abbrev Pattern := List Atom

/-- What follows a match at the start of a text. -/
def Pattern.restOf? : Pattern → List Char → Option (List Char)
  | [], s => some s
  | .letter c :: p, x :: s => if foldLetter x = c then restOf? p s else none
  | .letter _ :: _, [] => none
  | .blanks :: p, s => restOf? p (s.dropWhile isBlank)
  | .someBlanks :: p, x :: s => if isBlank x then restOf? p (s.dropWhile isBlank) else none
  | .someBlanks :: _, [] => none

def Pattern.word (w : String) : Pattern := w.toList.map .letter

def Pattern.occursIn (p : Pattern) : List Char → Bool
  | [] => (p.restOf? []).isSome
  | c :: s => (p.restOf? (c :: s)).isSome || p.occursIn s

/-- Replaces every match, from left to right; the search goes on after each. -/
def Pattern.replace (p : Pattern) (by' : List Char) (s : List Char) : List Char :=
  match s with
  | [] => []
  | c :: t =>
    match p.restOf? (c :: t) with
    | some rest => if _shorter : rest.length ≤ t.length then by' ++ p.replace by' rest else c :: p.replace by' t
    | none => c :: p.replace by' t
termination_by s.length

end PageSkins.Text
