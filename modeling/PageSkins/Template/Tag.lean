import PageSkins.Template.Node
import PageSkins.Text.Word

/-!
# The tags of a template

A tag is a pair of double braces with no brace between; what stands inside, without the
blanks around it, says what the tag does.
-/

namespace PageSkins.Template

open PageSkins.Text

/-- A template cut at its tags. A tag is held by what stands between its braces. -/
inductive Piece where
  | text (s : List Char)
  | tag (inner : List Char)
deriving Repr, DecidableEq

def isInner (c : Char) : Bool := c != '\x7b' && c != '\x7d'

/-- The tag at the start of a text, and what follows it. -/
def tagAt? : List Char → Option (List Char × List Char)
  | '\x7b' :: '\x7b' :: r =>
    match r.dropWhile isInner with
    | '\x7d' :: '\x7d' :: rest => some (r.takeWhile isInner, rest)
    | _ => none
  | _ => none

theorem length_of_tagAt? {s inner rest : List Char} (h : tagAt? s = some (inner, rest)) :
    rest.length < s.length := by
  unfold tagAt? at h
  split at h
  · rename_i r
    split at h
    · rename_i rest' hr
      have hl : (r.dropWhile isInner).length ≤ r.length := (List.dropWhile_suffix _).length_le
      rw [hr] at hl
      simp only [Option.some.injEq, Prod.mk.injEq] at h
      obtain ⟨-, rfl⟩ := h
      simp only [List.length_cons] at hl ⊢
      omega
    · simp at h
  · simp at h

def tagText (inner : List Char) : List Char := '\x7b' :: '\x7b' :: (inner ++ ['\x7d', '\x7d'])

/-- Text gathered so far, last character first, as a piece unless it is empty. -/
def flush (gathered : List Char) : List Piece :=
  if gathered.isEmpty then [] else [.text gathered.reverse]

def piecesFrom (gathered : List Char) (s : List Char) : List Piece :=
  match h : tagAt? s with
  | some (inner, rest) =>
    have := length_of_tagAt? h
    flush gathered ++ .tag inner :: piecesFrom [] rest
  | none =>
    match s with
    | [] => flush gathered
    | c :: rest => piecesFrom (c :: gathered) rest
termination_by s.length

def pieces (s : List Char) : List Piece := piecesFrom [] s

/-- What a tag does. The names of `if` and `each` are not repeated where they close. -/
inductive Tag where
  | opens (kind : BlockKind) (name : String)
  | closes (kind : BlockKind) (name : String)
  | include (name : String)
  | field (name : String)
  | unknown
deriving Repr, DecidableEq

def isName (s : List Char) : Bool := !s.isEmpty && s.all isWord

/-- The kind of block that a word after the opening mark stands for, where it is one of the two reserved. -/
def reserved? (word : List Char) : Option BlockKind :=
  if word = ['i', 'f'] then some .cond
  else if word = ['e', 'a', 'c', 'h'] then some .each
  else none

def openingTag (s : List Char) : Tag :=
  let word := s.takeWhile isWord
  let rest := s.dropWhile isWord
  if word.isEmpty then .unknown
  else if rest.isEmpty then
    if (reserved? word).isSome then .unknown else .opens .section (String.ofList word)
  else
    match reserved? word with
    | none => .unknown
    | some kind =>
      let name := rest.dropWhile isBlank
      if !(rest.takeWhile isBlank).isEmpty && isName name then .opens kind (String.ofList name)
      else .unknown

def closingTag (word : List Char) : Tag :=
  if !isName word then .unknown
  else match reserved? word with
    | some kind => .closes kind ""
    | none => .closes .section (String.ofList word)

/-- What a tag does, by what stands inside without blanks around it. -/
def Tag.ofToken (token : List Char) : Tag :=
  match token with
  | '#' :: s => openingTag s
  | '/' :: s => closingTag s
  | '>' :: s =>
    let name := s.dropWhile isBlank
    if isName name then .include (String.ofList name) else .unknown
  | s => if isName s then .field (String.ofList s) else .unknown

def Tag.ofInner (inner : List Char) : Tag := Tag.ofToken (trim inner)

end PageSkins.Template
