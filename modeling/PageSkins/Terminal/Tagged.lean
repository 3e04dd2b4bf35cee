import PageSkins.Text.Blank
import PageSkins.Text.Case

/-!
# Tagged text

In tagged text, tags like `[bold]` style what follows up to `[/bold]` or `[/]`. A backslash
in front of a tag makes it text. Here only the text counts, and whether every closing tag
has something to close.
-/

namespace PageSkins.Terminal

open PageSkins.Text

/-- Why something cannot be shown. -/
inductive Fault where
  /-- A tag closes a style that is not open. -/
  | strayTag (tag : String)
  /-- There is no room for a word. -/
  | noRoom
deriving Repr, DecidableEq

def Fault.message : Fault → String
  | .strayTag tag => "closing tag '" ++ tag ++ "' doesn't match any open tag"
  | .noRoom => "there is no room"

/-- A piece of a text. -/
inductive Piece where
  | text (s : List Char)
  /-- Text that was kept from being a tag. -/
  | kept (s : List Char)
  | opening (name : List Char)
  | closing (name : List Char)
deriving Repr, DecidableEq

/-- Whether a tag can begin with a character after its bracket. -/
def startsTag (c : Char) : Bool := ('a' ≤ c && c ≤ 'z') || c = '#' || c = '/' || c = '@'

/-- What stands in a tag at the start of a text, and what follows the tag. -/
def takeTag? : List Char → Option (List Char × List Char)
  | '[' :: c :: s =>
    if startsTag c then
      let body := s.takeWhile fun x => x != '[' && x != ']'
      match s.drop body.length with
      | ']' :: rest => some (c :: body, rest)
      | _ => none
    else none
  | _ => none

/-- The piece that a tag is. What follows an equals sign belongs to the style and not to its name. -/
def pieceOf (tag : List Char) : Piece :=
  let name := tag.takeWhile (· != '=')
  match name with
  | '/' :: name => .closing (trim name)
  | name => .opening name

/-- A text in pieces, after the text `before`, which is held backwards. Two backslashes before a tag are one, and an
odd one makes it text. The fuel bounds the number of characters. -/
def pieces : Nat → List Char → List Char → List Piece
  | 0, before, s => [.text (before.reverse ++ s)]
  | _ + 1, before, [] => [.text before.reverse]
  | fuel + 1, before, c :: s =>
    let slashes := (c :: s).takeWhile (· = '\\')
    match takeTag? ((c :: s).drop slashes.length) with
    | some (tag, rest) =>
      let halved := List.replicate (slashes.length / 2) '\\'
      let piece := if slashes.length % 2 = 1 then .kept ('[' :: tag ++ [']']) else pieceOf tag
      .text before.reverse :: .kept halved :: piece :: pieces fuel [] rest
    | none => pieces fuel (c :: before) s

/-- Words that style text, by their short forms. -/
def shortStyles : List (String × String) := [
  ("b", "bold"), ("d", "dim"), ("i", "italic"), ("u", "underline"), ("r", "reverse"), ("c", "conceal"), ("s", "strike"),
  ("uu", "underline2"), ("o", "overline")]

def styleName (name : List Char) : List Char :=
  let name := lower (trim name)
  match shortStyles.lookup (String.ofList name) with
  | some long => long.toList
  | none => name

/-- Control characters that a terminal is not given. -/
def isStripped (c : Char) : Bool := c = '\x07' || c = '\x08' || c = '\x0b' || c = '\x0c' || c = '\r'

/-- Text before brackets that were kept from being tags. -/
def dropSlashes : List Char → List Char
  | '\\' :: '[' :: s => '[' :: dropSlashes s
  | c :: s => c :: dropSlashes s
  | [] => []

/-- The texts of pieces; `styles` are the open ones, innermost first. -/
def textOf (styles : List (List Char)) : List Piece → Except Fault (List Char)
  | [] => .ok []
  | .text s :: rest => do return dropSlashes s ++ (← textOf styles rest)
  | .kept s :: rest => do return s ++ (← textOf styles rest)
  | .opening name :: rest => textOf (styleName name :: styles) rest
  | .closing name :: rest =>
    if name.isEmpty then
      match styles with
      | _ :: styles => textOf styles rest
      | [] => .error (.strayTag "[/]")
    else if styles.contains (styleName name) then textOf (styles.erase (styleName name)) rest
    else .error (.strayTag (String.ofList ("[/".toList ++ name ++ [']'])))

def untagged (s : List Char) : Except Fault (List Char) := do
  let shown ← if s.contains '[' then textOf [] (pieces (s.length + 1) [] s) else pure s
  return shown.filter fun c => !isStripped c

def plainText (s : List Char) : List Char := s.filter fun c => !isStripped c

/-- A text in which whatever looks like a tag is kept from being one, ready to stand before a tag. The fuel bounds the
number of characters. -/
def protectTags : Nat → List Char → List Char
  | 0, s => s
  | _ + 1, [] => []
  | fuel + 1, c :: s =>
    let slashes := (c :: s).takeWhile (· = '\\')
    match takeTag? ((c :: s).drop slashes.length) with
    | some (tag, rest) => slashes ++ slashes ++ '\\' :: '[' :: tag ++ ']' :: protectTags fuel rest
    | none => c :: protectTags fuel s

def protect (s : List Char) : List Char :=
  let s := protectTags s.length s
  match s.reverse with
  | '\\' :: '\\' :: _ => s
  | '\\' :: _ => s ++ ['\\']
  | _ => s

def dropColors : Nat → List Char → List Char
  | 0, s => s
  | _ + 1, [] => []
  | fuel + 1, '\x1b' :: '[' :: s =>
    match s.dropWhile fun c => c = ';' || c = '?' || ('0' ≤ c && c ≤ '9') with
    | c :: rest =>
      if ('a' ≤ c && c ≤ 'z') || ('A' ≤ c && c ≤ 'Z') then dropColors fuel rest else '\x1b' :: dropColors fuel ('[' :: s)
    | [] => '\x1b' :: '[' :: s
  | fuel + 1, c :: s => c :: dropColors fuel s

end PageSkins.Terminal
