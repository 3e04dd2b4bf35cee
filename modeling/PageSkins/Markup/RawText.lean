import PageSkins.Text.Fold
import PageSkins.Text.Word

/-!
# Containers of raw text

Scripts, styles and other containers of raw text are removed with all they hold, whatever
stands inside. An element reaches to its first closing tag, or to the end if there is none.
Removing one can bring together the parts of another, so removal is repeated until nothing
changes.
-/

namespace PageSkins.Markup

open PageSkins.Text

def rawContainers : List (List Char) :=
  ["script", "style", "iframe", "object", "embed", "noscript", "template", "title"].map String.toList

/-- What follows one of these names at the start of a text, and the name as it was written. The name must
end where a word ends. -/
def containerName? (s : List Char) : Option (List Char × List Char) :=
  rawContainers.findSome? fun name =>
    let (written, rest) := s.splitAt name.length
    if written.map foldLetter = name ∧ (rest.head?.all fun c => !isWord c) then some (written, rest)
    else none

def afterClosing? (name : List Char) : List Char → Option (List Char)
  | '<' :: '/' :: s =>
    let (written, rest) := s.splitAt name.length
    if written.map plainLower = name.map plainLower then
      match rest.dropWhile isBlank with
      | '>' :: rest => some rest
      | _ => none
    else none
  | _ => none

/-- What follows the first closing tag of this name, and nothing if there is none. -/
def afterElement (name : List Char) : List Char → List Char
  | [] => []
  | c :: s => match afterClosing? name (c :: s) with
    | some rest => rest
    | none => afterElement name s

def afterContainer? : List Char → Option (List Char)
  | '<' :: s =>
    match containerName? s with
    | some (name, rest) =>
      match rest.dropWhile (· != '>') with
      | _ :: body => some (afterElement name body)
      | [] => none
    | none => none
  | _ => none

/-- A text without its containers, in one pass from left to right. -/
def removeContainers (s : List Char) : List Char :=
  match s with
  | [] => []
  | c :: t =>
    match afterContainer? (c :: t) with
    | some rest =>
      if _shorter : rest.length ≤ t.length then removeContainers rest else c :: removeContainers t
    | none => c :: removeContainers t
termination_by s.length

/-- A text without its containers, however often they have to be looked for. -/
def stripContainers (s : List Char) : List Char :=
  let t := removeContainers s
  if t.length < s.length then stripContainers t else t
termination_by s.length

end PageSkins.Markup
