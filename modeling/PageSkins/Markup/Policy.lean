import PageSkins.Markup.Address
import PageSkins.Markup.Tree
import PageSkins.Stylesheet

/-!
# What may stay in a fragment

An allow-list of elements and attributes, and rules for the values of addresses, paints and
styles.
-/

namespace PageSkins.Markup

open PageSkins.Text

/-- The choices that a fragment is reduced under. -/
structure Policy where
  /-- Form controls stay. -/
  forms : Bool := false
  /-- Style attributes are treated like style sheets. -/
  filterStyles : Bool := false
deriving Repr, DecidableEq

def contentElements : List String := [
  "div", "span", "p", "a", "img",
  "h1", "h2", "h3", "h4", "h5", "h6",
  "ul", "ol", "li", "br", "hr",
  "strong", "em", "b", "i", "u",
  "header", "footer", "nav", "main", "aside", "article", "section",
  "figure", "figcaption", "blockquote", "pre", "code",
  "table", "thead", "tbody", "tr", "th", "td",
  "button", "svg", "path"]

def formElements : List String := ["input", "form", "label", "select", "option", "textarea"]

/-- Attributes that stay, in small letters. -/
def contentAttributes : List String := [
  "class", "id", "href", "src", "alt", "title", "style",
  "data-post-id", "data-blog-id", "data-category-id",
  "target", "rel", "width", "height", "loading",
  "viewbox", "fill", "stroke", "stroke-width",
  "stroke-linecap", "stroke-linejoin", "d"]

def formAttributes : List String := ["type", "name", "value", "placeholder"]

namespace Policy

def keepsElement (p : Policy) (name : String) : Bool :=
  contentElements.contains name || (p.forms && formElements.contains name)

/-- Attributes are compared in small letters. Authors may name data of their own. -/
def keepsAttribute (p : Policy) (name : String) : Bool :=
  let name := smallName name
  contentAttributes.contains name || (p.forms && formAttributes.contains name) ||
    "data-".toList.isPrefixOf name.toList

end Policy

/-- The name of an attribute. One in braces before it tells the vocabulary it belongs to. -/
structure QualifiedName where
  vocabulary : Option String
  name : String
deriving Repr, DecidableEq

def QualifiedName.ofText (s : String) : QualifiedName :=
  match s.toList with
  | '{' :: r =>
    match r.dropWhile (· != '}') with
    | _ :: name => ⟨some (String.ofList (r.takeWhile (· != '}'))), String.ofList name⟩
    | [] => ⟨none, s⟩
  | _ => ⟨none, s⟩

def linkVocabulary : String := "http://www.w3.org/1999/xlink"

def isAddress (q : QualifiedName) : Bool :=
  q = ⟨none, "href"⟩ || q = ⟨none, "src"⟩ || q = ⟨some linkVocabulary, "href"⟩

/-- Attributes of drawings that may refer to a paint elsewhere. -/
def isPaint (q : QualifiedName) : Bool := q = ⟨none, "fill"⟩ || q = ⟨none, "stroke"⟩

def replaceWord (word by' : List Char) (s : List Char) : List Char :=
  match s with
  | [] => []
  | c :: t =>
    if word.isPrefixOf (c :: t) ∧ word ≠ [] then by' ++ replaceWord word by' (t.drop (word.length - 1))
    else c :: replaceWord word by' t
termination_by s.length

/-- The three references that markup cannot do without, read back. -/
def unescapeMarkup (s : List Char) : List Char :=
  replaceWord "&amp;".toList ['&'] (replaceWord "&lt;".toList ['<'] (replaceWord "&gt;".toList ['>'] s))

/-- What follows `url(…)` at the start of a text, where it points out of the page. -/
def afterPaintAddress? : List Char → Option (List Char)
  | 'u' :: 'r' :: 'l' :: s =>
    match s.dropWhile isBlank with
    | '(' :: s =>
      match s.dropWhile isBlank with
      | c :: d :: s =>
        if c = '#' ∨ d = ')' then none
        else match s.dropWhile (· != ')') with
          | _ :: rest => some rest
          | [] => none
      | _ => none
    | _ => none
  | _ => none

/-- A paint with a space in place of each address out of the page. -/
def localPaint (s : List Char) : List Char :=
  match s with
  | [] => []
  | c :: t =>
    match afterPaintAddress? (c :: t) with
    | some rest => if _shorter : rest.length ≤ t.length then ' ' :: localPaint rest else c :: localPaint t
    | none => c :: localPaint t
termination_by s.length

/-- What becomes of an attribute: its value, nothing if it goes. -/
def Policy.value? (p : Policy) (q : QualifiedName) (value : List Char) : Except Reference.TooLong (Option (List Char)) :=
  if !p.keepsAttribute q.name then .ok none
  else if isAddress q then do
    return if (← Address.isSafe value) then some value else none
  else if isPaint q then
    let paint := trim (localPaint (unescapeMarkup value))
    .ok (if paint.isEmpty then none else some paint)
  else if p.filterStyles && q = ⟨none, "style"⟩ then .ok (some (Stylesheet.sanitize value))
  else .ok (some value)

def Policy.attributes (p : Policy) : List Attribute → Except Reference.TooLong (List Attribute)
  | [] => .ok []
  | a :: rest => do
    let q := QualifiedName.ofText a.name
    let value ← p.value? q a.value
    let rest ← p.attributes rest
    return match value with
      | some v => ⟨q.name, v⟩ :: rest
      | none => rest

mutual

/-- Reduces a tree to what stays. What stands inside an element that goes takes its place; comments go. -/
def Policy.filterTree (p : Policy) : Tree → Except Reference.TooLong (List Tree)
  | .text s => .ok [.text s]
  | .comment => .ok []
  | .element name vocabulary attributes children =>
    if p.keepsElement name then do
      let attributes ← p.attributes attributes
      return [.element name vocabulary attributes (← p.filter children)]
    else p.filter children

def Policy.filter (p : Policy) : List Tree → Except Reference.TooLong (List Tree)
  | [] => .ok []
  | t :: rest => do
    let kept ← p.filterTree t
    return kept ++ (← p.filter rest)

end

end PageSkins.Markup
