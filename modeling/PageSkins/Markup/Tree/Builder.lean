import PageSkins.Markup.Tree.Arena

/-!
# The state of tree construction

The stack of open elements, the formatting elements to be opened again, and the place where
new nodes go, with the basic operations on them.
-/

namespace PageSkins.Markup

/-- Where in a page the next lexeme stands. -/
inductive Mode where
  | body
  | table
  | tableText
  | tableBody
  | row
  | cell
  | select
  | selectInTable
deriving Repr, DecidableEq, Inhabited

structure Builder where
  arena : Arena
  /-- The open elements, innermost first. -/
  opened : List Nat
  /-- The formatting elements, oldest first; `none` marks the start of a table cell. -/
  formatting : List (Option Nat) := []
  mode : Mode := .body
  /-- The mode to return to after text in a table. -/
  tableMode : Mode := .table
  /-- Text in a table that has not been placed yet. -/
  tableText : List Char := []
  /-- Whether what is out of place in a table goes before it. -/
  beforeTable : Bool := false
  form : Option Nat := none
  /-- Whether a line break right after the start of preformatted text is dropped. -/
  dropBreak : Bool := false
  /-- The element that holds text only and has just begun. -/
  textOnly : Option String := none
deriving Inhabited

namespace Builder

def rootName : String := "html"

/-- A fragment of the content of a `div`. -/
def start : Builder := { arena := #[{ name := some rootName }], opened := [0] }

def element (b : Builder) (i : Nat) : Element := b.arena.get i

def nameOf (b : Builder) (i : Nat) : String := (b.element i).name.getD ""

def currentId (b : Builder) : Nat := b.opened.headD 0

def current (b : Builder) : Element := b.element b.currentId

def currentName (b : Builder) : String := b.nameOf b.currentId

def isPage (b : Builder) (i : Nat) (name : String) : Bool :=
  let e := b.element i
  e.vocabulary == .page && e.name == some name

/-- The elements of a page that bound a search for an open element. -/
def scopeNames : List String := ["applet", "caption", "html", "marquee", "object", "table", "td", "th"]

/-- How far a search for an open element goes. -/
inductive Scope where
  | plain
  | button
  | list
  | table
  | select
deriving Repr, DecidableEq

def Scope.stops (b : Builder) (i : Nat) : Scope → Bool
  | .plain => scopeNames.any (b.isPage i)
  | .button => scopeNames.any (b.isPage i) || b.isPage i "button"
  | .list => scopeNames.any (b.isPage i) || b.isPage i "ol" || b.isPage i "ul"
  | .table => b.isPage i "html" || b.isPage i "table"
  | .select => !(b.isPage i "optgroup" || b.isPage i "option")

/-- Whether the search finds what it looks for before it ends. -/
def findsIn (b : Builder) (scope : Scope) (target : Nat → Bool) : List Nat → Bool
  | [] => false
  | i :: rest => target i || (!scope.stops b i && findsIn b scope target rest)

def inScope (b : Builder) (name : String) (scope : Scope := .plain) : Bool :=
  b.findsIn scope (b.isPage · name) b.opened

def nodeInScope (b : Builder) (i : Nat) : Bool := b.findsIn .plain (· == i) b.opened

def pop (b : Builder) : Builder := { b with opened := b.opened.drop 1 }

def popThrough (b : Builder) (name : String) : Builder :=
  { b with opened := (b.opened.dropWhile fun i => b.nameOf i != name).drop 1 }

def popTo (b : Builder) (names : List String) : Builder :=
  { b with opened := b.opened.dropWhile fun i => !names.contains (b.nameOf i) }

def impliedEnds : List String := ["dd", "dt", "li", "option", "optgroup", "p", "rp", "rt"]

/-- Closes the elements whose end is implied, except those of one name. -/
def closeImplied (b : Builder) (exclude : String := "") : Builder :=
  { b with opened := b.opened.dropWhile fun i =>
      let n := b.nameOf i
      impliedEnds.contains n && n != exclude }

/-- Elements of a table in which nothing else has its place. -/
def tableParts : List String := ["table", "tbody", "tfoot", "thead", "tr"]

/-- Where a node goes that is out of place in a table: into the parent of the innermost table, before the
table. -/
def fosterPlace (b : Builder) : Nat × Option Nat :=
  match b.opened.find? fun i => b.nameOf i == "table" with
  | none => (b.opened.getLastD 0, none)
  | some t =>
    match (b.element t).parent with
    | some p => (p, some t)
    | none => (((b.opened.dropWhile (· != t)).drop 1).headD 0, none)

/-- Whether what comes next must go before the table. -/
def misplaced (b : Builder) : Bool := b.beforeTable && tableParts.contains b.currentName

def openElement (b : Builder) (e : Element) : Builder :=
  let (arena, i) := b.arena.add e
  let arena :=
    if b.misplaced then
      match b.fosterPlace with
      | (p, some t) => arena.insertBefore p t i []
      | (p, none) => arena.appendChild p i []
    else arena.appendChild b.currentId i []
  { b with arena := arena, opened := i :: b.opened }

def openTag (b : Builder) (t : Tag) : Builder :=
  b.openElement { name := some t.name, attributes := t.attributes }

def openName (b : Builder) (name : String) : Builder := b.openElement { name := some name }

def addText (b : Builder) (s : List Char) : Builder :=
  if s.isEmpty then b
  else if b.misplaced then
    match b.fosterPlace with
    | (p, some t) => { b with arena := b.arena.modify p (·.addTextBefore t s) }
    | (p, none) => { b with arena := b.arena.modify p (·.addText s) }
  else { b with arena := b.arena.modify b.currentId (·.addText s) }

def addComment (b : Builder) : Builder :=
  let (arena, i) := b.arena.add { name := none }
  { b with arena := arena.appendChild b.currentId i [] }

def copy (b : Builder) (i : Nat) : Element :=
  let e := b.element i
  { name := e.name, vocabulary := e.vocabulary, attributes := e.attributes }

/-- Opens formatting elements again, oldest first; the new nodes in the same order. -/
def reopen (b : Builder) : List Nat → Builder × List (Option Nat)
  | [] => (b, [])
  | i :: rest =>
    let b := b.openElement (b.copy i)
    let new := b.currentId
    let (b, others) := reopen b rest
    (b, some new :: others)

/-- The formatting elements at the end of the list that are not open, up to a mark or an open one. -/
def closedFormatting (b : Builder) : List Nat :=
  (b.formatting.reverse.takeWhile fun
    | some i => !b.opened.contains i
    | none => false).reverse.filterMap id

/-- Opens again the formatting elements that were closed by the end of a block. -/
def reopenFormatting (b : Builder) : Builder :=
  let closed := b.closedFormatting
  let kept := b.formatting.take (b.formatting.length - closed.length)
  let (b', new) := b.reopen closed
  { b' with formatting := kept ++ new }

/-- The formatting elements since the last mark, newest first. -/
def recentFormatting (b : Builder) : List Nat :=
  (b.formatting.reverse.takeWhile (·.isSome)).filterMap id

/-- Forgets the formatting elements since the last mark, and the mark. -/
def clearFormatting (b : Builder) : Builder :=
  { b with formatting := ((b.formatting.reverse.dropWhile (·.isSome)).drop 1).reverse }

def alike (b : Builder) (i j : Nat) : Bool :=
  let x := b.element i
  let y := b.element j
  x.name == y.name && x.vocabulary == y.vocabulary && x.attributes.length == y.attributes.length &&
    x.attributes.all y.attributes.contains

/-- Opens a formatting element. At most three alike are remembered since the last mark. -/
def openFormatting (b : Builder) (t : Tag) : Builder :=
  let b := b.openTag t
  let i := b.currentId
  let same := b.recentFormatting.filter (b.alike i)
  let kept := match same with
    | _ :: _ :: third :: _ => b.formatting.erase (some third)
    | _ => b.formatting
  { b with formatting := kept ++ [some i] }

/-- Elements that are not closed by the end of something around them. -/
def specialNames : List String := [
  "address", "applet", "area", "article", "aside", "base", "basefont", "bgsound", "blockquote", "body", "br",
  "button", "caption", "center", "col", "colgroup", "command", "dd", "details", "dir", "div", "dl", "dt", "embed",
  "fieldset", "figure", "footer", "form", "frame", "frameset", "h1", "h2", "h3", "h4", "h5", "h6", "head",
  "header", "hr", "html", "iframe", "image", "img", "input", "isindex", "li", "link", "listing", "marquee", "menu",
  "meta", "nav", "noembed", "noframes", "noscript", "object", "ol", "p", "param", "plaintext", "pre", "script",
  "section", "select", "style", "table", "tbody", "td", "textarea", "tfoot", "th", "thead", "title", "tr", "ul",
  "wbr", "xmp"]

def isSpecial (b : Builder) (i : Nat) : Bool :=
  (b.element i).vocabulary == .page && specialNames.contains (b.nameOf i)

def modeOf (b : Builder) : List Nat → Mode
  | [] => .body
  | [_] => .body
  | i :: rest =>
    if (b.element i).vocabulary != .page then b.modeOf rest
    else match b.nameOf i with
      | "select" => .select
      | "td" | "th" => .cell
      | "tr" => .row
      | "tbody" | "thead" | "tfoot" => .tableBody
      | "table" => .table
      | _ => b.modeOf rest

def resetMode (b : Builder) : Builder := { b with mode := b.modeOf b.opened }

end Builder
end PageSkins.Markup
