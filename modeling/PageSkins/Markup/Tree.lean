import PageSkins.Markup.Tree.Starts

/-!
# Markup read into trees

Lexemes are taken one by one and placed. Tags of elements that are not kept never reach the
tree; a text stands for them, empty or a line break.
-/

namespace PageSkins.Markup

open Builder

/-- What is placed in the tree. -/
inductive Token where
  | start (t : Tag)
  | stop (name : String)
  | chars (s : List Char)
  | space (s : List Char)
  | zero
  | comment
deriving Repr

namespace Builder

def textInBody (b : Builder) (s : List Char) : Builder := b.reopenFormatting.addText s

def spaceInBody (b : Builder) (s : List Char) : Builder :=
  if b.dropBreak then
    let b := { b with dropBreak := false }
    let s := match s with
      | '\n' :: rest =>
        if ["pre", "listing", "textarea"].contains b.currentName && !b.current.hasContent then rest else s
      | _ => s
    if s.isEmpty then b else b.textInBody s
  else b.textInBody s

/-- Text of a table, which is placed when something else follows. -/
def holdText (b : Builder) (s : List Char) : Builder :=
  match b.mode with
  | .tableText => { b with tableText := b.tableText ++ s }
  | m => { b with tableMode := m, mode := .tableText, tableText := s }

def placeInMode (b : Builder) (t : Token) : Outcome :=
  match t with
  | .start tag => b.startTag tag
  | .stop name => b.endTag name
  | .comment =>
    match b.mode with
    | .tableText => again b.placeTableText
    | _ => finished b.addComment
  | .chars s =>
    match b.mode with
    | .body | .cell => finished (b.textInBody s)
    | .select | .selectInTable => finished (b.addText s)
    | _ => finished (b.holdText s)
  | .space s =>
    match b.mode with
    | .body => finished (b.spaceInBody s)
    | .cell | .select | .selectInTable => finished (b.addText s)
    | _ => finished (b.holdText s)
  | .zero =>
    match b.mode with
    | .table | .tableBody | .row => finished (b.holdText [])
    | _ => finished b

def placeInDrawing (b : Builder) (t : Token) : Outcome :=
  match t with
  | .start tag => b.startInDrawing tag
  | .stop name => b.endInDrawing name
  | .chars s | .space s => finished (b.addText s)
  | .zero => finished (b.addText ['\ufffd'])
  | .comment => finished b.addComment

def inDrawing (b : Builder) : Bool := b.current.vocabulary == .drawing

/-- Places a token. Each time it is taken again something was closed or the mode changed; the fuel bounds how
often. -/
def place : Nat → Token → Builder → Builder
  | 0, _, b => b
  | fuel + 1, t, b =>
    let (b, more) := if b.inDrawing then b.placeInDrawing t else b.placeInMode t
    if more then place fuel t b else b

def placeToken (b : Builder) (t : Token) : Builder := place (4 * b.opened.length + 16) t b

/-- Places what is held back at the end of the text. -/
def finish (b : Builder) : Builder := if b.mode == .tableText then b.placeTableText else b

end Builder

/-- Blocks whose opening tags leave a line break when they are taken out. -/
def lineBlocks : List String := [
  "address", "article", "aside", "blockquote", "dd", "details", "dialog", "div", "dl", "dt", "fieldset",
  "figcaption", "figure", "footer", "form", "h1", "h2", "h3", "h4", "h5", "h6", "header", "hgroup", "hr", "li",
  "main", "nav", "ol", "p", "pre", "section", "table", "ul"]

/-- A name in small letters, whatever the script. -/
def smallName (name : String) : String :=
  String.ofList (name.toList.flatMap fun c => if c = '\u212a' then ['k'] else [c.toLower])

/-- Attributes without the names that hold a quote or `<`. -/
def wellNamed (attributes : List Attribute) : List Attribute :=
  attributes.filter fun a => !a.name.toList.any fun c => c = '"' || c = '\'' || c = '<'

/-- What is placed for a lexeme. `afterTag` tells whether there was a tag before. -/
def Token.ofLexeme (kept : String → Bool) (afterTag : Bool) : Lexeme → Option Token
  | .space s => some (.space s)
  | .chars s => some (.chars s)
  | .zero => some .zero
  | .tag t badName =>
    let name := smallName t.name
    if kept name then
      if t.closing then some (.stop t.name)
      else some (.start (if badName then { t with attributes := wellNamed t.attributes } else t))
    else some (.chars (if !t.closing && afterTag && lineBlocks.contains name then ['\n'] else []))
  | .comment => some .comment
  | .strayClosing content written =>
    if kept (smallName (String.ofList (Text.trim content))) then some .comment else some (.chars written)
  | .doctype => none
  | .nothing => none
  | .cut written isText => if isText then some (.chars written) else none

/-- Lexing and placing by turns. -/
structure Reader where
  builder : Builder
  afterTag : Bool := false
  /-- The element that holds text only, with the text since it began. -/
  textOnly : Option (String × List Char) := none

def Reader.take (r : Reader) (kept : String → Bool) (l : Lexeme) (here : List Char) : Reader :=
  let isTag := match l with
    | .tag .. => true
    | _ => false
  let b := match Token.ofLexeme kept r.afterTag l with
    | some t => r.builder.placeToken t
    | none => r.builder
  let textOnly := match b.textOnly, r.textOnly with
    | some name, _ => some (name, here)
    | none, some (name, written) => if isTag then none else some (name, written ++ here)
    | none, none => none
  ⟨{ b with textOnly := none }, r.afterTag || isTag, textOnly⟩

/-- Reads a text to its end. The fuel bounds the number of lexemes; the length of the text is enough. -/
def Reader.run (kept : String → Bool) : Nat → List Char → Reader → Reader
  | 0, _, r => r
  | fuel + 1, s, r =>
    let next := match r.textOnly with
      | some (name, written) => scanText name written s
      | none => scan r.builder.inDrawing s
    match next with
    | none => r
    | some (l, rest) => run kept fuel rest (r.take kept l (s.take (s.length - rest.length)))

def normalizeBreaks : List Char → List Char
  | '\r' :: '\n' :: s => '\n' :: normalizeBreaks s
  | '\r' :: s => '\n' :: normalizeBreaks s
  | c :: s => c :: normalizeBreaks s
  | [] => []

def readArena (kept : String → Bool) (s : List Char) : Arena :=
  let s := normalizeBreaks s
  (Reader.run kept (s.length + 1) s ⟨.start, false, none⟩).builder.finish.arena

inductive Tree where
  | text (s : List Char)
  | comment
  | element (name : String) (vocabulary : Vocabulary) (attributes : List Attribute) (children : List Tree)
deriving Repr, Inhabited

def Tree.ofText (s : List Char) : List Tree := if s.isEmpty then [] else [.text s]

/-- What stands inside a node. Only the listed children are taken where `all` is not set. The fuel bounds the
depth; the number of nodes is enough. -/
def Tree.inside (a : Arena) (all : Bool) : Nat → Nat → List Tree
  | 0, _ => []
  | fuel + 1, i =>
    let e := a.get i
    Tree.ofText e.lead ++ (e.branches.toList.filter fun b => all || b.listed).flatMap fun b =>
      let child := a.get b.id
      let node := match child.name with
        | none => .comment
        | some n => .element n child.vocabulary child.attributes (Tree.inside a true fuel b.id)
      node :: Tree.ofText b.tail

/-- The trees of a fragment, side by side. An element that was put before a table directly inside the
fragment is not among them. -/
def Tree.read (kept : String → Bool) (s : List Char) : List Tree :=
  let a := readArena kept s
  Tree.inside a false (a.size + 1) 0

end PageSkins.Markup
