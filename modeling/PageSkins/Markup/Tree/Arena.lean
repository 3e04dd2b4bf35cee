import PageSkins.Markup.Lexer

/-!
# Trees under construction

The nodes of a tree are numbered; each lists its children in order, and every child is
followed by the text up to the next. A child that was put before a table from inside it is
not `listed`: it stays behind when its parent hands its children on.
-/

namespace PageSkins.Markup

/-- The vocabulary that a name belongs to: pages or drawings. -/
inductive Vocabulary where
  | page
  | drawing
deriving Repr, DecidableEq, Inhabited

structure Branch where
  id : Nat
  listed : Bool
  tail : List Char
deriving Repr, DecidableEq, Inhabited

/-- A node. Comments have no name. -/
structure Element where
  name : Option String
  vocabulary : Vocabulary := .page
  attributes : List Attribute := []
  parent : Option Nat := none
  /-- The text before the first child. -/
  lead : List Char := []
  branches : Array Branch := #[]
deriving Repr, Inhabited

/-- The nodes by number. The first is the root. -/
abbrev Arena := Array Element

namespace Element

def addText (e : Element) (s : List Char) : Element :=
  match e.branches.back? with
  | none => { e with lead := e.lead ++ s }
  | some b => { e with branches := e.branches.pop.push { b with tail := b.tail ++ s } }

def addTextBefore (e : Element) (child : Nat) (s : List Char) : Element :=
  match e.branches.findIdx? (·.id == child) with
  | some (i + 1) => { e with branches := e.branches.modify i fun b => { b with tail := b.tail ++ s } }
  | _ => { e with lead := e.lead ++ s }

def addBranch (e : Element) (b : Branch) : Element := { e with branches := e.branches.push b }

def addBranchBefore (e : Element) (child : Nat) (b : Branch) : Element :=
  match e.branches.findIdx? (·.id == child) with
  | some i => { e with branches := e.branches.insertIdxIfInBounds i b }
  | none => e.addBranch b

def hasContent (e : Element) : Bool := !e.lead.isEmpty || !e.branches.isEmpty

end Element

namespace Arena

def get (a : Arena) (i : Nat) : Element := a.getD i default

/-- Adds a node without a parent; its number is the second part. -/
def add (a : Arena) (e : Element) : Arena × Nat := (a.push e, a.size)

/-- Makes a node the last child of another. -/
def appendChild (a : Arena) (parent : Nat) (child : Nat) (tail : List Char) : Arena :=
  (a.modify parent (·.addBranch ⟨child, true, tail⟩)).modify child ({ · with parent := some parent })

/-- Puts a node before a child of another, unlisted. -/
def insertBefore (a : Arena) (parent next child : Nat) (tail : List Char) : Arena :=
  (a.modify parent (·.addBranchBefore next ⟨child, false, tail⟩)).modify child
    ({ · with parent := some parent })

/-- Takes a node from its parent; the text after it goes along. -/
def detach (a : Arena) (child : Nat) : Arena × List Char :=
  match (a.get child).parent with
  | none => (a, [])
  | some p =>
    let tail := ((a.get p).branches.find? (·.id == child)).elim [] (·.tail)
    ((a.modify p fun e => { e with branches := e.branches.filter (·.id != child) }).modify child
      ({ · with parent := none }), tail)

/-- Hands the text and the listed children of a node on to a node that has none. -/
def handOn (a : Arena) (source target : Nat) : Arena :=
  let e := a.get source
  let kept := e.branches.filter (·.listed)
  let a := a.modify source ({ · with lead := [], branches := #[] })
  let a := a.modify target ({ · with lead := e.lead, branches := kept })
  kept.foldl (fun a b => a.modify b.id ({ · with parent := some target })) a

end Arena
end PageSkins.Markup
