import PageSkins.Template.Tag

/-!
# Templates read into trees

A closing tag closes the innermost open block of its kind, and of its name for a section;
blocks opened inside that one and never closed become their opening tag as text, followed by
what they held. A closing tag that closes nothing is text, and so is a tag of no known form.
-/

namespace PageSkins.Template

/-- A block that is open: its opening tag, and the nodes before it, last first. -/
structure Frame where
  kind : BlockKind
  name : String
  inner : List Char
  before : List Node

def literalTag (inner : List Char) : Node := .text (String.ofList (tagText inner))

/-- Whether a closing tag of this kind and name closes a block. -/
def Frame.closedBy (f : Frame) (kind : BlockKind) (name : String) : Bool :=
  f.kind == kind && (kind != .section || f.name == name)

/-- The nodes around a block, last first, when it turns out never to be closed. -/
def Frame.unwind (f : Frame) (children : List Node) : List Node :=
  children ++ literalTag f.inner :: f.before

/-- The parser between two pieces: the nodes of the innermost open block, last first, and the blocks that
are open, innermost first. -/
structure State where
  nodes : List Node
  opened : List Frame

/-- Closes the innermost block that a closing tag fits, if there is one. -/
def closeBlock (kind : BlockKind) (name : String) : List Node → List Frame → Option State
  | _, [] => none
  | nodes, f :: rest =>
    if f.closedBy kind name then
      some ⟨.block f.kind f.name nodes.reverse :: f.before, rest⟩
    else closeBlock kind name (f.unwind nodes) rest

/-- Takes one piece. -/
def State.step (st : State) : Piece → State
  | .text s => { st with nodes := .text (String.ofList s) :: st.nodes }
  | .tag inner =>
    match Tag.ofInner inner with
    | .opens kind name => ⟨[], ⟨kind, name, inner, st.nodes⟩ :: st.opened⟩
    | .closes kind name =>
      (closeBlock kind name st.nodes st.opened).getD { st with nodes := literalTag inner :: st.nodes }
    | .include name => { st with nodes := .include name :: st.nodes }
    | .field name => { st with nodes := .field name :: st.nodes }
    | .unknown => { st with nodes := literalTag inner :: st.nodes }

def unwindAll : List Node → List Frame → List Node
  | nodes, [] => nodes
  | nodes, f :: rest => unwindAll (f.unwind nodes) rest

def State.finish (st : State) : List Node := (unwindAll st.nodes st.opened).reverse

def parse (template : List Char) : List Node :=
  ((pieces template).foldl State.step ⟨[], []⟩).finish

end PageSkins.Template
