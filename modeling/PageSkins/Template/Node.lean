import PageSkins.Text.Blank

/-!
# The tree of a template

A template is a list of nodes; blocks hold nodes of their own.
-/

namespace PageSkins.Template

/-- What a block does with its body. -/
inductive BlockKind where
  | cond
  | each
  | section
deriving Repr, DecidableEq, Inhabited

/-- A piece of a template. -/
inductive Node where
  | text (s : String)
  | field (name : String)
  | include (name : String)
  | block (kind : BlockKind) (name : String) (body : List Node)
deriving Repr, Inhabited

def Node.isBlankText : Node → Bool
  | .text s => Text.allBlank s.toList
  | _ => false

/-- Whether a body holds nothing but blanks. -/
def isBlankBody (nodes : List Node) : Bool := nodes.all Node.isBlankText

end PageSkins.Template
