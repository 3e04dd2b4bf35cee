import PageSkins.Template.Tag

/-!
# Trees written as templates

Of the forms that a tree can be read from, this is the one that the library would choose.
-/

namespace PageSkins.Template

/-- The word after the mark of an opening tag, up to the name. -/
def BlockKind.opening : BlockKind → List Char
  | .cond => "if ".toList
  | .each => "each ".toList
  | .section => []

/-- The word after the mark of a closing tag. -/
def BlockKind.closing (name : String) : BlockKind → List Char
  | .cond => "if".toList
  | .each => "each".toList
  | .section => name.toList

mutual

def Node.print : Node → List Char
  | .text s => s.toList
  | .field name => tagText name.toList
  | .include name => tagText ('>' :: ' ' :: name.toList)
  | .block kind name body =>
    tagText ('#' :: kind.opening ++ name.toList) ++ printAll body ++ tagText ('/' :: kind.closing name)

def printAll : List Node → List Char
  | [] => []
  | n :: rest => n.print ++ printAll rest

end

end PageSkins.Template
