import PageSkins.Text.Fold

/-!
# Style sheets of authors

The few constructs that run scripts are taken out. This is a list of what is refused and no
parser of style sheets; a construct hidden behind an indirection passes.
-/

namespace PageSkins.Stylesheet

open PageSkins.Text

/-- The constructs that run scripts, in the order in which they are taken out. -/
def dangerous : List Pattern := [
  Pattern.word "expression" ++ [.blanks, .letter '('],
  Pattern.word "javascript" ++ [.blanks, .letter ':'],
  Pattern.word "behavior" ++ [.blanks, .letter ':'],
  Pattern.word "@import" ++ .someBlanks :: Pattern.word "url" ++ [.blanks, .letter '('],
  Pattern.word "binding" ++ [.blanks, .letter ':']]

/-- What stands in place of a construct that was taken out. -/
def blocked : List Char := "/* blocked */".toList

def sanitize (css : List Char) : List Char :=
  dangerous.foldl (fun s p => p.replace blocked s) css

def isDangerous (css : List Char) : Bool := dangerous.any fun p => p.occursIn css

end PageSkins.Stylesheet
