import PageSkins.Markup.Policy
import PageSkins.Markup.RawText
import PageSkins.Markup.Writer

/-!
# Safe markup

A fragment of an author is reduced to safe markup: containers of raw text go first, then the
rest is read, reduced to what the policy keeps, and written again.
-/

namespace PageSkins.Markup

/-- Reduces a fragment to safe markup. It fails only at a reference whose number is too long. -/
def sanitize (p : Policy) (s : List Char) : Except Reference.TooLong (List Char) := do
  let trees ← p.filter (Tree.read p.keepsElement (stripContainers s))
  Writer.write trees

def sanitizeWarning : String := "HTML sanitization failed, dropping fragment"

end PageSkins.Markup
