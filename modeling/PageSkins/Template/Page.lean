import PageSkins.Template.Render

/-!
# The pages of a skin

The slots of a skin, filled in for one page.
-/

namespace PageSkins.Template

inductive PageType where
  | list
  | detail
deriving Repr, DecidableEq, Inhabited

/-- The kind of page that a word names; a word that names none stands for a list. -/
def PageType.ofName (s : String) : PageType := if s = "detail" then .detail else .list

structure Page where
  head : List Char
  header : List Char
  content : List Char
  sidebar : List Char
  footer : List Char

/-- A slot of a skin: its template, if it is text. -/
def slot (templates : Fields) (name : String) : List Char :=
  match templates.get name with
  | .text s => s.toList
  | _ => []

def renderSlot (limits : Limits) (templates : Fields) (scope : Fields) (name : String) :
    List Char × List Fault :=
  let item := templates.get "html_post_item"
  let inc : Fields := [("post_item", if item.isTruthy then item else .text "")]
  match render? limits (slot templates name) scope (some inc) with
  | .ok s => (s, [])
  | .error e => ([], [e])

/-- Fills in the slots of a skin. The template of a post is only there to be included in the others. -/
def renderPage (limits : Limits) (templates : Fields) (scope : Fields) (page : PageType) :
    Page × List Fault :=
  let fill := renderSlot limits templates scope
  let (head, f₁) := fill "html_head"
  let (header, f₂) := fill "html_header"
  let (content, f₃) := fill (match page with | .detail => "html_post_detail" | .list => "html_post_list")
  let (sidebar, f₄) := fill "html_sidebar"
  let (footer, f₅) := fill "html_footer"
  (⟨head, header, content, sidebar, footer⟩, f₁ ++ f₂ ++ f₃ ++ f₄ ++ f₅)

/-- What is reported for a template that cannot be filled in. -/
def Fault.warning (_ : Fault) : String := "Template rendering failed, emitting nothing"

end PageSkins.Template
