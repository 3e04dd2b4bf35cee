import PageSkins.Record.Skin

/-!
# The skin in force

The one configuration that is in force when a page is shown.
-/

namespace PageSkins

open PageSkins.Check

/-- Regions filled in from the templates of an author, safe to show. Where a flag is set the built-in component
is shown instead of the region; the variables are there for it. -/
structure TemplatedSkin where
  header : String := ""
  content : String := ""
  sidebar : String := ""
  footer : String := ""
  css : String := ""
  defaultHeader : Bool := false
  defaultSidebar : Bool := false
  defaultFooter : Bool := false
  vars : Variables := []
deriving Repr, DecidableEq

structure VariablesSkin where
  vars : Variables
  layout : Layout
deriving Repr, DecidableEq

inductive EffectiveSkin where
  | templated (s : TemplatedSkin)
  | vars (s : VariablesSkin)
deriving Repr, DecidableEq

namespace TemplatedSkin

def check (fs : Fields) : Checked TemplatedSkin :=
  let slot (name : String) := orElse fs name "" text
  (fun _ s => s) <$> orElse fs "mode" () (choice [("templated", ())]) <*>
    (TemplatedSkin.mk <$> slot "header" <*> slot "content" <*> slot "sidebar" <*> slot "footer" <*> slot "css"
      <*> orElse fs "use_default_header" false flag <*> orElse fs "use_default_sidebar" false flag
      <*> orElse fs "use_default_footer" false flag <*> orElse fs "css_variables" [] texts)

def toFields (s : TemplatedSkin) : Fields := [
  ("mode", .text "templated"), ("header", .text s.header), ("content", .text s.content),
  ("sidebar", .text s.sidebar), ("footer", .text s.footer), ("css", .text s.css),
  ("use_default_header", .bool s.defaultHeader), ("use_default_sidebar", .bool s.defaultSidebar),
  ("use_default_footer", .bool s.defaultFooter), ("css_variables", .ofTexts s.vars)]

end TemplatedSkin

namespace VariablesSkin

def check (fs : Fields) : Checked VariablesSkin :=
  (fun _ s => s) <$> orElse fs "mode" () (choice [("variables", ())]) <*>
    (VariablesSkin.mk <$> required fs "css_variables" texts
      <*> required fs "layout_config" (record Layout.check))

def toFields (s : VariablesSkin) : Fields := [
  ("mode", .text "variables"), ("css_variables", .ofTexts s.vars),
  ("layout_config", .map s.layout.toFields)]

end VariablesSkin

namespace EffectiveSkin

/-- Reads a configuration. Its mode tells which of the two it is. -/
def check : Value → Checked EffectiveSkin
  | .map fs =>
    match Fields.find? fs "mode" with
    | none => .fail .kindMissing
    | some (.text "templated") => .templated <$> (TemplatedSkin.check fs).at' (.field "templated")
    | some (.text "variables") => .vars <$> (VariablesSkin.check fs).at' (.field "variables")
    | some _ => .fail .unknownKind
  | _ => .fail .notRecordOfKind

def toFields : EffectiveSkin → Fields
  | .templated s => s.toFields
  | .vars s => s.toFields

def cssVariables : EffectiveSkin → Variables
  | .templated s => s.vars
  | .vars s => s.vars

end EffectiveSkin
end PageSkins
