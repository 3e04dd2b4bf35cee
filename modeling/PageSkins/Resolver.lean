import PageSkins.Markup.Sanitize
import PageSkins.Record.Effective
import PageSkins.Record.PageContext
import PageSkins.Settings
import PageSkins.Template.Page

/-!
# Resolving skins

Three rules are tried in order: an active skin of the author's own, or one that is
previewed, shows its templates; a skin application puts its overrides over its base skin
over the defaults; otherwise there are the defaults alone. Records of other blogs do not
count.
-/

namespace PageSkins

/-- A layer of variables over those below. Only variables that a skin can set count, and only values that are
text and not blank. -/
def overlayVariables (below : Variables) (layer : Fields) : Variables :=
  below.map fun (name, value) =>
    match Fields.get layer name with
    | .text s => if Text.allBlank s.toList then (name, value) else (name, s)
    | _ => (name, value)

/-- The defaults under layers of variables, the first layer lowest. -/
def mergeVariables (layers : List Fields) : Variables := layers.foldl overlayVariables defaultVariables

/-- The option that a word names, if it is one. -/
def optionOr {α : Type} (options : List (String × α)) (below : α) : Value → α
  | .text s => (options.lookup s).getD below
  | _ => below

/-- A layer of layout options over those below. What is no option is passed over. -/
def overlayLayout (below : Layout) (layer : Fields) : Layout where
  sidebar := optionOr Sidebar.options below.sidebar (Fields.get layer "layout")
  listStyle := optionOr ListStyle.options below.listStyle (Fields.get layer "postListStyle")
  thumbnails := match Fields.get layer "showThumbnails" with
    | .bool b => b
    | _ => below.thumbnails

/-- The default layout under layers of options, the first layer lowest. -/
def mergeLayout (layers : List Fields) : Layout := layers.foldl overlayLayout {}

/-- The one thing that can go wrong: a colour with a part too large to be a number. -/
inductive ColorOverflow where
  | mk
deriving Repr, DecidableEq

def codePaletteFor (background : List Char) : Except ColorOverflow Variables :=
  match Rgb.read background with
  | .color c => .ok (codePalette c)
  | .overflow => .error .mk

/-- The variables of a map, and the colours of code that go with its background. -/
def withCodePalette (vars : Fields) (background : Value) : Except ColorOverflow Fields := do
  let palette ← match background with
    | .text s => codePaletteFor s.toList
    | _ => .ok (codePalette .black)
  return palette.foldl (fun fs p => Fields.put fs p.1 (.text p.2)) vars

/-- Resolved variables with the colours of code after them. -/
def completeVariables (vars : Variables) : Except ColorOverflow Variables := do
  return vars ++ (← codePaletteFor ((vars.lookup "--blog-bg").getD "").toList)

structure Resolver where
  limits : Template.Limits := {}
  policy : Markup.Policy := {}

def Resolver.ofSettings (s : Settings) : Resolver := ⟨s.limits, ⟨s.forms, s.filterStyles⟩⟩

structure SkinRecords where
  blog : Blog
  baseSkin : Option Skin := none
  application : Option SkinApplication := none
  customSkin : Option CustomSkin := none

/-- A record as a value, and null where there is none. -/
def Value.ofRecord? {α : Type} (toValue : α → Value) : Option α → Value
  | some a => toValue a
  | none => .null

def SkinRecords.toValue (r : SkinRecords) : Value := .map [
  ("blog", r.blog.toValue), ("base_skin", .ofRecord? Skin.toValue r.baseSkin),
  ("application", .ofRecord? SkinApplication.toValue r.application),
  ("custom_skin", .ofRecord? (.map ·.toFields) r.customSkin)]

structure PageRequest where
  preview : Bool := false
  page : Template.PageType := .list
  /-- What templates can name. Without it they see the blog alone. -/
  scope : Option Fields := none

/-- A result, and what was reported on the way. -/
structure Reported (α : Type) where
  value : α
  log : List String := []

namespace Resolver

/-- An application of the blog itself, and a report of one that is not. -/
def ownApplication (blog : Blog) : Option SkinApplication → Reported (Option SkinApplication)
  | some a =>
    if a.blogId = blog.id then ⟨some a, []⟩
    else ⟨none, ["Ignoring skin application for blog " ++ a.blogId ++ " while rendering blog " ++ blog.id]⟩
  | none => ⟨none, []⟩

/-- A custom skin of the blog itself, and a report of one that is not. -/
def ownCustomSkin (blog : Blog) : Option CustomSkin → Reported (Option CustomSkin)
  | some c =>
    if c.blogId = blog.id then ⟨some c, []⟩
    else ⟨none, ["Ignoring custom skin for blog " ++ c.blogId ++ " while rendering blog " ++ blog.id]⟩
  | none => ⟨none, []⟩

def variableLayer (vs : Variables) : Fields := vs.map fun (k, s) => (k, .text s)

/-- The variables that an application puts over its base skin. The skin given counts, and the one that came
with the application where none is given. -/
def applied (baseSkin : Option Skin) (a : SkinApplication) : Variables :=
  let base := baseSkin <|> a.skin
  mergeVariables ((base.map fun s => variableLayer s.vars).toList ++ (a.vars.map variableLayer).toList)

def appliedLayout (baseSkin : Option Skin) (a : SkinApplication) : Layout :=
  let base := baseSkin <|> a.skin
  mergeLayout ((base.bind Skin.layout).toList ++ a.layout.toList)

def vars (baseSkin : Option Skin) : Option SkinApplication → Variables
  | some a => applied baseSkin a
  | none => defaultVariables

/-- Safe markup of a fragment. A fragment that cannot be made safe is dropped and reported. -/
def clean (r : Resolver) (fragment : List Char) : Reported String :=
  match Markup.sanitize r.policy fragment with
  | .ok s => ⟨String.ofList s, []⟩
  | .error _ => ⟨"", [Markup.sanitizeWarning]⟩

def regions (r : Resolver) (d : Design) (scope : Fields) (page : Template.PageType) : Reported TemplatedSkin :=
  let (p, faults) := Template.renderPage r.limits d.templateFields scope page
  let header := r.clean p.header
  let content := r.clean p.content
  let sidebar := r.clean p.sidebar
  let footer := r.clean p.footer
  { value := {
      header := header.value, content := content.value, sidebar := sidebar.value, footer := footer.value,
      css := String.ofList (Stylesheet.sanitize d.css.toList),
      defaultHeader := d.defaultHeader, defaultSidebar := d.defaultSidebar, defaultFooter := d.defaultFooter }
    log := faults.map Template.Fault.warning ++ header.log ++ content.log ++ sidebar.log ++ footer.log }

def shows (q : PageRequest) (c : CustomSkin) : Bool := c.isActive || q.preview

/-- The skin in force, and what was reported. `year` is the present year. -/
def resolve (r : Resolver) (year : Nat) (records : SkinRecords) (q : PageRequest) :
    Except ColorOverflow (Reported EffectiveSkin) := do
  let application := ownApplication records.blog records.application
  let custom := ownCustomSkin records.blog records.customSkin
  let log := application.log ++ custom.log
  match custom.value.filter (shows q), application.value with
  | some c, a =>
    let scope := q.scope.getD (Raw.contextOfBlog year records.blog).scope
    let shown := r.regions c.design scope q.page
    let vars ← completeVariables (vars records.baseSkin a)
    return ⟨.templated { shown.value with vars }, log ++ shown.log⟩
  | none, some a =>
    let vars ← completeVariables (applied records.baseSkin a)
    return ⟨.vars ⟨vars, appliedLayout records.baseSkin a⟩, log⟩
  | none, none =>
    let vars ← completeVariables defaultVariables
    return ⟨.vars ⟨vars, {}⟩, log⟩

end Resolver
end PageSkins
