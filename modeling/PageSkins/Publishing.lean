import PageSkins.Failure
import PageSkins.Resolver

/-!
# Sharing skins between blogs

An author publishes a snapshot of a skin; others take it over as their own, or start a skin
of their own under its name. An editor holds a skin as named values, which are checked when
the skin is published.
-/

namespace PageSkins.Publishing

/-- What a snapshot has in common with the skin it was taken of. -/
def sharedFields : List String :=
  Design.slots ++ ["use_default_header", "use_default_sidebar", "use_default_footer"]

/-- Why a skin is not published or taken over. -/
inductive Fault where
  | blankName
  /-- The name is no text. -/
  | nameNotText
  | otherBlog (blogId existing : Value)
  | invalid (issues : List Issue)
  /-- There is no skin to start from. -/
  | noSkin

def Fault.failure : Fault → Failure
  | .blankName => .refusal .validation "Published skin name cannot be empty"
  | .nameNotText => .mishap .noSuchPart "The name is no text"
  | .otherBlog blogId existing =>
    .refused .validation "Existing custom skin belongs to another blog"
      [("blog_id", blogId), ("existing_blog_id", existing)] []
  | .invalid issues => .invalid issues
  | .noSkin => .mishap .noSuchPart "There is no skin"

structure Terms where
  name : Value
  creatorId : Value
  isPublic : Value := .bool true
  description : Value := .null
  thumbnailUrl : Value := .null

def ofChecked {α : Type} : Checked α → Except Fault α
  | .ok a => .ok a
  | .bad issues => .error (.invalid issues)

/-- The name of a snapshot without the blanks around it. -/
def properName (v : Value) : Except Fault String :=
  match v with
  | .text s =>
    let name := Text.trim s.toList
    if name.isEmpty then .error .blankName else .ok (String.ofList name)
  | v => if v.isTruthy then .error .nameNotText else .error .blankName

def shared (skin : Fields) : Fields := sharedFields.map fun name => (name, Fields.get skin name)

/-- A value, or null where it is empty. -/
def orNull (v : Value) : Value := if v.isTruthy then v else .null

def snapshotFields (now : Moment) (id : String) (skin : Fields) (terms : Terms) : Except Fault PublishedSkin := do
  let name ← properName terms.name
  ofChecked (PublishedSkin.check ([
    ("id", .text id), ("source_blog_id", Fields.get skin "blog_id"), ("creator_id", terms.creatorId),
    ("name", .text name), ("description", orNull terms.description),
    ("thumbnail_url", orNull terms.thumbnailUrl), ("is_public", terms.isPublic),
    ("created_at", .moment now)] ++ shared skin))

def snapshot (now : Moment) (id : String) (skin : CustomSkin) (terms : Terms) : Except Fault PublishedSkin :=
  snapshotFields now id skin.toFields terms

/-- The values that a skin which is taken over brings along. -/
def brought (now : Moment) (p : PublishedSkin) : Fields :=
  p.design.templateFields ++ p.design.flagFields ++ [
    ("is_active", .bool true), ("source_published_skin_id", .text p.id), ("updated_at", .moment now)]

/-- Takes over a published skin for a blog. A skin that the blog has keeps its identity and its time of creation;
all else of it is replaced. -/
def applyFields (now : Moment) (p : PublishedSkin) (blogId : Value) (existing : Option Fields) : Except Fault Fields :=
  match existing with
  | some skin => .ok ((brought now p).foldl (fun fs e => Fields.put fs e.1 e.2) skin)
  | none => do
    let skin ← ofChecked (CustomSkin.check
      ([("blog_id", blogId), ("created_at", .moment now)] ++ brought now p))
    return skin.toFields

def isForeign (blogId : Value) (skin : Fields) : Bool :=
  match Fields.get skin "blog_id", blogId with
  | .text a, .text b => a != b
  | .int a, .int b => a != b
  | .bool a, .bool b => a != b
  | .null, .null => false
  | _, _ => true

def apply (now : Moment) (p : PublishedSkin) (blogId : String) (existing : Option CustomSkin) :
    Except Fault CustomSkin :=
  match existing with
  | some skin =>
    if skin.blogId = blogId then
      .ok { skin with design := p.design, isActive := true, sourceId := some p.id, updatedAt := some now }
    else .error (.otherBlog (.text blogId) (.text skin.blogId))
  | none => .ok {
      blogId, design := p.design, isActive := true, sourceId := some p.id, createdAt := some now,
      updatedAt := some now }

/-- The skin and the application that a blog starts its own variant with. Both start from the defaults. -/
def clone (now : Moment) (id : Value) (p : PublishedSkin) (blogId : Value) :
    Except Fault (Skin × SkinApplication) := do
  let skin ← ofChecked (Skin.check [
    ("id", id), ("name", .text p.name), ("description", .ofText? p.description),
    ("thumbnail_url", .ofText? p.thumbnailUrl), ("is_system", .bool false),
    ("css_variables", .ofTexts defaultVariables), ("layout_config", .map ({} : Layout).toFields),
    ("created_at", .moment now)])
  let blogId ← ofChecked ((Check.text blogId).at' (.field "blog_id"))
  return (skin, { blogId, skinId := some skin.id, updatedAt := some now, skin := some skin })

end PageSkins.Publishing
