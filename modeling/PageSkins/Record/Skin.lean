import PageSkins.Record.Blog
import PageSkins.Palette
import PageSkins.Starter

/-!
# Skins

Named bundles of style variables and layout options, what a blog overrides of them, skins
that an author writes from templates, and snapshots of those that others can take over.
-/

namespace PageSkins

open PageSkins.Check

/-- The variables that a skin can set, in order, with the values they have otherwise. -/
def defaultVariables : Variables := [
  ("--blog-bg", "#ffffff"),
  ("--blog-fg", "#000000"),
  ("--blog-accent", "#000000"),
  ("--blog-muted", "rgba(0,0,0,0.6)"),
  ("--blog-border", "#e5e5e5"),
  ("--blog-card-bg", "#fafafa"),
  ("--blog-dark-bg", "#000000"),
  ("--blog-dark-fg", "#ffffff"),
  ("--blog-dark-accent", "#ffffff"),
  ("--blog-dark-muted", "rgba(255,255,255,0.6)"),
  ("--blog-dark-border", "#262626"),
  ("--blog-dark-card-bg", "#171717"),
  ("--blog-font-sans", "GMarketSans, sans-serif"),
  ("--blog-font-mono", "monospace"),
  ("--blog-content-width", "680px"),
  ("--blog-border-radius", "12px")]

/-- Where the sidebar of a page is. -/
inductive Sidebar where
  | right
  | left
  | none
deriving Repr, DecidableEq

def Sidebar.options : List (String × Sidebar) :=
  [("sidebar-right", .right), ("sidebar-left", .left), ("no-sidebar", .none)]

def Sidebar.word : Sidebar → String
  | .right => "sidebar-right"
  | .left => "sidebar-left"
  | .none => "no-sidebar"

inductive ListStyle where
  | cards
  | list
deriving Repr, DecidableEq

def ListStyle.options : List (String × ListStyle) := [("cards", .cards), ("list", .list)]

def ListStyle.word : ListStyle → String
  | .cards => "cards"
  | .list => "list"

structure Layout where
  sidebar : Sidebar := .right
  listStyle : ListStyle := .cards
  thumbnails : Bool := true
deriving Repr, DecidableEq

namespace Layout

/-- Reads a layout. The second and third option have another name each, which counts if the first is not
used. -/
def check (fs : Fields) : Checked Layout :=
  let named (name other : String) : String := if Fields.has fs name then name else other
  Layout.mk <$> orElse fs "layout" .right (choice Sidebar.options)
    <*> orElse fs (named "postListStyle" "post_list_style") .cards (choice ListStyle.options)
    <*> orElse fs (named "showThumbnails" "show_thumbnails") true flag

def toFields (l : Layout) : Fields := [
  ("layout", .text l.sidebar.word), ("postListStyle", .text l.listStyle.word),
  ("showThumbnails", .bool l.thumbnails)]

end Layout

/-- A named bundle of variables and layout options. The options need not be complete or valid: they are looked
at one by one where layers are merged. -/
structure Skin where
  id : String
  name : String
  description : Option String := none
  thumbnailUrl : Option String := none
  isSystem : Bool := false
  vars : Variables := []
  layout : Option Fields := none
  createdAt : Option Moment := none

namespace Skin

def check (fs : Fields) : Checked Skin :=
  Skin.mk <$> required fs "id" text <*> required fs "name" text
    <*> orElse fs "description" none (optional text)
    <*> orElse fs "thumbnail_url" none (optional text)
    <*> orElse fs "is_system" false flag
    <*> orElse fs "css_variables" [] texts
    <*> orElse fs "layout_config" none (optional map)
    <*> orElse fs "created_at" none (optional moment)

def toValue (s : Skin) : Value := .map [
  ("id", .text s.id), ("name", .text s.name), ("description", .ofText? s.description),
  ("thumbnail_url", .ofText? s.thumbnailUrl), ("is_system", .bool s.isSystem),
  ("css_variables", .ofTexts s.vars), ("layout_config", s.layout.elim .null .map),
  ("created_at", .ofMoment? s.createdAt)]

end Skin

/-- What a blog has chosen: a skin, and its own values over it. The backend may send the skin along. -/
structure SkinApplication where
  id : Option String := none
  blogId : String
  skinId : Option String := none
  vars : Option Variables := none
  layout : Option Fields := none
  updatedAt : Option Moment := none
  skin : Option Skin := none

namespace SkinApplication

def check (fs : Fields) : Checked SkinApplication :=
  SkinApplication.mk <$> orElse fs "id" none (optional text) <*> required fs "blog_id" text
    <*> orElse fs "skin_id" none (optional text)
    <*> orElse fs "custom_css_variables" none (optional texts)
    <*> orElse fs "custom_layout_config" none (optional map)
    <*> orElse fs "updated_at" none (optional moment)
    <*> orElse fs "skin" none (optional (record Skin.check))

def toValue (a : SkinApplication) : Value := .map [
  ("id", .ofText? a.id), ("blog_id", .text a.blogId), ("skin_id", .ofText? a.skinId),
  ("custom_css_variables", a.vars.elim .null .ofTexts),
  ("custom_layout_config", a.layout.elim .null .map), ("updated_at", .ofMoment? a.updatedAt),
  ("skin", a.skin.elim .null Skin.toValue)]

end SkinApplication

/-- What a skin made of templates consists of: a template for each slot, and for some regions the wish to have
the built-in component instead. -/
structure Design where
  head : String := ""
  header : String := ""
  postList : String := ""
  postItem : String := ""
  postDetail : String := ""
  sidebar : String := ""
  footer : String := ""
  css : String := ""
  defaultHeader : Bool := false
  defaultSidebar : Bool := false
  defaultFooter : Bool := false
deriving Repr, DecidableEq

namespace Design

def slots : List String := [
  "html_head", "html_header", "html_post_list", "html_post_item", "html_post_detail", "html_sidebar",
  "html_footer", "custom_css"]

def checkTemplates (fs : Fields) : Checked (Bool → Bool → Bool → Design) :=
  let slot (name : String) := orElse fs name "" text
  Design.mk <$> slot "html_head" <*> slot "html_header" <*> slot "html_post_list" <*> slot "html_post_item"
    <*> slot "html_post_detail" <*> slot "html_sidebar" <*> slot "html_footer" <*> slot "custom_css"

def templates (d : Design) : List (String × String) := [
  ("html_head", d.head), ("html_header", d.header), ("html_post_list", d.postList),
  ("html_post_item", d.postItem), ("html_post_detail", d.postDetail), ("html_sidebar", d.sidebar),
  ("html_footer", d.footer), ("custom_css", d.css)]

def templateFields (d : Design) : Fields := d.templates.map fun (k, s) => (k, .text s)

def flagFields (d : Design) : Fields := [
  ("use_default_header", .bool d.defaultHeader), ("use_default_sidebar", .bool d.defaultSidebar),
  ("use_default_footer", .bool d.defaultFooter)]

def starter : Design :=
  let slot (name : String) : String := (Starter.templates.lookup name).getD ""
  { head := slot "html_head", header := slot "html_header", postList := slot "html_post_list",
    postItem := slot "html_post_item", postDetail := slot "html_post_detail", sidebar := slot "html_sidebar",
    footer := slot "html_footer", css := slot "custom_css" }

end Design

structure CustomSkin where
  id : Option String := none
  blogId : String
  design : Design := {}
  isActive : Bool := false
  sourceId : Option String := none
  createdAt : Option Moment := none
  updatedAt : Option Moment := none
deriving Repr, DecidableEq

namespace CustomSkin

/-- Reads a skin. The activity of a skin stands between its templates and its flags. -/
def check (fs : Fields) : Checked CustomSkin :=
  (fun id blogId design isActive header sidebar footer source created updated =>
      ⟨id, blogId, design header sidebar footer, isActive, source, created, updated⟩)
    <$> orElse fs "id" none (optional text) <*> required fs "blog_id" text
    <*> Design.checkTemplates fs <*> orElse fs "is_active" false flag
    <*> orElse fs "use_default_header" false flag <*> orElse fs "use_default_sidebar" false flag
    <*> orElse fs "use_default_footer" false flag
    <*> orElse fs "source_published_skin_id" none (optional text)
    <*> orElse fs "created_at" none (optional moment) <*> orElse fs "updated_at" none (optional moment)

def starter (blogId : String) : CustomSkin := { blogId, design := .starter }

def toFields (c : CustomSkin) : Fields :=
  [("id", .ofText? c.id), ("blog_id", .text c.blogId)] ++ c.design.templateFields ++
    [("is_active", .bool c.isActive)] ++ c.design.flagFields ++
    [("source_published_skin_id", .ofText? c.sourceId), ("created_at", .ofMoment? c.createdAt),
      ("updated_at", .ofMoment? c.updatedAt)]

end CustomSkin

/-- A snapshot of a skin that others can take over. It never changes. -/
structure PublishedSkin where
  id : String
  sourceBlogId : Option String := none
  creatorId : String
  name : String
  description : Option String := none
  thumbnailUrl : Option String := none
  design : Design := {}
  isPublic : Bool := true
  downloadCount : Int := 0
  createdAt : Option Moment := none
deriving Repr, DecidableEq

namespace PublishedSkin

def check (fs : Fields) : Checked PublishedSkin :=
  (fun id source creator name description thumbnail design header sidebar footer isPublic count created =>
      ⟨id, source, creator, name, description, thumbnail, design header sidebar footer, isPublic, count, created⟩)
    <$> required fs "id" text <*> orElse fs "source_blog_id" none (optional text)
    <*> required fs "creator_id" text <*> required fs "name" text
    <*> orElse fs "description" none (optional text) <*> orElse fs "thumbnail_url" none (optional text)
    <*> Design.checkTemplates fs
    <*> orElse fs "use_default_header" false flag <*> orElse fs "use_default_sidebar" false flag
    <*> orElse fs "use_default_footer" false flag
    <*> orElse fs "is_public" true flag <*> orElse fs "download_count" 0 integer
    <*> orElse fs "created_at" none (optional moment)

def toFields (p : PublishedSkin) : Fields :=
  [("id", .text p.id), ("source_blog_id", .ofText? p.sourceBlogId), ("creator_id", .text p.creatorId),
    ("name", .text p.name), ("description", .ofText? p.description),
    ("thumbnail_url", .ofText? p.thumbnailUrl)] ++ p.design.templateFields ++ p.design.flagFields ++
    [("is_public", .bool p.isPublic), ("download_count", .int p.downloadCount),
      ("created_at", .ofMoment? p.createdAt)]

end PublishedSkin
end PageSkins
