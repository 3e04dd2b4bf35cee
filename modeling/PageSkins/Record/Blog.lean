import PageSkins.Record.Check
import PageSkins.Value.Literal

/-!
# Blogs and their parts

Blogs, and the posts and categories that a page lists.
-/

namespace PageSkins

open PageSkins.Check

def Value.ofText? : Option String → Value
  | some s => .text s
  | none => .null

def Value.ofMoment? : Option Moment → Value
  | some t => .text (String.ofList t.iso)
  | none => .null

def Value.ofTexts (ts : List (String × String)) : Value := .map (ts.map fun (k, s) => (k, .text s))

structure Blog where
  id : String
  name : String
  description : Option String := none
  thumbnailUrl : Option String := none
  createdAt : Option Moment := none
deriving Repr, DecidableEq

namespace Blog

def check (fs : Fields) : Checked Blog :=
  Blog.mk <$> required fs "id" text <*> required fs "name" text
    <*> orElse fs "description" none (optional text)
    <*> orElse fs "thumbnail_url" none (optional text)
    <*> orElse fs "created_at" none (optional moment)

def toValue (b : Blog) : Value := .map [
  ("id", .text b.id), ("name", .text b.name), ("description", .ofText? b.description),
  ("thumbnail_url", .ofText? b.thumbnailUrl), ("created_at", .ofMoment? b.createdAt)]

end Blog

structure PostItem where
  postId : String
  title : String
  excerpt : String := ""
  date : String := ""
  thumbnailUrl : Option String := none
  viewCount : Int := 0
  likeCount : Int := 0
  blogId : String
deriving Repr, DecidableEq

namespace PostItem

def fieldNames : List String :=
  ["post_id", "post_title", "post_excerpt", "post_date", "thumbnail_url", "view_count", "like_count", "blog_id"]

def check (fs : Fields) : Checked PostItem :=
  (fun p _ => p) <$> (PostItem.mk <$> required fs "post_id" text <*> required fs "post_title" text
    <*> orElse fs "post_excerpt" "" text <*> orElse fs "post_date" "" text
    <*> orElse fs "thumbnail_url" none (optional text)
    <*> orElse fs "view_count" 0 integer <*> orElse fs "like_count" 0 integer
    <*> required fs "blog_id" text) <*> only fieldNames fs

def toValue (p : PostItem) : Value := .map [
  ("post_id", .text p.postId), ("post_title", .text p.title), ("post_excerpt", .text p.excerpt),
  ("post_date", .text p.date), ("thumbnail_url", .ofText? p.thumbnailUrl),
  ("view_count", .int p.viewCount), ("like_count", .int p.likeCount), ("blog_id", .text p.blogId)]

end PostItem

structure CategoryItem where
  categoryId : String
  name : String
  blogId : String
deriving Repr, DecidableEq

namespace CategoryItem

def fieldNames : List String := ["category_id", "category_name", "blog_id"]

def check (fs : Fields) : Checked CategoryItem :=
  (fun c _ => c) <$> (CategoryItem.mk <$> required fs "category_id" text <*> required fs "category_name" text
    <*> required fs "blog_id" text) <*> only fieldNames fs

def toValue (c : CategoryItem) : Value := .map [
  ("category_id", .text c.categoryId), ("category_name", .text c.name), ("blog_id", .text c.blogId)]

end CategoryItem
end PageSkins
