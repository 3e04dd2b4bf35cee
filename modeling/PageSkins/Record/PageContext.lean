import PageSkins.Calendar.Iso
import PageSkins.Record.Blog

/-!
# The data of a page

What a template can name. It is given field by field, or put together from the records of a
blog, its posts and its categories.
-/

namespace PageSkins

open PageSkins.Check

structure PageContext where
  blogId : Option String := none
  blogName : Option String := none
  blogDescription : Option String := none
  profileImage : Option String := none
  postCount : Int := 0
  subscriberCount : Int := 0
  visitorCount : Int := 0
  currentYear : Int
  createdDate : Option String := none
  postId : Option String := none
  postTitle : Option String := none
  postContent : Option String := none
  postExcerpt : Option String := none
  postDate : Option String := none
  thumbnailUrl : Option String := none
  categoryName : Option String := none
  viewCount : Option Int := none
  likeCount : Option Int := none
  posts : List PostItem := []
  categories : List CategoryItem := []
  noPosts : Bool := false
deriving Repr, DecidableEq

namespace PageContext

def fieldNames : List String := [
  "blog_id", "blog_name", "blog_description", "profile_image", "post_count", "subscriber_count",
  "visitor_count", "current_year", "created_date", "post_id", "post_title", "post_content", "post_excerpt",
  "post_date", "thumbnail_url", "category_name", "view_count", "like_count", "posts", "categories", "no_posts"]

def check (year : Nat) (fs : Fields) : Checked PageContext :=
  let words (name : String) := orElse fs name none (optional text)
  (fun c _ => c) <$> (PageContext.mk <$> words "blog_id" <*> words "blog_name" <*> words "blog_description"
    <*> words "profile_image" <*> orElse fs "post_count" 0 integer <*> orElse fs "subscriber_count" 0 integer
    <*> orElse fs "visitor_count" 0 integer <*> orElse fs "current_year" (year : Int) integer
    <*> words "created_date" <*> words "post_id" <*> words "post_title" <*> words "post_content"
    <*> words "post_excerpt" <*> words "post_date" <*> words "thumbnail_url" <*> words "category_name"
    <*> orElse fs "view_count" none (optional integer) <*> orElse fs "like_count" none (optional integer)
    <*> orElse fs "posts" [] (list (record PostItem.check))
    <*> orElse fs "categories" [] (list (record CategoryItem.check))
    <*> orElse fs "no_posts" false flag) <*> only fieldNames fs

/-- The names that a template can look up, with their values. -/
def scope (c : PageContext) : Fields := [
  ("blog_id", .ofText? c.blogId), ("blog_name", .ofText? c.blogName),
  ("blog_description", .ofText? c.blogDescription), ("profile_image", .ofText? c.profileImage),
  ("post_count", .int c.postCount), ("subscriber_count", .int c.subscriberCount),
  ("visitor_count", .int c.visitorCount), ("current_year", .int c.currentYear),
  ("created_date", .ofText? c.createdDate), ("post_id", .ofText? c.postId),
  ("post_title", .ofText? c.postTitle), ("post_content", .ofText? c.postContent),
  ("post_excerpt", .ofText? c.postExcerpt), ("post_date", .ofText? c.postDate),
  ("thumbnail_url", .ofText? c.thumbnailUrl), ("category_name", .ofText? c.categoryName),
  ("view_count", c.viewCount.elim .null .int), ("like_count", c.likeCount.elim .null .int),
  ("posts", .list (c.posts.map PostItem.toValue)),
  ("categories", .list (c.categories.map CategoryItem.toValue)), ("no_posts", .bool c.noPosts)]

end PageContext

/-- Why raw records do not make the data of a page. -/
inductive RawFault where
  /-- A record does not hold what its fields should. -/
  | invalid (issues : List Issue)
  /-- A record lacks a field that it is asked for by name. -/
  | lacks (field : String)
  /-- A value of the wrong kind stands where entries are looked up. -/
  | notIndexed
  /-- A value of the wrong kind stands where a record is asked for fields that it may have. -/
  | notRecord
  /-- An integer is too long to be written. -/
  | tooLong
deriving Repr, DecidableEq

namespace Raw

/-- The entries of a map by name. -/
def entries? : Value → Option Fields
  | .map es => some es
  | .keyed es => some (es.filterMap fun (k, v) => k.text?.map fun k => (k, v))
  | _ => none

def entry (v : Value) (name : String) : Except RawFault Value :=
  match entries? v with
  | none => .error .notIndexed
  | some fs =>
    match fs.find? name with
    | some x => .ok x
    | none => .error (.lacks name)

def entryOrNull (v : Value) (name : String) : Except RawFault Value :=
  match entries? v with
  | none => .error .notRecord
  | some fs => .ok (fs.get name)

/-- The value, or another one where it is null, false, zero or empty. -/
def orElse (v other : Value) : Value := if v.isTruthy then v else other

/-- Whether an integer in the value is too long to be written. -/
def hasLongInteger (v : Value) : Bool := go v
where
  go : Value → Bool
    | .int n => Value.tooLong n
    | .list vs => goList vs
    | .map es => goMap es
    | .keyed es => goKeyed es
    | _ => false
  goList : List Value → Bool
    | [] => false
    | v :: vs => go v || goList vs
  goMap : List (String × Value) → Bool
    | [] => false
    | (_, v) :: es => go v || goMap es
  goKeyed : List (Value × Value) → Bool
    | [] => false
    | (k, v) :: es => go k || go v || goKeyed es

/-- An identifier as text, whatever kind of value it is. -/
def idText (v : Value) : Except RawFault String :=
  if hasLongInteger v then .error .tooLong else .ok (String.ofList v.plain)

def shownDate : Value → Except RawFault String
  | .null => .ok ""
  | .text s => .ok (String.ofList (Calendar.shownDate s.toList))
  | .date d => .ok (String.ofList (Calendar.dotted d))
  | .moment t => .ok (String.ofList (Calendar.dotted t.date))
  | _ => .error .notRecord

def ofChecked {α : Type} : Checked α → Except RawFault α
  | .ok a => .ok a
  | .bad issues => .error (.invalid issues)

def postItem (post : Value) : Except RawFault PostItem := do
  let id ← idText (← entry post "id")
  let get := entryOrNull post
  let date ← shownDate (← get "created_at")
  let fields : Fields := [
    ("post_id", .text id), ("post_title", orElse (← get "title") (.text "")),
    ("post_excerpt", orElse (← get "excerpt") (.text "")), ("post_date", .text date),
    ("thumbnail_url", orElse (← get "thumbnail_url") .null),
    ("view_count", orElse (← get "view_count") (.int 0)), ("like_count", orElse (← get "like_count") (.int 0)),
    ("blog_id", .text (← idText (← entry post "blog_id")))]
  ofChecked (PostItem.check fields)

def categoryItem (blog : Blog) (category : Value) : Except RawFault CategoryItem := do
  let id ← idText (← entry category "id")
  let name ← entry category "name"
  ofChecked (CategoryItem.check [("category_id", .text id), ("category_name", name), ("blog_id", .text blog.id)])

/-- The parts that a value is gone through by: the items of a list, the characters of a text, the keys of a
map. -/
def parts : Value → Except RawFault (List Value)
  | .list vs => .ok vs
  | .text s => .ok (s.toList.map fun c => .text (String.singleton c))
  | .map es => .ok (es.map fun e => .text e.1)
  | .keyed es => .ok (es.map (·.1))
  | _ => .error .notIndexed

/-- The parts of a collection, none where there is none. -/
def collection (v : Value) : Except RawFault (List Value) := if v.isTruthy then parts v else .ok []

/-- The fields that a raw post adds on its own page. -/
def postFields (post : Value) : Except RawFault Fields := do
  let get := entryOrNull post
  let category := orElse (← get "category") (.map [])
  let id ← idText (← entry post "id")
  let date ← shownDate (← get "created_at")
  let text (name : String) : Except RawFault Value := do return orElse (← get name) (.text "")
  return [("post_id", .text id), ("post_title", ← text "title"), ("post_content", ← text "content"),
    ("post_excerpt", ← text "excerpt"), ("post_date", .text date), ("thumbnail_url", ← text "thumbnail_url"),
    ("category_name", orElse (← entryOrNull category "name") (.text "")),
    ("view_count", orElse (← get "view_count") (.int 0)), ("like_count", orElse (← get "like_count") (.int 0))]

/-- Records as they come, from which the data of a page is put together. -/
structure Records where
  blog : Blog
  postCount : Value := .int 0
  subscriberCount : Value := .int 0
  visitorCount : Value := .int 0
  posts : Value := .null
  post : Value := .null
  categories : Value := .null

def context (year : Nat) (r : Records) : Except RawFault PageContext := do
  let posts ← collection r.posts
  let items ← posts.mapM postItem
  let categories ← (← collection r.categories).mapM (categoryItem r.blog)
  let orEmpty (s : Option String) : Value := .text (s.getD "")
  let fields : Fields := [
    ("blog_id", .text r.blog.id), ("blog_name", .text r.blog.name),
    ("blog_description", orEmpty r.blog.description), ("profile_image", orEmpty r.blog.thumbnailUrl),
    ("post_count", r.postCount), ("subscriber_count", r.subscriberCount), ("visitor_count", r.visitorCount),
    ("created_date", .text (r.blog.createdAt.elim "" fun t => String.ofList (Calendar.dotted t.date))),
    ("no_posts", .bool posts.isEmpty), ("posts", .list (items.map PostItem.toValue)),
    ("categories", .list (categories.map CategoryItem.toValue))]
  let more ← match r.post with
    | .null => pure []
    | post => postFields post
  ofChecked (PageContext.check year (fields ++ more))

/-- The data of a page that shows nothing but its blog. -/
def contextOfBlog (year : Nat) (blog : Blog) : PageContext :=
  { blogId := some blog.id, blogName := some blog.name, blogDescription := some (blog.description.getD ""),
    profileImage := some (blog.thumbnailUrl.getD ""), currentYear := year,
    createdDate := some (blog.createdAt.elim "" fun t => String.ofList (Calendar.dotted t.date)),
    noPosts := true }

end Raw
end PageSkins
