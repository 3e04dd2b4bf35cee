import PageSkins.Template.Printer

/-!
# The starter design

The templates and the style sheet that a skin of one's own starts from, and what template
authors are told about the names that they can use.
-/

namespace PageSkins.Starter

open PageSkins.Template

def lines (ls : List String) : Node := .text ("\n".intercalate ls)

/-- The header: the way back home, and the name of the blog. -/
def header : List Node := [
  lines ["<header class=\"blog-header\">", "  <div class=\"header-inner\">", "    <div class=\"header-left\">",
    "      <a href=\"/\" class=\"logo\">Snuggle</a>", "      <span class=\"divider\">/</span>",
    "      <a href=\"/blog/"],
  .field "blog_id",
  .text "\" class=\"blog-name\">",
  .field "blog_name",
  lines ["</a>", "    </div>", "    <nav class=\"header-nav\">",
    "      <a href=\"/\" class=\"nav-link\">Home</a>", "      <a href=\"/feed\" class=\"nav-link\">Feed</a>",
    "      <a href=\"/skins\" class=\"nav-link\">Skins</a>",
    "      <a href=\"/forum\" class=\"nav-link\">Forum</a>", "    </nav>", "  </div>", "</header>"]]

def postList : List Node := [
  lines ["<div class=\"post-list\">", "  <div class=\"post-list-header\">",
    "    <h2 class=\"section-title\">Posts</h2>", "    <span class=\"post-count\">"],
  .field "post_count",
  lines ["</span>", "  </div>", "  <div class=\"posts-container\">", "    "],
  .block .section "posts" [
    lines ["", "    "],
    .include "post_item",
    lines ["", "    "]],
  lines ["", "  </div>", "  "],
  .block .cond "no_posts" [
    lines ["", "  <div class=\"empty-state\">", "    <p>No posts yet</p>", "  </div>", "  "]],
  lines ["", "</div>"]]

def postItem : List Node := [
  lines ["<article class=\"post-item\">", "  <a href=\"/post/"],
  .field "post_id",
  lines ["\" class=\"post-link\">", "    <div class=\"post-content\">", "      <h3 class=\"post-title\">"],
  .field "post_title",
  lines ["</h3>", "      <p class=\"post-excerpt\">"],
  .field "post_excerpt",
  lines ["</p>", "      <div class=\"post-meta\">", "        <span class=\"post-date\">"],
  .field "post_date",
  lines ["</span>", "        <span class=\"meta-divider\">&middot;</span>",
    "        <span class=\"post-views\">"],
  .field "view_count",
  lines [" views</span>", "        <span class=\"meta-divider\">&middot;</span>",
    "        <span class=\"post-likes\">"],
  .field "like_count",
  lines [" likes</span>", "      </div>", "    </div>", "    "],
  .block .cond "thumbnail_url" [
    lines ["", "    <div class=\"post-thumbnail\">", "      <img src=\""],
    .field "thumbnail_url",
    .text "\" alt=\"",
    .field "post_title",
    lines ["\">", "    </div>", "    "]],
  lines ["", "  </a>", "</article>"]]

def postDetail : List Node := [
  lines ["<article class=\"post-detail\">", "  <header class=\"post-header\">", "    "],
  .block .cond "category_name" [
    lines ["", "    <span class=\"post-category\">"],
    .field "category_name",
    lines ["</span>", "    "]],
  lines ["", "    <h1 class=\"post-title\">"],
  .field "post_title",
  lines ["</h1>", "    <div class=\"post-meta\">", "      <span class=\"post-date\">"],
  .field "post_date",
  lines ["</span>", "      <span class=\"meta-divider\">&middot;</span>", "      <span class=\"post-views\">"],
  .field "view_count",
  lines [" views</span>", "      <span class=\"meta-divider\">&middot;</span>",
    "      <span class=\"post-likes\">"],
  .field "like_count",
  lines [" likes</span>", "    </div>", "  </header>", "  "],
  .block .cond "thumbnail_url" [
    lines ["", "  <div class=\"post-thumbnail\">", "    <img src=\""],
    .field "thumbnail_url",
    .text "\" alt=\"",
    .field "post_title",
    lines ["\">", "  </div>", "  "]],
  lines ["", "  <div class=\"post-body\">", "    "],
  .field "post_content",
  lines ["", "  </div>", "</article>"]]

def sidebar : List Node := [
  lines ["<aside class=\"blog-sidebar\">", "  <div class=\"profile-card\">",
    "    <div class=\"profile-image-wrap\">", "      "],
  .block .cond "profile_image" [
    lines ["", "      <img src=\""],
    .field "profile_image",
    .text "\" alt=\"",
    .field "blog_name",
    lines ["\" class=\"profile-image\">", "      "]],
  lines ["", "    </div>", "    <h1 class=\"profile-name\">"],
  .field "blog_name",
  lines ["</h1>", "    <button class=\"subscribe-btn\">Subscribe</button>", "    "],
  .block .cond "blog_description" [
    lines ["", "    <p class=\"profile-desc\">"],
    .field "blog_description",
    lines ["</p>", "    "]],
  lines ["", "    <div class=\"profile-stats\">", "      <div class=\"stat-item\">",
    "        <span class=\"stat-value\">"],
  .field "post_count",
  lines ["</span>", "        <span class=\"stat-label\">Posts</span>", "      </div>",
    "      <div class=\"stat-item\">", "        <span class=\"stat-value\">"],
  .field "subscriber_count",
  lines ["</span>", "        <span class=\"stat-label\">Subscribers</span>", "      </div>",
    "      <div class=\"stat-item\">", "        <span class=\"stat-value\">"],
  .field "visitor_count",
  lines ["</span>", "        <span class=\"stat-label\">Visitors</span>", "      </div>", "    </div>",
    "  </div>", "  <div class=\"info-card\">", "    <h3 class=\"info-title\">About</h3>",
    "    <div class=\"info-row\">", "      <span class=\"info-label\">Since</span>",
    "      <span class=\"info-value\">"],
  .field "created_date",
  lines ["</span>", "    </div>", "  </div>", "</aside>"]]

def footer : List Node := [
  lines ["<footer class=\"blog-footer\">", "  <p>&copy; "],
  .field "current_year",
  .text " ",
  .field "blog_name",
  lines [". Powered by Snuggle.</p>", "</footer>"]]

def rule (selectors declarations : List String) : String :=
  ",\n".intercalate selectors ++ " \x7b\n" ++
    String.join (declarations.map fun d => "  " ++ d ++ ";\n") ++ "\x7d\n"

/-- A part of a style sheet under a comment. -/
def part (title : String) (rules : List String) : String :=
  "/* " ++ title ++ " */\n" ++ "\n".intercalate rules

def styles : String := "\n".intercalate [
  part "Page" [
    rule [".custom-skin-wrapper"] [
      "background-color: var(--blog-bg, #ffffff)",
      "color: var(--blog-fg, #000000)",
      "font-family: var(--blog-font-sans)"]],
  part "Header" [
    rule [".blog-header"] [
      "border-bottom: 1px solid var(--blog-border, #e5e5e5)",
      "background-color: var(--blog-bg, #ffffff)"],
    rule [".blog-header .header-inner"] [
      "max-width: 1280px",
      "margin: 0 auto",
      "padding: 0 1.5rem",
      "height: 64px",
      "display: flex",
      "align-items: center",
      "justify-content: space-between"],
    rule [".blog-header .nav-link"] [
      "color: var(--blog-muted, rgba(0,0,0,0.6))"]],
  part "Posts" [
    rule [".post-item"] [
      "padding: 1.5rem 0",
      "border-bottom: 1px solid var(--blog-border, #e5e5e5)"],
    rule [".post-item .post-title"] [
      "color: var(--blog-fg, #000000)"],
    rule [".post-item .post-meta", ".post-detail .post-meta"] [
      "color: var(--blog-muted, rgba(0,0,0,0.6))",
      "font-size: 0.875rem"],
    rule [".post-thumbnail img"] [
      "border-radius: var(--blog-border-radius, 12px)"],
    rule [".post-detail"] [
      "max-width: var(--blog-content-width, 680px)"]],
  part "Sidebar" [
    rule [".profile-card", ".info-card"] [
      "background-color: var(--blog-card-bg, #fafafa)",
      "border: 1px solid var(--blog-border, #e5e5e5)",
      "border-radius: var(--blog-border-radius, 12px)",
      "padding: 1.5rem"],
    rule [".subscribe-btn"] [
      "background-color: var(--blog-accent, #000000)",
      "color: var(--blog-bg, #ffffff)",
      "border-radius: 9999px"]],
  part "Footer" [
    rule [".blog-footer"] [
      "border-top: 1px solid var(--blog-border, #e5e5e5)",
      "color: var(--blog-muted, rgba(0,0,0,0.6))",
      "text-align: center",
      "padding: 2rem 0"]]]

/-- The templates of a skin by slot, the style sheet last. -/
def templates : List (String × String) := [
  ("html_head", "<!-- Add web fonts, meta tags and the like here -->"),
  ("html_header", print header),
  ("html_post_list", print postList),
  ("html_post_item", print postItem),
  ("html_post_detail", print postDetail),
  ("html_sidebar", print sidebar),
  ("html_footer", print footer),
  ("custom_css", styles)]
where
  print (ns : List Node) : String := String.ofList (printAll ns)

/-- The file that the template of a slot is written to. -/
def fileName (slot : String) : String :=
  if slot = "custom_css" then "skin.css" else (slot.drop 5).toString ++ ".html"

structure Hint where
  name : String
  description : String
deriving Repr, DecidableEq

def written (n : Node) (description : String) : Hint := ⟨String.ofList (printAll [n]), description⟩

/-- What templates can use, in groups. -/
def hints : List (String × List Hint) := [
  ("blog", [
    ⟨"blog_id", "Blog ID"⟩,
    ⟨"blog_name", "Blog name"⟩,
    ⟨"blog_description", "Blog description"⟩,
    ⟨"profile_image", "Profile image URL"⟩,
    ⟨"post_count", "Total number of posts"⟩,
    ⟨"subscriber_count", "Number of subscribers"⟩,
    ⟨"visitor_count", "Number of visitors"⟩,
    ⟨"current_year", "Current year"⟩,
    ⟨"created_date", "Blog creation date"⟩]),
  ("post", [
    ⟨"post_id", "Post ID"⟩,
    ⟨"post_title", "Post title"⟩,
    ⟨"post_content", "Post body (HTML, not escaped)"⟩,
    ⟨"post_excerpt", "Post excerpt"⟩,
    ⟨"post_date", "Publication date"⟩,
    ⟨"thumbnail_url", "Thumbnail image URL"⟩,
    ⟨"category_name", "Category name"⟩,
    ⟨"view_count", "View count"⟩,
    ⟨"like_count", "Like count"⟩]),
  ("loop", [
    written (.block .each "posts" [.text "..."]) "Repeat for each post",
    written (.block .section "posts" [.text "..."]) "Repeat for each post (section form)",
    written (.block .each "categories" [.text "..."]) "Repeat for each category",
    written (.block .cond "condition" [.text "..."]) "Conditional block",
    written (.include "post_item") "Insert the post item template"])]

end PageSkins.Starter
