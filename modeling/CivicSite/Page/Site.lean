import CivicSite.Page.Block

/-!
# The pages of the published site

Three pages in one frame: the first page with a block for each component, the listing of all
posts, and the page that shows one post. The frame puts the header on top and the footer at
the bottom, wherever they stand among the components.
-/

namespace CivicSite.Page

open Markup

/-- The styles and the script of the map library. -/
def leafletCss : Text := "https://unpkg.com/leaflet@1.9.4/dist/leaflet.css"

@[inherit_doc leafletCss]
def leafletJs : Text := "https://unpkg.com/leaflet@1.9.4/dist/leaflet.js"

/-! ## The frame -/

/-- The opening of every document. -/
def doctype : Markup :=
  [.verbatim "<!DOCTYPE html>", .layout "\n"] ++
  line 0 [.start "html" [attr "lang" "ro"]] ++
  line 0 [.start "head" []] ++
  line 1 [.start "meta" [attr "charset" "UTF-8"]]

/-- How a document asks for the width of the device. -/
def viewport : Markup :=
  line 1 [.start "meta" [
    attr "name" "viewport", attr "content" "width=device-width, initial-scale=1.0"]]

/-- What tells one page of the site from another in the frame. -/
structure Frame where
  title : Text
  name : Text
  /-- The page that the navigation leads to, empty for this page. -/
  home : Text
  hasMap : Bool

def framed (frame : Frame) (views : List Section) (content : Markup) : Markup :=
  doctype ++ viewport ++
  line 1 (textElement "title" [] frame.title) ++
  (if frame.hasMap then
    line 1 [.empty "link" [attr "rel" "stylesheet", attr "href" leafletCss]]
  else []) ++
  line 1 [.start "link" [attr "rel" "stylesheet", attr "href" "styles.css"]] ++
  line 0 [.stop "head"] ++
  line 0 [.start "body" [attr "class" ("page-" ++ frame.name)]] ++
  (match Section.first? views .header with
  | some v => Block.header v frame.home
  | none => []) ++
  content ++
  (match Section.first? views .footer with
  | some v => Block.footer v
  | none => []) ++
  (if frame.hasMap then line 1 (element "script" [attr "src" leafletJs] []) else []) ++
  line 1 (element "script" [attr "src" "script.js"] []) ++
  line 0 [.stop "body"] ++
  [.stop "html"]

/-! ## The first page -/

/-- The place where the newest posts are put. -/
def blogBlock (v : Section) : Markup :=
  line 1 [.start "section" [Block.classOf "blog" v, Block.idOf v]] ++
  line 2 (textElement "h2" [] v.title) ++
  line 2 [.start "div" [attr "class" "blog-posts", attr "id" "blog-posts-container"]] ++
  line 3 (textElement "p" [attr "class" "loading"] "Se încarcă postările...") ++
  line 2 [.stop "div"] ++
  line 2 (element "p" [attr "class" "blog-more"]
    (textElement "a" [attr "class" "btn-blog-all", attr "href" "blog.html"]
      "Vezi toate noutățile")) ++
  line 1 [.stop "section"]

def mapBlock (v : Section) : Markup :=
  line 1 [.start "section" [Block.classOf "map" v, Block.idOf v]] ++
  line 2 (textElement "h2" [] v.title) ++
  line 2 (element "div" [
    attr "id" "map", attr "class" "map-container",
    attr "style" "width: 100%; height: 400px; border-radius: 8px;"] []) ++
  line 1 [.stop "section"]

/-- The block of a section on the first page. Header and footer belong to the frame. -/
def block (v : Section) : Markup :=
  match v.kind with
  | .header | .footer => []
  | .hero => Block.hero v
  | .about | .services | .contact => Block.prose v
  | .blog => blogBlock v
  | .map => mapBlock v

def index (settlement : Text) (views : List Section) : Markup :=
  framed
    { title := if settlement.isEmpty then "Website" else settlement
      name := "index"
      home := ""
      hasMap := (Section.first? views .map).isSome }
    views (views.flatMap block)

/-! ## The listing of posts -/

/-- The page of all posts, under the heading of the blog section. -/
def blog (settlement : Text) (views : List Section) (posts : List Card) : Markup :=
  let blog := Section.first? views .blog
  let title : Text := (blog.map (·.title)).getD ""
  let heading : Text := (blog.map (·.title)).getD "Noutăți"
  let alignment : Text := (blog.map (·.alignment.name)).getD ""
  framed
    { title := heading ++ " - " ++ settlement
      name := "blog"
      home := "index.html"
      hasMap := false }
    views <|
    line 1 [.start "main" [attr "class" "blog-page"]] ++
    line 2 [.start "section" [attr "class" ("blog-listing " ++ alignment)]] ++
    line 3 (textElement "h2" [] title) ++
    line 3 [.start "div" [attr "class" "blog-search"]] ++
    line 4 [.start "input" [
      attr "type" "search", attr "id" "blog-search", attr "placeholder" "Caută în postări...",
      attr "aria-label" "Caută în postări"]] ++
    line 3 [.stop "div"] ++
    line 3 [.start "div" [attr "class" "blog-posts", attr "id" "blog-posts-grid"]] ++
    Block.cards posts 4 "Nu există postări încă." ++
    line 3 [.stop "div"] ++
    line 3 (element "div" [attr "class" "pagination", attr "id" "blog-pagination"] []) ++
    line 2 [.stop "section"] ++
    line 1 [.stop "main"]

/-! ## One post -/

/-- A post as it was when the site was published, its content taken over as it is. -/
def snapshot (c : Card) : Markup :=
  line 2 (element "template" [
    attr "class" "post-snapshot", attr "data-post-id" c.id, attr "data-date" c.isoDate,
    attr "data-title" c.title, attr "data-description" c.description] [.verbatim c.content])

/-- The page that shows the post of its address. -/
def post (settlement : Text) (views : List Section) (posts : List Card) : Markup :=
  framed
    { title := "Noutăți - " ++ settlement, name := "post", home := "index.html", hasMap := false }
    views <|
    line 1 [.start "main" [attr "class" "post-page"]] ++
    line 2 (element "a" [attr "class" "post-back", attr "href" "blog.html"]
      [.reference "larr", .text " Înapoi la noutăți"]) ++
    line 2 (textElement "p" [attr "class" "post-loading", attr "id" "post-loading"]
      "Se încarcă postarea...") ++
    line 2 [.start "article" [attr "class" "post", attr "id" "post-article", flag "hidden"]] ++
    line 3 (element "div" [attr "class" "post-date"] []) ++
    line 3 (element "h2" [attr "class" "post-title"] []) ++
    line 3 (element "p" [attr "class" "post-description"] []) ++
    line 3 (element "div" [attr "class" "post-content"] []) ++
    line 2 [.stop "article"] ++
    line 2 (textElement "p"
      [attr "class" "post-missing", attr "id" "post-missing", flag "hidden"]
      "Postarea nu a fost găsită.") ++
    posts.flatMap snapshot ++
    line 1 [.stop "main"]

end CivicSite.Page
