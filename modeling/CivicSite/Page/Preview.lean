import CivicSite.Page.Site
import CivicSite.Stylesheet.Site

/-!
# Previews

A preview is one document that needs nothing else: its styles are in it, the posts are those at
hand, and the map is a placeholder. Its blocks follow the components in their order, header and
footer included. A second preview shows a page of the listing of posts.
-/

namespace CivicSite.Page

open Markup

/-! ## Screens -/

/-- The screens that a preview is made for. -/
inductive Screen where
  | desktop
  | tablet
  | mobile
deriving DecidableEq, Repr

namespace Screen

/-- All screens, in the order in which they are offered. -/
def all : List Screen := [desktop, tablet, mobile]

def name : Screen → Text
  | desktop => "desktop"
  | tablet => "tablet"
  | mobile => "mobile"

def ofName? (s : Text) : Option Screen := all.find? (·.name == s)

def width : Screen → Text
  | desktop => "100%"
  | tablet => "768px"
  | mobile => "375px"

end Screen

/-! ## Styles -/

/-- A style element around styles that are taken over as they are. -/
def styleElement (styles : List Text) : Markup :=
  line 1 [.start "style" []] ++
  styles.flatMap (fun s => [.verbatim s, .layout "\n"]) ++
  line 1 [.stop "style"]

/-- The styles of every website and those of previews. -/
def previewStyles : Markup :=
  styleElement [Stylesheet.base.text, "\n" ++ Stylesheet.preview.text]

/-! ## The preview of a website -/

/-- The newest posts, and how many more there are. -/
def previewBlog (v : Section) (teasers : List Card) (remaining : Nat) : Markup :=
  line 1 [.start "section" [Block.classOf "blog" v, Block.idOf v]] ++
  line 2 (textElement "h2" [] v.title) ++
  line 2 [.start "div" [attr "class" "blog-posts"]] ++
  Block.cards teasers 3 "Nu există postări încă." ++
  (if remaining = 0 then []
  else line 3 (textElement "p" [attr "class" "preview-more"]
    ("... și încă " ++ toString remaining ++ " postări"))) ++
  line 2 [.stop "div"] ++
  line 1 [.stop "section"]

/-- The place of the settlement in words. -/
def previewMap (v : Section) (s : Settlement) : Markup :=
  line 1 [.start "section" [Block.classOf "map-section" v, Block.idOf v]] ++
  line 2 (textElement "h2" [] v.title) ++
  line 2 [.start "div" [attr "class" "map-placeholder"]] ++
  line 3 (textElement "strong" [] (s.name ++ ", " ++ s.region)) ++
  line 3 (textElement "span" [] (s.lat.fixed 4 ++ ", " ++ s.lng.fixed 4)) ++
  line 2 [.stop "div"] ++
  line 1 [.stop "section"]

def previewBlock (s : Settlement) (teasers : List Card) (remaining : Nat) (v : Section) : Markup :=
  match v.kind with
  | .header => Block.header v ""
  | .hero => Block.hero v
  | .about | .services | .contact => Block.prose v
  | .blog => previewBlog v teasers remaining
  | .map => previewMap v s
  | .footer => Block.footer v

/-- The preview of a website on a screen. -/
def preview (s : Settlement) (views : List Section) (posts : List Post) (css : Text)
    (screen : Screen) : Markup :=
  let ordered := Post.sorted posts
  let shown := ordered.take teaserCount
  doctype ++ viewport ++
  line 1 (textElement "title" [] ("Preview - " ++ s.name)) ++
  previewStyles ++
  (if css.isEmpty then [] else styleElement ["/* Custom Styles */", css]) ++
  line 0 [.stop "head"] ++
  line 0 [.start "body" [attr "class" ("preview preview-" ++ screen.name)]] ++
  line 0 [.start "div" [
    attr "class" "preview-frame", attr "style" ("max-width: " ++ screen.width ++ ";")]] ++
  (if views.isEmpty then
    line 1 (textElement "p" [attr "class" "preview-empty"]
      "Preview-ul va apărea aici după ce adaugi componente")
  else
    views.flatMap (previewBlock s (Card.ofPosts shown) (ordered.length - shown.length))) ++
  line 0 [.stop "div"] ++
  line 0 [.stop "body"] ++
  [.stop "html"]

/-! ## The preview of the listing -/

/-- A page button of the listing, which may be out of use. -/
def turnButton (name : Text) (enabled : Bool) (inner : Markup) : Markup :=
  line 3 (element "button" (
    [attr "type" "button", attr "class" ("page-btn page-" ++ name)] ++
      if enabled then [] else [flag "disabled"]) inner)

def pageButton (current page : Int) : Markup :=
  let name := "page-btn page-number" ++ if page = current then " active" else ""
  line 3 (textElement "button" [attr "type" "button", attr "class" name] (toString page))

def listingPreview (query : Text) (l : Listing) (numbers : List Int) : Markup :=
  doctype ++
  line 1 (textElement "title" [] blogTitle) ++
  previewStyles ++
  line 0 [.stop "head"] ++
  line 0 [.start "body" [attr "class" "preview page-blog"]] ++
  line 0 [.start "main" [attr "class" "blog-page"]] ++
  line 1 [.start "section" [attr "class" "blog-listing"]] ++
  line 2 (textElement "h2" [] blogTitle) ++
  (if query.isEmpty then []
  else line 2 (textElement "p" [attr "class" "blog-query"]
    ("Rezultate pentru „" ++ query ++ "”: " ++ toString l.total))) ++
  line 2 [.start "div" [attr "class" "blog-posts"]] ++
  Block.cards (Card.ofPosts l.posts) 3 "Nicio postare găsită." ++
  line 2 [.stop "div"] ++
  line 2 [.start "div" [attr "class" "pagination"]] ++
  turnButton "prev" l.hasPrevious [.reference "lsaquo", .text " Înapoi"] ++
  numbers.flatMap (pageButton l.page) ++
  turnButton "next" l.hasNext [.text "Înainte ", .reference "rsaquo"] ++
  line 2 [.stop "div"] ++
  line 1 [.stop "section"] ++
  line 0 [.stop "main"] ++
  line 0 [.stop "body"] ++
  [.stop "html"]

end CivicSite.Page

namespace CivicSite.Preview

/-- The preview of a website on the named screen. The blog in it links to the newest posts. -/
def site (s : Settlement) (components : List Component) (posts : List Post) (css screen : Text)
    (year : Int) : Except Fault Text :=
  match Page.Screen.ofName? screen with
  | none => .error (.value (.unknownMode screen))
  | some screen =>
    let linked := (Post.sorted posts).take teaserCount
    if components.any (·.kind == .blog) && !linked.all (·.id.isEncodable) then
      .error .unencodable
    else
      let views := Section.ofComponents s.name components year
      .ok (Page.preview s views posts css screen).render

/-- The preview of a page of the listing, after a search. -/
def listing (posts : List Post) (query : Text) (page : Int) : Except Fault Text := do
  let l ← Listing.search (Post.sorted posts) query page pageSize
  let numbers ← l.numbers
  if !l.posts.all (·.id.isEncodable) then throw .unencodable
  return (Page.listingPreview (Text.trim query) l numbers).render

end CivicSite.Preview
