import CivicSite.Markup
import CivicSite.Section
import CivicSite.Text.Percent

/-!
# Blocks

The blocks that pages are made of. A block that the published site and the preview have in
common is written once, here.
-/

namespace CivicSite.Block

open Markup

def classOf (name : Text) (v : Section) : Attribute :=
  attr "class" (name ++ " " ++ v.alignment.name)

/-- The navigation. A page other than the first also links back to the first. -/
def navigation (links : List NavLink) (home : Text) : Markup :=
  if links.isEmpty && home.isEmpty then []
  else
    line 2 [.start "nav" []] ++
    (if home.isEmpty then [] else line 3 (textElement "a" [attr "href" home] "Acasă")) ++
    links.flatMap (fun link =>
      line 3 (textElement "a" [attr "href" (home ++ "#" ++ link.anchor)] link.text)) ++
    line 2 [.stop "nav"]

/-- The header of a page, with links that lead to sections of the page `home`. -/
def header (v : Section) (home : Text) : Markup :=
  line 1 [.start "header" [classOf "header" v]] ++
  line 2 (textElement "h1" [] v.title) ++
  line 2 (textElement "p" [attr "class" "header-subtitle"] v.subtitle) ++
  navigation v.nav home ++
  line 1 [.stop "header"] ++
  blankLine

def footer (v : Section) : Markup :=
  line 1 [.start "footer" [classOf "footer" v]] ++
  line 2 (textElement "p" [] v.body) ++
  line 1 [.stop "footer"] ++
  blankLine

def hero (v : Section) : Markup :=
  line 1 [.start "section" [classOf "hero" v]] ++
  line 2 (textElement "h1" [] v.title) ++
  line 2 (textElement "p" [] v.subtitle) ++
  line 1 [.stop "section"]

/-- A section of text: about, services or contact. -/
def prose (v : Section) : Markup :=
  line 1 [.start "section" (classOf v.kind.name v :: (v.anchor.map (attr "id")).toList)] ++
  line 2 (textElement "h2" [] v.title) ++
  line 2 (textElement "p" [] v.body) ++
  line 1 [.stop "section"]

/-- The id of a section that always shows one. -/
def idOf (v : Section) : Attribute :=
  attr "id" (v.anchor.getD "None")

/-- A post as a card. The card carries the whole post in its attributes. -/
def card (c : Card) : Markup :=
  line 2 [.start "article" [
    attr "class" "blog-post", attr "data-post-id" c.id, attr "data-date" c.isoDate,
    attr "data-title" c.title, attr "data-description" c.description,
    attr "data-content" c.content]] ++
  line 3 (textElement "div" [attr "class" "blog-post-date"] c.date) ++
  line 3 (textElement "h3" [] c.title) ++
  line 3 (textElement "p" [attr "class" "blog-post-description"] c.description) ++
  line 3 (textElement "p" [attr "class" "blog-post-content"] c.preview) ++
  line 3 (textElement "a" [
    attr "class" "blog-post-link",
    attr "href" ("post.html?id=" ++ Text.percentEncode c.id (· == '/'))] "Citește mai mult") ++
  line 2 [.stop "article"] ++
  blankLine

/-- The cards of a listing, or a remark that there are none. -/
def cards (cs : List Card) (depth : Nat) (none : Text) : Markup :=
  if cs.isEmpty then line depth (textElement "p" [attr "class" "blog-empty"] none)
  else cs.flatMap card

end CivicSite.Block
