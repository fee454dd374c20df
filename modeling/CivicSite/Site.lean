import CivicSite.Disk
import CivicSite.Page.Site
import CivicSite.Script.Site
import CivicSite.Stylesheet.Site

/-!
# Sites

The files of a published website, made from a settlement, the components of its page, its posts
and its own styles. The blog listing and the post page are there whenever a blog is among the
components, even with no posts yet.
-/

namespace CivicSite

/-- The address of the backend, for the editor and for published pages. -/
def defaultApiUrl : Text := "https://api.bachelordegree.tech/api/v1"

/-- What the files depend on besides the content: the address that pages read posts from, and
the year in the footer. -/
structure SiteOptions where
  apiUrl : Json
  year : Int

/-- The content of a website. -/
structure SiteContent where
  settlement : Settlement
  components : List Component
  posts : List Post
  css : Text

namespace SiteContent

/-- Whether a component of a kind is among the components. -/
def has (c : SiteContent) (kind : Kind) : Bool :=
  c.components.any (·.kind == kind)

/-- Whether the pages can link to each post that they list. The id of a post is part of its link. -/
def isLinkable (c : SiteContent) : Bool :=
  !c.has .blog || c.posts.all (·.id.isEncodable)

def sections (c : SiteContent) (year : Int) : List Section :=
  Section.ofComponents c.settlement.name c.components year

end SiteContent

/-- The files of a website. -/
structure Site where
  html : Text
  css : Text
  js : Text
  blogHtml : Option Text
  postHtml : Option Text
deriving DecidableEq

namespace Site

/-! ## Files -/

/-- The first page. -/
def indexHtml (c : SiteContent) (o : SiteOptions) : Text :=
  (Page.index c.settlement.name (c.sections o.year)).render

/-- The listing of posts. -/
def blogPage (c : SiteContent) (o : SiteOptions) : Text :=
  (Page.blog c.settlement.name (c.sections o.year) (Card.ofPosts c.posts)).render

def postPage (c : SiteContent) (o : SiteOptions) : Text :=
  (Page.post c.settlement.name (c.sections o.year) (Card.ofPosts c.posts)).render

def script (c : SiteContent) (o : SiteOptions) : Text :=
  Script.site o.apiUrl c.settlement (c.has .blog) (c.has .map)

/-- The listing of posts by itself, if it can link to each of them. -/
def blogListing (c : SiteContent) (o : SiteOptions) : Except Fault Text :=
  if c.posts.all (·.id.isEncodable) then .ok (blogPage c o) else .error .unencodable

/-- All files of the website. -/
def generate (c : SiteContent) (o : SiteOptions) : Site where
  html := indexHtml c o
  css := Stylesheet.custom c.css
  js := script c o
  blogHtml := if c.has .blog then some (blogPage c o) else none
  postHtml := if c.has .blog then some (postPage c o) else none

/-- The files of a website, if its pages can link to its posts. -/
def ofContent (c : SiteContent) (o : SiteOptions) : Except Fault Site :=
  if c.isLinkable then .ok (generate c o) else .error .unencodable

/-- The files with their names, in the order in which they are published. -/
def files (s : Site) : Entries Text :=
  let always : Entries Text := [("index.html", s.html), ("styles.css", s.css), ("script.js", s.js)]
  let named (name : Text) (page? : Option Text) : Entries Text := (page?.map (name, ·)).toList
  always ++ named "blog.html" s.blogHtml ++ named "post.html" s.postHtml

/-! ## Export -/

/-- Writes files into a directory until one is refused. -/
def writeFiles (dir : Path) : Entries Text → Disk → Except Fault (List Path) × Disk
  | [], d => (.ok [], d)
  | (name, content) :: rest, d =>
    match d.writeFile (dir.child name) content with
    | (.error e, d) => (.error e, d)
    | (.ok (), d) =>
      let (written, d) := writeFiles dir rest d
      (written.map (dir.child name :: ·), d)

/-- Writes the files into a directory, which is made if it is missing. -/
def exportTo (s : Site) (dir : Path) (d : Disk) : Except Fault (List Path) × Disk :=
  match d.makeDirectory dir with
  | (.error e, d) => (.error e, d)
  | (.ok (), d) => writeFiles dir s.files d

end Site

end CivicSite
