import CivicSite.Component.Basic
import CivicSite.Listing

/-!
# Sections

What a page shows for each component, decided once for the published site and the preview:
default titles and texts, anchors, and the links of the navigation. Of several sections with
the same anchor only the first one keeps it.
-/

namespace CivicSite

/-! ## Navigation -/

/-- The anchor of a section, where links can point to. -/
def Kind.anchor? : Kind → Option Text
  | .about => some "despre"
  | .services => some "servicii"
  | .blog => some "noutati"
  | .map => some "harta"
  | .contact => some "contact"
  | _ => none

/-- A link to a section of the same page. -/
structure NavLink where
  text : Text
  anchor : Text
deriving DecidableEq, Repr

/-- The kinds that the navigation links to, in order, with the texts of the links. -/
def navOrder : List (Kind × Text) :=
  [(.about, "Despre"), (.blog, "Noutăți"), (.contact, "Contact")]

/-- The navigation of a page with components of the given kinds. -/
def navLinks (kinds : List Kind) : List NavLink :=
  navOrder.filterMap fun (kind, text) =>
    if kinds.contains kind then kind.anchor?.map (NavLink.mk text) else none

/-! ## Texts -/

/-- A text, or a default where it is unset or empty. -/
def orDefault (s : Option Text) (default : Text) : Text :=
  match s with
  | some s => if s.isEmpty then default else s
  | none => default

/-- The heading of a blog that has no title of its own. -/
def blogTitle : Text := "Ultimele Noutăți"

def footerText (settlement : Text) (year : Int) : Text :=
  "© " ++ toString year ++ " " ++ settlement ++ ". Toate drepturile rezervate."

/-- The characters of a post that a card shows. -/
def teaserLength : Nat := 150

/-- A text of at most the given length, cut off with three dots. -/
def teaser (content : Text) (limit : Int) : Text :=
  if content.length ≤ limit then content
  else Text.trimEnd (slice content 0 limit) ++ "..."

def monthNames : List Text :=
  ["ianuarie", "februarie", "martie", "aprilie", "mai", "iunie", "iulie", "august",
    "septembrie", "octombrie", "noiembrie", "decembrie"]

/-- A date as readers see it. -/
def dateText (t : Timestamp) : Text :=
  toString t.day ++ " " ++ monthNames.getD (t.month - 1) "" ++ " " ++ toString t.year

/-! ## Sections -/

/-- What a page shows for a component. -/
structure Section where
  id : Text
  kind : Kind
  alignment : Alignment
  title : Text
  subtitle : Text
  body : Text
  anchor : Option Text
  nav : List NavLink
deriving DecidableEq

namespace Section

/-- The section of one component, with the anchor of its kind. -/
def ofComponent (c : Component) (settlement : Text) (year : Int) (nav : List NavLink) :
    Section :=
  let base : Section := ⟨c.id, c.kind, c.alignment, "", "", "", c.kind.anchor?, []⟩
  match c.body with
  | .header t =>
    { base with
      title := orDefault t ("Primăria " ++ settlement)
      subtitle := "Portalul oficial al localității"
      nav := nav }
  | .hero t s =>
    { base with title := t.getD "Bine ați venit", subtitle := s.getD "Portal oficial" }
  | .about t d =>
    { base with
      title := orDefault t "Despre Noi", body := orDefault d "Descriere despre localitate..." }
  | .services t d =>
    { base with
      title := orDefault t "Servicii", body := orDefault d "Lista serviciilor disponibile..." }
  | .contact t d =>
    { base with title := orDefault t "Contact", body := orDefault d "Informații de contact..." }
  | .blog t => { base with title := orDefault t blogTitle }
  | .map t => { base with title := orDefault t "Localizare" }
  | .footer => { base with body := footerText settlement year }

/-- The sections with each anchor on the first of those that have it. -/
def keepFirstAnchors (seen : List Text) : List Section → List Section
  | [] => []
  | v :: rest =>
    match v.anchor with
    | none => v :: keepFirstAnchors seen rest
    | some a =>
      if seen.contains a then { v with anchor := none } :: keepFirstAnchors seen rest
      else v :: keepFirstAnchors (a :: seen) rest

/-- The sections of a page, in the order of the components' positions. -/
def ofComponents (settlement : Text) (components : List Component) (year : Int) :
    List Section :=
  let ordered := Component.byPosition components
  let nav := navLinks (ordered.map Component.kind)
  keepFirstAnchors [] (ordered.map fun c => ofComponent c settlement year nav)

def first? (views : List Section) (kind : Kind) : Option Section :=
  views.find? (·.kind == kind)

end Section

/-! ## Cards -/

/-- A post as a card of a listing shows it. -/
structure Card where
  id : Text
  title : Text
  description : Text
  content : Text
  preview : Text
  date : Text
  isoDate : Text
deriving DecidableEq, Repr

namespace Card

def ofPost (p : Post) : Card :=
  ⟨p.id, p.title, p.description, p.content, teaser p.content teaserLength, dateText p.date,
    p.date.iso⟩

/-- The cards of the posts, newest first. -/
def ofPosts (posts : List Post) : List Card :=
  (Post.sorted posts).map ofPost

end Card

end CivicSite
