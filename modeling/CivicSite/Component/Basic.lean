import CivicSite.Text.Basic

/-!
# Page components

A page is made of components of eight kinds. The kind decides which texts a component has, so
it is part of the component's body: a body holds the texts of its kind and no others, each of
them either unset or any text, the empty one included.
-/

namespace CivicSite

/-! ## Kinds -/

/-- The kinds of components, in the order in which they are offered. -/
inductive Kind where
  | header
  | hero
  | about
  | services
  | blog
  | map
  | contact
  | footer
deriving DecidableEq, Repr

namespace Kind

def all : List Kind := [header, hero, about, services, blog, map, contact, footer]

theorem mem_all (k : Kind) : k ∈ all := by cases k <;> decide

def name : Kind → Text
  | header => "header"
  | hero => "hero"
  | about => "about"
  | services => "services"
  | blog => "blog"
  | map => "map"
  | contact => "contact"
  | footer => "footer"

def ofName? (s : Text) : Option Kind :=
  all.find? (·.name == s)

theorem ofName?_name (k : Kind) : ofName? k.name = some k := by cases k <;> decide

/-- What editors call a kind. -/
def label : Kind → Text
  | header => "Header"
  | hero => "Hero Section"
  | about => "Despre"
  | services => "Servicii"
  | blog => "Blog"
  | map => "Hartă"
  | contact => "Contact"
  | footer => "Footer"

/-- Whether every page has a component of this kind. -/
def isMandatory : Kind → Bool
  | header | footer => true
  | _ => false

/-- Whether a page may have several components of this kind. -/
def isRepeatable : Kind → Bool
  | hero | services => true
  | _ => false

end Kind

/-! ## Fields -/

/-- The texts that a component may have. -/
inductive Field where
  | title
  | subtitle
  | description
deriving DecidableEq, Repr

namespace Field

def all : List Field := [title, subtitle, description]

def name : Field → Text
  | title => "title"
  | subtitle => "subtitle"
  | description => "description"

def ofName? (s : Text) : Option Field :=
  all.find? (·.name == s)

end Field

/-- The fields of a kind, in the order in which they are stored. -/
def Kind.fields : Kind → List Field
  | .header | .blog | .map => [.title]
  | .hero => [.title, .subtitle]
  | .about | .services | .contact => [.title, .description]
  | .footer => []

/-! ## Bodies -/

/-- The texts of a component. -/
inductive Body where
  | header (title : Option Text)
  | hero (title subtitle : Option Text)
  | about (title description : Option Text)
  | services (title description : Option Text)
  | blog (title : Option Text)
  | map (title : Option Text)
  | contact (title description : Option Text)
  | footer
deriving DecidableEq, Repr

namespace Body

def kind : Body → Kind
  | header _ => .header
  | hero _ _ => .hero
  | about _ _ => .about
  | services _ _ => .services
  | blog _ => .blog
  | map _ => .map
  | contact _ _ => .contact
  | footer => .footer

/-- The text in a field; none if it is unset or the kind does not have it. -/
def value? : Body → Field → Option Text
  | header t, .title | blog t, .title | map t, .title => t
  | hero t _, .title | about t _, .title | services t _, .title | contact t _, .title => t
  | hero _ s, .subtitle => s
  | about _ d, .description | services _ d, .description | contact _ d, .description => d
  | _, _ => none

def ofFields : Kind → (Field → Option Text) → Body
  | .header, v => header (v .title)
  | .hero, v => hero (v .title) (v .subtitle)
  | .about, v => about (v .title) (v .description)
  | .services, v => services (v .title) (v .description)
  | .blog, v => blog (v .title)
  | .map, v => map (v .title)
  | .contact, v => contact (v .title) (v .description)
  | .footer, _ => footer

@[simp] theorem kind_ofFields (k : Kind) (v : Field → Option Text) :
    (ofFields k v).kind = k := by
  cases k <;> rfl

@[simp] theorem ofFields_value? (b : Body) : ofFields b.kind b.value? = b := by
  cases b <;> rfl

theorem value?_ofFields {k : Kind} {f : Field} (v : Field → Option Text) (h : f ∈ k.fields) :
    (ofFields k v).value? f = v f := by
  cases k <;> cases f <;> first | rfl | exact absurd h (by decide)

def initial (k : Kind) : Body :=
  ofFields k fun
    | .title => some ("Titlu " ++ k.name)
    | .description => some "Descriere..."
    | .subtitle => none

end Body

/-! ## Alignment -/

/-- How a component's text is set. -/
inductive Alignment where
  | left
  | center
  | right
deriving DecidableEq, Repr

namespace Alignment

/-- All alignments, in the order in which they are offered. -/
def all : List Alignment := [left, center, right]

def name : Alignment → Text
  | left => "left"
  | center => "center"
  | right => "right"

def ofName? (s : Text) : Option Alignment :=
  all.find? (·.name == s)

theorem ofName?_name (a : Alignment) : ofName? a.name = some a := by cases a <;> decide

end Alignment

/-! ## Components -/

/-- A component of a page. -/
structure Component where
  id : Text
  body : Body
  position : Int
  alignment : Alignment
deriving DecidableEq

namespace Component

def kind (c : Component) : Kind := c.body.kind

/-- The components in the order of their positions; equal positions keep their order. -/
def byPosition (cs : List Component) : List Component :=
  cs.mergeSort fun a b => a.position ≤ b.position

end Component

end CivicSite
