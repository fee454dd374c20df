import CivicSite.DraftCache
import CivicSite.Page.Preview
import CivicSite.Publishing
import CivicSite.Tree.Basic

/-!
# Editing sessions

A session holds the components and the styles of one settlement's website while they are
edited. Every accepted change is written to the draft cache before the operation answers, so
what is rendered afterwards, here or in a later session, has it.
-/

namespace CivicSite

/-- The state of editing one website. -/
structure Session where
  settlement : Settlement
  posts : List Post
  tree : Tree
  css : Text
  /-- Whether there are changes that were not published. -/
  dirty : Bool

/-- What sessions draw on and write to: fresh ids, the clock, and the state of the store. -/
structure Desk (σ : Type) where
  ids : Supply
  clock : Supply
  stored : σ

namespace Session

variable {σ ω : Type}

/-- A session that has just begun. -/
def start (settlement : Settlement) (posts : List Post) : Session :=
  ⟨settlement, Post.sorted posts, .empty, "", false⟩

/-- Takes up the draft that the cache has. Answers whether there was one. -/
def open? (cache : Option (Store σ)) (s : Session) (d : Desk σ) :
    Except Fault Bool × Session × Desk σ :=
  match cache with
  | none => (.ok false, s, d)
  | some store =>
    match DraftCache.load store s.settlement.id d.stored with
    | (.error e, stored) => (.error e, s, { d with stored := stored })
    | (.ok none, stored) => (.ok false, s, { d with stored := stored })
    | (.ok (some draft), stored) =>
      let (tree, ids) := Tree.ofList draft.components d.ids
      (.ok true, { s with tree := tree, css := draft.css, dirty := true },
        { d with ids := ids, stored := stored })

/-! ## Changes -/

/-- Writes the draft to the cache. -/
def save (cache : Option (Store σ)) (s : Session) (d : Desk σ) :
    Except Fault Unit × Session × Desk σ :=
  let s := { s with dirty := true }
  match cache with
  | none => (.ok (), s, d)
  | some store =>
    match DraftCache.save store s.settlement.id s.tree.components s.css d.clock d.stored with
    | (result, clock, stored) =>
      (result.map fun _ => (), s, { d with clock := clock, stored := stored })

/-- Takes over the outcome of an operation on the tree, and saves it if it is a change. -/
def apply (cache : Option (Store σ)) (change : Change) (tree : Tree) (s : Session)
    (d : Desk σ) : Except Fault Change × Session × Desk σ :=
  let s := { s with tree := tree }
  if change.isAccepted then
    let (result, s, d) := s.save cache d
    (result.map fun _ => change, s, d)
  else (.ok change, s, d)

/-- Starts the website with the usual components. -/
def createWebsite (cache : Option (Store σ)) (s : Session) (d : Desk σ) :
    Except Fault Change × Session × Desk σ :=
  let (change, tree, ids) := s.tree.seed s.settlement.name d.ids
  s.apply cache change tree { d with ids := ids }

/-- Adds a component of the named kind. -/
def add (cache : Option (Store σ)) (name : Text) (s : Session) (d : Desk σ) :
    Except Fault Change × Session × Desk σ :=
  let (change, tree, ids) := s.tree.add name d.ids
  s.apply cache change tree { d with ids := ids }

def delete (cache : Option (Store σ)) (id : Text) (s : Session) (d : Desk σ) :
    Except Fault Change × Session × Desk σ :=
  let (change, tree) := s.tree.delete id
  s.apply cache change tree d

/-- Moves a component up or down. -/
def move (cache : Option (Store σ)) (id direction : Text) (s : Session) (d : Desk σ) :
    Except Fault Change × Session × Desk σ :=
  let (change, tree) := s.tree.move id direction
  s.apply cache change tree d

def align (cache : Option (Store σ)) (id alignment : Text) (s : Session) (d : Desk σ) :
    Except Fault Change × Session × Desk σ :=
  let (change, tree) := s.tree.align id alignment
  s.apply cache change tree d

/-- Sets or unsets fields of a component. -/
def edit (cache : Option (Store σ)) (id : Text) (patch : Entries (Option Text))
    (s : Session) (d : Desk σ) : Except Fault Change × Session × Desk σ :=
  let (change, tree) := s.tree.edit id patch
  s.apply cache change tree d

/-- Sets the styles of the website. -/
def setCss (cache : Option (Store σ)) (text : Text) (s : Session) (d : Desk σ) :
    Except Fault Unit × Session × Desk σ :=
  if text == s.css then (.ok (), s, d) else { s with css := text }.save cache d

/-- Forgets the draft, in the cache and in memory. -/
def reset (cache : Option (Store σ)) (s : Session) (d : Desk σ) :
    Except Fault Unit × Session × Desk σ :=
  let cleared := { s with tree := .empty, css := "", dirty := false }
  match cache with
  | none => (.ok (), cleared, d)
  | some store =>
    match DraftCache.clear store s.settlement.id d.stored with
    | (.error e, stored) => (.error e, s, { d with stored := stored })
    | (.ok (), stored) => (.ok (), cleared, { d with stored := stored })

def setPosts (posts : List Post) (s : Session) : Session :=
  { s with posts := Post.sorted posts }

/-! ## Output -/

/-- The content of the website as it is now. -/
def content (s : Session) : SiteContent :=
  ⟨s.settlement, s.tree.components, s.posts, s.css⟩

/-- The files of the website. -/
def bundle (s : Session) (o : SiteOptions) : Except Fault Site := Site.ofContent s.content o

/-- The preview of the website on the named screen. -/
def preview (s : Session) (screen : Text) (year : Int) : Except Fault Text :=
  Preview.site s.settlement s.tree.components s.posts s.css screen year

def listingPreview (s : Session) (query : Text) (page : Int) : Except Fault Text :=
  Preview.listing s.posts query page

def publish (client : PublishClient ω) (o : SiteOptions) (s : Session) (n : ω) :
    Except Fault Deployment × Session × ω :=
  let (result, settlement, n) := CivicSite.publish client s.content o n
  let s := { s with settlement := settlement }
  (result, { s with dirty := s.dirty && !(result matches .ok _) }, n)

end Session

end CivicSite
