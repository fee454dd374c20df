import CivicSite.Post
import CivicSite.Slice
import CivicSite.Text.Case
import CivicSite.Text.Search

/-!
# Listings of posts

A listing shows the posts that match a query, one page at a time. The number of pages is the
quotient of doubles rounded up, and at least one; a page that is asked for beyond the first or
last stands for that page.
-/

namespace CivicSite

def pageSize : Nat := 9

/-- The posts teased on the first page of a website. -/
def teaserCount : Nat := 5

/-! ## Search -/

namespace Post

/-- Whether a text occurs in one of the texts of a post, small and capital letters alike. The
text is given in small letters. -/
def matchesLower (needle : Text) (p : Post) : Bool :=
  Text.holds (Text.lower p.title) needle || Text.holds (Text.lower p.description) needle ||
    Text.holds (Text.lower p.content) needle

/-- The posts that match a query, all posts if the query is blank. -/
def search (posts : List Post) (query : Text) : List Post :=
  let needle := Text.lower (Text.trim query)
  if needle.isEmpty then posts else posts.filter (matchesLower needle)

end Post

/-! ## Pages -/

/-- The least whole number that is not below the quotient, which is computed as a double. -/
def quotientUp (total size : Int) : Except Fault Int :=
  if size = 0 then .error .divisionByZero
  else
    match (Double.ofQuotient? total size).bind Double.ceiling? with
    | some n => .ok n
    | none => .error .tooLarge

def pageCount (total size : Int) : Except Fault Int :=
  (quotientUp total size).map (max 1)

/-- One page of a listing. -/
structure Listing where
  posts : List Post
  page : Int
  pageCount : Int
  total : Nat
  size : Int

namespace Listing

/-- The page of the posts that is asked for, brought to the nearest one there is. -/
def paginate (posts : List Post) (page size : Int) : Except Fault Listing := do
  let pages ← CivicSite.pageCount posts.length size
  let page := min (max 1 page) pages
  let start := (page - 1) * size
  return ⟨slice posts start (start + size), page, pages, posts.length, size⟩

def search (posts : List Post) (query : Text) (page size : Int) : Except Fault Listing :=
  paginate (Post.search posts query) page size

def hasPrevious (l : Listing) : Bool := 1 < l.page

def hasNext (l : Listing) : Bool := l.page < l.pageCount

/-- The numbers of the pages, none if there are no posts. -/
def numbers (l : Listing) : Except Fault (List Int) :=
  (quotientUp l.total l.size).map fun n =>
    (List.range n.toNat).map fun (i : Nat) => (i : Int) + 1

end Listing

end CivicSite
