import CivicSite.Listing
import CivicSite.Proofs.Double.Ceiling

/-!
# Pages of a listing

A listing is cut into pages of one size, the last of which may be shorter. How many there are is
computed with doubles, but comes out as the exact quotient rounded up (`pageCount_eq`), so a page is
a known stretch of the posts (`paginate_eq`) and the pages in a row are all posts (`posts_pages`).

The numbers of the pages are computed apart from their count, from the quotient alone. They are the
numbers of all pages, unless the quotient is so small that it has no double but zero: then there are
none, although there is a page with posts (`pages_partition_tiled`).
-/

namespace CivicSite

/-- **A quotient is rounded up exactly**, unless its double is zero. -/
theorem quotientUp_eq {total : Nat} (htotal : total < 2 ^ 53) {size : Int} (hsize : 1 ≤ size) :
    quotientUp total size
      = .ok (if total * (2 * unitsPerOne) ≤ size then 0 else ⌈(total : ℚ) / size⌉) := by
  lift size to ℕ using by omega
  have hne : (size : Int) ≠ 0 := by omega
  have hle : (total : Int) * (2 * unitsPerOne) ≤ size ↔ total * (2 * unitsPerOne) ≤ size := by
    norm_cast
  rw [quotientUp, if_neg hne, Double.ceiling?_ofQuotient? htotal (by omega)]
  simp only [hle, Int.cast_natCast]

/-- The number of pages of a size that so many posts take, at least one. -/
def pagesFor (total : Nat) (size : Int) : Int := max 1 ⌈(total : ℚ) / size⌉

/-- The whole numbers from one up to another. -/
def numbersTo (count : Int) : List Int :=
  (List.range count.toNat).map fun (i : Nat) => (i : Int) + 1

/-! ## Counting -/

section Count

variable {total : Nat} {size : Int}

theorem one_le_pagesFor (total : Nat) (size : Int) : 1 ≤ pagesFor total size := le_max_left ..

/-- So many posts go on pages in a row just if there are as many pages. -/
theorem ceil_le_iff (hsize : 1 ≤ size) {n : Int} : ⌈(total : ℚ) / size⌉ ≤ n ↔ total ≤ n * size := by
  have hpos : (0 : ℚ) < size := by exact_mod_cast hsize
  rw [Int.ceil_le, div_le_iff₀ hpos]
  norm_cast

theorem pagesFor_le_iff (hsize : 1 ≤ size) {n : Int} (hn : 1 ≤ n) :
    pagesFor total size ≤ n ↔ total ≤ n * size := by
  rw [pagesFor, max_le_iff, ceil_le_iff hsize]
  exact and_iff_right hn

/-- The pages hold all posts. -/
theorem le_pagesFor_mul (hsize : 1 ≤ size) : total ≤ pagesFor total size * size :=
  (pagesFor_le_iff hsize (one_le_pagesFor total size)).mp (le_refl _)

/-- No page is more than is needed. -/
theorem mul_lt_of_lt_pagesFor (hsize : 1 ≤ size) {n : Int} (hn : 1 ≤ n)
    (h : n < pagesFor total size) : n * size < total := by
  by_contra hle
  have hall := (pagesFor_le_iff hsize hn).mpr (Int.not_lt.mp hle)
  omega

/-- Where the quotient has no double but zero, one page is enough. -/
theorem pagesFor_of_le (hsize : 1 ≤ size) (h : total ≤ size) : pagesFor total size = 1 := by
  have hle : pagesFor total size ≤ 1 := (pagesFor_le_iff hsize (le_refl 1)).mpr (by omega)
  have hge := one_le_pagesFor total size
  omega

theorem pagesFor_eq_ceil (hsize : 1 ≤ size) (h : 0 < total) :
    pagesFor total size = ⌈(total : ℚ) / size⌉ := by
  refine max_eq_right ?_
  by_contra hlt
  have hnone : (total : Int) ≤ 0 * size := (ceil_le_iff hsize).mp (by omega)
  omega

theorem le_of_vanishes (h : (total : Int) * (2 * unitsPerOne) ≤ size) : (total : Int) ≤ size := by
  have hunits : 1 ≤ 2 * unitsPerOne := by decide +kernel
  have hle : total ≤ total * (2 * unitsPerOne) := Nat.le_mul_of_pos_right _ hunits
  have hcast : (total : Int) ≤ total * (2 * unitsPerOne) := by exact_mod_cast hle
  exact le_trans hcast h

/-- **The number of pages is exact**, although it is computed with doubles. -/
theorem pageCount_eq (htotal : total < 2 ^ 53) (hsize : 1 ≤ size) :
    pageCount total size = .ok (pagesFor total size) := by
  rw [pageCount, quotientUp_eq htotal hsize]
  refine congrArg Except.ok ?_
  by_cases hvanishes : (total : Int) * (2 * unitsPerOne) ≤ size
  · rw [if_pos hvanishes, pagesFor_of_le hsize (le_of_vanishes hvanishes)]
    rfl
  · rw [if_neg hvanishes]
    rfl

end Count

namespace Listing

/-! ## One page -/

/-- A page, counted from zero: so many posts after those of the pages before it. -/
theorem slice_page {α : Type} (xs : List α) (i size : Nat) :
    slice xs (i * size) (i * size + size) = (xs.drop (i * size)).take size := by
  have hplace : ∀ n : Nat, place xs.length n = min n xs.length := by
    intro n
    rw [place, if_neg (by omega), Int.toNat_natCast]
  have hstop : ((i : Int) * size + size) = ((i * size + size : Nat) : Int) := by push_cast; rfl
  have hstart : ((i : Int) * size) = ((i * size : Nat) : Int) := by push_cast; rfl
  rw [slice, hstop, hstart, hplace, hplace, ← List.take_eq_take_min, List.drop_take]
  rcases Nat.le_total (i * size) xs.length with hle | hge
  · rw [Nat.min_eq_left hle, Nat.add_sub_cancel_left]
  · rw [List.drop_eq_nil_of_le hge, Nat.min_eq_right hge, List.drop_length, List.take_nil,
      List.take_nil]

/-- The page of the posts that is asked for. -/
def pageOf (posts : List Post) (page size : Int) : Listing :=
  let count := pagesFor posts.length size
  let page := min (max 1 page) count
  ⟨slice posts ((page - 1) * size) ((page - 1) * size + size), page, count, posts.length, size⟩

variable {posts : List Post} {page size : Int}

/-- **A page is a known stretch of the posts.** -/
theorem paginate_eq (hposts : posts.length < 2 ^ 53) (hsize : 1 ≤ size) :
    paginate posts page size = .ok (pageOf posts page size) := by
  rw [paginate, pageCount_eq hposts hsize]
  rfl

/-- The posts of a page that there is. -/
theorem posts_pageOf (posts : List Post) {i size : Nat}
    (hi : (i : Int) < pagesFor posts.length size) :
    (pageOf posts (i + 1) size).posts = (posts.drop (i * size)).take size := by
  have hpage : min (max 1 ((i : Int) + 1)) (pagesFor posts.length size) = i + 1 := by omega
  rw [pageOf, ← slice_page]
  simp only [hpage, Int.add_sub_cancel]

/-! ## Pages in a row -/

/-- Stretches of one length that follow each other. -/
theorem flatMap_stretches {α : Type} (xs : List α) (size count : Nat) :
    (List.range count).flatMap (fun i => (xs.drop (i * size)).take size)
      = xs.take (count * size) := by
  induction count with
  | zero => simp
  | succ count ih =>
      rw [List.range_succ, List.flatMap_append, ih, List.flatMap_singleton, Nat.add_mul,
        Nat.one_mul, List.take_add]

/-- **The pages in a row are all posts.** -/
theorem posts_pages (posts : List Post) (hsize : 1 ≤ size) :
    (numbersTo (pagesFor posts.length size)).flatMap (fun n => (pageOf posts n size).posts)
      = posts := by
  lift size to ℕ using by omega
  have hpage : ∀ i ∈ List.range (pagesFor posts.length size).toNat,
      (pageOf posts ((i : Int) + 1) size).posts = (posts.drop (i * size)).take size := by
    intro i hi
    have hlt := List.mem_range.mp hi
    exact posts_pageOf posts (by omega)
  have hall : posts.length ≤ (pagesFor posts.length size).toNat * size := by
    have hle : (posts.length : Int) ≤ pagesFor posts.length size * size := le_pagesFor_mul hsize
    have hcount := one_le_pagesFor posts.length size
    zify
    rwa [Int.toNat_of_nonneg (by omega)]
  rw [numbersTo, List.flatMap_map, List.flatMap_congr hpage, flatMap_stretches,
    List.take_of_length_le hall]

/-- What a page of the posts found is to show. -/
structure IsPage (found : List Post) (size page : Int) (l : Listing) : Prop where
  total : l.total = found.length
  count : l.pageCount = pagesFor found.length size
  clamped : l.page = min (max 1 page) l.pageCount
  full : l.page < l.pageCount → l.posts.length = size
  length_le : l.posts.length ≤ size
  empty_iff : l.posts = [] ↔ found = []
  first_iff : l.hasPrevious = false ↔ l.page = 1
  last_iff : l.hasNext = false ↔ l.page = l.pageCount
  /-- The numbers are those of all pages, but there are none if the quotient has no double but
  zero. -/
  numbers : l.numbers = .ok (
    if found.length * (2 * unitsPerOne) ≤ size then [] else numbersTo l.pageCount)

/-- The numbers of the pages. -/
theorem numbers_pageOf (hposts : posts.length < 2 ^ 53) (hsize : 1 ≤ size) :
    (pageOf posts page size).numbers = .ok (
      if posts.length * (2 * unitsPerOne) ≤ size then []
      else numbersTo (pagesFor posts.length size)) := by
  have hmap : (pageOf posts page size).numbers
      = (quotientUp posts.length size).map fun n => numbersTo n := rfl
  rw [hmap, quotientUp_eq hposts hsize]
  by_cases hvanishes : (posts.length : Int) * (2 * unitsPerOne) ≤ size
  · rw [if_pos hvanishes, if_pos hvanishes]
    rfl
  · have hsome : 0 < posts.length := by
      by_contra hnone
      have hzero : posts.length = 0 := by omega
      rw [hzero, Nat.cast_zero, zero_mul] at hvanishes
      omega
    rw [if_neg hvanishes, if_neg hvanishes, pagesFor_eq_ceil hsize hsome]
    rfl

/-- The page that is shown, and where it begins: after the first page, within the posts. -/
theorem exists_stretch (posts : List Post) (page : Int) {size : Nat} (hsize : 1 ≤ (size : Int)) :
    ∃ i : Nat, (pageOf posts page size).page = i + 1
      ∧ (pageOf posts page size).posts = (posts.drop (i * size)).take size
      ∧ (i : Int) < pagesFor posts.length size ∧ (i = 0 ∨ i * size < posts.length) := by
  have hcount := one_le_pagesFor posts.length size
  obtain ⟨i, hpage⟩ : ∃ i : Nat, min (max 1 page) (pagesFor posts.length size) = i + 1 :=
    ⟨(min (max 1 page) (pagesFor posts.length size) - 1).toNat, by omega⟩
  have hi : (i : Int) < pagesFor posts.length size := by omega
  refine ⟨i, hpage, ?_, hi, ?_⟩
  · have hsame : min (max 1 ((i : Int) + 1)) (pagesFor posts.length size) = i + 1 := by omega
    rw [← posts_pageOf posts hi]
    simp only [pageOf, hpage, hsame]
  · rcases Nat.eq_zero_or_pos i with hzero | hpos
    · exact .inl hzero
    · have hlt := mul_lt_of_lt_pagesFor (n := i) hsize (by omega) hi
      exact .inr (by exact_mod_cast hlt)

theorem isPage_pageOf (hposts : posts.length < 2 ^ 53) (hsize : 1 ≤ size) (page : Int) :
    IsPage posts size page (pageOf posts page size) := by
  lift size to ℕ using by omega
  obtain ⟨i, hpage, hstretch, hi, hbegins⟩ := exists_stretch posts page hsize
  have hcount : (pageOf posts page size).pageCount = pagesFor posts.length size := rfl
  have hlength : (pageOf posts page size).posts.length = min size (posts.length - i * size) := by
    rw [hstretch, List.length_take, List.length_drop]
  refine ⟨rfl, rfl, rfl, ?full, ?length_le, ?empty_iff, ?first_iff, ?last_iff,
    numbers_pageOf hposts hsize⟩
  case full =>
    intro hbefore
    have hnext : (i : Int) + 1 < pagesFor posts.length size := by omega
    have hlt := mul_lt_of_lt_pagesFor hsize (by omega) hnext
    have hlt : (i + 1) * size < posts.length := by exact_mod_cast hlt
    rw [Nat.add_mul, Nat.one_mul] at hlt
    rw [hlength, Nat.min_eq_left (by omega)]
  case length_le =>
    rw [hlength]
    omega
  case empty_iff =>
    rw [← List.length_eq_zero_iff, ← List.length_eq_zero_iff, hlength]
    rcases hbegins with rfl | hbegins
    · rw [Nat.zero_mul]
      omega
    · omega
  case first_iff =>
    rw [hasPrevious, decide_eq_false_iff_not]
    omega
  case last_iff =>
    rw [hasNext, decide_eq_false_iff_not]
    omega

/-- **The pages partition what a search finds.** -/
theorem pages_partition (hposts : posts.length < 2 ^ 53) (hsize : 1 ≤ size) (query : Text) :
    let found := Post.search posts query
    ∃ shown : Int → Listing,
      (∀ page, search posts query page size = .ok (shown page)
        ∧ IsPage found size page (shown page))
      ∧ (numbersTo (pagesFor found.length size)).flatMap (fun n => (shown n).posts) = found := by
  intro found
  have hfound : found.length < 2 ^ 53 := by
    refine Nat.lt_of_le_of_lt ?_ hposts
    simp only [found, Post.search]
    split
    · exact le_refl _
    · exact List.length_filter_le ..
  refine ⟨fun page => pageOf found page size, fun page => ⟨?_, ?_⟩, posts_pages found hsize⟩
  · exact paginate_eq hfound hsize
  · exact isPage_pageOf hfound hsize page

/-- Three posts are on two pages, the first of which is full. One post on a page of a size that is
beyond the doubles is there, the number of its page is not. -/
theorem pages_partition_tiled :
    let post (id : Text) : Post := ⟨id, "", "", "", "", default⟩
    let posts := [post "1", post "2", post "3"]
    let size : Int := 2 * unitsPerOne
    (∃ first second, search posts "" 1 2 = .ok first ∧ search posts "" 2 2 = .ok second
      ∧ first.posts ++ second.posts = posts ∧ first.posts.length = 2
      ∧ first.numbers = .ok [1, 2] ∧ first.hasNext = true ∧ second.hasNext = false)
    ∧ ∃ l, search [post "1"] "" 1 size = .ok l ∧ l.posts = [post "1"] ∧ l.page = 1
      ∧ l.pageCount = 1 ∧ l.numbers = .ok [] := by
  intro post posts size
  have hall (posts : List Post) : Post.search posts "" = posts := rfl
  constructor
  · have htwo : pagesFor posts.length 2 = 2 := by
      have hle : pagesFor posts.length 2 ≤ 2 := (pagesFor_le_iff (by decide) (by decide)).mpr
        (by decide)
      have hnot : ¬ pagesFor posts.length 2 ≤ 1 := fun h =>
        absurd ((pagesFor_le_iff (by decide) (by decide)).mp h) (by decide)
      omega
    obtain ⟨shown, hshown, htiled⟩ :=
      pages_partition (by decide : posts.length < 2 ^ 53) (by decide : (1 : Int) ≤ 2) ""
    obtain ⟨hfirst, hpage⟩ := hshown 1
    obtain ⟨hsecond, hpage'⟩ := hshown 2
    have hnumbers : numbersTo 2 = [1, 2] := rfl
    rw [hall, htwo, hnumbers] at htiled
    rw [hall] at hpage hpage'
    have hcount : (shown 1).pageCount = 2 := hpage.count.trans htwo
    have hcount' : (shown 2).pageCount = 2 := hpage'.count.trans htwo
    have hone : (shown 1).page = 1 := hpage.clamped.trans (by rw [hcount]; rfl)
    have hlast : (shown 2).page = 2 := hpage'.clamped.trans (by rw [hcount']; rfl)
    have hbefore : (shown 1).page < (shown 1).pageCount := by omega
    have hunits : ¬ (posts.length : Int) * (2 * unitsPerOne) ≤ 2 := by decide +kernel
    refine ⟨shown 1, shown 2, hfirst, hsecond, by simpa using htiled, ?_, ?_, ?_, ?_⟩
    · exact_mod_cast hpage.full hbefore
    · rw [hpage.numbers, if_neg hunits, hcount, hnumbers]
    · exact decide_eq_true hbefore
    · exact hpage'.last_iff.mpr (hlast.trans hcount'.symm)
  · have hsize : 1 ≤ size := by decide +kernel
    have hone : pagesFor [post "1"].length size = 1 := pagesFor_of_le hsize hsize
    obtain ⟨shown, hshown, htiled⟩ :=
      pages_partition (by decide : [post "1"].length < 2 ^ 53) hsize ""
    obtain ⟨hsearch, hpage⟩ := hshown 1
    rw [hall, hone] at htiled
    rw [hall] at hpage
    have hcount : (shown 1).pageCount = 1 := hpage.count.trans hone
    have hvanishes : ([post "1"].length : Int) * (2 * unitsPerOne) ≤ size := le_of_eq (one_mul _)
    refine ⟨shown 1, hsearch, ?_, ?_, hcount, ?_⟩
    · exact (List.append_nil _).symm.trans htiled
    · rw [hpage.clamped, hcount]
      rfl
    · rw [hpage.numbers, if_pos hvanishes]

end Listing

end CivicSite
