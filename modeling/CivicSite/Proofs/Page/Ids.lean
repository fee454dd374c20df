import CivicSite.Backend
import CivicSite.Proofs.Page.Articles
import CivicSite.Proofs.Text.Percent

/-!
# Ids in links

The id of a settlement is the last segment of the address that the backend is asked at, and the id
of a post is the parameter of the link on its card. Both are percent encoded, the one without any
reserved characters, the other with slashes. Whatever the ids are, they are read back from there as
they were, provided that they have bytes at all; nothing is asked for a settlement without, and
there is no listing with such a post (`ids_survive_links`).

A link leads to the post with its id among the snapshots of the page for single posts. That those
are all read back takes contents that are closed: one that is not may take later snapshots with it.
-/

namespace CivicSite

open Markup

/-! ## Settlements -/

namespace Backend

/-- The address of a backend is the given one without the slashes at its end. -/
theorem make_text (url : Text) (token timeout : Json) :
    ∃ base slashes, url = base ++ slashes ∧ (∀ c ∈ slashes, c = .char '/')
      ∧ (∀ c ∈ base.getLast?, c ≠ .char '/')
      ∧ make (.text url) token timeout = .ok ⟨base, token, timeout⟩ := by
  obtain ⟨slashes, hsplit, hslashes, hlast⟩ := Text.exists_dropEndWhile (· == .char '/') url
  refine ⟨_, slashes, hsplit, fun c hc => ?_, fun c hc => ?_, rfl⟩
  · exact beq_iff_eq.mp (hslashes c hc)
  · exact beq_eq_false_iff_ne.mp (hlast c hc)

theorem url_settlementQuery (b : Backend) (id : Text) : (b.settlementQuery id).url
    = b.baseUrl ++ "/settlements/" ++ Text.percentEncode id fun _ => false := by
  have hpath : ("/" ++ "settlements/" : Text) = "/settlements/" := rfl
  rw [settlementQuery, query, List.append_assoc, List.append_assoc, ← hpath, List.append_assoc]

theorem sent_exchange (n : Network) (r : Request) : (n.exchange r).2.sent = r :: n.sent := by
  unfold Network.exchange
  cases n.answers <;> rfl

/-- The question that is sent for a settlement whose id has bytes. -/
theorem sent_getSettlement {id : Text} (h : id.isEncodable = true) (b : Backend) (n : Network) :
    (b.getSettlement id n).2.sent = .query (b.settlementQuery id) :: n.sent := by
  have hask : (!id.isEncodable) = false := by rw [h, Bool.not_true]
  rw [getSettlement, hask, if_neg Bool.false_ne_true]
  exact sent_exchange n _

theorem getSettlement_of_not_isEncodable {id : Text} (h : id.isEncodable = false) (b : Backend)
    (n : Network) : b.getSettlement id n = (.error .unencodable, n) := by
  rw [getSettlement, h, Bool.not_false, if_pos rfl]

/-- A segment of an address that is read as an id. -/
structure IsSegment (id segment : Text) : Prop where
  coded : Text.IsCoded Text.isUnreserved segment
  decoded : Text.percentDecode? segment = some id

theorem isSegment_percentEncode {id : Text} (h : id.isEncodable = true) :
    IsSegment id (Text.percentEncode id fun _ => false) where
  coded := by
    have hcoded := Text.isCoded_percentEncode (fun _ => false) id
    simpa only [Bool.or_false] using hcoded
  decoded := Text.percentDecode?_percentEncode rfl h

end Backend

/-! ## Posts -/

/-- A parameter of the link of an article that is read as the id of its post. -/
structure Article.IsTarget (a : Article) (parameter : Text) : Prop where
  link : a.links = ["post.html?id=" ++ parameter]
  coded : Text.IsCoded (fun c => Text.isUnreserved c || c == '/') parameter
  /-- No part of the parameter ends it, or the attribute that it is in. -/
  plain : ∀ c ∈ parameter, c ∉ ("&#+\"'" : Text)
  decoded : Text.percentDecode? parameter = some a.id

theorem Article.isTarget_ofPost {p : Post} (h : p.id.isEncodable = true) :
    (Article.ofPost p).IsTarget (Text.percentEncode p.id (· == '/')) where
  link := rfl
  coded := Text.isCoded_percentEncode (· == '/') p.id
  plain c hc hmem := by
    obtain ⟨a, rfl, ha⟩ := Text.mem_percentEncode hc
    have hnone : ∀ d ∈ ("&#+\"'" : Text),
        d.char?.any (fun a => Text.isUnreserved a || a == '/' || a == '%') = false := by decide
    exact absurd (ha.symm.trans (hnone _ hmem)) (by decide)
  decoded := Text.percentDecode?_percentEncode rfl h

namespace Page

/-- Snapshots whose contents are closed are read back, whatever comes after them. -/
theorem snapshotsFrom_of_forall_isClosed {posts : List Post} (h : ∀ p ∈ posts, p.content.IsClosed)
    (rest : Text) :
    snapshotsFrom .outside
        (Text.lexemes (render ((posts.map Card.ofPost).flatMap snapshot) ++ rest))
      = posts.map Snapshot.ofPost ++ snapshotsFrom .outside rest.lexemes := by
  induction posts with
  | nil => rfl
  | cons p posts ih =>
      obtain ⟨hp, hlater⟩ := List.forall_mem_cons.mp h
      rw [List.map_cons, List.flatMap_cons, render_append, List.append_assoc,
        snapshotsFrom_snapshot_of_isClosed hp, ih hlater]
      rfl

/-- **As long as the contents are closed, the snapshots of a page are the posts.** -/
theorem take_snapshots_post {posts : List Post} {k : Nat}
    (h : ∀ p ∈ posts.take k, p.content.IsClosed) (settlement : Text) (views : List Section) :
    (render (post settlement views (posts.map Card.ofPost))).snapshots.take k
      = (posts.take k).map Snapshot.ofPost := by
  obtain ⟨before, after, hbefore, hafter, hpost⟩ :=
    post_split settlement views (posts.map Card.ofPost)
  have hend : snapshotsFrom .outside (Text.lexemes (render after)) = [] := by
    have hread := hafter.snapshotsFrom []
    rw [List.append_nil] at hread
    exact hread
  let later := render (((posts.drop k).map Card.ofPost).flatMap snapshot) ++ render after
  have hsplit : render ((posts.map Card.ofPost).flatMap snapshot ++ after)
      = render (((posts.take k).map Card.ofPost).flatMap snapshot) ++ later := by
    rw [← List.append_assoc, ← render_append, ← List.flatMap_append, ← List.map_append,
      List.take_append_drop, render_append]
  have hread : (render (post settlement views (posts.map Card.ofPost))).snapshots
      = (posts.take k).map Snapshot.ofPost ++ snapshotsFrom .outside later.lexemes := by
    rw [hpost, render_append, hsplit, Text.snapshots, hbefore.snapshotsFrom,
      snapshotsFrom_of_forall_isClosed h]
  rcases Nat.le_total k posts.length with hk | hk
  · rw [hread, List.take_left']
    rw [List.length_map, List.length_take, Nat.min_eq_left hk]
  · have hlater : later = render after := by
      simp only [later, List.drop_eq_nil_of_le hk]
      rfl
    rw [hread, hlater, hend, List.append_nil, List.take_of_length_le]
    rw [List.length_map, List.length_take]
    exact Nat.min_le_left k _

end Page

/-- **Ids are read back from the addresses that they are part of**, and the link of a post leads to
its snapshot, up to the first post with a content that is not closed. -/
theorem ids_survive_links (url : Text) (token timeout : Json) (c : SiteContent) (o : SiteOptions) :
    (∃ base slashes b, url = base ++ slashes ∧ (∀ c ∈ slashes, c = .char '/')
      ∧ (∀ c ∈ base.getLast?, c ≠ .char '/') ∧ Backend.make (.text url) token timeout = .ok b
      ∧ (∀ id n, id.isEncodable = true →
        ∃ q segment, (b.getSettlement id n).2.sent = .query q :: n.sent
          ∧ q.url = base ++ "/settlements/" ++ segment ∧ Backend.IsSegment id segment)
      ∧ ∀ id n, id.isEncodable = false → b.getSettlement id n = (.error .unencodable, n)) ∧
    ((∃ page, Site.blogListing c o = .ok page) ↔ ∀ p ∈ c.posts, p.id.isEncodable = true) ∧
      ∀ page, Site.blogListing c o = .ok page →
        page.articles.map Article.id = (Post.sorted c.posts).map Post.id
        ∧ (∀ a ∈ page.articles, ∃ parameter, a.IsTarget parameter)
        ∧ ∀ k, (∀ p ∈ (Post.sorted c.posts).take k, p.content.IsClosed) →
          ((Site.postPage c o).snapshots.take k).map Snapshot.id
            = (page.articles.take k).map Article.id
          ∧ ∀ a ∈ page.articles.take k, ∀ parameter, a.IsTarget parameter →
            ∃ s ∈ (Site.postPage c o).snapshots, Text.percentDecode? parameter = some s.id := by
  refine ⟨?_, Site.exists_blogListing_iff c o, fun page hpage => ?_⟩
  · obtain ⟨base, slashes, hsplit, hslashes, hlast, hmake⟩ := Backend.make_text url token timeout
    refine ⟨base, slashes, _, hsplit, hslashes, hlast, hmake, fun id n hid => ?_,
      fun id n hid => ?_⟩
    · exact ⟨_, _, Backend.sent_getSettlement hid _ n, Backend.url_settlementQuery _ id,
        Backend.isSegment_percentEncode hid⟩
    · exact Backend.getSettlement_of_not_isEncodable hid _ n
  · obtain ⟨hids, rfl⟩ := Site.blogListing_eq_ok_iff.mp hpage
    rw [Site.articles_blogPage]
    refine ⟨by rw [List.map_map]; rfl, fun a ha => ?_, fun k hclosed => ?_⟩
    · obtain ⟨p, hp, rfl⟩ := List.mem_map.mp ha
      exact ⟨_, Article.isTarget_ofPost (hids p ((Post.sorted_perm c.posts).mem_iff.mp hp))⟩
    · have hsnapshots : (Site.postPage c o).snapshots.take k
          = ((Post.sorted c.posts).take k).map Snapshot.ofPost :=
        Page.take_snapshots_post hclosed _ _
      rw [hsnapshots, ← List.map_take, List.map_map, List.map_map]
      refine ⟨rfl, fun a ha parameter hparameter => ?_⟩
      obtain ⟨p, hp, rfl⟩ := List.mem_map.mp ha
      have hmem : Snapshot.ofPost p ∈ (Site.postPage c o).snapshots.take k := by
        rw [hsnapshots]
        exact List.mem_map_of_mem hp
      exact ⟨_, List.mem_of_mem_take hmem, hparameter.decoded⟩

end CivicSite
