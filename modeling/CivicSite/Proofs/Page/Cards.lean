import CivicSite.Page.Preview
import CivicSite.Proofs.Page.Articles

/-!
# Cards on a page

Posts are shown as cards on three pages: the published listing, the preview of a website and the
preview of a page of the listing. On each of them the cards are read from the body alone, as the
styles in the head of a preview may be any text. What is read are the articles with the class of a
card; they are the cards that were put there (`Page.cards_blog`, `Page.cards_listingPreview`), and
those of each blog in the preview of a website, with a note of how many more posts there are.

A body is taken apart from left to right: a part of it adds certain elements to whatever comes after
it (`Markup.Holds`), and most parts add none (`Markup.Plain`).
-/

namespace CivicSite

open Markup

/-! ## The reader -/

/-- Whether an element with the attributes is of a class. -/
def isOfClass (style : Text) (attributes : List Attribute) : Bool :=
  Snapshot.value attributes "class" == style

namespace Text

/-- The elements of a name and a class in the body of a page. -/
def styled (name style page : Text) : List Element :=
  (elements name (body page)).filter fun e => isOfClass style e.attributes

/-- The cards of a page. -/
def cards (page : Text) : List Element := styled "article" "blog-post" page

/-- The notes on a page that say how many more posts there are. -/
def notes (page : Text) : List Text := (styled "p" "preview-more" page).map Element.text

end Text

/-! ## Parts of a body -/

namespace Markup

variable {α : Type} {name style : Text}

/-- The elements of a name and a class in markup. -/
def styled (name style : Text) (m : Markup) : List (List Attribute × Markup) :=
  (m.elementsFrom name none).filter fun e => isOfClass style e.1

/-- A part of a page that holds certain elements of a name and a class, whatever comes after it. -/
structure Holds (name style : Text) (m : Markup) (es : List (List Attribute × Markup)) : Prop where
  sound : m.Sound
  styled_append : ∀ rest, styled name style (m ++ rest) = es ++ styled name style rest

variable {m n : Markup} {es fs : List (List Attribute × Markup)}

theorem holds_nil : Holds name style [] [] := ⟨List.forall_mem_nil _, fun _ => rfl⟩

theorem Holds.append (hm : Holds name style m es) (hn : Holds name style n fs) :
    Holds name style (m ++ n) (es ++ fs) where
  sound := List.forall_mem_append.mpr ⟨hm.sound, hn.sound⟩
  styled_append rest := by
    rw [List.append_assoc, hm.styled_append, hn.styled_append, List.append_assoc]

theorem holds_flatMap {l : List α} {f : α → Markup} {g : α → List (List Attribute × Markup)}
    (h : ∀ a ∈ l, Holds name style (f a) (g a)) :
    Holds name style (l.flatMap f) (l.flatMap g) := by
  induction l with
  | nil => exact holds_nil
  | cons a l ih =>
      obtain ⟨ha, hl⟩ := List.forall_mem_cons.mp h
      exact ha.append (ih hl)

theorem holds_nothing {l : List α} {f : α → Markup} (h : ∀ a ∈ l, Holds name style (f a) []) :
    Holds name style (l.flatMap f) [] := by
  have hall := holds_flatMap h
  rwa [List.flatMap_eq_nil_iff.mpr fun _ _ => rfl] at hall

/-- A part that opens no element of the name holds none of the class. -/
theorem Among.holds {names : List Text} (hm : Among names m) (hname : name ∉ names) :
    Holds name style m [] where
  sound := hm.sound
  styled_append rest := by rw [styled, hm.elementsFrom hname]; rfl

theorem holds_of_all (hsound : m.all Token.isSound = true)
    (h : ∀ rest, styled name style (m ++ rest) = styled name style rest) :
    Holds name style m [] := ⟨List.all_eq_true.mp hsound, h⟩

theorem Sound.tidy (h : m.Sound) : m.Tidy := by
  intro t ht
  have hsound := h t ht
  cases t with
  | stop name => exact (Bool.and_eq_true_iff.mp hsound).1
  | start | empty | text | reference | layout | verbatim =>
      exact (Bool.and_eq_true_iff.mp (show Token.isLegible _ = true from hsound)).1

theorem Sound.line (hm : m.Sound) (depth : Nat) : Sound (line depth m) := by
  have hblanks : (Token.layout (List.replicate (4 * depth) (.char ' '))).isSound = true := by
    simp [Token.isSound, Token.isLegible, Token.isTidy, Token.isPlain, Token.opening?]
  have hindent : Sound [.layout (List.replicate (4 * depth) (.char ' '))] :=
    List.forall_mem_singleton.mpr hblanks
  have hbreak : Sound [.layout "\n"] := List.forall_mem_singleton.mpr rfl
  exact List.forall_mem_append.mpr ⟨List.forall_mem_append.mpr ⟨hindent, hm⟩, hbreak⟩

/-- **What a body holds is read back.** -/
theorem Holds.styled_body {page : Text} (hm : Holds name style m es)
    (hbody : Text.body page = render m) :
    Text.styled name style page = es.map Element.ofMarkup := by
  have hes : styled name style m = es := by
    have happend := hm.styled_append []
    rwa [List.append_nil, styled, styled, elementsFrom, List.filter_nil, List.append_nil] at happend
  rw [Text.styled, hbody, Text.elements_render hm.sound, List.filter_map, ← hes]
  rfl

end Markup

/-- A part of a page that holds neither a card nor a note. -/
structure Markup.Plain (m : Markup) : Prop where
  cardless : Holds "article" "blog-post" m []
  noteless : Holds "p" "preview-more" m []

namespace Markup

variable {m n : Markup}

theorem plain_of_all (hsound : m.all Token.isSound = true)
    (hcardless : ∀ rest,
      styled "article" "blog-post" (m ++ rest) = styled "article" "blog-post" rest)
    (hnoteless : ∀ rest, styled "p" "preview-more" (m ++ rest) = styled "p" "preview-more" rest) :
    Plain m :=
  ⟨⟨List.all_eq_true.mp hsound, hcardless⟩, ⟨List.all_eq_true.mp hsound, hnoteless⟩⟩

theorem plain_nil : Plain [] := ⟨holds_nil, holds_nil⟩

theorem Plain.append (hm : Plain m) (hn : Plain n) : Plain (m ++ n) :=
  ⟨hm.cardless.append hn.cardless, hm.noteless.append hn.noteless⟩

theorem plain_flatMap {α : Type} {l : List α} {f : α → Markup} (h : ∀ a ∈ l, Plain (f a)) :
    Plain (l.flatMap f) :=
  ⟨holds_nothing fun a ha => (h a ha).cardless, holds_nothing fun a ha => (h a ha).noteless⟩

end Markup

/-- A plain part that opens no element of the frame. -/
structure Markup.Quiet (m : Markup) : Prop extends Plain m where
  inner : m.Inner

namespace Markup

variable {m n : Markup}

theorem quiet_of_all (hinner : m.all isInner = true) (hsound : m.all Token.isSound = true)
    (hcardless : ∀ rest,
      styled "article" "blog-post" (m ++ rest) = styled "article" "blog-post" rest)
    (hnoteless : ∀ rest, styled "p" "preview-more" (m ++ rest) = styled "p" "preview-more" rest) :
    Quiet m :=
  ⟨plain_of_all hsound hcardless hnoteless, inner_of_all hinner⟩

theorem Quiet.append (hm : Quiet m) (hn : Quiet n) : Quiet (m ++ n) :=
  ⟨hm.toPlain.append hn.toPlain, hm.inner.append hn.inner⟩

theorem quiet_flatMap {α : Type} {l : List α} {f : α → Markup} (h : ∀ a ∈ l, Quiet (f a)) :
    Quiet (l.flatMap f) :=
  ⟨plain_flatMap fun a ha => (h a ha).toPlain, inner_flatMap fun a ha => (h a ha).inner⟩

end Markup

/-! ## Blocks -/

namespace Block

/-- The element that a card is. -/
def cardElement (c : Card) : List Attribute × Markup := (cardAttributes c, cardInner c)

theorem holds_cards (cs : List Card) (depth : Nat) (empty : Text) :
    Holds "article" "blog-post" (cards cs depth empty) (cs.map cardElement) where
  sound := by
    unfold cards
    split
    · exact Sound.line (List.all_eq_true.mp rfl) depth
    · exact (among_flatMap fun c _ => among_card c).sound
  styled_append rest := by
    rw [styled, elementsFrom_cards, List.filter_append]
    refine congrArg (· ++ _) (List.filter_eq_self.mpr fun e he => ?_)
    obtain ⟨c, -, rfl⟩ := List.mem_map.mp he
    rfl

theorem noteless_cards (cs : List Card) (empty : Text) :
    Holds "p" "preview-more" (cards cs 3 empty) [] := by
  unfold cards
  split
  · exact holds_of_all rfl fun rest => rfl
  · exact holds_nothing fun c _ => holds_of_all rfl fun rest => rfl

theorem plain_navigation (links : List NavLink) (home : Text) : Plain (navigation links home) := by
  unfold navigation
  split
  · exact plain_nil
  · refine Plain.append (Plain.append (Plain.append ?_ ?_) (plain_flatMap fun link _ => ?_)) ?_
    · exact plain_of_all rfl (fun _ => rfl) (fun _ => rfl)
    · split <;> exact plain_of_all rfl (fun _ => rfl) (fun _ => rfl)
    · exact plain_of_all rfl (fun _ => rfl) (fun _ => rfl)
    · exact plain_of_all rfl (fun _ => rfl) (fun _ => rfl)

theorem plain_header (v : Section) (home : Text) : Plain (header v home) := by
  refine Plain.append (Plain.append (Plain.append ?_ (plain_navigation v.nav home)) ?_) ?_
  all_goals exact plain_of_all rfl (fun _ => rfl) (fun _ => rfl)

theorem plain_prose (v : Section) : Plain (prose v) := by
  unfold prose
  cases v.anchor <;> exact plain_of_all rfl (fun _ => rfl) (fun _ => rfl)

end Block

namespace Page

/-! ## The preview of a website -/

/-- The note that says how many more posts there are, if there are any. -/
def moreNote (remaining : Nat) : Text := "... și încă " ++ toString remaining ++ " postări"

def moreNotes (remaining : Nat) : List Text := if remaining = 0 then [] else [moreNote remaining]

/-- A note as an element. -/
def noteElement (s : Text) : List Attribute × Markup :=
  ([attr "class" "preview-more"], [.text s])

variable {s : Settlement} {teasers : List Card} {remaining : Nat}

theorem plain_previewBlock (v : Section) (h : v.kind ≠ .blog) :
    Plain (previewBlock s teasers remaining v) := by
  unfold previewBlock
  cases hkind : v.kind with
  | header => exact Block.plain_header v ""
  | hero | map | footer => exact plain_of_all rfl (fun _ => rfl) (fun _ => rfl)
  | about | services | contact => exact Block.plain_prose v
  | blog => exact absurd hkind h

/-- The blog of a preview is its cards and the note between plain parts. -/
theorem holds_previewBlog {name style : Text} {es fs : List (List Attribute × Markup)}
    (hplain : ∀ m : Markup, m.Plain → Holds name style m [])
    (hcards : Holds name style (Block.cards teasers 3 "Nu există postări încă.") es)
    (hnote : Holds name style (if remaining = 0 then [] else
      line 3 (textElement "p" [attr "class" "preview-more"] (moreNote remaining))) fs)
    (v : Section) : Holds name style (previewBlog v teasers remaining) (es ++ fs) := by
  have hopen : Plain (line 1 [.start "section" [Block.classOf "blog" v, Block.idOf v]] ++
      line 2 (textElement "h2" [] v.title) ++
      line 2 [.start "div" [attr "class" "blog-posts"]]) :=
    plain_of_all rfl (fun _ => rfl) (fun _ => rfl)
  have hdiv : Plain (line 2 [.stop "div"]) := plain_of_all rfl (fun _ => rfl) (fun _ => rfl)
  have hsection : Plain (line 1 [.stop "section"]) :=
    plain_of_all rfl (fun _ => rfl) (fun _ => rfl)
  have hblog := ((((hplain _ hopen).append hcards).append hnote).append (hplain _ hdiv)).append
    (hplain _ hsection)
  simp only [List.nil_append, List.append_nil] at hblog
  exact hblog

theorem cards_previewBlog (v : Section) :
    Holds "article" "blog-post" (previewBlog v teasers remaining)
      (teasers.map Block.cardElement) := by
  have hnote : Holds "article" "blog-post" (if remaining = 0 then [] else
      line 3 (textElement "p" [attr "class" "preview-more"] (moreNote remaining))) [] := by
    split
    · exact holds_nil
    · exact holds_of_all rfl fun _ => rfl
  have hblog := holds_previewBlog (fun _ h => h.cardless) (Block.holds_cards teasers 3 _) hnote v
  rwa [List.append_nil] at hblog

theorem notes_previewBlog (v : Section) :
    Holds "p" "preview-more" (previewBlog v teasers remaining)
      ((moreNotes remaining).map noteElement) := by
  refine holds_previewBlog (fun _ h => h.noteless) (Block.noteless_cards teasers _) ?_ v
  unfold moreNotes
  split
  · exact holds_nil
  · exact ⟨List.all_eq_true.mp rfl, fun _ => rfl⟩

/-- What a preview holds is what the blogs in it hold. -/
theorem holds_previewInside {name style : Text} {es : List (List Attribute × Markup)}
    (hplain : ∀ m : Markup, m.Plain → Holds name style m []) {posts : List Post}
    (hblog : ∀ v : Section, Holds name style
      (previewBlog v (Card.ofPosts ((Post.sorted posts).take teaserCount))
        ((Post.sorted posts).length - ((Post.sorted posts).take teaserCount).length)) es)
    (views : List Section) :
    Holds name style (previewInside s views posts)
      ((views.map Section.kind).flatMap fun k => if k = .blog then es else []) := by
  unfold previewInside
  cases views with
  | nil => exact hplain _ (plain_of_all rfl (fun _ => rfl) (fun _ => rfl))
  | cons v rest =>
      rw [List.isEmpty_cons, if_neg Bool.false_ne_true, List.flatMap_map]
      refine holds_flatMap fun v _ => ?_
      by_cases hkind : v.kind = .blog
      · rw [if_pos hkind, previewBlock, hkind]
        exact hblog v
      · rw [if_neg hkind]
        exact hplain _ (plain_previewBlock v hkind)

/-- The body of a preview holds what is in its frame. -/
theorem styled_preview {name style : Text} {es : List (List Attribute × Markup)}
    (hplain : ∀ m : Markup, m.Plain → Holds name style m []) {views : List Section}
    {posts : List Post} (hinside : Holds name style (previewInside s views posts) es)
    (css : Text) (screen : Screen) :
    Text.styled name style (render (preview s views posts css screen))
      = es.map Element.ofMarkup := by
  have hopen : Plain ([.start "body" [attr "class" ("preview preview-" ++ screen.name)],
      .layout "\n"] ++ line 0 [.start "div" [
        attr "class" "preview-frame", attr "style" ("max-width: " ++ screen.width ++ ";")]]) :=
    plain_of_all (by cases screen <;> rfl) (fun _ => rfl) (fun _ => rfl)
  have hclose : Plain (line 0 [.stop "div"] ++ line 0 [.stop "body"] ++ [.stop "html"]) :=
    plain_of_all rfl (fun _ => rfl) (fun _ => rfl)
  have hbody := ((hplain _ hopen).append hinside).append (hplain _ hclose)
  rw [List.nil_append, List.append_nil] at hbody
  exact hbody.styled_body body_preview

/-! ## The published listing -/

theorem plain_top (frame : Frame) (views : List Section) : Plain (top frame views) := by
  unfold top
  split
  · exact Block.plain_header _ _
  · exact plain_nil

theorem plain_bottom (views : List Section) : Plain (bottom views) := by
  unfold bottom
  split
  · exact plain_of_all rfl (fun _ => rfl) (fun _ => rfl)
  · exact plain_nil

theorem plain_foot (frame : Frame) : Plain (foot frame) := by
  unfold foot
  cases frame.hasMap <;> exact plain_of_all rfl (fun _ => rfl) (fun _ => rfl)

/-- **The cards of the listing.** -/
theorem cards_blog (settlement : Text) (views : List Section) (posts : List Card) :
    Text.cards (render (blog settlement views posts))
      = (posts.map Block.cardElement).map Element.ofMarkup := by
  let cards := Block.cards posts 4 "Nu există postări încă."
  obtain ⟨frame, hblog⟩ : ∃ frame, blog settlement views posts
      = framed frame views (listingTop views ++ cards ++ listingBottom) :=
    ⟨_, by simp only [blog, listingTop, listingBottom, cards, List.append_assoc]; rfl⟩
  have hinner : Inner (listingTop views ++ cards ++ listingBottom) :=
    ((inner_of_all rfl).append (Block.inner_cards posts 4 _)).append (inner_of_all rfl)
  have hlisting : Holds "article" "blog-post" (listingTop views ++ cards ++ listingBottom)
      (posts.map Block.cardElement) := by
    have htop : Plain (listingTop views) := plain_of_all rfl (fun _ => rfl) (fun _ => rfl)
    have hbottom : Plain listingBottom := plain_of_all rfl (fun _ => rfl) (fun _ => rfl)
    have hcards : Holds "article" "blog-post" cards (posts.map Block.cardElement) :=
      Block.holds_cards posts 4 _
    have hall := (htop.cardless.append hcards).append hbottom.cardless
    rwa [List.nil_append, List.append_nil] at hall
  have hopen : Plain [.start "body" [attr "class" ("page-" ++ frame.name)], .layout "\n"] :=
    plain_of_all rfl (fun _ => rfl) (fun _ => rfl)
  have hbody := hopen.cardless.append ((((plain_top frame views).cardless.append hlisting).append
    (plain_bottom views).cardless).append (plain_foot frame).cardless)
  simp only [List.nil_append, List.append_nil] at hbody
  refine hbody.styled_body ?_
  rw [hblog, framed_eq]
  exact body_render (head frame) rfl (tidy_inside hinner) (countOf_inside hinner (by decide))

/-! ## The preview of the listing -/

/-- What comes before the body of a page of the listing. -/
def listingHead : Markup :=
  doctype ++ line 1 (textElement "title" [] blogTitle) ++ previewStyles ++ line 0 [.stop "head"]

/-- What comes before the cards of a page of the listing. -/
def listingOpen (query : Text) (l : Listing) : Markup :=
  line 0 [.start "main" [attr "class" "blog-page"]] ++
  line 1 [.start "section" [attr "class" "blog-listing"]] ++
  line 2 (textElement "h2" [] blogTitle) ++
  (if query.isEmpty then []
  else line 2 (textElement "p" [attr "class" "blog-query"]
    ("Rezultate pentru „" ++ query ++ "”: " ++ toString l.total))) ++
  line 2 [.start "div" [attr "class" "blog-posts"]]

/-- What comes after the cards of a page of the listing. -/
def listingClose (l : Listing) (numbers : List Int) : Markup :=
  line 2 [.stop "div"] ++
  line 2 [.start "div" [attr "class" "pagination"]] ++
  turnButton "prev" l.hasPrevious [.reference "lsaquo", .text " Înapoi"] ++
  numbers.flatMap (pageButton l.page) ++
  turnButton "next" l.hasNext [.text "Înainte ", .reference "rsaquo"] ++
  line 2 [.stop "div"] ++
  line 1 [.stop "section"] ++
  line 0 [.stop "main"] ++
  line 0 [.stop "body"] ++
  [.stop "html"]

theorem listingPreview_eq (query : Text) (l : Listing) (numbers : List Int) :
    listingPreview query l numbers = listingHead
      ++ (line 0 [.start "body" [attr "class" "preview page-blog"]]
        ++ (listingOpen query l ++ Block.cards (Card.ofPosts l.posts) 3 "Nicio postare găsită."
          ++ listingClose l numbers)) := by
  unfold listingPreview listingHead listingOpen listingClose
  simp only [List.append_assoc]

theorem quiet_listingOpen (query : Text) (l : Listing) : (listingOpen query l).Quiet := by
  refine Quiet.append (Quiet.append ?_ ?_) ?_
  · exact quiet_of_all rfl rfl (fun _ => rfl) (fun _ => rfl)
  · split <;> exact quiet_of_all rfl rfl (fun _ => rfl) (fun _ => rfl)
  · exact quiet_of_all rfl rfl (fun _ => rfl) (fun _ => rfl)

theorem quiet_listingClose (l : Listing) (numbers : List Int) :
    (listingClose l numbers).Quiet := by
  have hprevious : Quiet (turnButton "prev" l.hasPrevious
      [.reference "lsaquo", .text " Înapoi"]) := by
    cases l.hasPrevious <;> exact quiet_of_all rfl rfl (fun _ => rfl) (fun _ => rfl)
  have hnext : Quiet (turnButton "next" l.hasNext [.text "Înainte ", .reference "rsaquo"]) := by
    cases l.hasNext <;> exact quiet_of_all rfl rfl (fun _ => rfl) (fun _ => rfl)
  have hnumbers : Quiet (numbers.flatMap (pageButton l.page)) :=
    quiet_flatMap fun n _ => quiet_of_all rfl rfl (fun _ => rfl) (fun _ => rfl)
  have hopen : Quiet (line 2 [.stop "div"]
      ++ line 2 [.start "div" [attr "class" "pagination"]]) :=
    quiet_of_all rfl rfl (fun _ => rfl) (fun _ => rfl)
  have hclose : Quiet (line 2 [.stop "div"] ++ (line 1 [.stop "section"]
      ++ (line 0 [.stop "main"] ++ (line 0 [.stop "body"] ++ [.stop "html"])))) :=
    quiet_of_all rfl rfl (fun _ => rfl) (fun _ => rfl)
  have hall := (((hopen.append hprevious).append hnumbers).append hnext).append hclose
  simp only [← List.append_assoc] at hall
  exact hall

/-- **The cards of a page of the listing.** -/
theorem cards_listingPreview (query : Text) (l : Listing) (numbers : List Int) :
    Text.cards (render (listingPreview query l numbers))
      = ((Card.ofPosts l.posts).map Block.cardElement).map Element.ofMarkup := by
  have hbefore := quiet_listingOpen query l
  have hafter := quiet_listingClose l numbers
  have hinner : Inner (listingOpen query l
      ++ Block.cards (Card.ofPosts l.posts) 3 "Nicio postare găsită." ++ listingClose l numbers) :=
    (hbefore.inner.append (Block.inner_cards _ 3 _)).append hafter.inner
  have hopen : Plain [.start "body" [attr "class" "preview page-blog"], .layout "\n"] :=
    plain_of_all rfl (fun _ => rfl) (fun _ => rfl)
  have hbody := hopen.cardless.append ((hbefore.cardless.append
    (Block.holds_cards (Card.ofPosts l.posts) 3 "Nicio postare găsită.")).append hafter.cardless)
  simp only [List.nil_append, List.append_nil] at hbody
  refine hbody.styled_body ?_
  rw [listingPreview_eq]
  exact body_render listingHead rfl hinner.tidy (hinner.outside "body" (by decide))

end Page

end CivicSite
