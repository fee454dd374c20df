import CivicSite.Proofs.Page.Element
import CivicSite.Proofs.Page.Links
import CivicSite.Proofs.Post.Order

/-!
# Snapshots

The page that shows one post holds all posts as they were when it was published, each in a template
element, for readers who cannot reach the backend. The content of a post is the one text that is
written there as it is. It stays within its template, where nothing of it is shown or run, if its
own tags say so: it ends in no tag and no comment, no template ends in it that has not begun in it,
and none that has begun in it is left open (`Text.IsClosed`).

That is also what it takes for the posts to be read back from the page: the snapshots that a reader
finds are the posts, in order and with all they have, just if every content is closed
(`Site.snapshots_postPage`). One that is not ends its own snapshot early, or goes on in what
comes after it.
-/

namespace CivicSite

open Markup

/-! ## Templates -/

/-- Whether a name is that of template elements. -/
def Text.isTemplate (name : Text) : Bool := name.caseless == "template"

/-- Whether a part of a page starts or ends a template. -/
def Lexeme.isTemplate (isEnd : Bool) : Lexeme → Bool
  | tag t _ => t.isEnd == isEnd && t.name.isTemplate
  | _ => false

/-- How many templates are open after a part of a page, if one is left that it can end. -/
def deepen (depth : Nat) (l : Lexeme) : Option Nat :=
  if l.isTemplate false then some (depth + 1)
  else if l.isTemplate true then
    match depth with
    | 0 => none
    | depth + 1 => some depth
  else some depth

/-- A text that leaves alone what is written around it, where it stands in a template: it ends
between its tags and comments, and the templates that end in it are those that start in it. -/
structure Text.IsClosed (s : Text) : Prop where
  whole : (modeAfter .between s).isWithin = false
  /-- Along the way no template ends that has not started. -/
  sane : ∀ p, p <+: s.lexemes →
    p.countP (Lexeme.isTemplate true) ≤ p.countP (Lexeme.isTemplate false)
  /-- At the end no template is left open. -/
  settled : s.lexemes.countP (Lexeme.isTemplate true) = s.lexemes.countP (Lexeme.isTemplate false)

/-! ## Counting -/

theorem Lexeme.isTemplate_start_or_end (l : Lexeme) :
    (l.isTemplate false = true ∧ l.isTemplate true = false)
      ∨ (l.isTemplate false = false ∧ l.isTemplate true = true)
      ∨ (l.isTemplate false = false ∧ l.isTemplate true = false) := by
  cases l with
  | point | comment => exact .inr (.inr ⟨rfl, rfl⟩)
  | tag t s => cases h : t.isEnd <;> cases hn : t.name.isTemplate <;> simp [isTemplate, h, hn]

theorem deepen_of_start {l : Lexeme} (h : l.isTemplate false = true) (d : Nat) :
    deepen d l = some (d + 1) := if_pos h

theorem deepen_of_end {l : Lexeme} (hs : l.isTemplate false = false) (he : l.isTemplate true = true)
    (d : Nat) : deepen (d + 1) l = some d := by
  simp [deepen, hs, he]

theorem deepen_of_other {l : Lexeme} (hs : l.isTemplate false = false)
    (he : l.isTemplate true = false) (d : Nat) : deepen d l = some d := by
  simp [deepen, hs, he]

/-- A part that leaves no depth ends the template that the reader is in. -/
theorem deepen_eq_none_iff {d : Nat} {l : Lexeme} :
    deepen d l = none ↔ d = 0 ∧ l.isTemplate true = true := by
  rcases l.isTemplate_start_or_end with ⟨hs, he⟩ | ⟨hs, he⟩ | ⟨hs, he⟩
  · simp [deepen_of_start hs, he]
  · cases d with
    | zero => simp [deepen, hs, he]
    | succ d => simp [deepen_of_end hs he]
  · simp [deepen_of_other hs he, he]

/-- What begins a list begins with the head of the list, if it is not empty. -/
theorem forall_prefix_cons_iff {P : List Lexeme → Prop} {l : Lexeme} {ls : List Lexeme} :
    (∀ p, p <+: l :: ls → P p) ↔ P [] ∧ ∀ p, p <+: ls → P (l :: p) := by
  constructor
  · intro h
    exact ⟨h [] List.nil_prefix, fun p hp => h _ (List.cons_prefix_cons.mpr ⟨rfl, hp⟩)⟩
  · rintro ⟨hnil, hcons⟩ p hp
    rcases List.prefix_cons_iff.mp hp with rfl | ⟨q, rfl, hq⟩
    · exact hnil
    · exact hcons q hq

/-- **The depth is kept by counting**: it is there as long as no more templates have ended than were
open and have started. -/
theorem foldlM_deepen_eq_some_iff {ls : List Lexeme} {d d' : Nat} :
    ls.foldlM deepen d = some d' ↔
      (∀ p, p <+: ls →
        p.countP (Lexeme.isTemplate true) ≤ d + p.countP (Lexeme.isTemplate false))
      ∧ d' + ls.countP (Lexeme.isTemplate true) = d + ls.countP (Lexeme.isTemplate false) := by
  induction ls generalizing d with
  | nil =>
      simp only [List.foldlM_nil, List.prefix_nil, forall_eq, List.countP_nil]
      simp [eq_comm]
  | cons l ls ih =>
      rw [List.foldlM_cons, forall_prefix_cons_iff]
      rcases l.isTemplate_start_or_end with ⟨hs, he⟩ | ⟨hs, he⟩ | ⟨hs, he⟩
      · rw [deepen_of_start hs]
        simp only [Option.bind_eq_bind, Option.bind_some, ih, List.countP_cons, hs, he]
        simp [Nat.add_assoc, Nat.add_comm 1]
      · cases d with
        | zero =>
            -- the very next prefix has an end too many
            have hnone : deepen 0 l = none := deepen_eq_none_iff.mpr ⟨rfl, he⟩
            simp only [hnone, Option.bind_eq_bind, Option.bind_none, reduceCtorEq, false_iff]
            rintro ⟨⟨-, hall⟩, -⟩
            have hfirst := hall [] List.nil_prefix
            simp [hs, he] at hfirst
        | succ d =>
            rw [deepen_of_end hs he]
            simp only [Option.bind_eq_bind, Option.bind_some, ih, List.countP_cons, hs, he]
            simp only [List.countP_nil, Nat.zero_le, true_and, if_true, Bool.false_eq_true,
              if_false]
            constructor
            · rintro ⟨hall, hlast⟩
              exact ⟨fun p hp => by have := hall p hp; omega, by omega⟩
            · rintro ⟨hall, hlast⟩
              exact ⟨fun p hp => by have := hall p hp; omega, by omega⟩
      · rw [deepen_of_other hs he]
        simp only [Option.bind_eq_bind, Option.bind_some, ih, List.countP_cons, hs, he]
        simp

theorem Text.isClosed_iff {s : Text} : s.IsClosed ↔
    (modeAfter .between s).isWithin = false ∧ s.lexemes.foldlM deepen 0 = some 0 := by
  rw [foldlM_deepen_eq_some_iff]
  simp only [Nat.zero_add]
  constructor
  · intro h
    exact ⟨h.whole, h.sane, h.settled⟩
  · rintro ⟨hwhole, hsane, hsettled⟩
    exact ⟨hwhole, hsane, hsettled⟩

instance (s : Text) : Decidable s.IsClosed := decidable_of_iff _ Text.isClosed_iff.symm

/-- A content can end its template, and can leave one open. -/
example : ¬ Text.IsClosed "a</template>b" ∧ ¬ Text.IsClosed "<template><p>a</p>"
    ∧ ¬ Text.IsClosed "a <b"
    ∧ Text.IsClosed "<p title='</template>'>a <!-- <Template> --> < b" := by
  decide +kernel

/-! ## The reader -/

/-- A post as it is read back from a page. -/
structure Snapshot where
  id : Text
  isoDate : Text
  title : Text
  description : Text
  content : Text
deriving DecidableEq, Repr

namespace Snapshot

/-- What a page has to hold of a post. -/
def ofPost (p : Post) : Snapshot := ⟨p.id, p.date.iso, p.title, p.description, p.content⟩

/-- The value of an attribute, nothing if it has none. -/
def value (attributes : List Attribute) (name : Text) : Text :=
  ((attributes.find? fun a => a.1.caseless == name).bind (·.2)).getD []

def ofElement (attributes : List Attribute) (content : Text) : Snapshot where
  id := value attributes "data-post-id"
  isoDate := value attributes "data-date"
  title := value attributes "data-title"
  description := value attributes "data-description"
  content := content

end Snapshot

/-- The attributes of a template of the class of snapshots, at its start tag. -/
def Lexeme.snapshot? : Lexeme → Option (List Attribute)
  | tag ⟨false, name, attributes⟩ _ =>
    let classes := (Snapshot.value attributes "class").splitOnP CodePoint.isSpace
    if name.isTemplate && classes.contains "post-snapshot" then some attributes else none
  | _ => none

/-- Where a reader of snapshots is, and what it has read of the one that it is in. -/
inductive Place where
  | outside
  /-- In a snapshot, with the templates that are open in it. -/
  | inside (attributes : List Attribute) (depth : Nat) (content : Text)

/-- The snapshots that end in parts of a page. Each ends at the end tag that matches its start. -/
def snapshotsFrom : Place → List Lexeme → List Snapshot
  | _, [] => []
  | .outside, l :: rest =>
    match l.snapshot? with
    | some attributes => snapshotsFrom (.inside attributes 0 []) rest
    | none => snapshotsFrom .outside rest
  | .inside attributes depth content, l :: rest =>
    match deepen depth l with
    | some depth => snapshotsFrom (.inside attributes depth (content ++ l.written)) rest
    | none => .ofElement attributes content :: snapshotsFrom .outside rest

/-- The snapshots of a page, in order. -/
def Text.snapshots (page : Text) : List Snapshot := snapshotsFrom .outside page.lexemes

/-- What stands in no snapshot is passed over. -/
theorem snapshotsFrom_outside {ls : List Lexeme} (h : ∀ l ∈ ls, l.snapshot? = none)
    (rest : List Lexeme) :
    snapshotsFrom .outside (ls ++ rest) = snapshotsFrom .outside rest := by
  induction ls with
  | nil => rfl
  | cons l ls ih =>
      obtain ⟨hfirst, hlater⟩ := List.forall_mem_cons.mp h
      rw [List.cons_append, snapshotsFrom, hfirst]
      exact ih hlater

variable {attributes : List Attribute} {content : Text}

/-- As long as there is a depth the reader stays in the snapshot. -/
theorem snapshotsFrom_inside {ls : List Lexeme} {d d' : Nat} (h : ls.foldlM deepen d = some d')
    (rest : List Lexeme) :
    snapshotsFrom (.inside attributes d content) (ls ++ rest)
      = snapshotsFrom (.inside attributes d' (content ++ ls.flatMap Lexeme.written)) rest := by
  induction ls generalizing d content with
  | nil =>
      obtain rfl : d = d' := Option.some.inj h
      rw [List.flatMap_nil, List.append_nil, List.nil_append]
  | cons l ls ih =>
      rw [List.foldlM_cons, Option.bind_eq_bind, Option.bind_eq_some_iff] at h
      obtain ⟨depth, hdepth, h⟩ := h
      rw [List.cons_append, snapshotsFrom, hdepth]
      dsimp only
      rw [ih h, List.flatMap_cons, List.append_assoc]

/-- **A snapshot that is read ends at an end tag**, where as many templates are open as at its
start. -/
theorem ends_of_snapshotsFrom {ls : List Lexeme} {d : Nat} {x : Snapshot} {more : List Snapshot}
    (h : snapshotsFrom (.inside attributes d content) ls = x :: more) :
    ∃ before after, ls = before ++ after ∧ before.foldlM deepen d = some 0
      ∧ x = .ofElement attributes (content ++ before.flatMap Lexeme.written) := by
  induction ls generalizing d content with
  | nil => cases h
  | cons l ls ih =>
      rw [snapshotsFrom] at h
      cases hdepth : deepen d l with
      | some depth =>
          rw [hdepth] at h
          obtain ⟨before, after, rfl, hbefore, rfl⟩ := ih h
          refine ⟨l :: before, after, rfl, ?_, ?_⟩
          · rw [List.foldlM_cons, hdepth]
            exact hbefore
          · rw [List.flatMap_cons, List.append_assoc]
      | none =>
          rw [hdepth] at h
          obtain ⟨rfl, -⟩ := deepen_eq_none_iff.mp hdepth
          refine ⟨[], l :: ls, rfl, rfl, ?_⟩
          rw [List.flatMap_nil, List.append_nil]
          exact (List.cons.inj h).1.symm

/-! ## One snapshot -/

/-- The end tag of a template. -/
def templateEnd : Text := (Token.stop "template").render

/-- **A content that is closed is read back.** -/
theorem snapshotsFrom_of_isClosed {s : Text} (h : s.IsClosed) (rest : Text) :
    snapshotsFrom (.inside attributes 0 []) (Text.lexemes (s ++ (templateEnd ++ rest)))
      = .ofElement attributes s :: snapshotsFrom .outside rest.lexemes := by
  obtain ⟨hwhole, hnested⟩ := Text.isClosed_iff.mp h
  have hend : Text.lexemes (templateEnd ++ rest)
      = .tag ⟨true, "template", []⟩ templateEnd :: rest.lexemes :=
    Token.lexemes_endTag (by decide) rest
  have hclose : deepen 0 (.tag ⟨true, "template", []⟩ templateEnd) = none :=
    deepen_eq_none_iff.mpr ⟨rfl, by decide⟩
  have hlost : s.lexemes.flatMap Lexeme.written ++ (Text.modeAfter .between s).written = s :=
    Text.written_lexemesFrom .between s
  rw [Text.lexemes_append, snapshotsFrom_inside hnested, List.nil_append]
  cases hmode : Text.modeAfter .between s with
  | within read => rw [hmode] at hwhole; cases hwhole
  | between =>
      rw [hmode] at hlost
      have hs : s.lexemes.flatMap Lexeme.written = s := (List.append_nil _).symm.trans hlost
      have hlex : Text.lexemesFrom .between (templateEnd ++ rest) = _ := hend
      rw [hlex, hs, snapshotsFrom, hclose]
  | opened =>
      -- the bracket that the content ends with turns out to be a text
      rw [hmode] at hlost
      have hlex : Text.lexemesFrom .opened (templateEnd ++ rest)
          = .point (.char '<') :: .tag ⟨true, "template", []⟩ templateEnd :: rest.lexemes :=
        (Text.lexemesFrom_opened _).trans (congrArg _ hend)
      have hpoint : deepen 0 (.point (.char '<')) = some 0 := deepen_of_other rfl rfl 0
      rw [hlex, snapshotsFrom, hpoint]
      dsimp only
      rw [snapshotsFrom, hclose]
      exact congrArg (fun c => Snapshot.ofElement attributes c :: _) hlost

/-- **A content that is read back is closed**, whatever is written after it. -/
theorem isClosed_of_snapshotsFrom {s after : Text} {x : Snapshot} {more : List Snapshot}
    (h : snapshotsFrom (.inside attributes 0 []) (Text.lexemes (s ++ after)) = x :: more)
    (hx : x.content = s) : s.IsClosed := by
  obtain ⟨before, later, hsplit, hbefore, rfl⟩ := ends_of_snapshotsFrom h
  have hwritten : before.flatMap Lexeme.written = s := hx
  obtain ⟨hwhole, hsame⟩ := Text.eq_lexemes_of_append hsplit hwritten
  refine Text.isClosed_iff.mpr ⟨hwhole, ?_⟩
  cases hmode : Text.modeAfter .between s with
  | within read => rw [hmode] at hwhole; cases hwhole
  | between =>
      rw [hmode] at hsame
      have hbefore' : before = s.lexemes := hsame.trans (List.append_nil _)
      rw [← hbefore']
      exact hbefore
  | opened =>
      rw [hmode] at hsame
      have hpoint (d : Nat) : [Lexeme.point (.char '<')].foldlM deepen d = some d := rfl
      rw [hsame, List.foldlM_append, Option.bind_eq_bind, Option.bind_eq_some_iff] at hbefore
      obtain ⟨d, hd, hlast⟩ := hbefore
      obtain rfl : d = 0 := Option.some.inj ((hpoint d).symm.trans hlast)
      exact hd

/-! ## Markup without snapshots -/

namespace Token

/-- Whether a token is written soundly and is no template. -/
def isAside (t : Token) : Bool := t.isSound && t.opening?.all fun tag => !tag.1.isTemplate

theorem snapshot?_of_isAside {t : Token} (h : t.isAside = true) :
    ∀ l ∈ t.lexemes, l.snapshot? = none := by
  intro l hl
  have hother := (Bool.and_eq_true_iff.mp h).2
  cases t with
  | start tag attributes | empty tag attributes =>
      obtain rfl := List.mem_singleton.mp hl
      rw [opening?, Option.all_some, Bool.not_eq_true'] at hother
      simp [Lexeme.snapshot?, hother]
  | stop name | verbatim s =>
      obtain rfl := List.mem_singleton.mp hl
      rfl
  | text s | reference name | layout s =>
      obtain ⟨c, -, rfl⟩ := List.mem_map.mp hl
      rfl

end Token

namespace Markup

variable {m n : Markup}

/-- No token is a template. -/
def Aside (m : Markup) : Prop := ∀ t ∈ m, t.isAside = true

theorem aside_of_all (h : m.all Token.isAside = true) : m.Aside := List.all_eq_true.mp h

theorem aside_append (hm : m.Aside) (hn : n.Aside) : Aside (m ++ n) :=
  List.forall_mem_append.mpr ⟨hm, hn⟩

/-- Markup that opens no templates at all. -/
theorem aside_of_among {names : List Text} (hnames : ("template" : Text) ∉ names)
    (hm : Among names m) : m.Aside := by
  intro t ht
  refine Bool.and_eq_true_iff.mpr ⟨Token.isSound_of_isAmong (hm t ht), ?_⟩
  cases hopen : t.opening? with
  | none => rfl
  | some tag =>
      have hmem := Token.mem_of_isAmong (hm t ht) hopen
      have hother : tag.1.isTemplate = false :=
        beq_false_of_ne fun heq => hnames (heq ▸ hmem)
      rw [Option.all_some, hother]
      rfl

/-- Markup without templates is passed over. -/
theorem Aside.snapshotsFrom (hm : m.Aside) (rest : Text) :
    snapshotsFrom .outside (Text.lexemes (render m ++ rest))
      = snapshotsFrom .outside rest.lexemes := by
  have hsound : m.Sound := fun t ht => (Bool.and_eq_true_iff.mp (hm t ht)).1
  rw [lexemes_render hsound]
  refine snapshotsFrom_outside (fun l hl => ?_) _
  obtain ⟨t, ht, hl⟩ := List.mem_flatMap.mp hl
  exact Token.snapshot?_of_isAside (hm t ht) l hl

end Markup

namespace Page

/-- The page for a single post has its snapshots in one place, and no other template. -/
theorem post_split (settlement : Text) (views : List Section) (posts : List Card) :
    ∃ before after : Markup, before.Aside ∧ after.Aside
      ∧ post settlement views posts = before ++ (posts.flatMap snapshot ++ after) := by
  have hcontent : ∃ frame article, Aside article
      ∧ post settlement views posts
        = framed frame views (article ++ posts.flatMap snapshot ++ line 1 [.stop "main"]) :=
    ⟨_, _, aside_of_all rfl, rfl⟩
  obtain ⟨frame, article, harticle, hpost⟩ := hcontent
  obtain ⟨before, after, hbefore, hafter, hframed⟩ := framed_split frame views
  have hmain : Aside (line 1 [.stop "main"]) := aside_of_all rfl
  refine ⟨before ++ article, line 1 [.stop "main"] ++ after,
    aside_append (aside_of_among (by decide) hbefore) harticle,
    aside_append hmain (aside_of_among (by decide) hafter), ?_⟩
  rw [hpost, hframed]
  simp only [List.append_assoc]

/-! ## Snapshots in a row -/

/-- The start tag of a snapshot. -/
def snapshotAttributes (c : Card) : List Attribute := [
  attr "class" "post-snapshot", attr "data-post-id" c.id, attr "data-date" c.isoDate,
  attr "data-title" c.title, attr "data-description" c.description]

/-- The start tag of a snapshot is recognized by its class. -/
theorem snapshot?_startTag (c : Card) (written : Text) :
    (Lexeme.tag ⟨false, "template", snapshotAttributes c⟩ written).snapshot?
      = some (snapshotAttributes c) := by
  have hname : Text.isTemplate "template" = true := by decide
  have hclass : Snapshot.value (snapshotAttributes c) "class" = "post-snapshot" := rfl
  have hword :
      (("post-snapshot" : Text).splitOnP CodePoint.isSpace).contains "post-snapshot" = true := by
    decide +kernel
  simp only [Lexeme.snapshot?, hname, hclass, hword, Bool.and_self, if_true]

/-- A snapshot that is written is read from its start tag on. -/
theorem snapshotsFrom_snapshot (c : Card) (rest : Text) :
    snapshotsFrom .outside (Text.lexemes (render (snapshot c) ++ rest))
      = snapshotsFrom (.inside (snapshotAttributes c) 0 [])
        (Text.lexemes (c.content ++ (templateEnd ++ ("\n" ++ rest)))) := by
  let start : Token := .start "template" (snapshotAttributes c)
  have hwritten : render (snapshot c) ++ rest
      = render [.layout (List.replicate (4 * 2) (.char ' '))]
        ++ (start.render ++ (c.content ++ (templateEnd ++ ("\n" ++ rest)))) := by
    simp [start, snapshot, line, element, render, Token.render, templateEnd, snapshotAttributes]
  have hblanks : Aside [.layout (List.replicate (4 * 2) (.char ' '))] := aside_of_all rfl
  have hsound : start.isSound = true := rfl
  rw [hwritten, hblanks.snapshotsFrom, Token.lexemes_render hsound]
  have hparts : start.lexemes
      = [.tag ⟨false, "template", snapshotAttributes c⟩ start.render] := rfl
  rw [hparts, List.singleton_append, snapshotsFrom, snapshot?_startTag]

/-- What comes after a snapshot is read by itself if its content is closed. -/
theorem snapshotsFrom_snapshot_of_isClosed {c : Card} (h : c.content.IsClosed) (rest : Text) :
    snapshotsFrom .outside (Text.lexemes (render (snapshot c) ++ rest))
      = .ofElement (snapshotAttributes c) c.content :: snapshotsFrom .outside rest.lexemes := by
  have hbreak : Aside [.layout "\n"] := aside_of_all rfl
  rw [snapshotsFrom_snapshot, snapshotsFrom_of_isClosed h]
  exact congrArg (Snapshot.ofElement _ _ :: ·) (hbreak.snapshotsFrom rest)

/-- **Snapshots in a row are read back just if all contents are closed.** -/
theorem snapshotsFrom_flatMap_snapshot (posts : List Post) {after : Text}
    (hafter : snapshotsFrom .outside after.lexemes = []) :
    snapshotsFrom .outside
          (Text.lexemes (render ((posts.map Card.ofPost).flatMap snapshot) ++ after))
        = posts.map Snapshot.ofPost
      ↔ ∀ p ∈ posts, p.content.IsClosed := by
  induction posts with
  | nil => simpa [render] using hafter
  | cons p posts ih =>
      let later := render ((posts.map Card.ofPost).flatMap snapshot) ++ after
      have hwritten : render (((p :: posts).map Card.ofPost).flatMap snapshot) ++ after
          = render (snapshot (.ofPost p)) ++ later := by
        simp [later]
      rw [hwritten, List.forall_mem_cons, ← ih, List.map_cons]
      constructor
      · intro h
        have hfirst := h
        rw [snapshotsFrom_snapshot] at hfirst
        have hclosed : p.content.IsClosed := isClosed_of_snapshotsFrom hfirst rfl
        have hread := snapshotsFrom_snapshot_of_isClosed (c := .ofPost p) hclosed later
        exact ⟨hclosed, (List.cons.inj (hread.symm.trans h)).2⟩
      · rintro ⟨hclosed, hlater⟩
        have hread := snapshotsFrom_snapshot_of_isClosed (c := .ofPost p) hclosed later
        rw [hread, hlater]
        rfl

end Page

namespace Site

/-- **The posts are read back from the page that shows one of them just if the content of each is
closed**: then each content stands within its own template, and what is read there is the post. -/
theorem snapshots_postPage (c : SiteContent) (o : SiteOptions) :
    (postPage c o).snapshots = (Post.sorted c.posts).map Snapshot.ofPost
      ↔ ∀ p ∈ c.posts, p.content.IsClosed := by
  obtain ⟨before, after, hbefore, hafter, hpost⟩ :=
    Page.post_split c.settlement.name (c.sections o.year) (Card.ofPosts c.posts)
  have hend : snapshotsFrom .outside (Text.lexemes (render after)) = [] := by
    have hread := hafter.snapshotsFrom []
    rw [List.append_nil] at hread
    exact hread
  have hsnapshots : (postPage c o).snapshots = snapshotsFrom .outside (Text.lexemes
      (render (((Post.sorted c.posts).map Card.ofPost).flatMap Page.snapshot)
        ++ render after)) := by
    rw [postPage, hpost, render_append, render_append, Text.snapshots, hbefore.snapshotsFrom]
    rfl
  rw [hsnapshots, Page.snapshotsFrom_flatMap_snapshot _ hend]
  exact forall_congr' fun p => by rw [(Post.sorted_perm c.posts).mem_iff]

end Site

end CivicSite
