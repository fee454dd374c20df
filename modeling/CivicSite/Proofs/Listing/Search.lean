import CivicSite.Listing
import CivicSite.Proofs.Text.Lower
import Mathlib.Data.List.Basic

/-!
# What a search finds

A search compares small letters: those of the query with those of each text of a post. It keeps the
posts as they are and in their order (`search_eq`). A query that a post shows letter by letter is
found if its small letters do not depend on where it stands (`filter_shows_sublist`). Otherwise, as
with a capital sigma at the end of the query, there is a post that shows the query and is not found
(`exists_lost`).
-/

namespace CivicSite.Post

/-- Whether a text occurs in one of the texts of a post. -/
def Shows (needle : Text) (p : Post) : Prop :=
  needle <:+: p.title ∨ needle <:+: p.description ∨ needle <:+: p.content

/-- The post with its texts in small letters. -/
def lowered (p : Post) : Post :=
  { p with
    title := Text.lower p.title
    description := Text.lower p.description
    content := Text.lower p.content }

theorem matchesLower_iff {needle : Text} {p : Post} :
    matchesLower needle p = true ↔ Shows needle p.lowered := by
  simp only [matchesLower, Text.holds, Bool.or_eq_true, Text.occursIn_iff, or_assoc]
  rfl

instance (needle : Text) (p : Post) : Decidable (Shows needle p) :=
  decidable_of_iff
    ((Text.occursIn needle p.title || Text.occursIn needle p.description
      || Text.occursIn needle p.content) = true)
    (by simp only [Bool.or_eq_true, Text.occursIn_iff, or_assoc, Shows])

variable {posts : List Post} {query : Text}

/-- A query is found in small letters, and a blank one is found everywhere. -/
theorem search_eq (posts : List Post) (query : Text) :
    search posts query = posts.filter fun p => Shows (Text.lower (Text.trim query)) p.lowered := by
  have hmatches : ∀ p : Post, decide (Shows (Text.lower (Text.trim query)) p.lowered)
      = matchesLower (Text.lower (Text.trim query)) p := by
    intro p
    rw [Bool.eq_iff_iff, decide_eq_true_iff, matchesLower_iff]
  simp only [hmatches, search]
  split
  · next hblank =>
    rw [List.isEmpty_iff.mp hblank]
    refine (List.filter_eq_self.mpr fun p _ => ?_).symm
    exact matchesLower_iff.mpr (.inl List.nil_infix)
  · rfl

theorem search_of_blank (h : Text.trim query = []) : search posts query = posts := by
  rw [search, h]
  rfl

/-- What one of its texts shows, a post shows in small letters, if the text is settled. -/
theorem Shows.lowered {needle : Text} (h : Text.IsSettled needle) {p : Post} (hp : Shows needle p) :
    Shows (Text.lower needle) p.lowered := by
  have hinfix : ∀ {s : Text}, needle <:+: s → Text.lower needle <:+: Text.lower s := by
    rintro s ⟨before, after, rfl⟩
    rw [List.append_assoc, Text.lower_eq (before ++ _), Text.lowerBetween_append,
      Text.lowerBetween_append, h.lowerBetween_eq, ← List.append_assoc]
    exact List.infix_append ..
  exact hp.imp hinfix (Or.imp hinfix hinfix)

/-- **No post that shows a settled query is lost.** -/
theorem filter_shows_sublist (h : Text.IsSettled (Text.trim query)) (posts : List Post) :
    (posts.filter fun p => Shows (Text.trim query) p).Sublist (search posts query) := by
  rw [search_eq]
  refine List.monotone_filter_right posts fun p hp => ?_
  exact decide_eq_true (Shows.lowered h (of_decide_eq_true hp))

/-- **A query that is not settled is lost** in a post with nothing but a title. -/
theorem exists_lost (h : ¬Text.IsSettled (Text.trim query)) :
    ∃ p : Post, Shows (Text.trim query) p ∧ p ∉ search [p] query := by
  obtain ⟨before, after, hlost⟩ := Text.exists_lower_lost h
  let p : Post := ⟨[], before ++ Text.trim query ++ after, [], [], [], default⟩
  refine ⟨p, .inl ⟨before, after, rfl⟩, ?_⟩
  have hsmall : Text.lower (Text.trim query) ≠ [] := by
    intro hnil
    rw [hnil] at hlost
    exact hlost List.nil_infix
  rw [search_eq, List.mem_filter, decide_eq_true_iff]
  rintro ⟨-, htitle | hdescription | hcontent⟩
  · exact hlost htitle
  · exact hsmall (List.infix_nil.mp hdescription)
  · exact hsmall (List.infix_nil.mp hcontent)

/-- **What a search finds**, by small letters and letter by letter. -/
theorem search_exact (query : Text) :
    (∀ posts, (search posts query).Sublist posts
      ∧ search posts query
        = if Text.trim query = [] then posts
          else posts.filter fun p => Shows (Text.lower (Text.trim query)) p.lowered)
    ∧ (Text.IsSettled (Text.trim query) ↔ ∀ posts : List Post,
        (posts.filter fun p => Shows (Text.trim query) p).Sublist (search posts query)) := by
  refine ⟨fun posts => ⟨?sublist, ?found⟩, ?settled⟩
  case sublist =>
    rw [search_eq]
    exact List.filter_sublist
  case found =>
    split
    · next hblank => exact search_of_blank hblank
    · exact search_eq posts query
  case settled =>
    refine ⟨filter_shows_sublist, fun hall => Classical.byContradiction fun hopen => ?_⟩
    obtain ⟨p, hshows, hlost⟩ := exists_lost hopen
    refine hlost ((hall [p]).subset ?_)
    exact List.mem_filter.mpr ⟨List.mem_singleton_self p, decide_eq_true hshows⟩

/-- A word that ends in a sigma is not found where the word goes on. -/
example :
    let p : Post := ⟨"1", "ΟΔΟΣΤΡΩΜΑ", "", "", "", default⟩
    Shows "ΟΔΟΣ" p ∧ search [p] "ΟΔΟΣ" = [] := by
  decide +kernel

end CivicSite.Post
