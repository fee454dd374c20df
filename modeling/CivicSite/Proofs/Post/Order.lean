import CivicSite.Post
import CivicSite.Proofs.Double.Rounding
import Mathlib.Data.List.Nodup

/-!
# The order of posts

Posts are compared by two things: the seconds of their dates, a double, and their ids. The seconds
of a date are neither undefined nor a negative zero, so their order says whether two of them are the
same (`Double.rank_inj`). That makes the comparison of posts a lexicographic one
(`Post.mayPrecede_iff`): it is total and transitive, and posts that may both come first have the
same id. Posts with distinct ids can thus be listed in one order only, whatever order they are given
in (`Post.sorted_congr`).
-/

namespace CivicSite

/-- A list with distinct keys is in order in one way only, if what may stand on either side of each
other has the same key. -/
theorem eq_of_pairwise_of_perm {α β : Type} {r : α → α → Prop} {key : α → β}
    (hkey : ∀ a b, r a b → r b a → key a = key b) {l l' : List α} (hl : l.Pairwise r)
    (hl' : l'.Pairwise r) (hnodup : (l.map key).Nodup) (h : l.Perm l') : l = l' := by
  refine List.Perm.eq_of_pairwise ?_ hl hl' h
  intro a b ha hb hab hba
  exact List.inj_on_of_nodup_map hnodup ha (h.mem_iff.mpr hb) (hkey a b hab hba)

/-- What may stand in any order among itself is left as it is by a sort. -/
theorem filter_mergeSort {α : Type} {le : α → α → Bool}
    (trans : ∀ a b c, le a b = true → le b c = true → le a c = true)
    (total : ∀ a b, (le a b || le b a) = true) {p : α → Bool}
    (hp : ∀ a b, p a = true → p b = true → le a b = true) (l : List α) :
    (l.mergeSort le).filter p = l.filter p := by
  have hpairwise : (l.filter p).Pairwise fun a b => le a b = true := by
    refine List.pairwise_of_forall_mem_list fun a ha b hb => ?_
    exact hp a b (List.mem_filter.mp ha).2 (List.mem_filter.mp hb).2
  have hsub : (l.filter p).Sublist ((l.mergeSort le).filter p) := by
    have h := (List.sublist_mergeSort trans total hpairwise List.filter_sublist).filter p
    rwa [List.filter_filter, funext fun a => Bool.and_self (p a)] at h
  have hlength := ((List.mergeSort_perm l le).filter p).length_eq
  exact (hsub.eq_of_length hlength.symm).symm

/-! ## Doubles as places in an order -/

namespace Double

/-- Neither undefined nor a negative zero. -/
def isPlace : Double → Bool
  | nan => false
  | infinite _ => true
  | finite negative units _ => !negative || 0 < units

/-- **The order tells places apart.** -/
theorem rank_inj {x y : Double} (hx : x.isPlace = true) (hy : y.isPlace = true)
    (h : x.rank = y.rank) : x = y := by
  rcases x with - | sx | ⟨sx, u, hu⟩ <;> rcases y with - | sy | ⟨sy, v, hv⟩
  case nan.nan | nan.infinite | nan.finite => cases hx
  case infinite.nan | finite.nan => cases hy
  case infinite.infinite =>
    have hlimit : 0 < unitLimit := by decide +kernel
    cases sx <;> cases sy <;> simp only [rank] at h <;> first | rfl | omega
  case infinite.finite =>
    have hlt : v < unitLimit := hv.2
    cases sx <;> cases sy <;> simp only [rank] at h <;> omega
  case finite.infinite =>
    have hlt : u < unitLimit := hu.2
    cases sx <;> cases sy <;> simp only [rank] at h <;> omega
  case finite.finite =>
    simp only [isPlace, Bool.or_eq_true, Bool.not_eq_true', decide_eq_true_eq] at hx hy
    cases sx <;> cases sy <;> simp only [rank] at h
    case false.false | true.true =>
      obtain rfl : u = v := by omega
      rfl
    case false.true =>
      have hpositive : 0 < v := hy.resolve_left (by decide)
      omega
    case true.false =>
      have hpositive : 0 < u := hx.resolve_left (by decide)
      omega

/-- A quotient has a place, provided that it is at least one unit if it is negative. -/
theorem isPlace_ofRatio {negative : Bool} {num den : Nat} (hden : 0 < den)
    (h : negative = true → den ≤ num * unitsPerOne) :
    (ofRatio negative num den).isPlace = true := by
  rcases ofRatio_cases negative num den with heq | ⟨hunits, heq⟩
  · rw [heq]
    rfl
  · rw [heq, isPlace, Bool.or_eq_true, Bool.not_eq_true', decide_eq_true_eq]
    cases hnegative : negative with
    | false => exact .inl rfl
    | true => exact .inr (roundUnits_pos hden (h hnegative))

variable {x y : Double}

theorem ne_nan_of_isPlace (h : x.isPlace = true) : (x != nan) = true := by
  rw [bne_iff_ne]
  rintro rfl
  cases h

theorem le_iff_rank (hx : x.isPlace = true) (hy : y.isPlace = true) :
    x.le y = true ↔ x.rank ≤ y.rank := by
  rw [le, ne_nan_of_isPlace hx, ne_nan_of_isPlace hy]
  simp

/-- Two places are compared first, and something else decides where they are the same. -/
theorem lex_iff_rank (hx : x.isPlace = true) (hy : y.isPlace = true) (tie : Bool) :
    (if x == y then tie else y.le x) = true
      ↔ y.rank < x.rank ∨ x.rank = y.rank ∧ tie = true := by
  by_cases hsame : x = y
  · rw [if_pos (beq_iff_eq.mpr hsame), hsame]
    simp
  · have hrank : x.rank ≠ y.rank := fun h => hsame (rank_inj hx hy h)
    rw [if_neg (fun h => hsame (beq_iff_eq.mp h)), le_iff_rank hy hx]
    omega

end Double

theorem Timestamp.isPlace_seconds (t : Timestamp) : t.seconds.isPlace = true := by
  have hunits : 1000000 ≤ unitsPerOne := by decide +kernel
  unfold seconds
  refine Double.isPlace_ofRatio (by decide) fun hnegative => ?_
  have hinstant : t.instant < 0 := of_decide_eq_true hnegative
  exact Nat.le_trans hunits (Nat.le_mul_of_pos_left _ (by omega))

/-! ## Posts -/

namespace Post

/-- Where the date of a post stands in the order. -/
def rank (p : Post) : Int := p.date.seconds.rank

/-- A post may be listed before another if it is newer, or as new and not less by its id. -/
theorem mayPrecede_iff {a b : Post} : mayPrecede a b = true ↔
    b.rank < a.rank ∨ a.rank = b.rank ∧ b.id.le a.id = true := by
  unfold mayPrecede rank
  exact Double.lex_iff_rank a.date.isPlace_seconds b.date.isPlace_seconds _

theorem mayPrecede_trans (a b c : Post) (hab : mayPrecede a b = true)
    (hbc : mayPrecede b c = true) : mayPrecede a c = true := by
  rw [mayPrecede_iff] at hab hbc ⊢
  rcases hab with hab | ⟨hab, hid⟩
  · rcases hbc with hbc | ⟨hbc, -⟩ <;> exact .inl (by omega)
  · rcases hbc with hbc | ⟨hbc, hid'⟩
    · exact .inl (by omega)
    · exact .inr ⟨hab.trans hbc, Text.le_trans hid' hid⟩

theorem mayPrecede_total (a b : Post) : (mayPrecede a b || mayPrecede b a) = true := by
  rw [Bool.or_eq_true, mayPrecede_iff, mayPrecede_iff]
  rcases Int.lt_trichotomy a.rank b.rank with h | h | h
  · exact .inr (.inl h)
  · rcases Bool.or_eq_true .. ▸ Text.le_total a.id b.id with hid | hid
    · exact .inr (.inr ⟨h.symm, hid⟩)
    · exact .inl (.inr ⟨h, hid⟩)
  · exact .inl (.inl h)

/-- Posts that may both come first have the same id. -/
theorem id_eq_of_mayPrecede {a b : Post} (hab : mayPrecede a b = true)
    (hba : mayPrecede b a = true) : a.id = b.id := by
  rw [mayPrecede_iff] at hab hba
  rcases hab with hab | ⟨hab, hid⟩
  · rcases hba with hba | ⟨hba, -⟩ <;> omega
  · rcases hba with hba | ⟨-, hid'⟩
    · omega
    · exact Text.eq_of_le_of_le hid' hid

theorem sorted_perm (posts : List Post) : (sorted posts).Perm posts :=
  List.mergeSort_perm posts _

theorem pairwise_sorted (posts : List Post) :
    (sorted posts).Pairwise fun a b => mayPrecede a b = true :=
  List.pairwise_mergeSort mayPrecede_trans mayPrecede_total posts

/-- **Posts with distinct ids have one order**, whatever order they are given in. -/
theorem sorted_congr {posts posts' : List Post} (hids : (posts.map id).Nodup)
    (h : posts.Perm posts') : sorted posts = sorted posts' := by
  have hperm : (sorted posts).Perm (sorted posts') :=
    (sorted_perm posts).trans (h.trans (sorted_perm posts').symm)
  have hnodup : ((sorted posts).map id).Nodup := ((sorted_perm posts).map id).nodup_iff.mpr hids
  refine eq_of_pairwise_of_perm ?_ (pairwise_sorted posts) (pairwise_sorted posts') hnodup hperm
  intro a b hab hba
  exact id_eq_of_mayPrecede hab hba

end Post

end CivicSite
