import CivicSite.Proofs.Timestamp.Seconds

/-!
# Newest first

Posts are listed by the seconds of their dates, which are rounded, and then by their ids. Where the
seconds tell two dates apart they do so rightly, so a post is listed before a newer one only where
the seconds of both are the same and the ids put it there (`Post.Overtakes`). That is then the only
thing that is wrong with the order: nothing is lost or repeated, posts of the same instant are in
the order of their ids, and those with the same id besides are in the order in which they were given
(`Post.newest_first_exact`).
-/

namespace CivicSite

namespace Post

/-! ## What the ids decide -/

theorem mayPrecede_of_rank_eq {a b : Post} (h : a.rank = b.rank) :
    mayPrecede a b = true ↔ b.id.le a.id = true := by
  rw [mayPrecede_iff]
  constructor
  · rintro (hlt | ⟨-, hid⟩)
    · omega
    · exact hid
  · exact fun hid => .inr ⟨h, hid⟩

theorem rank_eq_of_instant_eq {a b : Post} (h : a.date.instant = b.date.instant) :
    a.rank = b.rank :=
  Int.le_antisymm (Timestamp.rank_seconds_mono (Int.le_of_eq h))
    (Timestamp.rank_seconds_mono (Int.le_of_eq h.symm))

theorem mayPrecede_of_same {a b : Post} (h : a.rank = b.rank) (hid : a.id = b.id) :
    mayPrecede a b = true := by
  rw [mayPrecede_of_rank_eq h, hid]
  exact Text.le_refl b.id

theorem rank_eq_iff {a b : Post} : a.rank = b.rank ↔ a.date.seconds = b.date.seconds := by
  constructor
  · exact Double.rank_inj a.date.isPlace_seconds b.date.isPlace_seconds
  · exact fun h => congrArg Double.rank h

/-! ## Stability -/

theorem sublist_or_sublist {l : List Post} {a b : Post} (ha : a ∈ l) (hb : b ∈ l) (hne : a ≠ b) :
    [a, b].Sublist l ∨ [b, a].Sublist l := by
  obtain ⟨before, after, rfl⟩ := List.append_of_mem ha
  rcases List.mem_append.mp hb with h | h
  · have hpair := (List.singleton_sublist.mpr h).append
      (List.singleton_sublist.mpr (List.mem_cons_self (a := a) (l := after)))
    exact .inr hpair
  · rcases List.mem_cons.mp h with rfl | h
    · exact absurd rfl hne
    · have hcons := (List.singleton_sublist.mpr h).cons_cons a
      exact .inl (hcons.trans (List.sublist_append_right _ _))

theorem sublist_sorted {posts l : List Post} (hl : l.Pairwise fun a b => mayPrecede a b = true)
    (h : l.Sublist posts) : l.Sublist (sorted posts) :=
  List.sublist_mergeSort mayPrecede_trans mayPrecede_total hl h

/-- **Posts that may all come first stay in the order in which they are given.** -/
theorem filter_sorted (posts : List Post) {p : Post → Bool}
    (hp : ∀ a b, p a = true → p b = true → mayPrecede a b = true) :
    (sorted posts).filter p = posts.filter p :=
  filter_mergeSort mayPrecede_trans mayPrecede_total hp posts

/-- Posts of one instant and one id stay in the order in which they are given. -/
theorem filter_instant_sorted (posts : List Post) (t : Int) (x : Text) :
    (sorted posts).filter (fun p => p.date.instant == t && p.id == x)
      = posts.filter (fun p => p.date.instant == t && p.id == x) := by
  refine filter_sorted posts fun a b ha hb => ?_
  simp only [Bool.and_eq_true, beq_iff_eq] at ha hb
  have hinstant : a.date.instant = b.date.instant := ha.1.trans hb.1.symm
  exact mayPrecede_of_same (rank_eq_of_instant_eq hinstant) (ha.2.trans hb.2.symm)

/-! ## Overtaking -/

/-- `a` is listed before `b`, although `b` is newer: their dates are not the same, but have the same
seconds, and the ids put `a` first, or are the same too and `a` is given first. -/
structure Overtakes (posts : List Post) (a b : Post) : Prop where
  older : a.date.instant < b.date.instant
  seconds_eq : a.date.seconds = b.date.seconds
  id_le : b.id.le a.id = true
  given_first : a.id = b.id → [a, b].Sublist posts

variable {posts : List Post} {a b : Post}

/-- **A post that overtakes another is newer than it by microseconds only**, and one of the two is
far from 1970. -/
theorem Overtakes.close (h : Overtakes posts a b) :
    b.date.instant - a.date.instant ≤ 30 ∧ ¬ (a.date.IsNear ∧ b.date.IsNear) := by
  have hrank := rank_eq_iff.mpr h.seconds_eq
  refine ⟨Timestamp.instant_sub_le hrank, fun ⟨hnear, hnear'⟩ => ?_⟩
  exact Int.ne_of_lt h.older (Timestamp.instant_eq_of_rank_eq hnear hnear' hrank)

/-- **What overtakes is what is listed before something newer.** -/
theorem sublist_sorted_iff (ha : a ∈ posts) (hb : b ∈ posts)
    (holder : a.date.instant < b.date.instant) :
    [a, b].Sublist (sorted posts) ↔ Overtakes posts a b := by
  have hle : a.rank ≤ b.rank := Timestamp.rank_seconds_mono (Int.le_of_lt holder)
  constructor
  · intro hsub
    have hmay : mayPrecede a b = true :=
      List.pairwise_iff_forall_sublist.mp (pairwise_sorted posts) hsub
    obtain ⟨hrank, hid⟩ : a.rank = b.rank ∧ b.id.le a.id = true := by
      rcases mayPrecede_iff.mp hmay with h | h
      · omega
      · exact h
    refine ⟨holder, rank_eq_iff.mp hrank, hid, fun hsame => ?_⟩
    -- The two are among those posts that stay as they are.
    have hstay := filter_sorted posts (p := fun p => p.rank == b.rank && p.id == b.id) ?_
    · have h := hsub.filter fun p => p.rank == b.rank && p.id == b.id
      rw [hstay] at h
      simp only [hrank, hsame, beq_self_eq_true, Bool.and_self, List.filter_cons_of_pos,
        List.filter_nil] at h
      exact h.trans List.filter_sublist
    · intro c d hc hd
      simp only [Bool.and_eq_true, beq_iff_eq] at hc hd
      exact mayPrecede_of_same (hc.1.trans hd.1.symm) (hc.2.trans hd.2.symm)
  · intro h
    have hmay : mayPrecede a b = true :=
      (mayPrecede_of_rank_eq (rank_eq_iff.mpr h.seconds_eq)).mpr h.id_le
    by_cases hsame : a.id = b.id
    · refine sublist_sorted ?_ (h.given_first hsame)
      exact List.pairwise_pair.mpr hmay
    · rcases sublist_or_sublist ((sorted_perm posts).mem_iff.mpr ha)
          ((sorted_perm posts).mem_iff.mpr hb) (fun heq => hsame (congrArg id heq)) with hab | hba
      · exact hab
      · have hmay' : mayPrecede b a = true :=
          List.pairwise_iff_forall_sublist.mp (pairwise_sorted posts) hba
        exact absurd (id_eq_of_mayPrecede hmay hmay') hsame

/-- **The order of posts is newest first, as far as the seconds of their dates tell them apart.** -/
theorem newest_first_exact (posts : List Post) :
    (sorted posts).Perm posts ∧
    (sorted posts).Pairwise (fun a b => a.date.instant = b.date.instant → b.id.le a.id = true) ∧
    (∀ t x, (sorted posts).filter (fun p => p.date.instant == t && p.id == x)
      = posts.filter (fun p => p.date.instant == t && p.id == x)) ∧
    ((sorted posts).Pairwise (fun a b => b.date.instant ≤ a.date.instant) ↔
      ∀ a ∈ posts, ∀ b ∈ posts, ¬ Overtakes posts a b) ∧
    ∀ a b, Overtakes posts a b → b.date.instant - a.date.instant ≤ 30 ∧
      ¬ (a.date.IsNear ∧ b.date.IsNear) := by
  refine ⟨sorted_perm posts, ?_, filter_instant_sorted posts, ?_, fun a b h => h.close⟩
  · refine (pairwise_sorted posts).imp fun {a b} hmay hinstant => ?_
    exact (mayPrecede_of_rank_eq (rank_eq_of_instant_eq hinstant)).mp hmay
  · rw [List.pairwise_iff_forall_sublist]
    constructor
    · intro horder a ha b hb hover
      have hsub := (sublist_sorted_iff ha hb hover.older).mpr hover
      have hle := horder hsub
      have hlt := hover.older
      omega
    · intro hnone a b hsub
      have hmem : ∀ p ∈ [a, b], p ∈ posts :=
        fun p hp => (sorted_perm posts).mem_iff.mp (hsub.subset hp)
      have ha := hmem a (.head _)
      have hb := hmem b (.tail _ (.head _))
      by_contra hlt
      exact hnone a ha b hb ((sublist_sorted_iff ha hb (Int.lt_of_not_ge hlt)).mp hsub)

end Post

end CivicSite
