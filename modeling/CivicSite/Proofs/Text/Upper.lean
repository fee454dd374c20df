import CivicSite.Text.Case

/-!
# Capital letters

A capital form is made of capitals: whatever a run or an expansion of the tables makes of a code
point is mapped by none of them (`mapCase_of_mem`). So a text in capitals is its own capital form
(`upper_upper`). For the runs this is seen from their ends: what a run makes lies apart from the
code points of every run, or between them where both go in steps of two.
-/

namespace CivicSite.Text

/-! ## Code points that nothing maps -/

/-- Whether a run is seen to map none of the code points `low, low + step, …, high`. -/
def CaseRun.isApart (r : CaseRun) (low high step : Nat) : Bool :=
  Nat.blt r.last low || Nat.blt high r.first || Nat.beq low high && !r.covers low ||
    Nat.beq step 2 && Nat.beq r.step 2 && Nat.beq ((low + r.first) % 2) 1

/-- Whether all tables are seen to map none of them. -/
def isFree (low high step : Nat) : Bool :=
  (upperRuns.all fun r => r.isApart low high step) &&
    upperExpansions.all fun e => Nat.blt e.1 low || Nat.blt high e.1

theorem CaseRun.covers_iff {r : CaseRun} {n : Nat} : r.covers n = true ↔
    (r.first ≤ n ∧ n ≤ r.last) ∧ (n - r.first) % r.step = 0 := by
  rw [covers, Bool.and_eq_true, Bool.and_eq_true, decide_eq_true_eq, decide_eq_true_eq, beq_iff_eq]

section Free

variable {low high step n : Nat}

theorem CaseRun.not_covers {r : CaseRun} (h : r.isApart low high step = true) (hlow : low ≤ n)
    (hhigh : n ≤ high) (hstep : (n - low) % step = 0) : ¬r.covers n = true := by
  intro hcovers
  obtain ⟨⟨hfirst, hlast⟩, hrest⟩ := covers_iff.mp hcovers
  unfold isApart at h
  simp only [Bool.or_eq_true, Bool.and_eq_true, Nat.blt_eq, Nat.beq_eq] at h
  rcases h with ((h | h) | ⟨heq, h⟩) | ⟨⟨hsteps, hsteps'⟩, h⟩
  · omega
  · omega
  · obtain rfl : n = low := by omega
    rw [hcovers] at h
    cases h
  · -- both go in steps of two, from places of which one is even and the other odd
    rw [hsteps] at hstep
    rw [hsteps'] at hrest
    omega

theorem mapCase_of_isFree (h : isFree low high step = true) (hlow : low ≤ n) (hhigh : n ≤ high)
    (hstep : (n - low) % step = 0) : mapCase upperRuns upperExpansions n = [n] := by
  obtain ⟨hruns, hexpansions⟩ := (Bool.and_eq_true _ _).mp h
  have hexpansion : upperExpansions.find? (·.1 == n) = none := by
    refine List.find?_eq_none.mpr fun e he heq => ?_
    have hapart := List.all_eq_true.mp hexpansions e he
    rw [eq_of_beq heq, Bool.or_eq_true, Nat.blt_eq, Nat.blt_eq] at hapart
    omega
  have hrun : upperRuns.find? (·.covers n) = none :=
    List.find?_eq_none.mpr fun r hr =>
      CaseRun.not_covers (List.all_eq_true.mp hruns r hr) hlow hhigh hstep
  rw [mapCase, hexpansion, hrun]

end Free

/-! ## What the tables make -/

/-- What a run makes is mapped by nothing. -/
theorem isFree_runs : (upperRuns.all fun r => decide (0 ≤ (r.first : Int) + r.shift) &&
    Nat.blt (r.apply r.last) 0x110000 &&
      isFree (r.apply r.first) (r.apply r.last) r.step) = true := by
  decide +kernel

/-- What an expansion is made of is mapped by nothing. -/
theorem isFree_expansions : (upperExpansions.all fun e => e.2.all fun m =>
    Nat.blt m 0x110000 && isFree m m 1) = true := by
  decide +kernel

theorem mapCase_of_run {r : CaseRun} (hr : r ∈ upperRuns) {n : Nat} (h : r.covers n = true) :
    mapCase upperRuns upperExpansions (r.apply n) = [r.apply n] ∧ r.apply n < 0x110000 := by
  have hfree := List.all_eq_true.mp isFree_runs r hr
  simp only [Bool.and_eq_true, decide_eq_true_eq, Nat.blt_eq] at hfree
  obtain ⟨⟨hshift, hlimit⟩, hfree⟩ := hfree
  obtain ⟨⟨hfirst, hlast⟩, hstep⟩ := CaseRun.covers_iff.mp h
  have hlow : r.apply r.first ≤ r.apply n := by simp only [CaseRun.apply]; omega
  have hhigh : r.apply n ≤ r.apply r.last := by simp only [CaseRun.apply]; omega
  have hsub : r.apply n - r.apply r.first = n - r.first := by simp only [CaseRun.apply]; omega
  exact ⟨mapCase_of_isFree hfree hlow hhigh (hsub ▸ hstep), Nat.lt_of_le_of_lt hhigh hlimit⟩

/-- Whatever the tables make of a code point is mapped by nothing. -/
theorem mapCase_of_mem {n m : Nat} (hn : n < 0x110000)
    (h : m ∈ mapCase upperRuns upperExpansions n) :
    mapCase upperRuns upperExpansions m = [m] ∧ m < 0x110000 := by
  cases hexpansion : upperExpansions.find? (·.1 == n) with
  | some e =>
      rw [mapCase, hexpansion] at h
      have hfree := List.all_eq_true.mp isFree_expansions e (List.mem_of_find?_eq_some hexpansion)
      have hfree := List.all_eq_true.mp hfree m h
      rw [Bool.and_eq_true, Nat.blt_eq] at hfree
      exact ⟨mapCase_of_isFree hfree.2 (Nat.le_refl m) (Nat.le_refl m) (Nat.mod_one _), hfree.1⟩
  | none =>
      cases hrun : upperRuns.find? (·.covers n) with
      | some r =>
          rw [mapCase, hexpansion, hrun] at h
          obtain rfl := List.mem_singleton.mp h
          have hcovers := List.find?_some (p := fun r : CaseRun => r.covers n) hrun
          exact mapCase_of_run (List.mem_of_find?_eq_some hrun) hcovers
      | none =>
          have hself : mapCase upperRuns upperExpansions n = [n] := by
            rw [mapCase, hexpansion, hrun]
          rw [hself] at h
          obtain rfl := List.mem_singleton.mp h
          exact ⟨hself, hn⟩

/-! ## Halves of pairs -/

/-- Whether none of the code points `low, …, high` is half a pair. -/
def missesHalves (low high : Nat) : Bool := Nat.blt high 0xD800 || Nat.blt 0xDFFF low

theorem missesHalves_tables : ((upperRuns.all fun r =>
    missesHalves (r.apply r.first) (r.apply r.last)) &&
      upperExpansions.all fun e => e.2.all fun m => missesHalves m m) = true := by
  decide +kernel

/-- The tables make halves of pairs of nothing else. -/
theorem eq_of_mem_mapCase {n m : Nat} (h : m ∈ mapCase upperRuns upperExpansions n)
    (hlow : 0xD800 ≤ m) (hhigh : m ≤ 0xDFFF) : n = m := by
  obtain ⟨hruns, hexpansions⟩ := (Bool.and_eq_true _ _).mp missesHalves_tables
  have hnot {low high : Nat} (hmiss : missesHalves low high = true) (h : low ≤ m) (h' : m ≤ high) :
      False := by
    rw [missesHalves, Bool.or_eq_true, Nat.blt_eq, Nat.blt_eq] at hmiss
    omega
  cases hexpansion : upperExpansions.find? (·.1 == n) with
  | some e =>
      rw [mapCase, hexpansion] at h
      have hmiss := List.all_eq_true.mp hexpansions e (List.mem_of_find?_eq_some hexpansion)
      exact (hnot (List.all_eq_true.mp hmiss m h) (Nat.le_refl m) (Nat.le_refl m)).elim
  | none =>
      cases hrun : upperRuns.find? (·.covers n) with
      | some r =>
          rw [mapCase, hexpansion, hrun] at h
          obtain rfl := List.mem_singleton.mp h
          have hmiss := List.all_eq_true.mp hruns r (List.mem_of_find?_eq_some hrun)
          have hcovers := List.find?_some (p := fun r : CaseRun => r.covers n) hrun
          obtain ⟨⟨hfirst, hlast⟩, -⟩ := CaseRun.covers_iff.mp hcovers
          refine (hnot hmiss ?_ ?_).elim <;> simp only [CaseRun.apply] <;> omega
      | none =>
          rw [mapCase, hexpansion, hrun] at h
          exact (List.mem_singleton.mp h).symm

/-! ## Texts in capitals -/

theorem toNat_lt (c : CodePoint) : c.toNat < 0x110000 := by
  cases c with
  | char c =>
      have hvalid : c.toNat < 0xD800 ∨ 0xDFFF < c.toNat ∧ c.toNat < 0x110000 := c.valid
      simp only [CodePoint.toNat]
      omega
  | lone half => simp only [CodePoint.toNat]; omega

/-- Half a pair is its own capital form, and that of nothing else. -/
theorem lone_mem_upperChar_iff {c : CodePoint} {half : Fin 2048} :
    .lone half ∈ upperChar c ↔ c = .lone half := by
  have hlone : (CodePoint.lone half).toNat = 0xD800 + half.val := rfl
  constructor
  · intro h
    obtain ⟨m, hm, hofNat⟩ := List.mem_map.mp h
    have hvalue := congrArg CodePoint.toNat hofNat
    rw [CodePoint.toNat_ofNat (mapCase_of_mem (toNat_lt c) hm).2, hlone] at hvalue
    have hsame := eq_of_mem_mapCase hm (by omega) (by omega)
    rw [← CodePoint.ofNat_toNat c, hsame, hofNat]
  · rintro rfl
    have hfree : isFree 0xD800 0xDFFF 1 = true := by decide +kernel
    rw [upperChar, mapCase_of_isFree hfree (by omega) (by omega) (Nat.mod_one _),
      List.map_singleton, CodePoint.ofNat_toNat]
    exact List.mem_singleton_self _

theorem upperChar_of_mem {c d : CodePoint} (h : c ∈ upperChar d) : upperChar c = [c] := by
  obtain ⟨m, hm, rfl⟩ := List.mem_map.mp h
  obtain ⟨hmap, hlimit⟩ := mapCase_of_mem (toNat_lt d) hm
  rw [upperChar, CodePoint.toNat_ofNat hlimit, hmap]
  rfl

/-- Every code point has a capital form. -/
theorem upperChar_ne_nil (c : CodePoint) : upperChar c ≠ [] := by
  have hexpansions : ∀ e ∈ upperExpansions, e.2 ≠ [] := by decide
  rw [upperChar, Ne, List.map_eq_nil_iff, mapCase]
  cases he : upperExpansions.find? (·.1 == c.toNat) with
  | some e => exact hexpansions e (List.mem_of_find?_eq_some he)
  | none =>
      dsimp only
      split <;> exact List.cons_ne_nil _ _

theorem isEmpty_upper (s : Text) : (upper s).isEmpty = s.isEmpty := by
  cases s with
  | nil => rfl
  | cons c rest =>
      have hne : upper (c :: rest) ≠ [] := by
        rw [upper, List.flatMap_cons]
        exact List.append_ne_nil_of_left_ne_nil (upperChar_ne_nil c) _
      exact List.isEmpty_eq_false_iff.mpr hne

/-- A text in capitals is its own capital form. -/
theorem upper_upper (s : Text) : upper (upper s) = upper s := by
  have hself : ∀ c ∈ upper s, upperChar c = [c] := by
    intro c hc
    obtain ⟨d, -, hd⟩ := List.mem_flatMap.mp hc
    exact upperChar_of_mem hd
  generalize upper s = t at hself
  induction t with
  | nil => rfl
  | cons c rest ih =>
      obtain ⟨hc, hrest⟩ := List.forall_mem_cons.mp hself
      rw [upper, List.flatMap_cons, hc, ← upper, ih hrest]
      rfl

end CivicSite.Text
