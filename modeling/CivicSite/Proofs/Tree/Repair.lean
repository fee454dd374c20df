import CivicSite.Tree.Basic

/-!
# What repairing a list of components leaves

A tree is well formed if its components are numbered from zero, if it is empty or framed by one
header and one footer, and if no kind that may not repeat does. This file shows that the three
repairs establish that, each by what it does to the *kinds* and *ids* of the components alone:

- `dropDuplicates` leaves a list without repeated ids in which no single kind occurs twice;
- `complete` adds what the frame lacks, with ids drawn from the supply, and numbers the result;
- `ofList` is the one after the other, so every list becomes a well-formed tree.

Ids are accounted for by permutation: the ids of a completed tree are those it was given and
those that were drawn. Whether they are distinct is then a question about the supply.
-/

namespace CivicSite

/-! ## Kinds and ids of components -/

theorem Body.value?_eq_none {b : Body} {f : Field} (h : f ∉ b.kind.fields) :
    b.value? f = none := by
  cases b <;> cases f <;> first | rfl | exact absurd (by simp [kind, Kind.fields]) h

theorem Body.ofFields_congr {k : Kind} {v v' : Field → Option Text}
    (h : ∀ f ∈ k.fields, v f = v' f) : ofFields k v = ofFields k v' := by
  cases k <;> simp_all [ofFields, Kind.fields]

theorem Alignment.mem_all (a : Alignment) : a ∈ all := by cases a <;> decide

namespace Component

/-- The kinds of components, in page order. -/
def kinds (cs : List Component) : List Kind := cs.map kind

/-- The ids of components, in page order. -/
def ids (cs : List Component) : List Text := cs.map id

/-- What a component holds agrees with its kind: the body is the variant of the kind, no text
stands in a field that the kind does not have, and the alignment is one of those offered. -/
structure Proper (c : Component) : Prop where
  variant : c.body = .ofFields c.kind c.body.value?
  fields : ∀ f, f ∉ c.kind.fields → c.body.value? f = none
  alignment : c.alignment ∈ Alignment.all

theorem proper (c : Component) : c.Proper where
  variant := (Body.ofFields_value? c.body).symm
  fields := fun _ hf => Body.value?_eq_none hf
  alignment := Alignment.mem_all c.alignment

theorem byPosition_perm (cs : List Component) : (byPosition cs).Perm cs :=
  List.mergeSort_perm cs _

theorem pairwise_byPosition (cs : List Component) :
    (byPosition cs).Pairwise fun a b => a.position ≤ b.position := by
  have htrans : ∀ a b c : Component, decide (a.position ≤ b.position) = true →
      decide (b.position ≤ c.position) = true → decide (a.position ≤ c.position) = true :=
    fun a b c hab hbc =>
      decide_eq_true (Int.le_trans (of_decide_eq_true hab) (of_decide_eq_true hbc))
  have htotal : ∀ a b : Component,
      (decide (a.position ≤ b.position) || decide (b.position ≤ a.position)) = true := by
    intro a b
    rw [Bool.or_eq_true, decide_eq_true_eq, decide_eq_true_eq]
    exact Int.le_total a.position b.position
  exact (List.pairwise_mergeSort htrans htotal cs).imp fun h => of_decide_eq_true h

end Component

open Component (kinds ids)

/-! ## Draws -/

namespace Supply

/-- The next texts of a supply, in order. -/
def next (s : Supply) (n : Nat) : List Text :=
  (List.range n).map fun i => s.item (s.taken + i)

/-- The supply once so many texts were taken. -/
def skip (s : Supply) (n : Nat) : Supply := { s with taken := s.taken + n }

/-- The texts that were taken from a supply until it became the other one. -/
def drawn (before after : Supply) : List Text := before.next (after.taken - before.taken)

@[simp] theorem next_zero (s : Supply) : s.next 0 = [] := rfl

theorem next_add (s : Supply) (m n : Nat) : s.next (m + n) = s.next m ++ (s.skip m).next n := by
  simp only [next, List.range_add, List.map_append, List.map_map, skip]
  refine congrArg _ (List.map_congr_left fun i _ => ?_)
  exact congrArg s.item (Nat.add_assoc ..).symm

theorem skip_skip (s : Supply) (m n : Nat) : (s.skip m).skip n = s.skip (m + n) := by
  simp only [skip, Nat.add_assoc]

@[simp] theorem drawn_skip (s : Supply) (n : Nat) : s.drawn (s.skip n) = s.next n := by
  simp [drawn, skip]

/-- The texts are new one after the other: none is among those held when it is taken, and each
is held from then on. -/
def AllNew (held : List Text) : List Text → Prop
  | [] => True
  | x :: rest => x ∉ held ∧ AllNew (x :: held) rest

theorem allNew_iff {held drawn : List Text} :
    AllNew held drawn ↔ drawn.Nodup ∧ ∀ x ∈ drawn, x ∉ held := by
  induction drawn generalizing held with
  | nil =>
      exact ⟨fun _ => ⟨List.nodup_nil, fun _ hx => (List.not_mem_nil hx).elim⟩, fun _ => trivial⟩
  | cons x rest ih =>
      rw [AllNew, ih, List.nodup_cons, List.forall_mem_cons]
      constructor
      · rintro ⟨hx, hrest, hnew⟩
        refine ⟨⟨fun hmem => hnew x hmem List.mem_cons_self, hrest⟩, hx, fun y hy hmem => ?_⟩
        exact hnew y hy (List.mem_cons_of_mem _ hmem)
      · rintro ⟨⟨hxrest, hrest⟩, hx, hnew⟩
        refine ⟨hx, hrest, fun y hy hmem => ?_⟩
        rcases List.mem_cons.mp hmem with rfl | hmem
        · exact hxrest hy
        · exact hnew y hy hmem

theorem AllNew.nodup_append {held drawn : List Text} (h : AllNew held drawn) (hn : held.Nodup) :
    (held ++ drawn).Nodup := by
  obtain ⟨hdrawn, hnew⟩ := allNew_iff.mp h
  refine List.nodup_append.mpr ⟨hn, hdrawn, fun x hx y hy hxy => ?_⟩
  exact hnew y hy (hxy ▸ hx)

/-- No text is among those held when it is taken. The first so many are taken before any of them is
held; from then on each is held once it was taken. -/
def Unheld (held : List Text) (together : Nat) (drawn : List Text) : Prop :=
  (∀ x ∈ drawn.take together, x ∉ held)
    ∧ AllNew (held ++ drawn.take together) (drawn.drop together)

/-- What is not held is new, but for repetitions among those that are taken together. -/
theorem allNew_iff_unheld {held drawn : List Text} (together : Nat) :
    AllNew held drawn ↔ Unheld held together drawn ∧ (drawn.take together).Nodup := by
  have hsplit := List.take_append_drop together drawn
  rw [Unheld, allNew_iff, allNew_iff]
  generalize drawn.take together = first, drawn.drop together = rest at hsplit ⊢
  subst hsplit
  rw [List.nodup_append, List.forall_mem_append]
  constructor
  · rintro ⟨⟨hfirst, hrest, hapart⟩, hfirstnew, hrestnew⟩
    refine ⟨⟨hfirstnew, hrest, fun x hx hmem => ?_⟩, hfirst⟩
    rcases List.mem_append.mp hmem with hheld | hmem
    · exact hrestnew x hx hheld
    · exact hapart x hmem x hx rfl
  · rintro ⟨⟨hfirstnew, hrest, hrestnew⟩, hfirst⟩
    refine ⟨⟨hfirst, hrest, fun x hx y hy heq => ?_⟩, hfirstnew, fun y hy hheld => ?_⟩
    · exact hrestnew y hy (List.mem_append_right held (heq ▸ hx))
    · exact hrestnew y hy (List.mem_append_left first hheld)

end Supply

namespace Tree

/-! ## Well-formed trees -/

/-- The components count from zero without gaps. -/
def Numbered (cs : List Component) : Prop :=
  ∀ (i : Nat) (h : i < cs.length), cs[i].position = i

/-- No kind that may not repeat occurs twice. -/
def Single (ks : List Kind) : Prop :=
  ∀ k : Kind, k.isRepeatable = false → ks.count k ≤ 1

/-- There is one header and one footer. -/
def Framed (ks : List Kind) : Prop :=
  ks.count .header = 1 ∧ ks.count .footer = 1

/-- What every tree is after every operation. -/
structure WellFormed (t : Tree) : Prop where
  numbered : Numbered t.components
  framed : t.components = [] ∨ Framed (kinds t.components)
  single : Single (kinds t.components)
  proper : ∀ c ∈ t.components, c.Proper

/-- The ids of a tree, in page order. -/
def ids (t : Tree) : List Text := Component.ids t.components

theorem wellFormed_empty : empty.WellFormed where
  numbered := fun i h => absurd h (Nat.not_lt_zero i)
  framed := Or.inl rfl
  single := fun _ _ => Nat.zero_le 1
  proper := fun c _ => c.proper

theorem Single.of_perm {ks ls : List Kind} (h : Single ks) (hp : ls.Perm ks) : Single ls :=
  fun k hk => hp.count_eq k ▸ h k hk

theorem Single.of_sublist {ks ls : List Kind} (h : Single ks) (hs : ls.Sublist ks) : Single ls :=
  fun k hk => Nat.le_trans (hs.count_le k) (h k hk)

theorem Framed.of_perm {ks ls : List Kind} (h : Framed ks) (hp : ls.Perm ks) : Framed ls :=
  ⟨hp.count_eq .header ▸ h.1, hp.count_eq .footer ▸ h.2⟩

/-! ## Numbering -/

theorem getElem?_renumber (cs : List Component) (i : Nat) :
    (renumber cs)[i]? = cs[i]?.map fun c => { c with position := i } := by
  simp only [renumber, List.getElem?_map, List.getElem?_zipIdx, Nat.zero_add, Option.map_map]
  rfl

@[simp] theorem length_renumber (cs : List Component) : (renumber cs).length = cs.length := by
  simp [renumber]

/-- Numbering changes nothing that does not depend on positions. -/
theorem map_renumber {β : Type} {f : Component → β} (cs : List Component)
    (hf : ∀ c p, f { c with position := p } = f c) : (renumber cs).map f = cs.map f := by
  refine List.ext_getElem? fun i => ?_
  rw [List.getElem?_map, List.getElem?_map, getElem?_renumber, Option.map_map]
  exact Option.map_congr fun c _ => hf c i

@[simp] theorem kinds_renumber (cs : List Component) : kinds (renumber cs) = kinds cs :=
  map_renumber cs fun _ _ => rfl

@[simp] theorem ids_renumber (cs : List Component) :
    Component.ids (renumber cs) = Component.ids cs :=
  map_renumber cs fun _ _ => rfl

theorem numbered_renumber (cs : List Component) : Numbered (renumber cs) := by
  intro i h
  have hi := getElem?_renumber cs i
  rw [List.getElem?_eq_getElem h] at hi
  obtain ⟨c, -, hc⟩ := Option.map_eq_some_iff.mp hi.symm
  exact hc ▸ rfl

theorem renumber_of_numbered {cs : List Component} (h : Numbered cs) : renumber cs = cs := by
  refine List.ext_getElem? fun i => ?_
  rw [getElem?_renumber]
  cases hi : cs[i]? with
  | none => rfl
  | some c =>
      obtain ⟨hlt, rfl⟩ := List.getElem?_eq_some_iff.mp hi
      have hp := h i hlt
      simp only [Option.map_some, ← hp]

/-- A list whose kinds make a tree is one once it is numbered. -/
theorem wellFormed_renumber {cs : List Component} (hf : cs = [] ∨ Framed (kinds cs))
    (hs : Single (kinds cs)) : (⟨renumber cs⟩ : Tree).WellFormed where
  numbered := numbered_renumber cs
  framed := by
    rcases hf with rfl | hf
    · exact Or.inl rfl
    · exact Or.inr (by rw [kinds_renumber]; exact hf)
  single := by rw [kinds_renumber]; exact hs
  proper := fun c _ => c.proper

/-! ## Duplicates

Both criteria act through what was seen so far, so each statement says how the result stays clear
of the ids and kinds that were seen before the list began. -/

theorem dropDuplicates_sublist (cs : List Component) :
    ∀ (seen : List Text) (ks : List Kind), (dropDuplicates seen ks cs).Sublist cs := by
  induction cs with
  | nil => exact fun _ _ => List.Sublist.refl _
  | cons c rest ih =>
      intro seen ks
      unfold dropDuplicates
      split
      · exact (ih seen ks).cons c
      · exact (ih _ _).cons_cons c

theorem ids_dropDuplicates (cs : List Component) : ∀ (seen : List Text) (ks : List Kind),
    (Component.ids (dropDuplicates seen ks cs)).Nodup
      ∧ ∀ x ∈ Component.ids (dropDuplicates seen ks cs), x ∉ seen := by
  induction cs with
  | nil => exact fun _ _ => ⟨List.nodup_nil, fun _ hx => (List.not_mem_nil hx).elim⟩
  | cons c rest ih =>
      intro seen ks
      unfold dropDuplicates
      split
      · exact ih seen ks
      · rename_i hc
        have hnew : c.id ∉ seen := fun hmem => hc (by simp [hmem])
        obtain ⟨hnodup, hseen⟩ := ih (c.id :: seen) (c.kind :: ks)
        refine ⟨List.nodup_cons.mpr ⟨fun hmem => hseen _ hmem List.mem_cons_self, hnodup⟩, ?_⟩
        intro x hx
        rcases List.mem_cons.mp hx with rfl | hx
        · exact hnew
        · exact fun hmem => hseen x hx (List.mem_cons_of_mem _ hmem)

theorem count_dropDuplicates (cs : List Component) {k : Kind} (hk : k.isRepeatable = false) :
    ∀ (seen : List Text) (ks : List Kind),
      (kinds (dropDuplicates seen ks cs)).count k ≤ if k ∈ ks then 0 else 1 := by
  induction cs with
  | nil => exact fun _ _ => Nat.zero_le _
  | cons c rest ih =>
      intro seen ks
      unfold dropDuplicates
      split
      · exact ih seen ks
      · rename_i hc
        have h := ih (c.id :: seen) (c.kind :: ks)
        show (c.kind :: kinds (dropDuplicates (c.id :: seen) (c.kind :: ks) rest)).count k ≤ _
        rw [List.count_cons]
        by_cases hkc : c.kind = k
        · subst hkc
          have hnew : c.kind ∉ ks := fun hmem => hc (by simp [hk, hmem])
          simp only [List.mem_cons, true_or, if_true] at h
          simp only [beq_self_eq_true, if_true, hnew, if_false]
          omega
        · have hmem : k ∈ c.kind :: ks ↔ k ∈ ks := by
            simp [List.mem_cons, Ne.symm hkc]
          simp only [hmem] at h
          simpa [hkc] using h

/-- The components that a list keeps when a tree is made of it. -/
def kept (cs : List Component) : List Component :=
  dropDuplicates [] [] (Component.byPosition cs)

theorem nodup_kept (cs : List Component) : (Component.ids (kept cs)).Nodup :=
  (ids_dropDuplicates _ [] []).1

theorem single_kept (cs : List Component) : Single (kinds (kept cs)) :=
  fun _ hk => count_dropDuplicates _ hk [] []

/-! ## Completion -/

theorem any_kind (cs : List Component) (k : Kind) :
    (cs.any (·.kind == k)) = decide (k ∈ kinds cs) := by
  rw [Bool.eq_iff_iff, List.any_eq_true, decide_eq_true_iff, kinds, List.mem_map]
  exact exists_congr fun c => and_congr_right fun _ => beq_iff_eq

theorem ensureHeader_eq (cs : List Component) (s : Supply) :
    ensureHeader cs s =
      if .header ∈ kinds cs then (cs, s)
      else (⟨s.item s.taken, .header none, 0, .center⟩ :: cs, s.skip 1) := by
  rw [ensureHeader, any_kind]
  by_cases h : Kind.header ∈ kinds cs
  · rw [decide_eq_true h, if_pos rfl, if_pos h]
  · rw [decide_eq_false h, if_neg h]
    rfl

theorem ensureFooter_eq (cs : List Component) (s : Supply) :
    ensureFooter cs s =
      if .footer ∈ kinds cs then (cs, s)
      else (cs ++ [⟨s.item s.taken, .footer, 0, .center⟩], s.skip 1) := by
  rw [ensureFooter, any_kind]
  by_cases h : Kind.footer ∈ kinds cs
  · rw [decide_eq_true h, if_pos rfl, if_pos h]
  · rw [decide_eq_false h, if_neg h]
    rfl

/-- A kind if it is missing among others. -/
def missing (k : Kind) (ks : List Kind) : List Kind := if k ∈ ks then [] else [k]

theorem missing_congr {k : Kind} {ks ls : List Kind} (h : k ∈ ks ↔ k ∈ ls) :
    missing k ks = missing k ls := by
  simp only [missing, h]

theorem kinds_ensureHeader (cs : List Component) (s : Supply) :
    kinds (ensureHeader cs s).1 = missing .header (kinds cs) ++ kinds cs := by
  rw [ensureHeader_eq, missing]
  split <;> rfl

theorem kinds_ensureFooter (cs : List Component) (s : Supply) :
    kinds (ensureFooter cs s).1 = kinds cs ++ missing .footer (kinds cs) := by
  rw [ensureFooter_eq, missing]
  split
  · exact (List.append_nil _).symm
  · exact List.map_append

theorem count_missing_self {k : Kind} {ks : List Kind} (h : ks.count k ≤ 1) :
    (missing k ks).count k + ks.count k = 1 := by
  unfold missing
  split
  · have := List.count_pos_iff.mpr ‹k ∈ ks›
    rw [List.count_nil]
    omega
  · rw [List.count_eq_zero_of_not_mem ‹k ∉ ks›, List.count_singleton_self]

theorem count_missing_of_ne {k l : Kind} (ks : List Kind) (h : k ≠ l) :
    (missing k ks).count l = 0 := by
  unfold missing
  split <;> simp [h]

/-- The ids of components that an operation leaves are some of those held and those drawn. -/
def Gathers (held : List Text) (before : Supply) (cs : List Component) (after : Supply) : Prop :=
  ∃ (n : Nat) (some : List Text), after = before.skip n
    ∧ some.Sublist (held ++ before.next n) ∧ (Component.ids cs).Perm some

theorem Gathers.of_sublist {held : List Text} {cs : List Component} (s : Supply)
    (h : (Component.ids cs).Sublist held) : Gathers held s cs s :=
  ⟨0, _, rfl, by rw [Supply.next_zero, List.append_nil]; exact h, List.Perm.refl _⟩

theorem Gathers.of_perm {held : List Text} {cs : List Component} (s : Supply)
    (h : (Component.ids cs).Perm held) : Gathers held s cs s :=
  ⟨0, held, rfl, List.sublist_append_left _ _, h⟩

theorem Gathers.trans {held : List Text} {s s' s'' : Supply} {cs cs' : List Component}
    (h : Gathers held s cs s') (h' : Gathers (Component.ids cs) s' cs' s'') :
    Gathers held s cs' s'' := by
  obtain ⟨n, l, rfl, hl, hp⟩ := h
  obtain ⟨m, l', rfl, hl', hp'⟩ := h'
  obtain ⟨l'', hperm, hsub⟩ := List.exists_perm_sublist hl' (hp.append_right ((s.skip n).next m))
  refine ⟨n + m, l'', Supply.skip_skip s n m, ?_, hp'.trans hperm.symm⟩
  rw [Supply.next_add, ← List.append_assoc]
  exact hsub.trans (hl.append_right _)

/-- Distinct ids stay distinct where what is drawn is new. -/
theorem Gathers.nodup {held : List Text} {s s' : Supply} {cs : List Component}
    (h : Gathers held s cs s') (hn : held.Nodup) (hnew : Supply.AllNew held (s.drawn s')) :
    (Component.ids cs).Nodup := by
  obtain ⟨n, l, rfl, hl, hp⟩ := h
  rw [Supply.drawn_skip] at hnew
  exact hp.nodup_iff.mpr (hl.nodup (hnew.nodup_append hn))

theorem Gathers.of_draw {held : List Text} {cs : List Component} (s : Supply)
    (h : (Component.ids cs).Perm (s.item s.taken :: held)) : Gathers held s cs (s.skip 1) :=
  ⟨1, held ++ s.next 1, rfl, List.Sublist.refl _, h.trans (@List.perm_append_comm _ [_] _)⟩

theorem gathers_ensureHeader (cs : List Component) (s : Supply) :
    Gathers (Component.ids cs) s (ensureHeader cs s).1 (ensureHeader cs s).2 := by
  rw [ensureHeader_eq]
  split
  · exact Gathers.of_perm s (List.Perm.refl _)
  · exact Gathers.of_draw s (List.Perm.refl _)

theorem gathers_ensureFooter (cs : List Component) (s : Supply) :
    Gathers (Component.ids cs) s (ensureFooter cs s).1 (ensureFooter cs s).2 := by
  rw [ensureFooter_eq]
  split
  · exact Gathers.of_perm s (List.Perm.refl _)
  · refine Gathers.of_draw s ?_
    rw [Component.ids, List.map_append]
    exact List.perm_append_comm

/-! ## Completed trees -/

/-- The components with header and footer, before they are numbered. -/
def frame (cs : List Component) (s : Supply) : List Component × Supply :=
  ensureFooter (ensureHeader cs s).1 (ensureHeader cs s).2

theorem complete_eq (cs : List Component) (s : Supply) :
    complete cs s = (⟨renumber (frame cs s).1⟩, (frame cs s).2) := rfl

/-- A frame adds to the kinds what is missing, in front and at the end. -/
theorem kinds_frame (cs : List Component) (s : Supply) :
    kinds (frame cs s).1
      = missing .header (kinds cs) ++ kinds cs ++ missing .footer (kinds cs) := by
  have hmem : Kind.footer ∈ missing .header (kinds cs) ++ kinds cs ↔ Kind.footer ∈ kinds cs := by
    unfold missing
    split <;> simp
  rw [frame, kinds_ensureFooter, kinds_ensureHeader, missing_congr hmem]

theorem framed_frame {cs : List Component} (h : Single (kinds cs)) (s : Supply) :
    Framed (kinds (frame cs s).1) := by
  rw [kinds_frame]
  constructor
  · rw [List.count_append, List.count_append, count_missing_self (h .header rfl),
      count_missing_of_ne _ (by decide)]
  · rw [List.count_append, List.count_append, count_missing_of_ne _ (by decide), Nat.zero_add,
      Nat.add_comm, count_missing_self (h .footer rfl)]

theorem single_frame {cs : List Component} (h : Single (kinds cs)) (s : Supply) :
    Single (kinds (frame cs s).1) := by
  intro k hk
  by_cases hheader : Kind.header = k
  · exact hheader ▸ Nat.le_of_eq (framed_frame h s).1
  · by_cases hfooter : Kind.footer = k
    · exact hfooter ▸ Nat.le_of_eq (framed_frame h s).2
    · rw [kinds_frame, List.count_append, List.count_append, count_missing_of_ne _ hheader,
        count_missing_of_ne _ hfooter, Nat.zero_add]
      exact h k hk

theorem gathers_frame (cs : List Component) (s : Supply) :
    Gathers (Component.ids cs) s (frame cs s).1 (frame cs s).2 :=
  (gathers_ensureHeader cs s).trans (gathers_ensureFooter _ _)

/-- Whatever single kinds a list has, completion makes a well-formed tree of it. -/
theorem wellFormed_complete {cs : List Component} (h : Single (kinds cs)) (s : Supply) :
    (complete cs s).1.WellFormed :=
  wellFormed_renumber (Or.inr (framed_frame h s)) (single_frame h s)

theorem gathers_complete (cs : List Component) (s : Supply) :
    Gathers (Component.ids cs) s (complete cs s).1.components (complete cs s).2 := by
  obtain ⟨n, l, hs, hl, hp⟩ := gathers_frame cs s
  exact ⟨n, l, hs, hl, by rw [complete_eq, ids_renumber]; exact hp⟩

/-! ## Trees of lists -/

theorem ofList_nil (s : Supply) : ofList [] s = (empty, s) := by
  simp [ofList, Component.byPosition]

theorem ofList_of_ne_nil {cs : List Component} (h : cs ≠ []) (s : Supply) :
    ofList cs s = complete (kept cs) s := by
  unfold ofList kept
  split
  · rename_i hnil
    exact absurd (List.nil_perm.mp (hnil ▸ Component.byPosition_perm cs)) h
  · rfl

theorem wellFormed_ofList (cs : List Component) (s : Supply) : (ofList cs s).1.WellFormed := by
  by_cases h : cs = []
  · rw [h, ofList_nil]
    exact wellFormed_empty
  · rw [ofList_of_ne_nil h]
    exact wellFormed_complete (single_kept cs) s

theorem gathers_ofList (cs : List Component) (s : Supply) :
    Gathers (Component.ids (kept cs)) s (ofList cs s).1.components (ofList cs s).2 := by
  by_cases h : cs = []
  · rw [h, ofList_nil]
    exact Gathers.of_sublist s (List.nil_sublist _)
  · rw [ofList_of_ne_nil h]
    exact gathers_complete (kept cs) s

end Tree

end CivicSite
