import CivicSite.Proofs.Tree.Edit

/-!
# Runs of tree operations

A run makes a tree of a list of components and lets operations act on it one after the other.
Every tree of a run is well formed, whatever the list, the operations and their arguments are. That
its ids are distinct takes a supply that does not hand out an id which is in use: `Fresh` says so
step by step, and a supply without repetitions that avoids the ids of the list satisfies it
(`Fresh.of_injective`).
-/

namespace CivicSite

namespace Tree

/-! ## Operations -/

/-- What can be done with a tree. -/
inductive Operation where
  | edit (e : Edit)
  /-- Takes all components away. -/
  | clear
  /-- Makes a new tree of the components. -/
  | rebuild

/-- The tree and the supply after an operation. -/
def Operation.run (t : Tree) (s : Supply) : Operation → Tree × Supply
  | .edit e => (e.run t s).2
  | .clear => (empty, s)
  | .rebuild => ofList t.components s

/-- The tree and the supply after operations. -/
def runAll (t : Tree) (s : Supply) : List Operation → Tree × Supply
  | [] => (t, s)
  | o :: rest => runAll (o.run t s).1 (o.run t s).2 rest

/-- The tree of a list of components and the supply, after operations on that tree. -/
def runFrom (cs : List Component) (s : Supply) (os : List Operation) : Tree × Supply :=
  runAll (ofList cs s).1 (ofList cs s).2 os

theorem WellFormed.operation {t : Tree} (h : t.WellFormed) (s : Supply) (o : Operation) :
    (o.run t s).1.WellFormed := by
  cases o with
  | edit e => exact h.run s e
  | clear => exact wellFormed_empty
  | rebuild => exact wellFormed_ofList t.components s

theorem WellFormed.runAll {t : Tree} (h : t.WellFormed) (s : Supply) (os : List Operation) :
    (runAll t s os).1.WellFormed := by
  induction os generalizing t s with
  | nil => exact h
  | cons o rest ih => exact ih (h.operation s o) _

/-! ## Rebuilding

A tree in order is left alone when it is made anew: its components are in the order of their
positions, without duplicates, and have their frame. -/

theorem byPosition_of_numbered {cs : List Component} (h : Numbered cs) :
    Component.byPosition cs = cs := by
  refine List.mergeSort_of_pairwise (List.pairwise_iff_getElem.mpr fun i j hi hj hij => ?_)
  rw [h i hi, h j hj, decide_eq_true_iff]
  omega

theorem dropDuplicates_eq_self (cs : List Component) : ∀ (seen : List Text) (ks : List Kind),
    (Component.ids cs).Nodup → (∀ x ∈ Component.ids cs, x ∉ seen)
    → (∀ k : Kind, k.isRepeatable = false → (Component.kinds cs).count k ≤ if k ∈ ks then 0 else 1)
    → dropDuplicates seen ks cs = cs := by
  induction cs with
  | nil => exact fun _ _ _ _ _ => rfl
  | cons c rest ih =>
      intro seen ks hnodup hseen hcount
      have hid : c.id ∉ seen := hseen c.id List.mem_cons_self
      obtain ⟨hhead, htail⟩ := List.nodup_cons.mp hnodup
      have hkind : c.kind.isRepeatable = false → c.kind ∉ ks := by
        intro hk hmem
        have hc := hcount c.kind hk
        rw [if_pos hmem] at hc
        have hpos := List.count_pos_iff.mpr (List.mem_cons_self (a := c.kind)
          (l := Component.kinds rest))
        exact absurd hpos (Nat.not_lt.mpr hc)
      have hkeep :
          (seen.contains c.id || (!c.kind.isRepeatable && ks.contains c.kind)) = false := by
        cases hk : c.kind.isRepeatable with
        | true => simpa using hid
        | false => simpa using ⟨hid, hkind hk⟩
      have hids : ∀ x ∈ Component.ids rest, x ∉ c.id :: seen := by
        intro x hx hmem
        rcases List.mem_cons.mp hmem with rfl | hmem
        · exact hhead hx
        · exact hseen x (List.mem_cons_of_mem _ hx) hmem
      have hkinds : ∀ k : Kind, k.isRepeatable = false →
          (Component.kinds rest).count k ≤ if k ∈ c.kind :: ks then 0 else 1 := by
        intro k hk
        have hc : (c.kind :: Component.kinds rest).count k ≤ if k ∈ ks then 0 else 1 := hcount k hk
        rw [List.count_cons] at hc
        by_cases hck : c.kind = k
        · subst hck
          rw [if_neg (hkind hk), beq_self_eq_true, if_pos rfl] at hc
          rw [if_pos List.mem_cons_self]
          omega
        · have hmem : k ∈ c.kind :: ks ↔ k ∈ ks := by simp [List.mem_cons, Ne.symm hck]
          simp only [hmem]
          exact Nat.le_trans (Nat.le_add_right ..) hc
      rw [dropDuplicates, hkeep, if_neg Bool.false_ne_true, ih _ _ htail hids hkinds]

theorem kept_eq_self {t : Tree} (h : t.WellFormed) (hn : t.ids.Nodup) :
    kept t.components = t.components := by
  rw [kept, byPosition_of_numbered h.numbered]
  exact dropDuplicates_eq_self _ [] [] hn (fun _ _ => List.not_mem_nil) h.single

theorem frame_eq_self {cs : List Component} (h : Framed (Component.kinds cs)) (s : Supply) :
    frame cs s = (cs, s) := by
  have hheader : Kind.header ∈ Component.kinds cs := List.count_pos_iff.mp (by rw [h.1]; decide)
  have hfooter : Kind.footer ∈ Component.kinds cs := List.count_pos_iff.mp (by rw [h.2]; decide)
  rw [frame, ensureHeader_eq, if_pos hheader, ensureFooter_eq, if_pos hfooter]

/-- Making a well-formed tree with distinct ids anew gives the same tree and draws nothing. -/
theorem ofList_components {t : Tree} (h : t.WellFormed) (hn : t.ids.Nodup) (s : Supply) :
    ofList t.components s = (t, s) := by
  rcases h.framed with hnil | hframed
  · rw [hnil, ofList_nil]
    exact congrArg (·, s) (congrArg Tree.mk hnil.symm)
  · have hne : t.components ≠ [] := fun hnil => by
      rw [hnil] at hframed
      exact absurd hframed.1 (by decide)
    rw [ofList_of_ne_nil hne, kept_eq_self h hn, complete_eq, frame_eq_self hframed,
      renumber_of_numbered h.numbered]

/-! ## Distinct ids -/

/-- Every id that is drawn in a run is new to the tree it is drawn for. Within one operation a
component counts from the moment it is made, before it is put in its place. -/
def FreshAll (t : Tree) (s : Supply) : List Operation → Prop
  | [] => True
  | o :: rest =>
    Supply.AllNew t.ids (s.drawn (o.run t s).2) ∧ FreshAll (o.run t s).1 (o.run t s).2 rest

/-- The same from the list of components on that the first tree is made of. -/
def Fresh (cs : List Component) (s : Supply) (os : List Operation) : Prop :=
  Supply.AllNew (Component.ids (kept cs)) (s.drawn (ofList cs s).2)
    ∧ FreshAll (ofList cs s).1 (ofList cs s).2 os

/-- Every operation leaves some of the ids that were there and some that were drawn. -/
theorem gathers_operation {t : Tree} (hw : t.WellFormed) (hn : t.ids.Nodup) (s : Supply)
    (o : Operation) : Gathers t.ids s (o.run t s).1.components (o.run t s).2 := by
  cases o with
  | edit e => exact gathers_run t s e
  | clear => exact Gathers.of_sublist s (List.nil_sublist _)
  | rebuild =>
      rw [Operation.run, ofList_components hw hn]
      exact Gathers.of_perm s (List.Perm.refl _)

theorem nodup_runAll {t : Tree} (hw : t.WellFormed) (hn : t.ids.Nodup) {s : Supply}
    {os : List Operation} (h : FreshAll t s os) : (runAll t s os).1.ids.Nodup := by
  induction os generalizing t s with
  | nil => exact hn
  | cons o rest ih =>
      have hstep := (gathers_operation hw hn s o).nodup hn h.1
      exact ih (hw.operation s o) hstep h.2

/-! ## Ids that the tree does not hold

It would not do to ask that an id is not in the tree when it is drawn. Two ids are drawn for a new
website while its tree is still empty, so a supply may repeat itself there. -/

/-- How many components an operation makes before it puts the first of them in its place. -/
def Operation.together : Operation → Nat
  | .edit (.seed _) => 2
  | _ => 1

/-- No id that is drawn in a run is one that the tree holds at that moment. -/
def UnheldAll (t : Tree) (s : Supply) : List Operation → Prop
  | [] => True
  | o :: rest =>
    Supply.Unheld t.ids o.together (s.drawn (o.run t s).2)
      ∧ UnheldAll (o.run t s).1 (o.run t s).2 rest

/-- The same from the list of components on that the first tree is made of. -/
def Unheld (cs : List Component) (s : Supply) (os : List Operation) : Prop :=
  Supply.Unheld (Component.ids (kept cs)) 1 (s.drawn (ofList cs s).2)
    ∧ UnheldAll (ofList cs s).1 (ofList cs s).2 os

/-- No operation draws an id twice for what it makes before the tree holds any of it. -/
def ApartAll (t : Tree) (s : Supply) : List Operation → Prop
  | [] => True
  | o :: rest =>
    ((s.drawn (o.run t s).2).take o.together).Nodup ∧ ApartAll (o.run t s).1 (o.run t s).2 rest

theorem freshAll_iff {t : Tree} {s : Supply} {os : List Operation} :
    FreshAll t s os ↔ UnheldAll t s os ∧ ApartAll t s os := by
  induction os generalizing t s with
  | nil => exact ⟨fun _ => ⟨trivial, trivial⟩, fun _ => trivial⟩
  | cons o rest ih =>
      rw [FreshAll, UnheldAll, ApartAll, ih, Supply.allNew_iff_unheld o.together]
      exact and_and_and_comm

/-- **What the weaker premise lacks**: every id that is drawn is new just if none is in the tree
when it is drawn, and no operation draws one twice for what it makes at once. -/
theorem fresh_iff {cs : List Component} {s : Supply} {os : List Operation} :
    Fresh cs s os ↔ Unheld cs s os ∧ ApartAll (ofList cs s).1 (ofList cs s).2 os := by
  have hone (drawn : List Text) : (drawn.take 1).Nodup := by
    cases drawn with
    | nil => exact List.nodup_nil
    | cons x rest => exact List.nodup_cons.mpr ⟨List.not_mem_nil, List.nodup_nil⟩
  rw [Fresh, Unheld, freshAll_iff, Supply.allNew_iff_unheld 1, and_iff_left (hone _), and_assoc]

/-- Of the three ids that a new website draws only the last has to keep away from the others. -/
theorem unheld_seed {s : Supply} (h : s.item (s.taken + 2) ∉ s.next 2) (settlement : Text) :
    Unheld [] s [.edit (.seed settlement)] := by
  have hnone : s.drawn s = [] := Supply.drawn_skip s 0
  have hdrawn : s.drawn (s.skip 3) = s.next 2 ++ [s.item (s.taken + 2)] := Supply.drawn_skip s 3
  have hstart : ofList [] s = (empty, s) := ofList_nil s
  rw [Unheld, hstart, hnone]
  refine ⟨⟨fun _ hx => absurd hx List.not_mem_nil, trivial⟩, ⟨fun _ _ => List.not_mem_nil, ?_⟩,
    trivial⟩
  show Supply.AllNew ([] ++ (s.drawn (s.skip 3)).take 2) ((s.drawn (s.skip 3)).drop 2)
  rw [hdrawn]
  exact ⟨h, trivial⟩

theorem components_seed (s : Supply) (settlement : Text) :
    (runFrom [] s [.edit (.seed settlement)]).1.components
      = renumber [startHeader settlement s, startHero s,
        ⟨s.item (s.taken + 2), .footer, 0, .center⟩] := by
  rw [runFrom, ofList_nil]
  rfl

/-! ## Supplies without repetitions -/

/-- Nothing that is still to come from a supply is among the ids. -/
def Ahead (held : List Text) (s : Supply) : Prop := ∀ n, s.taken ≤ n → s.item n ∉ held

theorem Ahead.allNew {held : List Text} {s : Supply} (h : Ahead held s)
    (hinj : ∀ m n, s.item m = s.item n → m = n) (n : Nat) : Supply.AllNew held (s.next n) := by
  refine Supply.allNew_iff.mpr ⟨?_, ?_⟩
  · refine List.pairwise_map.mpr (List.nodup_range.imp fun hne heq => hne ?_)
    exact Nat.add_left_cancel (hinj _ _ heq)
  · intro x hx
    obtain ⟨i, -, rfl⟩ := List.mem_map.mp hx
    exact h _ (Nat.le_add_right ..)

theorem Ahead.gathers {held : List Text} {s s' : Supply} {cs : List Component} (h : Ahead held s)
    (hinj : ∀ m n, s.item m = s.item n → m = n) (hg : Gathers held s cs s') :
    Ahead (Component.ids cs) s' := by
  obtain ⟨n, l, rfl, hl, hp⟩ := hg
  intro m hm hmem
  have hm : s.taken + n ≤ m := hm
  rcases List.mem_append.mp (hl.subset (hp.mem_iff.mp hmem)) with hheld | hnext
  · exact h m (by omega) hheld
  · obtain ⟨i, hi, heq⟩ := List.mem_map.mp hnext
    have hi := List.mem_range.mp hi
    have := hinj _ _ heq
    omega

theorem FreshAll.of_injective {t : Tree} {s : Supply} (hw : t.WellFormed) (hn : t.ids.Nodup)
    (hinj : ∀ m n, s.item m = s.item n → m = n) (h : Ahead t.ids s) (os : List Operation) :
    FreshAll t s os := by
  induction os generalizing t s with
  | nil => trivial
  | cons o rest ih =>
      have hg := gathers_operation hw hn s o
      have hnew : Supply.AllNew t.ids (s.drawn (o.run t s).2) := by
        obtain ⟨n, -, hs, -⟩ := hg
        rw [hs, Supply.drawn_skip]
        exact h.allNew hinj n
      refine ⟨hnew, ih (hw.operation s o) (hg.nodup hn hnew) ?_ (h.gathers hinj hg)⟩
      obtain ⟨n, -, hs, -⟩ := hg
      rw [hs]
      exact hinj

/-- A supply that never repeats itself and does not hand out the ids of the list is fresh. -/
theorem Fresh.of_injective {cs : List Component} {s : Supply}
    (hinj : ∀ m n, s.item m = s.item n → m = n) (h : Ahead (Component.ids cs) s)
    (os : List Operation) : Fresh cs s os := by
  have hkept : Ahead (Component.ids (kept cs)) s := by
    intro n hn hmem
    have hsub := (dropDuplicates_sublist (Component.byPosition cs) [] []).map Component.id
    have hperm := (Component.byPosition_perm cs).map Component.id
    exact h n hn (hperm.mem_iff.mp (hsub.subset hmem))
  have hg := gathers_ofList cs s
  have hnew : Supply.AllNew (Component.ids (kept cs)) (s.drawn (ofList cs s).2) := by
    obtain ⟨n, -, hs, -⟩ := hg
    rw [hs, Supply.drawn_skip]
    exact hkept.allNew hinj n
  refine ⟨hnew, FreshAll.of_injective (wellFormed_ofList cs s) ?_ ?_ (hkept.gathers hinj hg) os⟩
  · exact hg.nodup (nodup_kept cs) hnew
  · obtain ⟨n, -, hs, -⟩ := hg
    rw [hs]
    exact hinj

/-! ## The invariant -/

/-- **The invariant of trees.** After any operations on a tree that was made of any components,
the tree is well formed, and its ids are distinct if those that were drawn were new: to the tree,
and to those that the same operation had drawn before. -/
theorem runFrom_sound (cs : List Component) (s : Supply) (os : List Operation) :
    (runFrom cs s os).1.WellFormed ∧ (Fresh cs s os → (runFrom cs s os).1.ids.Nodup) := by
  have hw : (ofList cs s).1.WellFormed := wellFormed_ofList cs s
  refine ⟨hw.runAll _ os, ?_⟩
  rintro ⟨hstart, hrest⟩
  exact nodup_runAll hw ((gathers_ofList cs s).nodup (nodup_kept cs) hstart) hrest

/-- A blog with its double, edited and made anew, on a supply of ever longer ids. -/
theorem runFrom_sound_blog :
    let cs : List Component := [⟨"b", .blog none, 7, .left⟩, ⟨"b", .map none, 3, .right⟩]
    let s : Supply := .ofSequence fun n => List.replicate n 'c'
    let os : List Operation := [.edit (.add "hero"), .edit (.move "ccc" "up"), .rebuild,
      .edit (.delete "b"), .edit (.edit "" [("title", none)]), .clear, .edit (.seed "Iași")]
    Fresh cs s os ∧ (runFrom cs s os).1.ids.Nodup := by
  intro cs s os
  have hinj : ∀ m n, s.item m = s.item n → m = n := fun m n h => by
    simpa [s, Supply.ofSequence] using congrArg List.length h
  have hahead : Ahead (Component.ids cs) s := by
    intro n _ hmem
    obtain ⟨c, hc, hid⟩ := List.mem_map.mp hmem
    have hb : CodePoint.char 'b' ∈ List.replicate n (CodePoint.char 'c') := by
      show CodePoint.char 'b' ∈ s.item n
      rw [← hid]
      simp only [cs, List.mem_cons, List.not_mem_nil, or_false] at hc
      rcases hc with rfl | rfl <;> decide
    cases List.eq_of_mem_replicate hb
  have hfresh : Fresh cs s os := Fresh.of_injective hinj hahead os
  exact ⟨hfresh, (runFrom_sound cs s os).2 hfresh⟩

/-- A supply that hands out every id twice gives the header and the hero of a new website the same
one, though the tree held neither of them when they were drawn. -/
theorem unheld_not_nodup :
    let s : Supply := .ofSequence fun n => List.replicate (n / 2 + 1) 'c'
    let os : List Operation := [.edit (.seed "Iași")]
    Unheld [] s os ∧ ¬ (runFrom [] s os).1.ids.Nodup := by
  intro s os
  refine ⟨unheld_seed (by decide) "Iași", ?_⟩
  rw [ids, components_seed]
  decide

end Tree

end CivicSite
