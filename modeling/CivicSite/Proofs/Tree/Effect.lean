import CivicSite.Proofs.Tree.Place
import CivicSite.Proofs.Tree.Restore

/-!
# What an accepted edit changes

An edit names one component, or the kind of a new one, and changes nothing else: all other
components stay in their order with all that is in them, and only the positions count on
(`Edit.Effect`). The component that an edit names splits the components into those before it and
those after it, in one way only if the ids are distinct (`Around`). What an operation does is
stated for that split, as an equation: it takes the component out, exchanges it with its neighbour
or replaces it.

A new component goes before a footer that stands at the end, or else to the end (`AddsAt`). The
first one of a website gets the frame that it does not make up itself: a header and a footer are
added to it, but to a header a footer only, and to a footer a header only (`add_header_alone`).
-/

namespace CivicSite

open Component (kinds)

/-- Components without their positions. -/
def Component.bare (cs : List Component) : List Component := cs.map unplaced

open Component (bare)

namespace Tree

variable {t t' : Tree} {id name direction : Text} {s s' : Supply} {c c' : Component}
variable {before after : List Component}

@[simp] theorem bare_renumber (cs : List Component) : bare (renumber cs) = bare cs :=
  map_unplaced_renumber cs

/-- A component stands in a tree at the position that it carries. -/
def Placed (t : Tree) (c : Component) : Prop :=
  ∃ i : Nat, c.position = i ∧ t.components[i]? = some c

theorem placed_renumber {cs : List Component} {i : Nat} (h : cs[i]? = some c) :
    Placed ⟨renumber cs⟩ { c with position := i } :=
  ⟨i, rfl, by rw [getElem?_renumber, h]; rfl⟩

/-! ## The component with an id -/

/-- A tree, split at the one component that has an id. -/
structure Around (t : Tree) (id : Text) (before : List Component) (c : Component)
    (after : List Component) : Prop where
  components : t.components = before ++ c :: after
  named : c.id = id
  others : ∀ b ∈ before ++ after, b.id ≠ id

theorem exists_around (hn : t.ids.Nodup) (h : t.get? id = some c) :
    ∃ before after, Around t id before c after := by
  obtain ⟨-, before, after, hcs, -⟩ := List.find?_eq_some_iff_append.mp h
  refine ⟨before, after, hcs, id_of_get? h, ?_⟩
  intro b hb hid
  rw [ids, Component.ids, hcs, List.map_append, List.map_cons, List.nodup_middle,
    ← List.map_append, List.nodup_cons] at hn
  refine hn.1 ?_
  rw [id_of_get? h, ← hid]
  exact List.mem_map_of_mem hb

namespace Around

theorem not_before (h : Around t id before c after) : ∀ b ∈ before, ¬(b.id == id) = true := by
  intro b hb
  rw [beq_iff_eq]
  exact h.others b (List.mem_append_left _ hb)

theorem place? (h : Around t id before c after) : t.place? id = some before.length := by
  have hbefore : before.findIdx? (·.id == id) = none :=
    List.findIdx?_eq_none_iff.mpr fun b hb => Bool.eq_false_iff.mpr (h.not_before b hb)
  rw [Tree.place?, h.components, List.findIdx?_append, hbefore, List.findIdx?_cons,
    if_pos (beq_iff_eq.mpr h.named), Option.none_or, Option.map_some, Nat.zero_add]

theorem get? (h : Around t id before c after) : t.get? id = some c := by
  rw [get?_eq_place?, h.place?, Option.bind_some, h.components,
    List.getElem?_append_right (Nat.le_refl _), Nat.sub_self]
  rfl

theorem eraseP (h : Around t id before c after) :
    t.components.eraseP (·.id == id) = before ++ after := by
  have hnamed : (c.id == id) = true := beq_iff_eq.mpr h.named
  rw [h.components, List.eraseP_append_right _ h.not_before, List.eraseP_cons, hnamed, cond_true]

end Around

/-! ## Replacing, exchanging, inserting -/

theorem modify_append (before after : List Component) (c : Component) (f : Component → Component) :
    (before ++ c :: after).modify before.length f = before ++ f c :: after := by
  induction before with
  | nil => rfl
  | cons b rest ih => exact congrArg (b :: ·) ih

theorem insertIdx_append (before after : List Component) (c : Component) :
    (before ++ after).insertIdx before.length c = before ++ c :: after := by
  induction before with
  | nil => rfl
  | cons b rest ih => exact congrArg (b :: ·) ih

theorem swap_cons (b : Component) (cs : List Component) (i j : Nat) :
    swap (b :: cs) (i + 1) (j + 1) = b :: swap cs i j := by
  unfold swap
  rw [List.getElem?_cons_succ, List.getElem?_cons_succ]
  split
  · rfl
  · rfl

theorem swap_append (before cs : List Component) (i j : Nat) :
    swap (before ++ cs) (before.length + i) (before.length + j) = before ++ swap cs i j := by
  induction before with
  | nil => rw [List.length_nil, Nat.zero_add, Nat.zero_add, List.nil_append, List.nil_append]
  | cons d rest ih =>
      rw [List.length_cons, Nat.add_right_comm, Nat.add_right_comm rest.length 1 j]
      exact (swap_cons d _ _ _).trans (congrArg (d :: ·) ih)

theorem getElem?_append_cons (before after : List Component) (c : Component) :
    (before ++ c :: after)[before.length]? = some c := by
  rw [List.getElem?_append_right (Nat.le_refl _), Nat.sub_self]
  rfl

theorem getElem?_append_cons_cons (before after : List Component) (b c : Component) :
    (before ++ b :: c :: after)[before.length + 1]? = some c := by
  rw [List.getElem?_append_right (Nat.le_add_right _ 1), Nat.add_sub_cancel_left]
  rfl

/-! ## What an operation does around the component that it names -/

namespace Around

variable {b : Component}

theorem delete (h : Around t id before c after) (hc : c.kind.isMandatory = false) :
    t.delete id = (.accepted c, ⟨renumber (before ++ after)⟩) := by
  unfold Tree.delete
  rw [h.get?]
  dsimp only
  rw [hc, if_neg Bool.false_ne_true, h.eraseP]

theorem update (h : Around t id before c after) (f : Component → Component) :
    t.update id f = (.accepted (f c), ⟨before ++ f c :: after⟩) := by
  unfold Tree.update
  rw [h.place?]
  dsimp only
  rw [h.components, modify_append, getElem?_append_cons]

theorem move_up (h : Around t id (before ++ [b]) c after) :
    t.move id "up"
      = (.accepted { c with position := before.length },
        ⟨renumber (before ++ c :: b :: after)⟩) := by
  have hlength : (before ++ [b]).length = before.length + 1 := List.length_append
  have hcs : t.components = before ++ b :: c :: after := by
    rw [h.components, List.append_assoc]
    rfl
  have hswap : swap (before ++ b :: c :: after) (before.length + 1) before.length
      = before ++ c :: b :: after := swap_append before (b :: c :: after) 1 0
  unfold Tree.move
  rw [if_neg (by decide), h.place?, hlength]
  dsimp only
  rw [if_neg (by simp), if_pos (by decide), Nat.add_sub_cancel, hcs, hswap, getElem?_renumber,
    getElem?_append_cons]
  rfl

theorem move_down (h : Around t id before c (b :: after)) :
    t.move id "down"
      = (.accepted { c with position := ((before.length + 1 : Nat) : Int) },
        ⟨renumber (before ++ b :: c :: after)⟩) := by
  have hnotUp : (("down" : Text) == "up") = false := by decide
  have hswap : swap (before ++ c :: b :: after) before.length (before.length + 1)
      = before ++ b :: c :: after := swap_append before (c :: b :: after) 0 1
  unfold Tree.move
  rw [if_neg (by decide), h.place?]
  dsimp only
  rw [hnotUp, Bool.false_and, if_neg Bool.false_ne_true, if_neg Bool.false_ne_true, h.components,
    hswap, getElem?_renumber, getElem?_append_cons_cons]
  rfl

theorem move_up_first (h : Around t id [] c after) : t.move id "up" = (.unmoved, t) := by
  unfold Tree.move
  rw [if_neg (by decide), h.place?]
  rfl

theorem move_down_last (h : Around t id before c []) : t.move id "down" = (.unmoved, t) := by
  have hnone : (renumber (swap t.components before.length (before.length + 1)))[before.length + 1]?
      = none := by
    rw [List.getElem?_eq_none_iff, length_renumber, (swap_perm ..).length_eq, h.components,
      List.length_append]
    exact Nat.le_refl _
  have hnotUp : (("down" : Text) == "up") = false := by decide
  unfold Tree.move
  rw [if_neg (by decide), h.place?]
  dsimp only
  rw [hnotUp, Bool.false_and, if_neg Bool.false_ne_true, if_neg Bool.false_ne_true, hnone]

/-- A move that is accepted has a neighbour to change places with. -/
theorem moves (h : Around t id before c after) (ha : (t.move id direction).1 = .accepted c') :
    (direction = "up" ∧ ∃ front b, before = front ++ [b])
      ∨ direction = "down" ∧ ∃ b rest, after = b :: rest := by
  by_cases hup : direction = "up"
  · subst hup
    refine Or.inl ⟨rfl, ?_⟩
    rcases List.eq_nil_or_concat before with rfl | ⟨front, b, rfl⟩
    · rw [h.move_up_first] at ha
      cases ha
    · exact ⟨front, b, List.concat_eq_append⟩
  · by_cases hdown : direction = "down"
    · subst hdown
      refine Or.inr ⟨rfl, ?_⟩
      cases after with
      | nil =>
          rw [h.move_down_last] at ha
          cases ha
      | cons b rest => exact ⟨b, rest, rfl⟩
    · have hbad : (direction != "up" && direction != "down") = true := by
        rw [Bool.and_eq_true, bne_iff_ne, bne_iff_ne]
        exact ⟨hup, hdown⟩
      rw [Tree.move, if_pos hbad] at ha
      cases ha

end Around

/-! ## Additions -/

/-- Where a new component goes: before a footer that stands at the end, or else to the end. -/
inductive AddsAt : List Component → List Component → Prop where
  | beforeFooter {before : List Component} {footer : Component} (h : footer.kind = .footer) :
      AddsAt before [footer]
  | atEnd {before : List Component} (h : ∀ c, before.getLast? = some c → c.kind ≠ .footer) :
      AddsAt before []

/-- What is no header is inserted where new components go. -/
theorem exists_addsAt (cs : List Component) {kind : Kind} (h : kind ≠ .header) :
    ∃ before after, cs = before ++ after ∧ AddsAt before after
      ∧ placeFor cs kind = before.length := by
  have hheader : (kind == .header) = false := beq_eq_false_iff_ne.mpr h
  unfold placeFor
  rw [hheader, if_neg Bool.false_ne_true]
  cases hlast : cs.getLast? with
  | none =>
      refine ⟨cs, [], (List.append_nil cs).symm, .atEnd fun c hc => ?_, if_neg (by decide)⟩
      cases hlast.symm.trans hc
  | some last =>
      by_cases hfooter : last.kind = .footer
      · obtain ⟨front, rfl⟩ := List.getLast?_eq_some_iff.mp hlast
        refine ⟨front, [last], rfl, .beforeFooter hfooter, ?_⟩
        rw [Option.map_some, if_pos (beq_iff_eq.mpr (congrArg some hfooter)), List.length_append]
        rfl
      · refine ⟨cs, [], (List.append_nil cs).symm, .atEnd fun c hc => ?_, ?_⟩
        · exact Option.some.inj (hlast.symm.trans hc) ▸ hfooter
        · have hne : some last.kind ≠ some Kind.footer := fun heq => hfooter (Option.some.inj heq)
          rw [Option.map_some, if_neg (mt beq_iff_eq.mp hne)]

theorem mem_kinds_insert {k : Kind} (h : k ∈ kinds (before ++ after)) :
    k ∈ kinds (before ++ c :: after) := by
  rw [kinds, List.map_append] at h ⊢
  rw [List.map_cons, List.mem_append, List.mem_cons]
  rcases List.mem_append.mp h with hbefore | hafter
  · exact Or.inl hbefore
  · exact Or.inr (Or.inr hafter)

/-! ## The effect of an edit -/

/-- What an accepted edit leaves of a tree, with the component that it answers with. -/
inductive Edit.Effect (t : Tree) (s : Supply) : Edit → Component → Tree → Prop where
  /-- An empty tree gets a header, a hero and a footer. -/
  | seed {settlement : Text} {t' : Tree} (hempty : t.components = [])
      (hshape : bare t'.components = [startHeader settlement s, startHero s,
        ⟨s.item (s.taken + 2), .footer, 0, .center⟩]) :
      Effect t s (.seed settlement) (startHeader settlement s) t'
  /-- An empty tree gets the new component, and what that lacks of a frame. -/
  | addFirst {name : Text} {kind : Kind} {c : Component} {t' : Tree}
      (hkind : Kind.ofName? name = some kind) (hempty : t.components = [])
      (hshape : ∃ front back, front = lacking (.header none) [newComponent kind s] (s.skip 1)
        ∧ back = lacking .footer [newComponent kind s] (s.skip (1 + front.length))
        ∧ bare t'.components = bare (front ++ [newComponent kind s] ++ back))
      (hanswer : c.unplaced = newComponent kind s) (hplaced : Placed t' c) :
      Effect t s (.add name) c t'
  /-- Any other tree gets the new component only. -/
  | add {name : Text} {kind : Kind} {before after : List Component} {c : Component} {t' : Tree}
      (hkind : Kind.ofName? name = some kind) (hne : t.components ≠ [])
      (hsplit : t.components = before ++ after) (hplace : AddsAt before after)
      (hshape : bare t'.components = bare (before ++ newComponent kind s :: after))
      (hanswer : c.unplaced = newComponent kind s) (hplaced : Placed t' c) :
      Effect t s (.add name) c t'
  /-- The named component is taken out. -/
  | delete {id : Text} {before after : List Component} {c : Component} {t' : Tree}
      (h : Around t id before c after) (hshape : bare t'.components = bare (before ++ after)) :
      Effect t s (.delete id) c t'
  /-- The named component changes places with the one before it. -/
  | moveUp {id : Text} {before after : List Component} {b c c' : Component} {t' : Tree}
      (h : Around t id (before ++ [b]) c after)
      (hshape : bare t'.components = bare (before ++ c :: b :: after))
      (hanswer : c'.unplaced = c.unplaced) (hplaced : Placed t' c') :
      Effect t s (.move id "up") c' t'
  /-- The named component changes places with the one after it. -/
  | moveDown {id : Text} {before after : List Component} {b c c' : Component} {t' : Tree}
      (h : Around t id before c (b :: after))
      (hshape : bare t'.components = bare (before ++ b :: c :: after))
      (hanswer : c'.unplaced = c.unplaced) (hplaced : Placed t' c') :
      Effect t s (.move id "down") c' t'
  /-- The named component gets the alignment. -/
  | align {id name : Text} {a : Alignment} {before after : List Component} {c : Component}
      (h : Around t id before c after) (ha : Alignment.ofName? name = some a) :
      Effect t s (.align id name) { c with alignment := a }
        ⟨before ++ { c with alignment := a } :: after⟩
  /-- The named component gets the texts of the patch, in fields of its kind. -/
  | edit {id : Text} {patch : Entries (Option Text)} {before after : List Component} {c : Component}
      {body : Body} (h : Around t id before c after)
      (hkeys : ∀ e ∈ patch, ∃ f ∈ c.kind.fields, f.name = e.1) (hkind : body.kind = c.kind)
      (hvalues : ∀ f ∈ c.kind.fields,
        body.value? f = (patch.get? f.name).getD (c.body.value? f)) :
      Effect t s (.edit id patch) { c with body := body }
        ⟨before ++ { c with body := body } :: after⟩

theorem seed_effect {settlement : Text} (h : (t.seed settlement s).1 = .accepted c) :
    Edit.Effect t s (.seed settlement) c (t.seed settlement s).2.1 := by
  rcases seed_cases t settlement s with ⟨r, hr⟩ | ⟨hempty, ha⟩
  · rw [hr] at h
    cases h
  · rw [ha] at h ⊢
    obtain rfl := Change.accepted.inj h
    refine .seed hempty ?_
    let start : List Component := [startHeader settlement s, startHero s]
    have hne : start ≠ [] := List.cons_ne_nil _ _
    have hkinds : kinds start = [.header, .hero] := rfl
    have hheader : (Body.header none).kind ∈ kinds start := hkinds ▸ List.mem_cons_self
    have hfooter : Body.footer.kind ∉ kinds start := by
      rw [hkinds]
      decide
    rw [complete_eq_lacking hne, lacking_of_mem _ hheader, lacking_of_not_mem _ hne hfooter,
      bare_renumber]
    rfl

theorem add_effect (hw : t.WellFormed) (h : (t.add name s).1 = .accepted c) :
    Edit.Effect t s (.add name) c (t.add name s).2.1 := by
  obtain ⟨kind, place, hkind, hnew, hcomplete, rfl, hplaced⟩ := add_answer (Prod.ext h rfl)
  have hplaced : Placed (t.add name s).2.1 { newComponent kind s with position := (place : Int) } :=
    ⟨place, rfl, hplaced⟩
  have htree : (complete (t.components.insertIdx (placeFor t.components kind) (newComponent kind s))
      (s.skip 1)).1 = (t.add name s).2.1 := congrArg Prod.fst hcomplete
  by_cases hempty : t.components = []
  · have hone : t.components.insertIdx (placeFor t.components kind) (newComponent kind s)
        = [newComponent kind s] := by
      have hzero := Nat.le_zero.mp (placeFor_le [] kind)
      rw [hempty, hzero]
      rfl
    refine .addFirst hkind hempty ⟨_, _, rfl, rfl, ?_⟩ rfl hplaced
    rw [← htree, hone, complete_eq_lacking (List.cons_ne_nil _ _), Supply.skip_skip, bare_renumber]
  · obtain ⟨hheader, hfooter⟩ := hw.framed.resolve_left hempty
    have hheader : Kind.header ∈ kinds t.components :=
      List.count_pos_iff.mp (Nat.lt_of_lt_of_eq Nat.zero_lt_one hheader.symm)
    have hfooter : Kind.footer ∈ kinds t.components :=
      List.count_pos_iff.mp (Nat.lt_of_lt_of_eq Nat.zero_lt_one hfooter.symm)
    have hne : kind ≠ .header := fun heq => hnew (heq ▸ rfl) (heq ▸ hheader)
    obtain ⟨before, after, hsplit, hplace, hlength⟩ := exists_addsAt t.components hne
    have hinsert : t.components.insertIdx (placeFor t.components kind) (newComponent kind s)
        = before ++ newComponent kind s :: after := by
      rw [hlength, hsplit, insertIdx_append]
    have hne' : before ++ newComponent kind s :: after ≠ [] :=
      List.append_ne_nil_of_right_ne_nil _ (List.cons_ne_nil _ _)
    rw [hsplit] at hheader hfooter
    refine .add hkind hempty hsplit hplace ?_ rfl hplaced
    rw [← htree, hinsert, complete_eq_lacking hne',
      lacking_of_mem (.header none) (mem_kinds_insert hheader),
      lacking_of_mem .footer (mem_kinds_insert hfooter),
      List.nil_append, List.append_nil, bare_renumber]

theorem delete_effect (hn : t.ids.Nodup) (h : (t.delete id).1 = .accepted c) :
    Edit.Effect t s (.delete id) c (t.delete id).2 := by
  rcases delete_cases t id with ⟨r, hr⟩ | ⟨c', hget, hc', ha⟩
  · rw [hr] at h
    cases h
  · obtain ⟨before, after, haround⟩ := exists_around hn hget
    rw [ha] at h
    obtain rfl := Change.accepted.inj h
    rw [haround.delete hc']
    exact .delete haround (bare_renumber _)

theorem move_effect (hn : t.ids.Nodup) (h : (t.move id direction).1 = .accepted c) :
    Edit.Effect t s (.move id direction) c (t.move id direction).2 := by
  rcases move_cases t id direction with ⟨change, hchange, hr⟩ | ⟨i, -, -, hi, -⟩
  · rw [hr] at h
    have hanswer : change = .accepted c := h
    rw [hanswer] at hchange
    cases hchange
  · obtain ⟨_, hget⟩ := get?_of_place? hi
    obtain ⟨before, after, haround⟩ := exists_around hn hget
    rcases haround.moves h with ⟨rfl, front, b, rfl⟩ | ⟨rfl, b, rest, rfl⟩
    · rw [haround.move_up] at h ⊢
      obtain rfl := Change.accepted.inj h
      exact .moveUp haround (bare_renumber _) rfl (placed_renumber (getElem?_append_cons ..))
    · rw [haround.move_down] at h ⊢
      obtain rfl := Change.accepted.inj h
      exact .moveDown haround (bare_renumber _) rfl (placed_renumber (getElem?_append_cons_cons ..))

theorem exists_around_of_update (hn : t.ids.Nodup) {f : Component → Component}
    (h : (t.update id f).1 = .accepted c') :
    ∃ before c after, Around t id before c after ∧ c' = f c
      ∧ (t.update id f).2 = ⟨before ++ f c :: after⟩ := by
  rcases update_cases t id f with hr | ⟨i, hi, hplace, -⟩
  · rw [hr] at h
    cases h
  · obtain ⟨_, hget⟩ := get?_of_place? hplace
    obtain ⟨before, after, haround⟩ := exists_around hn hget
    rw [haround.update] at h ⊢
    exact ⟨before, _, after, haround, (Change.accepted.inj h).symm, rfl⟩

theorem align_effect (hn : t.ids.Nodup) (h : (t.align id name).1 = .accepted c) :
    Edit.Effect t s (.align id name) c (t.align id name).2 := by
  unfold align at h ⊢
  cases ha : Alignment.ofName? name with
  | none =>
      rw [ha] at h
      cases h
  | some a =>
      rw [ha] at h
      obtain ⟨before, c, after, haround, rfl, htree⟩ := exists_around_of_update hn h
      dsimp only
      rw [htree]
      exact .align haround ha

theorem exists_field_of_badFields {kind : Kind} {patch : Entries (Option Text)}
    (h : badFields kind patch = []) : ∀ e ∈ patch, ∃ f ∈ kind.fields, f.name = e.1 := by
  intro e he
  have hfilter : (patch.map (·.1)).filter (fun n => !(kind.fields.any (·.name == n))) = [] := by
    have hperm := List.mergeSort_perm
      ((patch.map (·.1)).filter fun n => !(kind.fields.any (·.name == n))) Text.le
    exact List.nil_perm.mp ((show badFields kind patch = _ from h) ▸ hperm)
  have hknown := List.filter_eq_nil_iff.mp hfilter e.1 (List.mem_map_of_mem he)
  rw [Bool.not_eq_true', Bool.not_eq_false, List.any_eq_true] at hknown
  obtain ⟨f, hf, hname⟩ := hknown
  exact ⟨f, hf, beq_iff_eq.mp hname⟩

theorem edit_effect (hn : t.ids.Nodup) {patch : Entries (Option Text)}
    (h : (t.edit id patch).1 = .accepted c) :
    Edit.Effect t s (.edit id patch) c (t.edit id patch).2 := by
  unfold edit at h ⊢
  cases hget : t.get? id with
  | none =>
      rw [hget] at h
      cases h
  | some c₀ =>
      rw [hget] at h
      dsimp only at h ⊢
      cases hbad : badFields c₀.kind patch with
      | cons n names =>
          rw [hbad] at h
          cases h
      | nil =>
          rw [hbad] at h
          obtain ⟨before, c, after, haround, rfl, htree⟩ := exists_around_of_update hn h
          obtain rfl : c = c₀ := Option.some.inj (haround.get?.symm.trans hget)
          dsimp only
          rw [htree]
          refine .edit haround (exists_field_of_badFields hbad) (kind_patched c.body patch) ?_
          exact fun f hf => Body.value?_ofFields _ hf

/-- In a tree in good order, an accepted edit has its effect and no other. -/
theorem run_effect (hw : t.WellFormed) (hn : t.ids.Nodup) {e : Edit}
    (h : (e.run t s).1 = .accepted c) : e.Effect t s c (e.run t s).2.1 := by
  cases e with
  | seed settlement => exact seed_effect h
  | add name => exact add_effect hw h
  | delete id => exact delete_effect hn h
  | move id direction => exact move_effect hn h
  | align id name => exact align_effect hn h
  | edit id patch => exact edit_effect hn h

/-- **An accepted edit changes only what it names**, in every tree that a run leads to and whose ids
are distinct. -/
theorem edits_local {cs : List Component} {s : Supply} {os : List Operation}
    (hn : (runFrom cs s os).1.ids.Nodup) {e : Edit} {s' : Supply} {c : Component}
    (h : (e.run (runFrom cs s os).1 s').1 = .accepted c) :
    e.Effect (runFrom cs s os).1 s' c (e.run (runFrom cs s os).1 s').2.1 :=
  run_effect ((wellFormed_ofList cs s).runAll _ os) hn h

/-- A blog is added to a website that was just begun. -/
theorem edits_local_blog :
    let s : Supply := .ofSequence fun n => List.replicate n 'c'
    let t := (runFrom [] s [.edit (.seed "Iași")]).1
    ∃ c, c.position = 2 ∧ ((Edit.add "blog").run t (s.skip 3)).1 = .accepted c
      ∧ (Edit.add "blog").Effect t (s.skip 3) c ((Edit.add "blog").run t (s.skip 3)).2.1 := by
  intro s t
  have ht : t = (seed empty "Iași" s).2.1 := by
    show (runFrom [] s [.edit (.seed "Iași")]).1 = _
    rw [runFrom, ofList_nil]
    rfl
  have hn : t.ids.Nodup := by
    rw [ht]
    decide
  obtain ⟨c, hposition, hanswer⟩ :
      ∃ c, c.position = 2 ∧ ((Edit.add "blog").run t (s.skip 3)).1 = .accepted c := by
    rw [ht]
    exact ⟨_, rfl, rfl⟩
  exact ⟨c, hposition, hanswer, edits_local hn hanswer⟩

/-- A header that is added to an empty tree gets a footer, but no other header in front of it. -/
theorem add_header_alone :
    let s : Supply := .ofSequence fun n => List.replicate n 'c'
    let t := (runFrom [] s []).1
    let r := t.add "header" s
    t.components = [] ∧ r.1.isAccepted = true ∧ kinds r.2.1.components = [.header, .footer]
      ∧ ¬∃ front back : Component, front.kind = .header ∧ back.kind = .footer
        ∧ bare r.2.1.components = bare [front, newComponent .header s, back] := by
  intro s t r
  have ht : t = empty := by
    show (runFrom [] s []).1 = empty
    rw [runFrom, ofList_nil]
    rfl
  have hr : r = empty.add "header" s := congrArg (fun t => add t "header" s) ht
  have hkinds : kinds r.2.1.components = [.header, .footer] := by
    rw [hr]
    rfl
  refine ⟨congrArg components ht, by rw [hr]; rfl, hkinds, ?_⟩
  rintro ⟨front, back, -, -, hbare⟩
  have hlength := congrArg List.length hbare
  have htwo := congrArg List.length hkinds
  rw [bare, List.length_map] at hlength
  rw [kinds, List.length_map, hlength] at htwo
  cases htwo

end Tree

end CivicSite
