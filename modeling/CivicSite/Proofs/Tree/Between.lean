import CivicSite.Proofs.Tree.Undo

/-!
# What stands between header and footer

New components go to the end but before the footer, and the frame is added at the ends. So only a
move can bring a header away from the front or a footer away from the end, and only one that
exchanges it with another component. In a run that begins with nothing and spares the frame in this
way, every tree is empty or has its header first and its footer last.

What stands between them is told by a record that is kept along the run (`History`): it begins
anew whenever the tree is empty, takes down what is seeded or added and strikes out what is deleted.
As long as no move was accepted, the components between header and footer are those of the record,
in its order. A component is known by its id and kind there, which no edit changes.
-/

namespace CivicSite

open Component (kinds bare)

namespace Component

/-- What a component is known by: its id, and its kind. -/
def tag (c : Component) : Text × Kind := (c.id, c.kind)

def tags (cs : List Component) : List (Text × Kind) := cs.map tag

end Component

open Component (tag tags)

namespace Tree

/-! ## The record of a run -/

/-- What was taken down since the tree was last empty: the components that were seeded or added and
not deleted since, in that order, and whether a move was accepted. -/
structure History where
  made : List (Text × Kind)
  moved : Bool
deriving DecidableEq

namespace History

def start : History := ⟨[], false⟩

/-- The record with an edit that was accepted with a component. -/
def record (h : History) (s : Supply) (e : Edit) (c : Component) : History :=
  match e with
  | .seed settlement =>
    { h with made := h.made ++ [(startHeader settlement s).tag, (startHero s).tag] }
  | .add _ => { h with made := h.made ++ [c.tag] }
  | .delete id => { h with made := h.made.filter (·.1 != id) }
  | .move _ _ => { h with moved := true }
  | .align _ _ | .edit _ _ => h

/-- The record after an operation on a tree. -/
def next (h : History) (t : Tree) (s : Supply) (o : Operation) : History :=
  if (o.run t s).1.isEmpty then start
  else
    match o with
    | .edit e =>
      match (e.run t s).1 with
      | .accepted c => h.record s e c
      | _ => h
    | .clear | .rebuild => h

/-- The record after operations. -/
def after (h : History) (t : Tree) (s : Supply) : List Operation → History
  | [] => h
  | o :: rest => (h.next t s o).after (o.run t s).1 (o.run t s).2 rest

end History

/-! ## Moves that spare the frame -/

/-- The components that an accepted move exchanges: the one that it names, and its neighbour. -/
def exchanged (t : Tree) (id direction : Text) : List Component :=
  match t.place? id with
  | none => []
  | some i =>
    t.components[i]?.toList ++ t.components[if direction == "up" then i - 1 else i + 1]?.toList

/-- Whether an operation is no accepted move that involves the header or the footer. -/
def Operation.SparesFrame (t : Tree) : Operation → Prop
  | .edit (.move id direction) =>
    (t.move id direction).1.isAccepted = true →
      ∀ c ∈ exchanged t id direction, c.kind.isMandatory = false
  | _ => True

/-- Whether operations contain no accepted move that involves the header or the footer. -/
def SparesFrame (t : Tree) (s : Supply) : List Operation → Prop
  | [] => True
  | o :: rest => o.SparesFrame t ∧ SparesFrame (o.run t s).1 (o.run t s).2 rest

instance decidableSparesFrame (t : Tree) (o : Operation) : Decidable (o.SparesFrame t) := by
  unfold Operation.SparesFrame
  split <;> infer_instance

instance decidableSparesFrameAll : (t : Tree) → (s : Supply) → (os : List Operation) →
    Decidable (SparesFrame t s os)
  | _, _, [] => inferInstanceAs (Decidable True)
  | t, s, o :: rest =>
    have := decidableSparesFrameAll (o.run t s).1 (o.run t s).2 rest
    inferInstanceAs (Decidable (_ ∧ _))

theorem SparesFrame.take {t : Tree} {s : Supply} {os : List Operation} (h : SparesFrame t s os)
    (n : Nat) : SparesFrame t s (os.take n) := by
  induction os generalizing t s n with
  | nil =>
      rw [List.take_nil]
      exact h
  | cons o rest ih =>
      cases n with
      | zero => trivial
      | succ n => exact ⟨h.1, ih h.2 n⟩

theorem FreshAll.take {t : Tree} {s : Supply} {os : List Operation} (h : FreshAll t s os)
    (n : Nat) : FreshAll t s (os.take n) := by
  induction os generalizing t s n with
  | nil =>
      rw [List.take_nil]
      exact h
  | cons o rest ih =>
      cases n with
      | zero => trivial
      | succ n => exact ⟨h.1, ih h.2 n⟩

/-! ## The invariant -/

/-- The tags of a tree that has its header first and its footer last, and between them, if nothing
was moved, what was made and is no part of the frame. Of the frame, what was made is there. -/
def Between (tags : List (Text × Kind)) (h : History) : Prop :=
  ∃ header middle footer, tags = (header, .header) :: (middle ++ [(footer, .footer)])
    ∧ (∀ e ∈ h.made, (e.2 = .header → e.1 = header) ∧ (e.2 = .footer → e.1 = footer))
    ∧ (h.moved = false → middle = h.made.filter fun e => !e.2.isMandatory)

/-- The invariant of runs that begin with nothing and spare the frame. -/
def Standing (t : Tree) (h : History) : Prop :=
  t.components = [] ∧ h = .start ∨ Between (tags t.components) h

section Invariant

variable {t t' : Tree} {id name direction : Text} {s : Supply} {b c : Component} {h : History}
variable {before after cs ds : List Component}

theorem tags_append (cs ds : List Component) : tags (cs ++ ds) = tags cs ++ tags ds :=
  List.map_append

theorem tags_cons (c : Component) (cs : List Component) : tags (c :: cs) = c.tag :: tags cs := rfl

theorem tag_of_unplaced (h : b.unplaced = c.unplaced) : b.tag = c.tag :=
  Prod.ext (id_of_unplaced h) (kind_of_unplaced h)

@[simp] theorem tag_newComponent (kind : Kind) (s : Supply) :
    (newComponent kind s).tag = (s.item s.taken, kind) :=
  Prod.ext rfl (kind_newComponent kind s)

theorem tags_congr (h : bare cs = bare ds) : tags cs = tags ds := by
  have hbare (cs : List Component) : tags (bare cs) = tags cs := by
    rw [tags, bare, List.map_map]
    rfl
  rw [← hbare cs, h, hbare]

theorem Standing.between (hs : Standing t h) (hne : t.components ≠ []) :
    Between (tags t.components) h :=
  hs.resolve_left fun hempty => hne hempty.1

theorem Standing.eq_start (hs : Standing t h) (hempty : t.components = []) : h = .start := by
  rcases hs with ⟨-, rfl⟩ | ⟨header, middle, footer, htags, -⟩
  · rfl
  · rw [hempty] at htags
    cases htags

/-- Part of a list that contains neither its first nor its last member has some before and some
after it. -/
theorem exists_inside {x z : Text × Kind} {middle l inner r : List (Text × Kind)}
    (h : x :: (middle ++ [z]) = l ++ (inner ++ r)) (hne : inner ≠ []) (hx : x ∉ inner)
    (hz : z ∉ inner) :
    ∃ front back, l = x :: front ∧ r = back ++ [z] ∧ middle = front ++ (inner ++ back) := by
  cases l with
  | nil =>
      obtain ⟨y, rest, rfl⟩ := List.exists_cons_of_ne_nil hne
      obtain ⟨rfl, -⟩ := List.cons.inj h
      exact absurd List.mem_cons_self hx
  | cons y front =>
      rw [List.cons_append] at h
      obtain ⟨rfl, hrest⟩ := List.cons.inj h
      rcases List.eq_nil_or_concat r with rfl | ⟨back, w, rfl⟩
      · obtain ⟨rest, w, rfl⟩ := (List.eq_nil_or_concat inner).resolve_left hne
        rw [List.append_nil, List.concat_eq_append, ← List.append_assoc] at hrest
        obtain ⟨-, hlast⟩ := List.append_inj' hrest rfl
        obtain rfl := List.singleton_inj.mp hlast
        simp at hz
      · rw [List.concat_eq_append, ← List.append_assoc, ← List.append_assoc] at hrest
        obtain ⟨hmiddle, hlast⟩ := List.append_inj' hrest rfl
        obtain rfl := List.singleton_inj.mp hlast
        refine ⟨front, back, rfl, List.concat_eq_append, ?_⟩
        rw [hmiddle, List.append_assoc]

/-- The same for a list that has its frame at its ends, and a part that has none of the frame. -/
theorem exists_inside_of_free {header footer : Text} {middle l inner r : List (Text × Kind)}
    (h : (header, Kind.header) :: (middle ++ [(footer, Kind.footer)]) = l ++ (inner ++ r))
    (hne : inner ≠ []) (hfree : ∀ e ∈ inner, e.2.isMandatory = false) :
    ∃ front back, l = (header, .header) :: front ∧ r = back ++ [(footer, .footer)]
      ∧ middle = front ++ (inner ++ back) :=
  exists_inside h hne (fun hmem => nomatch hfree _ hmem) fun hmem => nomatch hfree _ hmem

/-! ## One step -/

theorem between_seed {settlement : Text} (hs : Standing t h)
    (ha : (t.seed settlement s).1 = .accepted c) :
    Between (tags (t.seed settlement s).2.1.components) (h.record s (.seed settlement) c) := by
  cases seed_effect ha with
  | seed hempty hshape =>
      obtain rfl := hs.eq_start hempty
      have htags : tags (t.seed settlement s).2.1.components = tags [startHeader settlement s,
          startHero s, ⟨s.item (s.taken + 2), .footer, 0, .center⟩] := tags_congr hshape
      rw [htags]
      refine ⟨s.item s.taken, [(startHero s).tag], s.item (s.taken + 2), rfl, ?_, fun _ => rfl⟩
      intro e he
      rcases List.mem_cons.mp he with rfl | he
      · exact ⟨fun _ => rfl, fun hk => (nomatch hk)⟩
      · obtain rfl := List.mem_singleton.mp he
        exact ⟨fun hk => (nomatch hk), fun hk => (nomatch hk)⟩

/-- The first component of a website gets what it lacks of the frame around it. -/
theorem between_of_lacking {kind : Kind} {front back : List Component} {s' : Supply}
    (hfront : front = lacking (.header none) [newComponent kind s] s')
    (hback : back = lacking .footer [newComponent kind s] (s.skip (1 + front.length)))
    (hc : c.tag = (newComponent kind s).tag) :
    Between (tags (front ++ [newComponent kind s] ++ back)) ⟨[c.tag], false⟩ := by
  have hne : [newComponent kind s] ≠ [] := List.cons_ne_nil _ _
  have hkinds : kinds [newComponent kind s] = [kind] := by simp [kinds]
  have hmem (body : Body) : body.kind ∈ kinds [newComponent kind s] ↔ body.kind = kind := by
    rw [hkinds, List.mem_singleton]
  rw [hc, tag_newComponent, tags_append, tags_append]
  by_cases hheader : kind = .header
  · subst hheader
    rw [lacking_of_mem (.header none) ((hmem _).mpr rfl)] at hfront
    rw [lacking_of_not_mem .footer hne (mt (hmem _).mp (by decide))] at hback
    subst hfront hback
    exact ⟨s.item s.taken, [], _, rfl, by simp, fun _ => rfl⟩
  · rw [lacking_of_not_mem (.header none) hne fun h => hheader ((hmem _).mp h).symm] at hfront
    by_cases hfooter : kind = .footer
    · subst hfooter
      rw [lacking_of_mem .footer ((hmem _).mpr rfl)] at hback
      subst hfront hback
      exact ⟨_, [], s.item s.taken, rfl, by simp, fun _ => rfl⟩
    · rw [lacking_of_not_mem .footer hne fun h => hfooter ((hmem _).mp h).symm] at hback
      have hfree : kind.isMandatory = false := by
        cases kind <;> first | rfl | contradiction
      subst hfront hback
      refine ⟨s'.item s'.taken, [(s.item s.taken, kind)], (s.skip 2).item (s.skip 2).taken, ?_,
        by simp [hheader, hfooter], fun _ => ?_⟩
      · rw [tags_cons (newComponent kind s), tag_newComponent]
        rfl
      · simp [hfree]

/-- Where a tree has its footer last, new components go before that. -/
theorem AddsAt.tags_eq (hplace : AddsAt before after) {header footer : Text}
    {middle : List (Text × Kind)}
    (h : tags (before ++ after) = (header, .header) :: (middle ++ [(footer, .footer)])) :
    tags before = (header, .header) :: middle ∧ tags after = [(footer, .footer)] := by
  cases hplace with
  | @beforeFooter last =>
      rw [tags_append, ← List.cons_append] at h
      exact List.append_inj' h rfl
  | atEnd hnot =>
      rw [List.append_nil, ← List.cons_append] at h
      obtain ⟨cs, rest, rfl, -, hrest⟩ := List.map_eq_append_iff.mp h
      obtain ⟨last, rfl, hlast⟩ := List.map_eq_singleton_iff.mp hrest
      exact absurd (congrArg Prod.snd hlast) (hnot last List.getLast?_concat)

theorem between_add (hw : t.WellFormed) (hs : Standing t h)
    (ha : (t.add name s).1 = .accepted c) :
    Between (tags (t.add name s).2.1.components) (h.record s (.add name) c) := by
  obtain ⟨kind, -, hkind, habsent, -⟩ := add_answer (Prod.ext ha rfl)
  cases add_effect hw ha with
  | @addFirst _ kind' _ _ hkind' hempty hshape hanswer =>
      obtain rfl := hs.eq_start hempty
      obtain ⟨front, back, hfront, hback, hbare⟩ := hshape
      rw [tags_congr hbare]
      exact between_of_lacking hfront hback (tag_of_unplaced hanswer)
  | @add _ kind' before after _ _ hkind' hne hsplit hplace hshape hanswer =>
      obtain rfl : kind' = kind := Option.some.inj (hkind'.symm.trans hkind)
      have hfree := not_isMandatory_of_add hw hne habsent
      have htag : c.tag = (s.item s.taken, kind') :=
        (tag_of_unplaced (c := newComponent kind' s) hanswer).trans (tag_newComponent kind' s)
      obtain ⟨header, middle, footer, htags, hframe, hmiddle⟩ := hs.between hne
      rw [hsplit] at htags
      obtain ⟨hbefore, hafter⟩ := hplace.tags_eq htags
      refine ⟨header, middle ++ [c.tag], footer, ?_, ?_, fun hmoved => ?_⟩
      · rw [tags_congr hshape, tags_append, tags_cons, hbefore, hafter, List.append_assoc, htag,
          tag_newComponent]
        rfl
      · intro e he
        rcases List.mem_append.mp he with he | he
        · exact hframe e he
        · obtain rfl := List.mem_singleton.mp he
          rw [htag]
          refine ⟨?_, ?_⟩ <;> rintro rfl <;> cases hfree
      · show _ = (h.made ++ [c.tag]).filter _
        rw [List.filter_append, ← hmiddle hmoved, htag]
        simp [hfree]

theorem between_delete (hn : t.ids.Nodup) (hs : Standing t h)
    (ha : (t.delete id).1 = .accepted c) :
    Between (tags (t.delete id).2.components) (h.record s (.delete id) c) := by
  rcases delete_cases t id with ⟨r, hr⟩ | ⟨d, hget, hfree, -⟩
  · rw [hr] at ha
    cases ha
  · obtain ⟨before, after, haround⟩ := exists_around hn hget
    have hne : t.components ≠ [] := List.ne_nil_of_mem (mem_of_get? hget)
    obtain ⟨header, middle, footer, htags, hframe, hmiddle⟩ := hs.between hne
    have hsplit : (header, Kind.header) :: (middle ++ [(footer, Kind.footer)])
        = tags before ++ ([d.tag] ++ tags after) := by
      rw [← htags, haround.components, tags_append]
      rfl
    obtain ⟨front, back, hbefore, hafter, rfl⟩ :=
      exists_inside_of_free hsplit (List.cons_ne_nil _ _) (by simpa [tag] using hfree)
    have hkeep : ∀ e ∈ front ++ back, (e.1 != id) = true := by
      intro e he
      have hmem : e ∈ tags (before ++ after) := by
        rw [tags_append, hbefore, hafter]
        rcases List.mem_append.mp he with he | he
        · exact List.mem_append_left _ (List.mem_cons_of_mem _ he)
        · exact List.mem_append_right _ (List.mem_append_left _ he)
      obtain ⟨b, hb, rfl⟩ := List.mem_map.mp hmem
      exact bne_iff_ne.mpr (haround.others b hb)
    refine ⟨header, front ++ back, footer, ?_, ?_, fun hmoved => ?_⟩
    · rw [haround.delete hfree, tags_congr (bare_renumber _), tags_append, hbefore, hafter,
        List.append_assoc]
      rfl
    · intro e he
      exact hframe e (List.mem_filter.mp he).1
    · have hdrop : (d.tag.1 != id) = false := by simp [tag, haround.named]
      show _ = (h.made.filter _).filter _
      rw [List.filter_filter]
      simp only [Bool.and_comm (x := !(_ : Bool))]
      rw [← List.filter_filter, ← hmiddle hmoved, List.filter_append, List.filter_append,
        List.filter_cons_of_neg (by rw [hdrop]; decide), List.filter_nil, List.nil_append,
        ← List.filter_append, List.filter_eq_self.mpr hkeep]

/-- A move that exchanges two components which are no part of the frame leaves the frame. -/
theorem between_exchange {d : Component} (hs : Standing t h)
    (hcs : t.components = before ++ b :: d :: after)
    (hshape : bare t'.components = bare (before ++ d :: b :: after))
    (hb : b.kind.isMandatory = false) (hd : d.kind.isMandatory = false) :
    Between (tags t'.components) { h with moved := true } := by
  have hne : t.components ≠ [] := by
    rw [hcs]
    exact List.append_ne_nil_of_right_ne_nil _ (List.cons_ne_nil _ _)
  obtain ⟨header, middle, footer, htags, hframe, -⟩ := hs.between hne
  have hsplit : (header, Kind.header) :: (middle ++ [(footer, Kind.footer)])
      = tags before ++ ([b.tag, d.tag] ++ tags after) := by
    rw [← htags, hcs, tags_append]
    rfl
  have hfree : ∀ e ∈ [b.tag, d.tag], e.2.isMandatory = false := by simp [tag, hb, hd]
  obtain ⟨front, back, hbefore, hafter, -⟩ :=
    exists_inside_of_free hsplit (List.cons_ne_nil _ _) hfree
  refine ⟨header, front ++ (d.tag :: b.tag :: back), footer, ?_, hframe, fun h => (nomatch h)⟩
  rw [tags_congr hshape, tags_append, tags_cons, tags_cons, hbefore, hafter, List.append_assoc]
  rfl

theorem between_move (hn : t.ids.Nodup) (hs : Standing t h)
    (ha : (t.move id direction).1 = .accepted c)
    (hspare : (Operation.edit (.move id direction)).SparesFrame t) :
    Between (tags (t.move id direction).2.components) (h.record s (.move id direction) c) := by
  have hfree : ∀ d ∈ exchanged t id direction, d.kind.isMandatory = false :=
    hspare (by rw [ha]; exact rfl)
  cases move_effect (s := s) hn ha with
  | @moveUp _ before after b d _ _ haround hshape =>
      have hcs : t.components = before ++ b :: d :: after := by
        rw [haround.components, List.append_assoc]
        rfl
      have hexchanged : exchanged t id "up" = [d, b] := by
        have hlength : (before ++ [b]).length = before.length + 1 := List.length_append
        unfold exchanged
        rw [haround.place?]
        simp only [beq_self_eq_true, if_true]
        rw [hlength, Nat.add_sub_cancel, hcs, getElem?_append_cons, getElem?_append_cons_cons]
        rfl
      rw [hexchanged] at hfree
      exact between_exchange hs hcs hshape (hfree b (by simp)) (hfree d (by simp))
  | @moveDown _ before after b d _ _ haround hshape =>
      have hexchanged : exchanged t id "down" = [d, b] := by
        have hnotUp : (("down" : Text) == "up") = false := by decide
        unfold exchanged
        rw [haround.place?]
        simp only [hnotUp, Bool.false_eq_true, if_false]
        rw [haround.components, getElem?_append_cons, getElem?_append_cons_cons]
        rfl
      rw [hexchanged] at hfree
      exact between_exchange hs haround.components hshape (hfree d (by simp)) (hfree b (by simp))

/-- An edit in place leaves the tags. -/
theorem tags_update (t : Tree) (id : Text) {f : Component → Component} (hf : InPlace f) :
    tags (t.update id f).2.components = tags t.components := by
  rcases update_cases t id f with hr | ⟨i, hi, -, ha⟩
  · rw [hr]
  · rw [ha]
    exact map_modify i _ fun c => Prod.ext (hf.id c) (hf.kind c)

theorem tags_align (t : Tree) (id name : Text) :
    tags (t.align id name).2.components = tags t.components := by
  rcases align_cases t id name with ⟨r, hr⟩ | ⟨f, hf, ha⟩
  · rw [hr]
  · rw [ha]
    exact tags_update t id hf

theorem tags_edit (t : Tree) (id : Text) (patch : Entries (Option Text)) :
    tags (t.edit id patch).2.components = tags t.components := by
  rcases edit_cases t id patch with ⟨r, hr⟩ | ⟨f, hf, ha⟩
  · rw [hr]
  · rw [ha]
    exact tags_update t id hf

/-- An edit that is accepted leaves the frame in its place if it is no move that involves it. -/
theorem between_record (hw : t.WellFormed) (hn : t.ids.Nodup) (hs : Standing t h) {e : Edit}
    (hspare : (Operation.edit e).SparesFrame t) (ha : (e.run t s).1 = .accepted c)
    (hne : (e.run t s).2.1.components ≠ []) :
    Between (tags (e.run t s).2.1.components) (h.record s e c) := by
  have hkept (htags : tags (e.run t s).2.1.components = tags t.components) :
      Between (tags (e.run t s).2.1.components) h := by
    rw [htags]
    refine hs.between fun hempty => hne ?_
    rw [hempty] at htags
    exact List.map_eq_nil_iff.mp htags
  cases e with
  | seed settlement => exact between_seed hs ha
  | add name => exact between_add hw hs ha
  | delete id => exact between_delete hn hs ha
  | move id direction => exact between_move hn hs ha hspare
  | align id name => exact hkept (tags_align t id name)
  | edit id patch => exact hkept (tags_edit t id patch)

theorem standing_next (hw : t.WellFormed) (hn : t.ids.Nodup) (hs : Standing t h) {o : Operation}
    (hspare : o.SparesFrame t) : Standing (o.run t s).1 (h.next t s o) := by
  by_cases hempty : (o.run t s).1.components = []
  · have hreset : h.next t s o = .start := if_pos (List.isEmpty_iff.mpr hempty)
    exact Or.inl ⟨hempty, hreset⟩
  · have hgoes : ¬(o.run t s).1.isEmpty = true := mt List.isEmpty_iff.mp hempty
    cases o with
    | clear => exact absurd rfl hempty
    | rebuild =>
        have hrun : (Operation.rebuild.run t s).1 = t := by
          rw [Operation.run, ofList_components hw hn]
        have hnext : h.next t s .rebuild = h := if_neg hgoes
        rw [hrun, hnext]
        exact hs
    | edit e =>
        have hrun : ((Operation.edit e).run t s).1 = (e.run t s).2.1 := rfl
        cases ha : (e.run t s).1 with
        | accepted c =>
            have hnext : h.next t s (.edit e) = h.record s e c := by
              rw [History.next, if_neg hgoes]
              simp only [ha]
            rw [hnext]
            exact Or.inr (between_record hw hn hs hspare ha hempty)
        | rejected _ | unmoved =>
            have hnext : h.next t s (.edit e) = h := by
              rw [History.next, if_neg hgoes]
              simp only [ha]
            have hsame : (e.run t s).2 = (t, s) := run_of_not_accepted (by rw [ha]; rfl)
            rw [hnext, hrun, hsame]
            exact hs

/-! ## Whole runs -/

theorem standing_runAll (hw : t.WellFormed) (hn : t.ids.Nodup) (hs : Standing t h)
    {os : List Operation} (hfresh : FreshAll t s os) (hspare : SparesFrame t s os) :
    Standing (runAll t s os).1 (h.after t s os) := by
  induction os generalizing t s h with
  | nil => exact hs
  | cons o rest ih =>
      have hn' := (gathers_operation hw hn s o).nodup hn hfresh.1
      exact ih (hw.operation s o) hn' (standing_next hw hn hs hspare.1) hfresh.2 hspare.2

end Invariant

/-- **Header first, footer last.** In a run that begins with nothing, draws new ids and contains no
accepted move that involves the header or the footer, every tree is empty or has its header first
and its footer last. What was made since the tree was last empty is there: of the frame, it stands
at the ends; the rest of it, as long as no move was accepted, is all that stands between them, in
the order in which it was made. -/
theorem header_first_footer_last {s : Supply} {os : List Operation} (hfresh : Fresh [] s os)
    (hspare : SparesFrame empty s os) (n : Nat) :
    let t := (runFrom [] s (os.take n)).1
    let h := History.start.after empty s (os.take n)
    t.components = []
    ∨ ∃ header middle footer, t.components = header :: (middle ++ [footer])
      ∧ header.kind = .header ∧ footer.kind = .footer
      ∧ (∀ e ∈ h.made, (e.2 = .header → e.1 = header.id) ∧ (e.2 = .footer → e.1 = footer.id))
      ∧ (h.moved = false → tags middle = h.made.filter fun e => !e.2.isMandatory) := by
  intro t h
  have hrun : runFrom [] s (os.take n) = runAll empty s (os.take n) := by
    rw [runFrom, ofList_nil]
  have hfresh : FreshAll empty s os := by
    have hrest := hfresh.2
    rwa [ofList_nil] at hrest
  have hstanding : Standing t h := by
    show Standing (runFrom [] s (os.take n)).1 _
    rw [hrun]
    exact standing_runAll wellFormed_empty List.nodup_nil (Or.inl ⟨rfl, rfl⟩) (hfresh.take n)
      (hspare.take n)
  rcases hstanding with ⟨hempty, -⟩ | ⟨header, middle, footer, htags, hframe, hmiddle⟩
  · exact Or.inl hempty
  · obtain ⟨first, rest, hcs, hfirst, hrest⟩ := List.map_eq_cons_iff.mp htags
    obtain ⟨between, ending, rfl, hbetween, hending⟩ := List.map_eq_append_iff.mp hrest
    obtain ⟨last, rfl, hlast⟩ := List.map_eq_singleton_iff.mp hending
    obtain ⟨hfirst, hheader⟩ := Prod.mk.inj hfirst
    obtain ⟨hlast, hfooter⟩ := Prod.mk.inj hlast
    refine Or.inr ⟨first, between, last, hcs, hheader, hfooter, ?_, fun hmoved => ?_⟩
    · rw [hfirst, hlast]
      exact hframe
    · exact hbetween.trans (hmiddle hmoved)

/-- A website is begun, rearranged and thrown away; another one is begun with a footer, gets three
components and loses one of them. -/
theorem header_first_footer_last_begun :
    let s : Supply := .ofSequence fun n => List.replicate n 'c'
    let os : List Operation := [.edit (.seed "Iași"), .edit (.add "blog"),
      .edit (.move "ccc" "up"), .clear, .edit (.add "footer"), .edit (.add "hero"),
      .edit (.add "blog"), .edit (.delete "cccccc"), .edit (.add "map")]
    Fresh [] s os ∧ SparesFrame empty s os
      ∧ ∃ header middle footer, (runFrom [] s os).1.components = header :: (middle ++ [footer])
        ∧ header.kind = .header ∧ footer.kind = .footer
        ∧ tags middle = [(("ccccccc" : Text), Kind.blog), (("cccccccc" : Text), Kind.map)] := by
  intro s os
  have hinj : ∀ m n, s.item m = s.item n → m = n := fun m n h => by
    simpa [s, Supply.ofSequence] using congrArg List.length h
  have hfresh : Fresh [] s os := Fresh.of_injective hinj (fun _ _ => List.not_mem_nil) os
  have hspare : SparesFrame empty s os := by decide
  have hhistory : History.start.after empty s os
      = ⟨[("cccc", .footer), ("ccccccc", .blog), ("cccccccc", .map)], false⟩ := by decide
  have hne : (runFrom [] s os).1.components ≠ [] := by
    rw [runFrom, ofList_nil]
    decide
  have hall : os.take os.length = os := List.take_length
  have hstanding := header_first_footer_last hfresh hspare os.length
  rw [hall] at hstanding
  obtain ⟨header, middle, footer, hcs, hheader, hfooter, -, hmiddle⟩ := hstanding.resolve_left hne
  refine ⟨hfresh, hspare, header, middle, footer, hcs, hheader, hfooter, ?_⟩
  rw [hmiddle (by rw [hhistory]), hhistory]
  rfl

end Tree

end CivicSite
