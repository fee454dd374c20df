import CivicSite.Proofs.Draft.Apart
import CivicSite.Proofs.Json.Texts
import CivicSite.Proofs.Post.Order

/-!
# Saving a draft and loading it

What is saved of a draft is loaded again: the settlement, the stylesheet, the reading of the clock,
and the components with all that is set in them, in the order of their positions. Components at one
position stay in the order in which they were saved (`Component.restores_byPosition`). In memory
this holds of any texts. A file can keep the draft just if it can be written at all, if its JSON is
not too deep, and if neither the draft nor what else is in the file has a text without UTF-8
(`Keeps`); otherwise no draft is loaded, and the error of a text without UTF-8 is not kept from the
one who saves (`round_trip_exact`).
-/

namespace CivicSite

/-! ## Components in order -/

namespace Component

/-- What is loaded of components: all of them in the order of their positions, and those at one
position as they were. -/
structure Restores (saved loaded : List Component) : Prop where
  perm : loaded.Perm saved
  ordered : loaded.Pairwise fun a b => a.position ≤ b.position
  stable : ∀ n : Int, loaded.filter (·.position == n) = saved.filter (·.position == n)

theorem restores_byPosition (cs : List Component) : Restores cs (byPosition cs) where
  perm := byPosition_perm cs
  ordered := pairwise_byPosition cs
  stable n := by
    refine filter_mergeSort ?trans ?total ?tied cs
    case trans =>
      intro a b c hab hbc
      simp only [decide_eq_true_eq] at hab hbc ⊢
      omega
    case total =>
      intro a b
      simp only [Bool.or_eq_true, decide_eq_true_eq]
      omega
    case tied =>
      intro a b ha hb
      simp only [beq_iff_eq, decide_eq_true_eq] at ha hb ⊢
      omega

end Component

/-! ## Drafts in characters -/

open Json (AllCharacters allCharacters_cons allCharacters_append allCharacters_nil)

theorem Body.allCharacters_toEntries (b : Body) :
    AllCharacters (Json.textsOfEntries b.toEntries)
      ↔ AllCharacters (b.kind.fields.filterMap b.value?) := by
  unfold Body.toEntries
  induction b.kind.fields with
  | nil => exact Iff.rfl
  | cons f fs ih =>
      cases hvalue : b.value? f with
      | none =>
          rw [List.filterMap_cons_none (by rw [hvalue]; rfl), List.filterMap_cons_none hvalue]
          exact ih
      | some s =>
          have hname : f.name.isEncodable = true := by cases f <;> rfl
          rw [List.filterMap_cons_some (by rw [hvalue]; rfl), List.filterMap_cons_some hvalue,
            Json.textsOfEntries, Json.texts, List.cons_append, allCharacters_cons,
            allCharacters_append, allCharacters_cons, allCharacters_cons, ih]
          simp only [hname, allCharacters_nil, true_and, and_true]

namespace Component

/-- The texts of a component: its id and what is set in it. -/
def texts (c : Component) : List Text := c.id :: c.kind.fields.filterMap c.body.value?

theorem allCharacters_toJson (c : Component) :
    AllCharacters c.toJson.texts ↔ AllCharacters c.texts := by
  have hkind : c.kind.name.isEncodable = true := by cases c.kind <;> rfl
  have halignment : c.alignment.name.isEncodable = true := by cases c.alignment <;> rfl
  simp only [toJson, texts, Json.texts, Json.textsOfEntries, List.cons_append, List.append_nil,
    List.nil_append, allCharacters_cons, allCharacters_append, Body.allCharacters_toEntries,
    Text.isEncodable_ofString, hkind, halignment, allCharacters_nil, true_and, and_true]
  exact Iff.rfl

end Component

namespace Draft

/-- The texts of a draft. -/
def texts (d : Draft) : List Text :=
  d.settlement :: d.css :: d.updatedAt :: d.components.flatMap Component.texts

theorem allCharacters_toJson (d : Draft) :
    AllCharacters d.toJson.texts ↔ AllCharacters d.texts := by
  have hitems : ∀ cs : List Component,
      AllCharacters (Json.textsOfItems (cs.map Component.toJson))
        ↔ AllCharacters (cs.flatMap Component.texts) := by
    intro cs
    induction cs with
    | nil => exact Iff.rfl
    | cons c rest ih =>
        rw [List.map_cons, Json.textsOfItems, List.flatMap_cons, allCharacters_append,
          allCharacters_append, Component.allCharacters_toJson, ih]
  simp only [toJson, texts, Json.texts, Json.textsOfEntries, List.cons_append, List.append_nil,
    List.nil_append, allCharacters_cons, allCharacters_append, hitems,
    Text.isEncodable_ofString, allCharacters_nil, true_and, and_true]
  rw [and_comm (a := AllCharacters _), and_assoc]

end Draft

namespace DraftCache

/-- A draft is stored in characters just if its texts are. -/
theorem isEncodable_encode (d : Draft) : (encode d).isEncodable = true ↔ AllCharacters d.texts := by
  rw [encode, Json.render, Json.isEncodable_write rfl, Draft.allCharacters_toJson]

/-! ## Any store -/

section Works

variable {σ : Type} {store : Store σ} {good opens : σ → Prop} {takes : Text → Text → σ → Prop}
variable {settlement css : Text} {cs : List Component} {clock : Supply} {s : σ}

/-- The draft that is saved. -/
def drafted (settlement : Text) (cs : List Component) (css : Text) (clock : Supply) : Draft :=
  ⟨settlement, cs, css, clock.draw.1⟩

/-- What the store makes of it. -/
def stored (store : Store σ) (settlement : Text) (cs : List Component) (css : Text)
    (clock : Supply) (s : σ) : Except Fault Unit × σ :=
  store.set (keyFor settlement) (encode (drafted settlement cs css clock)) s

theorem save_of_ok (h : (stored store settlement cs css clock s).1 = .ok ()) :
    save store settlement cs css clock s = (.ok (drafted settlement cs css clock), clock.draw.2,
      (stored store settlement cs css clock s).2) := by
  unfold stored drafted at *
  unfold save
  dsimp only
  generalize store.set _ _ s = r at h ⊢
  obtain ⟨result, left⟩ := r
  cases h
  rfl

theorem save_of_error {e : Fault} (he : e.isSystemFault = false)
    (h : (stored store settlement cs css clock s).1 = .error e) :
    save store settlement cs css clock s = (.error e, clock.draw.2,
      (stored store settlement cs css clock s).2) := by
  unfold stored drafted at *
  unfold save
  dsimp only
  generalize store.set _ _ s = r at h ⊢
  obtain ⟨result, left⟩ := r
  cases h
  dsimp only
  rw [he, if_neg Bool.false_ne_true]

/-- **What a store takes is loaded again.** -/
theorem load_save (hw : store.Works good opens takes) (hgood : good s)
    (ht : takes (keyFor settlement) (encode (drafted settlement cs css clock)) s)
    (h : ∀ c ∈ cs, c.position.natAbs < Json.numeralLimit) :
    (save store settlement cs css clock s).1 = .ok (drafted settlement cs css clock)
      ∧ (load store settlement (save store settlement cs css clock s).2.2).1
        = .ok (some (drafted settlement (Component.byPosition cs) css clock)) := by
  obtain ⟨hset, hget⟩ := hw.set_taken hgood ht
  have hgood' := hw.set_good hgood (keyFor settlement)
    (encode (drafted settlement cs css clock))
  have hdecode : decode (encode (drafted settlement cs css clock))
      = .ok (drafted settlement (Component.byPosition cs) css clock) := decode_encode h
  rw [save_of_ok hset]
  refine ⟨rfl, ?_⟩
  rw [stored, load_of_get (Prod.ext hget (hw.get_state hgood' _)), hdecode]
  rfl

/-- What a store refuses is not there afterwards. -/
theorem not_hasDraft_save (hw : store.Works good opens takes) (hgood : good s)
    (ht : ¬takes (keyFor settlement) (encode (drafted settlement cs css clock)) s) :
    (∃ e, (save store settlement cs css clock s).1 = .error e ∧ e.isSystemFault = false)
      ∧ ¬Session.HasDraft store settlement (save store settlement cs css clock s).2.2 := by
  obtain ⟨⟨e, hset, he⟩, hget⟩ := hw.set_refused hgood ht
  rw [save_of_error he hset]
  refine ⟨⟨e, rfl, he⟩, fun hdraft => ?_⟩
  obtain ⟨text, htext⟩ := Session.hasDraft_get hdraft
  exact hget text htext

end Works

/-! ## A file -/

/-- Whether a file can keep a draft: it can be written, its JSON is not too deep, and neither what
else is in it nor the draft has a text without UTF-8. -/
structure Keeps (p : Path) (d : Disk) (draft : Draft) : Prop where
  serves : d.Serves p
  others : ∃ es, Store.recoverEntries d p = .ok es
    ∧ ∀ e ∈ es, e.1 ≠ keyFor draft.settlement → e.1.isEncodable = true ∧ e.2.isEncodable = true
  characters : AllCharacters draft.texts

theorem keeps_iff {p : Path} {d : Disk} {draft : Draft} (hserves : d.Serves p) :
    Keeps p d draft ↔ Store.Takes p (keyFor draft.settlement) (encode draft) d := by
  have hkey : (keyFor draft.settlement).isEncodable = true
      ↔ draft.settlement.isEncodable = true := by
    rw [keyFor, Text.isEncodable_append]
    exact and_iff_right (Text.isEncodable_ofString _)
  constructor
  · rintro ⟨-, ⟨es, hes, hothers⟩, hcharacters⟩
    refine ⟨es, hes, fun e he => ?_⟩
    rcases (Entries.mem_put_iff (Store.nodup_recoverEntries hserves hes)).mp he with rfl | ⟨he, hne⟩
    · have hsettlement := hcharacters _ List.mem_cons_self
      exact ⟨hkey.mpr hsettlement, (isEncodable_encode draft).mpr hcharacters⟩
    · exact hothers e he hne
  · rintro ⟨es, hes, hall⟩
    have hnodup := Store.nodup_recoverEntries hserves hes
    have hmem {e : Text × Text} :=
      @Entries.mem_put_iff Text es hnodup (keyFor draft.settlement) (encode draft) e
    refine ⟨hserves, ⟨es, hes, fun e he hne => hall e (hmem.mpr (.inr ⟨he, hne⟩))⟩, ?_⟩
    exact (isEncodable_encode draft).mp (hall _ (hmem.mpr (.inl rfl))).2

variable {cs : List Component}

/-- **What is saved is loaded again**, and just when it is not. -/
theorem round_trip_exact (h : ∀ c ∈ cs, c.position.natAbs < Json.numeralLimit)
    (settlement css : Text) (clock : Supply) :
    let saved : Draft := ⟨settlement, cs, css, clock.draw.1⟩
    ∃ loaded, Component.Restores cs loaded
      ∧ (∀ m, let r := save Store.memory settlement cs css clock m
        r.1 = .ok saved
          ∧ (load Store.memory settlement r.2.2).1 = .ok (some { saved with components := loaded }))
      ∧ ∀ p d, let r := save (Store.file p) settlement cs css clock d
        (Keeps p d saved → r.1 = .ok saved
          ∧ (load (Store.file p) settlement r.2.2).1
            = .ok (some { saved with components := loaded }))
        ∧ (¬Keeps p d saved → ¬Session.HasDraft (Store.file p) settlement r.2.2
          ∧ (d.Serves p → ∃ e, r.1 = .error e ∧ e.isSystemFault = false)) := by
  intro saved
  refine ⟨Component.byPosition cs, Component.restores_byPosition cs, fun m => ?_, fun p d => ?_⟩
  · exact load_save Store.memory_works trivial trivial h
  · intro r
    by_cases hserves : d.Serves p
    · rw [keeps_iff hserves]
      refine ⟨fun ht => load_save (Store.file_works p) hserves ht h, fun ht => ?_⟩
      obtain ⟨herror, hnone⟩ := not_hasDraft_save (Store.file_works p) hserves ht
      exact ⟨hnone, fun _ => herror⟩
    · refine ⟨fun hkeeps => absurd hkeeps.serves hserves,
        fun _ => ⟨?_, fun hs => absurd hs hserves⟩⟩
      have hload : (load (Store.file p) settlement r.2.2).1 = .ok none :=
        load_of_noFile (noFile_use hserves (.save cs css) clock)
      rintro ⟨draft, hdraft⟩
      rw [hload] at hdraft
      cases hdraft

/-- Two components that are saved in the wrong order. -/
theorem round_trip_exact_swapped :
    let c : Component := ⟨"c1", .about (some "") none, 1, .right⟩
    let c' : Component := ⟨"c2", .hero none (some "Salut"), 0, .center⟩
    let r := save Store.memory "s1" [c, c'] "p" (.ofSequence fun _ => "now") []
    (load Store.memory "s1" r.2.2).1 = .ok (some ⟨"s1", [c', c], "p", "now"⟩) := by
  intro c c' r
  have hpositions : ∀ x ∈ [c, c'], x.position.natAbs < Json.numeralLimit := by decide +kernel
  obtain ⟨loaded, hloaded, hmemory, -⟩ :=
    round_trip_exact hpositions "s1" "p" (.ofSequence fun _ => "now")
  have hswapped : loaded = [c', c] := by
    have hnodup : (loaded.map Component.position).Nodup :=
      (hloaded.perm.map Component.position).nodup_iff.mpr (by decide)
    refine eq_of_pairwise_of_perm ?antisymm hloaded.ordered (by decide) hnodup ?perm
    case antisymm => exact fun x y hxy hyx => Int.le_antisymm hxy hyx
    case perm => exact hloaded.perm.trans (List.Perm.swap c' c [])
  rw [(hmemory []).2, hswapped]
  rfl

end DraftCache

end CivicSite
