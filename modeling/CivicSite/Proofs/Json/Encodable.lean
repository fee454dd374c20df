import CivicSite.Proofs.Json.Scalar

/-!
# Which written texts have bytes

A text has UTF-8 if no half of a surrogate pair stands alone in it. Where characters are left as
they are, the writer adds nothing but characters to what it is given, so what it writes of a string
has UTF-8 if the string has.
-/

namespace CivicSite

namespace Text

theorem isEncodable_iff_forall {s : Text} :
    s.isEncodable = true ↔ ∀ c ∈ s, ∃ ch : Char, c = .char ch := by
  rw [isEncodable_iff]
  constructor
  · rintro ⟨t, rfl⟩ c hc
    obtain ⟨ch, -, rfl⟩ := List.mem_map.mp hc
    exact ⟨ch, rfl⟩
  · intro h
    induction s with
    | nil => exact ⟨"", rfl⟩
    | cons c rest ih =>
        obtain ⟨⟨ch, rfl⟩, hrest⟩ := List.forall_mem_cons.mp h
        obtain ⟨t, rfl⟩ := ih hrest
        refine ⟨String.ofList (ch :: t.toList), ?_⟩
        show _ = ofChars (String.ofList (ch :: t.toList)).toList
        rw [String.toList_ofList]
        rfl

@[simp] theorem isEncodable_append {s t : Text} :
    (s ++ t).isEncodable = true ↔ s.isEncodable = true ∧ t.isEncodable = true := by
  simp only [isEncodable_iff_forall, List.forall_mem_append]

@[simp] theorem isEncodable_ofChars (cs : List Char) : (ofChars cs).isEncodable = true :=
  isEncodable_iff_forall.mpr fun _ hc => (List.mem_map.mp hc).imp fun _ h => h.2.symm

@[simp] theorem isEncodable_ofString (s : String) : (ofString s).isEncodable = true :=
  isEncodable_ofChars s.toList

theorem isEncodable_of_subset {s t : Text} (h : t.isEncodable = true) (hst : s ⊆ t) :
    s.isEncodable = true :=
  isEncodable_iff_forall.mpr fun c hc => isEncodable_iff_forall.mp h c (hst hc)

theorem isEncodable_flatMap {α : Type} {l : List α} {f : α → Text} :
    isEncodable (l.flatMap f) = true ↔ ∀ a ∈ l, (f a).isEncodable = true := by
  induction l with
  | nil => exact iff_of_true rfl nofun
  | cons a rest ih => rw [List.flatMap_cons, isEncodable_append, ih, List.forall_mem_cons]

theorem isEncodable_intercalate {sep : Text} {parts : List Text} (hsep : sep.isEncodable = true)
    (h : ∀ s ∈ parts, s.isEncodable = true) : isEncodable (sep.intercalate parts) = true := by
  induction parts with
  | nil => rfl
  | cons s rest ih =>
      obtain ⟨hs, hrest⟩ := List.forall_mem_cons.mp h
      cases rest with
      | nil => simpa using hs
      | cons s' rest =>
          rw [List.intercalate_cons_of_ne_nil (List.cons_ne_nil s' rest)]
          simp only [isEncodable_append]
          exact ⟨⟨hs, hsep⟩, ih hrest⟩

end Text

namespace Json

theorem isEncodable_writePoint (c : CodePoint) :
    (writePoint false c).isEncodable = true ↔ ∃ ch : Char, c = .char ch := by
  by_cases hshort : ∃ p ∈ shortEscapes, c = .char p.1
  · obtain ⟨p, hp, rfl⟩ := hshort
    rw [writePoint_of_shortEscape hp]
    exact ⟨fun _ => ⟨p.1, rfl⟩, fun _ => rfl⟩
  · rw [writePoint_of_not_shortEscape fun p hp hc => hshort ⟨p, hp, hc⟩]
    split
    · rename_i hlow
      refine ⟨fun _ => ?_, fun _ => ?_⟩
      · cases c with
        | char ch => exact ⟨ch, rfl⟩
        | lone half =>
            have hlow : 0xD800 + half.val < 0x20 := hlow
            omega
      · refine Text.isEncodable_iff_forall.mpr fun d hd => ?_
        rcases List.mem_append.mp hd with hd | hd
        all_goals
          obtain ⟨ch, -, rfl⟩ := List.mem_map.mp hd
          exact ⟨ch, rfl⟩
    · rw [Text.isEncodable_iff_forall]
      exact ⟨fun h => h c List.mem_cons_self, fun h d hd => List.mem_singleton.mp hd ▸ h⟩

theorem isEncodable_writeText (s : Text) :
    (writeText false s).isEncodable = true ↔ s.isEncodable = true := by
  have hquote : (Text.ofString "\"").isEncodable = true := rfl
  rw [writeText, Text.isEncodable_append, Text.isEncodable_append]
  simp only [hquote, true_and, and_true]
  rw [Text.isEncodable_iff_forall (s := s)]
  induction s with
  | nil => exact ⟨fun _ _ hc => (List.not_mem_nil hc).elim, fun _ => rfl⟩
  | cons c rest ih =>
      rw [List.flatMap_cons, Text.isEncodable_append, isEncodable_writePoint, List.forall_mem_cons]
      exact and_congr_right fun _ => ih

theorem isEncodable_lineBreak (style : Style) (depth : Nat) :
    (lineBreak style depth).isEncodable = true := by
  unfold lineBreak
  split
  · refine Text.isEncodable_iff_forall.mpr fun c hc => ?_
    rcases List.mem_cons.mp hc with rfl | hc
    · exact ⟨_, rfl⟩
    · exact ⟨_, List.eq_of_mem_replicate hc⟩
  · rfl

/-! ## Escapes only -/

theorem isEncodable_unitEscape (n : Nat) : (unitEscape n).isEncodable = true :=
  Text.isEncodable_append.mpr ⟨Text.isEncodable_ofString _, Text.isEncodable_ofChars _⟩

theorem isEncodable_escapes (c : CodePoint) : (escapes c).isEncodable = true := by
  unfold escapes
  dsimp only
  split
  · exact isEncodable_unitEscape _
  · exact Text.isEncodable_append.mpr ⟨isEncodable_unitEscape _, isEncodable_unitEscape _⟩

theorem isEncodable_writePoint_ascii (c : CodePoint) : (writePoint true c).isEncodable = true := by
  cases c with
  | lone half =>
      have hbig : 0x7F ≤ (CodePoint.lone half).toNat := by
        rw [CodePoint.toNat]
        omega
      have hsmall : ¬ (CodePoint.lone half).toNat < 0x20 := by omega
      have hwrite : writePoint true (.lone half) = escapes (.lone half) := by
        simp [writePoint, hbig, hsmall]
      rw [hwrite]
      exact isEncodable_escapes _
  | char ch =>
      unfold writePoint
      split
      · exact Text.isEncodable_ofChars ['\\', ch]
      iterate 5
        split
        · exact Text.isEncodable_ofString _
      split
      · exact isEncodable_unitEscape _
      split
      · exact isEncodable_escapes _
      · exact Text.isEncodable_ofChars [ch]

theorem isEncodable_writeText_ascii (s : Text) : (writeText true s).isEncodable = true := by
  unfold writeText
  simp only [Text.isEncodable_append, Text.isEncodable_ofString, Text.isEncodable_flatMap,
    isEncodable_writePoint_ascii, implies_true, and_self]

theorem isEncodable_writeDouble (x : Double) : (writeDouble x).isEncodable = true := by
  cases x with
  | nan => exact Text.isEncodable_ofString _
  | infinite negative => cases negative <;> exact Text.isEncodable_ofString _
  | finite negative units representable => exact Text.isEncodable_ofChars _

theorem isEncodable_separator (style : Style) (depth : Nat) :
    (separator style depth).isEncodable = true := by
  refine Text.isEncodable_append.mpr ⟨Text.isEncodable_ofString _, ?_⟩
  split
  · exact isEncodable_lineBreak style depth
  · exact Text.isEncodable_ofString _

variable {style : Style}

mutual

/-- **Where characters beyond ASCII are escaped, every value is written in characters.** -/
theorem isEncodable_write_ascii (hstyle : style.asciiOnly = true) (v : Json) (depth : Nat) :
    (write style depth v).isEncodable = true := by
  cases v with
  | null => exact Text.isEncodable_ofString _
  | bool b => cases b <;> exact Text.isEncodable_ofString _
  | int i => exact Text.isEncodable_ofString _
  | double x => exact isEncodable_writeDouble x
  | text s =>
      rw [write, hstyle]
      exact isEncodable_writeText_ascii s
  | list items =>
      cases items with
      | nil => exact Text.isEncodable_ofString _
      | cons v rest =>
          simp only [write, Text.isEncodable_append, Text.isEncodable_ofString,
            isEncodable_lineBreak, isEncodable_write_ascii hstyle v,
            isEncodable_writeItems_ascii hstyle rest, and_self]
  | object entries =>
      cases entries with
      | nil => exact Text.isEncodable_ofString _
      | cons e rest =>
          obtain ⟨k, v⟩ := e
          simp only [write, hstyle, Text.isEncodable_append, Text.isEncodable_ofString,
            isEncodable_lineBreak, isEncodable_writeText_ascii, isEncodable_write_ascii hstyle v,
            isEncodable_writeEntries_ascii hstyle rest, and_self]

theorem isEncodable_writeItems_ascii (hstyle : style.asciiOnly = true) (items : List Json)
    (depth : Nat) : (writeItems style depth items).isEncodable = true := by
  cases items with
  | nil => rfl
  | cons v rest =>
      simp only [writeItems, Text.isEncodable_append, isEncodable_separator,
        isEncodable_write_ascii hstyle v, isEncodable_writeItems_ascii hstyle rest, and_self]

theorem isEncodable_writeEntries_ascii (hstyle : style.asciiOnly = true)
    (entries : List (Text × Json)) (depth : Nat) :
    (writeEntries style depth entries).isEncodable = true := by
  cases entries with
  | nil => rfl
  | cons e rest =>
      obtain ⟨k, v⟩ := e
      simp only [writeEntries, hstyle, Text.isEncodable_append, Text.isEncodable_ofString,
        isEncodable_separator, isEncodable_writeText_ascii, isEncodable_write_ascii hstyle v,
        isEncodable_writeEntries_ascii hstyle rest, and_self]

end

end Json

end CivicSite
