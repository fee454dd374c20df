import CivicSite.Publishing

/-!
# Which bodies confirm

A body confirms if it is, its blanks at both ends cut off, one of the words of confirmation, or a
JSON text of such a word, of an object that has one as its status, or of a list with one such
object and nothing else. `Confirming` is this grammar and `confirms` decides it, except that it
does not answer for a body whose lists and objects are too deep to be read (`Bottomless`).
-/

namespace CivicSite

/-! ## Values -/

/-- The values that confirm. -/
inductive ConfirmingValue : Json → Prop where
  | word {w : Text} : w ∈ confirmations → ConfirmingValue (.text w)
  | status {entries : Entries Json} {w : Text} : Entries.get? entries "status" = some (.text w) →
      w ∈ confirmations → ConfirmingValue (.object entries)
  | only {entries : Entries Json} :
      ConfirmingValue (.object entries) → ConfirmingValue (.list [.object entries])

theorem isConfirmation_iff {v : Json} :
    isConfirmation v = true ↔ ∃ w, v = .text w ∧ w ∈ confirmations := by
  constructor
  · intro h
    cases v with
    | text w => exact ⟨w, rfl, List.contains_iff_mem.mp h⟩
    | _ => cases h
  · rintro ⟨w, rfl, hw⟩
    exact List.contains_iff_mem.mpr hw

/-- The status of an object is a word of confirmation only if it is there. -/
theorem confirmingValue_object_iff {entries : Entries Json} :
    ConfirmingValue (.object entries) ↔
      isConfirmation ((Entries.get? entries "status").getD .null) = true := by
  constructor
  · intro h
    cases h with
    | status hget hw =>
        rw [hget]
        exact isConfirmation_iff.mpr ⟨_, rfl, hw⟩
  · intro h
    obtain ⟨w, hv, hw⟩ := isConfirmation_iff.mp h
    cases hget : Entries.get? entries "status" with
    | none =>
        rw [hget] at hv
        cases hv
    | some v =>
        rw [hget] at hv
        exact .status (hget.trans (congrArg some hv)) hw

theorem confirmingValue_iff (v : Json) :
    isConfirmation (statusOf v) = true ↔ ConfirmingValue v := by
  cases v with
  | text w =>
      refine ⟨fun h => ?_, fun h => ?_⟩
      · exact .word (List.contains_iff_mem.mp h)
      · cases h with
        | word hw => exact List.contains_iff_mem.mpr hw
  | object entries => exact confirmingValue_object_iff.symm
  | list items =>
      match items with
      | [.object entries] =>
          refine ⟨fun h => .only (confirmingValue_object_iff.mpr h), fun h => ?_⟩
          cases h with
          | only hobject => exact confirmingValue_object_iff.mp hobject
      | [] | [.null] | [.bool _] | [.int _] | [.double _] | [.text _] | [.list _] =>
          exact ⟨(fun h => nomatch h), (fun h => nomatch h)⟩
      | v :: _ :: _ =>
          cases v <;> exact ⟨(fun h => nomatch h), (fun h => nomatch h)⟩
  | null => exact ⟨(fun h => nomatch h), (fun h => nomatch h)⟩
  | bool b => exact ⟨(fun h => nomatch h), (fun h => nomatch h)⟩
  | int i => exact ⟨(fun h => nomatch h), (fun h => nomatch h)⟩
  | double x => exact ⟨(fun h => nomatch h), (fun h => nomatch h)⟩

/-! ## Bodies -/

/-- The bodies that confirm. -/
inductive Confirming (body : Text) : Prop where
  | bare : Text.trim body ∈ confirmations → Confirming body
  | json {v : Json} : Json.read (Text.trim body) = .ok v → ConfirmingValue v → Confirming body

/-- The bodies that are too deep to tell. -/
structure Bottomless (body : Text) : Prop where
  notBare : Text.trim body ∉ confirmations
  read : Json.read (Text.trim body) = .error .tooDeep

/-- A body that is too deep to be read is no word of confirmation, so it does not confirm. -/
theorem Bottomless.not_confirming {body : Text} (h : Bottomless body) : ¬ Confirming body := by
  intro hc
  cases hc with
  | bare hmem => exact h.notBare hmem
  | json hread _ => cases hread.symm.trans h.read

/-- **The grammar is decided wherever the body can be read.** -/
theorem confirms_spec (body : Text) :
    (confirms body = .ok true ∧ Confirming body)
      ∨ (confirms body = .ok false ∧ ¬ Confirming body ∧ ¬ Bottomless body)
      ∨ (confirms body = .error .tooDeep ∧ Bottomless body) := by
  unfold confirms
  dsimp only
  by_cases hbare : Text.trim body ∈ confirmations
  · rw [if_pos (List.contains_iff_mem.mpr hbare)]
    exact .inl ⟨rfl, .bare hbare⟩
  · rw [if_neg (mt List.contains_iff_mem.mp hbare)]
    cases hread : Json.read (Text.trim body) with
    | ok v =>
        by_cases hv : ConfirmingValue v
        · have hok : isConfirmation (statusOf v) = true := (confirmingValue_iff v).mpr hv
          exact .inl ⟨congrArg Except.ok hok, .json hread hv⟩
        · have hno : isConfirmation (statusOf v) = false :=
            Bool.eq_false_iff.mpr (mt (confirmingValue_iff v).mp hv)
          refine .inr (.inl ⟨congrArg Except.ok hno, fun hc => ?_, fun hd => ?_⟩)
          · cases hc with
            | bare hmem => exact hbare hmem
            | json hread' hv' =>
                cases hread.symm.trans hread'
                exact hv hv'
          · cases hread.symm.trans hd.read
    | error e =>
        have hunread : ¬ Confirming body := by
          intro hc
          cases hc with
          | bare hmem => exact hbare hmem
          | json hread' _ => cases hread.symm.trans hread'
        cases e with
        | tooDeep => exact .inr (.inr ⟨rfl, hbare, hread⟩)
        | malformed =>
            exact .inr (.inl ⟨rfl, hunread, fun hd => nomatch hread.symm.trans hd.read⟩)
        | tooManyDigits count =>
            exact .inr (.inl ⟨rfl, hunread, fun hd => nomatch hread.symm.trans hd.read⟩)

end CivicSite
