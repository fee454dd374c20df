import CivicSite.Proofs.Json.Scalar

/-!
# The contents of values that were read

The reader makes values in two steps, and so does what holds of them. The builder puts values
together to lists and to objects, and it adds an entry only by putting it under its key, so it keeps
whatever lists and objects take over from what is in them, keys included (`Closed`). The scanner
makes the scalars, and only what it makes of a string depends on what was read: for texts it has to
be known what a string holds where it may end (`Scan.text?`). The two together are `holds_of_read`.
-/

namespace CivicSite

/-! ## Putting entries -/

theorem Entries.keys_put {α : Type} (es : Entries α) (key : Text) (v : α) :
    (es.put key v).map Prod.fst
      = if key ∈ es.map Prod.fst then es.map Prod.fst else es.map Prod.fst ++ [key] := by
  induction es with
  | nil => rfl
  | cons e rest ih =>
      rw [put]
      by_cases h : e.1 = key
      · rw [if_pos (beq_iff_eq.mpr h), if_pos (by simp [h]), List.map_cons, List.map_cons, h]
      · have hmem : key ∈ (e :: rest).map Prod.fst ↔ key ∈ rest.map Prod.fst := by
          simp [Ne.symm h]
        rw [if_neg (by simpa using h), List.map_cons, ih]
        simp only [hmem]
        split <;> rfl

theorem Entries.nodup_put {α : Type} {es : Entries α} (h : (es.map Prod.fst).Nodup) (key : Text)
    (v : α) : ((es.put key v).map Prod.fst).Nodup := by
  rw [keys_put]
  split
  · exact h
  · rename_i hnew
    refine List.nodup_append.mpr ⟨h, List.pairwise_singleton _ key, fun k hk l hl hkl => hnew ?_⟩
    rwa [← List.mem_singleton.mp hl, ← hkl]

theorem Entries.mem_put {α : Type} {es : Entries α} {key : Text} {v : α} {e : Text × α}
    (h : e ∈ es.put key v) : e ∈ es ∨ e = (key, v) := by
  induction es with
  | nil => exact Or.inr (List.mem_singleton.mp h)
  | cons d rest ih =>
      rw [put] at h
      split at h
      · rcases List.mem_cons.mp h with h | h
        · exact Or.inr h
        · exact Or.inl (List.mem_cons_of_mem _ h)
      · rcases List.mem_cons.mp h with h | h
        · exact Or.inl (h ▸ List.mem_cons_self)
        · exact (ih h).imp_left (List.mem_cons_of_mem _)

/-- **What is there after an entry was put**: the entry, and those under other keys. -/
theorem Entries.mem_put_iff {α : Type} {es : Entries α} (h : (es.map Prod.fst).Nodup)
    {key : Text} {v : α} {e : Text × α} :
    e ∈ es.put key v ↔ e = (key, v) ∨ e ∈ es ∧ e.1 ≠ key := by
  induction es with
  | nil => simp [put]
  | cons d rest ih =>
      obtain ⟨hd, hrest⟩ := List.nodup_cons.mp h
      have hmem : e ∈ rest → e.1 ≠ d.1 := fun he heq => hd (heq ▸ List.mem_map_of_mem he)
      rw [put]
      by_cases hkey : d.1 = key
      · subst hkey
        rw [if_pos (beq_self_eq_true _)]
        grind
      · rw [if_neg (by simpa using hkey)]
        grind

namespace Json

/-- What lists and objects take over from the keys and values in them, and what holds of all scalars
but texts. Whole numbers have no more digits than are read. -/
structure Closed (P : Json → Prop) : Prop where
  null : P null
  bool : ∀ b, P (bool b)
  int : ∀ i : Int, i.natAbs < numeralLimit → P (int i)
  double : ∀ x, P (double x)
  list : ∀ items, (∀ v ∈ items, P v) → P (list items)
  object : ∀ entries : List (Text × Json), (entries.map Prod.fst).Nodup →
    (∀ e ∈ entries, P (text e.1) ∧ P e.2) → P (object entries)

variable {P : Json → Prop}

/-! ## The scanner -/

/-- A token that completes a value completes one that is as asked for. -/
def Token.Holds (P : Json → Prop) : Token → Prop
  | scalar v => P v
  | _ => True

theorem holds_nil : ∀ t ∈ ([] : List Token), t.Holds P := fun _ ht => (List.not_mem_nil ht).elim

theorem holds_one {t : Token} (h : t.Holds P) : ∀ u ∈ [t], u.Holds P := fun _ hu =>
  List.mem_singleton.mp hu ▸ h

theorem holds_numeralToken (hP : Closed P) (cs : List Char) : (numeralToken cs).Holds P := by
  unfold numeralToken
  dsimp only
  split
  · split
    · trivial
    · rename_i hcount
      refine hP.int _ ?_
      have hnumber : Nat.ofDigitChars 10 (Text.splitDigits (Text.splitSign cs).2).1 0
          < numeralLimit :=
        ofDigitChars_lt_numeralLimit (List.all_eq_true.mp List.all_takeWhile)
          (Nat.not_lt.mp hcount)
      cases (Text.splitSign cs).1 with
      | true => rwa [if_pos rfl, Int.natAbs_neg, Int.natAbs_natCast]
      | false => rwa [if_neg Bool.false_ne_true, Int.natAbs_natCast]
  · exact hP.double _
  · exact hP.double _

theorem holds_numeralTokens (hP : Closed P) (read : List Char) (phase : NumeralPhase) :
    ∀ t ∈ numeralTokens read phase, t.Holds P := by
  have hone : ∀ cs, ∀ t ∈ [numeralToken cs], t.Holds P := fun cs =>
    holds_one (holds_numeralToken hP cs)
  have htwo : ∀ cs, ∀ t ∈ [numeralToken cs, .fault .malformed], t.Holds P := fun cs =>
    List.forall_mem_cons.mpr ⟨holds_numeralToken hP cs, holds_one trivial⟩
  cases phase with
  | sign => exact holds_one trivial
  | point | mark | markSign => exact htwo _
  | zero | whole | fraction | power => exact hone _

theorem holds_wordToken (hP : Closed P) (read : List Char) : (wordToken read).Holds P := by
  unfold wordToken
  split
  · exact hP.null
  · exact hP.bool _
  · exact hP.bool _
  · exact hP.double _
  · exact hP.double _
  · exact hP.double _
  · trivial

theorem holds_ite {p : Prop} [Decidable p] {r r' : Scan × List Token}
    (h : ∀ t ∈ r.2, t.Holds P) (h' : ∀ t ∈ r'.2, t.Holds P) :
    ∀ t ∈ (if p then r else r').2, t.Holds P := by
  by_cases hp : p
  · rwa [if_pos hp]
  · rwa [if_neg hp]

theorem holds_startToken (c : Char) : ∀ t ∈ (startToken c).2, t.Holds P := by
  unfold startToken
  repeat' apply holds_ite
  all_goals first | exact holds_nil | exact holds_one trivial

theorem holds_afterBackslash (read : Text) (c : Char) :
    ∀ t ∈ (afterBackslash read c).2, t.Holds P := by
  unfold afterBackslash
  repeat' apply holds_ite
  all_goals first | exact holds_nil | exact holds_one trivial

theorem holds_insideString {read : Text} (h : P (.text read.reverse)) (c : Char) :
    ∀ t ∈ (insideString read c).2, t.Holds P := by
  unfold insideString
  refine holds_ite (holds_one h) (holds_ite holds_nil ?_)
  exact holds_ite (holds_one trivial) holds_nil

/-- The text of a string that ends here. -/
def Scan.text? : Scan → Option Text
  | string read => some read.reverse
  | half read high => some (.ofNat high :: read : Text).reverse
  | _ => none

theorem holds_stepChar (hP : Closed P) {scan : Scan} (h : ∀ s ∈ scan.text?, P (.text s))
    (c : Char) : ∀ t ∈ (scan.stepChar c).2, t.Holds P := by
  cases scan with
  | idle => exact holds_startToken c
  | string read => exact holds_insideString (h _ rfl) c
  | escape read => exact holds_afterBackslash read c
  | unit read high? left value =>
      dsimp only [Scan.stepChar]
      split
      · split <;> exact holds_nil
      · exact holds_one trivial
  | half read high =>
      dsimp only [Scan.stepChar]
      split
      · exact holds_nil
      · exact holds_insideString (h _ rfl) c
  | halfEscape read high =>
      dsimp only [Scan.stepChar]
      split
      · exact holds_nil
      · exact holds_afterBackslash _ c
  | numeral read phase =>
      dsimp only [Scan.stepChar]
      split
      · exact holds_nil
      · split
        · exact holds_nil
        · exact List.forall_mem_append.mpr ⟨holds_numeralTokens hP read phase, holds_startToken c⟩
  | word read =>
      dsimp only [Scan.stepChar]
      split
      · exact holds_nil
      · exact List.forall_mem_cons.mpr ⟨holds_wordToken hP read, holds_startToken c⟩

theorem holds_step (hP : Closed P) {scan : Scan} (h : ∀ s ∈ scan.text?, P (.text s))
    (c : CodePoint) : ∀ t ∈ (scan.step c).2, t.Holds P := by
  cases c with
  | char c => exact holds_stepChar hP h c
  | lone half =>
      show ∀ t ∈ (scan.stepLone (.lone half)).2, t.Holds P
      have hfault : ∀ t ∈ [Token.fault .malformed], t.Holds P := holds_one trivial
      cases scan with
      | string read | half read high => exact holds_nil
      | numeral read phase =>
          exact List.forall_mem_append.mpr ⟨holds_numeralTokens hP read phase, hfault⟩
      | word read => exact List.forall_mem_cons.mpr ⟨holds_wordToken hP read, hfault⟩
      | idle | escape read | unit read high? left value | halfEscape read high => exact hfault

theorem holds_finish (hP : Closed P) (scan : Scan) : ∀ t ∈ scan.finish, t.Holds P := by
  cases scan with
  | idle => exact holds_nil
  | numeral read phase => exact holds_numeralTokens hP read phase
  | word read => exact List.forall_mem_cons.mpr ⟨holds_wordToken hP read, holds_nil⟩
  | string read | escape read | unit read high? left value | half read high
  | halfEscape read high => exact holds_one trivial

/-! ## The builder -/

/-- Entries that repeat no key, with keys and values as asked for. -/
def Keyed (P : Json → Prop) (entries : List (Text × Json)) : Prop :=
  (entries.map Prod.fst).Nodup ∧ ∀ e ∈ entries, P (text e.1) ∧ P e.2

theorem Keyed.put {entries : Entries Json} (h : Keyed P entries) {key : Text} {v : Json}
    (hkey : P (text key)) (hv : P v) : Keyed P (entries.put key v) := by
  refine ⟨Entries.nodup_put h.1 _ v, fun e he => ?_⟩
  rcases Entries.mem_put he with he | rfl
  · exact h.2 e he
  · exact ⟨hkey, hv⟩

/-- What is open repeats no key, and what is complete in it is as asked for. -/
def Frame.Holds (P : Json → Prop) : Frame → Prop
  | list items => ∀ v ∈ items, P v
  | object entries => Keyed P entries
  | member entries key => Keyed P entries ∧ P (text key)

/-- The key or the value that the builder has got last is as asked for. -/
def Await.Holds (P : Json → Prop) : Await → Prop
  | colon k => P (text k)
  | nothing v => P v
  | _ => True

namespace Builder

/-- The invariant of a builder. -/
structure Holds (P : Json → Prop) (b : Builder) : Prop where
  await : b.await.Holds P
  frames : ∀ f ∈ b.frames, f.Holds P

theorem holds_start : start.Holds P := ⟨trivial, fun _ h => (List.not_mem_nil h).elim⟩

theorem Holds.deliver {v : Json} {fs : List Frame} {b' : Builder} (hv : P v)
    (hfs : ∀ f ∈ fs, f.Holds P) (h : deliver v fs = .ok b') : b'.Holds P := by
  unfold Builder.deliver at h
  split at h
  · cases h
    exact ⟨hv, hfs⟩
  · cases h
    obtain ⟨hf, hrest⟩ := List.forall_mem_cons.mp hfs
    exact ⟨trivial, List.forall_mem_cons.mpr ⟨List.forall_mem_cons.mpr ⟨hv, hf⟩, hrest⟩⟩
  · cases h
    obtain ⟨⟨hentries, hkey⟩, hrest⟩ := List.forall_mem_cons.mp hfs
    exact ⟨trivial, List.forall_mem_cons.mpr ⟨hentries.put hkey hv, hrest⟩⟩
  · cases h

theorem Holds.enter {b b' : Builder} (hb : b.Holds P) {await : Await} {f : Frame}
    (hawait : await.Holds P) (hf : f.Holds P) (h : b.enter await f = .ok b') : b'.Holds P := by
  unfold Builder.enter at h
  split at h
  · cases h
    exact ⟨hawait, List.forall_mem_cons.mpr ⟨hf, hb.frames⟩⟩
  · cases h

theorem Holds.close (hP : Closed P) {b b' : Builder} (hb : b.Holds P) {t : Token}
    (h : b.close t = .ok b') : b'.Holds P := by
  unfold Builder.close at h
  split at h
  · rename_i items rest hfs
    obtain ⟨hf, hrest⟩ := List.forall_mem_cons.mp (hfs ▸ hb.frames)
    exact .deliver (hP.list _ fun v hv => hf v (List.mem_reverse.mp hv)) hrest h
  · rename_i entries rest hfs
    obtain ⟨⟨hkeys, hf⟩, hrest⟩ := List.forall_mem_cons.mp (hfs ▸ hb.frames)
    exact .deliver (hP.object entries hkeys hf) hrest h
  · cases h

theorem Holds.takeValue {b b' : Builder} (hb : b.Holds P) {t : Token} (ht : t.Holds P)
    (h : b.takeValue t = .ok b') : b'.Holds P := by
  unfold Builder.takeValue at h
  split at h
  · exact .deliver ht hb.frames h
  · have hawait : Await.firstItem.Holds P := trivial
    have hframe : (Frame.list []).Holds P := fun _ hv => nomatch hv
    exact hb.enter hawait hframe h
  · have hawait : Await.firstKey.Holds P := trivial
    have hframe : (Frame.object []).Holds P := ⟨List.nodup_nil, fun _ he => nomatch he⟩
    exact hb.enter hawait hframe h
  · cases h
  · cases h

theorem Holds.takeKey {b b' : Builder} (hb : b.Holds P) {t : Token} (ht : t.Holds P)
    (h : b.takeKey t = .ok b') : b'.Holds P := by
  unfold Builder.takeKey at h
  split at h
  · cases h
    exact ⟨ht, hb.frames⟩
  · cases h

/-- **The builder keeps what is closed.** -/
theorem Holds.push (hP : Closed P) {b b' : Builder} (hb : b.Holds P) {t : Token} (ht : t.Holds P)
    (h : b.push t = .ok b') : b'.Holds P := by
  unfold Builder.push at h
  split at h
  · exact hb.takeValue ht h
  · exact hb.close hP h
  · exact hb.takeValue ht h
  · exact hb.takeKey ht h
  · exact hb.close hP h
  · exact hb.takeKey ht h
  · rename_i key hawait
    have hkey : P (text key) := by
      have hheld := hb.await
      rwa [hawait] at hheld
    split at h
    · rename_i entries rest hfs
      cases h
      obtain ⟨hf, hrest⟩ := List.forall_mem_cons.mp (hfs ▸ hb.frames)
      exact ⟨trivial, List.forall_mem_cons.mpr ⟨⟨hf, hkey⟩, hrest⟩⟩
    · cases h
  · split at h
    · cases h
      exact ⟨trivial, hb.frames⟩
    · cases h
      exact ⟨trivial, hb.frames⟩
    · cases h
  · exact hb.close hP h
  · cases h

theorem Holds.foldlM (hP : Closed P) {ts : List Token} (ht : ∀ t ∈ ts, t.Holds P) {b b' : Builder}
    (hb : b.Holds P) (h : ts.foldlM Builder.push b = .ok b') : b'.Holds P := by
  induction ts generalizing b with
  | nil =>
      cases h
      exact hb
  | cons t rest ih =>
      obtain ⟨htok, hrest⟩ := List.forall_mem_cons.mp ht
      rw [List.foldlM_cons] at h
      cases hp : b.push t with
      | error e => rw [hp] at h; cases h
      | ok b'' =>
          rw [hp] at h
          exact ih hrest (hb.push hP htok hp) h

end Builder

/-! ## The reader -/

/-- What one code point does to the scanner, and which tokens the builder takes for it. -/
theorem feed_cases {scan scan' : Scan} {b b' : Builder} {c : CodePoint}
    (h : Reader.feed (.ok (scan, b)) c = .ok (scan', b')) :
    scan' = (scan.step c).1 ∧ (scan.step c).2.foldlM Builder.push b = .ok b' := by
  have h : (do let b ← (scan.step c).2.foldlM Builder.push b; pure ((scan.step c).1, b))
      = Except.ok (scan', b') := h
  cases hp : (scan.step c).2.foldlM Builder.push b with
  | error e => rw [hp] at h; cases h
  | ok b'' =>
      rw [hp] at h
      cases h
      exact ⟨rfl, rfl⟩

theorem foldl_feed_error (s : Text) (e : ReadError) :
    s.foldl Reader.feed (.error e) = .error e := by
  induction s with
  | nil => rfl
  | cons c rest ih => exact ih

variable {I : Scan → Prop}

theorem holds_foldl (hP : Closed P) (htext : ∀ scan, I scan → ∀ t ∈ scan.text?, P (.text t))
    {s : Text} (hstep : ∀ c ∈ s, ∀ scan, I scan → I (scan.step c).1) {scan scan' : Scan}
    {b b' : Builder} (hscan : I scan) (hb : b.Holds P)
    (h : s.foldl Reader.feed (.ok (scan, b)) = .ok (scan', b')) : I scan' ∧ b'.Holds P := by
  induction s generalizing scan b with
  | nil =>
      cases h
      exact ⟨hscan, hb⟩
  | cons c rest ih =>
      obtain ⟨hc, hrest⟩ := List.forall_mem_cons.mp hstep
      rw [List.foldl_cons] at h
      cases hf : Reader.feed (.ok (scan, b)) c with
      | error e =>
          rw [hf, foldl_feed_error] at h
          cases h
      | ok r =>
          obtain ⟨scan'', b''⟩ := r
          rw [hf] at h
          obtain ⟨rfl, hpush⟩ := feed_cases hf
          exact ih hrest (hc scan hscan) (hb.foldlM hP (holds_step hP (htext scan hscan) c) hpush) h

/-- **What is closed holds of every value that is read**, if it holds of the texts of strings. These
are known by what the scanner keeps. -/
theorem holds_of_read (hP : Closed P) (htext : ∀ scan, I scan → ∀ t ∈ scan.text?, P (.text t))
    (hidle : I .idle) {s : Text} (hstep : ∀ c ∈ s, ∀ scan, I scan → I (scan.step c).1) {v : Json}
    (h : read s = .ok v) : P v := by
  unfold read at h
  cases hr : s.foldl Reader.feed (.ok (.idle, .start)) with
  | error e => rw [hr] at h; cases h
  | ok r =>
      obtain ⟨scan, b⟩ := r
      rw [hr] at h
      have h : (do (← scan.finish.foldlM Builder.push b).value?) = Except.ok v := h
      cases hp : scan.finish.foldlM Builder.push b with
      | error e => rw [hp] at h; cases h
      | ok b' =>
          rw [hp] at h
          have h : b'.value? = .ok v := h
          obtain ⟨-, hb⟩ := holds_foldl hP htext hstep hidle Builder.holds_start hr
          have hb' := hb.foldlM hP (holds_finish hP scan) hp
          unfold Builder.value? at h
          split at h
          · rename_i hawait
            cases h
            have hheld := hb'.await
            rwa [hawait] at hheld
          · cases h

end Json

end CivicSite
