import CivicSite.Proofs.Json.Joined
import CivicSite.Proofs.Json.Numeral

/-!
# Reading values that were written

A value is read back from what the writer makes of it, in every style. The reader has limits, which
make up `Readable`: numerals have a greatest length, and a repeated key is not kept apart. A style
that leaves characters as they are keeps every text; one that writes escapes keeps the texts in
which no two halves make a pair (`Style.Keeps`). How deep a value may lie is a condition of its own,
because it is about the value together with what is open around it. Whatever was read of a text in
UTF-8 meets the others (`readable_of_read`).

The proof follows the writer: one statement for a value, one for the items after the first and one
for the entries after the first, each saying what the reader has once the text is through.
-/

namespace CivicSite.Json

/-! ## Texts that can be read back -/

/-- A code point is written in one of its spellings, where only ASCII is left as it is. -/
theorem spells_writePoint (c : CodePoint) : Spells c (writePoint true c) := by
  by_cases hshort : ∃ p ∈ shortEscapes, c = .char p.1
  · obtain ⟨p, hp, rfl⟩ := hshort
    rw [writePoint_of_shortEscape hp]
    exact .short hp
  · have hlong : ∀ p ∈ shortEscapes, c ≠ .char p.1 := fun p hp hc => hshort ⟨p, hp, hc⟩
    rw [writePoint_eq_ite hlong, Bool.true_and]
    split
    · rename_i hlow
      have hescapes : escapes c = unitEscape c.toNat := if_pos (by omega)
      exact hescapes ▸ .escaped c
    · split
      · exact .escaped c
      · rename_i hlow hhigh
        rw [decide_eq_true_eq] at hhigh
        cases c with
        | lone half => exact absurd (show 0x7F ≤ 0xD800 + half.val by omega) hhigh
        | char c =>
            have hquote : c ≠ '"' := fun h => hlong ('"', '"') (by decide) (congrArg _ h)
            have hslash : c ≠ '\\' := fun h => hlong ('\\', '\\') (by decide) (congrArg _ h)
            exact .plain hquote hslash (Nat.not_lt.mp hlow)

/-- What is read of a text that was written in a style is the text. -/
def Style.Keeps (style : Style) (s : Text) : Prop := style.asciiOnly = true → s.IsJoined

theorem Style.keeps_of_not_ascii {style : Style} (h : style.asciiOnly = false) (s : Text) :
    style.Keeps s := fun hascii => absurd (h.symm.trans hascii) Bool.false_ne_true

/-- A string that was written is read as one token. -/
theorem resume_writeText_of_keeps {style : Style} {s : Text} (hs : style.Keeps s)
    {b b' : Builder} (h : b.push (.scalar (.text s)) = .ok b') :
    resume (.ok (.idle, b)) (writeText style.asciiOnly s) = .ok (.idle, b') := by
  cases hascii : style.asciiOnly with
  | false => exact resume_writeText h
  | true =>
      have hopen : Reader.feed (.ok (.idle, b)) '"' = .ok (.string [], b) := feed_silent rfl b
      show resume (Reader.feed (.ok (.idle, b)) '"')
        (s.flatMap (writePoint true) ++ [CodePoint.char '"']) = _
      rw [hopen]
      refine resume_spelled spells_writePoint s [] none nofun ?_
      have hjoined : s.joined = s := Text.joined_eq_of_isJoined (hs hascii)
      show b.push (.scalar (.text s.joined)) = _
      rw [hjoined]
      exact h

/-! ## Halves in escapes -/

theorem writePoint_of_not_ascii {c : CodePoint} (h : 0x7F ≤ c.toNat) :
    writePoint true c = escapes c := by
  have hlong : ∀ p ∈ shortEscapes, c ≠ .char p.1 := by
    rintro p hp rfl
    have hsmall : ∀ p ∈ shortEscapes, p.1.toNat < 0x7F := by decide
    exact Nat.not_lt.mpr h (hsmall p hp)
  rw [writePoint_eq_ite hlong, if_neg (by omega), Bool.true_and, if_pos (decide_eq_true h)]

theorem escapes_eq (c : CodePoint) : escapes c = c.units.flatMap unitEscape := by
  unfold escapes CodePoint.units
  dsimp only
  split
  · exact (List.flatMap_singleton ..).symm
  · simp

/-- **Where escapes are written, two halves are written like the character that they make.** -/
theorem writeText_joined (s : Text) : writeText true s.joined = writeText true s := by
  have hpoints : ∀ s : Text, s.joined.flatMap (writePoint true) = s.flatMap (writePoint true) := by
    intro s
    fun_induction Text.joined s with
    | case1 a b rest hpair ih =>
        have hpoint : 0x7F ≤ (CodePoint.ofPair a b).toNat := by
          rw [← CodePoint.ofNat_eq_ofPair, CodePoint.toNat_ofNat (by omega)]
          omega
        have hlone (half : Fin 2048) : 0x7F ≤ (CodePoint.lone half).toNat :=
          show 0x7F ≤ 0xD800 + half.val by omega
        rw [List.flatMap_cons, List.flatMap_cons, List.flatMap_cons, ih,
          writePoint_of_not_ascii hpoint, writePoint_of_not_ascii (hlone a),
          writePoint_of_not_ascii (hlone b), escapes_eq, escapes_eq, escapes_eq,
          CodePoint.units_ofPair hpair.1 hpair.2, CodePoint.units_lone, CodePoint.units_lone]
        simp
    | case2 a b rest hpair ih => rw [List.flatMap_cons, ih, ← List.flatMap_cons]
    | case3 c rest hne ih => rw [List.flatMap_cons, ih, ← List.flatMap_cons]
    | case4 => rfl
  rw [writeText, hpoints, writeText]

/-! ## Values that can be read back -/

mutual

/-- A value that is read back from its text. -/
def Readable (style : Style) : Json → Prop
  | null | bool _ | double _ => True
  | text s => style.Keeps s
  | int i => i.natAbs < numeralLimit
  | list items => ItemsReadable style items
  | object entries => (entries.map Prod.fst).Nodup ∧ EntriesReadable style entries

/-- Items that are. -/
def ItemsReadable (style : Style) : List Json → Prop
  | [] => True
  | v :: rest => Readable style v ∧ ItemsReadable style rest

/-- Entries whose keys and values are. -/
def EntriesReadable (style : Style) : List (Text × Json) → Prop
  | [] => True
  | (k, v) :: rest => (style.Keeps k ∧ Readable style v) ∧ EntriesReadable style rest

end

theorem itemsReadable_iff {style : Style} {items : List Json} :
    ItemsReadable style items ↔ ∀ v ∈ items, Readable style v := by
  induction items with
  | nil => exact ⟨fun _ _ hv => (List.not_mem_nil hv).elim, fun _ => trivial⟩
  | cons v rest ih => rw [ItemsReadable, ih, List.forall_mem_cons]

theorem entriesReadable_iff {style : Style} {entries : List (Text × Json)} :
    EntriesReadable style entries ↔ ∀ e ∈ entries, style.Keeps e.1 ∧ Readable style e.2 := by
  induction entries with
  | nil => exact ⟨fun _ _ he => (List.not_mem_nil he).elim, fun _ => trivial⟩
  | cons e rest ih =>
      obtain ⟨k, v⟩ := e
      rw [EntriesReadable, ih, List.forall_mem_cons]

/-- Lists and objects can be read back if what is in them can. -/
theorem closed_readable (style : Style) : Closed (Readable style) where
  null := trivial
  bool _ := trivial
  int _ hi := hi
  double _ := trivial
  list _ := itemsReadable_iff.mpr
  object _ hkeys hentries := ⟨hkeys, entriesReadable_iff.mpr hentries⟩

/-- **What was read of a text in UTF-8 can be written and read again.** -/
theorem readable_of_read {s : Text} (hs : s.isEncodable = true) {v : Json} (h : read s = .ok v)
    (style : Style) : v.Readable style :=
  holds_of_read (I := Scan.Joined) (closed_readable style) (fun _ hscan t ht _ => hscan.text t ht)
    trivial (fun c hc _ hscan => joined_step hscan (Text.isEncodable_iff_forall.mp hs c hc)) h

variable {style style' : Style}

mutual

/-- What can be read back in one style can be in another that keeps as many texts. -/
theorem Readable.mono (hkeeps : ∀ s, style.Keeps s → style'.Keeps s) {v : Json}
    (h : v.Readable style) : v.Readable style' := by
  cases v with
  | text s => exact hkeeps s h
  | int i => exact h
  | list items => exact ItemsReadable.mono hkeeps h
  | object entries => exact ⟨h.1, EntriesReadable.mono hkeeps h.2⟩
  | _ => trivial

theorem ItemsReadable.mono (hkeeps : ∀ s, style.Keeps s → style'.Keeps s) {items : List Json}
    (h : ItemsReadable style items) : ItemsReadable style' items := by
  cases items with
  | nil => trivial
  | cons v rest => exact ⟨h.1.mono hkeeps, h.2.mono hkeeps⟩

theorem EntriesReadable.mono (hkeeps : ∀ s, style.Keeps s → style'.Keeps s)
    {entries : List (Text × Json)} (h : EntriesReadable style entries) :
    EntriesReadable style' entries := by
  cases entries with
  | nil => trivial
  | cons e rest =>
      obtain ⟨k, v⟩ := e
      exact ⟨⟨hkeeps k h.1.1, h.1.2.mono hkeeps⟩, h.2.mono hkeeps⟩

end

/-! ## Keys in order -/

theorem keys_sortEntries (entries : List (Text × Json)) :
    (sortEntries entries).map Prod.fst = entries.map Prod.fst := by
  induction entries with
  | nil => rfl
  | cons e rest ih =>
      obtain ⟨k, v⟩ := e
      rw [sortEntries, List.map_cons, List.map_cons, ih]

mutual

/-- **A value that can be read back can be with its keys in order.** -/
theorem Readable.sortKeys {v : Json} (h : v.Readable style) : v.sortKeys.Readable style := by
  cases v with
  | list items => exact ItemsReadable.sortItems h
  | object entries =>
      obtain ⟨hkeys, hentries⟩ := h
      have hperm := List.mergeSort_perm (sortEntries entries) fun a b => a.1.le b.1
      refine ⟨(hperm.map Prod.fst).nodup_iff.mpr ?_, entriesReadable_iff.mpr fun e he => ?_⟩
      · rwa [keys_sortEntries]
      · exact entriesReadable_iff.mp (EntriesReadable.sortEntries hentries) e (hperm.mem_iff.mp he)
  | _ => exact h

theorem ItemsReadable.sortItems {items : List Json} (h : ItemsReadable style items) :
    ItemsReadable style (sortItems items) := by
  cases items with
  | nil => trivial
  | cons v rest => exact ⟨h.1.sortKeys, h.2.sortItems⟩

theorem EntriesReadable.sortEntries {entries : List (Text × Json)}
    (h : EntriesReadable style entries) : EntriesReadable style (sortEntries entries) := by
  cases entries with
  | nil => trivial
  | cons e rest =>
      obtain ⟨k, v⟩ := e
      exact ⟨⟨h.1.1, h.1.2.sortKeys⟩, h.2.sortEntries⟩

end

theorem depthOfEntries_le {entries : List (Text × Json)} {k : Nat}
    (h : ∀ e ∈ entries, e.2.depth ≤ k) : depthOfEntries entries ≤ k := by
  induction entries with
  | nil => exact Nat.zero_le k
  | cons e rest ih =>
      obtain ⟨hfirst, hrest⟩ := List.forall_mem_cons.mp h
      exact Nat.max_le.mpr ⟨hfirst, ih hrest⟩

mutual

theorem depth_sortKeys_le (v : Json) : v.sortKeys.depth ≤ v.depth := by
  cases v with
  | list items => exact Nat.succ_le_succ (depthOfItems_sortItems_le items)
  | object entries =>
      exact Nat.succ_le_succ <| depthOfEntries_le fun e he =>
        depth_le_of_mem_sortEntries entries e (List.mem_mergeSort.mp he)
  | _ => exact Nat.le_refl 0

theorem depthOfItems_sortItems_le (items : List Json) :
    depthOfItems (sortItems items) ≤ depthOfItems items := by
  cases items with
  | nil => exact Nat.le_refl 0
  | cons v rest =>
      rw [sortItems, depthOfItems, depthOfItems]
      have hfirst := depth_sortKeys_le v
      have hrest := depthOfItems_sortItems_le rest
      omega

theorem depth_le_of_mem_sortEntries (entries : List (Text × Json)) :
    ∀ e ∈ sortEntries entries, e.2.depth ≤ depthOfEntries entries := by
  cases entries with
  | nil => exact List.forall_mem_nil _
  | cons e rest =>
      obtain ⟨k, v⟩ := e
      rw [sortEntries, depthOfEntries, List.forall_mem_cons]
      exact ⟨Nat.le_trans (depth_sortKeys_le v) (Nat.le_max_left ..), fun e he =>
        Nat.le_trans (depth_le_of_mem_sortEntries rest e he) (Nat.le_max_right ..)⟩

end

/-! ## Blanks and separators -/

theorem resume_spaces (b : Builder) (n : Nat) :
    resume (.ok (.idle, b)) (List.replicate n (CodePoint.char ' ')) = .ok (.idle, b) := by
  induction n with
  | zero => rfl
  | succ n ih => exact ih

theorem resume_lineBreak (style : Style) (depth : Nat) (b : Builder) :
    resume (.ok (.idle, b)) (lineBreak style depth) = .ok (.idle, b) := by
  unfold lineBreak
  split
  · exact resume_spaces b _
  · rfl

theorem resume_separator (style : Style) (depth : Nat) {b c : Builder}
    (h : b.push .comma = .ok c) :
    resume (.ok (.idle, b)) (separator style depth) = .ok (.idle, c) := by
  have hcomma : Reader.feed (.ok (.idle, b)) ',' = .ok (.idle, c) :=
    feed_token (t := .comma) (rfl : Scan.step .idle ',' = _) h
  show resume (Reader.feed _ ',') _ = _
  rw [hcomma]
  split
  · exact resume_lineBreak style depth c
  · rfl

/-- A line break and a bracket may follow a value. -/
theorem mayFollow_lineBreak (style : Style) (depth : Nat) {d : Char} (hd : d ∈ delimiters) :
    MayFollow (lineBreak style depth ++ [CodePoint.char d]) := by
  intro c hc
  unfold lineBreak at hc
  split at hc
  · exact ⟨'\n', by decide, (Option.some.inj hc).symm⟩
  · exact ⟨d, hd, (Option.some.inj hc).symm⟩

theorem mayFollow_separator (style : Style) (depth : Nat) (t : Text) :
    MayFollow (separator style depth ++ t) := fun _ hc =>
  ⟨',', by decide, (Option.some.inj hc).symm⟩

theorem mayFollow_writeItems (style : Style) (depth : Nat) (items : List Json) :
    MayFollow (writeItems style depth items) := by
  cases items with
  | nil => exact fun _ hc => by cases hc
  | cons v rest =>
      rw [writeItems, List.append_assoc]
      exact mayFollow_separator style depth _

theorem mayFollow_writeEntries (style : Style) (depth : Nat) (entries : List (Text × Json)) :
    MayFollow (writeEntries style depth entries) := by
  cases entries with
  | nil => exact fun _ hc => by cases hc
  | cons e rest =>
      obtain ⟨k, v⟩ := e
      rw [writeEntries, List.append_assoc, List.append_assoc, List.append_assoc]
      exact mayFollow_separator style depth _

/-! ## Builders that expect a value -/

/-- A value may come next. -/
def Builder.Expects (b : Builder) : Prop := b.await = .value ∨ b.await = .firstItem

theorem push_scalar {b : Builder} (h : b.Expects) (v : Json) :
    b.push (.scalar v) = Builder.deliver v b.frames := by
  rcases h with h | h
  all_goals
    unfold Builder.push
    rw [h]
    rfl

theorem push_openList {b : Builder} (h : b.Expects) (hd : b.frames.length < maxDepth) :
    b.push .openList = .ok ⟨.firstItem, .list [] :: b.frames⟩ := by
  rcases h with h | h
  all_goals
    unfold Builder.push
    rw [h]
    exact if_pos hd

theorem push_openObject {b : Builder} (h : b.Expects) (hd : b.frames.length < maxDepth) :
    b.push .openObject = .ok ⟨.firstKey, .object [] :: b.frames⟩ := by
  rcases h with h | h
  all_goals
    unfold Builder.push
    rw [h]
    exact if_pos hd

theorem put_of_not_mem {α : Type} {entries : Entries α} {key : Text} (v : α)
    (h : key ∉ entries.map Prod.fst) : entries.put key v = entries ++ [(key, v)] := by
  induction entries with
  | nil => rfl
  | cons e rest ih =>
      have hne : (e.1 == key) = false := beq_false_of_ne fun he =>
        h (he ▸ List.mem_cons_self)
      have hrest : key ∉ rest.map Prod.fst := fun hmem => h (List.mem_cons_of_mem _ hmem)
      rw [Entries.put, hne, if_neg Bool.false_ne_true, ih hrest]
      rfl

/-! ## The round trip -/

/-- A key and its colon. -/
theorem resume_key {b : Builder} {k : Text} (hk : style.Keeps k)
    (hb : b.await = .key ∨ b.await = .firstKey) {entries : List (Text × Json)} {fs : List Frame}
    (hframes : b.frames = .object entries :: fs) :
    resume (.ok (.idle, b)) (writeText style.asciiOnly k ++ Text.ofString ": ")
      = .ok (.idle, ⟨.value, .member entries k :: fs⟩) := by
  have hkey : b.push (.scalar (.text k)) = .ok ⟨.colon k, b.frames⟩ := by
    rcases hb with hb | hb
    all_goals
      unfold Builder.push
      rw [hb]
      rfl
  rw [resume_append, resume_writeText_of_keeps hk hkey, hframes]
  rfl

/-- The end of a list or an object, after a value whose token may still be open. -/
theorem settles_close (style : Style) {r : Reader} {b b' : Builder}
    (h : Settles r (.ok (.idle, b))) (depth : Nat) {d : Char} {t : Token} (hd : d ∈ delimiters)
    (ht : Scan.step .idle d = (.idle, [t])) (hb : b.push t = .ok b') :
    Settles (resume r (lineBreak style depth ++ [CodePoint.char d])) (.ok (.idle, b')) := by
  refine (h.resume (mayFollow_lineBreak style depth hd)).trans ?_
  rw [resume_append, resume_lineBreak, resume_cons, resume_nil,
    feed_token ht hb]
  exact Settles.refl _

mutual

/-- A value that was written is read back. -/
theorem settles_write (v : Json) (depth : Nat) {b c : Builder} (hb : b.Expects)
    (hd : b.frames.length + v.depth ≤ maxDepth) (hv : Readable style v)
    (h : Builder.deliver v b.frames = .ok c) :
    Settles (resume (.ok (.idle, b)) (write style depth v)) (.ok (.idle, c)) := by
  cases v with
  | null => exact settles_word rfl ((push_scalar hb null).trans h)
  | bool x =>
      cases x with
      | true => exact settles_word rfl ((push_scalar hb (bool true)).trans h)
      | false => exact settles_word rfl ((push_scalar hb (bool false)).trans h)
  | int i => exact settles_int hv ((push_scalar hb (int i)).trans h)
  | double x => exact settles_double x ((push_scalar hb (double x)).trans h)
  | text s =>
      rw [write, resume_writeText_of_keeps hv ((push_scalar hb (text s)).trans h)]
      exact Settles.refl _
  | list items =>
      rw [Json.depth] at hd
      have hopen : Reader.feed (.ok (.idle, b)) '['
          = .ok (.idle, ⟨.firstItem, .list [] :: b.frames⟩) :=
        feed_token (t := .openList) rfl (push_openList hb (by omega))
      cases items with
      | nil =>
          show Settles (resume (Reader.feed _ '[') [CodePoint.char ']']) _
          rw [hopen]
          exact settles_close .plain (Settles.refl _) 0 (t := .closeList) (by decide)
            rfl h
      | cons v rest =>
          obtain ⟨hv, hrest⟩ := hv
          rw [depthOfItems] at hd
          have hfirst := settles_write v (depth + 1)
            (b := ⟨.firstItem, .list [] :: b.frames⟩) (Or.inr rfl)
            (by rw [List.length_cons]; omega) hv rfl
          have hmore := settles_items rest (depth + 1) [v] b.frames (by omega) hrest
          have hitems := (hfirst.resume (mayFollow_writeItems style (depth + 1) rest)).trans hmore
          rw [write, resume_append, resume_append, resume_append, resume_append, resume_append]
          show Settles (resume (resume (resume (resume (resume (Reader.feed _ '[') _) _) _) _) _) _
          rw [hopen, resume_lineBreak, ← resume_append _ (lineBreak style depth)]
          refine settles_close style hitems depth (t := .closeList) (by decide) rfl ?_
          show Builder.deliver (list (rest.reverse ++ [v]).reverse) b.frames = _
          rw [List.reverse_append, List.reverse_reverse]
          exact h
  | object entries =>
      obtain ⟨hkeys, hv⟩ := hv
      rw [Json.depth] at hd
      have hopen : Reader.feed (.ok (.idle, b)) '\x7b'
          = .ok (.idle, ⟨.firstKey, .object [] :: b.frames⟩) :=
        feed_token (t := .openObject) rfl (push_openObject hb (by omega))
      cases entries with
      | nil =>
          show Settles (resume (Reader.feed _ '\x7b') [CodePoint.char '\x7d']) _
          rw [hopen]
          exact settles_close .plain (Settles.refl _) 0 (t := .closeObject) (by decide)
            rfl h
      | cons e rest =>
          obtain ⟨k, v⟩ := e
          obtain ⟨⟨hk, hv⟩, hrest⟩ := hv
          rw [depthOfEntries] at hd
          have hkey := resume_key hk
            (b := ⟨.firstKey, .object [] :: b.frames⟩) (Or.inr rfl) rfl
          have hfirst := settles_write v (depth + 1)
            (b := ⟨.value, .member [] k :: b.frames⟩) (Or.inl rfl)
            (by rw [List.length_cons]; omega) hv rfl
          have hmore := settles_entries rest (depth + 1) [(k, v)] b.frames (by omega) hkeys
            hrest
          have hentries := (hfirst.resume (mayFollow_writeEntries style (depth + 1) rest)).trans
            hmore
          rw [write, resume_append, resume_append, resume_append, resume_append, resume_append,
            resume_append, resume_append]
          show Settles (resume (resume (resume (resume (resume (resume (resume
            (Reader.feed _ '\x7b') _) _) _) _) _) _) _) _
          rw [hopen, resume_lineBreak, ← resume_append _ (writeText _ k), hkey,
            ← resume_append _ (lineBreak style depth)]
          exact settles_close style hentries depth (t := .closeObject) (by decide) rfl h

/-- The items after the first. -/
theorem settles_items (items : List Json) (depth : Nat) (acc : List Json) (fs : List Frame)
    (hd : fs.length + 1 + depthOfItems items ≤ maxDepth) (hv : ItemsReadable style items) :
    Settles (resume (.ok (.idle, ⟨.next, .list acc :: fs⟩)) (writeItems style depth items))
      (.ok (.idle, ⟨.next, .list (items.reverse ++ acc) :: fs⟩)) := by
  cases items with
  | nil => exact Settles.refl _
  | cons v rest =>
      obtain ⟨hv, hrest⟩ := hv
      rw [depthOfItems] at hd
      have hfirst := settles_write v depth (b := ⟨.value, .list acc :: fs⟩) (Or.inl rfl)
        (by rw [List.length_cons]; omega) hv rfl
      have hmore := settles_items rest depth (v :: acc) fs (by omega) hrest
      rw [writeItems, resume_append, resume_append,
        resume_separator (c := ⟨.value, .list acc :: fs⟩) style depth rfl, List.reverse_cons,
        List.append_assoc]
      exact (hfirst.resume (mayFollow_writeItems style depth rest)).trans hmore

/-- The entries after the first. -/
theorem settles_entries (entries : List (Text × Json)) (depth : Nat) (acc : List (Text × Json))
    (fs : List Frame) (hd : fs.length + 1 + depthOfEntries entries ≤ maxDepth)
    (hkeys : ((acc ++ entries).map Prod.fst).Nodup) (hv : EntriesReadable style entries) :
    Settles (resume (.ok (.idle, ⟨.next, .object acc :: fs⟩)) (writeEntries style depth entries))
      (.ok (.idle, ⟨.next, .object (acc ++ entries) :: fs⟩)) := by
  cases entries with
  | nil =>
      rw [List.append_nil]
      exact Settles.refl _
  | cons e rest =>
      obtain ⟨k, v⟩ := e
      obtain ⟨⟨hk, hv⟩, hrest⟩ := hv
      rw [depthOfEntries] at hd
      have hnew : k ∉ acc.map Prod.fst := by
        rw [List.map_append] at hkeys
        exact fun hmem => (List.nodup_append.mp hkeys).2.2 k hmem k List.mem_cons_self rfl
      have hkey := resume_key hk (b := ⟨.key, .object acc :: fs⟩) (Or.inl rfl) rfl
      have hfirst := settles_write v depth (b := ⟨.value, .member acc k :: fs⟩)
        (c := ⟨.next, .object (acc ++ [(k, v)]) :: fs⟩) (Or.inl rfl)
        (by rw [List.length_cons]; omega) hv (by rw [← put_of_not_mem v hnew]; rfl)
      have hmore := settles_entries rest depth (acc ++ [(k, v)]) fs (by omega)
        (by rw [List.append_assoc]; exact hkeys) hrest
      rw [writeEntries, resume_append, resume_append, resume_append, resume_append,
        resume_separator (c := ⟨.key, .object acc :: fs⟩) style depth rfl,
        ← resume_append _ (writeText _ k), hkey]
      rw [List.append_assoc] at hmore
      exact (hfirst.resume (mayFollow_writeEntries style depth rest)).trans hmore

end

/-- **Reading inverts writing.** -/
theorem read_render {v : Json} (hd : v.depth ≤ maxDepth) (hv : Readable style v) :
    read (v.render style) = .ok v := by
  have h := settles_write v 0 (b := .start) (c := ⟨.nothing v, []⟩) (Or.inl rfl)
    (by simpa [Builder.start] using hd) hv rfl
  rw [read_eq_conclude, render, h.conclude]
  rfl

end CivicSite.Json
