import CivicSite.Json.Reader
import CivicSite.Json.Writer

/-!
# Reading scalars that were written

The reader is a machine over code points, so what it does with a text is followed point by point:
`resume` is its run over a text from any state. This file follows it through what the writer makes
of strings and whole numbers.

A string ends with its quote. A numeral goes through phases, and it is its whole run through them
that makes it one (`settles_numeral`). It does not show where it ends, so the reader takes its token
one point late: the state after it is not the one that has the value, but the two cannot be told
apart by what may follow (`Settles`).
-/

namespace CivicSite.Json

/-! ## Runs of the reader -/

/-- The reader after more code points. -/
def resume (r : Reader) (s : Text) : Reader := s.foldl Reader.feed r

/-- The value once the text ends. -/
def conclude (r : Reader) : Except ReadError Json := do
  let (scan, b) ← r
  (← scan.finish.foldlM Builder.push b).value?

theorem read_eq_conclude (s : Text) : read s = conclude (resume (.ok (.idle, .start)) s) := rfl

@[simp] theorem resume_nil (r : Reader) : resume r [] = r := rfl

@[simp] theorem resume_cons (r : Reader) (c : CodePoint) (s : Text) :
    resume r (c :: s) = resume (r.feed c) s := rfl

@[simp] theorem resume_append (r : Reader) (s t : Text) :
    resume r (s ++ t) = resume (resume r s) t := List.foldl_append

/-- A code point that completes no token. -/
theorem feed_silent {scan scan' : Scan} {c : CodePoint} (h : scan.step c = (scan', []))
    (b : Builder) : Reader.feed (.ok (scan, b)) c = .ok (scan', b) := by
  show (do let b ← (scan.step c).2.foldlM Builder.push b; pure ((scan.step c).1, b)) = _
  rw [h]
  rfl

/-- A code point that completes one token. -/
theorem feed_token {scan scan' : Scan} {c : CodePoint} {t : Token}
    (h : scan.step c = (scan', [t])) {b b' : Builder} (hb : b.push t = .ok b') :
    Reader.feed (.ok (scan, b)) c = .ok (scan', b') := by
  show (do let b ← (scan.step c).2.foldlM Builder.push b; pure ((scan.step c).1, b)) = _
  rw [h, List.foldlM_cons, hb]
  rfl

theorem push_fault (b : Builder) (e : ReadError) : ∃ e', b.push (.fault e) = .error e' := by
  obtain ⟨await, frames⟩ := b
  cases await <;> exact ⟨_, rfl⟩

/-- A reader stops at a fault. -/
theorem feed_fault {scan : Scan} {c : CodePoint} {tokens : List Token} {e : ReadError}
    (h : (scan.step c).2 = tokens ++ [.fault e]) (b : Builder) (state : Scan × Builder) :
    Reader.feed (.ok (scan, b)) c ≠ .ok state := by
  show (do let b ← (scan.step c).2.foldlM Builder.push b; pure ((scan.step c).1, b)) ≠ _
  rw [h, List.foldlM_append]
  intro hfeed
  cases htokens : tokens.foldlM Builder.push b with
  | error e =>
      rw [htokens] at hfeed
      cases hfeed
  | ok b' =>
      obtain ⟨e', hpush⟩ := push_fault b' e
      rw [htokens] at hfeed
      simp only [Bind.bind, Except.bind, List.foldlM_cons, hpush] at hfeed
      cases hfeed

theorem resume_error (e : ReadError) (s : Text) : resume (.error e) s = .error e := by
  induction s with
  | nil => rfl
  | cons c rest ih => exact ih

/-! ## Strings -/

theorem hexValue?_digitChar {d : Nat} (h : d < 16) : hexValue? (Nat.digitChar d) = some d := by
  have hall : ∀ d : Fin 16, hexValue? (Nat.digitChar d) = some d.val := by decide
  exact hall ⟨d, h⟩

theorem resume_hexDigits (read : Text) (high? : Option Nat) (b : Builder) {n : Nat}
    (h : n < 0x10000) :
    resume (.ok (.unit read high? 4 0, b)) (.ofChars (Text.hexDigits 4 n))
      = .ok (afterUnit read high? n, b) := by
  have step (left value d : Nat) (hd : d < 16) :
      (Scan.unit read high? (left + 2) value).step (Nat.digitChar d)
        = (.unit read high? (left + 1) (value * 16 + d), []) := by
    simp only [Scan.step, Scan.stepChar, hexValue?_digitChar hd]
    rw [if_neg (by omega)]
    rfl
  have last (value d : Nat) (hd : d < 16) :
      (Scan.unit read high? 1 value).step (Nat.digitChar d)
        = (afterUnit read high? (value * 16 + d), []) := by
    simp only [Scan.step, Scan.stepChar, hexValue?_digitChar hd]
    rfl
  show resume _ [.char (Nat.digitChar _), .char (Nat.digitChar _), .char (Nat.digitChar _),
    .char (Nat.digitChar _)] = _
  rw [resume_cons, feed_silent (step 2 _ _ (by omega)), resume_cons,
    feed_silent (step 1 _ _ (by omega)), resume_cons, feed_silent (step 0 _ _ (by omega)),
    resume_cons, feed_silent (last _ _ (by omega)), resume_nil]
  congr 3
  omega

/-- The characters that are written as a backslash and another character. -/
def shortEscapes : List (Char × Char) :=
  [('"', '"'), ('\\', '\\'), ('\n', 'n'), ('\r', 'r'), ('\t', 't'), (Char.ofNat 8, 'b'),
    (Char.ofNat 12, 'f')]

theorem writePoint_of_shortEscape {asciiOnly : Bool} {p : Char × Char} (h : p ∈ shortEscapes) :
    writePoint asciiOnly (.char p.1) = [CodePoint.char '\\', .char p.2] := by
  simp only [shortEscapes, List.mem_cons, List.not_mem_nil, or_false] at h
  rcases h with rfl | rfl | rfl | rfl | rfl | rfl | rfl <;> rfl

theorem writePoint_eq_ite {asciiOnly : Bool} {c : CodePoint}
    (h : ∀ p ∈ shortEscapes, c ≠ .char p.1) :
    writePoint asciiOnly c = if c.toNat < 0x20 then unitEscape c.toNat
      else if asciiOnly && 0x7F ≤ c.toNat then escapes c else [c] := by
  simp only [shortEscapes, List.forall_mem_cons] at h
  obtain ⟨hquote, hslash, hn, hr, ht, hb, hf, -⟩ := h
  simp [writePoint, hquote, hslash, hn, hr, ht, hb, hf]

theorem writePoint_of_not_shortEscape {c : CodePoint} (h : ∀ p ∈ shortEscapes, c ≠ .char p.1) :
    writePoint false c = if c.toNat < 0x20 then unitEscape c.toNat else [c] := by
  rw [writePoint_eq_ite h, Bool.false_and, if_neg Bool.false_ne_true]

/-- A code point is written so that it is read back, whatever it is. -/
theorem resume_writePoint (read : Text) (b : Builder) (c : CodePoint) :
    resume (.ok (.string read, b)) (writePoint false c) = .ok (.string (c :: read), b) := by
  by_cases hshort : ∃ p ∈ shortEscapes, c = .char p.1
  · obtain ⟨p, hp, rfl⟩ := hshort
    rw [writePoint_of_shortEscape hp]
    simp only [shortEscapes, List.mem_cons, List.not_mem_nil, or_false] at hp
    rcases hp with rfl | rfl | rfl | rfl | rfl | rfl | rfl <;> rfl
  · have hne : ∀ p ∈ shortEscapes, c ≠ .char p.1 := fun p hp hc => hshort ⟨p, hp, hc⟩
    rw [writePoint_of_not_shortEscape hne]
    split
    · rename_i hlow
      show resume (.ok (.unit read none 4 0, b)) (.ofChars (Text.hexDigits 4 c.toNat)) = _
      rw [resume_hexDigits read none b (by omega), afterUnit, if_neg (by simp; omega),
        CodePoint.ofNat_toNat]
    · rename_i hhigh
      refine feed_silent ?_ b
      cases c with
      | lone half => rfl
      | char c =>
          have hquote : (c == '"') = false := beq_false_of_ne fun hc =>
            hne ('"', '"') (by decide) (congrArg _ hc)
          have hslash : (c == '\\') = false := beq_false_of_ne fun hc =>
            hne ('\\', '\\') (by decide) (congrArg _ hc)
          have hlow : ¬ c.toNat < 0x20 := hhigh
          simp [Scan.step, Scan.stepChar, insideString, hquote, hslash, hlow]

theorem resume_flatMap_writePoint (b : Builder) (s : Text) : ∀ read : Text,
    resume (.ok (.string read, b)) (s.flatMap (writePoint false))
      = .ok (.string (s.reverse ++ read), b) := by
  induction s with
  | nil => exact fun _ => rfl
  | cons c rest ih =>
      intro read
      rw [List.flatMap_cons, resume_append, resume_writePoint, ih, List.reverse_cons,
        List.append_assoc]
      rfl

/-- A string that was written is read as one token. -/
theorem resume_writeText {b b' : Builder} {s : Text} (h : b.push (.scalar (.text s)) = .ok b') :
    resume (.ok (.idle, b)) (writeText false s) = .ok (.idle, b') := by
  have hopen : Reader.feed (.ok (.idle, b)) '"' = .ok (.string [], b) := feed_silent rfl b
  show resume (Reader.feed (.ok (.idle, b)) '"')
    (s.flatMap (writePoint false) ++ [CodePoint.char '"']) = _
  rw [hopen, resume_append, resume_flatMap_writePoint, List.append_nil, resume_cons, resume_nil]
  refine feed_token (t := .scalar (.text s)) ?_ h
  show insideString s.reverse '"' = _
  rw [insideString, if_pos (beq_self_eq_true _), List.reverse_reverse]

/-! ## What may follow a value -/

/-- The characters that end a numeral. -/
def delimiters : List Char := [',', ':', ']', '\x7d', ' ', '\n', '\r', '\t']

/-- Two states of the reader that differ only in a token which is still to be completed. -/
structure Settles (r r' : Reader) : Prop where
  feed : ∀ c ∈ delimiters, r.feed (.char c) = r'.feed (.char c)
  conclude : conclude r = conclude r'

/-- A text that may follow a value. -/
def MayFollow (t : Text) : Prop := ∀ c ∈ t.head?, ∃ d ∈ delimiters, c = .char d

theorem Settles.refl (r : Reader) : Settles r r := ⟨fun _ _ => rfl, rfl⟩

theorem Settles.trans {r r' r'' : Reader} (h : Settles r r') (h' : Settles r' r'') :
    Settles r r'' :=
  ⟨fun c hc => (h.feed c hc).trans (h'.feed c hc), h.conclude.trans h'.conclude⟩

/-- States that settle alike read alike what may follow. -/
theorem Settles.resume {r r' : Reader} (h : Settles r r') {t : Text} (ht : MayFollow t) :
    Settles (resume r t) (resume r' t) := by
  cases t with
  | nil => exact h
  | cons c rest =>
      obtain ⟨d, hd, rfl⟩ := ht c rfl
      rw [resume_cons, resume_cons, h.feed d hd]
      exact Settles.refl _

/-- A token that is complete but for what ends it. -/
theorem settles_pending {scan : Scan} {v : Json} {b b' : Builder}
    (hstep : ∀ c ∈ delimiters,
      scan.step (.char c) = ((startToken c).1, .scalar v :: (startToken c).2))
    (hfinish : scan.finish = [.scalar v]) (hb : b.push (.scalar v) = .ok b') :
    Settles (.ok (scan, b)) (.ok (.idle, b')) := by
  constructor
  · intro c hc
    show (do let b ← (scan.step (.char c)).2.foldlM Builder.push b
             pure ((scan.step (.char c)).1, b)) = _
    rw [hstep c hc, List.foldlM_cons, hb]
    rfl
  · show (do (← scan.finish.foldlM Builder.push b).value?) = b'.value?
    rw [hfinish, List.foldlM_cons, hb]
    rfl

/-! ## Words -/

theorem settles_word {read : List Char} {v : Json} (hv : wordToken read = .scalar v)
    {b b' : Builder} (hb : b.push (.scalar v) = .ok b') :
    Settles (.ok (.word read, b)) (.ok (.idle, b')) := by
  refine settles_pending (fun c hc => ?_) (congrArg ([·]) hv) hb
  have halpha : c.isAlpha = false := by
    simp only [delimiters, List.mem_cons, List.not_mem_nil, or_false] at hc
    rcases hc with rfl | rfl | rfl | rfl | rfl | rfl | rfl | rfl <;> rfl
  simp only [Scan.step, Scan.stepChar, halpha, hv]
  rfl

/-! ## Numerals -/

/-- The phases in which a numeral may end. -/
def NumeralPhase.isComplete : NumeralPhase → Bool
  | zero | whole | fraction | power => true
  | sign | point | mark | markSign => false

/-- The phase after more characters, if the numeral goes on through them. -/
def NumeralPhase.run? (p : NumeralPhase) (cs : List Char) : Option NumeralPhase :=
  cs.foldlM NumeralPhase.next? p

@[simp] theorem NumeralPhase.run?_cons (p : NumeralPhase) (c : Char) (cs : List Char) :
    p.run? (c :: cs) = (p.next? c).bind fun q => q.run? cs := rfl

theorem NumeralPhase.run?_append {p q : NumeralPhase} {cs : List Char} (h : p.run? cs = some q)
    (ds : List Char) : p.run? (cs ++ ds) = q.run? ds := by
  unfold run? at h ⊢
  rw [List.foldlM_append, h]
  rfl

/-- A phase that every digit leaves as it is. -/
theorem NumeralPhase.run?_digits {p : NumeralPhase}
    (hp : ∀ d : Char, d.isDigit = true → p.next? d = some p) {ds : List Char}
    (h : ∀ d ∈ ds, d.isDigit = true) : p.run? ds = some p := by
  induction ds with
  | nil => rfl
  | cons d rest ih =>
      obtain ⟨hd, hrest⟩ := List.forall_mem_cons.mp h
      rw [run?_cons, hp d hd, Option.bind_some, ih hrest]

theorem NumeralPhase.next?_whole {d : Char} (h : d.isDigit = true) : whole.next? d = some whole :=
  if_pos h

/-- The sign of a numeral. -/
def minus (negative : Bool) : List Char := if negative then ['-'] else []

variable {negative : Bool} {phase phase' : NumeralPhase} {cs : List Char}

theorem resume_run (h : phase.run? cs = some phase') (read : List Char) (b : Builder) :
    resume (.ok (.numeral read phase, b)) (.ofChars cs)
      = .ok (.numeral (cs.reverse ++ read) phase', b) := by
  induction cs generalizing phase read with
  | nil =>
      obtain rfl := Option.some.inj h
      rfl
  | cons c rest ih =>
      obtain ⟨next, hnext, hrest⟩ := Option.bind_eq_some_iff.mp h
      have hstep : (Scan.numeral read phase).step c = (.numeral (c :: read) next, []) := by
        simp only [Scan.step, Scan.stepChar, hnext]
      show resume (Reader.feed _ c) (.ofChars rest) = _
      rw [feed_silent hstep, ih hrest, List.reverse_cons, List.append_assoc]
      rfl

/-- A numeral starts with its first digit as it goes on with it after a sign. -/
theorem startToken_of_next? {c : Char} (h : NumeralPhase.sign.next? c = some phase) :
    startToken c = (.numeral [c] phase, []) := by
  by_cases hzero : c = '0'
  · subst hzero
    obtain rfl := Option.some.inj h
    rfl
  · by_cases hdigit : c.isDigit = true
    · have hne : ∀ d : Char, d.isDigit = false → (c == d) = false := fun d hd =>
        beq_false_of_ne fun heq => by rw [heq, hd] at hdigit; cases hdigit
      simp only [NumeralPhase.next?, beq_false_of_ne hzero, hdigit] at h
      obtain rfl := Option.some.inj h
      simp only [startToken, hne ' ' rfl, hne '\t' rfl, hne '\n' rfl, hne '\r' rfl, hne '"' rfl,
        hne '[' rfl, hne ']' rfl, hne '\x7b' rfl, hne '\x7d' rfl, hne ',' rfl, hne ':' rfl,
        hne '-' rfl, beq_false_of_ne hzero, hdigit]
      rfl
    · simp [NumeralPhase.next?, hzero, hdigit] at h

/-- A numeral is read from its start on. -/
theorem resume_numeral (h : NumeralPhase.sign.run? cs = some phase) (hne : cs ≠ []) (b : Builder) :
    resume (.ok (.idle, b)) (.ofChars (minus negative ++ cs))
      = .ok (.numeral (minus negative ++ cs).reverse phase, b) := by
  cases negative with
  | true =>
      have hminus : Reader.feed (.ok (.idle, b)) '-' = .ok (.numeral ['-'] .sign, b) :=
        feed_silent rfl b
      show resume (Reader.feed _ '-') (.ofChars cs) = .ok (.numeral ('-' :: cs).reverse phase, b)
      rw [hminus, resume_run h, List.reverse_cons]
  | false =>
      cases cs with
      | nil => exact absurd rfl hne
      | cons c rest =>
          obtain ⟨next, hnext, hrest⟩ := Option.bind_eq_some_iff.mp h
          have hstart : Scan.step .idle c = (.numeral [c] next, []) := startToken_of_next? hnext
          show resume (Reader.feed _ c) (.ofChars rest)
            = .ok (.numeral (c :: rest).reverse phase, b)
          rw [feed_silent hstart, resume_run hrest, List.reverse_cons]

theorem numeralTokens_of_isComplete (h : phase.isComplete = true) (read : List Char) :
    numeralTokens read phase = [numeralToken read.reverse] := by
  cases phase with
  | zero | whole | fraction | power => rfl
  | sign | point | mark | markSign => cases h

/-- A numeral that may end does so before a delimiter. -/
theorem next?_of_mem_delimiters (h : phase.isComplete = true) {c : Char} (hc : c ∈ delimiters) :
    phase.next? c = none := by
  simp only [delimiters, List.mem_cons, List.not_mem_nil, or_false] at hc
  cases phase with
  | zero | whole | fraction | power =>
      rcases hc with rfl | rfl | rfl | rfl | rfl | rfl | rfl | rfl <;> rfl
  | sign | point | mark | markSign => cases h

/-- **A numeral is read as one token**, once it ends. -/
theorem settles_numeral (h : NumeralPhase.sign.run? cs = some phase)
    (hphase : phase.isComplete = true) {v : Json}
    (hv : numeralToken (minus negative ++ cs) = .scalar v) {b b' : Builder}
    (hb : b.push (.scalar v) = .ok b') :
    Settles (resume (.ok (.idle, b)) (.ofChars (minus negative ++ cs))) (.ok (.idle, b')) := by
  have hsign : phase ≠ .sign := by
    rintro rfl
    cases hphase
  have hne : cs ≠ [] := by
    rintro rfl
    exact hsign (Option.some.inj h).symm
  have htokens : numeralTokens (minus negative ++ cs).reverse phase = [.scalar v] := by
    rw [numeralTokens_of_isComplete hphase, List.reverse_reverse, hv]
  rw [resume_numeral h hne]
  refine settles_pending (fun c hc => ?_) htokens hb
  simp only [Scan.step, Scan.stepChar, next?_of_mem_delimiters hphase hc, beq_false_of_ne hsign,
    htokens]
  rfl

/-! ## The parts of a numeral -/

theorem splitSign_minus (h : ∃ c ∈ cs.head?, c.isDigit = true) :
    Text.splitSign (minus negative ++ cs) = (negative, cs) := by
  obtain ⟨c, hc, hdigit⟩ := h
  cases negative with
  | true => rfl
  | false =>
      show Text.splitSign cs = _
      unfold Text.splitSign
      split
      · obtain rfl := Option.some.inj hc
        cases hdigit
      · obtain rfl := Option.some.inj hc
        cases hdigit
      · rfl

theorem splitDigits_append {ds rest : List Char} (hds : ∀ d ∈ ds, d.isDigit = true)
    (hrest : ∀ c ∈ rest.head?, c.isDigit = false) : Text.splitDigits (ds ++ rest) = (ds, rest) := by
  have hnone : rest.takeWhile Char.isDigit = [] ∧ rest.dropWhile Char.isDigit = rest := by
    cases rest with
    | nil => exact ⟨rfl, rfl⟩
    | cons c rest => simp [hrest c rfl]
  rw [Text.splitDigits, List.takeWhile_append_of_pos hds, List.dropWhile_append_of_pos hds, hnone.1,
    hnone.2, List.append_nil]

/-! ## Whole numbers -/

theorem isDigit_toDigits (n : Nat) : ∀ d ∈ Nat.toDigits 10 n, d.isDigit = true := fun _ hd =>
  Nat.isDigit_of_mem_toDigits (by decide) (by decide) hd

theorem toDigits_eq_cons {n : Nat} (h : 0 < n) :
    ∃ d ds, Nat.toDigits 10 n = d :: ds ∧ d ≠ '0' := by
  induction n using Nat.strongRecOn with
  | ind n ih =>
      rw [Nat.toDigits_eq_if (by decide)]
      split
      · refine ⟨n.digitChar, [], rfl, fun hd => ?_⟩
        rw [Nat.digitChar_eq_zero] at hd
        omega
      · obtain ⟨d, ds, hds, hd⟩ := ih (n / 10) (by omega) (by omega)
        exact ⟨d, ds ++ [(n % 10).digitChar], by rw [hds]; rfl, hd⟩

/-- Digits that do not begin with a zero are the whole part of a numeral. -/
theorem run?_whole {d : Char} {ds : List Char} (hzero : d ≠ '0')
    (h : ∀ c ∈ d :: ds, c.isDigit = true) : NumeralPhase.sign.run? (d :: ds) = some .whole := by
  obtain ⟨hd, hds⟩ := List.forall_mem_cons.mp h
  have hfirst : NumeralPhase.sign.next? d = some .whole := by
    simp [NumeralPhase.next?, hzero, hd]
  rw [NumeralPhase.run?_cons, hfirst]
  exact NumeralPhase.run?_digits (fun _ => NumeralPhase.next?_whole) hds

theorem run?_toDigits (n : Nat) :
    ∃ phase, NumeralPhase.sign.run? (Nat.toDigits 10 n) = some phase ∧ phase.isComplete = true := by
  rcases Nat.eq_zero_or_pos n with rfl | hpos
  · exact ⟨.zero, rfl, rfl⟩
  · obtain ⟨d, ds, hds, hzero⟩ := toDigits_eq_cons hpos
    have hdigits := isDigit_toDigits n
    rw [hds] at hdigits ⊢
    exact ⟨.whole, run?_whole hzero hdigits, rfl⟩

/-- The least number that has more digits than are read. -/
def numeralLimit : Nat := Nat.pow 10 Text.maxDigits

/-- Digits write a number below the power of ten that their count makes. -/
theorem ofDigitChars_lt {ds : List Char} (hds : ∀ d ∈ ds, d.isDigit = true) (init : Nat) :
    Nat.ofDigitChars 10 ds init < (init + 1) * Nat.pow 10 ds.length := by
  induction ds generalizing init with
  | nil => exact Nat.lt_of_lt_of_eq (Nat.lt_succ_self init) (Nat.mul_one _).symm
  | cons d rest ih =>
      obtain ⟨hd, hrest⟩ := List.forall_mem_cons.mp hds
      have hvalue : d.toNat - '0'.toNat ≤ 9 := by
        have hle : d.toNat ≤ 57 := (Bool.and_eq_true_iff.mp hd).2 |> of_decide_eq_true
        have hzero : '0'.toNat = 48 := rfl
        omega
      rw [Nat.ofDigitChars_cons]
      calc Nat.ofDigitChars 10 rest (10 * init + (d.toNat - '0'.toNat))
          < (10 * init + (d.toNat - '0'.toNat) + 1) * Nat.pow 10 rest.length := ih hrest _
        _ ≤ ((init + 1) * 10) * Nat.pow 10 rest.length := Nat.mul_le_mul_right _ (by omega)
        _ = (init + 1) * Nat.pow 10 (rest.length + 1) := by
          rw [Nat.mul_assoc, Nat.mul_comm 10]
          rfl

theorem ofDigitChars_lt_pow {ds : List Char} (hds : ∀ d ∈ ds, d.isDigit = true) {k : Nat}
    (hcount : ds.length ≤ k) : Nat.ofDigitChars 10 ds 0 < Nat.pow 10 k := by
  have hlt := ofDigitChars_lt hds 0
  rw [Nat.zero_add, Nat.one_mul] at hlt
  exact Nat.lt_of_lt_of_le hlt (Nat.pow_le_pow_right (by decide) hcount)

/-- Digits that are read write a number below the limit. -/
theorem ofDigitChars_lt_numeralLimit {ds : List Char} (hds : ∀ d ∈ ds, d.isDigit = true)
    (hcount : ds.length ≤ Text.maxDigits) : Nat.ofDigitChars 10 ds 0 < numeralLimit := by
  unfold numeralLimit
  exact ofDigitChars_lt_pow hds hcount

theorem length_toDigits_le {n k : Nat} (hk : 0 < k) (h : n < Nat.pow 10 k) :
    (Nat.toDigits 10 n).length ≤ k :=
  (Nat.length_toDigits_le_iff (by decide) hk).mpr h

theorem numeralToken_toDigits (negative : Bool) {n : Nat} (h : n < numeralLimit) :
    numeralToken (minus negative ++ Nat.toDigits 10 n)
      = .scalar (.int (if negative then -n else n)) := by
  have hdigits := isDigit_toDigits n
  have hhead : ∃ c ∈ (Nat.toDigits 10 n).head?, c.isDigit = true := by
    cases hn : Nat.toDigits 10 n with
    | nil => exact absurd hn Nat.toDigits_ne_nil
    | cons d ds => exact ⟨d, rfl, hdigits d (by rw [hn]; exact List.mem_cons_self)⟩
  have hsplit : Text.splitDigits (Nat.toDigits 10 n) = (Nat.toDigits 10 n, []) := by
    have happend : Text.splitDigits (Nat.toDigits 10 n ++ []) = _ :=
      splitDigits_append hdigits nofun
    rwa [List.append_nil] at happend
  unfold numeralLimit at h
  have hlen : ¬ Text.maxDigits < (Nat.toDigits 10 n).length :=
    Nat.not_lt.mpr (length_toDigits_le (by decide) h)
  simp only [numeralToken, splitSign_minus hhead, hsplit, if_neg hlen,
    Nat.ofDigitChars_ten_toDigits]

/-- The text of a whole number is its sign and its digits. -/
theorem ofString_toString_int (i : Int) :
    Text.ofString (toString i) = .ofChars (minus (decide (i < 0)) ++ Nat.toDigits 10 i.natAbs) := by
  rw [Text.ofString, Int.toString_eq_repr, Int.repr_eq_if, minus]
  by_cases h : i < 0
  · rw [if_neg (by omega), decide_eq_true h, if_pos rfl, String.toList_append, Nat.toList_repr,
      show (-i).toNat = i.natAbs by omega]
    rfl
  · rw [if_pos (by omega), decide_eq_false h, if_neg Bool.false_ne_true, Nat.toList_repr,
      show i.toNat = i.natAbs by omega]
    rfl

/-- A whole number that was written is read as one token, once its numeral ends. -/
theorem settles_int {b b' : Builder} {i : Int} (hi : i.natAbs < numeralLimit)
    (h : b.push (.scalar (.int i)) = .ok b') :
    Settles (resume (.ok (.idle, b)) (toString i : String)) (.ok (.idle, b')) := by
  obtain ⟨phase, hrun, hphase⟩ := run?_toDigits i.natAbs
  have htoken := numeralToken_toDigits (decide (i < 0)) hi
  have hvalue : (if decide (i < 0) then -(i.natAbs : Int) else i.natAbs) = i := by
    split
    · rename_i hneg
      have := of_decide_eq_true hneg
      omega
    · rename_i hneg
      rw [decide_eq_true_iff] at hneg
      omega
  rw [hvalue] at htoken
  rw [ofString_toString_int]
  exact settles_numeral hrun hphase htoken h

end CivicSite.Json
