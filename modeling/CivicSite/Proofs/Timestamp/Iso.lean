import CivicSite.Proofs.Timestamp.Fields
import Mathlib.Data.List.Infix

/-!
# Reading timestamps that were written

The offset of a timestamp begins with the first mark behind the date, and a time that is written
has no mark in it (`time?_append`). So every timestamp is read back from what it is written as
(`parseIso_iso`), if the reader can tell its offset from none; and it can, if the timestamp was read
itself (`isLegible_of_parseIso`).

Of the offset the reader sees nothing but what that mark begins. It is universal time unless the
mark is a sign (`offset_eq_zero`): where none is written, and where a `Z` is.
-/

namespace CivicSite

/-! ## Cutting -/

namespace Text

theorem isBlank_of_isDigit {c : Char} (h : c.isDigit = true) : isBlank (.char c) = false := by
  rw [Char.isDigit, Bool.and_eq_true, decide_eq_true_eq, decide_eq_true_eq] at h
  have hlow : 48 ≤ (CodePoint.char c).toNat := h.1
  have hhigh : (CodePoint.char c).toNat ≤ 57 := h.2
  simp only [isBlank, Bool.or_eq_false_iff, Bool.and_eq_false_iff, decide_eq_false_iff_not,
    beq_eq_false_iff_ne]
  omega

/-- A text that neither begins nor ends with a blank is not cut. -/
theorem trim_eq_self {s : Text} (hfirst : ∀ c ∈ s.head?, isBlank c = false)
    (hlast : ∀ c ∈ s.getLast?, isBlank c = false) : trim s = s := by
  have hkept : s.dropWhile isBlank = s := by
    cases s with
    | nil => rfl
    | cons c s => exact List.dropWhile_cons_of_neg (by simp [hfirst c rfl])
  obtain ⟨dropped, hs, hall, -⟩ := exists_dropEndWhile isBlank s
  have hnil : dropped = [] := by
    rcases List.eq_nil_or_concat dropped with hnil | ⟨init, c, rfl⟩
    · exact hnil
    · rw [List.concat_eq_append, ← List.append_assoc] at hs
      have hblank := hlast c (by rw [hs]; exact List.getLast?_concat)
      rw [hall c (by simp)] at hblank
      cases hblank
  rw [hnil, List.append_nil] at hs
  rw [trim, hkept, ← hs]

end Text

namespace Timestamp

variable {cs rest : List Char}

/-! ## Marks -/

/-- A character that an offset begins with. -/
def isMark (c : Char) : Bool := c == '+' || c == '-' || c == 'Z'

theorem not_isMark_of_isDigit {c : Char} (h : c.isDigit = true) : isMark c = false := by
  cases hmark : isMark c with
  | false => rfl
  | true =>
      rw [isMark, Bool.or_eq_true, Bool.or_eq_true, beq_iff_eq, beq_iff_eq, beq_iff_eq] at hmark
      rcases hmark with (rfl | rfl) | rfl <;> cases h

/-- Whether no offset begins in the characters. -/
def Unmarked (cs : List Char) : Prop := ∀ c ∈ cs, isMark c = false

theorem unmarked_clockText (hour minute second micro : Nat) :
    Unmarked (clockText hour minute second micro) :=
  forall_clockText (fun _ => not_isMark_of_isDigit) rfl rfl hour minute second micro

/-- What is read behind a time: the offset, which begins with the first mark. -/
def zone? (clock : ClockReading) : List Char → Option Int
  | [] => if clock.complete then some 0 else none
  | 'Z' :: after => if after.headD endMark == endMark then some 0 else none
  | rest => offset? rest

/-- A time ends where the first mark stands. -/
theorem time?_append (rest : List Char) {before : List Char} (hunmarked : Unmarked before)
    (hrest : ∀ c ∈ rest.head?, isMark c = true) (hne : before ++ rest ≠ []) :
    time? (before ++ rest) = (clock? (byteSize before) (before ++ rest)).bind fun clock =>
      (zone? clock rest).map fun offset => (clock, offset) := by
  have hnone : rest.takeWhile (fun c => !isMark c) = [] := by
    cases rest with
    | nil => rfl
    | cons c rest => exact List.takeWhile_cons_of_neg (by simp [hrest c rfl])
  have htake : (before ++ rest).takeWhile (fun c => !isMark c) = before := by
    rw [List.takeWhile_append_of_pos fun c hc => by simp [hunmarked c hc], hnone, List.append_nil]
  have hdrop : (before ++ rest).drop before.length = rest := List.drop_left
  have hempty : (before ++ rest).isEmpty = false := by
    rw [← Bool.not_eq_true, List.isEmpty_iff]
    exact hne
  -- the reader writes the marks out
  have htake' : (before ++ rest).takeWhile (fun c => !(c == '+' || c == '-' || c == 'Z'))
      = before := htake
  unfold time?
  simp only [htake', hdrop, hempty, Bool.not_false, guard, if_true, Option.bind_eq_bind]
  show ((clock? (byteSize before) (before ++ rest)).bind fun clock => _) = _
  refine congrArg (Option.bind _) (funext fun clock => ?_)
  split
  · rw [zone?]
    cases clock.complete <;> rfl
  · rw [zone?]
    split <;> simp
  · rw [zone?]
    · cases offset? rest <;> rfl
    · assumption
    · assumption

/-- Every text is a time and what its first mark begins. -/
theorem exists_zone (cs : List Char) :
    ∃ before rest, cs = before ++ rest ∧ Unmarked before ∧ ∀ c ∈ rest.head?, isMark c = true := by
  refine ⟨cs.takeWhile (fun c => !isMark c), cs.dropWhile (fun c => !isMark c),
    List.takeWhile_append_dropWhile.symm, fun c hc => ?_, fun c hc => ?_⟩
  · have hall := List.all_eq_true.mp (List.all_takeWhile (p := fun c => !isMark c) (l := cs)) c hc
    simpa using hall
  · have hhead := List.head?_dropWhile_not (fun c => !isMark c) cs
    rw [Option.mem_def.mp hc] at hhead
    simpa using hhead

/-- What tells the zone from the time. -/
theorem zone?_eq_offset? {clock : ClockReading}
    (h : rest.headD endMark = '+' ∨ rest.headD endMark = '-') :
    zone? clock rest = offset? rest := by
  cases rest with
  | nil => rcases h with h | h <;> exact absurd h (by decide)
  | cons c rest =>
      rw [zone?]
      · exact List.cons_ne_nil _ _
      · rintro after heq
        obtain ⟨rfl, -⟩ := List.cons.inj heq
        rcases h with h | h <;> cases h

theorem headD_offsetText (offset : Int) :
    (offsetText offset).headD endMark = '+' ∨ (offsetText offset).headD endMark = '-' := by
  rw [offsetText_eq, List.headD_cons]
  split
  · exact Or.inr rfl
  · exact Or.inl rfl

section Written

variable {hour minute second micro : Nat}

/-- A time with an offset behind it. -/
theorem time?_clockText (hhour : hour < 100) (hminute : minute < 100) (hsecond : second < 100)
    (hmicro : micro < 1000000) {offset : Int} (h : offset.natAbs < microsPerDay)
    (hlegible : IsLegible offset) :
    time? (clockText hour minute second micro ++ offsetText offset)
      = some (⟨hour, minute, second, micro, false⟩, offset) := by
  have hhead := headD_offsetText offset
  have hzone (clock : ClockReading) : zone? clock (offsetText offset) = some offset := by
    rw [zone?_eq_offset? hhead, offset?_offsetText h hlegible]
  have hmark : ∀ c ∈ (offsetText offset).head?, isMark c = true := by
    intro c hc
    rw [List.headD_eq_head?_getD, Option.mem_def.mp hc] at hhead
    rcases hhead with rfl | rfl <;> rfl
  have hdigit : ((offsetText offset).headD endMark).isDigit = false := by
    rcases hhead with hhead | hhead <;> rw [hhead] <;> rfl
  have hend : ((offsetText offset).headD endMark == endMark) = false := by
    rcases hhead with hhead | hhead <;> rw [hhead] <;> rfl
  rw [time?_append _ (unmarked_clockText hour minute second micro) hmark (by simp [clockText]),
    (isAscii_clockText hour minute second micro).byteSize_eq,
    clock?_clockText _ hhour hminute hsecond hmicro hdigit, Option.bind_some, hzone, hend]
  rfl

/-- A time with nothing behind it. -/
theorem time?_clockText_local (hhour : hour < 100) (hminute : minute < 100)
    (hsecond : second < 100) (hmicro : micro < 1000000) :
    time? (clockText hour minute second micro)
      = some (⟨hour, minute, second, micro, true⟩, 0) := by
  have hclock := clock?_clockText [] hhour hminute hsecond hmicro rfl
  have htime := time?_append [] (unmarked_clockText hour minute second micro) (by simp)
    (by simp [clockText])
  rw [(isAscii_clockText hour minute second micro).byteSize_eq, hclock, List.append_nil] at htime
  rw [htime]
  rfl

end Written

/-! ## Whole timestamps -/

/-- A day, and behind the character after it what is read as a time. -/
theorem parts?_dateText {year month day : Nat} (hyear : year < 10000) (hmonth : month < 100)
    (hday : day < 100) {clock : ClockReading} {offset : Int}
    (htime : time? rest = some (clock, offset)) :
    parts? (dateText year month day ++ 'T' :: rest)
      = some ⟨year, month, day, clock.hour, clock.minute, clock.second, clock.micro, offset⟩ := by
  have hlength := length_dateText hyear hmonth hday
  have hsize : byteSize (dateText year month day ++ 'T' :: rest) = 11 + byteSize rest := by
    rw [byteSize_append, byteSize_cons, (isAscii_dateText _ _ _).byteSize_eq, hlength,
      Char.utf8Size_eq_one_iff.mpr (show ('T' : Char).val ≤ 127 by decide)]
    omega
  have hdrop : (dateText year month day ++ 'T' :: rest).drop 11 = rest := by
    rw [List.append_cons, List.drop_left' (by rw [List.length_append, hlength]; rfl)]
  unfold parts?
  dsimp only
  rw [dateEnd_dateText hyear (by omega), date?_dateText hyear hmonth hday, hdrop, htime, hsize]
  simp only [Option.bind_eq_bind, Option.bind_some, guard]
  rw [if_pos (by omega), if_neg (by omega)]
  rfl

/-- A timestamp as it is written without its offset. -/
def localChars (t : Timestamp) : List Char :=
  dateText t.year t.month t.day ++ 'T' :: clockText t.hour t.minute t.second t.micro

theorem iso_eq (t : Timestamp) : t.iso = Text.ofChars (t.localChars ++ offsetText t.offset) := by
  simp [iso, localChars, dateText, clockText]

section Bounds

variable (t : Timestamp)

theorem year_lt : t.year < 10000 := Nat.lt_succ_of_le t.isValid.1.2

theorem month_lt : t.month < 100 := Nat.lt_of_le_of_lt t.isValid.2.1.2 (by decide)

theorem day_lt : t.day < 100 :=
  Nat.lt_of_le_of_lt (Nat.le_trans t.isValid.2.2.1.2 (Calendar.daysInMonth_le _ _)) (by decide)

theorem hour_lt : t.hour < 100 := Nat.lt_trans t.isValid.2.2.2.1 (by decide)

theorem minute_lt : t.minute < 100 := Nat.lt_trans t.isValid.2.2.2.2.1 (by decide)

theorem second_lt : t.second < 100 := Nat.lt_trans t.isValid.2.2.2.2.2.1 (by decide)

theorem micro_lt : t.micro < 1000000 := t.isValid.2.2.2.2.2.2.1

theorem natAbs_offset_lt : t.offset.natAbs < microsPerDay := t.isValid.2.2.2.2.2.2.2

theorem parts?_iso (h : IsLegible t.offset) :
    parts? (t.localChars ++ offsetText t.offset) = some t.toTimestampParts := by
  have htime := time?_clockText t.hour_lt t.minute_lt t.second_lt t.micro_lt t.natAbs_offset_lt h
  rw [localChars, List.append_assoc, List.cons_append,
    parts?_dateText t.year_lt t.month_lt t.day_lt htime]

theorem parts?_localChars :
    parts? t.localChars = some { t.toTimestampParts with offset := 0 } := by
  have htime := time?_clockText_local t.hour_lt t.minute_lt t.second_lt t.micro_lt
  rw [localChars, parts?_dateText t.year_lt t.month_lt t.day_lt htime]

end Bounds

/-! ## Texts that begin and end with digits -/

/-- Whether a digit stands at the end. -/
def EndsInDigit (cs : List Char) : Prop := ∃ init c, cs = init ++ [c] ∧ c.isDigit = true

theorem endsInDigit_append (cs : List Char) {ds : List Char} (h : EndsInDigit ds) :
    EndsInDigit (cs ++ ds) := by
  obtain ⟨init, c, rfl, hc⟩ := h
  exact ⟨cs ++ init, c, (List.append_assoc ..).symm, hc⟩

theorem endsInDigit_cons (c : Char) (h : EndsInDigit cs) : EndsInDigit (c :: cs) :=
  endsInDigit_append [c] h

theorem endsInDigit_padded (k n : Nat) : EndsInDigit (padded k n) := by
  rcases List.eq_nil_or_concat (padded k n) with hnil | ⟨init, c, hc⟩
  · exact absurd hnil (padded_ne_nil k n)
  · rw [List.concat_eq_append] at hc
    exact ⟨init, c, hc, isDigit_padded k n c (by simp [hc])⟩

theorem endsInDigit_seconds (second micro : Nat) :
    EndsInDigit (padded 2 second ++ fractionText micro) := by
  unfold fractionText
  split
  · rw [List.append_nil]
    exact endsInDigit_padded 2 second
  · exact endsInDigit_append _ (endsInDigit_cons _ (endsInDigit_padded 6 micro))

theorem endsInDigit_clockText (hour minute second micro : Nat) :
    EndsInDigit (clockText hour minute second micro) :=
  endsInDigit_append _ <| endsInDigit_cons _ <| endsInDigit_append _ <| endsInDigit_cons _ <|
    endsInDigit_seconds second micro

theorem endsInDigit_offsetText (offset : Int) : EndsInDigit (offsetText offset) := by
  rw [offsetText_eq]
  refine endsInDigit_cons _ (endsInDigit_append _ (endsInDigit_cons _ ?_))
  split
  · rw [List.append_nil]
    exact endsInDigit_padded 2 _
  · exact endsInDigit_append _ (endsInDigit_cons _ (endsInDigit_seconds _ _))

theorem characters?_ofChars (cs : List Char) : characters? (Text.ofChars cs) = some cs := by
  have hnone :
      separatorPlaces.find? (fun i => (Text.ofChars cs)[i]?.any (·.char?.isNone)) = none := by
    refine List.find?_eq_none.mpr fun i _ => ?_
    rw [Text.ofChars, List.getElem?_map]
    cases cs[i]? <;> simp [CodePoint.char?]
  rw [characters?, hnone]
  exact Text.chars?_ofChars cs

/-- The text that is read: without the blanks around it, and with a `Z` at its end written out. -/
def written (s : Text) : Text :=
  let inner := Text.trim s
  if inner.getLast? == some (.char 'Z') then inner.dropLast ++ Text.ofChars (offsetText 0)
  else inner

theorem parseIso_eq (s : Text) :
    parseIso s = match (characters? (written s)).bind parts? with
      | some p => p.check
      | none => .error (.malformed (written s)) := by
  have hzero : Text.ofChars (offsetText 0) = ("+00:00" : Text) := by decide
  rw [written, hzero]
  rfl

theorem parseIso_of_written {s : Text} {p : TimestampParts} (h : written s = Text.ofChars cs)
    (hparts : parts? cs = some p) : parseIso s = p.check := by
  rw [parseIso_eq, h, characters?_ofChars, Option.bind_some, hparts]

/-- Characters that begin and end with a digit are read as they stand. -/
theorem written_ofChars (hfirst : ∀ c ∈ cs.head?, c.isDigit = true) (hlast : EndsInDigit cs) :
    written (Text.ofChars cs) = Text.ofChars cs := by
  obtain ⟨init, d, rfl, hd⟩ := hlast
  have hend : (Text.ofChars (init ++ [d])).getLast? = some (.char d) := by
    rw [Text.ofChars, List.map_append]
    exact List.getLast?_concat
  have htrim : Text.trim (Text.ofChars (init ++ [d])) = Text.ofChars (init ++ [d]) := by
    refine Text.trim_eq_self (fun c hc => ?_) fun c hc => ?_
    · rw [Text.ofChars, List.head?_map] at hc
      obtain ⟨e, he, rfl⟩ := Option.map_eq_some_iff.mp hc
      exact Text.isBlank_of_isDigit (hfirst e he)
    · rw [hend] at hc
      obtain rfl := Option.some_inj.mp hc
      exact Text.isBlank_of_isDigit hd
  have hnotZulu : ¬((Text.ofChars (init ++ [d])).getLast? == some (.char 'Z')) = true := by
    intro heq
    rw [hend] at heq
    obtain rfl := CodePoint.char.inj (Option.some_inj.mp (eq_of_beq heq))
    cases hd
  unfold written
  dsimp only
  rw [htrim, if_neg hnotZulu]

/-- A `Z` behind them is read as the offset of universal time. -/
theorem written_zulu (hfirst : ∀ c ∈ cs.head?, c.isDigit = true) (hne : cs ≠ []) :
    written (Text.ofChars (cs ++ ['Z'])) = Text.ofChars (cs ++ offsetText 0) := by
  have hsplit (ds : List Char) : Text.ofChars (cs ++ ds) = Text.ofChars cs ++ Text.ofChars ds :=
    List.map_append
  have hlast : (Text.ofChars (cs ++ ['Z'])).getLast? = some (.char 'Z') := by
    rw [hsplit]
    exact List.getLast?_concat
  have htrim : Text.trim (Text.ofChars (cs ++ ['Z'])) = Text.ofChars (cs ++ ['Z']) := by
    refine Text.trim_eq_self (fun c hc => ?_) fun c hc => ?_
    · obtain ⟨d, ds, rfl⟩ := List.exists_cons_of_ne_nil hne
      obtain rfl := Option.some_inj.mp hc
      exact Text.isBlank_of_isDigit (hfirst d rfl)
    · rw [hlast] at hc
      obtain rfl := Option.some_inj.mp hc
      decide
  unfold written
  dsimp only
  rw [htrim, hlast, if_pos (beq_self_eq_true _), hsplit, hsplit]
  exact congrArg (· ++ _) List.dropLast_concat

/-! ## Read back -/

section Back

variable (t : Timestamp)

theorem check_self : t.toTimestampParts.check = .ok t := dif_pos t.isValid

theorem localChars_ne_nil : t.localChars ≠ [] := by simp [localChars]

theorem head?_localChars (rest : List Char) :
    ∀ c ∈ (t.localChars ++ rest).head?, c.isDigit = true := by
  intro c hc
  have hhead := headD_padded 4 t.year (('-' :: (padded 2 t.month ++ '-' :: padded 2 t.day) ++
    'T' :: clockText t.hour t.minute t.second t.micro) ++ rest)
  rw [← List.append_assoc, ← List.append_assoc, List.headD_eq_head?_getD] at hhead
  rw [localChars, dateText] at hc
  rw [Option.mem_def.mp hc] at hhead
  exact hhead

/-- A timestamp is read back as it was, if the reader can tell its offset from none. -/
theorem parseIso_iso (h : IsLegible t.offset) : parseIso t.iso = .ok t := by
  have hwritten := written_ofChars (t.head?_localChars (offsetText t.offset))
    (endsInDigit_append _ (endsInDigit_offsetText t.offset))
  rw [iso_eq, parseIso_of_written hwritten (t.parts?_iso h), check_self]

/-- The same reading of the clock, in universal time. -/
def inUtc : Timestamp :=
  { t with
    offset := 0
    isValid := by
      obtain ⟨hyear, hmonth, hday, hhour, hminute, hsecond, hmicro, -⟩ := t.isValid
      have hoffset : (0 : Int).natAbs < microsPerDay := by decide
      exact ⟨hyear, hmonth, hday, hhour, hminute, hsecond, hmicro, hoffset⟩ }

theorem parseIso_localChars : parseIso (Text.ofChars t.localChars) = .ok t.inUtc := by
  have hhead := t.head?_localChars []
  rw [List.append_nil] at hhead
  have hlast : EndsInDigit t.localChars :=
    endsInDigit_append _ (endsInDigit_cons _ (endsInDigit_clockText _ _ _ _))
  rw [parseIso_of_written (written_ofChars hhead hlast) t.parts?_localChars]
  exact t.inUtc.check_self

theorem parseIso_localChars_zulu :
    parseIso (Text.ofChars (t.localChars ++ ['Z'])) = .ok t.inUtc := by
  have hhead := t.head?_localChars []
  rw [List.append_nil] at hhead
  rw [parseIso_of_written (written_zulu hhead t.localChars_ne_nil)
    (t.inUtc.parts?_iso (Or.inl rfl))]
  exact t.inUtc.check_self

end Back

/-! ## The offsets that are read -/

theorem isLegible_offset? {offset : Int} (h : offset? cs = some offset) : IsLegible offset := by
  unfold offset? at h
  obtain ⟨clock, -, h⟩ := Option.bind_eq_some_iff.mp h
  obtain ⟨-, -, h⟩ := Option.bind_eq_some_iff.mp h
  dsimp only at h
  have h := Option.some_inj.mp h
  unfold IsLegible
  by_cases hzero : (clock.hour * 60 + clock.minute) * 60 + clock.second = 0
  · rw [if_pos hzero] at h
    refine Or.inl ?_
    split at h <;> omega
  · rw [if_neg hzero] at h
    refine Or.inr ?_
    split at h <;> omega

theorem isLegible_zone? {clock : ClockReading} {offset : Int}
    (h : zone? clock rest = some offset) : IsLegible offset := by
  unfold zone? at h
  split at h
  · split at h
    · exact Or.inl (Option.some_inj.mp h).symm
    · cases h
  · split at h
    · exact Or.inl (Option.some_inj.mp h).symm
    · cases h
  · exact isLegible_offset? h

/-- What a time is read from: the offset begins with the first mark. -/
theorem exists_zone_of_time? {clock : ClockReading} {offset : Int}
    (h : time? cs = some (clock, offset)) :
    ∃ before rest, cs = before ++ rest ∧ (∀ c ∈ rest.head?, isMark c = true) ∧
      zone? clock rest = some offset := by
  obtain ⟨before, rest, rfl, hunmarked, hrest⟩ := exists_zone cs
  have hne : before ++ rest ≠ [] := by
    intro hnil
    rw [hnil] at h
    cases h
  rw [time?_append _ hunmarked hrest hne] at h
  obtain ⟨clock', -, h⟩ := Option.bind_eq_some_iff.mp h
  obtain ⟨offset', hzone, h⟩ := Option.map_eq_some_iff.mp h
  obtain ⟨rfl, rfl⟩ := Prod.mk.inj h
  exact ⟨before, rest, rfl, hrest, hzone⟩

/-- Parts that are read have no offset but one that is read behind the date. -/
theorem offset_of_parts? {p : TimestampParts} (h : parts? cs = some p) :
    p.offset = 0 ∨
      ∃ clock, time? (cs.drop (dateEnd (byteSize cs) cs + 1)) = some (clock, p.offset) := by
  unfold parts? at h
  dsimp only at h
  obtain ⟨-, -, h⟩ := Option.bind_eq_some_iff.mp h
  obtain ⟨⟨year, month, day⟩, -, h⟩ := Option.bind_eq_some_iff.mp h
  dsimp only at h
  split at h
  · obtain rfl := Option.some_inj.mp h
    exact Or.inl rfl
  · obtain ⟨⟨clock, offset⟩, htime, h⟩ := Option.bind_eq_some_iff.mp h
    obtain rfl := Option.some_inj.mp h
    exact Or.inr ⟨clock, htime⟩

/-- A text that is read is read from characters. -/
theorem exists_parts_of_parseIso {s : Text} {d : Timestamp} (h : parseIso s = .ok d) :
    ∃ cs, characters? (written s) = some cs ∧ parts? cs = some d.toTimestampParts := by
  rw [parseIso_eq] at h
  split at h
  · rename_i p hparts
    obtain ⟨cs, hcs, hparts⟩ := Option.bind_eq_some_iff.mp hparts
    unfold TimestampParts.check at h
    split at h
    · obtain rfl := Except.ok.inj h
      exact ⟨cs, hcs, hparts⟩
    · cases h
  · cases h

theorem isLegible_of_parseIso {s : Text} {d : Timestamp} (h : parseIso s = .ok d) :
    IsLegible d.offset := by
  obtain ⟨cs, -, hparts⟩ := exists_parts_of_parseIso h
  rcases offset_of_parts? hparts with hzero | ⟨clock, htime⟩
  · exact Or.inl hzero
  · obtain ⟨before, rest, -, -, hzone⟩ := exists_zone_of_time? htime
    exact isLegible_zone? hzone

/-! ## Universal time -/

/-- Whether a sign stands behind the date of a text, where it would begin an offset. The date is
found in the text that is read, but no sign of an offset that is put in for a `Z` counts. -/
def HasSign (s : Text) : Prop :=
  ∃ cs, characters? (written s) = some cs ∧
    ∃ c : Char, .char c ∈ (Text.trim s).drop (dateEnd (byteSize cs) cs + 1) ∧ (c = '+' ∨ c = '-')

theorem exists_front {s : Text} {tail : List Char}
    (h : s ++ Text.ofChars tail = Text.ofChars cs) :
    ∃ front, cs = front ++ tail ∧ s = Text.ofChars front := by
  obtain ⟨front, back, rfl, hfront, hback⟩ := List.map_eq_append_iff.mp h.symm
  have hchars : some back = some tail := by
    rw [← Text.chars?_ofChars back, ← Text.chars?_ofChars tail]
    exact congrArg Text.chars? hback
  obtain rfl := Option.some_inj.mp hchars
  exact ⟨front, rfl, hfront.symm⟩

/-- The characters of a text are its code points, but for a `T` in the place of half a pair. -/
theorem mem_drop_of_characters? {s : Text} {tail : List Char}
    (h : characters? (s ++ Text.ofChars tail) = some cs) :
    ∃ front, cs = front ++ tail ∧ ∀ n, ∀ c ∈ front.drop n, c ≠ 'T' → .char c ∈ s.drop n := by
  have hmem {t : Text} {front : List Char} (ht : t = Text.ofChars front) (n : Nat) :
      ∀ c ∈ front.drop n, .char c ∈ t.drop n := by
    intro c hc
    rw [ht, Text.ofChars, ← List.map_drop]
    exact List.mem_map_of_mem hc
  unfold characters? at h
  split at h
  · rename_i i hi
    have hlone := List.find?_some hi
    have hlt : i < s.length := by
      refine Nat.lt_of_not_le fun hge => ?_
      rw [List.getElem?_append_right hge, Text.ofChars, List.getElem?_map] at hlone
      cases htail : tail[i - s.length]? <;> rw [htail] at hlone <;> cases hlone
    rw [List.set_append_left _ _ hlt, Text.chars?_eq_some_iff] at h
    obtain ⟨front, rfl, hfront⟩ := exists_front h
    refine ⟨front, rfl, fun n c hc hne => ?_⟩
    have hset := hmem hfront n c hc
    rw [List.drop_set] at hset
    split at hset
    · exact hset
    · exact (List.mem_or_eq_of_mem_set hset).resolve_right fun heq => hne (CodePoint.char.inj heq)
  · obtain ⟨front, rfl, hfront⟩ := exists_front (Text.chars?_eq_some_iff.mp h)
    exact ⟨front, rfl, fun n c hc _ => hmem hfront n c hc⟩

/-- The text that is read is the one that is written, without its `Z` if it has one: then the
offset of universal time is put in. -/
theorem exists_written (s : Text) :
    ∃ (front : Text) (tail : List Char), written s = front ++ Text.ofChars tail ∧
      front <+: Text.trim s ∧ (tail = [] ∨ tail = offsetText 0) := by
  unfold written
  dsimp only
  split
  · exact ⟨_, _, rfl, List.dropLast_prefix _, Or.inr rfl⟩
  · exact ⟨Text.trim s, [], (List.append_nil _).symm, List.prefix_refl _, Or.inl rfl⟩

/-- An offset other than that of universal time begins with a sign. -/
theorem sign_of_zone? {clock : ClockReading} {offset : Int}
    (hrest : ∀ c ∈ rest.head?, isMark c = true) (h : zone? clock rest = some offset) :
    offset = 0 ∨ ∃ sign after, rest = sign :: after ∧ (sign = '+' ∨ sign = '-') ∧
      offset? rest = some offset := by
  unfold zone? at h
  split at h
  · split at h
    · exact Or.inl (Option.some_inj.mp h).symm
    · cases h
  · split at h
    · exact Or.inl (Option.some_inj.mp h).symm
    · cases h
  · rename_i hnil hzulu
    obtain ⟨sign, after, rfl⟩ := List.exists_cons_of_ne_nil hnil
    have hmark := hrest sign rfl
    have hne : sign ≠ 'Z' := by
      rintro rfl
      exact hzulu after rfl
    refine Or.inr ⟨sign, after, rfl, ?_, h⟩
    simpa [isMark, hne] using hmark

/-- What a sign begins in the offset of universal time is all of it. -/
theorem eq_of_sign {front before after : List Char} {sign : Char} {n : Nat}
    (hsign : sign = '+' ∨ sign = '-') (hfront : sign ∉ front)
    (h : front ++ (offsetText 0).drop n = before ++ sign :: after) :
    sign :: after = offsetText 0 := by
  have hdigits : sign ∉ offsetDigits 0 := by rcases hsign with rfl | rfl <;> decide
  have hzero : offsetText 0 = '+' :: offsetDigits 0 := offsetText_eq 0
  rw [hzero] at h ⊢
  cases n with
  | zero =>
      obtain ⟨-, heq, hrest⟩ := (List.append_cons_inj_of_notMem hfront hdigits).mp h
      rw [heq, hrest]
  | succ n =>
      have hmem : sign ∈ front ++ (offsetDigits 0).drop n := by
        rw [← List.drop_succ_cons, h]
        exact List.mem_append_right _ List.mem_cons_self
      rcases List.mem_append.mp hmem with hmem | hmem
      · exact absurd hmem hfront
      · exact absurd (List.mem_of_mem_drop hmem) hdigits

/-- What is read is in universal time, if no sign begins an offset: where none is written, and
where a `Z` is. -/
theorem offset_eq_zero {s : Text} {d : Timestamp} (h : parseIso s = .ok d) (hsign : ¬HasSign s) :
    d.offset = 0 := by
  obtain ⟨cs, hcs, hparts⟩ := exists_parts_of_parseIso h
  rcases offset_of_parts? hparts with hzero | ⟨clock, htime⟩
  · exact hzero
  obtain ⟨before, rest, hsplit, hrest, hzone⟩ := exists_zone_of_time? htime
  rcases sign_of_zone? hrest hzone with hzero | ⟨sign, after, rfl, hmark, hoffset⟩
  · exact hzero
  obtain ⟨front, tail, hwritten, hprefix, htail⟩ := exists_written s
  have hchars := hcs
  rw [hwritten] at hchars
  obtain ⟨chars, hchars, hmem⟩ := mem_drop_of_characters? hchars
  have hunsigned : sign ∉ chars.drop (dateEnd (byteSize cs) cs + 1) := by
    intro hc
    have hne : sign ≠ 'T' := by rcases hmark with rfl | rfl <;> decide
    exact hsign ⟨cs, hcs, sign, (List.IsPrefix.drop hprefix _).subset (hmem _ sign hc hne), hmark⟩
  -- so the sign is the one of the offset that is put in
  rw [show cs.drop _ = (chars ++ tail).drop _ from congrArg _ hchars, List.drop_append] at hsplit
  rcases htail with rfl | rfl
  · rw [List.drop_nil, List.append_nil] at hsplit
    exact absurd (by rw [hsplit]; simp) hunsigned
  · rw [eq_of_sign hmark hunsigned hsplit, offset?_offsetText (by decide) (Or.inl rfl)] at hoffset
    exact (Option.some_inj.mp hoffset).symm

end Timestamp

end CivicSite
