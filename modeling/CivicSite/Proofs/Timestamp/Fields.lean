import CivicSite.Proofs.Json.Numeral
import CivicSite.Timestamp.Iso
import Mathlib.Data.Option.Basic

/-!
# Fields of timestamps

A timestamp is written with numbers of fixed width, and the reader takes each number by its width,
whatever stands behind it (`digits?_padded`). The forms of a date are told apart by the dashes, so
what is written is taken for a day of a month (`date?_dateText`). In a time and in an offset the
reader goes by what is left of the bytes that belong to it: of a time only the fraction may be left
out (`clock?_clockText`), of an offset also the seconds (`offset?_offsetText`). An offset of less
than a second is taken for none, so not every offset is read back (`IsLegible`).
-/

namespace CivicSite.Timestamp

variable {k n : Nat} {cs rest : List Char}

/-! ## Numbers of fixed width -/

theorem padded_eq (k n : Nat) :
    padded k n = Double.zeros (k - (Nat.toDigits 10 n).length) ++ Nat.toDigits 10 n := rfl

theorem length_padded (hk : 0 < k) (h : n < Nat.pow 10 k) : (padded k n).length = k := by
  have hle := Json.length_toDigits_le hk h
  rw [padded_eq, List.length_append, Double.zeros, List.length_replicate]
  omega

theorem isDigit_padded (k n : Nat) : ∀ c ∈ padded k n, c.isDigit = true :=
  List.forall_mem_append.mpr ⟨Json.isDigit_zeros _, Json.isDigit_toDigits n⟩

theorem padded_ne_nil (k n : Nat) : padded k n ≠ [] := fun hnil =>
  Nat.toDigits_ne_nil (List.append_eq_nil_iff.mp hnil).2

theorem ofDigitChars_padded (k n : Nat) : Nat.ofDigitChars 10 (padded k n) 0 = n := by
  rw [padded_eq, Json.ofDigitChars_zeros_append, Nat.ofDigitChars_ten_toDigits]

/-- A number is read by the width that it was written with. -/
theorem digits?_padded (hk : 0 < k) (h : n < Nat.pow 10 k) (rest : List Char) :
    digits? k (padded k n ++ rest) = some (n, rest) := by
  have hlength := length_padded hk h
  have htake : (padded k n ++ rest).take k = padded k n := List.take_left' hlength
  have hdrop : (padded k n ++ rest).drop k = rest := List.drop_left' hlength
  have hall : (padded k n).all Char.isDigit = true := List.all_eq_true.mpr (isDigit_padded k n)
  unfold digits?
  dsimp only
  rw [htake, hdrop, if_pos ⟨hlength, hall⟩, ofDigitChars_padded]

/-- What begins with a number begins with a digit. -/
theorem headD_padded (k n : Nat) (rest : List Char) :
    ((padded k n ++ rest).headD endMark).isDigit = true := by
  cases hp : padded k n with
  | nil => exact absurd hp (padded_ne_nil k n)
  | cons d ds => exact isDigit_padded k n d (by rw [hp]; exact List.mem_cons_self)

/-! ## Bytes -/

/-- Whether all characters take one byte. -/
def IsAscii (cs : List Char) : Prop := ∀ c ∈ cs, c.val ≤ 127

theorem byteSize_append (cs ds : List Char) : byteSize (cs ++ ds) = byteSize cs + byteSize ds := by
  rw [byteSize, String.ofList_append, String.utf8ByteSize_append]
  rfl

theorem byteSize_cons (c : Char) (cs : List Char) :
    byteSize (c :: cs) = c.utf8Size + byteSize cs := by
  rw [byteSize, String.ofList_cons, String.utf8ByteSize_append, String.utf8ByteSize_singleton]
  rfl

theorem IsAscii.byteSize_eq (h : IsAscii cs) : byteSize cs = cs.length := by
  induction cs with
  | nil => rfl
  | cons c rest ih =>
      obtain ⟨hc, hrest⟩ := List.forall_mem_cons.mp h
      rw [byteSize_cons, Char.utf8Size_eq_one_iff.mpr hc, ih hrest, List.length_cons, Nat.add_comm]

theorem val_le_of_isDigit {c : Char} (h : c.isDigit = true) : c.val ≤ 127 := by
  rw [Char.isDigit, Bool.and_eq_true, decide_eq_true_eq, decide_eq_true_eq] at h
  exact Nat.le_trans h.2 (by decide)

theorem isAscii_padded (k n : Nat) : IsAscii (padded k n) := fun c hc =>
  val_le_of_isDigit (isDigit_padded k n c hc)

/-! ## The date -/

/-- A day of a month as it is written. -/
def dateText (year month day : Nat) : List Char :=
  padded 4 year ++ '-' :: (padded 2 month ++ '-' :: padded 2 day)

section Date

variable {year month day : Nat}

theorem isAscii_dateText (year month day : Nat) : IsAscii (dateText year month day) :=
  List.forall_mem_append.mpr ⟨isAscii_padded 4 year, List.forall_mem_cons.mpr ⟨by decide,
    List.forall_mem_append.mpr ⟨isAscii_padded 2 month, List.forall_mem_cons.mpr ⟨by decide,
      isAscii_padded 2 day⟩⟩⟩⟩

theorem date?_dateText (hyear : year < 10000) (hmonth : month < 100) (hday : day < 100)
    (rest : List Char) : date? 10 (dateText year month day ++ rest) = some (year, month, day) := by
  have hfour : year < Nat.pow 10 4 := hyear
  have hmonth' : month < Nat.pow 10 2 := hmonth
  have hday' : day < Nat.pow 10 2 := hday
  have hnotWeek :
      ((padded 2 month ++ '-' :: (padded 2 day ++ rest)).headD endMark == 'W') = false := by
    refine beq_eq_false_iff_ne.mpr fun heq => ?_
    have hdigit := headD_padded 2 month ('-' :: (padded 2 day ++ rest))
    rw [heq] at hdigit
    cases hdigit
  unfold date? dateText
  rw [List.append_assoc, digits?_padded (by decide) hfour]
  simp only [Option.bind_eq_bind, Option.bind_some, List.cons_append, List.append_assoc,
    List.headD_cons, beq_self_eq_true, if_true, List.drop_succ_cons, List.drop_zero, hnotWeek,
    Bool.false_eq_true, if_false]
  rw [digits?_padded (by decide) hmonth']
  simp only [Option.bind_some, List.headD_cons, beq_self_eq_true, Bool.not_true, Bool.false_or,
    guard, if_true, List.drop_succ_cons, List.drop_zero]
  rw [digits?_padded (by decide) hday']
  rfl

theorem length_dateText (hyear : year < 10000) (hmonth : month < 100) (hday : day < 100) :
    (dateText year month day).length = 10 := by
  have hfour : (padded 4 year).length = 4 := length_padded (by decide) hyear
  have htwo (n : Nat) (h : n < 100) : (padded 2 n).length = 2 := length_padded (by decide) h
  unfold dateText
  rw [List.length_append, List.length_cons, List.length_append, List.length_cons, hfour,
    htwo month hmonth, htwo day hday]

/-- A day of a month ends at the tenth place. -/
theorem dateEnd_dateText (hyear : year < 10000) {size : Nat} (hsize : size ≠ 7)
    (rest : List Char) : dateEnd size (dateText year month day ++ rest) = 10 := by
  have hfour : (padded 4 year).length = 4 := length_padded (by decide) hyear
  have hdash : (dateText year month day ++ rest).drop 4
      = '-' :: (padded 2 month ++ '-' :: (padded 2 day ++ rest)) := by
    unfold dateText
    rw [List.append_assoc, List.drop_left' hfour, List.cons_append, List.append_assoc,
      List.cons_append]
  have hmonth : (dateText year month day ++ rest).drop 5
      = padded 2 month ++ '-' :: (padded 2 day ++ rest) := by
    rw [← List.drop_drop (i := 1) (j := 4), hdash]
    rfl
  have hnotWeek : (((dateText year month day ++ rest).drop 5).headD endMark == 'W') = false := by
    refine beq_eq_false_iff_ne.mpr fun heq => ?_
    have hdigit := headD_padded 2 month ('-' :: (padded 2 day ++ rest))
    rw [← hmonth, heq] at hdigit
    cases hdigit
  have hdash' : (((dateText year month day ++ rest).drop 4).headD endMark == '-') = true := by
    rw [hdash]
    rfl
  have hsize' : (size == 7) = false := beq_eq_false_iff_ne.mpr hsize
  unfold dateEnd
  simp only [hsize', hdash', hnotWeek, Bool.false_eq_true, if_false, if_true]

end Date

/-! ## The time -/

/-- A time of a day as it is written. -/
def clockText (hour minute second micro : Nat) : List Char :=
  padded 2 hour ++ ':' ::
    (padded 2 minute ++ ':' :: (padded 2 second ++ fractionText micro))

/-- What holds of all digits, of colons and of points holds of all that a time is written with. -/
theorem forall_clockText {P : Char → Prop} (hdigit : ∀ c : Char, c.isDigit = true → P c)
    (hcolon : P ':') (hpoint : P '.') (hour minute second micro : Nat) :
    ∀ c ∈ clockText hour minute second micro, P c := by
  have hpadded (k n : Nat) : ∀ c ∈ padded k n, P c := fun c hc => hdigit c (isDigit_padded k n c hc)
  have hfraction : ∀ c ∈ fractionText micro, P c := by
    unfold fractionText
    split
    · exact List.forall_mem_nil _
    · exact List.forall_mem_cons.mpr ⟨hpoint, hpadded 6 micro⟩
  exact List.forall_mem_append.mpr ⟨hpadded 2 hour, List.forall_mem_cons.mpr ⟨hcolon,
    List.forall_mem_append.mpr ⟨hpadded 2 minute, List.forall_mem_cons.mpr ⟨hcolon,
      List.forall_mem_append.mpr ⟨hpadded 2 second, hfraction⟩⟩⟩⟩⟩

theorem isAscii_clockText (hour minute second micro : Nat) :
    IsAscii (clockText hour minute second micro) :=
  forall_clockText (fun _ => val_le_of_isDigit) (by decide) (by decide) hour minute second micro

section Clock

variable {hour minute second micro more left : Nat} {read : List Nat} {colons : Bool}

/-- A number with a colon behind it is followed by the next one. -/
theorem clockParts?_colon (hn : n < 100) (hleft : 3 < left) (hcolons : read = [] ∨ colons = true) :
    clockParts? read colons (more + 1) left (padded 2 n ++ ':' :: rest)
      = clockParts? (read ++ [n]) true more (left - 3) rest := by
  have hnext : (if (read ++ [n]).length == 1 then true else colons) = true := by
    rcases hcolons with rfl | rfl
    · rfl
    · split <;> rfl
  rw [clockParts?, digits?_padded (by decide) hn]
  simp only [Option.bind_eq_bind, Option.bind_some, List.headD_cons, beq_self_eq_true, hnext,
    if_neg (Nat.not_le.mpr hleft), Bool.and_self, if_true, List.drop_succ_cons, List.drop_zero]

/-- The last number of a time. -/
theorem clockParts?_last (hn : n < 100) (hleft : left ≤ 3) :
    clockParts? read colons (more + 1) left (padded 2 n ++ rest)
      = some (read ++ [n], 0, rest.headD endMark == endMark) := by
  rw [clockParts?, digits?_padded (by decide) hn]
  simp only [Option.bind_eq_bind, Option.bind_some, if_pos hleft]
  rfl

/-- The last number of a time, with a fraction. -/
theorem clockParts?_point (hn : n < 100) (hmicro : micro < 1000000)
    (hrest : (rest.headD endMark).isDigit = false) :
    clockParts? read colons (more + 1) 9 (padded 2 n ++ '.' :: (padded 6 micro ++ rest))
      = some (read ++ [n], micro, rest.headD endMark == endMark) := by
  have hdropped : rest.dropWhile Char.isDigit = rest := by
    cases rest with
    | nil => rfl
    | cons c rest =>
        rw [List.headD_cons] at hrest
        exact List.dropWhile_cons_of_neg (by simp [hrest])
  rw [clockParts?, digits?_padded (by decide) hn]
  have hpoint : (('.' : Char) == ':') = false := by decide
  have hfraction : fraction? 6 (padded 6 micro ++ rest)
      = some (micro, rest.headD endMark == endMark) := by
    unfold fraction?
    dsimp only
    rw [Nat.min_self, digits?_padded (by decide) hmicro]
    simp only [Option.bind_eq_bind, Option.bind_some, hdropped]
    rw [Nat.sub_self, show Nat.pow 10 0 = 1 from rfl, Nat.mul_one]
    rfl
  simp only [Option.bind_eq_bind, Option.bind_some, List.headD_cons, hpoint, Bool.and_false,
    Bool.false_eq_true, if_false, beq_self_eq_true, Bool.true_or, if_true, List.drop_succ_cons,
    List.drop_zero, hfraction, Nat.reduceLeDiff, Nat.reduceSub]
  rfl

theorem length_fractionText (h : micro < 1000000) :
    (fractionText micro).length = if micro = 0 then 0 else 7 := by
  unfold fractionText
  split
  · rfl
  · rw [List.length_cons, length_padded (by decide) h]

/-- The seconds of a time, with their fraction. -/
theorem clockParts?_seconds (hn : n < 100) (hmicro : micro < 1000000)
    (hrest : (rest.headD endMark).isDigit = false) :
    clockParts? read colons (more + 1) (2 + (fractionText micro).length)
        (padded 2 n ++ (fractionText micro ++ rest))
      = some (read ++ [n], micro, rest.headD endMark == endMark) := by
  rw [length_fractionText hmicro]
  by_cases hzero : micro = 0
  · subst hzero
    exact clockParts?_last hn (by decide)
  · rw [if_neg hzero, fractionText, if_neg hzero]
    exact clockParts?_point hn hmicro hrest

theorem length_clockText (hhour : hour < 100) (hminute : minute < 100) (hsecond : second < 100) :
    (clockText hour minute second micro).length = 3 + (3 + (2 + (fractionText micro).length)) := by
  have htwo (n : Nat) (h : n < 100) : (padded 2 n).length = 2 := length_padded (by decide) h
  unfold clockText
  rw [List.length_append, List.length_cons, List.length_append, List.length_cons,
    List.length_append, htwo hour hhour, htwo minute hminute, htwo second hsecond]
  omega

theorem clock?_clockText (rest : List Char) (hhour : hour < 100) (hminute : minute < 100)
    (hsecond : second < 100) (hmicro : micro < 1000000)
    (hrest : (rest.headD endMark).isDigit = false) :
    clock? (clockText hour minute second micro).length
        (clockText hour minute second micro ++ rest)
      = some ⟨hour, minute, second, micro, rest.headD endMark == endMark⟩ := by
  rw [clock?, length_clockText hhour hminute hsecond, clockText, List.append_assoc,
    List.cons_append, List.append_assoc, List.cons_append, List.append_assoc,
    clockParts?_colon hhour (by omega) (Or.inl rfl), Nat.add_sub_cancel_left,
    clockParts?_colon hminute (by omega) (Or.inr rfl), Nat.add_sub_cancel_left,
    clockParts?_seconds hsecond hmicro hrest]
  rfl

end Clock

/-! ## The offset -/

/-- The hours and minutes of an offset, with its seconds where it has any. -/
def offsetDigits (micros : Nat) : List Char :=
  let seconds := micros / 1000000
  let micro := micros % 1000000
  padded 2 (seconds / 3600) ++ ':' :: (padded 2 (seconds / 60 % 60) ++
    if seconds % 60 = 0 ∧ micro = 0 then []
    else ':' :: (padded 2 (seconds % 60) ++ fractionText micro))

theorem offsetText_eq (offset : Int) :
    offsetText offset = (if offset < 0 then '-' else '+') :: offsetDigits offset.natAbs := by
  simp [offsetText, offsetDigits]

/-- The digits of an offset are read as a time of which nothing is left over. -/
theorem clock?_offsetDigits {micros : Nat} (h : micros < microsPerDay) :
    clock? (byteSize (offsetDigits micros)) (offsetDigits micros)
      = some ⟨micros / 1000000 / 3600, micros / 1000000 / 60 % 60, micros / 1000000 % 60,
        micros % 1000000, true⟩ := by
  have hlimit : microsPerDay = 86400000000 := rfl
  have hhour : micros / 1000000 / 3600 < 100 := by omega
  have hminute : micros / 1000000 / 60 % 60 < 100 := by omega
  have hsecond : micros / 1000000 % 60 < 100 := by omega
  have hmicro : micros % 1000000 < 1000000 := Nat.mod_lt _ (by decide)
  unfold offsetDigits
  dsimp only
  by_cases hnone : micros / 1000000 % 60 = 0 ∧ micros % 1000000 = 0
  · have hascii : IsAscii (padded 2 (micros / 1000000 / 3600) ++
        ':' :: padded 2 (micros / 1000000 / 60 % 60)) :=
      List.forall_mem_append.mpr ⟨isAscii_padded 2 _,
        List.forall_mem_cons.mpr ⟨by decide, isAscii_padded 2 _⟩⟩
    have hlength : (padded 2 (micros / 1000000 / 3600) ++
        ':' :: padded 2 (micros / 1000000 / 60 % 60)).length = 3 + 2 := by
      rw [List.length_append, List.length_cons, length_padded (by decide) hhour,
        length_padded (by decide) hminute]
    rw [if_pos hnone, List.append_nil, hascii.byteSize_eq, hlength, clock?,
      clockParts?_colon hhour (by decide) (Or.inl rfl), Nat.add_sub_cancel_left]
    have hlast : clockParts? [micros / 1000000 / 3600] true 2 2
        (padded 2 (micros / 1000000 / 60 % 60) ++ []) = _ :=
      clockParts?_last hminute (by decide)
    rw [List.append_nil] at hlast
    rw [List.nil_append, hlast, hnone.1, hnone.2]
    rfl
  · have hclock := clock?_clockText [] hhour hminute hsecond hmicro (by decide)
    rw [List.append_nil] at hclock
    rw [if_neg hnone]
    show clock? (byteSize (clockText _ _ _ _)) (clockText _ _ _ _) = _
    rw [(isAscii_clockText _ _ _ _).byteSize_eq, hclock]
    rfl

/-- The offsets that the reader takes for what they are: none, or a second and more. -/
def IsLegible (offset : Int) : Prop := offset = 0 ∨ 1000000 ≤ offset.natAbs

theorem offset?_offsetText {offset : Int} (h : offset.natAbs < microsPerDay)
    (hlegible : IsLegible offset) : offset? (offsetText offset) = some offset := by
  have hsign : ((if offset < 0 then '-' else '+') == '-') = decide (offset < 0) := by
    by_cases hneg : offset < 0
    · rw [if_pos hneg, decide_eq_true hneg]
      rfl
    · rw [if_neg hneg, decide_eq_false hneg]
      rfl
  rw [offsetText_eq, offset?]
  simp only [List.drop_succ_cons, List.drop_zero, clock?_offsetDigits h, Option.bind_eq_bind,
    Option.bind_some, guard, if_true, List.headD_cons, hsign, decide_eq_true_eq]
  show some (if offset < 0 then _ else _) = some offset
  refine congrArg some ?_
  generalize hmicros : offset.natAbs = micros at h
  unfold IsLegible at hlegible
  have hseconds : (micros / 1000000 / 3600 * 60 + micros / 1000000 / 60 % 60) * 60
      + micros / 1000000 % 60 = micros / 1000000 := by omega
  rw [hseconds]
  by_cases hzero : micros / 1000000 = 0
  · rw [if_pos hzero]
    split <;> omega
  · rw [if_neg hzero]
    split <;> omega

end CivicSite.Timestamp
