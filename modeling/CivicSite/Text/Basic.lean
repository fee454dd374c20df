/-!
# Texts

A text is a sequence of code points. All but the surrogates are characters. JSON can write half
a surrogate pair by itself, so a text may hold one: it counts as one code point and can be
compared, cut and quoted, but it has no bytes in UTF-8. A text without any is the text of a
string.
-/

namespace CivicSite

/-- A code point: a character, or half a surrogate pair that stands alone. -/
inductive CodePoint where
  | char (c : Char)
  | lone (half : Fin 2048)
deriving DecidableEq, Repr

namespace CodePoint

instance : Coe Char CodePoint := ⟨char⟩

instance : Inhabited CodePoint := ⟨char 'A'⟩

def toNat : CodePoint → Nat
  | char c => c.toNat
  | lone half => 0xD800 + half

def ofNat (n : Nat) : CodePoint :=
  if h : 0xD800 ≤ n ∧ n < 0xE000 then lone ⟨n - 0xD800, by omega⟩ else char (Char.ofNat n)

def char? : CodePoint → Option Char
  | char c => some c
  | lone _ => none

theorem toNat_ofNat {n : Nat} (h : n < 0x110000) : (ofNat n).toNat = n := by
  unfold ofNat
  split
  · simp only [toNat]; omega
  · have hv : n.isValidChar := by simp only [Nat.isValidChar]; omega
    rw [Char.ofNat, dif_pos hv]
    rfl

theorem ofNat_toNat (c : CodePoint) : ofNat c.toNat = c := by
  cases c with
  | char c =>
    have hv : c.toNat < 0xD800 ∨ 0xDFFF < c.toNat ∧ c.toNat < 0x110000 := c.valid
    have : ¬(0xD800 ≤ c.toNat ∧ c.toNat < 0xE000) := by omega
    simp [ofNat, toNat, this]
  | lone half =>
    have : 0xD800 + half.val < 0xE000 := by omega
    simp [ofNat, toNat, this]

end CodePoint

abbrev Text := List CodePoint

namespace Text

def ofChars (cs : List Char) : Text := cs.map .char

def ofString (s : String) : Text := ofChars s.toList

instance : Coe String Text := ⟨ofString⟩

/-- The characters of a text, if no half of a pair stands alone in it. -/
def chars? (s : Text) : Option (List Char) := s.mapM CodePoint.char?

/-- The string of a text, if no half of a pair stands alone in it. -/
def string? (s : Text) : Option String := s.chars?.map String.ofList

/-- Whether the text is made of characters, so that it can be stored and sent in UTF-8. -/
def isEncodable (s : Text) : Bool := s.chars?.isSome

@[simp] theorem chars?_ofChars (cs : List Char) : chars? (ofChars cs) = some cs := by
  induction cs with
  | nil => rfl
  | cons c rest ih => simp_all [chars?, ofChars, CodePoint.char?]

@[simp] theorem string?_ofString (s : String) : string? (ofString s) = some s := by
  simp [string?, ofString]

theorem chars?_eq_some_iff {s : Text} {cs : List Char} : chars? s = some cs ↔ s = ofChars cs := by
  constructor
  · intro h
    induction s generalizing cs with
    | nil => simp_all [chars?, ofChars]
    | cons c rest ih =>
      cases c with
      | lone half => simp [chars?, CodePoint.char?] at h
      | char c =>
        simp only [chars?, List.mapM_cons, CodePoint.char?, Option.pure_def, Option.bind_eq_bind,
          Option.bind_some, Option.bind_eq_some_iff] at h
        obtain ⟨ds, hds, h⟩ := h
        obtain rfl : c :: ds = cs := by simpa using h
        simp [ih hds, ofChars]
  · rintro rfl
    exact chars?_ofChars cs

theorem isEncodable_iff {s : Text} : isEncodable s = true ↔ ∃ t : String, s = ofString t := by
  constructor
  · intro h
    obtain ⟨cs, hcs⟩ := Option.isSome_iff_exists.1 h
    exact ⟨String.ofList cs, by simp [ofString, chars?_eq_some_iff.1 hcs]⟩
  · rintro ⟨t, rfl⟩
    simp [isEncodable, ofString]

/-! ## Order -/

/-- Whether a text stands before another one or is the same: the first code points that differ
decide by their numbers, and a text stands before those that it begins. -/
def le : Text → Text → Bool
  | [], _ => true
  | _ :: _, [] => false
  | a :: as, b :: bs => a.toNat < b.toNat || a == b && le as bs

theorem le_total (s t : Text) : (le s t || le t s) = true := by
  fun_induction le s t with
  | case1 => rfl
  | case2 => rfl
  | case3 a as b bs ih =>
    rcases Nat.lt_trichotomy a.toNat b.toNat with h | h | h
    · simp [h]
    · obtain rfl : a = b := by rw [← CodePoint.ofNat_toNat a, h, CodePoint.ofNat_toNat]
      simpa [le] using ih
    · simp [le, h]

theorem le_refl (s : Text) : le s s = true := by
  rw [← Bool.or_self (le s s)]
  exact le_total s s

theorem le_trans {s t u : Text} (h : le s t = true) (h' : le t u = true) : le s u = true := by
  induction s generalizing t u with
  | nil => rfl
  | cons a as ih =>
    cases t with
    | nil => simp [le] at h
    | cons b bs =>
      cases u with
      | nil => simp [le] at h'
      | cons c cs =>
        simp only [le, Bool.or_eq_true, decide_eq_true_eq, Bool.and_eq_true, beq_iff_eq] at h h' ⊢
        rcases h with h | ⟨rfl, h⟩ <;> rcases h' with h' | ⟨rfl, h'⟩
        · exact .inl (Nat.lt_trans h h')
        · exact .inl h
        · exact .inl h'
        · exact .inr ⟨rfl, ih h h'⟩

theorem eq_of_le_of_le {s t : Text} (h : le s t = true) (h' : le t s = true) : s = t := by
  induction s generalizing t with
  | nil => cases t <;> simp_all [le]
  | cons a as ih =>
    cases t with
    | nil => simp [le] at h
    | cons b bs =>
      simp only [le, Bool.or_eq_true, decide_eq_true_eq, Bool.and_eq_true, beq_iff_eq] at h h'
      rcases h with h | ⟨rfl, h⟩ <;> rcases h' with h' | ⟨e, h'⟩
      · omega
      · subst e; omega
      · omega
      · rw [ih h h']

end Text

end CivicSite
