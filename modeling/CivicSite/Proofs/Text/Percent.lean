import CivicSite.Json.Reader
import CivicSite.Text.Percent

/-!
# Reading percent encoded texts

A percent sign and two hexadecimal digits stand for a byte, and what stands for itself stands for
its bytes; all the bytes are then read as UTF-8, strictly. A text that is percent encoded is read as
it was (`Text.percentDecode?_percentEncode`), whatever characters are kept in it, as long as a
percent sign is not one of them. Half a surrogate pair is written as bytes too, but no reader takes
those for a character.
-/

namespace CivicSite.Text

/-! ## The reader -/

/-- The bytes that a percent encoded text stands for, nothing if a percent sign is without digits.
-/
def percentBytes? : Text → Option (List UInt8)
  | [] => some []
  | .char '%' :: .char a :: .char b :: rest => do
    let high ← Json.hexValue? a
    let low ← Json.hexValue? b
    return .ofNat (16 * high + low) :: (← percentBytes? rest)
  | .char '%' :: _ => none
  | .char c :: rest => do return String.utf8EncodeChar c ++ (← percentBytes? rest)
  | .lone _ :: _ => none

/-- The text that a percent encoded text stands for. -/
def percentDecode? (s : Text) : Option Text := do
  let bytes ← percentBytes? s
  return ofString (← String.fromUTF8? bytes.toByteArray)

/-- A text of plain characters, and of percent signs each with two hexadecimal digits. -/
inductive IsCoded (plain : Char → Bool) : Text → Prop where
  | nil : IsCoded plain []
  | plain {c : Char} {rest : Text} (h : plain c = true) (later : IsCoded plain rest) :
    IsCoded plain (.char c :: rest)
  | percent {a b : Char} {rest : Text} (high : (Json.hexValue? a).isSome = true)
    (low : (Json.hexValue? b).isSome = true) (later : IsCoded plain rest) :
    IsCoded plain (.char '%' :: .char a :: .char b :: rest)

/-! ## Bytes -/

theorem hexValue?_hexCapital {n : Nat} (h : n < 16) : Json.hexValue? (hexCapital n) = some n := by
  have hall : ∀ d : Fin 16, Json.hexValue? (hexCapital d) = some d.val := by decide
  exact hall ⟨n, h⟩

theorem percentBytes?_percentByte (b : UInt8) (rest : Text) :
    percentBytes? (ofChars (percentByte b) ++ rest) = (percentBytes? rest).map (b :: ·) := by
  have hb : b.toNat < 256 := b.toNat_lt
  have hbyte : UInt8.ofNat (16 * (b.toNat / 16) + b.toNat % 16) = b := by
    rw [Nat.div_add_mod, UInt8.ofNat_toNat]
  show percentBytes? (.char '%' :: .char (hexCapital (b.toNat / 16))
    :: .char (hexCapital (b.toNat % 16)) :: rest) = _
  rw [percentBytes?, hexValue?_hexCapital (by omega), hexValue?_hexCapital (by omega)]
  simp only [Option.bind_eq_bind, Option.bind_some, hbyte, Option.pure_def]
  exact (Option.map_eq_bind ..).symm

theorem percentBytes?_flatMap_percentByte (bytes : List UInt8) (rest : Text) :
    percentBytes? (ofChars (bytes.flatMap percentByte) ++ rest)
      = (percentBytes? rest).map (bytes ++ ·) := by
  induction bytes with
  | nil => exact (congrFun Option.map_id _).symm
  | cons b bytes ih =>
      have hwritten : ofChars ((b :: bytes).flatMap percentByte) ++ rest
          = ofChars (percentByte b) ++ (ofChars (bytes.flatMap percentByte) ++ rest) := by
        simp [ofChars]
      rw [hwritten, percentBytes?_percentByte, ih, Option.map_map]
      rfl

variable {keep : Char → Bool}

theorem percentBytes?_percentPoint (hkeep : keep '%' = false) (c : CodePoint) (rest : Text) :
    percentBytes? (percentPoint keep c ++ rest) = (percentBytes? rest).map (utf8Bytes c ++ ·) := by
  unfold percentPoint
  split
  · rename_i hplain
    cases c with
    | lone half => cases hplain
    | char a =>
        have ha : a ≠ '%' := by
          rintro rfl
          rw [CodePoint.char?, Option.any_some, hkeep] at hplain
          exact absurd hplain (by decide)
        have hread : percentBytes? (.char a :: rest)
            = (percentBytes? rest).bind fun bytes => some (String.utf8EncodeChar a ++ bytes) := by
          rw [percentBytes?]
          · rfl
          · exact fun _ _ _ _ => ha
          · exact ha
        exact hread.trans (Option.map_eq_bind ..).symm
  · exact percentBytes?_flatMap_percentByte _ _

theorem percentBytes?_percentEncode (hkeep : keep '%' = false) (s : Text) :
    percentBytes? (percentEncode s keep) = some (s.flatMap utf8Bytes) := by
  induction s with
  | nil => rfl
  | cons c s ih =>
      have hwritten : percentEncode (c :: s) keep
          = percentPoint keep c ++ percentEncode s keep := rfl
      rw [hwritten, percentBytes?_percentPoint hkeep, ih]
      rfl

/-! ## Texts -/

/-- **What a text is encoded as is read as the text.** -/
theorem percentDecode?_percentEncode (hkeep : keep '%' = false) {s : Text}
    (hs : s.isEncodable = true) : percentDecode? (percentEncode s keep) = some s := by
  obtain ⟨t, rfl⟩ := isEncodable_iff.mp hs
  have hbytes : ((ofString t).flatMap utf8Bytes).toByteArray = t.toUTF8 := by
    rw [ofString, ofChars, List.flatMap_map]
    exact congrArg String.toUTF8 (String.ofList_toList (s := t))
  rw [percentDecode?, percentBytes?_percentEncode hkeep]
  simp only [Option.bind_eq_bind, Option.bind_some, hbytes, fromUTF8?_toUTF8]
  rfl

theorem IsCoded.append {plain : Char → Bool} {s t : Text} (hs : IsCoded plain s)
    (ht : IsCoded plain t) : IsCoded plain (s ++ t) := by
  induction hs with
  | nil => exact ht
  | plain h _ ih => exact .plain h ih
  | percent high low _ ih => exact .percent high low ih

theorem isCoded_percentByte (plain : Char → Bool) (b : UInt8) :
    IsCoded plain (ofChars (percentByte b)) := by
  have hb : b.toNat < 256 := b.toNat_lt
  refine .percent ?_ ?_ .nil
  · rw [hexValue?_hexCapital (by omega), Option.isSome_some]
  · rw [hexValue?_hexCapital (by omega), Option.isSome_some]

theorem isCoded_flatMap_percentByte (plain : Char → Bool) (bytes : List UInt8) :
    IsCoded plain (ofChars (bytes.flatMap percentByte)) := by
  induction bytes with
  | nil => exact .nil
  | cons b bytes ih => exact (isCoded_percentByte plain b).append ih

/-- **A text is encoded in what needs no encoding**, and in bytes. -/
theorem isCoded_percentEncode (keep : Char → Bool) (s : Text) :
    IsCoded (fun c => isUnreserved c || keep c) (percentEncode s keep) := by
  induction s with
  | nil => exact .nil
  | cons c s ih =>
      refine IsCoded.append ?_ ih
      unfold percentPoint
      split
      · rename_i hplain
        cases c with
        | lone half => cases hplain
        | char a => exact .plain hplain .nil
      · exact isCoded_flatMap_percentByte _ (utf8Bytes c)

end CivicSite.Text
