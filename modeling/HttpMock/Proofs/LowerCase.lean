import Mathlib.Data.List.Basic
import HttpMock.Text.Case
/-! Lower case is idempotent. -/
namespace HttpMock.Text

theorem asciiLower_asciiLower (b : UInt8) :
    Bytes.asciiLower (Bytes.asciiLower b) = Bytes.asciiLower b := by
  unfold Bytes.asciiLower
  by_cases h : (0x41 ≤ b && b ≤ 0x5A) = true
  · rw [if_pos h, if_neg]
    simp [UInt8.le_iff_toNat_le, UInt8.toNat_add] at h ⊢
    omega
  · rw [if_neg h, if_neg h]

theorem asciiLower_asciiUpper (b : UInt8) :
    Bytes.asciiLower (Bytes.asciiUpper b) = Bytes.asciiLower b := by
  unfold Bytes.asciiUpper
  split
  · rename_i h
    simp only [Bool.and_eq_true, decide_eq_true_eq, UInt8.le_iff_toNat_le, UInt8.reduceToNat] at h
    have hle : (32 : UInt8) ≤ b := by
      rw [UInt8.le_iff_toNat_le]
      simp only [UInt8.reduceToNat]
      omega
    have hsub : (b - 32).toNat = b.toNat - 32 := by
      rw [UInt8.toNat_sub_of_le _ _ hle]
      rfl
    have h1 : (0x41 ≤ b - 32 && b - 32 ≤ 0x5A) = true := by
      simp only [Bool.and_eq_true, decide_eq_true_eq, UInt8.le_iff_toNat_le, hsub, UInt8.reduceToNat]
      omega
    have h2 : ¬ (0x41 ≤ b && b ≤ 0x5A) = true := by
      simp only [Bool.and_eq_true, decide_eq_true_eq, UInt8.le_iff_toNat_le, UInt8.reduceToNat]
      omega
    unfold Bytes.asciiLower
    rw [if_pos h1, if_neg h2]
    exact UInt8.sub_add_cancel _ _
  · rfl

theorem asciiUpper_lt {b : UInt8} (h : b < 0x80) : Bytes.asciiUpper b < 0x80 := by
  unfold Bytes.asciiUpper
  split
  · rename_i hb
    simp only [Bool.and_eq_true, decide_eq_true_eq, UInt8.le_iff_toNat_le, UInt8.reduceToNat] at hb
    have hle : (32 : UInt8) ≤ b := by
      rw [UInt8.le_iff_toNat_le]
      simp only [UInt8.reduceToNat]
      omega
    rw [UInt8.lt_iff_toNat_lt, UInt8.toNat_sub_of_le _ _ hle]
    simp only [UInt8.reduceToNat]
    omega
  · exact h

theorem asciiLower_lt {b : UInt8} (h : b < 0x80) : Bytes.asciiLower b < 0x80 := by
  unfold Bytes.asciiLower
  split
  · rename_i hb
    simp only [Bool.and_eq_true, decide_eq_true_eq, UInt8.le_iff_toNat_le, UInt8.reduceToNat] at hb
    rw [UInt8.lt_iff_toNat_lt, UInt8.toNat_add]
    simp only [UInt8.reduceToNat]
    omega
  · exact h

/-- Outside the ranges of its table, from U+0180 to U+0385 and from U+0430 on, every character
is its own lower case. -/
theorem lowerChar_eq_self {c : Char} (h : 0x430 ≤ c.toNat ∨ (0x180 ≤ c.toNat ∧ c.toNat < 0x386)) :
    lowerChar c = c := by
  unfold lowerChar
  dsimp only
  simp (disch := omega) only [if_neg, Bool.and_eq_true, Bool.or_eq_true, decide_eq_true_eq]
  exact Char.ofNat_toNat c

/-- Each character the table gives for ASCII, Latin-1 and Latin Extended-A is its own lower
case. -/
theorem lowerChar_lowerChar_latin : ∀ n, n < 0x180 →
    lowerChar (lowerChar (Char.ofNat n)) = lowerChar (Char.ofNat n) := by
  decide +kernel

/-- Each character the table gives for Greek and Cyrillic is its own lower case. -/
theorem lowerChar_lowerChar_greek_cyrillic : ∀ k, k < 0xAA →
    lowerChar (lowerChar (Char.ofNat (0x386 + k))) = lowerChar (Char.ofNat (0x386 + k)) := by
  decide +kernel

@[simp] theorem lowerChar_lowerChar (c : Char) : lowerChar (lowerChar c) = lowerChar c := by
  by_cases hlatin : c.toNat < 0x180
  · simpa using lowerChar_lowerChar_latin c.toNat hlatin
  by_cases hgreek : 0x386 ≤ c.toNat ∧ c.toNat < 0x430
  · have h := lowerChar_lowerChar_greek_cyrillic (c.toNat - 0x386) (by omega)
    rwa [show 0x386 + (c.toNat - 0x386) = c.toNat by omega, Char.ofNat_toNat] at h
  · have hc : lowerChar c = c := lowerChar_eq_self (by omega)
    rw [hc, hc]

/-- An ASCII character, lowered, is encoded as its octet lowered. -/
theorem utf8EncodeChar_lowerChar_ascii : ∀ n, n < 0x80 →
    String.utf8EncodeChar (lowerChar (Char.ofNat n)) = [Bytes.asciiLower (UInt8.ofNat n)] := by
  decide +kernel

/-- The characters of the lower case of raw text: each character lowered, each stray octet read as
U+FFFD. -/
def lowerChars (bs : Bytes) : List Char :=
  (Bytes.pieces bs).map fun p => match p with
    | .char c => lowerChar c
    | .stray _ => '�'

/-- Both ways of lowering, octet by octet for ASCII text and character by character otherwise,
write the lowered characters. -/
theorem lower_eq_flatMap (bs : Bytes) :
    lower bs = (lowerChars bs).flatMap String.utf8EncodeChar := by
  unfold lower lowerChars
  split
  · rename_i hascii
    have hlt : ∀ b ∈ bs, b < 0x80 := by simpa using hascii
    rw [Bytes.pieces_of_ascii hlt, List.map_map, List.flatMap_map, List.map_eq_flatMap]
    refine List.flatMap_congr fun b hb => ?_
    have hn : b.toNat < 0x80 := by simpa [UInt8.lt_iff_toNat_lt] using hlt b hb
    simpa using (utf8EncodeChar_lowerChar_ascii b.toNat hn).symm
  · rw [← Bytes.ofPieces_map_char, List.map_map]
    congr 2
    funext p
    cases p <;> rfl

/-- Lowering keeps the lowered characters: each is its own lower case, and so is U+FFFD. -/
theorem lowerChars_lower (bs : Bytes) : lowerChars (lower bs) = lowerChars bs := by
  rw [lower_eq_flatMap, lowerChars, Bytes.pieces_flatMap_utf8EncodeChar, lowerChars, List.map_map,
    List.map_map]
  congr 1
  funext p
  cases p with
  | char c => simp
  | stray b => exact lowerChar_eq_self (c := '�') (by decide)

theorem lower_of_ascii {bs : Bytes} (h : ∀ b ∈ bs, b < 0x80) : lower bs = bs.map Bytes.asciiLower := by
  unfold lower
  rw [if_pos (List.all_eq_true.2 fun b hb => decide_eq_true (h b hb))]

@[simp] theorem lower_lower (bs : Bytes) : lower (lower bs) = lower bs := by
  rw [lower_eq_flatMap (lower bs), lowerChars_lower, ← lower_eq_flatMap]

end HttpMock.Text
