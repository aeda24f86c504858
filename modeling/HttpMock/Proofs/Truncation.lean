import HttpMock.Text.Truncate
/-! Truncated log text keeps a prefix that ends where the text may be cut. -/
namespace HttpMock

namespace Bytes

theorem isRuneStart_eq_false_iff (b : UInt8) :
    isRuneStart b = false ↔ 0x80 ≤ b.toNat ∧ b.toNat ≤ 0xBF := by
  simp [isRuneStart, isTail, UInt8.le_iff_toNat_le]

theorem isRuneStart_eq_true_iff (b : UInt8) :
    isRuneStart b = true ↔ b.toNat < 0x80 ∨ 0xBF < b.toNat := by
  simp only [isRuneStart, isTail, Bool.not_eq_true', Bool.and_eq_false_iff, decide_eq_false_iff_not,
    UInt8.le_iff_toNat_le, UInt8.reduceToNat]
  omega

/-- A continuation octet as the encoding writes it, `80` plus six bits, begins no character. -/
theorem isRuneStart_continuation (n : Nat) : isRuneStart (UInt8.ofNat (n % 64 + 128)) = false := by
  rw [isRuneStart_eq_false_iff, UInt8.toNat_ofNat']
  omega

/-- The encoding of a character: an octet that begins a character, then at most three
continuation octets. -/
theorem utf8EncodeChar_shape (c : Char) :
    ∃ b tl, String.utf8EncodeChar c = b :: tl ∧ isRuneStart b = true ∧
      (∀ x ∈ tl, isRuneStart x = false) ∧ tl.length ≤ 3 := by
  have hv : c.val.toNat = c.toNat := rfl
  simp only [String.utf8EncodeChar, hv]
  split
  · refine ⟨_, [], rfl, ?_, by simp, by simp⟩
    rw [isRuneStart_eq_true_iff, UInt8.toNat_ofNat']
    omega
  split
  · refine ⟨_, [_], rfl, ?_, by simp [isRuneStart_continuation, -UInt8.ofNat_add], by simp⟩
    rw [isRuneStart_eq_true_iff, UInt8.toNat_ofNat']
    omega
  split
  · refine ⟨_, [_, _], rfl, ?_, by simp [isRuneStart_continuation, -UInt8.ofNat_add], by simp⟩
    rw [isRuneStart_eq_true_iff, UInt8.toNat_ofNat']
    omega
  · refine ⟨_, [_, _, _], rfl, ?_, by simp [isRuneStart_continuation, -UInt8.ofNat_add], by simp⟩
    rw [isRuneStart_eq_true_iff, UInt8.toNat_ofNat']
    omega

/-- In encoded characters, an octet that begins a character is the first octet of one of them:
the text before it is the encoding of the characters before it. -/
theorem take_encode_of_runeStart (cs : List Char) {p : Nat} {b : UInt8}
    (hp : (cs.flatMap String.utf8EncodeChar)[p]? = some b) (hb : isRuneStart b = true) :
    ∃ k, (cs.flatMap String.utf8EncodeChar).take p = (cs.take k).flatMap String.utf8EncodeChar := by
  induction cs generalizing p with
  | nil => simp at hp
  | cons c cs ih =>
    obtain ⟨b0, tl, he, -, htl, -⟩ := utf8EncodeChar_shape c
    rw [List.flatMap_cons, he] at hp ⊢
    by_cases hin : p < (b0 :: tl).length
    · rcases p with _ | p
      · exact ⟨0, by simp⟩
      · rw [List.getElem?_append_left hin, List.getElem?_cons_succ] at hp
        have := htl b (List.mem_of_getElem? hp)
        simp [this] at hb
    · rw [List.getElem?_append_right (by omega)] at hp
      obtain ⟨k, hk⟩ := ih hp
      refine ⟨k + 1, ?_⟩
      have hp' : p = (b0 :: tl).length + (p - (b0 :: tl).length) := by omega
      rw [hp', List.take_length_add_append, hk, List.take_succ_cons, List.flatMap_cons, he]

/-- Every octet of encoded characters lies at most three octets after the start of its
character. -/
theorem exists_runeStart_near (cs : List Char) {p : Nat} (hp : p < (cs.flatMap String.utf8EncodeChar).length) :
    ∃ q b, q ≤ p ∧ p ≤ q + 3 ∧ (cs.flatMap String.utf8EncodeChar)[q]? = some b ∧ isRuneStart b = true := by
  induction cs generalizing p with
  | nil => simp at hp
  | cons c cs ih =>
    obtain ⟨b0, tl, he, hb0, -, hlen⟩ := utf8EncodeChar_shape c
    simp only [List.flatMap_cons, he, List.cons_append, List.length_cons,
      List.length_append] at hp ⊢
    by_cases hin : p ≤ tl.length
    · exact ⟨0, b0, by omega, by omega, rfl, hb0⟩
    · obtain ⟨q, b, hqp, hpq, hq, hb⟩ := ih (p := p - (tl.length + 1)) (by omega)
      refine ⟨q + (tl.length + 1), b, by omega, by omega, ?_, hb⟩
      rw [← List.cons_append, List.getElem?_append_right (by simp)]
      simpa using hq

end Bytes

namespace Text

/-- `cut` is the last place at or before `m` where text `s` may be cut: the start, or an octet
that begins a character. -/
def IsLastCut (s : Bytes) (m cut : Nat) : Prop :=
  cut ≤ m ∧ (cut = 0 ∨ ∃ b, s[cut]? = some b ∧ Bytes.isRuneStart b = true) ∧
    ∀ j b, cut < j → j ≤ m → s[j]? = some b → Bytes.isRuneStart b = false

theorem isLastCut_zero (s : Bytes) : IsLastCut s 0 0 :=
  ⟨Nat.le_refl 0, .inl rfl, fun _ _ h h' _ => by omega⟩

/-- One step of the backward scan: an octet that begins a character is the last cut; any other
octet leaves the last cut before it. -/
theorem IsLastCut.succ {s : Bytes} {n cut : Nat} (h : IsLastCut s n cut) {b : UInt8}
    (hb : s[n + 1]? = some b) (hstart : Bytes.isRuneStart b = false) : IsLastCut s (n + 1) cut := by
  obtain ⟨hle, hcut, hmax⟩ := h
  refine ⟨by omega, hcut, fun j b' hj hjn hj' => ?_⟩
  rcases Nat.lt_or_ge j (n + 1) with hlt | hge
  · exact hmax j b' hj (by omega) hj'
  · have : j = n + 1 := by omega
    subst this
    rw [hb] at hj'
    cases hj'
    exact hstart

/-- Within the text, the backward scan stops at the last cut. -/
theorem isLastCut_cutPoint {s : Bytes} {n : Nat} (h : n < s.length) :
    IsLastCut s n (cutPoint s n) := by
  induction n with
  | zero => exact isLastCut_zero s
  | succ n ih =>
    have hb : s[n + 1]? = some s[n + 1] := List.getElem?_eq_getElem h
    by_cases hstart : Bytes.isRuneStart s[n + 1] = true
    · rw [cutPoint, hb]
      dsimp only
      rw [if_pos hstart]
      exact ⟨Nat.le_refl _, .inr ⟨_, hb, hstart⟩, fun _ _ h h' _ => by omega⟩
    · rw [cutPoint, hb]
      dsimp only
      rw [if_neg hstart]
      exact (ih (by omega)).succ hb (by simpa using hstart)

/-- Over valid UTF-8, the last cut at or before a place inside the text keeps valid UTF-8 and lies
at most three octets before that place. -/
theorem IsLastCut.utf8 {s : Bytes} {m cut : Nat} (hcut : IsLastCut s m cut) (hm : m < s.length)
    (hu : Bytes.isUtf8 s = true) : Bytes.isUtf8 (s.take cut) = true ∧ m - 3 ≤ cut ∧ cut ≤ m := by
  obtain ⟨hle, hstart, hmax⟩ := hcut
  obtain ⟨cs, rfl⟩ := Bytes.isUtf8_iff.mp hu
  -- the character that holds octet `m` begins at most three octets back, and no later than the cut
  obtain ⟨q, b, hqm, hmq, hq, hb⟩ := Bytes.exists_runeStart_near cs hm
  have hqcut : q ≤ cut := by
    refine Nat.le_of_not_lt fun hlt => ?_
    have := hmax q b hlt hqm hq
    simp [this] at hb
  have hprefix : ∃ k, (cs.flatMap String.utf8EncodeChar).take cut =
      (cs.take k).flatMap String.utf8EncodeChar := by
    rcases hstart with h0 | ⟨b', hb', hstart⟩
    · exact ⟨0, by simp [h0]⟩
    · exact Bytes.take_encode_of_runeStart cs hb' hstart
  obtain ⟨k, hk⟩ := hprefix
  exact ⟨Bytes.isUtf8_iff.mpr ⟨_, hk⟩, by omega, hle⟩

/-- Text within the limit (the given one when positive, else the default) is kept whole; longer
text is cut at the last cut at or before the limit and marked. The cut of valid UTF-8 keeps valid
UTF-8 and lies at most three octets before the limit. -/
theorem truncate_spec (s : Bytes) (limit : Int) :
    let m := if limit > 0 then limit.toNat else defaultLimit
    (s.length ≤ m → truncate s limit = s) ∧
    (m < s.length → ∃ cut, IsLastCut s m cut ∧
      truncate s limit = s.take cut ++ truncationMarker.toBytes ∧
      (Bytes.isUtf8 s = true → Bytes.isUtf8 (s.take cut) = true ∧ m - 3 ≤ cut ∧ cut ≤ m)) := by
  intro m
  have hm : truncate s limit =
      if s.length ≤ m then s else s.take (cutPoint s m) ++ truncationMarker.toBytes := rfl
  refine ⟨fun h => by rw [hm, if_pos h], fun h => ?_⟩
  have hcut := isLastCut_cutPoint h
  exact ⟨cutPoint s m, hcut, by rw [hm, if_neg (by omega)], hcut.utf8 h⟩

/-- A limit that falls inside a two-octet character. -/
theorem truncate_spec_inside_character :
    2 < ("aé".toBytes).length ∧ ∃ cut, IsLastCut "aé".toBytes 2 cut ∧
      truncate "aé".toBytes 2 = ("aé".toBytes).take cut ++ truncationMarker.toBytes ∧
      (Bytes.isUtf8 "aé".toBytes = true →
        Bytes.isUtf8 (("aé".toBytes).take cut) = true ∧ 2 - 3 ≤ cut ∧ cut ≤ 2) :=
  ⟨by decide, (truncate_spec "aé".toBytes 2).2 (by decide)⟩

end Text

end HttpMock
