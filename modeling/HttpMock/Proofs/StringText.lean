import Mathlib
import HttpMock.Proofs.QueryRoundTrip
/-! JSON string literals read back: the reader decodes the escaped form of a string to the string
itself (`readString_escaped`). -/
namespace HttpMock.Json

/-- The units the reader decodes from the escaped form of one character: the character after a
short escape, its code after a `\u` escape, and its UTF-8 octets otherwise. -/
def escapeUnits (c : Char) : List StrUnit :=
  if c = '"' ∨ c = '\\' ∨ c = '\n' ∨ c = '\r' ∨ c = '\t' ∨ c.toNat = 8 ∨ c.toNat = 12 then [.char c]
  else if c.toNat < 0x20 ∨ c.toNat = 0x2028 ∨ c.toNat = 0x2029 then [.unit16 c.toNat]
  else (String.utf8EncodeChar c).map .raw

/-! ### Four hexadecimal digits -/

theorem hexValue_hexDigit : ∀ d, d < 16 →
    (String.utf8EncodeChar (Bytes.hexDigit d)).map Bytes.hexValue? = [some d] := by
  decide

theorem hexDigit_octet {d : Nat} (hd : d < 16) :
    ∃ b, String.utf8EncodeChar (Bytes.hexDigit d) = [b] ∧ Bytes.hexValue? b = some d := by
  obtain ⟨b, hb, hv⟩ := List.map_eq_singleton_iff.1 (hexValue_hexDigit d hd)
  exact ⟨b, hb, hv⟩

theorem readHex4_hex4 {n : Nat} (hn : n < 0x10000) (rest : Bytes) :
    readHex4 ((hex4 n).toBytes ++ rest) = .ok (n, rest) := by
  obtain ⟨b1, h1, v1⟩ := hexDigit_octet (d := n / 4096 % 16) (by omega)
  obtain ⟨b2, h2, v2⟩ := hexDigit_octet (d := n / 256 % 16) (by omega)
  obtain ⟨b3, h3, v3⟩ := hexDigit_octet (d := n / 16 % 16) (by omega)
  obtain ⟨b4, h4, v4⟩ := hexDigit_octet (d := n % 16) (by omega)
  simp only [hex4, String.toBytes, String.toList_ofList, List.map_cons, List.map_nil,
    List.flatMap_cons, List.flatMap_nil, h1, h2, h3, h4, List.cons_append, List.nil_append,
    List.append_nil]
  simp only [readHex4, readHex4.go, v1, v2, v3, v4, pure, Except.pure, Except.ok.injEq,
    Prod.mk.injEq, and_true]
  omega

/-! ### One character -/

section Reader

variable (fuel : Nat) (acc : List StrUnit) (rest : Bytes)

/-- Octets that stand for themselves in a string literal are read one unit each. -/
theorem go_plain : ∀ bs : Bytes, (∀ b ∈ bs, b ≠ 0x22 ∧ b ≠ 0x5C ∧ ¬b < 0x20) →
    ∀ acc, readString.go (fuel + bs.length) acc (bs ++ rest) =
      readString.go fuel ((bs.map .raw).reverse ++ acc) rest
  | [], _, _ => rfl
  | b :: bs, h, acc => by
    obtain ⟨hq, hs, hc⟩ := h b List.mem_cons_self
    rw [List.length_cons, ← Nat.add_assoc, List.cons_append]
    simp only [readString.go, hq, hs, hc, if_false]
    rw [go_plain bs (fun x hx => h x (List.mem_cons_of_mem _ hx))]
    simp

/-- The octets of a character that is written as itself stand for themselves. -/
theorem plain_of_utf8 {c : Char} (hq : c ≠ '"') (hs : c ≠ '\\') (hc : ¬c.toNat < 0x20) :
    ∀ b ∈ String.utf8EncodeChar c, b ≠ 0x22 ∧ b ≠ 0x5C ∧ ¬b < 0x20 := by
  intro b hb
  by_cases hlow : b.toNat < 0x80
  · have hcb := (Bytes.mem_utf8EncodeChar_ascii hlow c).1 hb
    have hq' : c.toNat ≠ 0x22 := fun h => hq (Char.toNat_inj.mp (by rw [h]; rfl))
    have hs' : c.toNat ≠ 0x5C := fun h => hs (Char.toNat_inj.mp (by rw [h]; rfl))
    refine ⟨?_, ?_, ?_⟩
    · rintro rfl
      exact hq' hcb
    · rintro rfl
      exact hs' hcb
    · rw [UInt8.lt_iff_toNat_lt]
      simp only [UInt8.reduceToNat]
      omega
  · refine ⟨?_, ?_, ?_⟩
    · rintro rfl
      exact hlow (by decide)
    · rintro rfl
      exact hlow (by decide)
    · rw [UInt8.lt_iff_toNat_lt]
      simp only [UInt8.reduceToNat]
      omega

theorem escapeUnits_of_short {c : Char}
    (h : c = '"' ∨ c = '\\' ∨ c = '\n' ∨ c = '\r' ∨ c = '\t' ∨ c.toNat = 8 ∨ c.toNat = 12) :
    escapeUnits c = [.char c] := by
  rw [escapeUnits, if_pos h]

section Other

variable {c : Char} (h5 : ¬(c = '"' ∨ c = '\\' ∨ c = '\n' ∨ c = '\r' ∨ c = '\t')) (h8 : ¬c.toNat = 8)
  (h12 : ¬c.toNat = 12)
include h5 h8 h12

theorem escapeUnits_of_unicode (hu : c.toNat < 0x20 ∨ c.toNat = 0x2028 ∨ c.toNat = 0x2029) :
    escapeUnits c = [.unit16 c.toNat] := by
  rw [escapeUnits, if_neg (by simp_all), if_pos hu]

theorem escapeUnits_of_plain (hu : ¬(c.toNat < 0x20 ∨ c.toNat = 0x2028 ∨ c.toNat = 0x2029)) :
    escapeUnits c = (String.utf8EncodeChar c).map .raw := by
  rw [escapeUnits, if_neg (by simp_all), if_neg hu]

end Other

/-- The escaped form of a character is read as its units. -/
theorem go_escapeChar (c : Char) :
    readString.go (fuel + (escapeUnits c).length) acc ((escapeChar c).toBytes ++ rest) =
      readString.go fuel ((escapeUnits c).reverse ++ acc) rest := by
  unfold escapeChar
  split
  · rfl
  · rfl
  · rfl
  · rfl
  · rfl
  · rename_i hq hs hn hr ht
    have h5 : ¬(c = '"' ∨ c = '\\' ∨ c = '\n' ∨ c = '\r' ∨ c = '\t') := by
      simp only [not_or]
      exact ⟨hq, hs, hn, hr, ht⟩
    split_ifs with h8 h12 hu
    · have hc : Char.ofNat 8 = c := by rw [← h8, Char.ofNat_toNat]
      rw [escapeUnits_of_short (by simp [h8]), ← hc]
      rfl
    · have hc : Char.ofNat 12 = c := by rw [← h12, Char.ofNat_toNat]
      rw [escapeUnits_of_short (by simp [h12]), ← hc]
      rfl
    · have hu' : c.toNat < 0x20 ∨ c.toNat = 0x2028 ∨ c.toNat = 0x2029 := by simpa [or_assoc] using hu
      have hlt : c.toNat < 0x10000 := by omega
      have hpre : ("\\u" : String).toBytes = [0x5C, 0x75] := rfl
      rw [escapeUnits_of_unicode h5 h8 h12 hu', String.toBytes_append, List.append_assoc, hpre,
        List.length_singleton]
      simp only [List.cons_append, List.nil_append, readString.go, readHex4_hex4 hlt, bind,
        Except.bind]
      rfl
    · have hu' : ¬(c.toNat < 0x20 ∨ c.toNat = 0x2028 ∨ c.toNat = 0x2029) := by simpa [or_assoc] using hu
      have hbytes : c.toString.toBytes = String.utf8EncodeChar c := by
        simp [String.toBytes]
      rw [escapeUnits_of_plain h5 h8 h12 hu', hbytes, List.length_map,
        go_plain fuel rest _ (plain_of_utf8 (hq ·) (hs ·) fun h => hu' (.inl h))]

theorem length_escapeUnits_le (c : Char) :
    (escapeUnits c).length ≤ (escapeChar c).toBytes.length := by
  unfold escapeChar
  split
  · decide
  · decide
  · decide
  · decide
  · decide
  · rename_i hq hs hn hr ht
    have h5 : ¬(c = '"' ∨ c = '\\' ∨ c = '\n' ∨ c = '\r' ∨ c = '\t') := by
      simp only [not_or]
      exact ⟨hq, hs, hn, hr, ht⟩
    split_ifs with h8 h12 hu
    · rw [escapeUnits_of_short (by simp [h8]), List.length_singleton]
      decide
    · rw [escapeUnits_of_short (by simp [h12]), List.length_singleton]
      decide
    · rw [escapeUnits_of_unicode h5 h8 h12 (by simpa [or_assoc] using hu), String.toBytes_append,
        List.length_append, List.length_singleton]
      have h2 : ("\\u" : String).toBytes.length = 2 := rfl
      omega
    · rw [escapeUnits_of_plain h5 h8 h12 (by simpa [or_assoc] using hu), List.length_map]
      simp [String.toBytes]

/-- The escaped form of a string's characters is read as their units. -/
theorem go_escaped (cs : List Char) : ∀ fuel acc,
    readString.go (fuel + (cs.flatMap escapeUnits).length) acc
        ((String.join (cs.map escapeChar)).toBytes ++ rest) =
      readString.go fuel ((cs.flatMap escapeUnits).reverse ++ acc) rest := by
  induction cs with
  | nil => intro fuel acc; rfl
  | cons c cs ih =>
    intro fuel acc
    rw [List.flatMap_cons, List.length_append, List.map_cons, String.join_cons, String.toBytes_append,
      List.append_assoc, Nat.add_comm (escapeUnits c).length, ← Nat.add_assoc, go_escapeChar, ih,
      List.reverse_append, List.append_assoc]

end Reader

theorem length_escaped_le (cs : List Char) :
    (cs.flatMap escapeUnits).length ≤ (String.join (cs.map escapeChar)).toBytes.length := by
  induction cs with
  | nil => simp
  | cons c cs ih =>
    rw [List.flatMap_cons, List.length_append, List.map_cons, String.join_cons,
      String.toBytes_append, List.length_append]
    have := length_escapeUnits_le c
    omega

/-! ### Joining the units -/

/-- The units of a character: the character itself, a code below the surrogates, or its
octets. -/
theorem escapeUnits_cases (c : Char) :
    escapeUnits c = [.char c] ∨ (c.toNat < 0xD800 ∧ escapeUnits c = [.unit16 c.toNat]) ∨
      escapeUnits c = (String.utf8EncodeChar c).map .raw := by
  unfold escapeUnits
  split_ifs with hshort hu
  · exact .inl rfl
  · exact .inr (.inl ⟨by omega, rfl⟩)
  · exact .inr (.inr rfl)

theorem joinUnits_raws (bs : Bytes) : ∀ (pending : Bytes) (rest : List StrUnit),
    joinUnits pending (bs.map .raw ++ rest) = joinUnits (bs.reverse ++ pending) rest := by
  induction bs with
  | nil => intro pending rest; rfl
  | cons b bs ih =>
    intro pending rest
    rw [List.map_cons, List.cons_append, joinUnits, ih]
    simp

/-- A code below the surrogates is read as its character. -/
theorem joinUnits_unit16 {n : Nat} (hn : n < 0xD800) (pending : Bytes) (rest : List StrUnit) :
    joinUnits pending (.unit16 n :: rest) = flushRaw pending ++ Char.ofNat n :: joinUnits [] rest := by
  have hsingle : ¬((decide (0xD800 ≤ n) && decide (n < 0xE000)) = true) := by
    simp only [Bool.and_eq_true, decide_eq_true_eq, not_and, not_lt]
    omega
  rw [joinUnits.eq_def]
  dsimp only
  split
  · rw [if_neg (by simp; omega), if_neg hsingle]
  · rw [if_neg hsingle]

theorem flushRaw_utf8 (ps : List Char) : flushRaw (ps.flatMap String.utf8EncodeChar).reverse = ps := by
  have h := Bytes.toText_toBytes (String.ofList ps)
  rw [String.toBytes, String.toList_ofList] at h
  rw [flushRaw, List.reverse_reverse, h, String.toList_ofList]

/-- Joining the units of escaped characters gives the characters back, after those whose octets
are still pending. -/
theorem joinUnits_escapeUnits (cs : List Char) : ∀ ps : List Char,
    joinUnits (ps.flatMap String.utf8EncodeChar).reverse (cs.flatMap escapeUnits) = ps ++ cs := by
  induction cs with
  | nil =>
    intro ps
    rw [List.flatMap_nil, joinUnits, flushRaw_utf8, List.append_nil]
  | cons c cs ih =>
    intro ps
    rw [List.flatMap_cons]
    rcases escapeUnits_cases c with h | ⟨hn, h⟩ | h <;> rw [h]
    · rw [List.singleton_append, joinUnits, flushRaw_utf8,
        show joinUnits [] (cs.flatMap escapeUnits) = cs from ih []]
    · rw [List.singleton_append, joinUnits_unit16 hn, flushRaw_utf8,
        show joinUnits [] (cs.flatMap escapeUnits) = cs from ih [], Char.ofNat_toNat]
    · have hps : (String.utf8EncodeChar c).reverse ++ (ps.flatMap String.utf8EncodeChar).reverse =
          ((ps ++ [c]).flatMap String.utf8EncodeChar).reverse := by
        simp
      rw [joinUnits_raws, hps, ih (ps ++ [c])]
      simp

/-- A string's escaped characters followed by the closing quote read back as the string. -/
theorem readString_escaped (s : String) (rest : Bytes) :
    readString ((String.join (s.toList.map escapeChar)).toBytes ++ 0x22 :: rest) = .ok (s, rest) := by
  have hlen := length_escaped_le s.toList
  obtain ⟨k, hk⟩ : ∃ k, ((String.join (s.toList.map escapeChar)).toBytes ++ 0x22 :: rest).length + 1 =
      (k + 1) + (s.toList.flatMap escapeUnits).length :=
    ⟨(String.join (s.toList.map escapeChar)).toBytes.length + rest.length + 1 -
      (s.toList.flatMap escapeUnits).length, by rw [List.length_append, List.length_cons]; omega⟩
  have hjoin := joinUnits_escapeUnits s.toList []
  simp only [List.flatMap_nil, List.reverse_nil, List.nil_append] at hjoin
  unfold readString
  rw [hk, go_escaped]
  simp only [readString.go, List.append_nil, List.reverse_reverse, ↓reduceIte, pure, Except.pure,
    hjoin, String.ofList_toList]

end HttpMock.Json
