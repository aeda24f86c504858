/-! Raw text: octets that need not be valid UTF-8, and their view as characters and stray octets. -/
namespace HttpMock

/-- Raw text, one octet per element. -/
abbrev Bytes := List UInt8

end HttpMock

/-- The UTF-8 encoding of a string. -/
def String.toBytes (s : String) : HttpMock.Bytes := s.toList.flatMap String.utf8EncodeChar

namespace HttpMock

instance : Coe String Bytes := ⟨String.toBytes⟩

namespace Bytes

/-- One unit of the UTF-8 view: a decoded character, or an octet that starts no valid encoding. -/
inductive Piece where
  | char (c : Char)
  | stray (b : UInt8)
  deriving DecidableEq, Repr, Inhabited

/-- A continuation octet: `10xxxxxx`. -/
def isTail (b : UInt8) : Bool := 0x80 ≤ b && b ≤ 0xBF

/-- The octets of a piece. -/
def Piece.toBytes : Piece → Bytes
  | .char c => String.utf8EncodeChar c
  | .stray b => [b]

/-- The character a piece reads as; a stray octet reads as U+FFFD. -/
def Piece.toChar : Piece → Char
  | .char c => c
  | .stray _ => '�'

private def cp2 (b0 b1 : UInt8) : Nat := (b0.toNat % 32) * 64 + b1.toNat % 64

private def cp3 (b0 b1 b2 : UInt8) : Nat := ((b0.toNat % 16) * 64 + b1.toNat % 64) * 64 + b2.toNat % 64

private def cp4 (b0 b1 b2 b3 : UInt8) : Nat :=
  (((b0.toNat % 8) * 64 + b1.toNat % 64) * 64 + b2.toNat % 64) * 64 + b3.toNat % 64

/-- The character a valid encoding of the given code point stands for. -/
private def charOf (n : Nat) : Char := Char.ofNat n

/-- The UTF-8 view. The ranges are those of RFC 3629: no overlong form, no surrogate, nothing
above U+10FFFF; an octet that starts no valid encoding is a stray octet of its own. -/
def pieces : Bytes → List Piece
  | [] => []
  | b0 :: r =>
    if b0 < 0x80 then .char (charOf b0.toNat) :: pieces r
    else if 0xC2 ≤ b0 && b0 ≤ 0xDF then
      match _h : r with
      | b1 :: r1 => if isTail b1 then .char (charOf (cp2 b0 b1)) :: pieces r1
                    else .stray b0 :: pieces r
      | [] => [.stray b0]
    else if 0xE0 ≤ b0 && b0 ≤ 0xEF then
      match _h : r with
      | b1 :: b2 :: r2 =>
        let lo : UInt8 := if b0 = 0xE0 then 0xA0 else 0x80
        let hi : UInt8 := if b0 = 0xED then 0x9F else 0xBF
        if lo ≤ b1 && b1 ≤ hi && isTail b2 then .char (charOf (cp3 b0 b1 b2)) :: pieces r2
        else .stray b0 :: pieces r
      | _ => .stray b0 :: pieces r
    else if 0xF0 ≤ b0 && b0 ≤ 0xF4 then
      match _h : r with
      | b1 :: b2 :: b3 :: r3 =>
        let lo : UInt8 := if b0 = 0xF0 then 0x90 else 0x80
        let hi : UInt8 := if b0 = 0xF4 then 0x8F else 0xBF
        if lo ≤ b1 && b1 ≤ hi && isTail b2 && isTail b3 then
          .char (charOf (cp4 b0 b1 b2 b3)) :: pieces r3
        else .stray b0 :: pieces r
      | _ => .stray b0 :: pieces r
    else .stray b0 :: pieces r
termination_by bs => bs.length
decreasing_by all_goals (subst_vars; simp only [List.length_cons]; omega)

/-- Writes pieces back as octets. -/
def ofPieces (ps : List Piece) : Bytes := ps.flatMap Piece.toBytes

theorem pieces_cons_of_lt {b : UInt8} (h : b < 0x80) (r : Bytes) :
    pieces (b :: r) = .char (Char.ofNat b.toNat) :: pieces r := by
  rw [pieces.eq_def]
  dsimp only
  rw [if_pos h]
  rfl

/-- ASCII text reads as one character per octet. -/
theorem pieces_of_ascii {bs : Bytes} (h : ∀ b ∈ bs, b < 0x80) :
    pieces bs = bs.map fun b => .char (Char.ofNat b.toNat) := by
  induction bs with
  | nil => simp [pieces]
  | cons b bs ih =>
    rw [pieces_cons_of_lt (h b List.mem_cons_self), ih (fun x hx => h x (List.mem_cons_of_mem _ hx)),
      List.map_cons]

/-- The encoding of a character reads back as that character, whatever follows it. -/
theorem pieces_utf8EncodeChar_append (c : Char) (rest : Bytes) :
    pieces (String.utf8EncodeChar c ++ rest) = .char c :: pieces rest := by
  have hvalid : c.toNat < 0xD800 ∨ (0xDFFF < c.toNat ∧ c.toNat < 0x110000) := c.valid
  have hc : Char.ofNat c.toNat = c := Char.ofNat_toNat c
  have hv : c.val.toNat = c.toNat := rfl
  simp only [String.utf8EncodeChar, hv]
  -- one case per length of the encoding; each octet is read back from its code point by `omega`
  split
  · rename_i h1
    have hb := UInt8.toNat_ofNat_of_lt' (show c.toNat < 256 by omega)
    rw [List.singleton_append, pieces_cons_of_lt (by simp [UInt8.lt_iff_toNat_lt]; omega), hb, hc]
  split
  · rename_i h1 h2
    have hb0 := UInt8.toNat_ofNat_of_lt' (show c.toNat / 64 % 32 + 0xc0 < 256 by omega)
    have hb1 := UInt8.toNat_ofNat_of_lt' (show c.toNat % 64 + 0x80 < 256 by omega)
    rw [List.cons_append, List.singleton_append, pieces.eq_def]
    dsimp only
    rw [if_neg (by simp [UInt8.lt_iff_toNat_lt]; omega),
      if_pos (by simp [UInt8.le_iff_toNat_le]; omega)]
    rw [if_pos (by simp [isTail, UInt8.le_iff_toNat_le]; omega)]
    have hcp : cp2 (UInt8.ofNat (c.toNat / 64 % 32 + 0xc0)) (UInt8.ofNat (c.toNat % 64 + 0x80)) =
        c.toNat := by
      simp only [cp2, hb0, hb1]
      omega
    simp only [charOf, hcp, hc]
  split
  · rename_i h1 h2 h3
    have hb0 := UInt8.toNat_ofNat_of_lt' (show c.toNat / 4096 % 16 + 0xe0 < 256 by omega)
    have hb1 := UInt8.toNat_ofNat_of_lt' (show c.toNat / 64 % 64 + 0x80 < 256 by omega)
    have hb2 := UInt8.toNat_ofNat_of_lt' (show c.toNat % 64 + 0x80 < 256 by omega)
    rw [List.cons_append, List.cons_append, List.singleton_append, pieces.eq_def]
    dsimp only
    rw [if_neg (by simp [UInt8.lt_iff_toNat_lt]; omega),
      if_neg (by simp [UInt8.le_iff_toNat_le]; omega),
      if_pos (by simp [UInt8.le_iff_toNat_le]; omega)]
    rw [if_pos]
    · have hcp : cp3 (UInt8.ofNat (c.toNat / 4096 % 16 + 0xe0))
          (UInt8.ofNat (c.toNat / 64 % 64 + 0x80)) (UInt8.ofNat (c.toNat % 64 + 0x80)) =
          c.toNat := by
        simp only [cp3, hb0, hb1, hb2]
        omega
      simp only [charOf, hcp, hc]
    · simp only [isTail, Bool.and_eq_true, decide_eq_true_eq, UInt8.le_iff_toNat_le,
        ← UInt8.toNat_inj, hb0, hb1, hb2]
      split <;> split <;> simp at * <;> omega
  · have hb0 := UInt8.toNat_ofNat_of_lt' (show c.toNat / 262144 % 8 + 0xf0 < 256 by omega)
    have hb1 := UInt8.toNat_ofNat_of_lt' (show c.toNat / 4096 % 64 + 0x80 < 256 by omega)
    have hb2 := UInt8.toNat_ofNat_of_lt' (show c.toNat / 64 % 64 + 0x80 < 256 by omega)
    have hb3 := UInt8.toNat_ofNat_of_lt' (show c.toNat % 64 + 0x80 < 256 by omega)
    rw [List.cons_append, List.cons_append, List.cons_append, List.singleton_append, pieces.eq_def]
    dsimp only
    rw [if_neg (by simp [UInt8.lt_iff_toNat_lt]; omega),
      if_neg (by simp [UInt8.le_iff_toNat_le]; omega),
      if_neg (by simp [UInt8.le_iff_toNat_le]; omega),
      if_pos (by simp [UInt8.le_iff_toNat_le]; omega)]
    rw [if_pos]
    · have hcp : cp4 (UInt8.ofNat (c.toNat / 262144 % 8 + 0xf0))
          (UInt8.ofNat (c.toNat / 4096 % 64 + 0x80)) (UInt8.ofNat (c.toNat / 64 % 64 + 0x80))
          (UInt8.ofNat (c.toNat % 64 + 0x80)) = c.toNat := by
        simp only [cp4, hb0, hb1, hb2, hb3]
        omega
      simp only [charOf, hcp, hc]
    · simp only [isTail, Bool.and_eq_true, decide_eq_true_eq, UInt8.le_iff_toNat_le,
        ← UInt8.toNat_inj, hb0, hb1, hb2, hb3]
      split <;> split <;> simp at * <;> omega

/-- Encoded characters read back as those characters. -/
theorem pieces_flatMap_utf8EncodeChar (cs : List Char) :
    pieces (cs.flatMap String.utf8EncodeChar) = cs.map .char := by
  induction cs with
  | nil => simp [pieces]
  | cons c cs ih => rw [List.flatMap_cons, pieces_utf8EncodeChar_append, ih, List.map_cons]

theorem ofPieces_map_char (cs : List Char) :
    ofPieces (cs.map .char) = cs.flatMap String.utf8EncodeChar := by
  simp [ofPieces, Piece.toBytes, List.flatMap_map]

@[simp] theorem ofPieces_nil : ofPieces [] = [] := rfl

@[simp] theorem ofPieces_cons (p : Piece) (ps : List Piece) :
    ofPieces (p :: ps) = p.toBytes ++ ofPieces ps := rfl

/-- An ASCII octet occurs in the encoding of a character only as the character itself. -/
theorem mem_utf8EncodeChar_ascii {b : UInt8} (hb : b.toNat < 0x80) (c : Char) :
    b ∈ String.utf8EncodeChar c ↔ c.toNat = b.toNat := by
  have hv : c.val.toNat = c.toNat := rfl
  simp only [String.utf8EncodeChar, hv]
  -- a one-octet encoding is the code point itself; every octet of a longer one is at least 0x80
  split
  · simp [← UInt8.toNat_inj]
    omega
  split
  · simp [← UInt8.toNat_inj]
    omega
  split
  · simp [← UInt8.toNat_inj]
    omega
  · simp [← UInt8.toNat_inj]
    omega

/-- A code point that is a character's value reads back as that value. -/
private theorem toNat_charOf {n : Nat} (h : n.isValidChar) : (charOf n).val.toNat = n := by
  have hc : charOf n = Char.ofNatAux n h := dif_pos h
  rw [hc]
  rfl

/-- The octets of a range test, as bounds on their values. -/
private theorem range_toNat {b : UInt8} {lo hi : UInt8} (h : (decide (lo ≤ b) && decide (b ≤ hi)) = true) :
    lo.toNat ≤ b.toNat ∧ b.toNat ≤ hi.toNat := by
  simpa [UInt8.le_iff_toNat_le] using h

private theorem isTail_toNat {b : UInt8} (h : isTail b = true) : 0x80 ≤ b.toNat ∧ b.toNat ≤ 0xBF :=
  range_toNat h

private theorem utf8EncodeChar_cp2 {b0 b1 : UInt8} (h0 : (decide (194 ≤ b0) && decide (b0 ≤ 223)) = true)
    (h1 : isTail b1 = true) : String.utf8EncodeChar (charOf (cp2 b0 b1)) = [b0, b1] := by
  have hr0 := range_toNat h0
  have hr1 := isTail_toNat h1
  simp only [UInt8.reduceToNat] at hr0
  have hv : cp2 b0 b1 = b0.toNat % 32 * 64 + b1.toNat % 64 := rfl
  have hn := toNat_charOf (n := cp2 b0 b1) (by simp only [Nat.isValidChar]; omega)
  simp only [String.utf8EncodeChar, hn]
  rw [if_neg (by omega), if_pos (by omega)]
  simp only [List.cons.injEq, ← UInt8.toNat_inj, UInt8.toNat_ofNat', and_true]
  omega

private theorem utf8EncodeChar_ascii {b : UInt8} (h : b < 0x80) :
    String.utf8EncodeChar (charOf b.toNat) = [b] := by
  have hb : b.toNat < 0x80 := UInt8.lt_iff_toNat_lt.mp h
  have hn := toNat_charOf (n := b.toNat) (by simp only [Nat.isValidChar]; omega)
  simp only [String.utf8EncodeChar, hn]
  rw [if_pos (by omega), UInt8.ofNat_toNat]

private theorem utf8EncodeChar_cp3 {b0 b1 b2 : UInt8} (h0 : (decide (224 ≤ b0) && decide (b0 ≤ 239)) = true)
    (h : (decide ((if _ : b0 = 224 then (160 : UInt8) else 128) ≤ b1) &&
      decide (b1 ≤ if _ : b0 = 237 then (159 : UInt8) else 191) && isTail b2) = true) :
    String.utf8EncodeChar (charOf (cp3 b0 b1 b2)) = [b0, b1, b2] := by
  have hr0 := range_toNat h0
  simp only [UInt8.reduceToNat] at hr0
  simp only [Bool.and_eq_true, decide_eq_true_eq] at h
  obtain ⟨⟨hlo, hhi⟩, ht⟩ := h
  have hr2 := isTail_toNat ht
  -- the second octet: no overlong form after `E0`, no surrogate after `ED`
  have hr1 : 0x80 ≤ b1.toNat ∧ b1.toNat ≤ 0xBF ∧ (b0.toNat = 0xE0 → 0xA0 ≤ b1.toNat) ∧
      (b0.toNat = 0xED → b1.toNat ≤ 0x9F) := by
    split at hlo <;> split at hhi <;> simp_all [UInt8.le_iff_toNat_le, ← UInt8.toNat_inj] <;> omega
  have hv : cp3 b0 b1 b2 = (b0.toNat % 16 * 64 + b1.toNat % 64) * 64 + b2.toNat % 64 := rfl
  have hn := toNat_charOf (n := cp3 b0 b1 b2) (by simp only [Nat.isValidChar]; omega)
  simp only [String.utf8EncodeChar, hn]
  rw [if_neg (by omega), if_neg (by omega), if_pos (by omega)]
  simp only [List.cons.injEq, ← UInt8.toNat_inj, UInt8.toNat_ofNat', and_true]
  omega

private theorem utf8EncodeChar_cp4 {b0 b1 b2 b3 : UInt8}
    (h0 : (decide (240 ≤ b0) && decide (b0 ≤ 244)) = true)
    (h : (decide ((if _ : b0 = 240 then (144 : UInt8) else 128) ≤ b1) &&
      decide (b1 ≤ if _ : b0 = 244 then (143 : UInt8) else 191) && isTail b2 && isTail b3) = true) :
    String.utf8EncodeChar (charOf (cp4 b0 b1 b2 b3)) = [b0, b1, b2, b3] := by
  have hr0 := range_toNat h0
  simp only [UInt8.reduceToNat] at hr0
  simp only [Bool.and_eq_true, decide_eq_true_eq] at h
  obtain ⟨⟨⟨hlo, hhi⟩, ht2⟩, ht3⟩ := h
  have hr2 := isTail_toNat ht2
  have hr3 := isTail_toNat ht3
  -- the second octet: no overlong form after `F0`, nothing above U+10FFFF after `F4`
  have hr1 : 0x80 ≤ b1.toNat ∧ b1.toNat ≤ 0xBF ∧ (b0.toNat = 0xF0 → 0x90 ≤ b1.toNat) ∧
      (b0.toNat = 0xF4 → b1.toNat ≤ 0x8F) := by
    split at hlo <;> split at hhi <;> simp_all [UInt8.le_iff_toNat_le, ← UInt8.toNat_inj] <;> omega
  have hv : cp4 b0 b1 b2 b3 =
      ((b0.toNat % 8 * 64 + b1.toNat % 64) * 64 + b2.toNat % 64) * 64 + b3.toNat % 64 := rfl
  have hn := toNat_charOf (n := cp4 b0 b1 b2 b3) (by simp only [Nat.isValidChar]; omega)
  simp only [String.utf8EncodeChar, hn]
  rw [if_neg (by omega), if_neg (by omega), if_neg (by omega)]
  simp only [List.cons.injEq, ← UInt8.toNat_inj, UInt8.toNat_ofNat', and_true]
  omega

/-- Writing the pieces of raw text back gives the text. -/
theorem ofPieces_pieces (bs : Bytes) : ofPieces (pieces bs) = bs := by
  fun_induction pieces bs with
  | case1 => rfl
  | case2 b0 r h ih => rw [ofPieces_cons, ih, Piece.toBytes, utf8EncodeChar_ascii h]; rfl
  | case3 b0 _ h0 b1 r1 h1 ih => rw [ofPieces_cons, ih, Piece.toBytes, utf8EncodeChar_cp2 h0 h1]; rfl
  | case4 b0 _ _ b1 r1 _ ih => rw [ofPieces_cons, ih]; rfl
  | case5 => rfl
  | case6 b0 _ _ h0 b1 b2 r2 lo hi h ih =>
    rw [ofPieces_cons, ih, Piece.toBytes, utf8EncodeChar_cp3 h0 h]; rfl
  | case7 b0 _ _ _ b1 b2 r2 _ _ _ ih => rw [ofPieces_cons, ih]; rfl
  | case8 b0 r _ _ _ _ ih => rw [ofPieces_cons, ih]; rfl
  | case9 b0 _ _ _ h0 b1 b2 b3 r3 lo hi h ih =>
    rw [ofPieces_cons, ih, Piece.toBytes, utf8EncodeChar_cp4 h0 h]; rfl
  | case10 b0 _ _ _ _ b1 b2 b3 r3 _ _ _ ih => rw [ofPieces_cons, ih]; rfl
  | case11 b0 r _ _ _ _ _ ih => rw [ofPieces_cons, ih]; rfl
  | case12 b0 r _ _ _ _ ih => rw [ofPieces_cons, ih]; rfl

/-- Whether the octets are valid UTF-8: no piece is a stray octet. -/
def isUtf8 (bs : Bytes) : Bool := (pieces bs).all fun p => match p with
  | .char _ => true
  | .stray _ => false

/-- Pieces none of which is a stray octet are the pieces of some characters. -/
private theorem exists_chars_of_all {ps : List Piece} (h : (ps.all fun p => match p with
    | .char _ => true
    | .stray _ => false) = true) : ∃ cs : List Char, ps = cs.map .char := by
  induction ps with
  | nil => exact ⟨[], rfl⟩
  | cons p ps ih =>
    simp only [List.all_cons, Bool.and_eq_true] at h
    obtain ⟨cs, hcs⟩ := ih h.2
    cases p with
    | char c => exact ⟨c :: cs, by rw [hcs, List.map_cons]⟩
    | stray b => simp at h

/-- Valid UTF-8 is exactly the encoding of some characters. -/
theorem isUtf8_iff {bs : Bytes} :
    isUtf8 bs = true ↔ ∃ cs : List Char, bs = cs.flatMap String.utf8EncodeChar := by
  constructor
  · intro h
    obtain ⟨cs, hcs⟩ := exists_chars_of_all h
    exact ⟨cs, by rw [← ofPieces_map_char, ← hcs, ofPieces_pieces]⟩
  · rintro ⟨cs, rfl⟩
    simp [isUtf8, pieces_flatMap_utf8EncodeChar]

/-- The text of raw octets, each stray octet read as U+FFFD. -/
def toText (bs : Bytes) : String := String.ofList ((pieces bs).map Piece.toChar)

/-- The raw text with every stray octet replaced by the encoding of U+FFFD. -/
def scrub (bs : Bytes) : Bytes := (toText bs).toBytes

/-- Whether an octet begins a character: it is not a continuation octet. -/
def isRuneStart (b : UInt8) : Bool := !isTail b

/-- Whether `p` is a prefix of `bs`. -/
def startsWith (bs p : Bytes) : Bool := p.isPrefixOf bs

/-- Whether `s` is a suffix of `bs`. -/
def endsWith (bs s : Bytes) : Bool := s.isSuffixOf bs

/-- Whether `p` occurs in `bs`. -/
def hasInfix (bs p : Bytes) : Bool :=
  match bs with
  | [] => p.isEmpty
  | b :: r => p.isPrefixOf (b :: r) || hasInfix r p

/-- Splits at the first occurrence of octet `sep`: the part before it and, if `sep` occurs,
the part after it. -/
def cut (bs : Bytes) (sep : UInt8) : Bytes × Option Bytes :=
  match bs with
  | [] => ([], none)
  | b :: r =>
    if b = sep then ([], some r)
    else
      let (front, back) := cut r sep
      (b :: front, back)

/-- The parts between occurrences of octet `sep`; there is always at least one part. -/
def splitAt (bs : Bytes) (sep : UInt8) : List Bytes := bs.splitOn sep

/-- Where `sep` occurs, the text is what comes before its first occurrence, `sep`, and the rest. -/
theorem eq_of_cut_eq_some {bs front back : Bytes} {sep : UInt8} (h : cut bs sep = (front, some back)) :
    bs = front ++ sep :: back ∧ sep ∉ front := by
  induction bs generalizing front with
  | nil => simp [cut] at h
  | cons b r ih =>
    by_cases hb : b = sep
    · simp only [cut, hb, if_true, Prod.mk.injEq, Option.some.injEq] at h
      obtain ⟨rfl, rfl⟩ := h
      simp [hb]
    · rcases hc : cut r sep with ⟨f, bk⟩
      simp only [cut, hb, if_false, hc, Prod.mk.injEq] at h
      obtain ⟨rfl, rfl⟩ := h
      obtain ⟨hr, hsep⟩ := ih hc
      exact ⟨by rw [hr, List.cons_append], by simp [hsep, Ne.symm hb]⟩

/-- Where `sep` does not occur, the text is left whole. -/
theorem not_mem_of_cut_eq_none {bs front : Bytes} {sep : UInt8} (h : cut bs sep = (front, none)) :
    sep ∉ bs ∧ front = bs := by
  induction bs generalizing front with
  | nil => simpa [cut] using h.symm
  | cons b r ih =>
    by_cases hb : b = sep
    · simp [cut, hb] at h
    · rcases hc : cut r sep with ⟨f, bk⟩
      simp only [cut, hb, if_false, hc, Prod.mk.injEq] at h
      obtain ⟨rfl, rfl⟩ := h
      obtain ⟨hr, rfl⟩ := ih hc
      exact ⟨by simp [hr, Ne.symm hb], rfl⟩

/-- Splits at the first occurrence of the non-empty text `sep`. -/
def cutText (bs sep : Bytes) : Bytes × Option Bytes :=
  match bs with
  | [] => ([], none)
  | b :: r =>
    if sep ≠ [] && sep.isPrefixOf bs then ([], some (bs.drop sep.length))
    else
      let (front, back) := cutText r sep
      (b :: front, back)

/-- Replaces every occurrence of the non-empty text `pat`, scanning left to right without
overlap. -/
def replaceAll (bs pat rep : Bytes) : Bytes :=
  match pat with
  | [] => bs
  | _ =>
    let rec go (fuel : Nat) (xs : Bytes) : Bytes :=
      match fuel, xs with
      | 0, _ => xs
      | _, [] => []
      | fuel + 1, x :: rest =>
        if pat.isPrefixOf (x :: rest) then rep ++ go fuel ((x :: rest).drop pat.length)
        else x :: go fuel rest
    go bs.length bs

/-- ASCII lower case. -/
def asciiLower (b : UInt8) : UInt8 := if 0x41 ≤ b && b ≤ 0x5A then b + 32 else b

/-- ASCII upper case. -/
def asciiUpper (b : UInt8) : UInt8 := if 0x61 ≤ b && b ≤ 0x7A then b - 32 else b

/-- The hexadecimal digit of `n < 16`, in lower or upper case. -/
def hexDigit (n : Nat) (upper : Bool := false) : Char :=
  if n < 10 then Char.ofNat (48 + n)
  else if upper then Char.ofNat (55 + n) else Char.ofNat (87 + n)

/-- Two hexadecimal digits of an octet. -/
def hexPair (b : UInt8) (upper : Bool := false) : String :=
  String.ofList [hexDigit (b.toNat / 16) upper, hexDigit (b.toNat % 16) upper]

/-- The value of a hexadecimal digit octet, in either case. -/
def hexValue? (b : UInt8) : Option Nat :=
  if 0x30 ≤ b && b ≤ 0x39 then some (b.toNat - 0x30)
  else if 0x61 ≤ b && b ≤ 0x66 then some (b.toNat - 0x61 + 10)
  else if 0x41 ≤ b && b ≤ 0x46 then some (b.toNat - 0x41 + 10)
  else none

/-- Bytewise order of raw texts, as a Boolean test for sorting. -/
def le (a b : Bytes) : Bool := decide (a ≤ b)

end Bytes

end HttpMock
