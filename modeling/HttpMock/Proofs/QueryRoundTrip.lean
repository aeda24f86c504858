import Mathlib.Data.List.Basic
import HttpMock.Proofs.Lookup
import HttpMock.Request.Normalize
/-! Written queries read back as the table they were written from. -/
namespace HttpMock

@[simp] theorem String.toBytes_append (s t : String) : (s ++ t).toBytes = s.toBytes ++ t.toBytes := by
  simp [String.toBytes]

/-- Raw text read back as text gives the text it encodes. -/
theorem Bytes.toText_toBytes (s : String) : Bytes.toText s.toBytes = s := by
  simp [Bytes.toText, String.toBytes, Bytes.pieces_flatMap_utf8EncodeChar, Function.comp_def,
    Bytes.Piece.toChar]

theorem String.toBytes_intercalate (s : String) (l : List String) :
    (s.intercalate l).toBytes = s.toBytes.intercalate (l.map String.toBytes) := by
  induction l with
  | nil => simp [String.toBytes]
  | cons t l ih =>
    cases l with
    | nil => simp
    | cons u l =>
      rw [String.intercalate_cons_cons, List.map_cons, List.map_cons, List.intercalate_cons_cons,
        String.toBytes_append, String.toBytes_append, ih, List.map_cons, List.append_assoc]

/-- Splitting at the first `sep` finds the one after a part without it. -/
theorem Bytes.cut_append_cons {u : Bytes} {sep : UInt8} (hu : sep ∉ u) (rest : Bytes) :
    (u ++ sep :: rest).cut sep = (u, some rest) := by
  induction u with
  | nil => simp [Bytes.cut]
  | cons b u ih =>
    have hb : b ≠ sep := fun h => hu (h ▸ List.mem_cons_self)
    have hrest : sep ∉ u := fun h => hu (List.mem_cons_of_mem b h)
    simp [Bytes.cut, hb, ih hrest]

/-- ASCII characters are encoded as one octet each. -/
theorem utf8EncodeChar_ofNat_ascii : ∀ n, n < 0x80 →
    String.utf8EncodeChar (Char.ofNat n) = [UInt8.ofNat n] := by
  decide +kernel

namespace Text.Percent

/-- An octet written as itself is ASCII and is none of `%`, `+`, `&` and `=`. -/
theorem isUnreserved_plain : ∀ n, n < 0x100 → isUnreserved (UInt8.ofNat n) = true →
    n < 0x80 ∧ n ≠ 0x25 ∧ n ≠ 0x2B ∧ n ≠ 0x26 ∧ n ≠ 0x3D := by
  decide +kernel

/-- The octet of an upper-case hexadecimal digit. -/
def hexOctet (n : Nat) : UInt8 := UInt8.ofNat (Bytes.hexDigit n true).toNat

theorem hexOctet_facts : ∀ n, n < 16 →
    String.utf8EncodeChar (Bytes.hexDigit n true) = [hexOctet n] ∧
      Bytes.hexValue? (hexOctet n) = some n ∧ hexOctet n ≠ 0x26 ∧ hexOctet n ≠ 0x3D := by
  decide +kernel

/-- The three written forms of an octet: itself, for a letter, a digit or one of `-_.~`; `+` for a
space; `%` and two upper-case hexadecimal digits for the rest. -/
theorem octets_encodeOctet (b : UInt8) :
    ((encodeOctet b).flatMap String.utf8EncodeChar = [b] ∧
        b ≠ 0x25 ∧ b ≠ 0x2B ∧ b ≠ 0x26 ∧ b ≠ 0x3D) ∨
      (b = 0x20 ∧ (encodeOctet b).flatMap String.utf8EncodeChar = [0x2B]) ∨
      (encodeOctet b).flatMap String.utf8EncodeChar =
        [0x25, hexOctet (b.toNat / 16), hexOctet (b.toNat % 16)] := by
  have hb : b.toNat < 0x100 := UInt8.toNat_lt_size b
  unfold encodeOctet
  split
  · rename_i hu
    have hplain := isUnreserved_plain b.toNat hb (by simpa using hu)
    refine .inl ⟨?_, ?_, ?_, ?_, ?_⟩
    · simp [utf8EncodeChar_ofNat_ascii b.toNat hplain.1]
    all_goals
      intro h
      subst h
      simp at hplain
  · split
    · rename_i hsp
      exact .inr (.inl ⟨hsp, rfl⟩)
    · refine .inr (.inr ?_)
      have hhi := (hexOctet_facts (b.toNat / 16) (by omega)).1
      have hlo := (hexOctet_facts (b.toNat % 16) (by omega)).1
      simp [hhi, hlo]
      rfl

theorem decode?_cons_of_ne {c : UInt8} (h25 : c ≠ 0x25) (h2B : c ≠ 0x2B) (rest : Bytes) :
    decode? (c :: rest) = (decode? rest).map (c :: ·) := by
  rw [decode?.eq_def]
  split <;> simp_all

/-- An octet written and read back is that octet, whatever follows it. -/
theorem decode?_encodeOctet_append (b : UInt8) (rest : Bytes) :
    decode? ((encodeOctet b).flatMap String.utf8EncodeChar ++ rest) = (decode? rest).map (b :: ·) := by
  have hb : b.toNat < 0x100 := UInt8.toNat_lt_size b
  rcases octets_encodeOctet b with ⟨hw, h25, h2B, -, -⟩ | ⟨rfl, hw⟩ | hw
  · rw [hw, List.singleton_append, decode?_cons_of_ne h25 h2B]
  · rw [hw]
    rfl
  · have hhi := hexOctet_facts (b.toNat / 16) (by omega)
    have hlo := hexOctet_facts (b.toNat % 16) (by omega)
    have hnum : UInt8.ofNat (16 * (b.toNat / 16) + b.toNat % 16) = b := by
      rw [Nat.div_add_mod, UInt8.ofNat_toNat]
    rw [hw]
    simp [decode?, hhi.2.1, hlo.2.1, hnum]

/-- No written octet holds `&` or `=`. -/
theorem sep_not_mem_encodeOctet (b : UInt8) :
    ∀ x ∈ (encodeOctet b).flatMap String.utf8EncodeChar, x ≠ 0x26 ∧ x ≠ 0x3D := by
  intro x hx
  have hb : b.toNat < 0x100 := UInt8.toNat_lt_size b
  rcases octets_encodeOctet b with ⟨hw, -, -, h26, h3D⟩ | ⟨-, hw⟩ | hw
  · rw [hw, List.mem_singleton] at hx
    subst hx
    exact ⟨h26, h3D⟩
  · rw [hw, List.mem_singleton] at hx
    subst hx
    decide
  · have hhi := hexOctet_facts (b.toNat / 16) (by omega)
    have hlo := hexOctet_facts (b.toNat % 16) (by omega)
    rw [hw] at hx
    simp only [List.mem_cons, List.not_mem_nil, or_false] at hx
    rcases hx with rfl | rfl | rfl
    · decide
    · exact hhi.2.2
    · exact hlo.2.2

theorem toBytes_encode (bs : Bytes) :
    (encode bs).toBytes = bs.flatMap fun b => (encodeOctet b).flatMap String.utf8EncodeChar := by
  simp [encode, String.toBytes, List.flatMap_assoc]

/-- Raw text written and read back is that text, whatever follows it. -/
theorem decode?_encode_append (bs rest : Bytes) :
    decode? ((encode bs).toBytes ++ rest) = (decode? rest).map (bs ++ ·) := by
  induction bs with
  | nil => simp [toBytes_encode]
  | cons b bs ih =>
    rw [toBytes_encode, List.flatMap_cons, List.append_assoc, decode?_encodeOctet_append,
      ← toBytes_encode, ih, Option.map_map]
    rfl

@[simp] theorem decodeOrKeep_encode (bs : Bytes) : decodeOrKeep (encode bs).toBytes = bs := by
  have h := decode?_encode_append bs []
  rw [List.append_nil] at h
  simp [decodeOrKeep, h, decode?]

theorem sep_not_mem_encode (bs : Bytes) : ∀ x ∈ (encode bs).toBytes, x ≠ 0x26 ∧ x ≠ 0x3D := by
  intro x hx
  rw [toBytes_encode] at hx
  obtain ⟨b, -, hb⟩ := List.mem_flatMap.1 hx
  exact sep_not_mem_encodeOctet b x hb

end Text.Percent

namespace Table

variable {α : Type}

/-- Inserting new keys, none twice, appends them in order. -/
theorem insertAll_of_nodup {t u : Table α} (h : (keyList (t ++ u)).Nodup) : t.insertAll u = t ++ u := by
  induction u generalizing t with
  | nil => simp [insertAll]
  | cons p u ih =>
    have hp : p.1 ∉ keyList t := by
      intro hmem
      simp only [keyList_append, keyList_cons] at h
      exact (List.nodup_append.1 h).2.2 _ hmem _ List.mem_cons_self rfl
    have hstep : t.insertAll (p :: u) = (t.insert p.1 p.2).insertAll u := rfl
    rw [hstep, insert_eq, if_neg hp, ih (by simpa using h)]
    simp

theorem nodup_keyList_sorted {t : Table α} (h : (keyList t).Nodup) : (keyList t.sorted).Nodup :=
  ((List.mergeSort_perm t _).map Prod.fst).nodup_iff.2 h

end Table

namespace Query

/-- Single pairs under new keys that do not end in `[]` are appended in order. -/
theorem foldl_addPair_of_single {t : Table QueryValue} {ds : List (Bytes × Bytes)}
    (hnd : (Table.keyList t ++ ds.map (·.1)).Nodup)
    (hmark : ∀ d ∈ ds, Bytes.endsWith d.1 listMark = false) :
    ds.foldl addPair t = t ++ ds.map fun d => (d.1, .single d.2) := by
  induction ds generalizing t with
  | nil => simp
  | cons d ds ih =>
    have hd : d.1 ∉ Table.keyList t := by
      intro hmem
      exact (List.nodup_append.1 hnd).2.2 _ hmem _ List.mem_cons_self rfl
    have hstep : addPair t d = t ++ [(d.1, .single d.2)] := by
      obtain ⟨k, v⟩ := d
      simp only [addPair, hmark _ List.mem_cons_self, Bool.false_eq_true, if_false]
      rw [Table.insert_eq, if_neg hd]
    rw [List.foldl_cons, hstep, ih (by simpa using hnd) (fun d' hd' => hmark d' (List.mem_cons_of_mem d hd'))]
    simp

/-- The written form of one entry with a single value. -/
def pairText (p : Bytes × QueryValue) : String :=
  Text.Percent.encode p.1 ++ "=" ++ Text.Percent.encode p.2.text

theorem toBytes_pairText (p : Bytes × QueryValue) :
    (pairText p).toBytes = (Text.Percent.encode p.1).toBytes ++ 0x3D :: (Text.Percent.encode p.2.text).toBytes := by
  rw [pairText, String.toBytes_append, String.toBytes_append, List.append_assoc]
  rfl

/-- A table of single values is written entry by entry, in key order. -/
theorem build_of_single {q : Table QueryValue} (hsingle : ∀ p ∈ q, ∃ v, p.2 = .single v) :
    build q = "&".intercalate (q.sorted.map pairText) := by
  unfold build
  dsimp only
  congr 1
  rw [List.map_eq_flatMap]
  apply List.flatMap_congr
  intro p hp
  obtain ⟨v, hv⟩ := hsingle p (Table.mem_sorted.1 hp)
  obtain ⟨k, w⟩ := p
  dsimp only at hv
  subst hv
  rfl

theorem sep_not_mem_pairText (p : Bytes × QueryValue) : 0x26 ∉ (pairText p).toBytes := by
  rw [toBytes_pairText]
  intro hmem
  rcases List.mem_append.1 hmem with h | h
  · exact (Text.Percent.sep_not_mem_encode _ _ h).1 rfl
  · rcases List.mem_cons.1 h with h | h
    · cases h
    · exact (Text.Percent.sep_not_mem_encode _ _ h).1 rfl

/-- Reading splits a written entry back into its key and value. -/
theorem splitPair_pairText (p : Bytes × QueryValue) : splitPair (pairText p).toBytes = (p.1, p.2.text) := by
  have hkey : (0x3D : UInt8) ∉ (Text.Percent.encode p.1).toBytes :=
    fun h => (Text.Percent.sep_not_mem_encode _ _ h).2 rfl
  rw [splitPair_eq, toBytes_pairText, Bytes.cut_append_cons hkey]
  simp

/-- A written table of single values splits at `&` into its written entries. -/
theorem splitAt_build {q : Table QueryValue} (hsingle : ∀ p ∈ q, ∃ v, p.2 = .single v)
    (hne : q ≠ []) : (build q).toBytes.splitAt 0x26 = q.sorted.map fun p => (pairText p).toBytes := by
  have hsorted : q.sorted ≠ [] := by
    intro h
    have hlen := congrArg List.length h
    rw [Table.sorted, List.length_mergeSort] at hlen
    exact hne (List.eq_nil_of_length_eq_zero hlen)
  have hamp : "&".toBytes = [0x26] := rfl
  rw [build_of_single hsingle, String.toBytes_intercalate, List.map_map, hamp, Bytes.splitAt,
    List.splitOn_intercalate]
  · rfl
  · intro l hl
    obtain ⟨p, -, rfl⟩ := List.mem_map.1 hl
    exact sep_not_mem_pairText p
  · simpa [List.map_eq_nil_iff] using hsorted

/-- A table of single values under keys that do not end in `[]`, written and read back, is the
table in key order. -/
theorem parse_build_eq_sorted {q : Table QueryValue} (hkeys : (Table.keyList q).Nodup)
    (hsingle : ∀ p ∈ q, ∃ v, p.2 = .single v)
    (hmark : ∀ p ∈ q, Bytes.endsWith p.1 listMark = false) :
    parse (build q).toBytes = q.sorted := by
  by_cases hq : q = []
  · subst hq
    simp [build, parse, Table.sorted, String.toBytes]
  have hsplit := splitAt_build hsingle hq
  have hnonempty : (build q).toBytes.isEmpty = false := by
    cases h : (build q).toBytes with
    | nil =>
      -- the empty text splits into one empty part, but every written entry holds `=`
      rw [h] at hsplit
      have hmem : ([] : Bytes) ∈ q.sorted.map fun p => (pairText p).toBytes := by
        rw [← hsplit]
        simp [Bytes.splitAt]
      obtain ⟨p, -, hp⟩ := List.mem_map.1 hmem
      rw [toBytes_pairText] at hp
      simp at hp
    | cons b bs => rfl
  have hpairs : (q.sorted.map fun p => (pairText p).toBytes).map splitPair =
      q.sorted.map fun p => (p.1, p.2.text) := by
    rw [List.map_map]
    exact List.map_congr_left fun p _ => splitPair_pairText p
  have hkeys' : (q.sorted.map fun p => (p.1, p.2.text)).map (·.1) = Table.keyList q.sorted := by
    simp [Table.keyList, List.map_map, Function.comp_def]
  have hnd : (Table.keyList ([] : Table QueryValue) ++
      (q.sorted.map fun p => (p.1, p.2.text)).map (·.1)).Nodup := by
    rw [Table.keyList_nil, List.nil_append, hkeys']
    exact Table.nodup_keyList_sorted hkeys
  have hmark' : ∀ d ∈ q.sorted.map (fun p => (p.1, p.2.text)), Bytes.endsWith d.1 listMark = false := by
    intro d hd
    obtain ⟨p, hp, rfl⟩ := List.mem_map.1 hd
    exact hmark p (Table.mem_sorted.1 hp)
  have hsingles : (q.sorted.map fun p => (p.1, p.2.text)).map (fun d => (d.1, QueryValue.single d.2)) =
      q.sorted := by
    rw [List.map_map]
    refine (List.map_congr_left fun p hp => ?_).trans (List.map_id _)
    obtain ⟨v, hv⟩ := hsingle p (Table.mem_sorted.1 hp)
    obtain ⟨k, w⟩ := p
    dsimp only at hv ⊢
    rw [hv]
    rfl
  unfold parse
  rw [hnonempty, if_neg Bool.false_ne_true, hsplit, hpairs, foldl_addPair_of_single hnd hmark',
    List.nil_append, hsingles]

/-- A table of single values under distinct keys that do not end in `[]` reads back from its
written query: parsing the written text gives the table in key order, and normalizing a URL
made of a URI without `?`, a `?` and the written text gives that URI and that table. This holds
for empty keys and values and for any octets in them, `&`, `=`, `+`, `%`, spaces and octets
that are not UTF-8 included. -/
theorem parse_build {q : Table QueryValue} (hkeys : (Table.keyList q).Nodup)
    (hsingle : ∀ p ∈ q, ∃ v, p.2 = .single v)
    (hmark : ∀ p ∈ q, Bytes.endsWith p.1 listMark = false) :
    parse (build q).toBytes = q.sorted ∧
      ∀ method uri : Bytes, 0x3F ∉ uri →
        ∃ r, Request.normalize method (uri ++ 0x3F :: (build q).toBytes) {} = .ok r ∧
          r.uri = uri ∧ r.queryParams = q.sorted := by
  have hparse := parse_build_eq_sorted hkeys hsingle hmark
  refine ⟨hparse, fun method uri huri => ?_⟩
  have hall : Table.insertAll [] (parse (build q).toBytes) = q.sorted := by
    rw [hparse, Table.insertAll_of_nodup (by simpa using Table.nodup_keyList_sorted hkeys)]
    rfl
  refine ⟨{ method, uri, queryParams := q.sorted }, ?_, rfl, rfl⟩
  unfold Request.normalize
  rw [Bytes.cut_append_cons huri]
  simp only [Options.headerTable, List.foldlM_nil, hall]
  rfl

/-- Values holding the separators, `+`, `%` and an octet that is not UTF-8, under a key with a
space, read back. -/
theorem parse_build_separators :
    let q : Table QueryValue :=
      [("b".toBytes, .single "x&y=z+%".toBytes), ("a b".toBytes, .single [0xFF])]
    (Table.keyList q).Nodup ∧ (∀ p ∈ q, ∃ v, p.2 = .single v) ∧
      (∀ p ∈ q, Bytes.endsWith p.1 listMark = false) ∧
      parse (build q).toBytes = q.sorted ∧
      ∀ method uri : Bytes, 0x3F ∉ uri →
        ∃ r, Request.normalize method (uri ++ 0x3F :: (build q).toBytes) {} = .ok r ∧
          r.uri = uri ∧ r.queryParams = q.sorted := by
  intro q
  have hkeys : (Table.keyList q).Nodup := by decide
  have hsingle : ∀ p ∈ q, ∃ v, p.2 = .single v := by simp [q]
  have hmark : ∀ p ∈ q, Bytes.endsWith p.1 listMark = false := by decide
  exact ⟨hkeys, hsingle, hmark, parse_build hkeys hsingle hmark⟩

end Query

end HttpMock
