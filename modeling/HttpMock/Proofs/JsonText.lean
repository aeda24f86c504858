import Mathlib
import HttpMock.Proofs.NumberText
import HttpMock.Proofs.StringText
/-! Compact JSON text read back: the reader gets from the text of every value the encoder accepts
that value with its numbers as literals and its members in name order (`parse_compact`). -/
namespace HttpMock.Json

/-! ### Induction over values -/

/-- Induction over JSON values, with the hypothesis for every item of an array and for every
member value of an object. -/
theorem induction {motive : Json → Prop} (null : motive .null) (bool : ∀ b, motive (.bool b))
    (number : ∀ t, motive (.number t)) (float : ∀ x, motive (.float x))
    (string : ∀ s, motive (.string s)) (array : ∀ xs, (∀ x ∈ xs, motive x) → motive (.array xs))
    (object : ∀ ms, (∀ kv ∈ ms, motive kv.2) → motive (.object ms)) (v : Json) : motive v :=
  @Json.rec motive (fun xs => ∀ x ∈ xs, motive x) (fun ms => ∀ kv ∈ ms, motive kv.2)
    (fun kv => motive kv.2) null bool number float string array object
    (fun _ h => absurd h List.not_mem_nil)
    (fun _ _ hx hxs y hy => (List.mem_cons.1 hy).elim (fun h => h ▸ hx) (hxs y))
    (fun _ h => absurd h List.not_mem_nil)
    (fun _ _ hkv hms q hq => (List.mem_cons.1 hq).elim (fun h => h ▸ hkv) (hms q))
    (fun _ _ h => h) v

/-! ### The written text -/

/-- Members in name order, as the writer puts them. -/
def sortByName (ms : List (String × Json)) : List (String × Json) :=
  ms.mergeSort fun a b => decide (a.1 ≤ b.1)

/-- The text of one member of an object. -/
def memberText (kv : String × Json) : String := quote kv.1 ++ ":" ++ compact kv.2

theorem compactItems_eq (xs : List Json) : compactItems true xs = xs.map compact := by
  induction xs with
  | nil => rfl
  | cons x xs ih => rw [compactItems, ih]; rfl

theorem compactMembers_eq (ms : List (String × Json)) :
    compactMembers true ms = ms.map fun kv => (kv.1, compact kv.2) := by
  induction ms with
  | nil => rfl
  | cons kv ms ih => rw [compactMembers, ih]; rfl

theorem compact_array (xs : List Json) :
    compact (.array xs) = "[" ++ ",".intercalate (xs.map compact) ++ "]" := by
  rw [compact, compactWith, compactItems_eq]

theorem compact_object (ms : List (String × Json)) :
    compact (.object ms) = "\x7b" ++ ",".intercalate ((sortByName ms).map memberText) ++ "\x7d" := by
  have hsort : sortMembers (compactMembers true ms) =
      (sortByName ms).map fun kv => (kv.1, compact kv.2) := by
    rw [compactMembers_eq, sortMembers, sortByName, List.map_mergeSort]
    intro a _ b _
    rfl
  rw [compact, compactWith]
  dsimp only
  rw [if_pos rfl, hsort, List.map_map]
  rfl

/-! ### Values the encoder accepts -/

theorem unsupportedItems?_eq_none_iff (xs : List Json) :
    unsupportedItems? xs = none ↔ ∀ x ∈ xs, unsupported? x = none := by
  induction xs with
  | nil => simp [unsupportedItems?]
  | cons x xs ih => simp [unsupportedItems?, ih]

theorem memberProblems_eq (ms : List (String × Json)) :
    memberProblems ms = ms.map fun kv => (kv.1, unsupported? kv.2) := by
  induction ms with
  | nil => rfl
  | cons kv ms ih => rw [memberProblems, ih]; rfl

theorem unsupported?_object_eq_none_iff (ms : List (String × Json)) :
    unsupported? (.object ms) = none ↔ ∀ kv ∈ ms, unsupported? kv.2 = none := by
  rw [unsupported?, List.findSome?_eq_none_iff, memberProblems_eq]
  constructor
  · intro h kv hkv
    exact h _ (List.mem_mergeSort.2 (List.mem_map_of_mem hkv))
  · intro h p hp
    obtain ⟨kv, hkv, rfl⟩ := List.mem_map.1 (List.mem_mergeSort.1 hp)
    exact h kv hkv

/-! ### What the reader gets -/

/-- Members set into an object one after another, as the reader does. -/
def setMembers (acc ms : List (String × Json)) : List (String × Json) :=
  ms.foldl (fun acc kv => setMember acc kv.1 kv.2) acc

mutual
/-- The value the reader gets from the compact text of a value: numbers as the literals they are
written as (a float without a literal as `null`), members in name order, and of members with one
name the last value, in the place of the first. -/
def readBack : Json → Json
  | .number t => .number (numberText (.number t))
  | .float x =>
    match Decimal.jsonText? x with
    | some t => .number t
    | none => .null
  | .array xs => .array (readBackItems xs)
  | .object ms => .object (setMembers [] (sortByName (readBackMembers ms)))
  | v => v
/-- `readBack` on array items. -/
def readBackItems : List Json → List Json
  | [] => []
  | x :: xs => readBack x :: readBackItems xs
/-- `readBack` on member values. -/
def readBackMembers : List (String × Json) → List (String × Json)
  | [] => []
  | (k, v) :: ms => (k, readBack v) :: readBackMembers ms
end

theorem readBackItems_eq (xs : List Json) : readBackItems xs = xs.map readBack := by
  induction xs with
  | nil => rfl
  | cons x xs ih => rw [readBackItems, ih]; rfl

theorem readBackMembers_eq (ms : List (String × Json)) :
    readBackMembers ms = ms.map fun kv => (kv.1, readBack kv.2) := by
  induction ms with
  | nil => rfl
  | cons kv ms ih => rw [readBackMembers, ih]; rfl

theorem readBack_object (ms : List (String × Json)) :
    readBack (.object ms) =
      .object (setMembers [] ((sortByName ms).map fun kv => (kv.1, readBack kv.2))) := by
  rw [readBack, readBackMembers_eq, sortByName, sortByName, List.map_mergeSort]
  intro a _ b _
  rfl

/-! ### Reading one value -/

theorem skipSpace_cons {b : UInt8} (r : Bytes) (hb : isSpace b = false) :
    skipSpace (b :: r) = b :: r := by
  simp [skipSpace, hb]

theorem readWord_append (name : String) (w rest : Bytes) : readWord name w (w ++ rest) = .ok rest := by
  induction w with
  | nil => rfl
  | cons b w ih => simp [readWord, ih]

/-- The octet a number literal starts with is none of those that start another value. -/
theorem numberStart_ne {b : UInt8} (hb : b = 0x2D ∨ isDigit b = true) :
    isSpace b = false ∧ b ≠ 0x5D ∧ b ≠ 0x7B ∧ b ≠ 0x5B ∧ b ≠ 0x22 := by
  rcases hb with rfl | hb
  · decide
  · have hne : ∀ c : UInt8, isDigit c = false → b ≠ c := by
      rintro c hc rfl
      rw [hb] at hc
      cases hc
    refine ⟨?_, hne _ rfl, hne _ rfl, hne _ rfl, hne _ rfl⟩
    cases hs : isSpace b
    · rfl
    · simp only [isSpace, Bool.or_eq_true, decide_eq_true_eq] at hs
      rcases hs with ((rfl | rfl) | rfl) | rfl <;> cases hb

theorem readValue_literal {t : String} {rest : Bytes} (ht : isNumberLiteral t) (hend : NumberEnd rest)
    (fuel : Nat) : readValue false (fuel + 1) (t.toBytes ++ rest) = .ok (.number t, rest) := by
  obtain ⟨b, r, hbr, hb⟩ := isNumberLiteral_head ht
  obtain ⟨hs, -, h7B, h5B, h22⟩ := numberStart_ne hb
  have hnum : (b = 0x2D || isDigit b) = true := by
    rcases hb with rfl | hb
    · rfl
    · simp [hb]
  have hread := readNumber_literal ht hend
  rw [hbr, List.cons_append] at hread ⊢
  simp only [readValue, skipSpace_cons _ hs, h7B, h5B, h22, hnum, if_false, if_true, hread, bind,
    Except.bind, pure, Except.pure]

/-- The reader gets `readBack v` from the compact text of `v`, with any fuel beyond the text's
length and with octets after it that end a number. -/
def ReadsBack (v : Json) : Prop :=
  ∀ fuel rest, (compact v).toBytes.length < fuel → NumberEnd rest →
    readValue false fuel ((compact v).toBytes ++ rest) = .ok (readBack v, rest)

theorem ReadsBack.of_succ {v : Json}
    (h : ∀ g rest, (compact v).toBytes.length ≤ g → NumberEnd rest →
      readValue false (g + 1) ((compact v).toBytes ++ rest) = .ok (readBack v, rest)) :
    ReadsBack v := by
  intro fuel rest hlen hend
  obtain ⟨g, rfl⟩ : ∃ g, fuel = g + 1 := ⟨fuel - 1, by omega⟩
  exact h g rest (by omega) hend

theorem isNumberLiteral_numberText {t : String} (hv : unsupported? (.number t) = none) :
    isNumberLiteral (numberText (.number t)) := by
  rw [numberText]
  split
  · rfl
  · rename_i hne
    simp only [unsupported?, hne, Bool.false_or] at hv
    split at hv
    · assumption
    · cases hv

theorem toBytes_quote (s : String) :
    (quote s).toBytes = 0x22 :: ((String.join (s.toList.map escapeChar)).toBytes ++ [0x22]) := by
  rw [quote, String.toBytes_append, String.toBytes_append]
  rfl

/-- The text of a value the encoder accepts starts with an octet that is neither white space nor
a closing bracket. -/
theorem compact_head (v : Json) (hv : unsupported? v = none) :
    ∃ b r, (compact v).toBytes = b :: r ∧ isSpace b = false ∧ b ≠ 0x5D := by
  cases v with
  | null => exact ⟨_, _, rfl, rfl, by decide⟩
  | bool b => cases b <;> exact ⟨_, _, rfl, rfl, by decide⟩
  | number t =>
    obtain ⟨b, r, hbr, hb⟩ := isNumberLiteral_head (isNumberLiteral_numberText hv)
    exact ⟨b, r, hbr, (numberStart_ne hb).1, (numberStart_ne hb).2.1⟩
  | float x =>
    cases hx : Decimal.jsonText? x with
    | none =>
      have hnull : compact (.float x) = "null" := by
        simp [compact, compactWith, numberText, hx]
      exact ⟨_, _, by rw [hnull]; rfl, rfl, by decide⟩
    | some t =>
      have ht : compact (.float x) = t := by
        simp [compact, compactWith, numberText, hx]
      obtain ⟨b, r, hbr, hb⟩ := isNumberLiteral_head (isNumberLiteral_jsonText hx)
      exact ⟨b, r, by rw [ht, hbr], (numberStart_ne hb).1, (numberStart_ne hb).2.1⟩
  | string s => exact ⟨_, _, toBytes_quote s, rfl, by decide⟩
  | array xs => exact ⟨_, _, by rw [compact_array, String.toBytes_append, String.toBytes_append]; rfl,
      rfl, by decide⟩
  | object ms => exact ⟨_, _, by rw [compact_object, String.toBytes_append, String.toBytes_append]; rfl,
      rfl, by decide⟩

/-! ### Reading items and members -/

theorem toBytes_intercalate_cons_cons (a b : String) (l : List String) :
    (",".intercalate (a :: b :: l)).toBytes = a.toBytes ++ 0x2C :: (",".intercalate (b :: l)).toBytes := by
  rw [String.intercalate_cons_cons, String.toBytes_append, String.toBytes_append]
  simp only [List.append_assoc]
  rfl

/-- Items whose texts read back are read back in order, after those already read. -/
theorem readArray_items (rest : Bytes) : ∀ (xs : List Json) (x : Json) (acc : List Json)
    (first : Bool) (fuel : Nat), (∀ y ∈ x :: xs, unsupported? y = none ∧ ReadsBack y) →
    ((",".intercalate ((x :: xs).map compact)).toBytes ++ [0x5D]).length < fuel →
    readArray false fuel acc first ((",".intercalate ((x :: xs).map compact)).toBytes ++ 0x5D :: rest) =
      .ok (.array (acc.reverse ++ (x :: xs).map readBack), rest)
  | xs, x, acc, first, fuel, h, hlen => by
    obtain ⟨hx, hrx⟩ := h x List.mem_cons_self
    obtain ⟨b, r, hbr, hs, h5D⟩ := compact_head x hx
    obtain ⟨g, rfl⟩ : ∃ g, fuel = g + 1 := ⟨fuel - 1, by simp at hlen; omega⟩
    have hfirst : (first && b = 0x5D) = false := by simp [h5D]
    cases xs with
    | nil =>
      simp only [List.map_cons, List.map_nil, String.intercalate_singleton] at hlen ⊢
      have hv := hrx g (0x5D :: rest) (by simp at hlen; omega) (numberEnd_cons rest (.inr (.inl rfl)))
      rw [hbr, List.cons_append] at hv ⊢
      simp only [readArray, skipSpace_cons _ hs, hfirst, Bool.false_eq_true, if_false, hv, bind,
        Except.bind, skipSpace_cons rest (rfl : isSpace 0x5D = false), pure, Except.pure]
      simp
    | cons y ys =>
      rw [List.map_cons, List.map_cons, toBytes_intercalate_cons_cons] at hlen ⊢
      rw [← List.map_cons] at hlen ⊢
      have hv := hrx g (0x2C :: ((",".intercalate ((y :: ys).map compact)).toBytes ++ 0x5D :: rest))
        (by simp at hlen; omega) (numberEnd_cons _ (.inl rfl))
      have hrest := readArray_items rest ys y (readBack x :: acc) false g
        (fun z hz => h z (List.mem_cons_of_mem _ hz)) (by simp at hlen ⊢; omega)
      rw [List.append_assoc, List.cons_append]
      rw [hbr, List.cons_append] at hv
      rw [hbr, List.cons_append]
      simp only [readArray, skipSpace_cons _ hs, hfirst, Bool.false_eq_true, if_false, hv, bind,
        Except.bind, skipSpace_cons _ (rfl : isSpace 0x2C = false), if_true, hrest]
      simp

theorem toBytes_memberText (kv : String × Json) :
    (memberText kv).toBytes = 0x22 :: ((String.join (kv.1.toList.map escapeChar)).toBytes ++
      0x22 :: 0x3A :: (compact kv.2).toBytes) := by
  rw [memberText, String.toBytes_append, String.toBytes_append, toBytes_quote]
  simp only [List.cons_append, List.append_assoc]
  rfl

/-- Members whose values' texts read back are set into the object in order, after those already
read. -/
theorem readObject_members (rest : Bytes) : ∀ (ps : List (String × Json)) (p : String × Json)
    (acc : List (String × Json)) (first : Bool) (fuel : Nat),
    (∀ q ∈ p :: ps, unsupported? q.2 = none ∧ ReadsBack q.2) →
    ((",".intercalate ((p :: ps).map memberText)).toBytes ++ [0x7D]).length < fuel →
    readObject false fuel acc first
        ((",".intercalate ((p :: ps).map memberText)).toBytes ++ 0x7D :: rest) =
      .ok (.object (setMembers acc ((p :: ps).map fun kv => (kv.1, readBack kv.2))), rest)
  | ps, (k, v), acc, first, fuel, h, hlen => by
    obtain ⟨-, hrv⟩ := h (k, v) List.mem_cons_self
    dsimp only at hrv
    obtain ⟨g, rfl⟩ : ∃ g, fuel = g + 1 := ⟨fuel - 1, by simp at hlen; omega⟩
    have hfirst : (first && (0x22 : UInt8) = 0x7D) = false := by simp
    cases ps with
    | nil =>
      simp only [List.map_cons, List.map_nil, String.intercalate_singleton] at hlen ⊢
      rw [toBytes_memberText] at hlen ⊢
      have hv := hrv g (0x7D :: rest) (by simp at hlen; omega) (numberEnd_cons rest (.inr (.inr rfl)))
      simp only [List.cons_append, List.append_assoc]
      simp only [readObject, skipSpace_cons _ (rfl : isSpace 0x22 = false), hfirst,
        Bool.false_eq_true, if_false, bind, Except.bind, readString_escaped,
        skipSpace_cons _ (rfl : isSpace 0x3A = false), ne_eq, not_true_eq_false, hv,
        skipSpace_cons rest (rfl : isSpace 0x7D = false), pure, Except.pure]
      simp [setMembers]
    | cons q qs =>
      rw [List.map_cons, List.map_cons, toBytes_intercalate_cons_cons] at hlen ⊢
      rw [← List.map_cons] at hlen ⊢
      rw [toBytes_memberText] at hlen ⊢
      have hv := hrv g (0x2C :: ((",".intercalate ((q :: qs).map memberText)).toBytes ++ 0x7D :: rest))
        (by simp at hlen; omega) (numberEnd_cons _ (.inl rfl))
      have hrest := readObject_members rest qs q (setMember acc k (readBack v)) false g
        (fun z hz => h z (List.mem_cons_of_mem _ hz)) (by simp at hlen ⊢; omega)
      simp only [List.cons_append, List.append_assoc]
      simp only [readObject, skipSpace_cons _ (rfl : isSpace 0x22 = false), hfirst,
        Bool.false_eq_true, if_false, bind, Except.bind, readString_escaped,
        skipSpace_cons _ (rfl : isSpace 0x3A = false), ne_eq, not_true_eq_false, hv,
        skipSpace_cons _ (rfl : isSpace 0x2C = false), if_true, hrest]
      simp [setMembers]

/-! ### The round trip -/

mutual
/-- The compact text of every value the encoder accepts reads back. -/
theorem readsBack : ∀ v : Json, unsupported? v = none → ReadsBack v
  | .null, _ => ReadsBack.of_succ fun _ _ _ _ => rfl
  | .bool b, _ => ReadsBack.of_succ fun _ _ _ _ => by cases b <;> rfl
  | .number t, hv => ReadsBack.of_succ fun g _ _ hend =>
    readValue_literal (isNumberLiteral_numberText hv) hend g
  | .float x, _ => ReadsBack.of_succ fun g rest _ hend => by
    cases hx : Decimal.jsonText? x with
    | none =>
      have hnull : compact (.float x) = "null" := by
        simp [compact, compactWith, numberText, hx]
      rw [hnull, readBack, hx]
      rfl
    | some t =>
      have ht : compact (.float x) = t := by
        simp [compact, compactWith, numberText, hx]
      rw [ht, readBack, hx]
      exact readValue_literal (isNumberLiteral_jsonText hx) hend g
  | .string s, _ => ReadsBack.of_succ fun g rest _ _ => by
    have htext : compact (.string s) = quote s := rfl
    rw [htext, toBytes_quote, List.cons_append, List.append_assoc, List.singleton_append]
    simp only [readValue, skipSpace_cons _ (rfl : isSpace 0x22 = false), readString_escaped, bind,
      Except.bind, pure, Except.pure]
    simp [readBack]
  | .array xs, hv => ReadsBack.of_succ fun g rest hlen _ => by
    have hall := (unsupportedItems?_eq_none_iff xs).1 hv
    have hitems := readsBack_items xs hall
    have hopen : "[".toBytes = [0x5B] := rfl
    have hclose : "]".toBytes = [0x5D] := rfl
    rw [compact_array, String.toBytes_append, String.toBytes_append, hopen, hclose] at hlen ⊢
    rw [readBack, readBackItems_eq]
    cases xs with
    | nil =>
      obtain ⟨g, rfl⟩ : ∃ g', g = g' + 1 := ⟨g - 1, by simp at hlen; omega⟩
      rfl
    | cons x xs =>
      have hread := readArray_items rest xs x [] true g (fun y hy => ⟨hall y hy, hitems y hy⟩)
        (by simp at hlen ⊢; omega)
      simp only [List.append_assoc]
      exact hread
  | .object ms, hv => ReadsBack.of_succ fun g rest hlen _ => by
    have hall := (unsupported?_object_eq_none_iff ms).1 hv
    have hmembers := readsBack_members ms hall
    have hopen : "\x7b".toBytes = [0x7B] := rfl
    have hclose : "\x7d".toBytes = [0x7D] := rfl
    rw [compact_object, String.toBytes_append, String.toBytes_append, hopen, hclose] at hlen ⊢
    rw [readBack_object]
    cases hsort : sortByName ms with
    | nil =>
      obtain ⟨g, rfl⟩ : ∃ g', g = g' + 1 := ⟨g - 1, by rw [hsort] at hlen; simp at hlen; omega⟩
      rfl
    | cons p ps =>
      have hmem : ∀ q ∈ p :: ps, q ∈ ms := fun q hq => List.mem_mergeSort.1 (hsort ▸ hq)
      have hread := readObject_members rest ps p [] true g
        (fun q hq => ⟨hall q (hmem q hq), hmembers q (hmem q hq)⟩)
        (by rw [hsort] at hlen; simp at hlen ⊢; omega)
      simp only [List.append_assoc]
      exact hread
/-- The items of an accepted array read back. -/
theorem readsBack_items : ∀ xs : List Json, (∀ x ∈ xs, unsupported? x = none) → ∀ x ∈ xs, ReadsBack x
  | [], _ => fun _ hx => absurd hx List.not_mem_nil
  | x :: xs, h => fun y hy => by
    rcases List.mem_cons.1 hy with hyx | hy
    · rw [hyx]
      exact readsBack x (h x List.mem_cons_self)
    · exact readsBack_items xs (fun z hz => h z (List.mem_cons_of_mem _ hz)) y hy
/-- The member values of an accepted object read back. -/
theorem readsBack_members : ∀ ms : List (String × Json), (∀ kv ∈ ms, unsupported? kv.2 = none) →
    ∀ kv ∈ ms, ReadsBack kv.2
  | [], _ => fun _ hkv => absurd hkv List.not_mem_nil
  | (k, v) :: ms, h => fun kv hkv => by
    rcases List.mem_cons.1 hkv with hkv | hkv
    · rw [hkv]
      exact readsBack v (h (k, v) List.mem_cons_self)
    · exact readsBack_members ms (fun q hq => h q (List.mem_cons_of_mem _ hq)) kv hkv
end

/-- The reader reads the compact text of every value the encoder accepts back as `readBack` of
it. -/
theorem parse_compact (v : Json) (hv : unsupported? v = none) :
    parse (compact v).toBytes = .ok (readBack v) := by
  have hread := readsBack v hv (2 * (compact v).toBytes.length + 2) [] (by omega) numberEnd_nil
  rw [List.append_nil] at hread
  simp only [parse, parseWith, hread, bind, Except.bind, skipSpace, List.dropWhile_nil, pure,
    Except.pure]

end HttpMock.Json
