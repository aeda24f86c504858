import Mathlib
import HttpMock.Proofs.JsonText
/-! Normalizing JSON data twice gives what normalizing it once gives. -/
namespace HttpMock.Json

mutual
/-- Whether a value is as a generic JSON reader gives it: every number is a binary64 value, no
literal is left. -/
def isDecoded : Json → Bool
  | .number _ => false
  | .array xs => isDecodedItems xs
  | .object ms => isDecodedMembers ms
  | _ => true
/-- `isDecoded` of every item. -/
def isDecodedItems : List Json → Bool
  | [] => true
  | x :: xs => isDecoded x && isDecodedItems xs
/-- `isDecoded` of every member value. -/
def isDecodedMembers : List (String × Json) → Bool
  | [] => true
  | (_, v) :: ms => isDecoded v && isDecodedMembers ms
end

mutual
/-- Whether every object in a value has members that `p` accepts. -/
def allObjects (p : List (String × Json) → Bool) : Json → Bool
  | .array xs => allObjectsItems p xs
  | .object ms => p ms && allObjectsMembers p ms
  | _ => true
/-- `allObjects` of every item. -/
def allObjectsItems (p : List (String × Json) → Bool) : List Json → Bool
  | [] => true
  | x :: xs => allObjects p x && allObjectsItems p xs
/-- `allObjects` of every member value. -/
def allObjectsMembers (p : List (String × Json) → Bool) : List (String × Json) → Bool
  | [] => true
  | (_, v) :: ms => allObjects p v && allObjectsMembers p ms
end

/-- Whether every object in a value names each member once. -/
def hasUniqueNames : Json → Bool := allObjects fun ms => decide (ms.map (·.1)).Nodup

/-- Whether every object in a value has its members in strictly increasing name order. -/
def isCanonical : Json → Bool := allObjects fun ms => decide ((ms.map (·.1)).Pairwise (· < ·))

mutual
/-- The binary64 numbers of a value, in document order. -/
def floats : Json → List Float
  | .float x => [x]
  | .array xs => floatsItems xs
  | .object ms => floatsMembers ms
  | _ => []
/-- `floats` of the items. -/
def floatsItems : List Json → List Float
  | [] => []
  | x :: xs => floats x ++ floatsItems xs
/-- `floats` of the member values. -/
def floatsMembers : List (String × Json) → List Float
  | [] => []
  | (_, v) :: ms => floats v ++ floatsMembers ms
end

mutual
/-- A value with the members of every object put in name order. -/
def sortNames : Json → Json
  | .array xs => .array (sortNamesItems xs)
  | .object ms => .object (sortByName (sortNamesMembers ms))
  | v => v
/-- `sortNames` of the items. -/
def sortNamesItems : List Json → List Json
  | [] => []
  | x :: xs => sortNames x :: sortNamesItems xs
/-- `sortNames` of the member values. -/
def sortNamesMembers : List (String × Json) → List (String × Json)
  | [] => []
  | (k, v) :: ms => (k, sortNames v) :: sortNamesMembers ms
end

/-- A float that prints as a literal which reads back to it. -/
def FloatReadsBack (x : Float) : Prop := (Decimal.jsonText? x).bind Decimal.parseFloat? = some x

instance (x : Float) : Decidable (FloatReadsBack x) :=
  inferInstanceAs (Decidable (_ = _))

/-! ### The recursive predicates on arrays and objects -/

section Unfold

variable (xs : List Json) (ms : List (String × Json))

theorem isDecoded_array : isDecoded (.array xs) = true ↔ ∀ x ∈ xs, isDecoded x = true := by
  induction xs with
  | nil => simp [isDecoded, isDecodedItems]
  | cons x xs ih => simp_all [isDecoded, isDecodedItems]

theorem isDecoded_object :
    isDecoded (.object ms) = true ↔ ∀ kv ∈ ms, isDecoded kv.2 = true := by
  induction ms with
  | nil => simp [isDecoded, isDecodedMembers]
  | cons kv ms ih => simp_all [isDecoded, isDecodedMembers]

variable (p : List (String × Json) → Bool)

theorem allObjects_array : allObjects p (.array xs) = true ↔ ∀ x ∈ xs, allObjects p x = true := by
  induction xs with
  | nil => simp [allObjects, allObjectsItems]
  | cons x xs ih => simp_all [allObjects, allObjectsItems]

theorem allObjects_object :
    allObjects p (.object ms) = true ↔ p ms = true ∧ ∀ kv ∈ ms, allObjects p kv.2 = true := by
  have hmembers : allObjectsMembers p ms = true ↔ ∀ kv ∈ ms, allObjects p kv.2 = true := by
    induction ms with
    | nil => simp [allObjectsMembers]
    | cons kv ms ih => simp_all [allObjectsMembers]
  simp [allObjects, hmembers]

theorem mem_floats_array {x : Float} : x ∈ floats (.array xs) ↔ ∃ y ∈ xs, x ∈ floats y := by
  induction xs with
  | nil => simp [floats, floatsItems]
  | cons y xs ih => simp_all [floats, floatsItems]

theorem mem_floats_object {x : Float} :
    x ∈ floats (.object ms) ↔ ∃ kv ∈ ms, x ∈ floats kv.2 := by
  induction ms with
  | nil => simp [floats, floatsMembers]
  | cons kv ms ih => simp_all [floats, floatsMembers]

theorem sortNames_array : sortNames (.array xs) = .array (xs.map sortNames) := by
  have h : sortNamesItems xs = xs.map sortNames := by
    induction xs with
    | nil => rfl
    | cons x xs ih => rw [sortNamesItems, ih]; rfl
  rw [sortNames, h]

theorem sortNames_object :
    sortNames (.object ms) = .object ((sortByName ms).map fun kv => (kv.1, sortNames kv.2)) := by
  have h : sortNamesMembers ms = ms.map fun kv => (kv.1, sortNames kv.2) := by
    induction ms with
    | nil => rfl
    | cons kv ms ih => rw [sortNamesMembers, ih]; rfl
  rw [sortNames, h, sortByName, sortByName, List.map_mergeSort]
  intro a _ b _
  rfl

end Unfold

/-- Objects that `p` accepts are accepted by any weaker `q`. -/
theorem allObjects_mono {p q : List (String × Json) → Bool} (hpq : ∀ ms, p ms = true → q ms = true)
    (v : Json) (hv : allObjects p v = true) : allObjects q v := by
  induction v using induction with
  | array xs ih =>
    rw [allObjects_array] at hv ⊢
    exact fun x hx => ih x hx (hv x hx)
  | object ms ih =>
    rw [allObjects_object] at hv ⊢
    exact ⟨hpq ms hv.1, fun kv hkv => ih kv hkv (hv.2 kv hkv)⟩
  | null | bool _ | number _ | float _ | string _ => rfl

theorem hasUniqueNames_of_isCanonical {v : Json} (h : isCanonical v = true) :
    hasUniqueNames v = true :=
  allObjects_mono (fun ms hms => by
    simp only [decide_eq_true_eq] at hms ⊢
    exact hms.imp ne_of_lt) v h

/-! ### Reading literals -/

theorem toFloats_number_eq_ok {t : String} {w : Json} (h : toFloats (.number t) = .ok w) :
    ∃ x, w = .float x := by
  rw [toFloats] at h
  split at h
  · cases h
    exact ⟨_, rfl⟩
  · cases h

/-- Every item read back is an item with its literals read. -/
theorem toFloatsItems_eq_ok {xs ys : List Json} (h : toFloatsItems xs = .ok ys) :
    ∀ y ∈ ys, ∃ x ∈ xs, toFloats x = .ok y := by
  induction xs generalizing ys with
  | nil =>
    cases h
    simp
  | cons x xs ih =>
    obtain ⟨y, hy, h⟩ := bind_eq_ok h
    obtain ⟨ys', hys, h⟩ := bind_eq_ok h
    cases h
    intro z hz
    rcases List.mem_cons.1 hz with rfl | hz
    · exact ⟨x, List.mem_cons_self, hy⟩
    · obtain ⟨x', hx', h'⟩ := ih hys z hz
      exact ⟨x', List.mem_cons_of_mem _ hx', h'⟩

theorem toFloatsMembers_eq_ok {ms ns : List (String × Json)} (h : toFloatsMembers ms = .ok ns) :
    ns.map (·.1) = ms.map (·.1) ∧ ∀ kw ∈ ns, ∃ kv ∈ ms, kv.1 = kw.1 ∧ toFloats kv.2 = .ok kw.2 := by
  induction ms generalizing ns with
  | nil =>
    cases h
    simp
  | cons kv ms ih =>
    obtain ⟨k, v⟩ := kv
    obtain ⟨w, hw, h⟩ := bind_eq_ok h
    obtain ⟨ns', hns, h⟩ := bind_eq_ok h
    cases h
    obtain ⟨hkeys, hmem⟩ := ih hns
    refine ⟨by simp [hkeys], fun kw hkw => ?_⟩
    rcases List.mem_cons.1 hkw with rfl | hkw
    · exact ⟨(k, v), List.mem_cons_self, rfl, hw⟩
    · obtain ⟨kv', hkv', h1, h2⟩ := hmem kw hkw
      exact ⟨kv', List.mem_cons_of_mem _ hkv', h1, h2⟩

theorem toFloatsItems_map {xs : List Json} {f g : Json → Json}
    (h : ∀ x ∈ xs, toFloats (f x) = .ok (g x)) : toFloatsItems (xs.map f) = .ok (xs.map g) := by
  induction xs with
  | nil => rfl
  | cons x xs ih =>
    rw [List.map_cons, toFloatsItems, h x List.mem_cons_self,
      ih fun y hy => h y (List.mem_cons_of_mem _ hy)]
    rfl

theorem toFloatsMembers_map {ms : List (String × Json)} {f g : Json → Json}
    (h : ∀ kv ∈ ms, toFloats (f kv.2) = .ok (g kv.2)) :
    toFloatsMembers (ms.map fun kv => (kv.1, f kv.2)) = .ok (ms.map fun kv => (kv.1, g kv.2)) := by
  induction ms with
  | nil => rfl
  | cons kv ms ih =>
    rw [List.map_cons, toFloatsMembers, h kv List.mem_cons_self,
      ih fun q hq => h q (List.mem_cons_of_mem _ hq)]
    rfl

mutual
/-- Reading the literals leaves none. -/
theorem toFloats_isDecoded {v w : Json} (h : toFloats v = .ok w) : isDecoded w = true := by
  cases v with
  | number t =>
    obtain ⟨x, rfl⟩ := toFloats_number_eq_ok h
    rfl
  | array xs =>
    obtain ⟨ys, hys, h⟩ := bind_eq_ok h
    cases h
    exact toFloatsItems_isDecoded hys
  | object ms =>
    obtain ⟨ns, hns, h⟩ := bind_eq_ok h
    cases h
    exact toFloatsMembers_isDecoded hns
  | null | bool _ | float _ | string _ =>
    cases h
    rfl
theorem toFloatsItems_isDecoded {xs ys : List Json} (h : toFloatsItems xs = .ok ys) :
    isDecodedItems ys = true := by
  cases xs with
  | nil =>
    cases h
    rfl
  | cons x xs =>
    obtain ⟨y, hy, h⟩ := bind_eq_ok h
    obtain ⟨ys', hys, h⟩ := bind_eq_ok h
    cases h
    simp only [isDecodedItems, toFloats_isDecoded hy, toFloatsItems_isDecoded hys, Bool.and_self]
theorem toFloatsMembers_isDecoded {ms ns : List (String × Json)} (h : toFloatsMembers ms = .ok ns) :
    isDecodedMembers ns = true := by
  cases ms with
  | nil =>
    cases h
    rfl
  | cons m ms =>
    obtain ⟨k, v⟩ := m
    obtain ⟨w, hw, h⟩ := bind_eq_ok h
    obtain ⟨ns', hns, h⟩ := bind_eq_ok h
    cases h
    simp only [isDecodedMembers, toFloats_isDecoded hw, toFloatsMembers_isDecoded hns, Bool.and_self]
end

/-! ### Setting members one after another -/

section SetMembers

variable {acc l : List (String × Json)}

theorem setMember_of_not_mem {ms : List (String × Json)} {k : String} (v : Json)
    (h : k ∉ ms.map (·.1)) : setMember ms k v = ms ++ [(k, v)] := by
  have hany : ms.any (·.1 == k) = false := by
    rw [List.any_eq_false]
    intro kv hkv hk
    exact h (List.mem_map.2 ⟨kv, hkv, by simpa using hk⟩)
  rw [setMember, hany, if_neg Bool.false_ne_true]

theorem keys_setMember (ms : List (String × Json)) (k : String) (v : Json) :
    (setMember ms k v).map (·.1) = if k ∈ ms.map (·.1) then ms.map (·.1) else ms.map (·.1) ++ [k] := by
  split
  · rename_i hk
    have hany : ms.any (·.1 == k) = true := by simpa using hk
    rw [setMember, if_pos hany, List.map_map]
    congr 1
    funext kv
    simp only [Function.comp_apply]
    split <;> rfl
  · rename_i hk
    rw [setMember_of_not_mem v hk, List.map_append]
    rfl

theorem mem_setMember {ms : List (String × Json)} {k : String} {v : Json} {kv : String × Json}
    (h : kv ∈ setMember ms k v) : kv ∈ ms ∨ kv = (k, v) := by
  unfold setMember at h
  split at h
  · obtain ⟨⟨k', v'⟩, hq, rfl⟩ := List.mem_map.1 h
    by_cases hk : k' = k
    · exact .inr (by simp [hk])
    · exact .inl (by simp [hk, hq])
  · simpa using h

theorem setMembers_cons (p : String × Json) :
    setMembers acc (p :: l) = setMembers (setMember acc p.1 p.2) l := rfl

theorem mem_setMembers {kv : String × Json} (h : kv ∈ setMembers acc l) : kv ∈ acc ∨ kv ∈ l := by
  induction l generalizing acc with
  | nil => exact .inl h
  | cons p l ih =>
    rcases ih h with h | h
    · rcases mem_setMember h with h | rfl
      · exact .inl h
      · exact .inr List.mem_cons_self
    · exact .inr (List.mem_cons_of_mem _ h)

/-- With names all distinct, setting members appends them. -/
theorem setMembers_of_nodup (h : ((acc ++ l).map (·.1)).Nodup) : setMembers acc l = acc ++ l := by
  induction l generalizing acc with
  | nil => simp [setMembers]
  | cons p l ih =>
    have hp : p.1 ∉ acc.map (·.1) := by
      intro hmem
      rw [List.map_append, List.map_cons, List.nodup_append] at h
      exact h.2.2 p.1 hmem p.1 List.mem_cons_self rfl
    rw [setMembers_cons, setMember_of_not_mem p.2 hp, ih (by simpa using h)]
    simp

/-- Setting members whose names never decrease leaves names in strictly increasing order. -/
theorem pairwise_setMembers (hacc : (acc.map (·.1)).Pairwise (· < ·))
    (hle : ∀ k ∈ acc.map (·.1), ∀ q ∈ l, k ≤ q.1) (hl : (l.map (·.1)).Pairwise (· ≤ ·)) :
    ((setMembers acc l).map (·.1)).Pairwise (· < ·) := by
  induction l generalizing acc with
  | nil => exact hacc
  | cons p l ih =>
    rw [List.map_cons, List.pairwise_cons] at hl
    have hp : ∀ k ∈ acc.map (·.1), k ≤ p.1 := fun k hk => hle k hk p List.mem_cons_self
    rw [setMembers_cons]
    refine ih ?_ ?_ hl.2
    · rw [keys_setMember]
      split
      · exact hacc
      · rename_i hnot
        refine List.pairwise_append.2 ⟨hacc, List.pairwise_singleton _ _, fun a ha b hb => ?_⟩
        rw [List.mem_singleton] at hb
        subst hb
        exact lt_of_le_of_ne (hp a ha) (fun h => hnot (h ▸ ha))
    · intro k hk q hq
      rw [keys_setMember] at hk
      split at hk
      · exact hle k hk q (List.mem_cons_of_mem _ hq)
      · rcases List.mem_append.1 hk with hk | hk
        · exact hle k hk q (List.mem_cons_of_mem _ hq)
        · rw [List.mem_singleton.1 hk]
          exact hl.1 q.1 (List.mem_map_of_mem hq)

end SetMembers

/-! ### Members in name order -/

theorem sortByName_perm (ms : List (String × Json)) : (sortByName ms).Perm ms :=
  List.mergeSort_perm _ _

theorem pairwise_sortByName (ms : List (String × Json)) :
    ((sortByName ms).map (·.1)).Pairwise (· ≤ ·) := by
  have h : (sortByName ms).Pairwise fun a b => decide (a.1 ≤ b.1) = true :=
    List.pairwise_mergeSort
      (fun a b c hab hbc => by simp only [decide_eq_true_eq] at *; exact le_trans hab hbc)
      (fun a b => by simpa using le_total a.1 b.1) ms
  rw [List.pairwise_map]
  exact h.imp fun hab => by simpa using hab

theorem sortByName_of_pairwise {ms : List (String × Json)} (h : (ms.map (·.1)).Pairwise (· < ·)) :
    sortByName ms = ms :=
  List.mergeSort_of_pairwise ((List.pairwise_map.1 h).imp fun hab => by simpa using le_of_lt hab)

theorem keys_map_value (l : List (String × Json)) (f : Json → Json) :
    (l.map fun kv => (kv.1, f kv.2)).map (·.1) = l.map (·.1) := by
  rw [List.map_map]
  rfl

/-! ### What normalizing gives -/

theorem floatReadsBack_jsonText {x : Float} (h : FloatReadsBack x) :
    ∃ t, Decimal.jsonText? x = some t ∧ Decimal.parseFloat? t = some x := by
  unfold FloatReadsBack at h
  cases ht : Decimal.jsonText? x with
  | none =>
    rw [ht] at h
    cases h
  | some t =>
    rw [ht] at h
    exact ⟨t, rfl, h⟩

/-- Reading back the compact text of a value, literals included, leaves every object with its
members in strictly increasing name order. -/
theorem isCanonical_of_toFloats_readBack (v : Json) :
    ∀ {w : Json}, toFloats (readBack v) = .ok w → isCanonical w = true := by
  induction v using induction with
  | null | bool _ | string _ =>
    intro w h
    cases h
    rfl
  | number t =>
    intro w h
    obtain ⟨x, rfl⟩ := toFloats_number_eq_ok h
    rfl
  | float x =>
    intro w h
    rw [readBack] at h
    split at h
    · obtain ⟨y, rfl⟩ := toFloats_number_eq_ok h
      rfl
    · cases h
      rfl
  | array xs ih =>
    intro w h
    rw [readBack, readBackItems_eq] at h
    obtain ⟨ys, hys, h⟩ := bind_eq_ok h
    cases h
    show allObjects _ (.array ys) = true
    rw [allObjects_array]
    intro y hy
    obtain ⟨x', hx', hy'⟩ := toFloatsItems_eq_ok hys y hy
    obtain ⟨x, hx, rfl⟩ := List.mem_map.1 hx'
    exact ih x hx hy'
  | object ms ih =>
    intro w h
    rw [readBack_object] at h
    obtain ⟨ns, hns, h⟩ := bind_eq_ok h
    cases h
    obtain ⟨hkeys, hmem⟩ := toFloatsMembers_eq_ok hns
    show allObjects _ (.object ns) = true
    rw [allObjects_object]
    refine ⟨?_, fun kw hkw => ?_⟩
    · rw [decide_eq_true_eq, hkeys]
      refine pairwise_setMembers List.Pairwise.nil (by simp) ?_
      rw [keys_map_value]
      exact pairwise_sortByName ms
    · obtain ⟨kv, hkv, -, hw⟩ := hmem kw hkw
      rcases mem_setMembers hkv with h | h
      · cases h
      · obtain ⟨q, hq, rfl⟩ := List.mem_map.1 h
        exact ih q ((sortByName_perm ms).subset hq) hw

/-- Decoded data whose floats all print the encoder accepts. -/
theorem unsupported?_of_isDecoded (j : Json) (hdec : isDecoded j = true)
    (hfl : ∀ x ∈ floats j, FloatReadsBack x) : unsupported? j = none := by
  induction j using induction with
  | null | bool _ | string _ => rfl
  | number t => cases hdec
  | float x =>
    obtain ⟨t, ht, -⟩ := floatReadsBack_jsonText (hfl x (List.mem_singleton_self x))
    obtain ⟨hnan, hinf⟩ := Decimal.finite_of_jsonText ht
    rw [unsupported?, hnan, hinf]
    rfl
  | array xs ih =>
    rw [isDecoded_array] at hdec
    show unsupportedItems? xs = none
    rw [unsupportedItems?_eq_none_iff]
    intro x hx
    exact ih x hx (hdec x hx) fun y hy => hfl y ((mem_floats_array xs).2 ⟨x, hx, hy⟩)
  | object ms ih =>
    rw [isDecoded_object] at hdec
    rw [unsupported?_object_eq_none_iff]
    intro kv hkv
    exact ih kv hkv (hdec kv hkv) fun y hy => hfl y ((mem_floats_object ms).2 ⟨kv, hkv, hy⟩)

/-- Decoded data that names each member once, and whose floats read back from their text, reads
back from its compact text with its members in name order. -/
theorem toFloats_readBack (j : Json) (hdec : isDecoded j = true) (huniq : hasUniqueNames j = true)
    (hfl : ∀ x ∈ floats j, FloatReadsBack x) : toFloats (readBack j) = .ok (sortNames j) := by
  induction j using induction with
  | null | bool _ | string _ => rfl
  | number t => cases hdec
  | float x =>
    obtain ⟨t, ht, hx⟩ := floatReadsBack_jsonText (hfl x (List.mem_singleton_self x))
    simp [readBack, ht, toFloats, hx, sortNames, pure, Except.pure]
  | array xs ih =>
    rw [isDecoded_array] at hdec
    rw [hasUniqueNames, allObjects_array] at huniq
    have hitems : toFloatsItems (xs.map readBack) = .ok (xs.map sortNames) :=
      toFloatsItems_map fun x hx =>
        ih x hx (hdec x hx) (huniq x hx) fun y hy => hfl y ((mem_floats_array xs).2 ⟨x, hx, hy⟩)
    rw [readBack, readBackItems_eq, sortNames_array]
    simp [toFloats, hitems, bind, Except.bind, pure, Except.pure]
  | object ms ih =>
    rw [isDecoded_object] at hdec
    rw [hasUniqueNames, allObjects_object] at huniq
    obtain ⟨hnodup, huniq⟩ := huniq
    have hnd : ((sortByName ms).map (·.1)).Nodup :=
      ((sortByName_perm ms).map _).nodup_iff.2 (by simpa using hnodup)
    have hmembers : toFloatsMembers ((sortByName ms).map fun kv => (kv.1, readBack kv.2)) =
        .ok ((sortByName ms).map fun kv => (kv.1, sortNames kv.2)) :=
      toFloatsMembers_map fun kv hkv =>
        have hkv' := (sortByName_perm ms).subset hkv
        ih kv hkv' (hdec kv hkv') (huniq kv hkv') fun y hy =>
          hfl y ((mem_floats_object ms).2 ⟨kv, hkv', hy⟩)
    rw [readBack_object, sortNames_object,
      setMembers_of_nodup (by rw [List.nil_append, keys_map_value]; exact hnd), List.nil_append]
    simp [toFloats, hmembers, bind, Except.bind, pure, Except.pure]

/-- Data already in name order is left as it is. -/
theorem sortNames_of_isCanonical (j : Json) (h : isCanonical j = true) : sortNames j = j := by
  induction j using induction with
  | null | bool _ | number _ | float _ | string _ => rfl
  | array xs ih =>
    rw [isCanonical, allObjects_array] at h
    rw [sortNames_array, List.map_congr_left (fun x hx => ih x hx (h x hx)), List.map_id']
  | object ms ih =>
    rw [isCanonical, allObjects_object] at h
    obtain ⟨hsorted, h⟩ := h
    rw [sortNames_object, sortByName_of_pairwise (by simpa using hsorted),
      List.map_congr_left (fun kv hkv => by rw [ih kv hkv (h kv hkv)]), List.map_id']

/-- Data as normalizing answers it, `none` standing for `null`, gives the data back. -/
theorem getD_ofNull (w : Json) : (if w.isNull then none else some w).getD .null = w := by
  cases w <;> rfl

end HttpMock.Json

namespace HttpMock.Payload

theorem encode_eq_ok {p : Payload} {v : Json} (h : p.encode = .ok v) :
    p = .json v ∧ v.unsupported? = none := by
  cases p with
  | json v' =>
    simp only [encode] at h
    split at h
    · cases h
    · rename_i hv
      cases h
      exact ⟨rfl, hv⟩
  | unencodable _ | refused _ => cases h

/-- What normalizing succeeds with: JSON data the encoder accepts, read back from its compact text
with its literals read, `null` as none. -/
theorem normalize_eq_ok {p : Payload} {n : Option Json} (h : p.normalize = .ok n) :
    ∃ v w, p = .json v ∧ v.unsupported? = none ∧ Json.toFloats (Json.readBack v) = .ok w ∧
      n = if w.isNull then none else some w := by
  obtain ⟨v, hv, hread⟩ := Json.bind_eq_ok h
  obtain ⟨rfl, hsup⟩ := encode_eq_ok hv
  rw [Json.parse_compact v hsup] at hread
  dsimp only at hread
  split at hread
  · rename_i hw
    cases hread
    exact ⟨v, .null, rfl, hsup, hw, rfl⟩
  · rename_i w hnull hw
    cases hread
    refine ⟨v, w, rfl, hsup, hw, ?_⟩
    have hnot : w.isNull = false := by
      cases w with
      | null => exact absurd rfl hnull
      | _ => rfl
    rw [hnot, if_neg Bool.false_ne_true]
  · cases hread

/-- Normalizing decoded data that names each member once, and whose floats read back from their
text, puts its members in name order. -/
theorem normalize_json {j : Json} (hdec : j.isDecoded = true) (huniq : j.hasUniqueNames = true)
    (hfl : ∀ x ∈ j.floats, Json.FloatReadsBack x) :
    (Payload.json j).normalize =
      .ok (if (Json.sortNames j).isNull then none else some (Json.sortNames j)) := by
  have hsup := Json.unsupported?_of_isDecoded j hdec hfl
  have hread := Json.toFloats_readBack j hdec huniq hfl
  simp only [normalize, encode, hsup, Json.parse_compact j hsup, hread, bind, Except.bind, pure,
    Except.pure]
  cases Json.sortNames j <;> rfl

/-- Normalizing is idempotent: what it gives holds no literal and has its members in strictly
increasing name order, and when its floats print as literals that read back to them, it
normalizes to itself and so writes the same compact text again. -/
theorem normalize_idempotent {p : Payload} {n : Option Json} (h : p.normalize = .ok n)
    (hfloats : ∀ x ∈ (n.getD .null).floats, Json.FloatReadsBack x) :
    (∀ w ∈ n, w.isDecoded = true ∧ w.isCanonical = true) ∧
      (Payload.json (n.getD .null)).normalize = .ok n ∧
      ((Payload.json (n.getD .null)).normalize.map fun m => (m.getD .null).compact) =
        .ok (n.getD .null).compact := by
  obtain ⟨v, w, -, -, hw, rfl⟩ := normalize_eq_ok h
  have hdec := Json.toFloats_isDecoded hw
  have hcan := Json.isCanonical_of_toFloats_readBack v hw
  rw [Json.getD_ofNull] at hfloats ⊢
  have hagain : (Payload.json w).normalize = .ok (if w.isNull then none else some w) := by
    rw [normalize_json hdec (Json.hasUniqueNames_of_isCanonical hcan) hfloats,
      Json.sortNames_of_isCanonical w hcan]
  refine ⟨fun w' hw' => ?_, hagain, by simp only [hagain, Except.map, Json.getD_ofNull]⟩
  split at hw'
  · cases hw'
  · cases hw'
    exact ⟨hdec, hcan⟩

theorem normalize_idempotent_reordered :
    (Payload.json (.object [("b", .array [.float 2, .null]), ("a", .bool true)])).normalize =
        .ok (some (.object [("a", .bool true), ("b", .array [.float 2, .null])])) ∧
      (∀ x ∈ (Json.object [("a", .bool true), ("b", .array [.float 2, .null])]).floats,
        Json.FloatReadsBack x) ∧
      (∀ w ∈ some (Json.object [("a", .bool true), ("b", .array [.float 2, .null])]),
        w.isDecoded = true ∧ w.isCanonical = true) ∧
      (Payload.json (.object [("a", .bool true), ("b", .array [.float 2, .null])])).normalize =
        .ok (some (.object [("a", .bool true), ("b", .array [.float 2, .null])])) ∧
      ((Payload.json (.object [("a", .bool true), ("b", .array [.float 2, .null])])).normalize.map
          fun m => (m.getD .null).compact) =
        .ok (Json.object [("a", .bool true), ("b", .array [.float 2, .null])]).compact := by
  have hsort : Json.sortNames (.object [("b", .array [.float 2, .null]), ("a", .bool true)]) =
      .object [("a", .bool true), ("b", .array [.float 2, .null])] := by
    rw [Json.sortNames_object, Json.sortByName]
    cbv
  have h : (Payload.json (.object [("b", .array [.float 2, .null]), ("a", .bool true)])).normalize =
      .ok (some (.object [("a", .bool true), ("b", .array [.float 2, .null])])) := by
    rw [normalize_json (by decide) (by decide) (by decide), hsort]
    rfl
  have hfloats : ∀ x ∈ (Json.object [("a", .bool true), ("b", .array [.float 2, .null])]).floats,
      Json.FloatReadsBack x := by decide
  exact ⟨h, hfloats, normalize_idempotent h hfloats⟩

end HttpMock.Payload
