import Mathlib
import HttpMock.Proofs.NormalizeJson
/-! JSON data a request holds names each member once and compares the same as its normal form. -/
namespace HttpMock.Json

/-! ### The reader names each member once -/

theorem nodup_setMember {ms : List (String × Json)} (h : (ms.map (·.1)).Nodup) (k : String)
    (v : Json) : ((setMember ms k v).map (·.1)).Nodup := by
  rw [keys_setMember]
  split
  · exact h
  · rename_i hk
    refine List.nodup_append.2 ⟨h, List.nodup_singleton k, fun a ha b hb hab => hk ?_⟩
    rw [List.mem_singleton] at hb
    rw [← hb, ← hab]
    exact ha

theorem hasUniqueNames_object {ms : List (String × Json)} (hnd : (ms.map (·.1)).Nodup)
    (hms : ∀ kv ∈ ms, hasUniqueNames kv.2 = true) : hasUniqueNames (.object ms) = true := by
  rw [hasUniqueNames, allObjects_object]
  exact ⟨decide_eq_true hnd, hms⟩

theorem hasUniqueNames_array {xs : List Json} (hxs : ∀ x ∈ xs, hasUniqueNames x = true) :
    hasUniqueNames (.array xs) = true := by
  rw [hasUniqueNames, allObjects_array]
  exact hxs

mutual
theorem hasUniqueNames_readValue : ∀ {fuel : Nat} {bs : Bytes} {v : Json} {r : Bytes},
    readValue false fuel bs = .ok (v, r) → hasUniqueNames v = true
  | 0, _, _, _, h => by cases h
  | fuel + 1, bs, v, r, h => by
    rw [readValue] at h
    split at h
    · cases h
    · split at h
      · exact hasUniqueNames_readObject (by simp) (by simp) h
      · split at h
        · exact hasUniqueNames_readArray (by simp) h
        · repeat' split at h
          all_goals first
            | cases h
            | obtain ⟨_, -, h⟩ := bind_eq_ok h
              cases h
              rfl
theorem hasUniqueNames_readArray : ∀ {fuel : Nat} {acc : List Json} {first : Bool} {bs : Bytes}
    {v : Json} {r : Bytes}, (∀ x ∈ acc, hasUniqueNames x = true) →
    readArray false fuel acc first bs = .ok (v, r) → hasUniqueNames v = true
  | 0, _, _, _, _, _, _, h => by cases h
  | fuel + 1, acc, first, bs, v, r, hacc, h => by
    rw [readArray] at h
    split at h
    · cases h
    · split at h
      · cases h
        exact hasUniqueNames_array (fun _ h => absurd h List.not_mem_nil)
      · obtain ⟨⟨x, r'⟩, hx, h⟩ := bind_eq_ok h
        dsimp only at h
        have hx' := hasUniqueNames_readValue hx
        have hcons : ∀ y ∈ x :: acc, hasUniqueNames y = true := by
          intro y hy
          rcases List.mem_cons.1 hy with rfl | hy
          · exact hx'
          · exact hacc y hy
        split at h
        · cases h
        · split at h
          · exact hasUniqueNames_readArray hcons h
          · split at h
            · cases h
              exact hasUniqueNames_array fun y hy => hcons y (List.mem_reverse.1 hy)
            · cases h
theorem hasUniqueNames_readObject : ∀ {fuel : Nat} {acc : List (String × Json)} {first : Bool}
    {bs : Bytes} {v : Json} {r : Bytes}, (acc.map (·.1)).Nodup →
    (∀ kv ∈ acc, hasUniqueNames kv.2 = true) →
    readObject false fuel acc first bs = .ok (v, r) → hasUniqueNames v = true
  | 0, _, _, _, _, _, _, _, h => by cases h
  | fuel + 1, acc, first, bs, v, r, hnd, hacc, h => by
    rw [readObject] at h
    split at h
    · cases h
    · split at h
      · cases h
        exact hasUniqueNames_object List.nodup_nil (fun _ h => absurd h List.not_mem_nil)
      · split at h
        · cases h
        · obtain ⟨⟨k, r1⟩, -, h⟩ := bind_eq_ok h
          dsimp only at h
          split at h
          · cases h
          · split at h
            · cases h
            · obtain ⟨⟨x, r3⟩, hx, h⟩ := bind_eq_ok h
              dsimp only at h
              have hx' := hasUniqueNames_readValue hx
              have hnd' := nodup_setMember hnd k x
              have hacc' : ∀ kv ∈ setMember acc k x, hasUniqueNames kv.2 = true := by
                intro kv hkv
                rcases mem_setMember hkv with hkv | rfl
                · exact hacc kv hkv
                · exact hx'
              split at h
              · cases h
              · split at h
                · exact hasUniqueNames_readObject hnd' hacc' h
                · split at h
                  · cases h
                    exact hasUniqueNames_object hnd' hacc'
                  · cases h
end

theorem hasUniqueNames_parse {bs : Bytes} {v : Json} (h : parse bs = .ok v) :
    hasUniqueNames v = true := by
  obtain ⟨⟨w, r⟩, hw, h⟩ := bind_eq_ok h
  dsimp only at h
  split at h
  · cases h
    exact hasUniqueNames_readValue hw
  · cases h

theorem hasUniqueNames_toFloats (v : Json) :
    ∀ {w : Json}, hasUniqueNames v = true → toFloats v = .ok w → hasUniqueNames w = true := by
  induction v using induction with
  | null | bool _ | float _ | string _ =>
    intro w _ h
    cases h
    rfl
  | number t =>
    intro w _ h
    obtain ⟨x, rfl⟩ := toFloats_number_eq_ok h
    rfl
  | array xs ih =>
    intro w hv h
    rw [hasUniqueNames, allObjects_array] at hv
    obtain ⟨ys, hys, h⟩ := bind_eq_ok h
    cases h
    refine hasUniqueNames_array fun y hy => ?_
    obtain ⟨x, hx, hxy⟩ := toFloatsItems_eq_ok hys y hy
    exact ih x hx (hv x hx) hxy
  | object ms ih =>
    intro w hv h
    rw [hasUniqueNames, allObjects_object] at hv
    obtain ⟨ns, hns, h⟩ := bind_eq_ok h
    cases h
    obtain ⟨hkeys, hvals⟩ := toFloatsMembers_eq_ok hns
    refine hasUniqueNames_object (hkeys ▸ of_decide_eq_true hv.1) fun kw hkw => ?_
    obtain ⟨kv, hkv, -, hw⟩ := hvals kw hkw
    exact ih kv hkv (hv.2 kv hkv) hw

/-! ### Comparing data with its normal form -/

theorem float_beq_self {x : Float} (h : x.isNaN = false) : (x == x) = true := by
  have hu : x.toModel.unpack.isNaN = false := h
  show x.toModel.unpack.beq x.toModel.unpack = true
  generalize x.toModel.unpack = u at hu ⊢
  cases u with
  | notANumber => cases hu
  | infinity s => cases s <;> rfl
  | zero s => cases s <;> rfl
  | finite s m e hm =>
    cases s <;> simp [Float.Model.UnpackedFloat.beq, Float.Model.UnpackedFloat.compare]

theorem FloatReadsBack.isNaN_eq_false {x : Float} (h : FloatReadsBack x) : x.isNaN = false := by
  obtain ⟨t, ht, -⟩ := floatReadsBack_jsonText h
  exact (Decimal.finite_of_jsonText ht).1

theorem getMember?_of_mem {ms : List (String × Json)} (hnd : (ms.map (·.1)).Nodup)
    {kv : String × Json} (h : kv ∈ ms) : getMember? ms kv.1 = some kv.2 := by
  induction ms with
  | nil => cases h
  | cons p ms ih =>
    rw [List.map_cons, List.nodup_cons] at hnd
    rcases List.mem_cons.1 h with rfl | h
    · simp [getMember?]
    · have hne : p.1 ≠ kv.1 := fun he => hnd.1 (he ▸ List.mem_map_of_mem h)
      have hb : (p.1 == kv.1) = false := by simpa using hne
      have hrest := ih hnd.2 h
      simp only [getMember?, List.find?_cons, hb] at hrest ⊢
      exact hrest

theorem sameItems_map {xs : List Json} {f : Json → Json} (h : ∀ x ∈ xs, same (f x) x = true) :
    same.sameItems (xs.map f) xs = true := by
  induction xs with
  | nil => simp only [List.map_nil, same.sameItems]
  | cons x xs ih =>
    simp only [List.map_cons, same.sameItems, h x List.mem_cons_self,
      ih fun y hy => h y (List.mem_cons_of_mem _ hy), Bool.and_self]

theorem sameMembers_of_forall {l ys all : List (String × Json)}
    (h : ∀ kv ∈ l, ∃ w, getMember? all kv.1 = some w ∧ same kv.2 w = true) :
    same.sameMembers l ys all = true := by
  induction l with
  | nil => simp only [same.sameMembers]
  | cons kv l ih =>
    obtain ⟨w, hw, hsame⟩ := h kv List.mem_cons_self
    obtain ⟨k, v⟩ := kv
    simp only [same.sameMembers, hw, hsame, ih fun q hq => h q (List.mem_cons_of_mem _ hq),
      Bool.and_self]

/-- Data with its members put in name order compares the same as the data, when each object
names its members once and no float is a NaN. -/
theorem same_sortNames (j : Json) (huniq : hasUniqueNames j = true)
    (hnan : ∀ x ∈ floats j, x.isNaN = false) : same (sortNames j) j = true := by
  induction j using induction with
  | null | bool _ | number _ | string _ => simp [sortNames, same]
  | float x =>
    show same (.float x) (.float x) = true
    rw [same]
    exact float_beq_self (hnan x (List.mem_singleton_self x))
  | array xs ih =>
    rw [hasUniqueNames, allObjects_array] at huniq
    rw [sortNames_array, same]
    exact sameItems_map fun x hx =>
      ih x hx (huniq x hx) fun y hy => hnan y ((mem_floats_array xs).2 ⟨x, hx, hy⟩)
  | object ms ih =>
    rw [hasUniqueNames, allObjects_object] at huniq
    obtain ⟨hnd, hvals⟩ := huniq
    rw [sortNames_object]
    simp only [same, List.length_map, (sortByName_perm ms).length_eq, beq_self_eq_true,
      Bool.true_and]
    refine sameMembers_of_forall fun kv hkv => ?_
    obtain ⟨p, hp, rfl⟩ := List.mem_map.1 hkv
    have hp' := (sortByName_perm ms).subset hp
    exact ⟨p.2, getMember?_of_mem (of_decide_eq_true hnd) hp',
      ih p hp' (hvals p hp') fun y hy => hnan y ((mem_floats_object ms).2 ⟨p, hp', hy⟩)⟩

/-! ### The JSON data of a request -/

/-- JSON data as a request holds it: its numbers read as binary64 values, the members of each
object named once, and not `null`. -/
structure IsBody (j : Json) : Prop where
  decoded : isDecoded j = true
  uniqueNames : hasUniqueNames j = true
  notNull : j.isNull = false

theorem isNull_sortNames (j : Json) : (sortNames j).isNull = j.isNull := by
  cases j with
  | array xs => rw [sortNames_array]; rfl
  | object ms => rw [sortNames_object]; rfl
  | null | bool _ | number _ | float _ | string _ => rfl

theorem isBody_of_toFloats {v w : Json} (hv : hasUniqueNames v = true) (h : toFloats v = .ok w)
    (hw : w.isNull = false) : IsBody w :=
  ⟨toFloats_isDecoded h, hasUniqueNames_toFloats v hv h, hw⟩

namespace IsBody

variable {j : Json}

/-- Data a request holds normalizes to itself with its members in name order, when its floats
read back from their text. -/
theorem normalize (hj : IsBody j) (hfl : ∀ x ∈ floats j, FloatReadsBack x) :
    (Payload.json j).normalize = .ok (some (sortNames j)) := by
  rw [Payload.normalize_json hj.decoded hj.uniqueNames hfl, isNull_sortNames, hj.notNull]
  rfl

theorem same_sortNames (hj : IsBody j) (hfl : ∀ x ∈ floats j, FloatReadsBack x) :
    same (sortNames j) j = true :=
  Json.same_sortNames j hj.uniqueNames fun x hx => (hfl x hx).isNaN_eq_false

end IsBody

end HttpMock.Json

namespace HttpMock

theorem Payload.isBody_normalize {p : Payload} {n : Option Json} (h : p.normalize = .ok n) :
    ∀ j ∈ n, Json.IsBody j := by
  obtain ⟨v, w, -, -, hw, rfl⟩ := normalize_eq_ok h
  intro j hj
  have hcan := Json.isCanonical_of_toFloats_readBack v hw
  split at hj
  · cases hj
  · rename_i hnull
    cases hj
    exact ⟨Json.toFloats_isDecoded hw, Json.hasUniqueNames_of_isCanonical hcan,
      Bool.eq_false_iff.2 hnull⟩

theorem isBody_rawJson? {bs : Bytes} {n : Option Json} (h : rawJson? bs = some n) :
    ∀ j ∈ n, Json.IsBody j := by
  intro j hj
  unfold rawJson? at h
  split at h
  · cases h
  · rename_i v hv
    split at h
    · cases h
      cases hj
    · rename_i w hnull hw
      cases h
      cases hj
      refine Json.isBody_of_toFloats (Json.hasUniqueNames_parse hv) hw ?_
      cases j with
      | null => exact absurd rfl hnull
      | _ => rfl
    · cases h

end HttpMock
