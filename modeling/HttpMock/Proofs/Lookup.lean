import Mathlib.Data.List.Induction
import HttpMock.Request.Query
/-! Lookup laws of keyed tables and of parsed query strings. -/
namespace HttpMock

namespace Table

variable {α : Type}

/-- The keys of a table, in order. -/
def keyList (t : Table α) : List Bytes := t.map (·.1)

@[simp] theorem keyList_nil : keyList ([] : Table α) = [] := rfl

@[simp] theorem keyList_cons (p : Bytes × α) (t : Table α) : keyList (p :: t) = p.1 :: keyList t := rfl

@[simp] theorem keyList_append (t u : Table α) : keyList (t ++ u) = keyList t ++ keyList u := by
  simp [keyList]

@[simp] theorem get?_nil (k : Bytes) : get? ([] : Table α) k = none := rfl

/-- A lookup answers the first entry under the key. -/
@[simp] theorem get?_cons (p : Bytes × α) (t : Table α) (k : Bytes) :
    get? (p :: t) k = if p.1 = k then some p.2 else get? t k := by
  by_cases hp : p.1 = k <;> simp [get?, hp]

theorem contains_iff (t : Table α) (k : Bytes) : t.contains k = true ↔ k ∈ keyList t := by
  simp [contains, keyList, List.any_eq_true]

/-- A value found under a key is stored under it. -/
theorem mem_of_get? {t : Table α} {k : Bytes} {v : α} (h : t.get? k = some v) : (k, v) ∈ t := by
  obtain ⟨kv, hfind, rfl⟩ := Option.map_eq_some_iff.1 h
  have hk : kv.1 = k := by simpa using List.find?_some hfind
  simpa [← hk] using List.mem_of_find?_eq_some hfind

/-- A lookup in a table with an entry appended answers from the table first. -/
theorem get?_append_singleton_or (t : Table α) (k k' : Bytes) (v : α) :
    get? (t ++ [(k, v)]) k' = (get? t k').or (if k' = k then some v else none) := by
  induction t with
  | nil => by_cases h : k' = k <;> simp [h, eq_comm (a := k)]
  | cons p t ih =>
    by_cases hp : p.1 = k'
    · simp [hp]
    · simpa [hp] using ih

theorem get?_eq_none_of_not_mem {t : Table α} {k : Bytes} (hk : k ∉ keyList t) : get? t k = none := by
  induction t with
  | nil => rfl
  | cons p t ih =>
    have hp : p.1 ≠ k := fun h => hk (by simp [h])
    simpa [hp] using ih (fun h => hk (by simp [h]))

/-- Inserting replaces the value of a key that is present, in place, and appends a new key. -/
theorem insert_eq (t : Table α) (k : Bytes) (v : α) :
    t.insert k v =
      if k ∈ keyList t then t.map (fun q => (q.1, if q.1 = k then v else q.2)) else t ++ [(k, v)] := by
  unfold insert
  by_cases hk : k ∈ keyList t
  · rw [if_pos ((contains_iff t k).2 hk), if_pos hk]
    refine List.map_congr_left fun q _ => ?_
    obtain ⟨a, b⟩ := q
    by_cases ha : a = k <;> simp [ha]
  · rw [if_neg (fun h => hk ((contains_iff t k).1 h)), if_neg hk]

theorem get?_map_replace (t : Table α) (k k' : Bytes) (v : α) :
    get? (t.map fun q => (q.1, if q.1 = k then v else q.2)) k' =
      if k' = k then (if k ∈ keyList t then some v else none) else get? t k' := by
  induction t with
  | nil => by_cases hk : k' = k <;> simp [hk]
  | cons p t ih =>
    by_cases h1 : p.1 = k' <;> by_cases h2 : k' = k
    · subst h1 h2
      simp
    · simp [h1, h2]
    · subst h2
      simpa [h1, Ne.symm h1] using ih
    · simpa [h1, h2] using ih

theorem get?_append_singleton (t : Table α) {k : Bytes} (hk : k ∉ keyList t) (k' : Bytes) (v : α) :
    get? (t ++ [(k, v)]) k' = if k' = k then some v else get? t k' := by
  induction t with
  | nil => by_cases hk' : k' = k <;> simp [hk', eq_comm (a := k)]
  | cons p t ih =>
    have hp : p.1 ≠ k := fun h => hk (by simp [h])
    have ih' := ih (fun h => hk (by simp [h]))
    by_cases hpk : p.1 = k'
    · subst hpk
      simp [hp]
    · simpa [hpk] using ih'

/-- Inserting a key answers its new value and leaves every other key alone. -/
theorem get?_insert (t : Table α) (k k' : Bytes) (v : α) :
    (t.insert k v).get? k' = if k' = k then some v else t.get? k' := by
  rw [insert_eq]
  by_cases hk : k ∈ keyList t
  · rw [if_pos hk, get?_map_replace]
    by_cases hk' : k' = k <;> simp [hk', hk]
  · rw [if_neg hk, get?_append_singleton t hk]

theorem keyList_insert (t : Table α) (k : Bytes) (v : α) :
    keyList (t.insert k v) = if k ∈ keyList t then keyList t else keyList t ++ [k] := by
  rw [insert_eq]
  by_cases hk : k ∈ keyList t
  · rw [if_pos hk, if_pos hk]
    simp [keyList]
  · rw [if_neg hk, if_neg hk]
    simp

theorem nodup_insert {t : Table α} (h : (keyList t).Nodup) (k : Bytes) (v : α) :
    (keyList (t.insert k v)).Nodup := by
  rw [keyList_insert]
  split
  · exact h
  · rename_i hk
    refine List.nodup_append.2 ⟨h, by simp, ?_⟩
    intro a ha b hb hab
    simp only [List.mem_singleton] at hb
    exact hk (hb ▸ hab ▸ ha)

/-- Inserting the entries of a table without repeated keys answers, for each key, the inserted
value if the key is among them, and the old one otherwise. -/
theorem get?_insertAll (t : Table α) {u : Table α} (hu : (keyList u).Nodup) (k : Bytes) :
    (t.insertAll u).get? k = (u.get? k).or (t.get? k) := by
  induction u generalizing t with
  | nil => rfl
  | cons p u ih =>
    simp only [keyList_cons, List.nodup_cons] at hu
    have hstep : t.insertAll (p :: u) = (t.insert p.1 p.2).insertAll u := rfl
    rw [hstep, ih _ hu.2, get?_insert, get?_cons]
    by_cases hk : p.1 = k
    · subst hk
      simp [get?_eq_none_of_not_mem hu.1]
    · simp [hk, Ne.symm hk]

theorem mem_insert {t : Table α} {k : Bytes} {v : α} {p : Bytes × α} (hp : p ∈ t.insert k v) :
    p = (k, v) ∨ p ∈ t := by
  rw [insert_eq] at hp
  split at hp
  · obtain ⟨q, hq, rfl⟩ := List.mem_map.1 hp
    by_cases hqk : q.1 = k
    · left
      simp [hqk]
    · right
      simpa [hqk] using hq
  · simpa [or_comm] using hp

theorem mem_insertAll {t u : Table α} {p : Bytes × α} (hp : p ∈ t.insertAll u) : p ∈ u ∨ p ∈ t := by
  induction u generalizing t with
  | nil => exact .inr hp
  | cons q u ih =>
    rcases ih hp with hu | ht
    · exact .inl (List.mem_cons_of_mem q hu)
    · rcases mem_insert ht with rfl | ht
      · exact .inl List.mem_cons_self
      · exact .inr ht

theorem nodup_insertAll {t : Table α} (ht : (keyList t).Nodup) (u : Table α) :
    (keyList (t.insertAll u)).Nodup := by
  induction u generalizing t with
  | nil => exact ht
  | cons q u ih => exact ih (nodup_insert ht q.1 q.2)

/-- In a table without repeated keys, an entry is what a lookup of its key answers. -/
theorem get?_of_mem {t : Table α} (ht : (keyList t).Nodup) {k : Bytes} {v : α} (hkv : (k, v) ∈ t) :
    t.get? k = some v := by
  induction t with
  | nil => cases hkv
  | cons p t ih =>
    simp only [keyList_cons, List.nodup_cons] at ht
    rcases List.mem_cons.1 hkv with rfl | hkv
    · simp
    · have hpk : p.1 ≠ k := fun h => ht.1 (h ▸ List.mem_map_of_mem hkv)
      rw [get?_cons, if_neg hpk]
      exact ih ht.2 hkv

@[simp] theorem mem_sorted {t : Table α} {p : Bytes × α} : p ∈ t.sorted ↔ p ∈ t := List.mem_mergeSort

end Table

namespace Query

theorem splitPair_eq (pair : Bytes) :
    splitPair pair =
      (Text.Percent.decodeOrKeep (pair.cut 0x3D).1,
        Text.Percent.decodeOrKeep ((pair.cut 0x3D).2.getD [])) := by
  unfold splitPair
  obtain ⟨k, v⟩ := pair.cut 0x3D
  rfl

/-- The value of the last pair under a key, if any pair has that key. -/
def lastValue (ds : List (Bytes × Bytes)) (k : Bytes) : Option Bytes :=
  (ds.reverse.find? (·.1 = k)).map (·.2)

theorem lastValue_snoc (ds : List (Bytes × Bytes)) (d : Bytes × Bytes) (k : Bytes) :
    lastValue (ds ++ [d]) k = if d.1 = k then some d.2 else lastValue ds k := by
  by_cases hd : d.1 = k <;> simp [lastValue, hd]

theorem mem_of_lastValue_eq_some {ds : List (Bytes × Bytes)} {k v : Bytes}
    (h : lastValue ds k = some v) : (k, v) ∈ ds := by
  obtain ⟨d, hd, rfl⟩ := Option.map_eq_some_iff.1 h
  have hk : d.1 = k := by simpa using List.find?_some hd
  rw [← hk]
  exact List.mem_reverse.1 (List.mem_of_find?_eq_some hd)

theorem endsWith_listMark_iff (k : Bytes) : Bytes.endsWith k listMark = true ↔ ∃ n, k = n ++ listMark := by
  simp only [Bytes.endsWith, List.isSuffixOf_iff_suffix, List.suffix_iff_eq_append]
  constructor
  · intro h
    exact ⟨_, h.symm⟩
  · rintro ⟨n, rfl⟩
    simp [listMark]

theorem take_append_listMark (n : Bytes) : (n ++ listMark).take ((n ++ listMark).length - 2) = n := by
  simp [listMark]

/-- One pair's effect on a lookup: a list pair under `n[]` appends to `n`, a single pair under `n`
sets it, and any other pair leaves `n` alone. -/
theorem get?_addPair (params : Table QueryValue) (d : Bytes × Bytes) (n : Bytes) :
    (addPair params d).get? n =
      if d.1 = n ++ listMark then some (((params.get? n).getD (.single [])).appended d.2)
      else if d.1 = n ∧ Bytes.endsWith n listMark = false then some (.single d.2)
      else params.get? n := by
  obtain ⟨k, v⟩ := d
  unfold addPair
  by_cases hl : Bytes.endsWith k listMark = true
  · obtain ⟨m, rfl⟩ := (endsWith_listMark_iff k).1 hl
    simp only [hl, if_true, take_append_listMark, Table.get?_insert]
    by_cases hm : n = m
    · subst hm
      simp
    · have hne : m ++ listMark ≠ n ++ listMark := fun h => hm (List.append_cancel_right h).symm
      have hne' : ¬(m ++ listMark = n ∧ Bytes.endsWith n listMark = false) := by
        rintro ⟨rfl, h⟩
        simp [hl] at h
      simp [hne, hne', hm]
  · have hl' : Bytes.endsWith k listMark = false := by simpa using hl
    have hk : k ≠ n ++ listMark := fun h => hl ((endsWith_listMark_iff k).2 ⟨n, h⟩)
    simp only [hl', Bool.false_eq_true, if_false, Table.get?_insert, hk]
    by_cases hkn : k = n
    · subst hkn
      simp [hl']
    · simp [hkn, Ne.symm hkn]

theorem nodup_foldl_addPair (ds : List (Bytes × Bytes)) {t : Table QueryValue}
    (ht : (Table.keyList t).Nodup) : (Table.keyList (ds.foldl addPair t)).Nodup := by
  induction ds generalizing t with
  | nil => exact ht
  | cons d ds ih =>
    apply ih
    unfold addPair
    dsimp only
    split <;> exact Table.nodup_insert ht _ _

/-- A key never sent as a list holds the last value sent under it. -/
theorem get?_foldl_addPair_single {ds : List (Bytes × Bytes)} {t : Table QueryValue} {n v : Bytes}
    (hn : Bytes.endsWith n listMark = false) (hlist : ∀ d ∈ ds, d.1 ≠ n ++ listMark)
    (hv : lastValue ds n = some v) : (ds.foldl addPair t).get? n = some (.single v) := by
  induction ds using List.reverseRecOn generalizing v with
  | nil => simp [lastValue] at hv
  | append_singleton ds d ih =>
    rw [List.foldl_append, List.foldl_cons, List.foldl_nil, get?_addPair,
      if_neg (hlist d (by simp))]
    rw [lastValue_snoc] at hv
    by_cases hd : d.1 = n
    · rw [if_pos hd] at hv
      rw [if_pos ⟨hd, hn⟩, ← Option.some.inj hv]
    · rw [if_neg hd] at hv
      rw [if_neg (fun h => hd h.1)]
      exact ih (fun d' hd' => hlist d' (by simp [hd'])) hv

/-- A list name never sent as a single key holds a list that ends with the last value sent
under it. -/
theorem get?_foldl_addPair_list {ds : List (Bytes × Bytes)} {t : Table QueryValue} {n v : Bytes}
    (hsingle : ∀ d ∈ ds, d.1 ≠ n) (hv : lastValue ds (n ++ listMark) = some v) :
    ∃ vs, (ds.foldl addPair t).get? n = some (.list (vs ++ [v])) := by
  induction ds using List.reverseRecOn generalizing v with
  | nil => simp [lastValue] at hv
  | append_singleton ds d ih =>
    rw [List.foldl_append, List.foldl_cons, List.foldl_nil, get?_addPair]
    rw [lastValue_snoc] at hv
    by_cases hd : d.1 = n ++ listMark
    · rw [if_pos hd] at hv
      rw [if_pos hd, ← Option.some.inj hv]
      cases ((ds.foldl addPair t).get? n).getD (.single []) with
      | single x => exact ⟨[], rfl⟩
      | list xs => exact ⟨xs, rfl⟩
    · rw [if_neg hd] at hv
      rw [if_neg hd, if_neg (fun h => hsingle d (by simp) h.1)]
      exact ih (fun d' hd' => hsingle d' (by simp [hd'])) hv

/-- A parsed query holds a single value only under a key that does not end in `[]`. -/
theorem endsWith_of_single_mem_foldl {t : Table QueryValue}
    (ht : ∀ k x, (k, QueryValue.single x) ∈ t → Bytes.endsWith k listMark = false)
    (ds : List (Bytes × Bytes)) :
    ∀ k x, (k, QueryValue.single x) ∈ ds.foldl addPair t → Bytes.endsWith k listMark = false := by
  induction ds generalizing t with
  | nil => exact ht
  | cons d ds ih =>
    apply ih
    intro k x hkx
    obtain ⟨k', v⟩ := d
    unfold addPair at hkx
    dsimp only at hkx
    by_cases hl : Bytes.endsWith k' listMark = true
    · rw [if_pos hl] at hkx
      rcases Table.mem_insert hkx with heq | hkx
      · have hv := congrArg Prod.snd heq
        cases h : (t.get? (k'.take (k'.length - 2))).getD (.single []) <;>
          simp [h, QueryValue.appended] at hv
      · exact ht k x hkx
    · rw [if_neg hl] at hkx
      rcases Table.mem_insert hkx with heq | hkx
      · have hk : k = k' := congrArg Prod.fst heq
        rw [hk]
        simpa using hl
      · exact ht k x hkx

/-- Every single value of a parsed query sits under a key that does not end in `[]`. -/
theorem endsWith_of_single_mem_parse (q : Bytes) :
    ∀ k x, (k, QueryValue.single x) ∈ parse q → Bytes.endsWith k listMark = false := by
  unfold parse
  split
  · intro k x hkx
    cases hkx
  · exact endsWith_of_single_mem_foldl (fun k x h => by cases h) _

end Query

end HttpMock
