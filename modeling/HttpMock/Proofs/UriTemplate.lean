import HttpMock.Match.Matcher
import HttpMock.Proofs.Lookup
/-! URI templates, and when filling parameters one after another fills them all at once. -/
namespace HttpMock.Match

/-- The placeholder of a name: `{name}`. -/
def placeholder (k : Bytes) : Bytes := [0x7B] ++ k ++ [0x7D]

/-- Whether raw text holds neither brace. -/
def Braceless (k : Bytes) : Prop := 0x7B ∉ k ∧ 0x7D ∉ k

/-- A piece of a URI template: a literal octet or a placeholder. -/
inductive Seg where
  | lit (b : UInt8)
  | hole (name : Bytes)
  deriving DecidableEq, Repr

namespace Seg

/-- The text of a segment. -/
def text : Seg → Bytes
  | lit b => [b]
  | hole k => placeholder k

/-- A segment filled from parameter values: a placeholder with a value becomes the value. -/
def render (σ : Bytes → Option Bytes) : Seg → Bytes
  | lit b => [b]
  | hole k => (σ k).getD (placeholder k)

/-- A segment filled from parameter values, as segments: a value is taken literally. -/
def fill (σ : Bytes → Option Bytes) : Seg → List Seg
  | lit b => [lit b]
  | hole k =>
    match σ k with
    | some w => w.map lit
    | none => [hole k]

/-- A segment whose text cannot start a new placeholder: a literal other than `{`, or a
placeholder whose name holds no brace. -/
def Plain : Seg → Prop
  | lit b => b ≠ 0x7B
  | hole k => Braceless k

end Seg

/-- The value a single parameter gives. -/
def single (k v : Bytes) (k' : Bytes) : Option Bytes := if k' = k then some v else none

namespace Template

/-- Reads template segments, outside a placeholder (`none`) or after an open `{` and the name
read so far. A `{` that another `{` follows before a `}`, or that is never closed, is literal. -/
def parseFrom : Option Bytes → Bytes → List Seg
  | none, [] => []
  | some acc, [] => .lit 0x7B :: acc.map .lit
  | none, b :: r => if b = 0x7B then parseFrom (some []) r else .lit b :: parseFrom none r
  | some acc, b :: r =>
    if b = 0x7D then .hole acc :: parseFrom none r
    else if b = 0x7B then .lit 0x7B :: acc.map .lit ++ parseFrom (some []) r
    else parseFrom (some (acc ++ [b])) r

/-- The segments of a template. -/
def parse (t : Bytes) : List Seg := parseFrom none t

/-- Every placeholder of a template that has a value filled at once; all other text is kept. -/
def fillAll (σ : Bytes → Option Bytes) (t : Bytes) : Bytes := (parse t).flatMap (Seg.render σ)

/-- Whether, from a state inside or outside a placeholder, every `{` is closed by a `}` before
the next `{` and before the end. -/
def closedFrom : Bool → Bytes → Bool
  | inside, [] => !inside
  | inside, b :: r =>
    if b = 0x7B then !inside && closedFrom true r
    else if b = 0x7D then closedFrom false r
    else closedFrom inside r

/-- A template whose every `{` is closed by a `}` before the next `{` opens. -/
def Closed (t : Bytes) : Prop := closedFrom false t = true

instance (t : Bytes) : Decidable (Closed t) := inferInstanceAs (Decidable (_ = true))

end Template

/-! ### The template view -/

namespace Template

/-- Writing the segments back gives the text, with the open `{` and the name read so far in front. -/
theorem flatMap_text_parseFrom (st : Option Bytes) (t : Bytes) :
    (parseFrom st t).flatMap Seg.text = (st.elim [] fun acc => 0x7B :: acc) ++ t := by
  induction t generalizing st with
  | nil => cases st <;> simp [parseFrom, Seg.text, List.flatMap_map]
  | cons b r ih =>
    cases st with
    | none =>
      by_cases hb : b = 0x7B
      · simp [parseFrom, hb, ih]
      · simp [parseFrom, hb, ih, Seg.text]
    | some acc =>
      by_cases hc : b = 0x7D
      · simp [parseFrom, hc, ih, Seg.text, placeholder]
      · by_cases ho : b = 0x7B
        · simp [parseFrom, ho, ih, Seg.text, List.flatMap_map]
        · simp [parseFrom, hc, ho, ih]

theorem flatMap_text_parse (t : Bytes) : (parse t).flatMap Seg.text = t := by
  simpa [parse] using flatMap_text_parseFrom none t

/-- In a closed template every segment is plain. The state carries the name read so far, which
holds no brace. -/
theorem plain_parseFrom (t : Bytes) :
    ∀ st : Option Bytes, closedFrom st.isSome t = true → (∀ acc, st = some acc → Braceless acc) →
      ∀ s ∈ parseFrom st t, s.Plain := by
  induction t with
  | nil =>
    rintro (_ | acc) hclosed _ s hs
    · simp [parseFrom] at hs
    · simp [closedFrom] at hclosed
  | cons b r ih =>
    rintro (_ | acc) hclosed hacc s hs
    · by_cases ho : b = 0x7B
      · simp only [parseFrom, ho, if_true] at hs
        simp only [closedFrom, ho, if_true, Option.isSome_none, Bool.not_false, Bool.true_and] at hclosed
        exact ih (some []) hclosed (by simp [Braceless]) s hs
      · simp only [parseFrom, ho, if_false, List.mem_cons] at hs
        have hrest : closedFrom false r = true := by
          by_cases hc : b = 0x7D <;> simpa [closedFrom, ho, hc] using hclosed
        rcases hs with rfl | hs
        · exact ho
        · exact ih none hrest (by simp) s hs
    · have hbr := hacc acc rfl
      by_cases hc : b = 0x7D
      · simp only [parseFrom, hc, if_true, List.mem_cons] at hs
        simp only [closedFrom, hc, show (0x7D : UInt8) ≠ 0x7B by decide, if_false, if_true] at hclosed
        rcases hs with rfl | hs
        · exact hbr
        · exact ih none hclosed (by simp) s hs
      · by_cases ho : b = 0x7B
        · simp [closedFrom, ho] at hclosed
        · simp only [parseFrom, hc, ho, if_false] at hs
          simp only [closedFrom, hc, ho, if_false, Option.isSome_some] at hclosed
          refine ih (some (acc ++ [b])) hclosed ?_ s hs
          rintro _ ⟨⟩
          simp only [Braceless, List.mem_append, List.mem_singleton, not_or] at hbr ⊢
          exact ⟨⟨hbr.1, Ne.symm ho⟩, hbr.2, Ne.symm hc⟩

theorem plain_parse {t : Bytes} (ht : Closed t) : ∀ s ∈ parse t, s.Plain :=
  plain_parseFrom t none ht (by simp)

end Template

/-! ### Replacing one placeholder -/

section ReplaceOne

variable (k v : Bytes)

theorem isPrefixOf_placeholder_lit {b : UInt8} (hb : b ≠ 0x7B) (rest : Bytes) :
    (placeholder k).isPrefixOf (b :: rest) = false := by
  simp [placeholder, List.isPrefixOf, Ne.symm hb]

/-- Two brace-free names followed by `}` agree up to the `}` only if they are equal. -/
theorem eq_of_prefix_close {k k' rest : Bytes} (hk : 0x7D ∉ k) (hk' : 0x7D ∉ k')
    (h : k ++ [0x7D] <+: k' ++ 0x7D :: rest) : k = k' := by
  induction k generalizing k' with
  | nil =>
    cases k' with
    | nil => rfl
    | cons a k' =>
      have := (List.cons_prefix_cons.1 h).1
      simp_all
  | cons a k ih =>
    cases k' with
    | nil =>
      have := (List.cons_prefix_cons.1 h).1
      simp_all
    | cons a' k' =>
      obtain ⟨rfl, h'⟩ := List.cons_prefix_cons.1 h
      simp only [List.mem_cons, not_or] at hk hk'
      rw [ih hk.2 hk'.2 h']

theorem isPrefixOf_placeholder_hole {k' : Bytes} (hk : 0x7D ∉ k) (hk' : 0x7D ∉ k') (rest : Bytes) :
    (placeholder k).isPrefixOf (placeholder k' ++ rest) = decide (k = k') := by
  by_cases heq : k = k'
  · subst heq
    simp [List.isPrefixOf_iff_prefix]
  · have hnp : ¬ placeholder k <+: placeholder k' ++ rest := by
      intro hp
      simp only [placeholder, List.cons_append, List.cons_prefix_cons, true_and,
        List.append_assoc] at hp
      exact heq (eq_of_prefix_close hk hk' hp)
    rw [decide_eq_false heq]
    exact Bool.eq_false_iff.2 fun h => hnp (List.isPrefixOf_iff_prefix.1 h)

/-- One step of the replacement scan at a placeholder. -/
theorem go_placeholder_append (f : Nat) (k' rest : Bytes) :
    Bytes.replaceAll.go (placeholder k) v (f + 1) (placeholder k' ++ rest) =
      if (placeholder k).isPrefixOf (placeholder k' ++ rest) then
        v ++ Bytes.replaceAll.go (placeholder k) v f ((placeholder k' ++ rest).drop (placeholder k).length)
      else 0x7B :: Bytes.replaceAll.go (placeholder k) v f (k' ++ 0x7D :: rest) := by
  conv => lhs; rw [show placeholder k' ++ rest = 0x7B :: (k' ++ 0x7D :: rest) by simp [placeholder]]
  rw [Bytes.replaceAll.go, ← show placeholder k' ++ rest = 0x7B :: (k' ++ 0x7D :: rest) by
    simp [placeholder]]

/-- A run of octets without `{` passes through the replacement unchanged. -/
theorem go_of_no_open (u : Bytes) (hu : 0x7B ∉ u) (rest : Bytes) (f : Nat) (hf : u.length ≤ f) :
    Bytes.replaceAll.go (placeholder k) v f (u ++ rest) =
      u ++ Bytes.replaceAll.go (placeholder k) v (f - u.length) rest := by
  induction u generalizing f with
  | nil => simp
  | cons b u ih =>
    obtain ⟨f, rfl⟩ : ∃ g, f = g + 1 := ⟨f - 1, by simp at hf; omega⟩
    simp only [List.mem_cons, not_or] at hu
    rw [List.cons_append, Bytes.replaceAll.go, isPrefixOf_placeholder_lit k (Ne.symm hu.1)]
    simp only [Bool.false_eq_true, if_false, List.cons_append]
    rw [ih hu.2 f (by simp at hf; omega)]
    simp

theorem render_single_hole (k' : Bytes) :
    Seg.render (single k v) (.hole k') = if k' = k then v else placeholder k' := by
  by_cases h : k' = k <;> simp [Seg.render, single, h]

/-- Replacing a placeholder in the text of plain segments replaces exactly the placeholders of
that name, given fuel for every octet. -/
theorem go_flatMap_text (hk : Braceless k) (segs : List Seg) (hsegs : ∀ s ∈ segs, s.Plain)
    (f : Nat) (hf : (segs.flatMap Seg.text).length ≤ f) :
    Bytes.replaceAll.go (placeholder k) v f (segs.flatMap Seg.text) =
      segs.flatMap (Seg.render (single k v)) := by
  induction segs generalizing f with
  | nil => cases f <;> simp [Bytes.replaceAll.go]
  | cons s segs ih =>
    have hrest := fun s hs => hsegs s (List.mem_cons_of_mem _ hs)
    rw [List.flatMap_cons, List.length_append] at hf
    have hpos : 0 < s.text.length := by cases s <;> simp [Seg.text, placeholder]
    obtain ⟨f, rfl⟩ : ∃ g, f = g + 1 := ⟨f - 1, by omega⟩
    rw [List.flatMap_cons, List.flatMap_cons]
    cases s with
    | lit b =>
      have hb : b ≠ 0x7B := hsegs (.lit b) List.mem_cons_self
      simp only [Seg.text, List.singleton_append, Bytes.replaceAll.go,
        isPrefixOf_placeholder_lit k hb, Bool.false_eq_true, if_false, Seg.render] at hf ⊢
      rw [ih hrest f (by simp only [List.length_singleton] at hf; omega)]
    | hole k' =>
      have hk' : Braceless k' := hsegs (.hole k') List.mem_cons_self
      have hlen : (placeholder k').length = k'.length + 2 := by simp [placeholder]
      simp only [Seg.text, hlen] at hf
      rw [Seg.text, go_placeholder_append, isPrefixOf_placeholder_hole k hk.2 hk'.2,
        render_single_hole]
      by_cases heq : k' = k
      · subst heq
        rw [decide_eq_true rfl, if_pos rfl, if_pos rfl, List.drop_left,
          ih hrest f (by omega)]
      · have hno : 0x7B ∉ k' ++ [0x7D] := by simp [hk'.1]
        rw [decide_eq_false (Ne.symm heq), if_neg Bool.false_ne_true, if_neg heq,
          show k' ++ 0x7D :: segs.flatMap Seg.text = (k' ++ [0x7D]) ++ segs.flatMap Seg.text by simp,
          go_of_no_open k v _ hno _ f (by simp only [List.length_append, List.length_singleton]; omega),
          ih hrest _ (by simp only [List.length_append, List.length_singleton]; omega)]
        simp [placeholder]

theorem replaceAll_flatMap_text (hk : Braceless k) (segs : List Seg) (hsegs : ∀ s ∈ segs, s.Plain) :
    Bytes.replaceAll (segs.flatMap Seg.text) (placeholder k) v =
      segs.flatMap (Seg.render (single k v)) := by
  rw [show Bytes.replaceAll (segs.flatMap Seg.text) (placeholder k) v =
      Bytes.replaceAll.go (placeholder k) v (segs.flatMap Seg.text).length (segs.flatMap Seg.text) from rfl]
  exact go_flatMap_text k v hk segs hsegs _ (Nat.le_refl _)

end ReplaceOne

/-! ### Filling parameter after parameter -/

namespace Template

variable {σ : Bytes → Option Bytes}

theorem render_none (s : Seg) : s.render (fun _ => none) = s.text := by
  cases s <;> rfl

/-- Filling a segment as segments and writing them back renders it. -/
theorem flatMap_text_fill (s : Seg) : (s.fill σ).flatMap Seg.text = s.render σ := by
  cases s with
  | lit b => simp [Seg.fill, Seg.render, Seg.text]
  | hole k =>
    cases hk : σ k with
    | none => simp [Seg.fill, Seg.render, hk, Seg.text]
    | some w => simp [Seg.fill, Seg.render, hk, List.flatMap_map, Seg.text]

/-- Values without `{` keep filled segments plain. -/
theorem plain_fill (hσ : ∀ k w, σ k = some w → 0x7B ∉ w) {s : Seg} (hs : s.Plain) :
    ∀ s' ∈ s.fill σ, s'.Plain := by
  cases s with
  | lit b => simpa [Seg.fill] using hs
  | hole k =>
    cases hk : σ k with
    | none => simpa [Seg.fill, hk] using hs
    | some w =>
      simp only [Seg.fill, hk, List.mem_map]
      rintro _ ⟨b, hb, rfl⟩
      exact fun h => hσ k w hk (h ▸ hb)

/-- A filled value is taken literally by a later replacement; a placeholder left open is filled
by it if it has the later name. -/
theorem flatMap_render_single_fill (k v : Bytes) (s : Seg) :
    (s.fill σ).flatMap (Seg.render (single k v)) = s.render fun k' => (σ k').or (single k v k') := by
  cases s with
  | lit b => simp [Seg.fill, Seg.render]
  | hole k' =>
    cases hk : σ k' with
    | none => simp [Seg.fill, Seg.render, hk]
    | some w => simp [Seg.fill, Seg.render, hk, List.flatMap_map]

/-- Replacing one more placeholder in a simultaneous fill of a closed template is the simultaneous
fill with one more parameter, when the earlier values hold no `{`. -/
theorem replaceAll_fillAll {t : Bytes} (ht : Closed t) (hσ : ∀ k w, σ k = some w → 0x7B ∉ w)
    {k : Bytes} (hk : Braceless k) (v : Bytes) :
    Bytes.replaceAll (fillAll σ t) (placeholder k) v = fillAll (fun k' => (σ k').or (single k v k')) t := by
  have hsegs : ∀ s ∈ (parse t).flatMap (Seg.fill σ), s.Plain := by
    simp only [List.mem_flatMap]
    rintro s ⟨s₀, hs₀, hs⟩
    exact plain_fill hσ (plain_parse ht s₀ hs₀) s hs
  have hfill : fillAll σ t = ((parse t).flatMap (Seg.fill σ)).flatMap Seg.text := by
    simp only [fillAll, List.flatMap_assoc, flatMap_text_fill]
  rw [hfill, replaceAll_flatMap_text k v hk _ hsegs, List.flatMap_assoc]
  simp only [fillAll, flatMap_render_single_fill]

end Template

namespace UriParams

theorem fill_nil (t : Bytes) : UriParams.fill [] t = t := rfl

theorem fill_append_singleton (ps : UriParams) (k v t : Bytes) :
    UriParams.fill (ps ++ [(k, v)]) t = Bytes.replaceAll (ps.fill t) (placeholder k) v := by
  have hmarks : "\x7b".toBytes = [0x7B] ∧ "\x7d".toBytes = [0x7D] := by decide
  simp [UriParams.fill, List.foldl_append, placeholder, hmarks.1, hmarks.2]

/-- When names hold no brace, values hold no `{` and every `{` of the pattern is closed before the
next one opens, filling the pattern parameter after parameter fills every placeholder at once:
each placeholder of a set name becomes the name's value, and no other text changes. The result
depends on the values only, not on the order the parameters were set in. -/
theorem fill_eq_fillAll (ps : UriParams) (t : Bytes) (hkeys : ∀ kv ∈ ps, Braceless kv.1)
    (hvals : ∀ kv ∈ ps, 0x7B ∉ kv.2) (ht : Template.Closed t) :
    ps.fill t = Template.fillAll (Table.get? ps) t := by
  induction ps using List.reverseRecOn with
  | nil =>
    have hnone : Table.get? ([] : UriParams) = fun _ => none := rfl
    have hrender : Seg.render (fun _ => none) = Seg.text := funext Template.render_none
    rw [fill_nil, hnone, Template.fillAll, hrender, Template.flatMap_text_parse]
  | append_singleton ps kv ih =>
    obtain ⟨k, v⟩ := kv
    have hkeys' := fun kv hkv => hkeys kv (List.mem_append_left _ hkv)
    have hvals' := fun kv hkv => hvals kv (List.mem_append_left _ hkv)
    have hσ : ∀ k w, Table.get? ps k = some w → 0x7B ∉ w :=
      fun k w hw => hvals' (k, w) (Table.mem_of_get? hw)
    rw [fill_append_singleton, ih hkeys' hvals',
      Template.replaceAll_fillAll ht hσ (hkeys (k, v) (by simp)) v]
    congr 1
    funext k'
    rw [Table.get?_append_singleton_or]
    rfl

/-- Parameters for an identifier and a tab fill a pattern that names both. -/
theorem fill_users_pattern :
    UriParams.fill [("id".toBytes, "42".toBytes), ("tab".toBytes, "x".toBytes)] "/users/{id}/{tab}".toBytes =
      Template.fillAll (Table.get? [("id".toBytes, "42".toBytes), ("tab".toBytes, "x".toBytes)])
        "/users/{id}/{tab}".toBytes :=
  fill_eq_fillAll _ _ (by simp [Braceless]; decide) (by simp; decide) (by decide)

/-- A value that holds the placeholder of a parameter set after it gets that placeholder filled
too: with `a = "{b}"` set before `b = "x"`, the pattern `/{a}` becomes `/x`, while the
simultaneous fill gives `/{b}`, and so does setting the same two parameters the other way round. -/
theorem fill_value_placeholder :
    UriParams.fill [("a".toBytes, "{b}".toBytes), ("b".toBytes, "x".toBytes)] "/{a}".toBytes =
        "/x".toBytes ∧
      Template.fillAll (Table.get? [("a".toBytes, "{b}".toBytes), ("b".toBytes, "x".toBytes)])
        "/{a}".toBytes = "/{b}".toBytes ∧
      UriParams.fill [("b".toBytes, "x".toBytes), ("a".toBytes, "{b}".toBytes)] "/{a}".toBytes =
        "/{b}".toBytes := by
  decide

end UriParams

end HttpMock.Match
