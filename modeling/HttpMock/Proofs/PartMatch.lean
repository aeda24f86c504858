import HttpMock.Match.Matcher
import HttpMock.Proofs.Lookup
import HttpMock.Proofs.QueryRoundTrip
/-! Multipart matching verdicts, and why a part with an empty name is never a hit. -/
namespace HttpMock

namespace Match

/-! ### Declared attributes -/

/-- The attributes a part expectation declares, in the order mimetype, filename, content; an
empty attribute is not declared. -/
def PartSpec.declared (s : PartSpec) : List (String × Bytes) :=
  [("mimetype", s.mimetype), ("filename", s.filename), ("content", s.content)].filter
    fun kv => !kv.2.isEmpty

/-- A part carries every attribute that a part expectation declares. -/
def PartSpec.Fits (s : PartSpec) (p : Part) : Prop :=
  (s.mimetype ≠ [] → p.mimetype = some s.mimetype) ∧
  (s.filename ≠ [] → p.filename = some s.filename) ∧
  (s.content ≠ [] → p.content = some s.content)

/-- The compared attributes are the name, then the declared ones. -/
theorem PartSpec.attrs_eq (n : Bytes) (s : PartSpec) : s.attrs n = ("name", n) :: s.declared := by
  unfold PartSpec.attrs PartSpec.declared
  cases hm : s.mimetype.isEmpty <;> cases hf : s.filename.isEmpty <;> cases hc : s.content.isEmpty <;>
    simp [List.filter, hm, hf, hc]

theorem partAttr_name {p : Part} (h : p.name ≠ []) : partAttr p "name" = some p.name := by
  simpa [partAttr] using h

/-- A part fits exactly when each declared attribute reads back from it. -/
theorem fits_iff_declared (s : PartSpec) (p : Part) :
    s.Fits p ↔ ∀ kv ∈ s.declared, partAttr p kv.1 = some kv.2 := by
  simp only [PartSpec.Fits, PartSpec.declared, partAttr]
  simp
  tauto

/-- The matcher's pairwise comparison of expected and reduced attributes holds exactly when every
expected attribute reads back. -/
theorem all_reduced_iff (l : List (String × Bytes)) (f : String → Option Bytes) :
    ((l.zip (l.map fun (k, _) => (k, f k))).all (fun ((_, v), (_, w)) => w == some v)) = true ↔
      ∀ kv ∈ l, f kv.1 = some kv.2 := by
  induction l with
  | nil => simp
  | cons kv l ih => simp [ih]

/-! ### Attributes as JSON text -/

/-- An attribute as a JSON value: a string, or `null` when absent. -/
def attrJson : Option Bytes → Json
  | some x => .string (Bytes.toText x)
  | none => .null

/-- Attributes written as a compact JSON object, members in the given order. -/
def attrsText (attrs : List (String × Option Bytes)) : Bytes :=
  (Json.compactWith false (.object (attrs.map fun kv => (kv.1, attrJson kv.2)))).toBytes

theorem compactMembers_attrs (attrs : List (String × Option Bytes)) :
    Json.compactMembers false (attrs.map fun kv => (kv.1, attrJson kv.2)) =
      attrs.map fun kv => (kv.1, Json.compactWith false (attrJson kv.2)) := by
  induction attrs with
  | nil => simp [Json.compactMembers]
  | cons kv attrs ih => simp [Json.compactMembers, ih]

theorem jsonString_eq (bs : Bytes) : jsonString bs = (Json.quote (Bytes.toText bs)).toBytes := by
  simp [jsonString, Json.compact, Json.compactWith]

/-- The matcher's attribute text is the compact JSON object of the attributes, in their order. -/
theorem encodeAttrs_eq_attrsText (attrs : List (String × Option Bytes)) :
    encodeAttrs attrs = attrsText attrs := by
  simp only [encodeAttrs, attrsText, Json.compactWith, compactMembers_attrs, String.toBytes_append,
    String.toBytes_intercalate, List.map_map, Bool.false_eq_true, if_false]
  have hmarks : "\x7b".toBytes = [123] ∧ "\x7d".toBytes = [125] ∧ ",".toBytes = [44] ∧
      ":".toBytes = [58] := by decide
  rw [hmarks.1, hmarks.2.1, hmarks.2.2.1]
  refine congrArg (fun m => [123] ++ List.intercalate [44] m ++ [125]) (List.map_congr_left ?_)
  intro kv _
  obtain ⟨k, v⟩ := kv
  cases v <;> simp [jsonString_eq, Bytes.toText_toBytes, attrJson, Json.compactWith, hmarks.2.2.2]

/-! ### The three verdicts -/

section Verdicts

variable (ps : UriParams) (r : Request) (n : Bytes) (s : PartSpec)

theorem check_multipart_of_none (h : r.multiparts.get? n = none) :
    (Matcher.multipart n s).check ps r =
      .missing .multipart n (encodeAttrs ((s.attrs n).map fun kv => (kv.1, some kv.2))) := by
  simp [Matcher.check, h]

theorem check_multipart_of_fits {p : Part} (h : r.multiparts.get? n = some p) (hname : p.name = n)
    (hn : n ≠ []) (hfit : s.Fits p) : (Matcher.multipart n s).check ps r = .hit .multipart n n := by
  have hall : ∀ kv ∈ s.attrs n, partAttr p kv.1 = some kv.2 := by
    rw [PartSpec.attrs_eq]
    rintro kv (_ | ⟨_, hkv⟩)
    · exact hname ▸ partAttr_name (hname ▸ hn)
    · exact (fits_iff_declared s p).1 hfit kv hkv
  simp only [Matcher.check, h]
  rw [if_pos ((all_reduced_iff _ _).2 hall)]

theorem check_multipart_of_not_fits {p : Part} (h : r.multiparts.get? n = some p)
    (hfit : ¬ s.Fits p) :
    (Matcher.multipart n s).check ps r =
      .mismatch .multipart n (encodeAttrs ((s.attrs n).map fun kv => (kv.1, some kv.2)))
        (some (encodeAttrs ((s.attrs n).map fun kv => (kv.1, partAttr p kv.1)))) := by
  have hall : ¬ ∀ kv ∈ s.attrs n, partAttr p kv.1 = some kv.2 := by
    rw [PartSpec.attrs_eq]
    intro hall
    exact hfit ((fits_iff_declared s p).2 fun kv hkv => hall kv (List.mem_cons_of_mem _ hkv))
  simp only [Matcher.check, h]
  rw [if_neg (fun hc => hall ((all_reduced_iff _ _).1 hc))]

end Verdicts

/-- Over a request that files each part under its own name, a matcher for a non-empty part name
reports the part missing exactly when there is none of that name, a hit exactly when the part
carries every declared attribute, and otherwise a mismatch whose expected and actual values are
JSON objects with the same members in the same order: the name, then the declared attributes,
absent ones of the part as `null`. -/
theorem check_multipart_verdicts (ps : UriParams) (r : Request) (n : Bytes) (s : PartSpec)
    (hstore : ∀ kp ∈ r.multiparts, kp.2.name = kp.1) (hn : n ≠ []) :
    let o := (Matcher.multipart n s).check ps r
    o.category = .multipart ∧ o.key = n ∧
    (o.verdict = .missing ↔ r.multiparts.get? n = none) ∧
    (o.verdict = .hit ↔ ∃ p, r.multiparts.get? n = some p ∧ s.Fits p) ∧
    (o.verdict = .mismatch → ∃ p, r.multiparts.get? n = some p ∧
      o.expected = attrsText (("name", some n) :: s.declared.map fun kv => (kv.1, some kv.2)) ∧
      o.actual = some (attrsText (("name", some n) :: s.declared.map fun kv => (kv.1, partAttr p kv.1)))) := by
  intro o
  cases hget : r.multiparts.get? n with
  | none =>
    have ho : o = _ := check_multipart_of_none ps r n s hget
    simp [ho, Outcome.missing]
  | some p =>
    have hname : p.name = n := hstore (n, p) (Table.mem_of_get? hget)
    by_cases hfit : s.Fits p
    · have ho : o = _ := check_multipart_of_fits ps r n s hget hname hn hfit
      simp [ho, Outcome.hit, hfit]
    · have ho : o = _ := check_multipart_of_not_fits ps r n s hget hfit
      simp only [ho, Outcome.mismatch, true_and, reduceCtorEq, Option.some.injEq, exists_eq_left',
        hfit, forall_const]
      refine ⟨?_, ?_⟩
      · rw [encodeAttrs_eq_attrsText, PartSpec.attrs_eq]
        simp
      · rw [encodeAttrs_eq_attrsText, PartSpec.attrs_eq]
        simp [partAttr_name (hname ▸ hn : p.name ≠ []), hname]

/-- A matcher that declares the mimetype of a text part named `file` hits it. -/
theorem check_multipart_text_part_hit :
    ((Matcher.multipart "file".toBytes { mimetype := "text/plain".toBytes }).check []
      { method := [], uri := [],
        multiparts := [("file".toBytes, { name := "file".toBytes, mimetype := some "text/plain".toBytes })] }).verdict =
      .hit := by
  obtain ⟨-, -, -, hhit, -⟩ := check_multipart_verdicts []
    { method := [], uri := [],
      multiparts := [("file".toBytes, { name := "file".toBytes, mimetype := some "text/plain".toBytes })] }
    "file".toBytes { mimetype := "text/plain".toBytes } (by simp) (by decide)
  exact hhit.2 ⟨_, rfl, by simp [PartSpec.Fits]⟩

/-- A part filed under the empty name carries every attribute of an expectation that declares
none, yet the matcher for the empty name reports a mismatch: the part's empty name reads as
absent. -/
theorem check_multipart_nameless_part :
    let r : Request := { method := [], uri := [], multiparts := [([], { name := [] })] }
    (∀ kp ∈ r.multiparts, kp.2.name = kp.1) ∧ r.multiparts.get? [] = some { name := [] } ∧
      PartSpec.Fits {} { name := [] } ∧ ((Matcher.multipart [] {}).check [] r).verdict = .mismatch := by
  intro r
  exact ⟨by simp [r], rfl, by simp [PartSpec.Fits], rfl⟩

end Match

end HttpMock
