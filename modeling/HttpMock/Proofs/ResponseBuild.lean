import Mathlib.Data.List.Nodup
import HttpMock.Response.Builder
import HttpMock.Proofs.FormBody
import HttpMock.Proofs.MatcherOrder
import HttpMock.Proofs.LowerCase
/-! Building a response from setter calls keeps, for each part, the last setter's effect. -/
namespace HttpMock.Response

/-! ### ASCII case -/

theorem lt_of_isNameOctet {b : UInt8} (h : isNameOctet b = true) : b < 0x80 := by
  have hall : ("!#$%&\x27*+-.^_\x60|~".toBytes.all fun c => decide (c < 0x80)) = true := rfl
  have hmarks : ∀ c ∈ "!#$%&\x27*+-.^_\x60|~".toBytes, c < 0x80 := fun c hc =>
    of_decide_eq_true (List.all_eq_true.1 hall c hc)
  unfold isNameOctet at h
  simp only [Bool.or_eq_true, Bool.and_eq_true, decide_eq_true_eq, List.contains_iff_mem,
    UInt8.le_iff_toNat_le, UInt8.reduceToNat] at h
  have hnum : b.toNat < 128 → b < 0x80 := fun hb => by
    rw [UInt8.lt_iff_toNat_lt]
    exact hb
  rcases h with ((h | h) | h) | h
  · exact hnum (by omega)
  · exact hnum (by omega)
  · exact hnum (by omega)
  · exact hmarks b h

/-! ### Canonical header names -/

section CaseFold

variable {σ : Type} (f : Bytes × σ → UInt8 → Bytes × σ)

/-- A fold that conses, for each octet, one of the same lower case keeps the text up to case. -/
theorem map_asciiLower_foldl
    (hf : ∀ acc b, ∃ c, (f acc b).1 = c :: acc.1 ∧ Bytes.asciiLower c = Bytes.asciiLower b)
    (k : Bytes) (acc : Bytes × σ) :
    (k.foldl f acc).1.reverse.map Bytes.asciiLower = acc.1.reverse.map Bytes.asciiLower ++ k.map Bytes.asciiLower := by
  induction k generalizing acc with
  | nil => simp
  | cons b k ih =>
    obtain ⟨c, hc, hlow⟩ := hf acc b
    rw [List.foldl_cons, ih, hc]
    simp [hlow]

/-- A fold that conses an ASCII octet for each ASCII octet writes ASCII. -/
theorem ascii_foldl (hf : ∀ acc b, b < 0x80 → ∃ c, (f acc b).1 = c :: acc.1 ∧ c < 0x80)
    (k : Bytes) (hk : ∀ b ∈ k, b < 0x80) (acc : Bytes × σ) (hacc : ∀ b ∈ acc.1, b < 0x80) :
    ∀ b ∈ (k.foldl f acc).1, b < 0x80 := by
  induction k generalizing acc with
  | nil => exact hacc
  | cons b k ih =>
    obtain ⟨c, hc, hlt⟩ := hf acc b (hk b List.mem_cons_self)
    refine ih (fun b hb => hk b (List.mem_cons_of_mem _ hb)) _ ?_
    rw [hc]
    rintro d (_ | ⟨_, hd⟩)
    · exact hlt
    · exact hacc d hd

/-- A fold that conses, for each octet, one of the same lower case, ASCII for ASCII, keeps the
lowering of an ASCII text. -/
theorem lower_foldl
    (hf : ∀ acc b, ∃ c, (f acc b).1 = c :: acc.1 ∧ Bytes.asciiLower c = Bytes.asciiLower b ∧
      (b < 0x80 → c < 0x80))
    (k : Bytes) (hk : ∀ b ∈ k, b < 0x80) (s : σ) :
    Text.lower (k.foldl f ([], s)).1.reverse = Text.lower k := by
  have hlow := map_asciiLower_foldl f (fun acc b => (hf acc b).imp fun _ h => ⟨h.1, h.2.1⟩) k ([], s)
  have hascii := ascii_foldl f (fun acc b hb => (hf acc b).imp fun _ h => ⟨h.1, h.2.2 hb⟩) k hk
    ([], s) (by simp)
  rw [Text.lower_of_ascii hk, Text.lower_of_ascii (fun b hb => hascii b (List.mem_reverse.1 hb)), hlow]
  simp

end CaseFold

/-- Lowering a canonical header name gives the lowered name: canonical form only changes case,
and a name it keeps as written is lowered as it is. -/
theorem lower_canonicalKey (k : Bytes) : Text.lower (canonicalKey k) = Text.lower k := by
  unfold canonicalKey
  split
  · rfl
  · rename_i hname
    have hk : ∀ b ∈ k, b < 0x80 := fun b hb =>
      lt_of_isNameOctet (List.all_eq_true.1 (by simpa using hname) b hb)
    refine lower_foldl _ ?_ k hk true
    rintro ⟨out, upper⟩ b
    cases upper
    · exact ⟨_, rfl, Text.asciiLower_asciiLower b, Text.asciiLower_lt⟩
    · exact ⟨_, rfl, Text.asciiLower_asciiUpper b, Text.asciiUpper_lt⟩

/-- Distinct lower-case names have distinct canonical forms. -/
theorem canonicalKey_inj {k k' : Bytes} (hk : Text.lower k = k) (hk' : Text.lower k' = k')
    (h : canonicalKey k = canonicalKey k') : k = k' := by
  rw [← hk, ← hk', ← lower_canonicalKey, h, lower_canonicalKey]

/-- The headers of a response: each entry of a builder's table under the canonical form of its
name. -/
def canonicalHeaders (t : Table Bytes) : Table (List Bytes) :=
  t.foldl (fun acc (k, v) => acc.insert (canonicalKey k) [v]) []

/-- Over a table of distinct lower-case names, the response has one entry per name, under its
canonical form and in the same order, holding the name's value. -/
theorem canonicalHeaders_spec (t : Table Bytes) (hnd : (Table.keyList t).Nodup)
    (hl : ∀ k ∈ Table.keyList t, Text.lower k = k) :
    Table.keyList (canonicalHeaders t) = (Table.keyList t).map canonicalKey ∧
    ∀ k, Text.lower k = k → (canonicalHeaders t).get? (canonicalKey k) = (t.get? k).map fun v => [v] := by
  induction t using List.reverseRecOn with
  | nil => simp [canonicalHeaders]
  | append_singleton t p ih =>
    simp only [Table.keyList_append, Table.keyList_cons, Table.keyList_nil, List.nodup_append,
      List.mem_singleton] at hnd
    have hlt : ∀ k ∈ Table.keyList t, Text.lower k = k := fun k hk => hl k (by simp [hk])
    have hp : Text.lower p.1 = p.1 := hl p.1 (by simp)
    have hnew : p.1 ∉ Table.keyList t := fun h => hnd.2.2 p.1 h p.1 rfl rfl
    obtain ⟨ihkeys, ihget⟩ := ih hnd.1 hlt
    -- the new name's canonical form is new, since canonical forms of lower-case names differ
    have hcnew : canonicalKey p.1 ∉ Table.keyList (canonicalHeaders t) := by
      rw [ihkeys]
      rintro hmem
      obtain ⟨k, hk, hck⟩ := List.mem_map.1 hmem
      exact hnew (canonicalKey_inj (hlt k hk) hp hck ▸ hk)
    have hstep : canonicalHeaders (t ++ [p]) = (canonicalHeaders t).insert (canonicalKey p.1) [p.2] := by
      simp [canonicalHeaders, List.foldl_append]
    refine ⟨?_, fun k hk => ?_⟩
    · rw [hstep, Table.keyList_insert, if_neg hcnew, ihkeys]
      simp
    · rw [hstep, Table.get?_insert, Table.get?_append_singleton_or]
      by_cases hkp : k = p.1
      · subst hkp
        simp [Table.get?_eq_none_of_not_mem hnew]
      · have hck : canonicalKey k ≠ canonicalKey p.1 := fun h => hkp (canonicalKey_inj hk hp h)
        simp [hck, hkp, ihget k hk]

theorem keyList_insertAll_nil {α : Type} (l : List (Bytes × α)) :
    Table.keyList (Table.insertAll [] l) = (l.map (·.1)).eraseDups := by
  induction l using List.reverseRecOn with
  | nil => rfl
  | append_singleton l p ih =>
    rw [Table.insertAll, List.foldl_append, List.foldl_cons, List.foldl_nil, ← Table.insertAll,
      Table.keyList_insert, ih, List.map_append, List.map_singleton, Expectation.eraseDups_snoc]

/-! ### Setters -/

namespace Builder

/-- One setter call on a builder; making responses with a callback is not one of them. -/
inductive Setter where
  | code (c : Int)
  | header (name value : Bytes)
  | contentType (t : Bytes)
  | contentLength (n : Int)
  | etag (t : Bytes)
  | content (c : Bytes)
  | json (v : Option Payload)
  | xml (data : Bytes)

namespace Setter

/-- The status a setter sets. -/
def code? : Setter → Option Int
  | code c => some c
  | _ => none

/-- The headers a setter sets, by name as given, in order. -/
def headers : Setter → List (Bytes × Bytes)
  | header n v => [(n, v)]
  | contentType t => [("Content-Type".toBytes, t)]
  | contentLength n => [("Content-Length".toBytes, (toString n).toBytes)]
  | etag t => [("ETag".toBytes, t)]
  | json _ => [("Content-Type".toBytes, "application/json".toBytes)]
  | xml _ => [("Content-Type".toBytes, "text/xml".toBytes)]
  | _ => []

/-- What a setter does to the body: a new body, or `none` to clear it; nothing when it leaves the
body alone, as a JSON value without a JSON form does. -/
def body? : Setter → Option (Option Bytes)
  | content c => some (some c)
  | xml d => some (some d)
  | json none => some none
  | json (some p) => match p.encode with
    | .ok j => some (some (Json.compact j).toBytes)
    | .error _ => none
  | _ => none

/-- The encoding failure of a JSON value without a JSON form. -/
def failure? : Setter → Option String
  | json (some p) => match p.encode with
    | .ok _ => none
    | .error e => some e
  | _ => none

end Setter

/-- A builder after one setter call. -/
def set (b : Builder) : Setter → Builder
  | .code c => b.withCode c
  | .header n v => b.withHeader n v
  | .contentType t => b.withContentType t
  | .contentLength n => b.withContentLength n
  | .etag t => b.withETag t
  | .content c => b.withContent c
  | .json v => b.withJson v
  | .xml d => b.withXml d

/-- The builder that a sequence of setter calls makes from a new one. -/
def run (ss : List Setter) : Builder := ss.foldl set {}

/-- The headers a sequence of setter calls sets, by lower-case name, in order. -/
def headerSets (ss : List Setter) : List (Bytes × Bytes) :=
  (ss.flatMap Setter.headers).map fun nv => (Text.lower nv.1, nv.2)

/-- One setter call: its headers inserted by lower-case name, the body replaced, cleared or
kept, the status set or kept, and its failure recorded over an earlier one. -/
theorem set_eq (b : Builder) (s : Setter) :
    b.set s = { headers := b.headers.insertAll (s.headers.map fun nv => (Text.lower nv.1, nv.2)),
                content := s.body?.getD b.content, code := s.code?.getD b.code,
                callback := b.callback, error := s.failure?.or b.error } := by
  cases s with
  | json v =>
    cases v with
    | none => rfl
    | some p =>
      cases hp : p.encode <;>
        simp [set, withJson, Setter.headers, Setter.body?, Setter.failure?, Setter.code?, hp, withContentType,
          withHeader, withContent, Table.insertAll]
  | _ => rfl

theorem getLast?_filterMap_snoc {α β : Type} (f : α → Option β) (l : List α) (a : α) :
    ((l ++ [a]).filterMap f).getLast? = (f a).or (l.filterMap f).getLast? := by
  cases h : f a <;> simp [List.filterMap_append, h]

/-- A run of setter calls keeps, for each part of the builder, the effect of the last call that
touched it, and the headers of every call. -/
theorem run_eq (ss : List Setter) :
    run ss = { headers := Table.insertAll [] (headerSets ss),
               content := ((ss.filterMap Setter.body?).getLast?).getD none,
               code := ((ss.filterMap Setter.code?).getLast?).getD 0,
               error := (ss.filterMap Setter.failure?).getLast? } := by
  induction ss using List.reverseRecOn with
  | nil => rfl
  | append_singleton ss s ih =>
    rw [run, List.foldl_append, ← run, ih, List.foldl_cons, List.foldl_nil, set_eq]
    simp only [getLast?_filterMap_snoc, headerSets, List.flatMap_append, List.flatMap_singleton,
      List.map_append, Table.insertAll, List.foldl_append]
    cases s.body? <;> cases s.code? <;> rfl

/-! ### Building -/

theorem build_of_callback_none (b : Builder) (h : b.callback = none) (r : Request) :
    b.build r = match b.error with
      | some e => .error (.encoding e)
      | none => .ok { status := b.code, headers := canonicalHeaders b.headers, body := b.content } := by
  unfold build
  cases b.error with
  | some e => rfl
  | none => simp [h, pure, Except.pure, canonicalHeaders]

/-- The headers a run sets are lower-case names without repeats, each holding the last value set
under any case of it. -/
theorem headers_run (ss : List Setter) :
    (Table.keyList (run ss).headers).Nodup ∧
    (∀ k ∈ Table.keyList (run ss).headers, Text.lower k = k) ∧
    Table.keyList (run ss).headers = ((headerSets ss).map (·.1)).eraseDups ∧
    ∀ k, (run ss).headers.get? k = Query.lastValue (headerSets ss) k := by
  rw [run_eq]
  refine ⟨?_, fun k hk => ?_, keyList_insertAll_nil _, fun k => ?_⟩
  · exact Table.nodup_insertAll (by simp : (Table.keyList ([] : Table Bytes)).Nodup) _
  · rw [keyList_insertAll_nil, List.mem_eraseDups] at hk
    obtain ⟨nv, hnv, rfl⟩ := List.mem_map.1 hk
    obtain ⟨nv', -, rfl⟩ := List.mem_map.1 hnv
    exact Text.lower_lower nv'.1
  · simpa using Table.get?_insertAll_lastValue [] (headerSets ss) k

/-- Building after a run of setter calls fails exactly when some JSON call failed, with the last
failing call's failure. Otherwise it gives the last status, one header per lower-case name set,
under its canonical form and in the order first set, holding the last value set under any case of
the name, and the last body set, none when none was or a JSON `null` cleared it. -/
theorem build_run (ss : List Setter) (r : Request) :
    (∀ m, (ss.filterMap Setter.failure?).getLast? = some m →
      (run ss).build r = .error (.encoding m)) ∧
    (ss.filterMap Setter.failure? = [] → ∃ resp, (run ss).build r = .ok resp ∧
      resp.status = ((ss.filterMap Setter.code?).getLast?).getD 0 ∧
      (Table.keyList resp.headers).Nodup ∧
      Table.keyList resp.headers = ((headerSets ss).map (·.1)).eraseDups.map canonicalKey ∧
      (∀ name, resp.headers.get? (canonicalKey (Text.lower name)) =
        (Query.lastValue (headerSets ss) (Text.lower name)).map fun v => [v]) ∧
      resp.body = ((ss.filterMap Setter.body?).getLast?).getD none) := by
  have hcb : (run ss).callback = none := by rw [run_eq]
  have herr : (run ss).error = (ss.filterMap Setter.failure?).getLast? := by rw [run_eq]
  have hlast : ∀ m, (ss.filterMap Setter.failure?).getLast? = some m →
      (run ss).build r = .error (.encoding m) := fun m hm => by
    rw [build_of_callback_none _ hcb, herr, hm]
  refine ⟨hlast, fun hnil => ?_⟩
  · obtain ⟨hnd, hl, hkeys, hget⟩ := headers_run ss
    obtain ⟨hckeys, hcget⟩ := canonicalHeaders_spec _ hnd hl
    refine ⟨_, by rw [build_of_callback_none _ hcb, herr, hnil]; rfl, by rw [run_eq], ?_, ?_, ?_, by rw [run_eq]⟩
    · rw [hckeys]
      exact hnd.map_on fun a ha b hb h => canonicalKey_inj (hl a ha) (hl b hb) h
    · rw [hckeys, hkeys]
    · intro name
      rw [hcget _ (Text.lower_lower name), hget]

/-- Two JSON values without a JSON form, a channel and then a function: building reports the
function's failure, not the channel's, which came first. -/
theorem build_reports_last_json_failure :
    (run [.json (some (.unencodable "chan int")), .json (some (.unencodable "func()"))]).build
        { method := [], uri := [] } = .error (.encoding "json: unsupported type: func()") ∧
      ("json: unsupported type: func()" : String) ≠ "json: unsupported type: chan int" :=
  ⟨rfl, by decide⟩

end Builder

end HttpMock.Response
