import Mathlib
import HttpMock.Proofs.LowerCase
import HttpMock.Proofs.RequestLine
import HttpMock.Proofs.FixtureBuild
import HttpMock.Proofs.JsonMatch
/-! Expectations made from a request, and when they accept the request they were made from. -/
namespace HttpMock

/-! ### What normalizing guarantees -/

theorem nodup_formParams (raw : Bytes) : (Table.keyList (formParams raw)).Nodup := by
  unfold formParams
  split
  · exact List.nodup_nil
  · refine List.foldlRecOn (motive := fun t => (Table.keyList t).Nodup) _ _ List.nodup_nil ?_
    intro t ht pair _
    split
    exact Table.nodup_insert ht _ _

/-- A multipart table holds each part under its own name, once. -/
theorem multipartTable_entries {ct raw : Bytes} {t : Table Part} (h : multipartTable ct raw = .ok t) :
    (Table.keyList t).Nodup ∧ ∀ kp ∈ t, kp.2.name = kp.1 := by
  unfold multipartTable at h
  simp only [bind, Except.bind, pure, Except.pure, throw, throwThe, MonadExceptOf.throw] at h
  repeat' (split at h)
  all_goals (try cases h)
  refine List.foldlRecOn
    (motive := fun (t : Table Part) => (Table.keyList t).Nodup ∧ ∀ kp ∈ t, kp.2.name = kp.1)
    _ _ ⟨List.nodup_nil, by simp⟩ ?_
  intro t ⟨hnd, hname⟩ p _
  refine ⟨Table.nodup_insert hnd _ _, fun kp hkp => ?_⟩
  rcases Table.mem_insert hkp with rfl | hkp
  · rfl
  · exact hname kp hkp

/-- A property that every successful step of a fold in `Except` keeps holds of its result. -/
theorem foldlM_except_invariant {ε β γ : Type} (P : γ → Prop) {f : γ → β → Except ε γ}
    (hf : ∀ acc x acc', P acc → f acc x = .ok acc' → P acc') :
    ∀ (l : List β) {acc t : γ}, P acc → l.foldlM f acc = .ok t → P t := by
  intro l
  induction l with
  | nil =>
    intro acc t hacc hfold
    cases hfold
    exact hacc
  | cons x l ih =>
    intro acc t hacc hfold
    rw [List.foldlM_cons] at hfold
    cases hstep : f acc x with
    | error e =>
      rw [hstep] at hfold
      cases hfold
    | ok acc' =>
      rw [hstep] at hfold
      exact ih (hf acc x acc' hacc hstep) hfold

/-- A header table holds each name once, already in lower case. -/
theorem headerTable_entries {o : Options} {t : Table Bytes} (h : o.headerTable = .ok t) :
    (Table.keyList t).Nodup ∧ ∀ k ∈ Table.keyList t, Text.lower k = k := by
  have hnil : (Table.keyList ([] : Table Bytes)).Nodup ∧
      ∀ k ∈ Table.keyList ([] : Table Bytes), Text.lower k = k := ⟨List.nodup_nil, by simp⟩
  refine foldlM_except_invariant
    (fun t => (Table.keyList t).Nodup ∧ ∀ k ∈ Table.keyList t, Text.lower k = k) ?_ o.headers hnil h
  intro acc line acc' ⟨hnd, hlow⟩ hstep
  split at hstep
  · cases hstep
  · cases hstep
    refine ⟨Table.nodup_insert hnd _ _, fun k hk => ?_⟩
    rw [Table.keyList_insert] at hk
    split at hk
    · exact hlow k hk
    · rcases List.mem_append.1 hk with hk | hk
      · exact hlow k hk
      · rw [List.mem_singleton.1 hk, Text.lower_lower]

/-- What normalizing keeps of a URL and its options, whatever the body. -/
structure Normalized (url : Bytes) (o : Options) (r : Request) : Prop where
  uri : r.uri = (url.cut 0x3F).1
  headers : o.headerTable = .ok r.headers
  queryParams : r.queryParams =
    ((url.cut 0x3F).2.map fun q => o.queryParams.insertAll (Query.parse q)).getD o.queryParams
  requestParams : r.requestParams = [] ∨ ∃ raw, r.requestParams = formParams raw
  multiparts : r.multiparts = [] ∨ ∃ ct raw, multipartTable ct raw = .ok r.multiparts
  json : ∀ j ∈ r.json, Json.IsBody j

theorem normalize_ok {method url : Bytes} {o : Options} {r : Request}
    (h : Request.normalize method url o = .ok r) : Normalized url o r := by
  unfold Request.normalize at h
  rcases hc : url.cut 0x3F with ⟨uri, query⟩
  rw [hc] at h
  cases hh : o.headerTable with
  | error x => simp [hh] at h; cases h
  | ok headers =>
    simp only [hh, bind, Except.bind, pure, Except.pure, throw, throwThe,
      MonadExceptOf.throw] at h
    repeat' (split at h)
    all_goals (try cases h)
    all_goals
      refine ⟨by simp [hc], hh, by simp [hc], ?_, ?_, ?_⟩
      all_goals first
        | exact .inl (by with_reducible rfl)
        | exact .inr ⟨_, by with_reducible rfl⟩
        | exact .inr ⟨_, _, ‹_›⟩
        | exact fun _ hj => absurd hj (Option.not_mem_none _)
        | exact Payload.isBody_normalize ‹_›
        | exact isBody_rawJson? ‹_›

namespace Normalized

variable {url : Bytes} {o : Options} {r : Request}

theorem not_mem_uri (h : Normalized url o r) : 0x3F ∉ r.uri := by
  rw [h.uri]
  exact Bytes.not_mem_cut_fst url 0x3F

theorem ofUri_uri (h : Normalized url o r) : Match.Matcher.ofUri r.uri = .ok (.uri r.uri) := by
  simp [Match.Matcher.ofUri, h.not_mem_uri]
  rfl

theorem nodup_headers (h : Normalized url o r) : (Table.keyList r.headers).Nodup :=
  (headerTable_entries h.headers).1

theorem lower_headers (h : Normalized url o r) : ∀ k ∈ Table.keyList r.headers, Text.lower k = k :=
  (headerTable_entries h.headers).2

theorem nodup_queryParams (h : Normalized url o r) (ho : (Table.keyList o.queryParams).Nodup) :
    (Table.keyList r.queryParams).Nodup := by
  rw [h.queryParams]
  cases (url.cut 0x3F).2 with
  | none => exact ho
  | some q => exact Table.nodup_insertAll ho _

theorem endsWith_of_single (h : Normalized url o r)
    (ho : ∀ k x, (k, QueryValue.single x) ∈ o.queryParams → Bytes.endsWith k Query.listMark = false)
    {k x : Bytes} (hkx : (k, QueryValue.single x) ∈ r.queryParams) :
    Bytes.endsWith k Query.listMark = false := by
  rw [h.queryParams] at hkx
  cases hq : (url.cut 0x3F).2 with
  | none =>
    rw [hq] at hkx
    exact ho k x hkx
  | some q =>
    rw [hq] at hkx
    rcases Table.mem_insertAll hkx with hp | hp
    · exact Query.endsWith_of_single_mem_parse q k x hp
    · exact ho k x hp

theorem nodup_requestParams (h : Normalized url o r) : (Table.keyList r.requestParams).Nodup := by
  rcases h.requestParams with hp | ⟨raw, hp⟩
  · simp [hp]
  · rw [hp]
    exact nodup_formParams raw

theorem multiparts_entries (h : Normalized url o r) :
    (Table.keyList r.multiparts).Nodup ∧ ∀ kp ∈ r.multiparts, kp.2.name = kp.1 := by
  rcases h.multiparts with hp | ⟨ct, raw, hp⟩
  · simp [hp]
  · exact multipartTable_entries hp

end Normalized

/-! ### Matchers written from a request -/

namespace Match.Matcher

variable {r : Request}

theorem check_header_isHit (hnd : (Table.keyList r.headers).Nodup) {k v : Bytes}
    (hmem : (k, v) ∈ r.headers) (hk : Text.lower k = k) :
    (check [] r (.header (Text.lower k) v)).isHit := by
  have hget : r.header? (Text.lower k) = some v := by
    rw [Request.header?, hk, hk]
    exact Table.get?_of_mem hnd hmem
  simp [check, hget]

theorem check_single_isHit (hnd : (Table.keyList r.queryParams).Nodup) {k x : Bytes}
    (hmem : (k, .single x) ∈ r.queryParams) (hk : Bytes.endsWith k Query.listMark = false) :
    (check [] r (ofQueryParam k x)).isHit := by
  have hget := Table.get?_of_mem hnd hmem
  rw [ofQueryParam, if_neg (by simp [hk])]
  simp [check, hget, QueryValue.isList, QueryValue.text]

theorem check_item_isHit (hnd : (Table.keyList r.queryParams).Nodup) {k x : Bytes} {xs : List Bytes}
    (hmem : (k, .list xs) ∈ r.queryParams) (hx : x ∈ xs) :
    (check [] r (.queryParam k x true)).isHit := by
  have hget := Table.get?_of_mem hnd hmem
  simp [check, hget, QueryValue.isList, QueryValue.containsValue, QueryValue.values, hx]

theorem check_requestParam_isHit (hnd : (Table.keyList r.requestParams).Nodup) {k v : Bytes}
    (hmem : (k, v) ∈ r.requestParams) : (check [] r (.requestParam k v)).isHit := by
  have hget := Table.get?_of_mem hnd hmem
  simp [check, hget]

theorem filter_of_getD_ne_nil {o : Option Bytes} (h : ¬(o.getD []).isEmpty = true) :
    o.filter (fun v => !v.isEmpty) = some (o.getD []) := by
  cases o with
  | none => simp at h
  | some v => simpa using h

/-- The expected attributes of a part, read back from the part, all agree with it when it has a
name. -/
theorem partAttr_of_attrs {p : Part} (hname : p.name ≠ []) :
    ∀ kv ∈ PartSpec.attrs p.name
      { mimetype := p.mimetype.getD [], filename := p.filename.getD [], content := p.content.getD [] },
      partAttr p kv.1 = some kv.2 := by
  obtain ⟨name, mimetype, filename, content⟩ := p
  intro kv hkv
  simp only [PartSpec.attrs, List.mem_append, List.mem_singleton] at hkv
  rcases hkv with ((rfl | hkv) | hkv) | hkv
  · simpa [partAttr] using hname
  all_goals
    split at hkv
    · cases hkv
    · rename_i hne
      simp only [List.mem_singleton] at hkv
      subst hkv
      simpa [partAttr] using filter_of_getD_ne_nil hne

theorem check_multipart_isHit (hnd : (Table.keyList r.multiparts).Nodup) {k : Bytes} {p : Part}
    (hmem : (k, p) ∈ r.multiparts) (hname : p.name = k) (hk : k ≠ []) :
    (check [] r (.multipart k
      { mimetype := p.mimetype.getD [], filename := p.filename.getD [], content := p.content.getD [] })).isHit := by
  subst hname
  have hget := Table.get?_of_mem hnd hmem
  have hattrs := partAttr_of_attrs hk
  simp only [check, hget]
  generalize PartSpec.attrs p.name _ = attrs at hattrs ⊢
  have hall : (attrs.zip (attrs.map fun kv => (kv.1, partAttr p kv.1))).all
      (fun x => x.2.2 == some x.1.2) = true := by
    induction attrs with
    | nil => rfl
    | cons kv attrs ih =>
      simp only [List.map_cons, List.zip_cons_cons, List.all_cons, Bool.and_eq_true]
      exact ⟨by simp [hattrs kv List.mem_cons_self],
        ih fun kv' h => hattrs kv' (List.mem_cons_of_mem _ h)⟩
  rw [if_pos hall]
  rfl

end Match.Matcher

/-! ### The stages of an expectation made from a request -/

namespace Request

/-- The method and the URI. -/
def lineStage (r : Request) : Expectation :=
  ({} : Expectation).withMethod r.method |>.withUri r.uri

/-- Each header, in name order. -/
def headerStage (r : Request) (e : Expectation) : Expectation :=
  r.headers.sorted.foldl (fun e (k, v) => e.withHeader k v) e

/-- Each query parameter in key order; a list gives one matcher per item. -/
def queryStage (r : Request) (e : Expectation) : Expectation :=
  r.queryParams.sorted.foldl (fun e (k, v) =>
    match v with
    | .single x => e.withQueryParam k x
    | .list xs => xs.foldl (fun e x =>
        e.setMatcher .queryParam (k ++ "[]=".toBytes ++ x) (.queryParam k x true)) e) e

/-- The most specific form of the body: JSON, else form parameters, else parts, else the raw
content. -/
def bodyStage (r : Request) (e : Expectation) : Expectation :=
  match r.json with
  | some j => e.withJson (some (.json j))
  | none =>
    if !r.requestParams.isEmpty then
      r.requestParams.sorted.foldl (fun e (k, v) => e.withRequestParam k v) e
    else if !r.multiparts.isEmpty then
      r.multiparts.sorted.foldl (fun (e : Expectation) (kp : Bytes × Part) => e.withPart kp.1
        { mimetype := kp.2.mimetype.getD [], filename := kp.2.filename.getD [],
          content := kp.2.content.getD [] }) e
    else
      match r.content with
      | some c => e.withContent c
      | none => e

/-- The expectation made from a normalized request. -/
def expected (r : Request) : Expectation := r.bodyStage (r.queryStage (r.headerStage r.lineStage))

end Request

namespace Expectation

theorem ofRequest_eq (method url : Bytes) (o : Options) :
    ofRequest method url o =
      ((Request.normalize method url o).mapError MockError.request >>= fun r =>
        match r.expected.err with
        | some x => throw x
        | none => pure r.expected) := rfl

/-- The JSON matcher for data a request holds expects that data with its members in name order. -/
theorem ofJson_of_isBody {j : Json} (hj : Json.IsBody j)
    (hfl : ∀ x ∈ j.floats, Json.FloatReadsBack x) :
    Match.Matcher.ofJson (some (.json j)) = .ok (.json (Json.sortNames j)) := by
  simp only [Match.Matcher.ofJson, hj.normalize hfl]
  rfl

/-! ### No stage records a problem -/

section Grows

variable {url : Bytes} {o : Options} {r : Request}

theorem grows_lineStage (hn : Normalized url o r) : Grows {} r.lineStage [] := by
  have h := (grows_setMatcher (e := {}) .method [] (.method r.method)).trans
    (grows_withUri (e := ({} : Expectation).withMethod r.method) r.uri)
  rw [hn.ofUri_uri, payloadProblems, List.append_nil] at h
  exact h

theorem grows_headerStage (r : Request) (e : Expectation) : Grows e (r.headerStage e) [] :=
  Grows.foldl (fun _ _ => grows_setMatcher _ _ _) (.refl e) _

theorem grows_queryStage (r : Request) (e : Expectation) : Grows e (r.queryStage e) [] := by
  refine Grows.foldl (fun e kv => ?_) (.refl e) _
  obtain ⟨k, v⟩ := kv
  cases v with
  | single x => exact grows_setMatcher _ _ _
  | list xs => exact Grows.foldl (fun _ _ => grows_setMatcher _ _ _) (.refl e) xs

theorem grows_bodyStage (hn : Normalized url o r)
    (hfloats : ∀ j ∈ r.json, ∀ x ∈ j.floats, Json.FloatReadsBack x) (e : Expectation) :
    Grows e (r.bodyStage e) [] := by
  unfold Request.bodyStage
  split
  · rename_i j hj
    have h := grows_withJson (e := e) (some (.json j))
    rw [ofJson_of_isBody (hn.json j hj) (hfloats j hj), payloadProblems] at h
    exact h
  · split
    · exact Grows.foldl (fun _ _ => grows_setMatcher _ _ _) (.refl e) _
    · split
      · exact Grows.foldl (fun _ _ => grows_setMatcher _ _ _) (.refl e) _
      · split
        · exact grows_setMatcher _ _ _
        · exact .refl e

end Grows

/-! ### Expectations that accept a request -/

/-- An expectation whose matchers are laid out from writes that all accept a request, with no
configuration error and no URI parameter. -/
structure AcceptsAll (e : Expectation) (r : Request) : Prop where
  written : ∃ ws, e.matchers = layout ws ∧ ∀ w ∈ ws, (Match.Matcher.check [] r w.2.2).isHit
  problems : e.problems = []
  uriParams : e.uriParams = []

variable {e : Expectation} {r : Request}

theorem acceptsAll_empty (r : Request) : AcceptsAll {} r :=
  ⟨⟨[], rfl, fun _ hw => by cases hw⟩, rfl, rfl⟩

/-- Setting a matcher that accepts the request keeps an expectation accepting it. -/
theorem AcceptsAll.setMatcher (h : AcceptsAll e r) {c : Match.Category} {k : Bytes}
    {m : Match.Matcher} (hm : (Match.Matcher.check [] r m).isHit) :
    AcceptsAll (e.setMatcher c k m) r := by
  obtain ⟨ws, hws, hhit⟩ := h.written
  refine ⟨⟨ws ++ [(c, k, m)], matchers_setMatcher hws c k m, ?_⟩, by simp [h.problems],
    by simp [h.uriParams]⟩
  intro w hw
  rcases List.mem_append.1 hw with hw | hw
  · exact hhit w hw
  · rw [List.mem_singleton.1 hw]
    exact hm

/-- An expectation that accepts a request in this sense has every outcome a hit, and scores. -/
theorem AcceptsAll.result (h : AcceptsAll e r) :
    (∀ oc ∈ (e.result r).outcomes, oc.isHit) ∧ 0 < (e.result r).score := by
  obtain ⟨ws, hws, hhit⟩ := h.written
  exact result_accepts_of_layout hws h.uriParams fun _ _ w hw =>
    hhit w (List.mem_reverse.1 (List.mem_of_find?_eq_some hw))

/-- A fold whose every step keeps an expectation accepting a request keeps it accepting. -/
theorem AcceptsAll.foldl {β : Type} {l : List β} {f : Expectation → β → Expectation}
    (h : AcceptsAll e r) (hf : ∀ e, ∀ x ∈ l, AcceptsAll e r → AcceptsAll (f e x) r) :
    AcceptsAll (l.foldl f e) r :=
  List.foldlRecOn (motive := fun e => AcceptsAll e r) _ _ h fun e he x hx => hf e x hx he

section Stages

variable {url : Bytes} {o : Options}

theorem AcceptsAll.lineStage (hn : Normalized url o r) : AcceptsAll r.lineStage r := by
  have hm : AcceptsAll (({} : Expectation).withMethod r.method) r :=
    (acceptsAll_empty r).setMatcher (by simp [Match.Matcher.check])
  unfold Request.lineStage withUri
  rw [hn.ofUri_uri]
  exact hm.setMatcher (by simp [Match.Matcher.check, Match.UriParams.fill])

theorem AcceptsAll.headerStage (h : AcceptsAll e r) (hn : Normalized url o r) :
    AcceptsAll (r.headerStage e) r := by
  refine h.foldl fun e kv hkv he => ?_
  rw [Table.mem_sorted] at hkv
  exact he.setMatcher (Match.Matcher.check_header_isHit hn.nodup_headers hkv
    (hn.lower_headers _ (List.mem_map_of_mem hkv)))

theorem AcceptsAll.queryStage (h : AcceptsAll e r) (hn : Normalized url o r)
    (hquery : (Table.keyList o.queryParams).Nodup)
    (hsingle : ∀ k x, (k, QueryValue.single x) ∈ o.queryParams →
      Bytes.endsWith k Query.listMark = false) :
    AcceptsAll (r.queryStage e) r := by
  have hnd := hn.nodup_queryParams hquery
  refine h.foldl fun e kv hkv he => ?_
  rw [Table.mem_sorted] at hkv
  obtain ⟨k, v⟩ := kv
  cases v with
  | single x =>
    exact he.setMatcher (Match.Matcher.check_single_isHit hnd hkv (hn.endsWith_of_single hsingle hkv))
  | list xs =>
    exact he.foldl fun e x hx he => he.setMatcher (Match.Matcher.check_item_isHit hnd hkv hx)

theorem AcceptsAll.bodyStage (h : AcceptsAll e r) (hn : Normalized url o r)
    (hfloats : ∀ j ∈ r.json, ∀ x ∈ j.floats, Json.FloatReadsBack x)
    (hparts : ∀ kp ∈ r.multiparts, kp.1 ≠ []) :
    AcceptsAll (r.bodyStage e) r := by
  unfold Request.bodyStage
  split
  · rename_i j hj
    have hb := hn.json j hj
    unfold withJson
    rw [ofJson_of_isBody hb (hfloats j hj)]
    exact h.setMatcher (by simp [Match.Matcher.check, hj, hb.same_sortNames (hfloats j hj)])
  · split
    · refine h.foldl fun e kv hkv he => ?_
      rw [Table.mem_sorted] at hkv
      exact he.setMatcher (Match.Matcher.check_requestParam_isHit hn.nodup_requestParams hkv)
    · split
      · obtain ⟨hnd, hname⟩ := hn.multiparts_entries
        refine h.foldl fun e kp hkp he => ?_
        rw [Table.mem_sorted] at hkp
        exact he.setMatcher (Match.Matcher.check_multipart_isHit hnd hkp (hname kp hkp)
          (hparts kp hkp))
      · split
        · rename_i c hc
          exact h.setMatcher (by simp [Match.Matcher.check, hc])
        · exact h

end Stages

/-- An expectation made from a request whose floats read back from their text is made, and it
accepts that request, every outcome a hit and with a positive score, when the request's query
options repeat no key and hold no single value under a key ending in `[]`, and every part of its
multipart body has a name. -/
theorem ofRequest_accepts_request {method url : Bytes} {o : Options} {r : Request}
    (hr : Request.normalize method url o = .ok r)
    (hfloats : ∀ j ∈ r.json, ∀ x ∈ j.floats, Json.FloatReadsBack x) :
    ∃ e, ofRequest method url o = .ok e ∧
      ((Table.keyList o.queryParams).Nodup →
        (∀ k x, (k, QueryValue.single x) ∈ o.queryParams →
          Bytes.endsWith k Query.listMark = false) →
        (∀ kp ∈ r.multiparts, kp.1 ≠ []) →
        (∀ oc ∈ (e.result r).outcomes, oc.isHit) ∧ 0 < (e.result r).score) := by
  have hn := normalize_ok hr
  have hgrows := (((grows_lineStage hn).trans (grows_headerStage r _)).trans
    (grows_queryStage r _)).trans (grows_bodyStage hn hfloats _)
  have herr : r.expected.err = none := by
    rw [err, Request.expected, hgrows.2]
    rfl
  refine ⟨r.expected, ?_, fun hquery hsingle hparts => ?_⟩
  · rw [ofRequest_eq, hr]
    simp only [Except.mapError, bind, Except.bind, herr]
    rfl
  · exact ((((AcceptsAll.lineStage hn).headerStage hn).queryStage hn hquery hsingle).bodyStage hn
      hfloats hparts).result

theorem ofRequest_accepts_header_and_query :
    ∃ e, ofRequest "GET".toBytes "/p?a=1&b[]=2".toBytes { headers := ["X-Id: 7".toBytes] } = .ok e ∧
      0 < (e.result
        { method := "GET".toBytes, uri := "/p".toBytes, headers := [("x-id".toBytes, "7".toBytes)],
          queryParams := [("a".toBytes, .single "1".toBytes), ("b".toBytes, .list ["2".toBytes])] }).score := by
  have hr : Request.normalize "GET".toBytes "/p?a=1&b[]=2".toBytes { headers := ["X-Id: 7".toBytes] } =
      .ok
        { method := "GET".toBytes, uri := "/p".toBytes, headers := [("x-id".toBytes, "7".toBytes)],
          queryParams := [("a".toBytes, .single "1".toBytes), ("b".toBytes, .list ["2".toBytes])] } := by
    cbv
  obtain ⟨e, he, hacc⟩ := ofRequest_accepts_request hr (by simp)
  exact ⟨e, he, (hacc (by simp) (by simp) (by simp)).2⟩

/-- A single value under a key ending in `[]` is expected as an item of a list, which the request
does not hold: the expectation made from `GET /p` with the query option `a[]=x` misses the
request read from the same call. -/
theorem ofRequest_misses_single_list_key :
    ∃ r, Request.normalize "GET".toBytes "/p".toBytes
        { queryParams := [("a[]".toBytes, .single "x".toBytes)] } = .ok r ∧
      match ofRequest "GET".toBytes "/p".toBytes
        { queryParams := [("a[]".toBytes, .single "x".toBytes)] } with
      | .ok e => ∃ oc ∈ (e.result r).outcomes, oc.isHit = false
      | .error _ => False := by
  refine ⟨_, rfl, ?_⟩
  cbv
  decide

end Expectation

end HttpMock
