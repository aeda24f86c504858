import HttpMock.Proofs.Lookup
import HttpMock.Proofs.MatcherOrder
import HttpMock.Session
/-! Expectations made from a request line, and when they accept the request read from it. -/
namespace HttpMock

theorem Bytes.not_mem_cut_fst (bs : Bytes) (sep : UInt8) : sep ∉ (bs.cut sep).1 := by
  induction bs with
  | nil => simp [Bytes.cut]
  | cons b bs ih =>
    by_cases hb : b = sep
    · simp [Bytes.cut, hb]
    · simpa [Bytes.cut, hb, Ne.symm hb] using ih

@[simp] theorem Match.Outcome.isHit_hit (c : Match.Category) (key actual : Bytes) :
    (Match.Outcome.hit c key actual).isHit = true := rfl

theorem Match.Category.weight_pos (c : Match.Category) : 0 < c.weight := by
  cases c <;> decide

/-- A result with an outcome, all of whose outcomes are hits, scores. -/
theorem Match.Result.score_pos {r : Match.Result} (hne : r.outcomes ≠ [])
    (hhit : ∀ o ∈ r.outcomes, o.isHit) : 0 < r.score := by
  have hmis : r.isMismatch = false := by
    simpa [Match.Result.isMismatch, Match.Outcome.isFailure] using hhit
  obtain ⟨o, ho⟩ := List.exists_mem_of_ne_nil _ hne
  have hpos : 0 < o.score := by
    simpa [Match.Outcome.score, hhit o ho] using o.category.weight_pos
  rw [Match.Result.score, hmis, if_neg Bool.false_ne_true, ← List.sum_eq_foldl_nat]
  exact List.sum_pos_iff_exists_pos_nat.2 ⟨o.score, List.mem_map_of_mem ho, hpos⟩

/-- A query parameter matcher for the last value sent under its key hits a request whose
parameters read as the pairs, when no key of the pairs is another key followed by `[]`. -/
theorem Match.Matcher.check_ofQueryParam_isHit (params : Match.UriParams) {r : Request}
    {ds : List (Bytes × Bytes)} (hr : ∀ n, r.queryParams.get? n = (ds.foldl Query.addPair []).get? n)
    (hmark : ∀ d ∈ ds, ∀ d' ∈ ds, d'.1 ≠ d.1 ++ Query.listMark) {k v : Bytes}
    (hv : Query.lastValue ds k = some v) : (check params r (ofQueryParam k v)).isHit := by
  have hk : (k, v) ∈ ds := Query.mem_of_lastValue_eq_some hv
  by_cases hl : Bytes.endsWith k Query.listMark = true
  · obtain ⟨n, rfl⟩ := (Query.endsWith_listMark_iff k).1 hl
    have hsingle : ∀ d ∈ ds, d.1 ≠ n := fun d hd hdn => hmark d hd _ hk (by rw [hdn])
    obtain ⟨vs, hget⟩ := Query.get?_foldl_addPair_list (t := []) hsingle hv
    rw [ofQueryParam, if_pos hl, Query.take_append_listMark]
    simp [check, hr, hget, QueryValue.isList, QueryValue.containsValue, QueryValue.values]
  · have hl' : Bytes.endsWith k Query.listMark = false := by simpa using hl
    have hlist : ∀ d ∈ ds, d.1 ≠ k ++ Query.listMark := fun d hd => hmark _ hk d hd
    have hget := Query.get?_foldl_addPair_single (t := []) hl' hlist hv
    rw [ofQueryParam, if_neg hl]
    simp [check, hr, hget, QueryValue.isList, QueryValue.text]

namespace Expectation

/-- An expectation laid out from writes, with no URI parameter, accepts a request, every outcome
a hit and with a positive score, when the last write under each category and key accepts it. -/
theorem result_accepts_of_layout {e : Expectation} {ws : List Write} {r : Request}
    (hws : e.matchers = layout ws) (hparams : e.uriParams = [])
    (hlast : ∀ c k w, (ws.reverse.find? fun w => w.1 = c ∧ w.2.1 = k) = some w →
      (Match.Matcher.check [] r w.2.2).isHit) :
    (∀ o ∈ (e.result r).outcomes, o.isHit) ∧ 0 < (e.result r).score := by
  have hlist := matcherList_of_layout hws
  have hall : ∀ o ∈ (e.result r).outcomes, o.isHit := by
    intro o ho
    simp only [result, Match.run, hlist, hparams, List.mem_map] at ho
    obtain ⟨m, hm, rfl⟩ := ho
    rcases mem_evaluationOrder hm with rfl | ⟨c, k, w, hw, rfl⟩
    · rfl
    · exact hlast c k w hw
  refine ⟨hall, Match.Result.score_pos ?_ hall⟩
  simpa [result, Match.run, hlist] using evaluationOrder_ne_nil ws

/-- The `key=value` pairs of a request line's query, keys as written and values decoded: the
text after the first `?` split at every `&`, each pair at its first `=`. A pair without `=` has
an empty value. -/
def queryPairs (uri : Bytes) : List (Bytes × Bytes) :=
  match (uri.cut 0x3F).2 with
  | some q => (q.splitAt 0x26).map fun pair =>
      ((pair.cut 0x3D).1, Text.Percent.decodeOrKeep ((pair.cut 0x3D).2.getD []))
  | none => []

/-- The configuration calls a request line makes: the method if there is one, a query parameter
for each pair with a key, and the URI without its query if that is not empty. -/
def requestLineSettings (method uri : Bytes) : List Setting :=
  (if method.isEmpty then [] else [.method method]) ++
    ((queryPairs uri).filter (!·.1.isEmpty)).map (fun p => .queryParam p.1 p.2 []) ++
    (if (uri.cut 0x3F).1.isEmpty then [] else [.uri (uri.cut 0x3F).1])

theorem forRequestLine_eq_configured (e : Expectation) (method uri : Bytes) :
    e.forRequestLine method uri = configured e (requestLineSettings method uri) := by
  unfold forRequestLine requestLineSettings queryPairs
  rw [configured_append, configured_append]
  have hmethod : (if method.isEmpty then e else e.withMethod method) =
      configured e (if method.isEmpty then [] else [.method method]) := by
    split <;> rfl
  rw [← hmethod]
  generalize (if method.isEmpty then e else e.withMethod method) = e
  obtain ⟨base, query⟩ := uri.cut 0x3F
  have huri : ∀ e', (if base.isEmpty then e' else e'.withUri base) =
      configured e' (if base.isEmpty then [] else [.uri base]) := by
    intro e'
    split <;> rfl
  dsimp only
  rw [huri]
  congr 1
  cases query with
  | none => rfl
  | some q =>
    simp only [configured, List.foldl_map, List.foldl_filter]
    congr 1
    funext e pair
    obtain ⟨k, v⟩ := pair.cut 0x3D
    by_cases hk : k.isEmpty <;> simp [hk, Setting.apply]

theorem ofUri_cut (uri : Bytes) :
    Match.Matcher.ofUri (uri.cut 0x3F).1 = .ok (.uri (uri.cut 0x3F).1) := by
  have h := Bytes.not_mem_cut_fst uri 0x3F
  simp [Match.Matcher.ofUri, h]
  rfl

/-- Every call of a request line makes its matcher. -/
theorem requestLineSettings_writes (method uri : Bytes) :
    (requestLineSettings method uri).filterMap Setting.write =
      (if method.isEmpty then [] else [(.method, [], .method method)]) ++
        ((queryPairs uri).filter (!·.1.isEmpty)).map (fun p =>
          (.queryParam, p.1, Match.Matcher.ofQueryParam p.1 p.2)) ++
        (if (uri.cut 0x3F).1.isEmpty then [] else [(.uri, [], .uri (uri.cut 0x3F).1)]) := by
  simp only [requestLineSettings, List.filterMap_append, List.filterMap_map]
  congr 1
  · congr 1
    · split <;> rfl
    · simp [Function.comp_def, Setting.write]
  · split
    · rfl
    · simp [Setting.write, ofUri_cut, Except.toOption]

theorem write_isSome_of_mem {method uri : Bytes} {s : Setting}
    (hs : s ∈ requestLineSettings method uri) : s.write.isSome := by
  simp only [requestLineSettings, List.mem_append, List.mem_map, List.mem_filter] at hs
  rcases hs with (hs | ⟨p, -, rfl⟩) | hs
  · split at hs <;> simp_all [Setting.write]
  · simp [Setting.write]
  · split at hs
    · simp at hs
    · simp only [List.mem_singleton] at hs
      subst hs
      simp [Setting.write, ofUri_cut, Except.toOption]

/-- A request line adds no configuration error. -/
theorem err_forRequestLine (e : Expectation) (method uri : Bytes) :
    (e.forRequestLine method uri).err = e.err := by
  have hnone : (requestLineSettings method uri).filterMap Setting.error = [] := by
    rw [List.filterMap_eq_nil_iff]
    intro s hs
    have hw : s.write ≠ none := Option.isSome_iff_ne_none.1 (write_isSome_of_mem hs)
    rwa [ne_eq, Setting.write_eq_none_iff, Option.not_isSome_iff_eq_none] at hw
  rw [forRequestLine_eq_configured, err, problems_configured, hnone, List.append_nil, err]

/-- The last write of a request line under a category and a key: the method, the URI, or the
query parameter of the last value sent under a key that is not empty. -/
theorem find?_requestLineWrites {method uri : Bytes} {c : Match.Category} {k : Bytes} {w : Write}
    (h : (((requestLineSettings method uri).filterMap Setting.write).reverse.find?
      fun w => w.1 = c ∧ w.2.1 = k) = some w) :
    w = (.method, [], .method method) ∨ w = (.uri, [], .uri (uri.cut 0x3F).1) ∨
      ∃ v, k ≠ [] ∧ Query.lastValue (queryPairs uri) k = some v ∧
        w = (.queryParam, k, Match.Matcher.ofQueryParam k v) := by
  rw [requestLineSettings_writes] at h
  simp only [List.reverse_append, List.find?_append, Option.or_eq_some_iff] at h
  rcases h with hu | ⟨-, hq | ⟨-, hm⟩⟩
  · right; left
    split at hu
    · simp at hu
    · simp at hu
      exact hu.2.symm
  · right; right
    rw [← List.map_reverse, List.find?_map, ← List.filter_reverse, List.find?_filter,
      Option.map_eq_some_iff] at hq
    obtain ⟨p, hp, rfl⟩ := hq
    have hsat := List.find?_some hp
    simp only [Function.comp_apply, decide_eq_true_eq, Bool.not_eq_true',
      List.isEmpty_eq_false_iff] at hsat
    obtain ⟨hne, rfl, rfl⟩ := hsat
    have hlast : (queryPairs uri).reverse.find? (·.1 = p.1) = some p := by
      rw [← hp]
      congr 1
      funext a
      by_cases ha : a.1 = p.1
      · simp [ha, hne]
      · simp [ha]
    exact ⟨p.2, hne, by rw [Query.lastValue, hlast]; rfl, rfl⟩
  · left
    split at hm
    · simp at hm
    · simp at hm
      exact hm.2.symm

/-- With no options, a request line reads as its method, its URI without the query, and the
parameters of its query. -/
theorem normalize_requestLine (method uri : Bytes) :
    ∃ r, Request.normalize method uri {} = .ok r ∧ r.method = method ∧ r.uri = (uri.cut 0x3F).1 ∧
      r.queryParams = ((uri.cut 0x3F).2.map fun q => Table.insertAll [] (Query.parse q)).getD [] := by
  rcases hc : uri.cut 0x3F with ⟨base, query⟩
  refine ⟨{ method := method
            uri := base
            queryParams := (query.map fun q => Table.insertAll [] (Query.parse q)).getD [] },
    ?_, rfl, rfl, rfl⟩
  unfold Request.normalize
  rw [hc]
  cases query <;> rfl

/-- When every key of a request line's query is written in decoded form and some pair has a key,
the request's parameters look up as the pairs folded one after another. -/
theorem get?_queryParams_requestLine {uri : Bytes}
    (hdec : ∀ p ∈ queryPairs uri, Text.Percent.decodeOrKeep p.1 = p.1)
    (hkey : ∃ p ∈ queryPairs uri, p.1 ≠ []) (n : Bytes) :
    (((uri.cut 0x3F).2.map fun q => Table.insertAll [] (Query.parse q)).getD []).get? n =
      ((queryPairs uri).foldl Query.addPair []).get? n := by
  obtain ⟨p, hp, hne⟩ := hkey
  unfold queryPairs at hdec hp ⊢
  cases hq : (uri.cut 0x3F).2 with
  | none => simp [hq] at hp
  | some q =>
    simp only [hq] at hdec hp ⊢
    have hq0 : q ≠ [] := by
      rintro rfl
      simp [Bytes.splitAt, List.splitOn_nil, Bytes.cut] at hp
      exact hne (by rw [hp])
    have hpairs : (q.splitAt 0x26).map Query.splitPair = (q.splitAt 0x26).map fun pair =>
        ((pair.cut 0x3D).1, Text.Percent.decodeOrKeep ((pair.cut 0x3D).2.getD [])) := by
      refine List.map_congr_left fun pair hpair => ?_
      rw [Query.splitPair_eq, hdec _ (List.mem_map_of_mem hpair)]
    have hnodup := Query.nodup_foldl_addPair ((q.splitAt 0x26).map Query.splitPair)
      (t := []) List.nodup_nil
    have hparse : Query.parse q = ((q.splitAt 0x26).map Query.splitPair).foldl Query.addPair [] := by
      simp [Query.parse, hq0]
    simp only [Option.map_some, Option.getD_some]
    rw [hparse, Table.get?_insertAll _ hnodup, hpairs]
    simp

/-- The expectation a request line makes on a fresh expectation carries no configuration error,
and the line reads as a request with no options. Every matcher of the expectation hits that
request, and the expectation scores it, when every key of the query is written in decoded form
and no key is another key followed by `[]`. -/
theorem forRequestLine_matches_normalize (s : Session) (watched : Bool) (method uri : Bytes) :
    ((s.fresh watched).1.forRequestLine method uri).err = none ∧
      ∃ r, Request.normalize method uri {} = .ok r ∧
        ((∀ p ∈ queryPairs uri, Text.Percent.decodeOrKeep p.1 = p.1) →
          (∀ p ∈ queryPairs uri, ∀ p' ∈ queryPairs uri, p'.1 ≠ p.1 ++ Query.listMark) →
          (∀ o ∈ (((s.fresh watched).1.forRequestLine method uri).result r).outcomes, o.isHit) ∧
            0 < (((s.fresh watched).1.forRequestLine method uri).result r).score) := by
  have hfresh : (s.fresh watched).1.matchers = layout [] := rfl
  have hws : ((s.fresh watched).1.forRequestLine method uri).matchers =
      layout ((requestLineSettings method uri).filterMap Setting.write) := by
    rw [forRequestLine_eq_configured, matchers_configured hfresh _, List.nil_append]
  have hparams : ((s.fresh watched).1.forRequestLine method uri).uriParams = [] := by
    rw [forRequestLine_eq_configured, uriParams_configured]
    rfl
  obtain ⟨r, hr, hmethod, huri, hquery⟩ := normalize_requestLine method uri
  refine ⟨by rw [err_forRequestLine]; rfl, r, hr, ?_⟩
  intro hdec hmark
  refine result_accepts_of_layout hws hparams fun c k w hw => ?_
  -- the last write under a key is the method, the URI or the last value of a query key
  rcases find?_requestLineWrites hw with rfl | rfl | ⟨v, hk, hv, rfl⟩
  · simp [Match.Matcher.check, hmethod]
  · simp [Match.Matcher.check, huri, Match.UriParams.fill]
  · have hkey : ∃ p ∈ queryPairs uri, p.1 ≠ [] :=
      ⟨(k, v), Query.mem_of_lastValue_eq_some hv, hk⟩
    refine Match.Matcher.check_ofQueryParam_isHit [] (fun n => ?_) hmark hv
    rw [hquery, get?_queryParams_requestLine hdec hkey]

theorem forRequestLine_matches_normalize_list_query :
    ∃ r, Request.normalize "GET".toBytes "/p?a=1&b[]=2&b[]=3".toBytes {} = .ok r ∧
      0 < ((forRequestLine (({} : Session).fresh false).1 "GET".toBytes
        "/p?a=1&b[]=2&b[]=3".toBytes).result r).score := by
  obtain ⟨-, r, hr, hhit⟩ :=
    forRequestLine_matches_normalize {} false "GET".toBytes "/p?a=1&b[]=2&b[]=3".toBytes
  exact ⟨r, hr, (hhit (by decide) (by decide)).2⟩

/-- A percent-encoded key is decoded by the request and kept as written by the expectation, so
the expectation for `GET /p?a%20b=1` misses the request read from the same line. -/
theorem forRequestLine_misses_encoded_key :
    ∃ r, Request.normalize "GET".toBytes "/p?a%20b=1".toBytes {} = .ok r ∧
      ∃ o ∈ ((forRequestLine (({} : Session).fresh false).1 "GET".toBytes
        "/p?a%20b=1".toBytes).result r).outcomes, o.isHit = false := by
  refine ⟨_, rfl, ?_⟩
  decide

end Expectation

end HttpMock
