import HttpMock.Expectation.Config
/-! The order in which an expectation evaluates its matchers, and its first error. -/
namespace HttpMock

namespace Expectation

/-- A matcher written under a category and a key. -/
abbrev Write := Match.Category × Bytes × Match.Matcher

/-- The categories written, each once, in the order of their first write. -/
def categories (ws : List Write) : List Match.Category := (ws.map (·.1)).eraseDups

/-- The keys written in a category, each once, in the order of their first write. -/
def keysIn (ws : List Write) (c : Match.Category) : List Bytes :=
  ((ws.filter (·.1 == c)).map (·.2.1)).eraseDups

/-- The last matcher written under a category and a key. -/
def lastWritten (ws : List Write) (c : Match.Category) (k : Bytes) : Match.Matcher :=
  ws.foldl (fun m w => if w.1 = c ∧ w.2.1 = k then w.2.2 else m) .catchAll

/-- The keys of a category with their last matchers, keys in the order of their first write. -/
def entriesIn (ws : List Write) (c : Match.Category) : Table Match.Matcher :=
  (keysIn ws c).map fun k => (k, lastWritten ws c k)

/-- The two-level insertion-ordered map of the writes: categories by first write, keys by first
write within their category, each with its last matcher. -/
def layout (ws : List Write) : List (Match.Category × Table Match.Matcher) :=
  (categories ws).map fun c => (c, entriesIn ws c)

/-- The matchers of the writes in evaluation order: the map flattened, or a catch-all when
nothing was written. -/
def evaluationOrder (ws : List Write) : List Match.Matcher :=
  match (layout ws).flatMap fun (_, t) => t.map (·.2) with
  | [] => [.catchAll]
  | ms => ms

theorem evaluationOrder_ne_nil (ws : List Write) : evaluationOrder ws ≠ [] := by
  unfold evaluationOrder
  split
  · simp
  · assumption

/-! ### One more write -/

section Snoc

variable (ws : List Write) (w : Write)

theorem eraseDups_snoc {α : Type} [BEq α] [LawfulBEq α] (l : List α) (a : α) :
    (l ++ [a]).eraseDups = if a ∈ l.eraseDups then l.eraseDups else l.eraseDups ++ [a] := by
  rw [List.eraseDups_append]
  by_cases h : a ∈ l
  · rw [if_pos (List.mem_eraseDups.2 h)]
    simp [List.removeAll, h]
  · rw [if_neg (fun h' => h (List.mem_eraseDups.1 h'))]
    simp [List.removeAll, h, List.eraseDups_cons]

theorem mem_categories {c : Match.Category} : c ∈ categories ws ↔ ∃ w ∈ ws, w.1 = c := by
  simp [categories, List.mem_eraseDups]

theorem mem_keysIn {c : Match.Category} {k : Bytes} :
    k ∈ keysIn ws c ↔ ∃ w ∈ ws, w.1 = c ∧ w.2.1 = k := by
  simp [keysIn, List.mem_eraseDups, and_assoc]

theorem categories_snoc :
    categories (ws ++ [w]) =
      if w.1 ∈ categories ws then categories ws else categories ws ++ [w.1] := by
  simp only [categories, List.map_append, List.map_cons, List.map_nil]
  exact eraseDups_snoc _ _

theorem keysIn_snoc (c : Match.Category) :
    keysIn (ws ++ [w]) c =
      if w.1 = c ∧ w.2.1 ∉ keysIn ws c then keysIn ws c ++ [w.2.1] else keysIn ws c := by
  by_cases hc : w.1 = c
  · have h : keysIn (ws ++ [w]) c = ((ws.filter (·.1 == c)).map (·.2.1) ++ [w.2.1]).eraseDups := by
      simp [keysIn, hc]
    rw [h, eraseDups_snoc]
    by_cases hm : w.2.1 ∈ keysIn ws c
    · rw [if_pos (show w.2.1 ∈ ((ws.filter (·.1 == c)).map (·.2.1)).eraseDups from hm),
        if_neg (fun h' => h'.2 hm)]
      rfl
    · rw [if_neg (show w.2.1 ∉ ((ws.filter (·.1 == c)).map (·.2.1)).eraseDups from hm),
        if_pos ⟨hc, hm⟩]
      rfl
  · simp [keysIn, hc]

theorem lastWritten_snoc (c : Match.Category) (k : Bytes) :
    lastWritten (ws ++ [w]) c k = if w.1 = c ∧ w.2.1 = k then w.2.2 else lastWritten ws c k := by
  simp [lastWritten, List.foldl_append]

theorem keysIn_eq_nil {c : Match.Category} (hc : c ∉ categories ws) : keysIn ws c = [] := by
  rw [List.eq_nil_iff_forall_not_mem]
  intro k hk
  obtain ⟨w, hw, hwc, -⟩ := (mem_keysIn ws).1 hk
  exact hc ((mem_categories ws).2 ⟨w, hw, hwc⟩)

theorem entriesIn_snoc_ne {c : Match.Category} (hc : w.1 ≠ c) : entriesIn (ws ++ [w]) c = entriesIn ws c := by
  simp [entriesIn, keysIn_snoc, lastWritten_snoc, hc]


theorem entriesIn_snoc_self : entriesIn (ws ++ [w]) w.1 = (entriesIn ws w.1).insert w.2.1 w.2.2 := by
  obtain ⟨c, k, m⟩ := w
  have hcontains : (entriesIn ws c).contains k = decide (k ∈ keysIn ws c) := by
    unfold entriesIn Table.contains
    rw [List.any_map]
    simp [Function.comp_def, List.any_eq]
  have hlast : ∀ k', lastWritten (ws ++ [(c, k, m)]) c k' = if k = k' then m else lastWritten ws c k' := by
    intro k'
    simp [lastWritten_snoc]
  rw [Table.insert, hcontains]
  by_cases hk : k ∈ keysIn ws c
  · simp only [hk, decide_true, if_true, entriesIn, keysIn_snoc, not_true_eq_false, and_false,
      if_false, List.map_map, hlast]
    refine List.map_congr_left fun k' _ => ?_
    by_cases hk' : k' = k
    · subst hk'
      simp
    · simp [hk', Ne.symm hk']
  · simp only [hk, decide_false, entriesIn, keysIn_snoc, not_false_eq_true, and_self,
      if_true, List.map_append, List.map_cons, List.map_nil, hlast]
    congr 1
    · refine List.map_congr_left fun k' hk' => ?_
      have hne : k ≠ k' := fun h => hk (h ▸ hk')
      simp [hne]
end Snoc

/-- Setting a matcher on an expectation laid out by some writes lays it out by one more. -/
theorem matchers_setMatcher {e : Expectation} {ws : List Write} (h : e.matchers = layout ws)
    (c : Match.Category) (k : Bytes) (m : Match.Matcher) :
    (e.setMatcher c k m).matchers = layout (ws ++ [(c, k, m)]) := by
  have hany : e.matchers.any (·.1 == c) = decide (c ∈ categories ws) := by
    rw [h, layout, List.any_map]
    simp [Function.comp_def, List.any_eq]
  unfold setMatcher
  rw [hany]
  by_cases hc : c ∈ categories ws
  · simp only [hc, decide_true, if_true, h, layout, categories_snoc, List.map_map]
    refine List.map_congr_left fun c' _ => ?_
    by_cases hc' : c' = c
    · subst hc'
      simpa using (entriesIn_snoc_self ws (c', k, m)).symm
    · simp [hc', entriesIn_snoc_ne ws (c, k, m) (Ne.symm hc')]
  · simp only [hc, decide_false, Bool.false_eq_true, ↓reduceIte, h, layout, categories_snoc,
      List.map_append, List.map_cons, List.map_nil]
    congr 1
    · refine List.map_congr_left fun c' hc' => ?_
      have hne : c ≠ c' := fun h => hc (h ▸ hc')
      simp [entriesIn_snoc_ne ws (c, k, m) hne]
    · have hself := entriesIn_snoc_self ws (c, k, m)
      simp only at hself
      rw [hself, entriesIn, keysIn_eq_nil ws hc]
      simp [Table.insert, Table.contains]

theorem matcherList_of_layout {e : Expectation} {ws : List Write} (h : e.matchers = layout ws) :
    e.matcherList = evaluationOrder ws := by
  rw [matcherList, h]
  rfl

/-! ### The last write under a key -/

/-- The last matcher written under a category and a key is that of the first write under them
in the reversed writes. -/
theorem lastWritten_eq_find? (ws : List Write) (c : Match.Category) (k : Bytes) :
    lastWritten ws c k =
      ((ws.reverse.find? fun w => w.1 = c ∧ w.2.1 = k).map (·.2.2)).getD .catchAll := by
  rw [lastWritten, List.foldl_eq_foldr_reverse]
  generalize ws.reverse = l
  induction l with
  | nil => rfl
  | cons w l ih =>
    by_cases hw : w.1 = c ∧ w.2.1 = k <;> simp [hw, ih]

/-- Every matcher evaluated is the catch-all or the last one written under some category and
key. -/
theorem mem_evaluationOrder {ws : List Write} {m : Match.Matcher} (hm : m ∈ evaluationOrder ws) :
    m = .catchAll ∨
      ∃ c k w, (ws.reverse.find? fun w => w.1 = c ∧ w.2.1 = k) = some w ∧ m = w.2.2 := by
  have hlast : m = .catchAll ∨ ∃ c, ∃ k ∈ keysIn ws c, m = lastWritten ws c k := by
    unfold evaluationOrder at hm
    split at hm
    · exact .inl (List.mem_singleton.1 hm)
    · simp only [layout, entriesIn, List.flatMap_map, List.mem_flatMap, List.map_map,
        List.mem_map, Function.comp_def] at hm
      obtain ⟨c, -, k, hk, rfl⟩ := hm
      exact .inr ⟨c, k, hk, rfl⟩
  rcases hlast with hm | ⟨c, k, hk, rfl⟩
  · exact .inl hm
  · obtain ⟨w₀, hw₀, hc, hk⟩ := (mem_keysIn ws).1 hk
    cases hf : ws.reverse.find? fun w => w.1 = c ∧ w.2.1 = k with
    | none =>
      rw [List.find?_eq_none] at hf
      exact absurd (hf w₀ (List.mem_reverse.2 hw₀)) (by simp [hc, hk])
    | some w => exact .inr ⟨c, k, w, hf, by rw [lastWritten_eq_find?, hf]; rfl⟩

@[simp] theorem setMatcher_uriParams (e : Expectation) (c : Match.Category) (k : Bytes) (m : Match.Matcher) :
    (e.setMatcher c k m).uriParams = e.uriParams := by
  unfold setMatcher
  split <;> rfl

@[simp] theorem setMatcher_problems (e : Expectation) (c : Match.Category) (k : Bytes) (m : Match.Matcher) :
    (e.setMatcher c k m).problems = e.problems := by
  unfold setMatcher
  split <;> rfl

/-! ### Configuration calls -/

/-- A configuration call that makes a matcher. -/
inductive Setting where
  | method (m : Bytes)
  | methodWhen (p : Bytes → Bool)
  | uri (pattern : Bytes)
  | uriWhen (p : Bytes → Match.UriParams → Bool)
  | header (name value : Bytes)
  | basicAuth (user pass : Bytes)
  | queryParam (key value : Bytes) (args : List Text.PrintfArg)
  | requestParam (key value : Bytes)
  | part (name : Bytes) (spec : Match.PartSpec)
  | filePart (name path : Bytes) (contents : Option Bytes) (mimetype : Bytes)
  | content (c : Bytes)
  | contentWhen (p : Option Bytes → Bool)
  | json (v : Option Payload)
  | jsonWhen (p : Option Json → Bool)
  | xml (raw : Bytes)
  | xmlWhen (p : Bytes → Bool)
  | that (p : Request → Bool)
  | jsonPath (path : Bytes) (v : Option Payload)

namespace Setting

/-- Makes the call on an expectation. -/
def apply : Setting → Expectation → Expectation
  | .method m, e => e.withMethod m
  | .methodWhen p, e => e.withMethodWhen p
  | .uri pattern, e => e.withUri pattern
  | .uriWhen p, e => e.withUriWhen p
  | .header name value, e => e.withHeader name value
  | .basicAuth user pass, e => e.withBasicAuth user pass
  | .queryParam key value args, e => e.withQueryParam key value args
  | .requestParam key value, e => e.withRequestParam key value
  | .part name spec, e => e.withPart name spec
  | .filePart name path contents mimetype, e => e.withFilePart name path contents mimetype
  | .content c, e => e.withContent c
  | .contentWhen p, e => e.withContentWhen p
  | .json v, e => e.withJson v
  | .jsonWhen p, e => e.withJsonWhen p
  | .xml raw, e => e.withXml raw
  | .xmlWhen p, e => e.withXmlWhen p
  | .that p, e => e.withThat p
  | .jsonPath path v, e => e.withJsonPath path v

/-- The token of basic authentication: the user and the password, joined by a colon, in
base64. -/
def basicToken (user pass : Bytes) : Bytes :=
  "Basic ".toBytes ++ (Text.Base64.encode (user ++ [0x3A] ++ pass)).toBytes

/-- What a call writes: its category, its key and its matcher, or nothing when the expected
value cannot make a matcher. A header is keyed by its lower-case name, a query, form or JSON
path parameter by its text as given, a part by its name; the other categories hold one matcher
under the empty key. -/
def write : Setting → Option Write
  | .method m => some (.method, [], .method m)
  | .methodWhen p => some (.method, [], .methodWhen p)
  | .uri pattern => (Match.Matcher.ofUri pattern).toOption.map ((.uri, [], ·))
  | .uriWhen p => some (.uri, [], .uriWhen p)
  | .header name value => some (.header, Text.lower name, .header (Text.lower name) value)
  | .basicAuth user pass =>
    some (.header, "authorization".toBytes, .header "authorization".toBytes (basicToken user pass))
  | .queryParam key value args =>
    some (.queryParam, key, Match.Matcher.ofQueryParam key (if args.isEmpty then value else Text.printf value args))
  | .requestParam key value => some (.requestParam, key, .requestParam key value)
  | .part name spec => some (.multipart, name, .multipart name spec)
  | .filePart name path contents mimetype => contents.map fun data =>
    (.multipart, name, .multipart name
      { mimetype := if mimetype.isEmpty then fileMediaType path data else mimetype,
        filename := Multipart.baseName path, content := data })
  | .content c => some (.content, [], .content c)
  | .contentWhen p => some (.content, [], .contentWhen p)
  | .json v => (Match.Matcher.ofJson v).toOption.map ((.json, [], ·))
  | .jsonWhen p => some (.json, [], .jsonWhen p)
  | .xml raw => (Match.Matcher.ofXml raw).toOption.map ((.xml, [], ·))
  | .xmlWhen p => some (.xml, [], .xmlWhen p)
  | .that p => some (.that, [], .that p)
  | .jsonPath path v => (Match.Matcher.ofJsonPath path v).toOption.map ((.jsonPath, path, ·))

/-- The configuration error a call records, whatever the expectation it is made on. -/
def error (s : Setting) : Option MockError := (s.apply {}).err

theorem lower_authorization : Text.lower "Authorization".toBytes = "authorization".toBytes := by
  decide

/-- A call sets the matcher it writes; a call that writes nothing records its error instead. -/
theorem apply_eq (s : Setting) (e : Expectation) :
    s.apply e = match s.write with
      | some (c, k, m) => e.setMatcher c k m
      | none => { e with problems := e.problems ++ s.error.toList } := by
  cases s with
  | uri pattern =>
    simp only [apply, write, error, withUri]
    cases Match.Matcher.ofUri pattern <;> rfl
  | basicAuth user pass => simp [apply, write, withBasicAuth, withHeader, lower_authorization, basicToken]
  | filePart name path contents mimetype =>
    cases contents <;> rfl
  | json v =>
    simp only [apply, write, error, withJson]
    cases Match.Matcher.ofJson v <;> rfl
  | xml raw =>
    simp only [apply, write, error, withXml]
    cases Match.Matcher.ofXml raw <;> rfl
  | jsonPath path v =>
    simp only [apply, write, error, withJsonPath]
    cases Match.Matcher.ofJsonPath path v <;> rfl
  | _ => rfl

theorem uriParams_apply (s : Setting) (e : Expectation) : (s.apply e).uriParams = e.uriParams := by
  rw [apply_eq]
  cases s.write <;> simp

/-- A call sets the matcher it writes, and leaves the matchers alone when it writes nothing. -/
theorem matchers_apply (s : Setting) (e : Expectation) :
    (s.apply e).matchers = match s.write with
      | some (c, k, m) => (e.setMatcher c k m).matchers
      | none => e.matchers := by
  rw [apply_eq]
  rcases s.write with _ | ⟨c, k, m⟩ <;> rfl

/-- A call writes nothing exactly when it records an error. -/
theorem write_eq_none_iff (s : Setting) : s.write = none ↔ s.error.isSome := by
  cases s with
  | uri pattern =>
    simp only [write, error, apply, withUri]
    cases Match.Matcher.ofUri pattern <;> simp [fail, err, Except.toOption]
  | filePart name path contents mimetype =>
    cases contents <;> simp [write, error, apply, withFilePart, withPart, fail, err]
  | json v =>
    simp only [write, error, apply, withJson]
    cases Match.Matcher.ofJson v <;> simp [fail, err, Except.toOption]
  | xml raw =>
    simp only [write, error, apply, withXml]
    cases Match.Matcher.ofXml raw <;> simp [fail, err, Except.toOption]
  | jsonPath path v =>
    simp only [write, error, apply, withJsonPath]
    cases Match.Matcher.ofJsonPath path v <;> simp [fail, err, Except.toOption]
  | _ => simp [write, error, apply, err, withMethod, withMethodWhen, withUriWhen, withHeader,
      withBasicAuth, withQueryParam, withRequestParam, withPart, withContent, withContentWhen,
      withJsonWhen, withXmlWhen, withThat]

/-- A call records its own error after those already recorded, whatever they are. -/
theorem problems_apply (s : Setting) (e : Expectation) :
    (s.apply e).problems = e.problems ++ s.error.toList := by
  rw [apply_eq]
  rcases hw : s.write with _ | ⟨c, k, m⟩
  · rfl
  · have herr : s.error = none := by
      rw [← Option.not_isSome_iff_eq_none, ← write_eq_none_iff, hw]
      simp
    simp [herr]

end Setting

/-- The expectation after a sequence of configuration calls. -/
def configured (e : Expectation) (ss : List Setting) : Expectation := ss.foldl (fun e s => s.apply e) e

theorem configured_append (e : Expectation) (ss ts : List Setting) :
    configured e (ss ++ ts) = configured (configured e ss) ts := List.foldl_append

theorem uriParams_configured (e : Expectation) (ss : List Setting) :
    (configured e ss).uriParams = e.uriParams := by
  induction ss generalizing e with
  | nil => rfl
  | cons s ss ih => rw [configured, List.foldl_cons, ← configured, ih, Setting.uriParams_apply]

/-- Configuration calls made on an expectation laid out by some writes lay it out by the writes
of the calls that make their matcher. -/
theorem matchers_configured {e : Expectation} {ws : List Write} (h : e.matchers = layout ws)
    (ss : List Setting) : (e.configured ss).matchers = layout (ws ++ ss.filterMap Setting.write) := by
  induction ss generalizing e ws with
  | nil => simpa [configured] using h
  | cons s ss ih =>
    have hs : (s.apply e).matchers = layout (ws ++ s.write.toList) := by
      rw [s.matchers_apply e]
      cases s.write with
      | none => simpa using h
      | some w => exact matchers_setMatcher h w.1 w.2.1 w.2.2
    have := ih hs
    cases hw : s.write <;> simp_all [configured]

theorem problems_configured (e : Expectation) (ss : List Setting) :
    (e.configured ss).problems = e.problems ++ ss.filterMap Setting.error := by
  induction ss generalizing e with
  | nil => simp [configured]
  | cons s ss ih =>
    have := ih (s.apply e)
    cases hs : s.error <;> simp_all [configured, Setting.problems_apply]

/-- The matchers of an expectation configured from scratch follow the order of first
configuration: categories in the order each was first written, keys within a category in the
order each was first written, each key with the last matcher written under it, and a catch-all
when nothing was written. A call writes nothing exactly when it records an error, and the
expectation's error is that of its first failing call. -/
theorem configured_matcherList (ss : List Setting) :
    (configured {} ss).matcherList = evaluationOrder (ss.filterMap Setting.write) ∧
      (∀ s ∈ ss, s.write = none ↔ s.error.isSome) ∧
      (configured {} ss).err = (ss.filterMap Setting.error).head? := by
  have hempty : ({} : Expectation).matchers = layout [] := rfl
  refine ⟨?_, fun s _ => s.write_eq_none_iff, ?_⟩
  · simpa using matcherList_of_layout (matchers_configured hempty ss)
  · simp [err, problems_configured]

end Expectation
end HttpMock
