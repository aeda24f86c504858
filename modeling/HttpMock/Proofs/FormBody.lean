import HttpMock.Proofs.SelfMatch
import HttpMock.Proofs.FormPattern
/-! Form bodies: kept as content, with the `&`-separated pairs of the body as parameters when it
matches the form body pattern (`normalize_form_body`). -/
namespace HttpMock

/-- The text of a pair before its first `=`. -/
def formKey (pair : Bytes) : Bytes := pair.takeWhile (· ≠ 0x3D)

/-- The text of a pair between its first and its second `=`; empty without an `=`. -/
def formValue (pair : Bytes) : Bytes := ((pair.dropWhile (· ≠ 0x3D)).drop 1).takeWhile (· ≠ 0x3D)

/-- The pairs of a form body: its parts between `&`s, in order, each read as its key and its
value, percent-decoded. -/
def formPairs (b : Bytes) : List (Bytes × Bytes) :=
  (b.splitAt 0x26).map fun pair =>
    (Text.Percent.decodeOrKeep (formKey pair), Text.Percent.decodeOrKeep (formValue pair))

/-- Splitting at the first `sep`: what comes before it and, if it occurs, what comes after. -/
theorem Bytes.cut_eq (bs : Bytes) (sep : UInt8) :
    bs.cut sep = (bs.takeWhile (· ≠ sep),
      if sep ∈ bs then some ((bs.dropWhile (· ≠ sep)).drop 1) else none) := by
  induction bs with
  | nil => simp [Bytes.cut]
  | cons b bs ih =>
    by_cases hb : b = sep
    · subst hb
      simp [Bytes.cut]
    · simp [Bytes.cut, hb, Ne.symm hb, ih]

/-- What follows the first `sep`, empty without one. -/
theorem Bytes.cut_snd_getD (bs : Bytes) (sep : UInt8) :
    (bs.cut sep).2.getD [] = (bs.dropWhile (· ≠ sep)).drop 1 := by
  rw [Bytes.cut_eq]
  split
  · rfl
  · rename_i hsep
    have hall : bs.dropWhile (· ≠ sep) = [] := by
      rw [List.dropWhile_eq_nil_iff]
      intro x hx
      have hx' : x ≠ sep := fun h => hsep (h ▸ hx)
      simpa using hx'
    rw [hall]
    rfl

theorem cut_fst_eq_formKey (pair : Bytes) : (pair.cut 0x3D).1 = formKey pair := by
  rw [Bytes.cut_eq]
  rfl

theorem cut_value_eq_formValue (pair : Bytes) :
    (((pair.cut 0x3D).2.getD []).cut 0x3D).1 = formValue pair := by
  rw [Bytes.cut_snd_getD, Bytes.cut_eq]
  rfl

/-- Inserting pair after pair answers, for each key, the last value inserted under it. -/
theorem Table.get?_insertAll_lastValue (t : Table Bytes) (ds : List (Bytes × Bytes)) (k : Bytes) :
    (t.insertAll ds).get? k = (Query.lastValue ds k).or (t.get? k) := by
  induction ds using List.reverseRecOn with
  | nil => simp [Query.lastValue, Table.insertAll]
  | append_singleton ds d ih =>
    rw [Table.insertAll, List.foldl_append, List.foldl_cons, List.foldl_nil, ← Table.insertAll,
      Table.get?_insert, Query.lastValue_snoc]
    by_cases hd : d.1 = k
    · simp [hd]
    · simp [hd, Ne.symm hd, ih]

/-- The form parameters of a body are its pairs inserted in order when the body matches the form
body pattern, and none otherwise. -/
theorem formParams_eq (b : Bytes) :
    formParams b = if formBodyProgram.search b then Table.insertAll [] (formPairs b) else [] := by
  unfold formParams formPairs Table.insertAll
  by_cases h : formBodyProgram.search b = true
  · rw [if_neg (by simp [h]), if_pos h, List.foldl_map]
    refine congrArg (fun step => List.foldl step [] (b.splitAt 0x26)) (funext fun acc => funext fun pair => ?_)
    rw [← cut_fst_eq_formKey, ← cut_value_eq_formValue]
  · rw [if_pos (by simpa using h), if_neg h]

/-- With a pair of the form, each key holds the last value of the pairs under it. -/
theorem get?_formParams {b : Bytes} (h : FormAdjacent b) (k : Bytes) :
    (formParams b).get? k = Query.lastValue (formPairs b) k := by
  rw [formParams_eq, if_pos ((formBodyProgram_search_iff b).2 h), Table.get?_insertAll_lastValue,
    Table.get?_nil, Option.or_none]

theorem formParams_of_not {b : Bytes} (h : ¬FormAdjacent b) : formParams b = [] := by
  have hf : formBodyProgram.search b = false :=
    Bool.eq_false_iff.2 fun ht => h ((formBodyProgram_search_iff b).1 ht)
  rw [formParams_eq, hf]
  rfl

example : formParams "a=1&b=2=3&a=x".toBytes = [("a".toBytes, "x".toBytes), ("b".toBytes, "2".toBytes)] := by
  rw [formParams_eq, search_formBodyProgram]
  cbv

example : formParams "==x&y".toBytes = [] := by
  rw [formParams_eq, search_formBodyProgram]
  cbv

/-- A content type of a form is not one of JSON: the two prefixes differ at their thirteenth
octet. -/
theorem not_json_of_form {ct : Bytes}
    (h : ("application/x-www-form-urlencoded".toBytes).isPrefixOf ct = true) :
    ("application/json".toBytes).isPrefixOf ct = false := by
  rw [Bool.eq_false_iff]
  intro hjson
  rw [List.isPrefixOf_iff_prefix] at h hjson
  have hlen : ("application/json".toBytes).length ≤ ("application/x-www-form-urlencoded".toBytes).length := by
    decide
  have hboth := List.prefix_of_prefix_length_le hjson h hlen
  exact absurd (List.isPrefixOf_iff_prefix.2 hboth) (by decide)

/-- Normalizing a request whose body is sent as a form keeps the body as content and reads its
form parameters; the headers must parse and a JSON option, if any, must normalize. -/
theorem normalize_form {method url : Bytes} {o : Options} {headers : Table Bytes}
    {body : Body} {b : Bytes} (hheaders : o.headerTable = .ok headers)
    (hjson : ∀ p, o.json = some p → ∃ v, p.normalize = .ok v) (hbody : o.body = some body)
    (hform : ("application/x-www-form-urlencoded".toBytes).isPrefixOf
      ((headers.get? "content-type".toBytes).getD []) = true)
    (hraw : Options.rawBody headers body = some b) :
    ∃ r, Request.normalize method url o = .ok r ∧ r.requestParams = formParams b ∧
      r.content = some b := by
  have hnotjson := not_json_of_form hform
  unfold Request.normalize
  cases hj : o.json with
  | none =>
    simp only [hheaders, hbody, hraw, hform, hnotjson, bind, Except.bind, pure, Except.pure,
      Bool.false_eq_true, if_false, if_true]
    exact ⟨_, rfl, by with_reducible rfl, rfl⟩
  | some p =>
    obtain ⟨v, hv⟩ := hjson p hj
    simp only [hheaders, hbody, hraw, hform, hnotjson, hv, bind, Except.bind, pure, Except.pure,
      Bool.false_eq_true, if_false, if_true]
    exact ⟨_, rfl, by with_reducible rfl, rfl⟩

/-- A body sent as a form, as text, octets or a stream, is kept as the request's content, and
its parameters have distinct keys. Without an `=` that follows an octet other than `=` there are
none; with one, they are the body's `&`-separated pairs inserted from left to right, so each key
holds the value of its last pair. -/
theorem normalize_form_body {method url : Bytes} {o : Options} {headers : Table Bytes}
    {body : Body} {b : Bytes} (hheaders : o.headerTable = .ok headers)
    (hjson : ∀ p, o.json = some p → ∃ v, p.normalize = .ok v) (hbody : o.body = some body)
    (hform : ("application/x-www-form-urlencoded".toBytes).isPrefixOf
      ((headers.get? "content-type".toBytes).getD []) = true)
    (hraw : Options.rawBody headers body = some b) :
    ∃ r, Request.normalize method url o = .ok r ∧ r.content = some b ∧
      (Table.keyList r.requestParams).Nodup ∧
      (¬FormAdjacent b → r.requestParams = []) ∧
      (FormAdjacent b → r.requestParams = Table.insertAll [] (formPairs b) ∧
        ∀ k, r.requestParams.get? k = Query.lastValue (formPairs b) k) := by
  obtain ⟨r, hr, hparams, hcontent⟩ := normalize_form hheaders hjson hbody hform hraw
  refine ⟨r, hr, hcontent, hparams ▸ nodup_formParams b, fun hnot => ?_, fun hadj => ?_⟩
  · rw [hparams, formParams_of_not hnot]
  · have hfold : formParams b = Table.insertAll [] (formPairs b) := by
      rw [formParams_eq, if_pos ((formBodyProgram_search_iff b).2 hadj)]
    exact ⟨hparams.trans hfold, fun k => hparams ▸ get?_formParams hadj k⟩

/-- A form whose key `a` comes twice and whose pair `b=2=3` holds two `=`, sent as text. -/
theorem normalize_form_body_repeated_key :
    let form := "a=1&b=2=3&a=x".toBytes
    ∃ r, Request.normalize "POST".toBytes "/f".toBytes
        { headers := ["Content-Type: application/x-www-form-urlencoded".toBytes],
          body := some (.raw form) } = .ok r ∧
      r.content = some form ∧ (Table.keyList r.requestParams).Nodup ∧
      (¬FormAdjacent form → r.requestParams = []) ∧
      (FormAdjacent form → r.requestParams = Table.insertAll [] (formPairs form) ∧
        ∀ k, r.requestParams.get? k = Query.lastValue (formPairs form) k) :=
  @normalize_form_body "POST".toBytes "/f".toBytes
    { headers := ["Content-Type: application/x-www-form-urlencoded".toBytes],
      body := some (.raw "a=1&b=2=3&a=x".toBytes) }
    [("content-type".toBytes, "application/x-www-form-urlencoded".toBytes)]
    (.raw "a=1&b=2=3&a=x".toBytes) "a=1&b=2=3&a=x".toBytes
    (by cbv) (fun _ h => by cases h) rfl (by decide) rfl

end HttpMock
