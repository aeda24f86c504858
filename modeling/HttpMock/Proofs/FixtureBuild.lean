import HttpMock.Fixture.Build
import HttpMock.Proofs.Queue
/-! Building expectations from fixture declarations fails exactly for the reasons they show. -/
namespace HttpMock

/-- An ASCII character occurs in a text exactly when its octet occurs in the text's encoding. -/
theorem mem_toBytes_ascii {c : Char} (hc : c.toNat < 0x80) (s : String) :
    UInt8.ofNat c.toNat ∈ s.toBytes ↔ c ∈ s.toList := by
  have hb : (UInt8.ofNat c.toNat).toNat = c.toNat := by
    simp
    omega
  simp only [String.toBytes, List.mem_flatMap, Bytes.mem_utf8EncodeChar_ascii (hb ▸ hc), hb]
  constructor
  · rintro ⟨c', hc', heq⟩
    rwa [← Char.toNat_inj.1 heq]
  · exact fun h => ⟨c, h, rfl⟩

/-! ### Stages that only record problems -/

namespace Expectation

/-- `e'` keeps the replies of `e` and records the problems `ps` after those of `e`. -/
def Grows (e e' : Expectation) (ps : List MockError) : Prop :=
  e'.replies = e.replies ∧ e'.problems = e.problems ++ ps

/-- The problems a matcher constructor records: none when it makes its matcher. -/
def payloadProblems : Except Match.PayloadError Match.Matcher → List MockError
  | .ok _ => []
  | .error x => [.payload x]

variable {e e' e'' : Expectation} {ps qs : List MockError}

theorem Grows.refl (e : Expectation) : Grows e e [] := ⟨rfl, by simp⟩

theorem Grows.trans (h : Grows e e' ps) (h' : Grows e' e'' qs) : Grows e e'' (ps ++ qs) :=
  ⟨h'.1.trans h.1, by rw [h'.2, h.2, List.append_assoc]⟩

/-- A fold of stages that each record their own problems records them all, in order. -/
theorem grows_foldl {α : Type} {f : Expectation → α → Expectation} {g : α → List MockError}
    (hf : ∀ e a, Grows e (f e a) (g a)) (l : List α) (e : Expectation) :
    Grows e (l.foldl f e) (l.flatMap g) := by
  induction l generalizing e with
  | nil => exact Grows.refl e
  | cons a l ih => simpa using (hf e a).trans (ih (f e a))

/-- Stages that record nothing, folded over a list on top of a growth, keep it. -/
theorem Grows.foldl {α : Type} {f : Expectation → α → Expectation} (hf : ∀ e a, Grows e (f e a) [])
    (h : Grows e e' ps) (l : List α) : Grows e (l.foldl f e') ps := by
  induction l generalizing e' with
  | nil => exact h
  | cons a l ih => exact ih (by simpa using h.trans (hf e' a))

theorem grows_setMatcher (c : Match.Category) (k : Bytes) (m : Match.Matcher) :
    Grows e (e.setMatcher c k m) [] := by
  unfold setMatcher
  split <;> exact ⟨rfl, by simp⟩

/-- A matcher that a constructor makes is set; a constructor's error is recorded. -/
theorem grows_ofMatcher (r : Except Match.PayloadError Match.Matcher) (c : Match.Category)
    (k : Bytes) :
    Grows e (match r with
      | .ok m => e.setMatcher c k m
      | .error x => e.fail (.payload x)) (payloadProblems r) := by
  cases r with
  | ok m => exact grows_setMatcher c k m
  | error x => exact ⟨rfl, rfl⟩

theorem grows_withUri (p : Bytes) : Grows e (e.withUri p) (payloadProblems (Match.Matcher.ofUri p)) :=
  grows_ofMatcher _ .uri []

theorem grows_withJson (v : Option Payload) :
    Grows e (e.withJson v) (payloadProblems (Match.Matcher.ofJson v)) :=
  grows_ofMatcher _ .json []

theorem grows_withXml (raw : Bytes) : Grows e (e.withXml raw) (payloadProblems (Match.Matcher.ofXml raw)) :=
  grows_ofMatcher _ .xml []

theorem grows_withJsonPath (path : Bytes) (v : Option Payload) :
    Grows e (e.withJsonPath path v) (payloadProblems (Match.Matcher.ofJsonPath path v)) :=
  grows_ofMatcher _ .jsonPath path

theorem payloadProblems_eq_nil_iff (r : Except Match.PayloadError Match.Matcher) :
    payloadProblems r = [] ↔ ∀ err, r ≠ .error err := by
  cases r <;> simp [payloadProblems]

theorem payload_of_mem_payloadProblems {r : Except Match.PayloadError Match.Matcher} {p : MockError}
    (hp : p ∈ payloadProblems r) : ∃ x, p = .payload x := by
  cases r with
  | ok m => simp [payloadProblems] at hp
  | error x => exact ⟨x, by simpa [payloadProblems] using hp⟩

end Expectation

/-- A URI pattern is refused exactly when it has a query mark. -/
theorem ofUri_eq_error_iff (s : String) :
    (∃ err, Match.Matcher.ofUri s.toBytes = .error err) ↔ '?' ∈ s.toList := by
  have hq : (0x3F : UInt8) = UInt8.ofNat '?'.toNat := rfl
  rw [← mem_toBytes_ascii (by decide : '?'.toNat < 0x80), ← hq]
  unfold Match.Matcher.ofUri
  by_cases h : s.toBytes.contains 0x3F = true
  · simp [List.contains_iff_mem.1 h, throw, throwThe, MonadExceptOf.throw]
  · have hnot : (0x3F : UInt8) ∉ s.toBytes := fun hm => h (List.contains_iff_mem.2 hm)
    simp [hnot, pure, Except.pure]

theorem mapM_cons_eq_ok {α β ε : Type} {f : α → Except ε β} {a : α} {l : List α} {bs : List β} :
    (a :: l).mapM f = .ok bs ↔ ∃ b bs', f a = .ok b ∧ l.mapM f = .ok bs' ∧ bs = b :: bs' := by
  rw [List.mapM_cons]
  cases f a with
  | error x => simp [bind, Except.bind]
  | ok b =>
    cases l.mapM f with
    | error x => simp [bind, Except.bind]
    | ok bs' => simp [bind, Except.bind, pure, Except.pure, eq_comm]

theorem ErrorKind.mem_ordered {k : ErrorKind} {ks : List ErrorKind} :
    k ∈ ErrorKind.ordered ks ↔ k ∈ ks := by
  have hall : k ∈ ErrorKind.all := by cases k <;> decide
  simp [ErrorKind.ordered, hall]

open Expectation

namespace Fixture

/-! ### The request conditions, stage by stage -/

namespace RequestDecl

/-- The request line: the method and the URI, each if given. -/
def lineStage (q : RequestDecl) (e : Expectation) : Expectation :=
  let e := if q.method ≠ "" then e.withMethod q.method.toBytes else e
  if q.uri ≠ "" then e.withUri q.uri.toBytes else e

/-- The keyed maps, each in key order: URI parameters, headers, query and form parameters,
parts. -/
def mapStage (q : RequestDecl) (e : Expectation) : Expectation :=
  let e := (byKey q.uriParams).foldl (fun e (k, v) => e.withUriParam k.toBytes v.toBytes) e
  let e := (byKey q.headers).foldl (fun e (k, v) => e.withHeader k.toBytes v.toBytes) e
  let e := (byKey q.queryParams).foldl (fun e (k, v) => e.withQueryParam k.toBytes v.toBytes) e
  let e := (byKey q.requestParams).foldl (fun e (k, v) => e.withRequestParam k.toBytes v.toBytes) e
  (byKey q.multiparts).foldl (fun e (k, p) => e.withPart k.toBytes
    { mimetype := p.mimetype.toBytes, filename := p.filename.toBytes, content := p.content.toBytes }) e

/-- One body: JSON before XML before raw content. -/
def bodyStage (q : RequestDecl) (e : Expectation) : Expectation :=
  match q.json, q.content with
  | some j, _ => e.withJson (payloadOf j)
  | none, c =>
    if q.xml ≠ "" then e.withXml q.xml.toBytes
    else match c with
      | some c => e.withContent c.toBytes
      | none => e

/-- The JSON paths, in key order. -/
def pathStage (q : RequestDecl) (e : Expectation) : Expectation :=
  (byKey q.jsonPath).foldl (fun e (k, v) => e.withJsonPath k.toBytes (payloadOf v)) e

/-- Every condition but the `that` expression. -/
def conditions (q : RequestDecl) (e : Expectation) : Expectation :=
  q.pathStage (q.bodyStage (q.mapStage (q.lineStage e)))

theorem configure_eq (q : RequestDecl) (e : Expectation) :
    q.configure e = if q.that ≠ "" then
      (Predicate.compile q.that >>= fun p => pure ((q.conditions e).withThat p))
    else pure (q.conditions e) := rfl

/-- The body matcher a declaration selects, if it declares a body: JSON before XML before raw
content. -/
def bodyMatcher (q : RequestDecl) : Option (Except Match.PayloadError Match.Matcher) :=
  match q.json with
  | some j => some (Match.Matcher.ofJson (payloadOf j))
  | none =>
    if q.xml ≠ "" then some (Match.Matcher.ofXml q.xml.toBytes)
    else q.content.map fun c => .ok (.content c.toBytes)

/-- The problems the request conditions record: the URI's, the body's, then the JSON paths' in
key order. -/
def problems (q : RequestDecl) : List MockError :=
  (if q.uri ≠ "" then payloadProblems (Match.Matcher.ofUri q.uri.toBytes) else []) ++
    (q.bodyMatcher.map payloadProblems).getD [] ++
    (byKey q.jsonPath).flatMap fun kv => payloadProblems (Match.Matcher.ofJsonPath kv.1.toBytes (payloadOf kv.2))

variable (q : RequestDecl) (e : Expectation)

theorem grows_lineStage :
    Grows e (q.lineStage e)
      (if q.uri ≠ "" then payloadProblems (Match.Matcher.ofUri q.uri.toBytes) else []) := by
  have hmethod : Grows e (if q.method ≠ "" then e.withMethod q.method.toBytes else e) [] := by
    split
    · exact grows_setMatcher _ _ _
    · exact Grows.refl e
  dsimp only [lineStage]
  by_cases hu : q.uri ≠ ""
  · rw [if_pos hu, if_pos hu]
    exact hmethod.trans (grows_withUri _)
  · rw [if_neg hu, if_neg hu]
    exact hmethod

theorem grows_mapStage : Grows e (q.mapStage e) [] := by
  dsimp only [mapStage]
  refine .foldl (fun e ⟨_, _⟩ => grows_setMatcher _ _ _) (.foldl (fun e ⟨_, _⟩ => grows_setMatcher _ _ _)
    (.foldl (fun e ⟨_, _⟩ => grows_setMatcher _ _ _) (.foldl (fun e ⟨_, _⟩ => grows_setMatcher _ _ _)
      (.foldl (fun e ⟨_, _⟩ => ⟨rfl, by simp [withUriParam]⟩) (.refl e) _) _) _) _) _

theorem grows_bodyStage : Grows e (q.bodyStage e) ((q.bodyMatcher.map payloadProblems).getD []) := by
  unfold bodyStage bodyMatcher
  cases hj : q.json with
  | some j => exact grows_withJson _
  | none =>
    by_cases hx : q.xml ≠ ""
    · simpa [hx] using grows_withXml (e := e) q.xml.toBytes
    · cases hc : q.content with
      | some c => simpa [hx, payloadProblems, withContent] using
          grows_setMatcher (e := e) .content [] (.content c.toBytes)
      | none => simpa [hx] using Grows.refl e

theorem grows_pathStage :
    Grows e (q.pathStage e)
      ((byKey q.jsonPath).flatMap fun kv =>
        payloadProblems (Match.Matcher.ofJsonPath kv.1.toBytes (payloadOf kv.2))) :=
  grows_foldl (fun _ kv => grows_withJsonPath kv.1.toBytes (payloadOf kv.2)) _ e

/-- The request conditions keep the replies and record exactly their own problems. -/
theorem grows_conditions : Grows e (q.conditions e) q.problems := by
  have h := (((grows_lineStage q e).trans (grows_mapStage q _)).trans (grows_bodyStage q _)).trans
    (grows_pathStage q _)
  rw [List.append_nil] at h
  exact h

/-- Configuring the request fails only when its `that` expression does not compile, with that
error; otherwise it keeps the replies and records the conditions' problems. -/
theorem configure_cases :
    (∃ err, q.configure e = .error err ∧ q.that ≠ "" ∧ Predicate.compile q.that = .error err) ∨
    (∃ e', q.configure e = .ok e' ∧ Grows e e' q.problems ∧
      (q.that = "" ∨ ∃ p, Predicate.compile q.that = .ok p)) := by
  rw [configure_eq]
  by_cases ht : q.that ≠ ""
  · rw [if_pos ht]
    cases hc : Predicate.compile q.that with
    | error err => exact .inl ⟨err, rfl, ht, rfl⟩
    | ok p =>
      refine .inr ⟨_, rfl, ?_, .inr ⟨p, rfl⟩⟩
      simpa [withThat] using
        (grows_conditions q e).trans (grows_setMatcher (e := q.conditions e) .that [] (.that p))
  · rw [if_neg ht]
    exact .inr ⟨_, rfl, grows_conditions q e, .inl (by simpa using ht)⟩

/-- The conditions record nothing exactly when the URI has no query, the body matcher (if any)
can be made and every JSON path is valid. -/
theorem problems_eq_nil_iff :
    q.problems = [] ↔ '?' ∉ q.uri.toList ∧ (∀ err, q.bodyMatcher ≠ some (.error err)) ∧
      ∀ kv ∈ q.jsonPath, ∀ err, Match.Matcher.ofJsonPath kv.1.toBytes (payloadOf kv.2) ≠ .error err := by
  have huri : (if q.uri ≠ "" then payloadProblems (Match.Matcher.ofUri q.uri.toBytes) else []) = [] ↔
      '?' ∉ q.uri.toList := by
    by_cases hu : q.uri ≠ ""
    · rw [if_pos hu, payloadProblems_eq_nil_iff, ← not_exists, ofUri_eq_error_iff]
    · have hnil : q.uri = "" := by simpa using hu
      simp [hnil]
  have hbody : (q.bodyMatcher.map payloadProblems).getD [] = [] ↔
      ∀ err, q.bodyMatcher ≠ some (.error err) := by
    cases q.bodyMatcher with
    | none => simp
    | some r => simp [payloadProblems_eq_nil_iff]
  have hpath : ((byKey q.jsonPath).flatMap fun kv =>
        payloadProblems (Match.Matcher.ofJsonPath kv.1.toBytes (payloadOf kv.2))) = [] ↔
      ∀ kv ∈ q.jsonPath, ∀ err, Match.Matcher.ofJsonPath kv.1.toBytes (payloadOf kv.2) ≠ .error err := by
    simp [List.flatMap_eq_nil_iff, payloadProblems_eq_nil_iff, byKey, List.mem_mergeSort]
  rw [problems, List.append_eq_nil_iff, List.append_eq_nil_iff, huri, hbody, hpath, and_assoc]

/-- The conditions record only malformed payloads. -/
theorem not_addFailed_of_mem_problems {p : MockError} (hp : p ∈ q.problems) :
    p.isKind .addFailed = false := by
  obtain ⟨x, rfl⟩ : ∃ x, p = .payload x := by
    simp only [problems, List.mem_append, List.mem_flatMap] at hp
    rcases hp with (hp | hp) | ⟨_, _, hp⟩
    · split at hp
      · exact payload_of_mem_payloadProblems hp
      · simp at hp
    · cases hb : q.bodyMatcher with
      | none => simp [hb] at hp
      | some r => exact payload_of_mem_payloadProblems (by simpa [hb] using hp)
    · exact payload_of_mem_payloadProblems hp
  cases x <;> rfl

end RequestDecl

/-! ### Responses -/

namespace ResponseDecl

/-- What a declared response answers with: its error if it has one, else its builder. -/
def reply (r : ResponseDecl) : Reply :=
  if r.error ≠ "" then .raise r.error.toBytes none else .respond r.builder

/-- A response whose JSON the encoder refuses. -/
def Unencodable (r : ResponseDecl) : Prop :=
  ∃ j p m, r.json = some j ∧ payloadOf j = some p ∧ p.encode = .error m

/-- The problems adding a response records: the encoding failure of a response answered by its
builder. -/
def problems (r : ResponseDecl) : List MockError :=
  if r.error ≠ "" then [] else (r.builder.failure?.map .build).toList

/-- The builder of a response before its body: the status if set, then the headers in key
order. -/
def head (r : ResponseDecl) : Response.Builder :=
  let b : Response.Builder := {}
  let b := if r.status ≠ 0 then b.withCode r.status else b
  (byKey r.headers).foldl (fun b (k, v) => b.withHeader k.toBytes v.toBytes) b

theorem builder_eq (r : ResponseDecl) : r.builder = match r.json, r.body with
    | some j, _ => r.head.withJson (payloadOf j)
    | none, some body => r.head.withContent body.toBytes
    | none, none => r.head := rfl

theorem error_foldl_withHeader (hs : List (String × String)) (b : Response.Builder) :
    (hs.foldl (fun b (k, v) => b.withHeader k.toBytes v.toBytes) b).error = b.error := by
  induction hs generalizing b with
  | nil => rfl
  | cons kv hs ih => exact ih _

@[simp]
theorem error_head (r : ResponseDecl) : r.head.error = none := by
  unfold head
  rw [error_foldl_withHeader]
  split <;> rfl

/-- A builder records a failure exactly when its JSON has no JSON form. -/
theorem failure?_builder_eq_none_iff (r : ResponseDecl) : r.builder.failure? = none ↔ ¬ r.Unencodable := by
  simp only [Response.Builder.failure?, Option.map_eq_none_iff, Unencodable]
  cases hj : r.json with
  | none => cases hb : r.body <;> simp [builder_eq, hj, hb, Response.Builder.withContent]
  | some j =>
    obtain ⟨p, hp⟩ : ∃ p, payloadOf j = some p := by
      cases j <;> exact ⟨_, rfl⟩
    cases he : p.encode with
    | error m => simp [builder_eq, hj, hp, he, Response.Builder.withJson]
    | ok v =>
      simp [builder_eq, hj, hp, he, Response.Builder.withJson, Response.Builder.withContentType,
        Response.Builder.withHeader, Response.Builder.withContent]

theorem problems_eq_nil_iff (r : ResponseDecl) : r.problems = [] ↔ r.error ≠ "" ∨ ¬ r.Unencodable := by
  unfold problems
  by_cases he : r.error ≠ ""
  · simp [he]
  · simp only [he, if_false, Option.toList_eq_nil_iff, Option.map_eq_none_iff,
      failure?_builder_eq_none_iff, false_or]

/-- Adding a response records only the encoding failure of its builder. -/
theorem not_addFailed_of_mem_problems {r : ResponseDecl} {p : MockError} (hp : p ∈ r.problems) :
    p.isKind .addFailed = false := by
  unfold problems Response.Builder.failure? at hp
  split at hp
  · simp at hp
  · cases hb : r.builder.error with
    | none => simp [hb] at hp
    | some m =>
      simp only [hb, Option.map_some, Option.toList_some, List.mem_singleton] at hp
      subst hp
      rfl

/-- Adding a response that the queue takes records the response's own problems, and puts the
reply in the queue unless the builder failed. -/
theorem addTo_eq (r : ResponseDecl) (always : Bool) (e : Expectation) (q : Response.Queue Reply)
    (hq : (if always then e.replies.addAlways r.reply else e.replies.add r.reply) = .ok q) :
    (r.addTo always e).problems = e.problems ++ r.problems ∧
      (r.addTo always e).replies = if r.problems = [] then q else e.replies := by
  unfold addTo problems
  by_cases he : r.error ≠ ""
  · simp only [reply, if_pos he] at hq
    simp [he, willThrow, addReply, hq]
  · simp only [reply, if_neg he] at hq
    cases hf : r.builder.failure? with
    | none => simp [he, hf, willRespond, addReply, hq]
    | some x => simp [he, hf, willRespond, Expectation.fail]

/-- Responses added one per call to an expectation that does not answer always record their own
problems, in order, and when none fails they follow the replies already queued. -/
theorem foldl_addTo (rs : List ResponseDecl) (e : Expectation) (h : e.replies.mode ≠ .always) :
    (rs.foldl (fun e r => r.addTo false e) e).problems = e.problems ++ rs.flatMap problems ∧
    (rs.flatMap problems = [] → (rs.foldl (fun e r => r.addTo false e) e).replies =
      if rs = [] then e.replies
      else { e.replies with mode := .sequence, entries := e.replies.entries ++ rs.map reply }) := by
  induction rs generalizing e with
  | nil => simp
  | cons r rs ih =>
    obtain ⟨hprob, hrep⟩ := r.addTo_eq false e _ (Response.Queue.add_eq_ok.2 ⟨h, rfl⟩)
    have hmode : (r.addTo false e).replies.mode ≠ .always := by
      rw [hrep]
      split
      · simp
      · exact h
    obtain ⟨ihprob, ihrep⟩ := ih (r.addTo false e) hmode
    refine ⟨by simp [ihprob, hprob], fun hnil => ?_⟩
    obtain ⟨hr, hrs⟩ : r.problems = [] ∧ rs.flatMap problems = [] := by
      simpa [List.flatMap_cons] using hnil
    rw [List.foldl_cons, ihrep hrs, hrep, if_pos hr]
    split <;> simp_all

end ResponseDecl

/-! ### Building one expectation -/

namespace ExpectationDecl

/-- A fresh expectation with the declared name. -/
def start (x : ExpectationDecl) : Expectation :=
  if x.name ≠ "" then ({} : Expectation).withName x.name else {}

/-- The responses added to a configured expectation: each of the list, then the always-response. -/
def answers (x : ExpectationDecl) (e : Expectation) : Expectation :=
  let e := x.responses.foldl (fun e r => r.addTo false e) e
  match x.always with
  | some a => a.addTo true e
  | none => e

theorem build_eq (x : ExpectationDecl) :
    x.build = if !x.responses.isEmpty && x.always.isSome then
        .error (.fixture [] "responses and always are mutually exclusive".toBytes)
      else (x.request.configure x.start >>= fun e => match (x.answers e).err with
        | some p => .error p
        | none => .ok (x.answers e)) := by
  rfl

/-- The problems the responses record, those of the list then the always-response's. -/
def responseProblems (x : ExpectationDecl) : List MockError :=
  (x.responses ++ x.always.toList).flatMap ResponseDecl.problems

/-- The reply queue a declaration describes: a sequence of its responses in order, else the
always-response, else nothing. -/
def replyQueue (x : ExpectationDecl) : Response.Queue Reply :=
  if x.responses ≠ [] then { mode := .sequence, entries := x.responses.map ResponseDecl.reply }
  else match x.always with
    | some a => { mode := .always, always := some a.reply }
    | none => {}

/-- The declaration has both a list of responses and an always-response. -/
def Conflicting (x : ExpectationDecl) : Prop := x.responses ≠ [] ∧ x.always.isSome

/-- Why a declaration cannot be built: a response-mode conflict, a URI with a query, a body
matcher that cannot be made, an invalid JSON path, a `that` expression that does not compile, or
a response answered by its builder whose JSON has no JSON form. -/
def Refused (x : ExpectationDecl) : Prop :=
  x.Conflicting ∨ '?' ∈ x.request.uri.toList ∨
    (∃ err, x.request.bodyMatcher = some (.error err)) ∨
    (∃ kv ∈ x.request.jsonPath, ∃ err,
      Match.Matcher.ofJsonPath kv.1.toBytes (payloadOf kv.2) = .error err) ∨
    (x.request.that ≠ "" ∧ ∃ err, Predicate.compile x.request.that = .error err) ∨
    ∃ r ∈ x.responses ++ x.always.toList, r.error = "" ∧ r.Unencodable

variable (x : ExpectationDecl)

theorem conflicting_iff : x.Conflicting ↔ (!x.responses.isEmpty && x.always.isSome) = true := by
  simp [Conflicting]

/-- Without a conflict, the responses record their own problems after the conditions', and when
none fails the queue is the declared one. -/
theorem answers_eq (e : Expectation) (hc : ¬ x.Conflicting) (he : e.replies = {}) :
    (x.answers e).problems = e.problems ++ x.responseProblems ∧
    (x.responseProblems = [] → (x.answers e).replies = x.replyQueue) := by
  obtain ⟨hprob, hrep⟩ := ResponseDecl.foldl_addTo x.responses e (by simp [he])
  unfold answers responseProblems replyQueue
  cases ha : x.always with
  | none =>
    refine ⟨by simpa using hprob, fun hnil => ?_⟩
    rw [hrep (by simpa using hnil), he]
    split <;> simp_all
  | some a =>
    -- with an always-response there is no list, so the queue is still empty when it is added
    have hnil : x.responses = [] := by
      cases hr : x.responses with
      | nil => rfl
      | cons r rs => exact absurd (by simp [Conflicting, hr, ha]) hc
    have hq := a.addTo_eq true e _ (Response.Queue.addAlways_eq_ok.2 ⟨by simp [he], rfl⟩)
    simp only [hnil, List.foldl_nil, List.nil_append, Option.toList_some, List.flatMap_cons,
      List.flatMap_nil, List.append_nil] at hq ⊢
    refine ⟨hq.1, fun hr => ?_⟩
    rw [hq.2, if_pos hr, he]
    rfl

/-- Building fails with the conflict, the `that` expression's error, or the first problem the
conditions and the responses record, and otherwise gives the expectation with the declared
queue. -/
theorem build_cases :
    (x.Conflicting ∧ x.build = .error (.fixture [] "responses and always are mutually exclusive".toBytes)) ∨
    (¬ x.Conflicting ∧ x.request.that ≠ "" ∧ ∃ err, Predicate.compile x.request.that = .error err ∧
      x.build = .error err) ∨
    (¬ x.Conflicting ∧ (x.request.that = "" ∨ ∃ p, Predicate.compile x.request.that = .ok p) ∧
      ∃ e, x.build = (match (x.request.problems ++ x.responseProblems).head? with
        | some p => .error p
        | none => .ok e) ∧ e.problems = x.request.problems ++ x.responseProblems ∧
        ((x.request.problems ++ x.responseProblems) = [] → e.replies = x.replyQueue)) := by
  by_cases hc : x.Conflicting
  · exact .inl ⟨hc, by rw [build_eq, if_pos ((conflicting_iff x).1 hc)]⟩
  have hbuild := build_eq x
  rw [if_neg (fun h => hc ((conflicting_iff x).2 h))] at hbuild
  have hstart : Grows {} x.start [] := by
    unfold start
    split
    · exact ⟨rfl, rfl⟩
    · exact Grows.refl _
  rcases x.request.configure_cases x.start with ⟨err, hconf, hthat, hcomp⟩ | ⟨e, hconf, hgrow, hthat⟩
  · exact .inr (.inl ⟨hc, hthat, err, hcomp, by rw [hbuild, hconf]; rfl⟩)
  · obtain ⟨hrep, hprob⟩ := hstart.trans hgrow
    obtain ⟨hans, hq⟩ := x.answers_eq e hc hrep
    have hall : (x.answers e).problems = x.request.problems ++ x.responseProblems := by
      rw [hans, hprob]
      rfl
    refine .inr (.inr ⟨hc, hthat, x.answers e, ?_, hall, fun hnil => hq (List.append_eq_nil_iff.1 hnil).2⟩)
    rw [hbuild, hconf, ← hall]
    rfl

theorem responseProblems_eq_nil_iff :
    x.responseProblems = [] ↔ ∀ r ∈ x.responses ++ x.always.toList, r.error ≠ "" ∨ ¬ r.Unencodable := by
  simp only [responseProblems, List.flatMap_eq_nil_iff, ResponseDecl.problems_eq_nil_iff]

/-- Once the modes agree and the `that` expression compiles, a declaration is refused exactly when
its conditions or its responses record a problem. -/
theorem refused_iff_problems (hc : ¬ x.Conflicting)
    (hthat : x.request.that = "" ∨ ∃ p, Predicate.compile x.request.that = .ok p) :
    x.Refused ↔ x.request.problems ++ x.responseProblems ≠ [] := by
  have hcomp : ¬ (x.request.that ≠ "" ∧ ∃ err, Predicate.compile x.request.that = .error err) := by
    rintro ⟨hne, err, herr⟩
    rcases hthat with h | ⟨p, hp⟩
    · exact hne h
    · rw [hp] at herr
      cases herr
  rw [Ne, List.append_eq_nil_iff, RequestDecl.problems_eq_nil_iff, responseProblems_eq_nil_iff]
  unfold Refused
  simp only [hc, hcomp, false_or]
  grind

/-- Building fails exactly when the declaration is refused. -/
theorem build_error_iff : (∃ err, x.build = .error err) ↔ x.Refused := by
  rcases x.build_cases with ⟨hc, hb⟩ | ⟨hc, hthat, err, hcomp, hb⟩ | ⟨hc, hthat, e, hb, -, -⟩
  · exact ⟨fun _ => .inl hc, fun _ => ⟨_, hb⟩⟩
  · exact ⟨fun _ => .inr (.inr (.inr (.inr (.inl ⟨hthat, err, hcomp⟩)))), fun _ => ⟨err, hb⟩⟩
  · rw [hb, x.refused_iff_problems hc hthat]
    cases x.request.problems ++ x.responseProblems <;> simp

theorem compile_error_kinds {s : String} {err : MockError} (h : Predicate.compile s = .error err) :
    err.rawKinds = [.invalidFixture] := by
  unfold Predicate.compile at h
  split at h
  · simp [pure, Except.pure] at h
  · simp only [throw, throwThe, MonadExceptOf.throw, Except.error.injEq] at h
    subst h
    rfl

/-- Building never fails because a response could not be added. -/
theorem build_error_not_addFailed {err : MockError} (h : x.build = .error err) :
    err.isKind .addFailed = false := by
  rcases x.build_cases with ⟨-, hb⟩ | ⟨-, -, err', hcomp, hb⟩ | ⟨-, -, e, hb, -, -⟩
  · rw [hb] at h
    cases h
    rfl
  · rw [hb] at h
    cases h
    simp [MockError.isKind, compile_error_kinds hcomp]
  · rw [hb] at h
    cases hp : x.request.problems ++ x.responseProblems with
    | nil => simp [hp] at h
    | cons p ps =>
      simp only [hp, List.head?_cons, Except.error.injEq] at h
      rw [← h]
      rcases List.mem_append.1 (hp ▸ List.mem_cons_self : p ∈ x.request.problems ++ x.responseProblems)
        with hq | hr
      · exact RequestDecl.not_addFailed_of_mem_problems _ hq
      · obtain ⟨r, -, hr⟩ := List.mem_flatMap.1 hr
        exact ResponseDecl.not_addFailed_of_mem_problems hr

/-- A built expectation has no problem and the declared reply queue. -/
theorem build_ok {e : Expectation} (h : x.build = .ok e) : e.err = none ∧ e.replies = x.replyQueue := by
  rcases x.build_cases with ⟨-, hb⟩ | ⟨-, -, err, -, hb⟩ | ⟨-, -, e', hb, hprob, hrep⟩
  · rw [hb] at h
    cases h
  · rw [hb] at h
    cases h
  · rw [hb] at h
    cases hp : x.request.problems ++ x.responseProblems with
    | cons p ps => simp [hp] at h
    | nil =>
      simp only [hp, List.head?_nil, Except.ok.injEq] at h
      subst h
      exact ⟨by simp [Expectation.err, hprob, hp], hrep hp⟩

/-- A collection takes every expectation that builds. -/
theorem add_of_build {e : Expectation} (h : x.build = .ok e) (c : Collection) :
    c.add e = .ok { c with expectations := c.expectations ++ [e] } := by
  simp [Collection.add, Expectation.invalidity, (x.build_ok h).1, pure, Except.pure]

end ExpectationDecl

/-! ### Applying a document -/

namespace Document

variable (d : Document)

/-- The refusal of an expectation is an invalid fixture, and of every kind of its cause. -/
theorem isKind_refusal (y : ExpectationDecl) (i : Nat) (cause : MockError) (k : ErrorKind) :
    (d.refusal y i cause).isKind k = true ↔ k = .invalidFixture ∨ cause.isKind k = true := by
  simp [refusal, MockError.isKind, MockError.rawKinds, MockError.kinds, ErrorKind.mem_ordered]

/-- When every expectation builds, they are all added, in order. -/
theorem applyFrom_of_mapM (xs : List ExpectationDecl) (i : Nat) (c : Collection) (es : List Expectation)
    (h : xs.mapM ExpectationDecl.build = .ok es) :
    d.applyFrom xs i c = (none, { c with expectations := c.expectations ++ es }) := by
  induction xs generalizing i c es with
  | nil =>
    simp only [List.mapM_nil, pure, Except.pure, Except.ok.injEq] at h
    simp [applyFrom, ← h]
  | cons y ys ih =>
    obtain ⟨e, es', hy, hys, rfl⟩ := mapM_cons_eq_ok.1 h
    simp [applyFrom, hy, bind, Except.bind, y.add_of_build hy, ih _ _ _ hys]

/-- When the expectations before index `n` build and the one at `n` does not, those before it are
added and the one at `n` is refused. -/
theorem applyFrom_of_error (xs : List ExpectationDecl) (i n : Nat) (c : Collection)
    (es : List Expectation) (y : ExpectationDecl) (cause : MockError)
    (hpre : (xs.take n).mapM ExpectationDecl.build = .ok es) (hy : xs[n]? = some y)
    (hcause : y.build = .error cause) :
    d.applyFrom xs i c = (some (d.refusal y (i + n) cause), { c with expectations := c.expectations ++ es }) := by
  induction xs generalizing i n c es with
  | nil => simp at hy
  | cons z zs ih =>
    cases n with
    | zero =>
      simp only [List.take_zero, List.mapM_nil, pure, Except.pure, Except.ok.injEq] at hpre
      simp only [List.getElem?_cons_zero, Option.some.injEq] at hy
      subst hy hpre
      simp [applyFrom, hcause, bind, Except.bind]
    | succ n =>
      rw [List.take_succ_cons] at hpre
      obtain ⟨e, es', hz, hzs, rfl⟩ := mapM_cons_eq_ok.1 hpre
      simp only [List.getElem?_cons_succ] at hy
      simp only [applyFrom, hz, bind, Except.bind, z.add_of_build hz]
      rw [ih (i + 1) n _ es' hzs hy, Nat.add_right_comm, Nat.add_assoc i n 1]
      simp

end Document

/-- Building a declaration fails exactly when it is refused, never because a response could not
be added, and a built expectation holds the declared reply queue. Applying a document adds the
expectations it can build, in order; at the first one that does not build it stops with an error
that is an invalid fixture and of every kind of its cause, the expectations before it added. -/
theorem build_refused_iff_apply_prefix (x : ExpectationDecl) (d : Document) (c : Collection) :
    ((∃ err, x.build = .error err) ↔ x.Refused) ∧
    (∀ err, x.build = .error err → err.isKind .addFailed = false) ∧
    (∀ e, x.build = .ok e → e.replies = x.replyQueue) ∧
    (∀ es, (d.expectations.getD []).mapM ExpectationDecl.build = .ok es →
      d.apply c = (none, { c with expectations := c.expectations ++ es })) ∧
    (∀ n es y cause, ((d.expectations.getD []).take n).mapM ExpectationDecl.build = .ok es →
      (d.expectations.getD [])[n]? = some y → y.build = .error cause →
      d.apply c = (some (d.refusal y n cause), { c with expectations := c.expectations ++ es }) ∧
      ∀ k, (d.refusal y n cause).isKind k = true ↔ k = .invalidFixture ∨ cause.isKind k = true) := by
  refine ⟨x.build_error_iff, fun _ => x.build_error_not_addFailed, fun _ h => (x.build_ok h).2,
    fun es h => d.applyFrom_of_mapM _ 0 c es h, fun n es y cause hpre hy hcause => ⟨?_, d.isKind_refusal y n cause⟩⟩
  have happ := d.applyFrom_of_error _ 0 n c es y cause hpre hy hcause
  rw [Nat.zero_add] at happ
  exact happ

/-- A declaration whose only response has both an error and JSON with no JSON form. -/
def raisingUnencodable : ExpectationDecl :=
  { responses := [{ error := "boom", json := some (.error "json: unsupported type: chan int") }] }

/-- A declaration whose only response has both an error and JSON with no JSON form builds: the
response answers by raising its error, so its JSON is never encoded. -/
theorem build_ok_of_raising_unencodable :
    (∃ e, raisingUnencodable.build = .ok e) ∧ ∃ r ∈ raisingUnencodable.responses, r.Unencodable := by
  refine ⟨?_, _, List.mem_singleton_self _, _, _, _, rfl, rfl, rfl⟩
  cases h : raisingUnencodable.build with
  | ok e => exact ⟨e, rfl⟩
  | error err =>
    have hrefused := (ExpectationDecl.build_error_iff _).1 ⟨err, h⟩
    simp [raisingUnencodable, ExpectationDecl.Refused, ExpectationDecl.Conflicting,
      RequestDecl.bodyMatcher] at hrefused

end Fixture

end HttpMock
