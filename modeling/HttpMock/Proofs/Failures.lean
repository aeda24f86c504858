import HttpMock.Proofs.Handling
/-! The failures a collection keeps: a call keeps the error it answers with when, by what it is and
what it wraps, the engine caused it. -/
namespace HttpMock

namespace MockError

/-- An error a test supplied is the engine's exactly when the error it wraps is. -/
@[simp] theorem raised_isEngine (m : Bytes) (w : Option MockError) :
    (MockError.raised m w).isEngine = w.any isEngine := by
  cases w <;> simp [isEngine, isKind, rawKinds, isNoResponse]

/-- The errors the engine itself produces while answering a call: a request that cannot be
normalized, an empty collection, a request that no expectation accepts, an invalid expectation
with its configuration error, a resolver that names no expectation, and an expectation with no
response to give. -/
inductive FromEngine : MockError → Prop
  | request (x : RequestError) : FromEngine (.request x)
  | noExpectations (request : Bytes) : FromEngine (.noExpectations request)
  | noMatch (request : Bytes) (results : List Match.Result) : FromEngine (.noMatch request results)
  | invalid (x : MockError) (expectation : Bytes) : FromEngine (.forExpectation x.asInvalid expectation)
  | unresolved (request : Bytes) : FromEngine (.unresolved request)
  | noResponse (cause : MockError) (expectation : Bytes) : FromEngine (.noResponse cause expectation)

theorem isKind_asInvalid (x : MockError) : x.asInvalid.isKind .invalidExpectation = true := by
  unfold asInvalid
  split
  · assumption
  · simp [isKind, rawKinds]

/-- Every error the engine produces is classified as the engine's. -/
theorem FromEngine.isEngine {x : MockError} (h : x.FromEngine) : x.isEngine = true := by
  cases h with
  | request x => cases x <;> rfl
  | noExpectations => rfl
  | noMatch => rfl
  | invalid x expectation =>
    have hkind : (MockError.forExpectation x.asInvalid expectation).isKind .invalidExpectation := by
      simpa [isKind, rawKinds] using isKind_asInvalid x
    simp [MockError.isEngine, hkind]
  | unresolved => rfl
  | noResponse => simp [MockError.isEngine, isNoResponse]

end MockError

namespace Collection

variable {α : Type}

/-- The failures an answer keeps: its error, when the engine caused it. -/
def keptBy : Except MockError α → List MockError
  | .error x => if x.isEngine then [x] else []
  | .ok _ => []

@[simp] theorem fail_failures (c : Collection) (x : MockError) :
    (c.fail x).failures = c.failures ++ keptBy (.error x : Except MockError α) := by
  by_cases hx : x.isEngine <;> simp [fail, keptBy, hx]

/-- A supplied error is kept exactly when the error it wraps is the engine's. -/
theorem keptBy_raised (m : Bytes) (w : Option MockError) :
    keptBy (.error (.raised m w) : Except MockError α) =
      if w.any MockError.isEngine then [.raised m w] else [] := by
  simp [keptBy]

@[simp] theorem update_failures (c : Collection) (i : Nat) (e : Expectation) :
    (c.update i e).failures = c.failures := rfl

/-- The call stops at an objecting assertion of the expectation the resolver names, with the
objection `m` wrapping `w`. -/
def Objects (c : Collection) (resolver : Resolver) (r : Request) (m : Bytes) (w : Option MockError) :
    Prop :=
  ∃ i e, (∀ e' ∈ c.expectations, e'.invalidity = none) ∧
    (resolver c.expectations r).1 = .ok (some i) ∧ c.expectations[i]? = some e ∧ e.check r = some (m, w)

/-- An objecting assertion's objection is the answer, as it was given, and the collection does not
change: in particular it keeps no failure. -/
theorem handle_of_objects {c : Collection} {resolver : Resolver} {r : Request} {m : Bytes}
    {w : Option MockError} (h : c.Objects resolver r m w) :
    (c.handle resolver r).1 = .error (.raised m w) ∧ (c.handle resolver r).2.1 = c := by
  obtain ⟨i, e, hvalid, hres, hfound, hcheck⟩ := h
  generalize hp : resolver c.expectations r = p at hres
  obtain ⟨choice, log⟩ := p
  subst hres
  unfold handle
  rw [findSome?_invalidity_eq_none hvalid, hp]
  simp [hfound, hcheck]

/-- A call that gets through its assertions is not stopped by one. -/
theorem Admits.not_objects {c : Collection} {resolver : Resolver} {r : Request} {i : Nat}
    {e : Expectation} (h : c.Admits resolver r i e) (m : Bytes) (w : Option MockError) :
    ¬c.Objects resolver r m w := by
  rintro ⟨i', e', -, hres, hfound, hcheck⟩
  rw [h.resolved] at hres
  cases hres
  rw [h.found] at hfound
  cases hfound
  rw [h.accepted] at hcheck
  cases hcheck

/-- A call keeps as a failure exactly the error it answers with, when the engine caused it, unless
it stopped at an objecting assertion. -/
theorem failures_handle (c : Collection) (resolver : Resolver) (r : Request) :
    (c.handle resolver r).2.1.failures = c.failures ++ keptBy (c.handle resolver r).1 ∨
      ∃ m w, c.Objects resolver r m w := by
  unfold handle
  split
  · exact .inl (fail_failures c _)
  · rename_i hv
    have hvalid : ∀ e ∈ c.expectations, e.invalidity = none := fun e he => by
      simpa using List.findSome?_eq_none_iff.1 hv e he
    generalize hp : resolver c.expectations r = p
    obtain ⟨choice, log⟩ := p
    have hres : (resolver c.expectations r).1 = choice := by rw [hp]
    cases choice with
    | error x => exact .inl (fail_failures c x)
    | ok oi =>
      cases oi with
      | none => exact .inl (fail_failures c _)
      | some i =>
        dsimp only
        cases hf : c.expectations[i]? with
        | none => exact .inl (fail_failures c _)
        | some e =>
          dsimp only
          cases hc : e.check r with
          | some objection => exact .inr ⟨objection.1, objection.2, i, e, hvalid, hres, hf, hc⟩
          | none =>
            left
            dsimp only
            obtain ⟨answer, e'⟩ := (e.record (c.clock + 1) r).respond r
            cases answer with
            | ok resp => simp [keptBy]
            | error x => by_cases hx : x.isEngine <;> simp [hx, keptBy, fail]

/-- A reply that raises answers a call that gets through with the error it was given, and the
collection keeps it exactly when the error it wraps is the engine's. -/
theorem handle_of_raise {c : Collection} {resolver : Resolver} {r : Request} {i : Nat}
    {e : Expectation} {m : Bytes} {w : Option MockError} {q : Response.Queue Reply}
    (h : c.Admits resolver r i e) (hn : e.replies.next = .ok (.raise m w, q)) :
    (c.handle resolver r).1 = .error (.raised m w) ∧
      (c.handle resolver r).2.1.failures =
        c.failures ++ if w.any MockError.isEngine then [.raised m w] else [] := by
  have hnext : (e.record (c.clock + 1) r).replies.next = .ok (.raise m w, q) := by
    rwa [Expectation.record_replies]
  have hanswer : (c.handle resolver r).1 = .error (.raised m w) := by
    rw [(handle_of_admits h).1]
    simp [Expectation.respond, Expectation.nextReply_of_next_ok hnext]
  refine ⟨hanswer, ?_⟩
  rcases failures_handle c resolver r with hkept | ⟨m', w', hobj⟩
  · rw [hkept, hanswer, keptBy_raised]
  · exact absurd hobj (h.not_objects m' w')

/-- A call keeps as a failure exactly the error it answers with, and only when the engine caused
that error, whichever stage produced it, unless it stopped at an objecting assertion. -/
theorem failures_perform (c : Collection) (resolver : Resolver) (method url : Bytes) (o : Options) :
    (c.perform resolver method url o).2.1.failures =
        c.failures ++ keptBy (c.perform resolver method url o).1 ∨
      ∃ r m w, Request.normalize method url o = .ok r ∧ c.Objects resolver r m w := by
  unfold perform
  cases hn : Request.normalize method url o with
  | error x => exact .inl (fail_failures c _)
  | ok r =>
    rcases failures_handle c resolver r with h | ⟨m, w, hobj⟩
    · exact .inl h
    · exact .inr ⟨r, m, w, rfl, hobj⟩

theorem perform_of_normalize {c : Collection} {resolver : Resolver} {method url : Bytes}
    {o : Options} {r : Request} (h : Request.normalize method url o = .ok r) :
    c.perform resolver method url o = c.handle resolver r := by
  simp [perform, h]

/-- The failures a call keeps. A call keeps at most the error it answers with, once, when the
engine caused it. Every error the engine produces is kept. An objecting assertion's objection is
answered as it was given and never kept. An entry that raises is answered with exactly its own
error, which is kept exactly when the error it wraps is the engine's. -/
theorem perform_keeps_engine_errors (c : Collection) (resolver : Resolver) (method url : Bytes)
    (o : Options) :
    ((c.perform resolver method url o).2.1.failures =
        c.failures ++ keptBy (c.perform resolver method url o).1 ∨
      ∃ r m w, Request.normalize method url o = .ok r ∧ c.Objects resolver r m w) ∧
      (∀ x, (c.perform resolver method url o).1 = .error x → x.FromEngine →
        (c.perform resolver method url o).2.1.failures = c.failures ++ [x]) ∧
      (∀ r m w, Request.normalize method url o = .ok r → c.Objects resolver r m w →
        (c.perform resolver method url o).1 = .error (.raised m w) ∧
          (c.perform resolver method url o).2.1.failures = c.failures) ∧
      (∀ r i e m w q, Request.normalize method url o = .ok r → c.Admits resolver r i e →
        e.replies.next = .ok (.raise m w, q) →
        (c.perform resolver method url o).1 = .error (.raised m w) ∧
          (c.perform resolver method url o).2.1.failures =
            c.failures ++ if w.any MockError.isEngine then [.raised m w] else []) := by
  have hlaw := failures_perform c resolver method url o
  refine ⟨hlaw, fun x hx hx' => ?_, fun r m w hr hobj => ?_, fun r i e m w q hr h hn => ?_⟩
  · rcases hlaw with hkept | ⟨r, m, w, hr, hobj⟩
    · rw [hkept, hx]
      simp [keptBy, hx'.isEngine]
    · rw [perform_of_normalize hr, (handle_of_objects hobj).1] at hx
      cases Except.error.inj hx
      cases hx'
  · rw [perform_of_normalize hr]
    exact ⟨(handle_of_objects hobj).1, by rw [(handle_of_objects hobj).2]⟩
  · rw [perform_of_normalize hr]
    exact handle_of_raise h hn

/-- The collection of one expectation that always raises `boom`, wrapping `w`, chosen for every
request. -/
def raisingCollection (w : Option MockError) : Collection :=
  { expectations := [{ replies := { mode := .always, always := some (.raise "boom".toBytes w) } }] }

/-- A resolver that always names the first expectation. -/
def firstResolver : Resolver := fun _ _ => (.ok (some 0), [])

theorem admits_raisingCollection (w : Option MockError) {r : Request} :
    (raisingCollection w).Admits firstResolver r 0
      { replies := { mode := .always, always := some (.raise "boom".toBytes w) } } :=
  ⟨by simp [raisingCollection, Expectation.invalidity, Expectation.err], rfl, rfl, rfl⟩

/-- An expectation that always raises a plain error answers with it, and the collection keeps
nothing. -/
theorem perform_keeps_engine_errors_always_raise :
    (perform (raisingCollection none) firstResolver "GET".toBytes "/x".toBytes {}).1 =
        .error (.raised "boom".toBytes none) ∧
      (perform (raisingCollection none) firstResolver "GET".toBytes "/x".toBytes {}).2.1.failures =
        [] := by
  obtain ⟨r, hr⟩ : ∃ r, Request.normalize "GET".toBytes "/x".toBytes {} = .ok r := ⟨_, rfl⟩
  obtain ⟨-, -, -, hraise⟩ := perform_keeps_engine_errors (raisingCollection none) firstResolver
    "GET".toBytes "/x".toBytes {}
  obtain ⟨hanswer, hkept⟩ := hraise r 0 _ "boom".toBytes none _ hr (admits_raisingCollection none) rfl
  exact ⟨hanswer, by rw [hkept]; rfl⟩

/-- An error a test supplies that wraps a no-match error is kept as a failure: the expectation
raises it, the call answers with it, and the collection keeps it, because by what it wraps it is
the engine's. -/
theorem perform_keeps_raised_wrapping_no_match :
    (perform (raisingCollection (some (.noMatch [] []))) firstResolver "GET".toBytes "/x".toBytes
        {}).1 = .error (.raised "boom".toBytes (some (.noMatch [] []))) ∧
      (perform (raisingCollection (some (.noMatch [] []))) firstResolver "GET".toBytes "/x".toBytes
        {}).2.1.failures = [.raised "boom".toBytes (some (.noMatch [] []))] := by
  obtain ⟨r, hr⟩ : ∃ r, Request.normalize "GET".toBytes "/x".toBytes {} = .ok r := ⟨_, rfl⟩
  have hraise := handle_of_raise (admits_raisingCollection (some (.noMatch [] []))) (r := r) rfl
  rw [perform_of_normalize hr]
  exact ⟨hraise.1, by rw [hraise.2]; rfl⟩

end Collection

end HttpMock
