import HttpMock.Proofs.Queue
import HttpMock.Collection
/-! Answering one request is atomic: it stops with nothing changed, or records one call. -/
namespace HttpMock

namespace Response.Queue

variable {α : Type}

/-- The queue after one hand-out attempt: advanced when `next` hands out an entry, else as it
was. -/
def afterNext (q : Queue α) : Queue α :=
  match q.next with
  | .ok (_, q') => q'
  | .error _ => q

theorem afterNext_of_next_ok {q q' : Queue α} {x : α} (h : q.next = .ok (x, q')) : q.afterNext = q' := by
  simp [afterNext, h]

end Response.Queue

namespace Expectation

variable {e : Expectation} {r : Request}

@[simp] theorem record_calls (e : Expectation) (seq : Nat) (r : Request) :
    (e.record seq r).calls = e.calls ++ [{ seq, request := r }] := rfl

@[simp] theorem record_replies (e : Expectation) (seq : Nat) (r : Request) :
    (e.record seq r).replies = e.replies := rfl

theorem nextReply_of_next_ok {x : Reply} {q : Response.Queue Reply} (h : e.replies.next = .ok (x, q)) :
    e.nextReply = .ok (x, { e with replies := q }) := by
  simp [nextReply, h, pure, Except.pure]

theorem nextReply_of_next_error {q : Response.QueueError} (h : e.replies.next = .error q) :
    e.nextReply = .error (.noResponse (.queue q) e.render) := by
  simp [nextReply, h, throw, throwThe, MonadExceptOf.throw]

/-- Answering changes nothing of an expectation but one hand-out attempt on its queue. -/
theorem respond_snd (e : Expectation) (r : Request) :
    (e.respond r).2 = { e with replies := e.replies.afterNext } := by
  cases hn : e.replies.next with
  | error q => simp [respond, nextReply_of_next_error hn, Response.Queue.afterNext, hn]
  | ok p =>
    obtain ⟨x, q⟩ := p
    rw [Response.Queue.afterNext_of_next_ok hn]
    cases x with
    | raise m w => simp [respond, nextReply_of_next_ok hn]
    | respond b =>
      simp only [respond, nextReply_of_next_ok hn]
      split <;> rfl

end Expectation

namespace Collection

variable {c : Collection} {resolver : Resolver} {r : Request} {i : Nat} {e : Expectation}

@[simp] theorem fail_expectations (c : Collection) (x : MockError) :
    (c.fail x).expectations = c.expectations := by
  unfold fail
  split <;> rfl

@[simp] theorem update_expectations (c : Collection) (i : Nat) (e : Expectation) :
    (c.update i e).expectations = c.expectations.set i e := rfl

/-- A request gets through every stage before its reply: no expectation is invalid, the resolver
names position `i`, which holds `e`, and `e`'s assertions accept the request. -/
structure Admits (c : Collection) (resolver : Resolver) (r : Request) (i : Nat) (e : Expectation) :
    Prop where
  valid : ∀ e' ∈ c.expectations, e'.invalidity = none
  resolved : (resolver c.expectations r).1 = .ok (some i)
  found : c.expectations[i]? = some e
  accepted : e.check r = none

/-- The errors with which a request stops before its reply. -/
inductive Refused (c : Collection) (resolver : Resolver) (r : Request) : MockError → Prop
  /-- The first invalid expectation in registration order, with its configuration error. -/
  | invalid {pre post : List Expectation} {e : Expectation} {x : MockError} :
      c.expectations = pre ++ e :: post → (∀ e' ∈ pre, e'.invalidity = none) →
      e.invalidity = some x → Refused c resolver r (.forExpectation x e.render)
  /-- The resolver's own error. -/
  | resolver {x : MockError} : (∀ e ∈ c.expectations, e.invalidity = none) →
      (resolver c.expectations r).1 = .error x → Refused c resolver r x
  /-- The resolver named no expectation of the collection. -/
  | unresolved : (∀ e ∈ c.expectations, e.invalidity = none) →
      ((resolver c.expectations r).1 = .ok none ∨
        ∃ i, (resolver c.expectations r).1 = .ok (some i) ∧ c.expectations[i]? = none) →
      Refused c resolver r (.unresolved r.render)
  /-- The objection of the first assertion of the resolved expectation that objects, as the
  assertion gave it; the assertions after it do not count. -/
  | objection {i : Nat} {e : Expectation} {pre post : List Assertion} {a : Assertion} {m : Bytes}
      {w : Option MockError} :
      (∀ e ∈ c.expectations, e.invalidity = none) →
      (resolver c.expectations r).1 = .ok (some i) → c.expectations[i]? = some e →
      e.assertions = pre ++ a :: post → (∀ b ∈ pre, b r = none) → a r = some (m, w) →
      Refused c resolver r (.raised m w)

theorem findSome?_invalidity_eq_none (h : ∀ e ∈ c.expectations, e.invalidity = none) :
    c.expectations.findSome? (fun e => e.invalidity.map fun x => MockError.forExpectation x e.render) =
      none :=
  List.findSome?_eq_none_iff.2 fun e he => by simp [h e he]

/-- On a request that gets through, `handle` answers what the resolved expectation answers after
recording the call, and puts that expectation back in its place. -/
theorem handle_of_admits (h : c.Admits resolver r i e) :
    (c.handle resolver r).1 = ((e.record (c.clock + 1) r).respond r).1 ∧
      (c.handle resolver r).2.1.expectations =
        c.expectations.set i ((e.record (c.clock + 1) r).respond r).2 := by
  have hres := h.resolved
  generalize hp : resolver c.expectations r = p at hres
  obtain ⟨choice, log⟩ := p
  subst hres
  unfold handle
  rw [findSome?_invalidity_eq_none h.valid, hp]
  simp only [h.found, h.accepted]
  generalize (e.record (c.clock + 1) r).respond r = p
  obtain ⟨answer, e'⟩ := p
  cases answer with
  | ok resp => simp
  | error x =>
    dsimp only
    split <;> simp

/-- A request that does not get through stops with a refusal and changes no expectation. -/
theorem handle_of_not_admits (h : ∀ i e, ¬c.Admits resolver r i e) :
    (c.handle resolver r).2.1.expectations = c.expectations ∧
      ∃ x, (c.handle resolver r).1 = .error x ∧ c.Refused resolver r x := by
  unfold handle
  cases hv : c.expectations.findSome? (fun e => e.invalidity.map fun x => MockError.forExpectation x e.render) with
  | some x =>
    obtain ⟨pre, e, post, hsplit, he, hpre⟩ := List.findSome?_eq_some_iff.1 hv
    obtain ⟨y, hy, rfl⟩ := Option.map_eq_some_iff.1 he
    exact ⟨by simp, _, rfl, .invalid hsplit (fun e' he' => by simpa using hpre e' he') hy⟩
  | none =>
    have hvalid : ∀ e ∈ c.expectations, e.invalidity = none := fun e he => by
      simpa using List.findSome?_eq_none_iff.1 hv e he
    generalize hp : resolver c.expectations r = p
    obtain ⟨choice, log⟩ := p
    have hres : (resolver c.expectations r).1 = choice := by rw [hp]
    cases choice with
    | error x => exact ⟨by simp, x, rfl, .resolver hvalid hres⟩
    | ok oi =>
      cases oi with
      | none => exact ⟨by simp, _, rfl, .unresolved hvalid (.inl hres)⟩
      | some i =>
        cases hf : c.expectations[i]? with
        | none =>
          simp only [hf]
          exact ⟨by simp, _, rfl, .unresolved hvalid (.inr ⟨i, hres, hf⟩)⟩
        | some e =>
          simp only [hf]
          cases hc : e.check r with
          | none => exact (h i e ⟨hvalid, hres, hf, hc⟩).elim
          | some objection =>
            obtain ⟨m, w⟩ := objection
            obtain ⟨pre, a, post, hsplit, ha, hpre⟩ := List.findSome?_eq_some_iff.1 hc
            exact ⟨rfl, _, rfl, .objection hvalid hres hf hsplit hpre ha⟩

/-- Answering a request is atomic. If the request gets through the validity scan, the resolver
and the resolved expectation's assertions, exactly one call carrying it is recorded, on that
expectation only, and its queue makes exactly one hand-out attempt, whatever the reply does;
otherwise the answer is the error of the stage that stopped it, an objecting assertion's own
objection among them, and no expectation changes. -/
theorem handle_atomic (c : Collection) (resolver : Resolver) (r : Request) :
    (∀ i e, c.Admits resolver r i e →
      (c.handle resolver r).2.1.expectations =
        c.expectations.set i
          { e with calls := e.calls ++ [{ seq := c.clock + 1, request := r }],
                   replies := e.replies.afterNext }) ∧
    ((∀ i e, ¬c.Admits resolver r i e) →
      (c.handle resolver r).2.1.expectations = c.expectations ∧
        ∃ x, (c.handle resolver r).1 = .error x ∧ c.Refused resolver r x) := by
  refine ⟨fun i e h => ?_, handle_of_not_admits⟩
  rw [(handle_of_admits h).2, Expectation.respond_snd]
  rfl

end Collection

end HttpMock
