import HttpMock.Proofs.Handling
import HttpMock.Proofs.Resolution
/-! Runs against a collection: each step moves one expectation's queue by at most one operation. -/
namespace HttpMock

/-- What a step does to the replies of one expectation. -/
inductive ReplyEvent where
  /-- An entry was added to the sequence. -/
  | added (x : Reply)
  /-- The entry answering every call was set. -/
  | addedAlways (x : Reply)
  /-- The replies were reset. -/
  | cleared
  /-- A call got through to the expectation's reply and its queue handed out an entry. -/
  | served (x : Reply)

/-- A change a test makes to the replies of an expectation. -/
inductive ReplyOp where
  | respond (b : Option Response.Builder) (always : Bool)
  | raise (message : Bytes) (always : Bool) (wraps : Option MockError)
  | reset

namespace ReplyOp

/-- The expectation after the change. -/
def apply : ReplyOp → Expectation → Expectation
  | .respond b always, e => e.willRespond b always
  | .raise m always w, e => e.willThrow m always w
  | .reset, e => e.resetReplies

/-- The entry a change adds, and whether it answers every call. -/
def entry : ReplyOp → Option (Reply × Bool)
  | .respond b always => b.map fun b => (.respond b, always)
  | .raise m always w => some (.raise m w, always)
  | .reset => none

/-- The event of a change on an expectation: a reset, or the entry it adds when it records no
configuration error. -/
def event (op : ReplyOp) (e : Expectation) : Option ReplyEvent :=
  match op with
  | .reset => some .cleared
  | _ => op.entry.bind fun (x, always) =>
    if (op.apply e).problems.length = e.problems.length then
      some (if always then .addedAlways x else .added x)
    else none

end ReplyOp

namespace Collection

/-- Applies a change of replies to the expectation at a position. -/
def configure (c : Collection) (i : Nat) (op : ReplyOp) : Collection :=
  { c with expectations := c.expectations.modify i op.apply }

/-- The position and the entry that answering a request hands out: the request gets through the
validity scan, the score resolver and the resolved expectation's assertions, and that
expectation's queue has an entry. -/
def servedBy (c : Collection) (r : Request) : Option (Nat × Reply) :=
  if c.expectations.all (·.invalidity.isNone) then
    match (ScoreResolver.resolve c.expectations r).1 with
    | .ok (some i) =>
      match c.expectations[i]? with
      | some e => if (e.check r).isNone then e.replies.next.toOption.map fun p => (i, p.1) else none
      | none => none
    | _ => none
  else none

/-- A step of a run: a call, given raw or normalized, or a change of an expectation's replies. -/
inductive Step where
  | perform (method url : Bytes) (o : Options)
  | handle (r : Request)
  | configure (i : Nat) (op : ReplyOp)

/-- The reply events of a call: the entry it hands out, at its position. -/
def servedEvents (c : Collection) (r : Request) : List (Nat × ReplyEvent) :=
  (c.servedBy r).toList.map fun (i, x) => (i, .served x)

namespace Step

/-- The collection after a step. -/
def apply : Step → Collection → Collection
  | .perform m u o, c => (c.perform ScoreResolver.resolve m u o).2.1
  | .handle r, c => (c.handle ScoreResolver.resolve r).2.1
  | .configure i op, c => c.configure i op

/-- The reply events of a step, each with the position of its expectation. -/
def events : Step → Collection → List (Nat × ReplyEvent)
  | .perform m u o, c =>
    match Request.normalize m u o with
    | .ok r => c.servedEvents r
    | .error _ => []
  | .handle r, c => c.servedEvents r
  | .configure i op, c =>
    match c.expectations[i]? with
    | some e => (op.event e).toList.map (i, ·)
    | none => []

end Step

/-- The collections a run of steps reaches from `c₀`, with the reply events of its steps in
order. -/
inductive Run (c₀ : Collection) : Collection → List (Nat × ReplyEvent) → Prop
  | start : Run c₀ c₀ []
  | step {c : Collection} {hist : List (Nat × ReplyEvent)} (s : Step) :
      Run c₀ c hist → Run c₀ (s.apply c) (hist ++ s.events c)

end Collection

/-- The events of a history that concern the expectation at a position, in order. -/
def eventsAt (j : Nat) (hist : List (Nat × ReplyEvent)) : List ReplyEvent :=
  hist.filterMap fun (k, ev) => if k = j then some ev else none

/-- How one step moves a queue, with the events it records for it. -/
inductive ReplyMove : Response.Queue Reply → List ReplyEvent → Response.Queue Reply → Prop
  | stay (q : Response.Queue Reply) : ReplyMove q [] q
  | added {q q' : Response.Queue Reply} {x : Reply} : q.add x = .ok q' → ReplyMove q [.added x] q'
  | addedAlways {q q' : Response.Queue Reply} {x : Reply} :
      q.addAlways x = .ok q' → ReplyMove q [.addedAlways x] q'
  | cleared (q : Response.Queue Reply) : ReplyMove q [.cleared] {}
  | served {q q' : Response.Queue Reply} {x : Reply} :
      q.next = .ok (x, q') → ReplyMove q [.served x] q'

/-- One hand-out attempt moves a queue by the entry it hands out, if any. -/
theorem ReplyMove.afterNext (q : Response.Queue Reply) :
    ReplyMove q (q.next.toOption.toList.map fun p => .served p.1) q.afterNext := by
  cases hn : q.next with
  | error x => simpa [Response.Queue.afterNext, hn, Except.toOption] using ReplyMove.stay q
  | ok p => simpa [Response.Queue.afterNext, hn, Except.toOption] using ReplyMove.served hn

/-! ### A change of replies moves the queue once -/

namespace Expectation

variable {e : Expectation}

@[simp] theorem fail_replies (e : Expectation) (x : MockError) : (e.fail x).replies = e.replies := rfl

@[simp] theorem fail_problems_length (e : Expectation) (x : MockError) :
    (e.fail x).problems.length = e.problems.length + 1 := by
  simp [fail]

/-- Adding a reply either adds it to the queue and records no error, or records an error and
leaves the queue as it was. -/
theorem addReply_cases (e : Expectation) (x : Reply) (always : Bool) :
    (e.addReply x always).problems.length = e.problems.length ∧
      (if always then e.replies.addAlways x else e.replies.add x) = .ok (e.addReply x always).replies ∨
    (e.addReply x always).problems.length = e.problems.length + 1 ∧
      (e.addReply x always).replies = e.replies := by
  unfold addReply
  split
  · rename_i q hq
    exact .inl ⟨rfl, hq⟩
  · exact .inr ⟨fail_problems_length _ _, rfl⟩

end Expectation

namespace ReplyOp

variable {e : Expectation}

theorem moves_of_addReply {op : ReplyOp} {x : Reply} {always : Bool} (hop : op ≠ .reset)
    (hentry : op.entry = some (x, always)) (happly : op.apply e = e.addReply x always) :
    ReplyMove e.replies (op.event e).toList (op.apply e).replies := by
  have hevent : op.event e = if (op.apply e).problems.length = e.problems.length then
      some (if always then .addedAlways x else .added x) else none := by
    cases op with
    | reset => exact (hop rfl).elim
    | respond b a => simp [event, hentry]
    | raise m a w => simp [event, hentry]
  rw [hevent, happly]
  rcases e.addReply_cases x always with ⟨hp, hq⟩ | ⟨hp, hq⟩
  · cases always with
    | true => simpa [hp] using ReplyMove.addedAlways hq
    | false => simpa [hp] using ReplyMove.added hq
  · simpa [hp, hq] using ReplyMove.stay e.replies

theorem moves (op : ReplyOp) (e : Expectation) :
    ReplyMove e.replies (op.event e).toList (op.apply e).replies := by
  cases op with
  | reset => exact .cleared e.replies
  | raise m always w => exact moves_of_addReply (by simp) rfl rfl
  | respond b always =>
    cases b with
    | none => simpa [event, entry, apply, Expectation.willRespond] using ReplyMove.stay e.replies
    | some b =>
      cases hf : b.failure? with
      | some y =>
        simpa [event, entry, apply, Expectation.willRespond, hf] using ReplyMove.stay e.replies
      | none => exact moves_of_addReply (by simp) rfl (by simp [apply, Expectation.willRespond, hf])

end ReplyOp

/-! ### A call moves the queue that hands out its entry -/

namespace Collection

variable {c : Collection} {r : Request} {i j : Nat} {e : Expectation}

theorem all_valid_of_admits {resolver : Resolver} (h : c.Admits resolver r i e) :
    c.expectations.all (·.invalidity.isNone) = true := by
  simpa [List.all_eq_true] using h.valid

theorem servedBy_of_admits (h : c.Admits ScoreResolver.resolve r i e) :
    c.servedBy r = e.replies.next.toOption.map fun p => (i, p.1) := by
  simp [servedBy, all_valid_of_admits h, h.resolved, h.found, h.accepted]

theorem servedBy_of_not_admits (h : ∀ i e, ¬c.Admits ScoreResolver.resolve r i e) :
    c.servedBy r = none := by
  unfold servedBy
  split
  · rename_i hall
    have hvalid : ∀ e ∈ c.expectations, e.invalidity = none := by
      simpa [List.all_eq_true] using hall
    split
    · rename_i i hres
      split
      · rename_i e hf
        split
        · rename_i hc
          exact (h i e ⟨hvalid, hres, hf, by simpa using hc⟩).elim
        · rfl
      · rfl
    · rfl
  · rfl

/-- The events a call records: its one hand-out attempt for the expectation it resolves, nothing
for any other position. -/
theorem eventsAt_servedEvents_of_admits (h : c.Admits ScoreResolver.resolve r i e) (j : Nat) :
    eventsAt j (c.servedEvents r) =
      if i = j then e.replies.next.toOption.toList.map (fun p => .served p.1) else [] := by
  rw [servedEvents, servedBy_of_admits h]
  by_cases hij : i = j <;> cases e.replies.next <;> simp [eventsAt, Except.toOption, hij]

theorem eventsAt_servedEvents_of_not_admits (h : ∀ i e, ¬c.Admits ScoreResolver.resolve r i e)
    (j : Nat) : eventsAt j (c.servedEvents r) = [] := by
  simp [servedEvents, servedBy_of_not_admits h, eventsAt]

/-- Answering a request moves the queue of the expectation that hands out an entry by that
hand-out, and leaves every other expectation's queue alone. -/
theorem handle_moves (c : Collection) (r : Request) (hj : c.expectations[j]? = some e) :
    ∃ e', (c.handle ScoreResolver.resolve r).2.1.expectations[j]? = some e' ∧
      ReplyMove e.replies (eventsAt j (c.servedEvents r)) e'.replies := by
  by_cases ha : ∃ i e, c.Admits ScoreResolver.resolve r i e
  · obtain ⟨i, ei, ha⟩ := ha
    have hexp := (handle_of_admits ha).2
    rw [Expectation.respond_snd] at hexp
    rw [eventsAt_servedEvents_of_admits ha]
    by_cases hij : i = j
    · subst hij
      have hei : e = ei := Option.some.inj (hj.symm.trans ha.found)
      subst hei
      have hlt : i < c.expectations.length := (List.getElem?_eq_some_iff.1 ha.found).1
      refine ⟨_, by rw [hexp, List.getElem?_set_self hlt], ?_⟩
      simpa using ReplyMove.afterNext e.replies
    · refine ⟨e, by rw [hexp, List.getElem?_set_ne hij, hj], ?_⟩
      simpa [hij] using ReplyMove.stay e.replies
  · have ha' : ∀ i e, ¬c.Admits ScoreResolver.resolve r i e := fun i e h => ha ⟨i, e, h⟩
    refine ⟨e, by rw [(handle_of_not_admits ha').1, hj], ?_⟩
    rw [eventsAt_servedEvents_of_not_admits ha']
    exact .stay e.replies

theorem length_handle (c : Collection) (r : Request) :
    (c.handle ScoreResolver.resolve r).2.1.expectations.length = c.expectations.length := by
  by_cases ha : ∃ i e, c.Admits ScoreResolver.resolve r i e
  · obtain ⟨i, e, ha⟩ := ha
    simp [(handle_of_admits ha).2]
  · rw [(handle_of_not_admits fun i e h => ha ⟨i, e, h⟩).1]

theorem eventsAt_servedEvents_of_none (hj : c.expectations[j]? = none) :
    eventsAt j (c.servedEvents r) = [] := by
  by_cases ha : ∃ i e, c.Admits ScoreResolver.resolve r i e
  · obtain ⟨i, e, ha⟩ := ha
    have hij : i ≠ j := by
      rintro rfl
      simpa [hj] using ha.found
    simp [eventsAt_servedEvents_of_admits ha, hij]
  · exact eventsAt_servedEvents_of_not_admits (fun i e h => ha ⟨i, e, h⟩) j

namespace Step

theorem length_apply (s : Step) (c : Collection) :
    (s.apply c).expectations.length = c.expectations.length := by
  cases s with
  | handle r => exact length_handle c r
  | perform m u o =>
    simp only [apply, Collection.perform]
    cases Request.normalize m u o with
    | error x => simp
    | ok r => exact length_handle c r
  | configure i op => simp [apply, Collection.configure]

/-- One step moves the queue of each expectation by at most one operation, the one its events
record. -/
theorem moves (s : Step) (c : Collection) (hj : c.expectations[j]? = some e) :
    ∃ e', (s.apply c).expectations[j]? = some e' ∧
      ReplyMove e.replies (eventsAt j (s.events c)) e'.replies := by
  cases s with
  | handle r => exact handle_moves c r hj
  | perform m u o =>
    simp only [apply, events, Collection.perform]
    cases Request.normalize m u o with
    | error x => exact ⟨e, by simpa using hj, by simpa [eventsAt] using ReplyMove.stay e.replies⟩
    | ok r => exact handle_moves c r hj
  | configure i op =>
    by_cases hij : i = j
    · subst hij
      refine ⟨op.apply e, by simp [apply, Collection.configure, hj], ?_⟩
      have hev : eventsAt i ((Step.configure i op).events c) = (op.event e).toList := by
        simp only [events, hj]
        cases op.event e <;> simp [eventsAt]
      rw [hev]
      exact op.moves e
    · refine ⟨e, by simp [apply, Collection.configure, List.getElem?_modify_ne _ _ hij, hj], ?_⟩
      have hnone : eventsAt j ((Step.configure i op).events c) = [] := by
        simp only [events]
        cases c.expectations[i]? with
        | none => rfl
        | some ei => cases op.event ei <;> simp [eventsAt, hij]
      rw [hnone]
      exact .stay e.replies

/-- A step records nothing for a position outside the collection, which stays outside. -/
theorem events_of_none (s : Step) (c : Collection) (hj : c.expectations[j]? = none) :
    (s.apply c).expectations[j]? = none ∧ eventsAt j (s.events c) = [] := by
  refine ⟨by simpa [List.getElem?_eq_none_iff, s.length_apply c] using hj, ?_⟩
  cases s with
  | handle r => exact eventsAt_servedEvents_of_none hj
  | perform m u o =>
    simp only [events]
    cases Request.normalize m u o with
    | error x => rfl
    | ok r => exact eventsAt_servedEvents_of_none hj
  | configure i op =>
    simp only [events]
    cases hi : c.expectations[i]? with
    | none => rfl
    | some ei =>
      have hij : i ≠ j := by
        rintro rfl
        simp [hj] at hi
      cases op.event ei <;> simp [eventsAt, hij]

end Step

end Collection

end HttpMock
