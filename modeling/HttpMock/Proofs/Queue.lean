import HttpMock.Response.Queue
/-! Response queues refine their abstract state. -/
namespace HttpMock.Response

namespace Queue.State

variable {α : Type}

/-- Appends to the entries still to come; an always-state refuses, an empty one starts a
sequence. -/
def add : State α → α → Except QueueError (State α)
  | .empty, e => pure (.seq [] [e])
  | .always _, _ => throw .alwaysAlreadyAdded
  | .seq done pending, e => pure (.seq done (pending ++ [e]))

/-- Makes an empty state answer always with one entry; any other state refuses. -/
def addAlways : State α → α → Except QueueError (State α)
  | .empty, e => pure (.always e)
  | .always _, _ => throw .alwaysAlreadyAdded
  | .seq _ _, _ => throw .responseAlreadyAdded

/-- Hands out the always-entry, or moves the first pending entry to the done ones. -/
def next : State α → Except QueueError (α × State α)
  | .empty => throw .noResponseAdded
  | .always e => pure (e, .always e)
  | .seq _ [] => throw .allResponsesProcessed
  | .seq done (e :: pending) => pure (e, .seq (done ++ [e]) pending)

/-- Whether `next` hands out an entry. -/
def hasNext : State α → Bool
  | .empty => false
  | .always _ => true
  | .seq _ pending => !pending.isEmpty

/-- Whether nothing was added. -/
def isEmpty : State α → Bool
  | .empty => true
  | _ => false

/-- Entries still to come; `-1` for an always-state. -/
def remaining : State α → Int
  | .empty => 0
  | .always _ => -1
  | .seq _ pending => pending.length

theorem hasNext_iff (s : State α) : s.hasNext = true ↔ ∃ e s', s.next = .ok (e, s') := by
  cases s with
  | empty => simp [hasNext, next, throw, throwThe, MonadExceptOf.throw]
  | always e => simp [hasNext, next, pure, Except.pure]
  | seq done pending =>
    cases pending <;> simp [hasNext, next, throw, throwThe, MonadExceptOf.throw, pure, Except.pure]

end Queue.State

namespace Queue

variable {α : Type} {q q' : Queue α} {e : α}

/-- The representation invariant: the cursor stays within the sequence, an empty queue holds no
sequence and no cursor, and an always-queue holds its entry and no sequence. -/
structure Invariant (q : Queue α) : Prop where
  cursor_le : q.cursor ≤ q.entries.length
  of_empty : q.mode = .empty → q.entries = [] ∧ q.cursor = 0
  of_always : q.mode = .always → q.entries = [] ∧ q.always.isSome

/-- One operation a test or the engine applies to a queue. -/
inductive Op (α : Type) where
  | add (e : α)
  | addAlways (e : α)
  | next
  | reset

/-- The queue after an operation; a refused one leaves it as it was. -/
def apply (q : Queue α) : Op α → Queue α
  | .add e => match q.add e with
    | .ok q' => q'
    | .error _ => q
  | .addAlways e => match q.addAlways e with
    | .ok q' => q'
    | .error _ => q
  | .next => match q.next with
    | .ok (_, q') => q'
    | .error _ => q
  | .reset => q.reset

/-- The queues that some sequence of operations makes from the empty one. -/
inductive Reachable : Queue α → Prop
  | empty : Reachable {}
  | step {q : Queue α} (op : Op α) : Reachable q → Reachable (q.apply op)

/-! ### What each operation does -/

theorem add_eq_ok :
    q.add e = .ok q' ↔ q.mode ≠ .always ∧ q' = { q with mode := .sequence, entries := q.entries ++ [e] } := by
  obtain ⟨mode, always, entries, cursor⟩ := q
  cases mode <;> simp [add, throw, throwThe, MonadExceptOf.throw, pure, Except.pure, eq_comm]

theorem addAlways_eq_ok :
    q.addAlways e = .ok q' ↔ q.mode = .empty ∧ q' = { q with mode := .always, always := some e } := by
  obtain ⟨mode, always, entries, cursor⟩ := q
  cases mode <;> simp [addAlways, throw, throwThe, MonadExceptOf.throw, pure, Except.pure, eq_comm]

theorem next_eq_ok {x : α} :
    q.next = .ok (x, q') ↔
      (q.mode = .always ∧ q.always = some x ∧ q' = q) ∨
      (q.mode = .sequence ∧ q.entries[q.cursor]? = some x ∧ q' = { q with cursor := q.cursor + 1 }) := by
  obtain ⟨mode, always, entries, cursor⟩ := q
  cases mode with
  | empty => simp [next, throw, throwThe, MonadExceptOf.throw]
  | always => cases always <;> simp [next, throw, throwThe, MonadExceptOf.throw, pure, Except.pure, eq_comm]
  | sequence =>
    cases h : entries[cursor]? <;> simp [next, h, throw, throwThe, MonadExceptOf.throw, pure, Except.pure, eq_comm]

/-! ### The invariant -/

theorem invariant_empty : ({} : Queue α).Invariant :=
  ⟨Nat.le_refl _, (fun _ => ⟨rfl, rfl⟩), fun h => by cases h⟩

theorem Invariant.add (h : q.Invariant) (hq : q.add e = .ok q') : q'.Invariant := by
  obtain ⟨-, rfl⟩ := add_eq_ok.1 hq
  refine ⟨?_, (fun h => by cases h), (fun h => by cases h)⟩
  have := h.cursor_le
  simp only [List.length_append, List.length_singleton]
  omega

theorem Invariant.addAlways (h : q.Invariant) (hq : q.addAlways e = .ok q') : q'.Invariant := by
  obtain ⟨hm, rfl⟩ := addAlways_eq_ok.1 hq
  obtain ⟨he, hc⟩ := h.of_empty hm
  exact ⟨h.cursor_le, (fun h => by cases h), fun _ => ⟨he, rfl⟩⟩

theorem Invariant.next {x : α} (h : q.Invariant) (hq : q.next = .ok (x, q')) : q'.Invariant := by
  rcases next_eq_ok.1 hq with ⟨-, -, rfl⟩ | ⟨hm, hx, rfl⟩
  · exact h
  · have hlt : q.cursor < q.entries.length := (List.getElem?_eq_some_iff.1 hx).1
    exact ⟨hlt, fun h' => by simp_all, fun h' => by simp_all⟩

theorem Invariant.apply (h : q.Invariant) (op : Op α) : (q.apply op).Invariant := by
  cases op with
  | add e =>
    simp only [Queue.apply]
    split
    · exact h.add ‹_›
    · exact h
  | addAlways e =>
    simp only [Queue.apply]
    split
    · exact h.addAlways ‹_›
    · exact h
  | next =>
    simp only [Queue.apply]
    split
    · exact h.next ‹_›
    · exact h
  | reset => exact invariant_empty

theorem Reachable.invariant (h : q.Reachable) : q.Invariant := by
  induction h with
  | empty => exact invariant_empty
  | step op _ ih => exact ih.apply op

/-! ### The abstract state of each mode -/

theorem view_of_empty (hm : q.mode = .empty) : q.view = .empty := by
  simp [view, hm]

theorem view_of_always (h : q.Invariant) (hm : q.mode = .always) :
    ∃ x, q.always = some x ∧ q.view = .always x := by
  obtain ⟨x, hx⟩ := Option.isSome_iff_exists.1 (h.of_always hm).2
  exact ⟨x, hx, by simp [view, hm, hx]⟩

theorem view_of_sequence (hm : q.mode = .sequence) :
    q.view = .seq (q.entries.take q.cursor) (q.entries.drop q.cursor) := by
  simp [view, hm]

/-! ### Each operation refines its abstract counterpart -/

theorem view_add (h : q.Invariant) (e : α) : (q.add e).map view = q.view.add e := by
  cases hm : q.mode with
  | empty =>
    obtain ⟨he, hc⟩ := h.of_empty hm
    simp [add, hm, he, hc, view, State.add, Except.map, pure, Except.pure]
  | always =>
    obtain ⟨x, -, hv⟩ := view_of_always h hm
    simp [add, hm, hv, State.add, Except.map, throw, throwThe, MonadExceptOf.throw]
  | sequence =>
    simp [add, hm, view, State.add, Except.map, pure, Except.pure,
      List.take_append_of_le_length h.cursor_le, List.drop_append_of_le_length h.cursor_le]

theorem view_addAlways (h : q.Invariant) (e : α) :
    (q.addAlways e).map view = q.view.addAlways e := by
  cases hm : q.mode with
  | empty => simp [addAlways, hm, view, State.addAlways, Except.map, pure, Except.pure]
  | always =>
    obtain ⟨x, -, hv⟩ := view_of_always h hm
    simp [addAlways, hm, hv, State.addAlways, Except.map, throw, throwThe, MonadExceptOf.throw]
  | sequence =>
    simp [addAlways, hm, view_of_sequence hm, State.addAlways, Except.map, throw, throwThe,
      MonadExceptOf.throw]

theorem view_next (h : q.Invariant) : q.next.map (Prod.map id view) = q.view.next := by
  cases hm : q.mode with
  | empty => simp [next, hm, view_of_empty hm, State.next, Except.map, throw, throwThe, MonadExceptOf.throw]
  | always =>
    obtain ⟨x, hx, hv⟩ := view_of_always h hm
    simp [next, hm, hx, hv, State.next, Except.map, pure, Except.pure]
  | sequence =>
    rw [view_of_sequence hm]
    cases hx : q.entries[q.cursor]? with
    | none =>
      have hle : q.entries.length ≤ q.cursor := List.getElem?_eq_none_iff.1 hx
      simp [next, hm, hx, State.next, List.drop_of_length_le hle, Except.map, throw, throwThe,
        MonadExceptOf.throw]
    | some x =>
      obtain ⟨hlt, hget⟩ := List.getElem?_eq_some_iff.1 hx
      have hd : q.entries.drop q.cursor = x :: q.entries.drop (q.cursor + 1) := by
        rw [List.drop_eq_getElem_cons hlt, hget]
      have ht : q.entries.take (q.cursor + 1) = q.entries.take q.cursor ++ [x] := by
        rw [List.take_add_one, hx]
        rfl
      simp [next, hm, hx, hd, ht, State.next, view, Except.map, pure, Except.pure]

theorem view_reset : q.reset.view = .empty := rfl


theorem hasNext_eq_view (h : q.Invariant) : q.hasNext = q.view.hasNext := by
  cases hm : q.mode with
  | empty => simp [hasNext, hm, view_of_empty hm, State.hasNext]
  | always =>
    obtain ⟨x, -, hv⟩ := view_of_always h hm
    simp [hasNext, hm, hv, State.hasNext]
  | sequence =>
    rw [view_of_sequence hm]
    by_cases hlt : q.cursor < q.entries.length
    · simp [hasNext, hm, State.hasNext, hlt, List.drop_eq_nil_iff]
    · simp [hasNext, hm, State.hasNext, hlt, List.drop_of_length_le (Nat.le_of_not_lt hlt)]

theorem isEmpty_eq_view (h : q.Invariant) : q.isEmpty = q.view.isEmpty := by
  cases hm : q.mode with
  | empty => simp [isEmpty, hm, view_of_empty hm, State.isEmpty]
  | always =>
    obtain ⟨x, -, hv⟩ := view_of_always h hm
    simp [isEmpty, hm, hv, State.isEmpty]
  | sequence => simp [isEmpty, hm, view_of_sequence hm, State.isEmpty]

theorem remaining_eq_view (h : q.Invariant) : q.remaining = q.view.remaining := by
  cases hm : q.mode with
  | empty => simp [remaining, hm, view_of_empty hm, State.remaining]
  | always =>
    obtain ⟨x, -, hv⟩ := view_of_always h hm
    simp [remaining, hm, hv, State.remaining]
  | sequence =>
    have := h.cursor_le
    simp [remaining, hm, view_of_sequence hm, State.remaining]
    omega

/-- `hasNext` says exactly whether `next` hands out an entry. -/
theorem hasNext_iff_next_ok (h : q.Invariant) : q.hasNext = true ↔ ∃ x q', q.next = .ok (x, q') := by
  rw [hasNext_eq_view h, State.hasNext_iff, ← view_next h]
  cases q.next with
  | error x => simp [Except.map]
  | ok p => exact ⟨fun _ => ⟨p.1, p.2, rfl⟩, fun _ => ⟨p.1, view p.2, rfl⟩⟩

/-- Through `view`, every operation on a queue does what its abstract counterpart does, and the
queries read the abstract state. A refused operation returns its error and no queue. -/
structure Refines (q : Queue α) : Prop where
  add : ∀ e, (q.add e).map view = q.view.add e
  addAlways : ∀ e, (q.addAlways e).map view = q.view.addAlways e
  next : q.next.map (Prod.map id view) = q.view.next
  reset : q.reset.view = .empty
  hasNext : q.hasNext = q.view.hasNext
  isEmpty : q.isEmpty = q.view.isEmpty
  remaining : q.remaining = q.view.remaining

theorem Invariant.refines (h : q.Invariant) : q.Refines :=
  ⟨view_add h, view_addAlways h, view_next h, view_reset, hasNext_eq_view h, isEmpty_eq_view h,
    remaining_eq_view h⟩

/-- Every queue that adds, always-adds, hand-outs and resets make from the empty one keeps the
representation invariant and refines its abstract state, and its `hasNext` agrees with `next`. -/
theorem reachable_refines (h : q.Reachable) :
    q.Invariant ∧ q.Refines ∧ (q.hasNext = true ↔ ∃ x q', q.next = .ok (x, q')) :=
  ⟨h.invariant, h.invariant.refines, hasNext_iff_next_ok h.invariant⟩

theorem reachable_refines_after_add_next :
    let q : Queue Nat := (({} : Queue Nat).apply (.add 7)).apply .next
    q.Reachable ∧ q.Invariant ∧ q.Refines ∧ (q.hasNext = true ↔ ∃ x q', q.next = .ok (x, q')) :=
  have h := Reachable.step .next (Reachable.step (.add 7) Reachable.empty)
  ⟨h, reachable_refines h⟩

end Queue

end HttpMock.Response
