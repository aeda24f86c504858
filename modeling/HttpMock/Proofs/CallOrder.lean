import Mathlib.Data.List.Basic
import HttpMock.Proofs.Run
/-! The merged call stack is the log of recorded calls, in the order they were recorded. -/
namespace HttpMock

/-- The calls of a log recorded at a position, in order. -/
def callsAt (j : Nat) (log : List (Nat × Call)) : List Call :=
  log.filterMap fun p => if p.1 = j then some p.2 else none

@[simp] theorem callsAt_nil (j : Nat) : callsAt j [] = [] := rfl

@[simp] theorem callsAt_append (j : Nat) (l₁ l₂ : List (Nat × Call)) :
    callsAt j (l₁ ++ l₂) = callsAt j l₁ ++ callsAt j l₂ :=
  List.filterMap_append

@[simp] theorem callsAt_singleton (j i : Nat) (x : Call) :
    callsAt j [(i, x)] = if i = j then [x] else [] := by
  by_cases h : i = j <;> simp [callsAt, h]

theorem callsAt_eq_nil {j : Nat} {log : List (Nat × Call)} (h : ∀ p ∈ log, p.1 ≠ j) :
    callsAt j log = [] := by
  induction log with
  | nil => rfl
  | cons p log ih =>
    have hp : p.1 ≠ j := h p List.mem_cons_self
    have hrest : callsAt j log = [] := ih fun q hq => h q (List.mem_cons_of_mem p hq)
    simpa [callsAt, hp] using hrest

/-- Pairing the calls logged at a position with it gives back the log's entries there. -/
theorem map_callsAt (j : Nat) (log : List (Nat × Call)) :
    (callsAt j log).map (j, ·) = log.filter (·.1 = j) := by
  induction log with
  | nil => rfl
  | cons p log ih =>
    obtain ⟨i, x⟩ := p
    by_cases h : i = j
    · subst h
      simpa [callsAt] using ih
    · simpa [callsAt, h] using ih

/-- The entries of a log taken position by position, from `0` to `n - 1`, are the log reordered,
when every entry sits at one of those positions. -/
theorem flatMap_range_filter_perm {α : Type} (log : List (Nat × α)) (n : Nat)
    (h : ∀ p ∈ log, p.1 < n) : ((List.range n).flatMap fun j => log.filter (·.1 = j)).Perm log := by
  induction n generalizing log with
  | zero =>
    have hnil : log = [] := List.eq_nil_iff_forall_not_mem.2 fun p hp => by
      have := h p hp
      omega
    subst hnil
    simp
  | succ n ih =>
    have hbelow : ∀ p ∈ log.filter (·.1 ≠ n), p.1 < n := by
      intro p hp
      simp only [List.mem_filter, decide_eq_true_eq] at hp
      have := h p hp.1
      omega
    have hsame : ∀ j ∈ List.range n,
        (log.filter (·.1 ≠ n)).filter (·.1 = j) = log.filter (·.1 = j) := by
      intro j hj
      rw [List.filter_filter]
      apply List.filter_congr
      intro p _
      have hjn : j < n := List.mem_range.1 hj
      by_cases hpj : p.1 = j
      · simp [hpj, Nat.ne_of_lt hjn]
      · simp [hpj]
    have hlast : (log.filter (·.1 ≠ n) ++ log.filter (·.1 = n)).Perm log := by
      have hflip : log.filter (·.1 = n) = log.filter (fun p => !decide (p.1 ≠ n)) := by
        simp
      rw [hflip]
      exact List.filter_append_perm _ log
    rw [List.range_succ, List.flatMap_append, List.flatMap_singleton, ← List.flatMap_congr hsame]
    exact ((ih _ hbelow).append_right _).trans hlast

/-- In a log numbered in increasing order, a number names one entry. -/
theorem eq_of_seq_eq {log : List (Nat × Call)} (h : log.Pairwise fun a b => a.2.seq < b.2.seq)
    {a b : Nat × Call} (ha : a ∈ log) (hb : b ∈ log) (hab : a.2.seq = b.2.seq) : a = b := by
  induction log with
  | nil => cases ha
  | cons p log ih =>
    rw [List.pairwise_cons] at h
    rcases List.mem_cons.1 ha with rfl | ha' <;> rcases List.mem_cons.1 hb with rfl | hb'
    · rfl
    · have := h.1 b hb'
      omega
    · have := h.1 a ha'
      omega
    · exact ih h.2 ha' hb'

namespace Collection

variable {c c' : Collection} {resolver : Resolver} {r : Request} {i : Nat} {e : Expectation}
  {log : List (Nat × Call)}

@[simp] theorem fail_clock (c : Collection) (x : MockError) : (c.fail x).clock = c.clock := by
  unfold fail
  split <;> rfl

theorem clock_handle_of_admits (h : c.Admits resolver r i e) :
    (c.handle resolver r).2.1.clock = c.clock + 1 := by
  have hres := h.resolved
  generalize hp : resolver c.expectations r = p at hres
  obtain ⟨choice, log⟩ := p
  subst hres
  unfold handle
  rw [findSome?_invalidity_eq_none h.valid, hp]
  simp only [h.found, h.accepted]
  generalize (e.record (c.clock + 1) r).respond r = p
  obtain ⟨answer, e'⟩ := p
  cases answer with
  | ok resp => rfl
  | error x =>
    dsimp only
    split <;> simp

theorem clock_handle_of_not_admits (h : ∀ i e, ¬c.Admits resolver r i e) :
    (c.handle resolver r).2.1.clock = c.clock := by
  unfold handle
  cases hv : c.expectations.findSome? (fun e => e.invalidity.map fun x => MockError.forExpectation x e.render) with
  | some x => simp
  | none =>
    have hvalid : ∀ e ∈ c.expectations, e.invalidity = none := fun e he => by
      simpa using List.findSome?_eq_none_iff.1 hv e he
    generalize hp : resolver c.expectations r = p
    obtain ⟨choice, log⟩ := p
    have hres : (resolver c.expectations r).1 = choice := by rw [hp]
    cases choice with
    | error x => simp
    | ok oi =>
      cases oi with
      | none => simp
      | some i =>
        cases hf : c.expectations[i]? with
        | none => simp [hf]
        | some e =>
          cases hc : e.check r with
          | none => exact (h i e ⟨hvalid, hres, hf, hc⟩).elim
          | some m => simp [hf, hc]

/-- The position a request gets through to: past the validity scan, the resolver and the
assertions of the expectation it resolves. -/
def admitted (c : Collection) (resolver : Resolver) (r : Request) : Option Nat :=
  if c.expectations.all (·.invalidity.isNone) then
    match (resolver c.expectations r).1 with
    | .ok (some i) =>
      match c.expectations[i]? with
      | some e => if (e.check r).isNone then some i else none
      | none => none
    | _ => none
  else none

theorem admitted_of_admits (h : c.Admits resolver r i e) : c.admitted resolver r = some i := by
  simp [admitted, all_valid_of_admits h, h.resolved, h.found, h.accepted]

theorem admits_of_admitted (h : c.admitted resolver r = some i) : ∃ e, c.Admits resolver r i e := by
  unfold admitted at h
  split at h
  · rename_i hall
    have hvalid : ∀ e ∈ c.expectations, e.invalidity = none := by
      simpa [List.all_eq_true] using hall
    split at h
    · rename_i j hres
      split at h
      · rename_i e hf
        split at h
        · rename_i hc
          cases h
          exact ⟨e, hvalid, hres, hf, by simpa using hc⟩
        · cases h
      · cases h
    · cases h
  · cases h

/-- The call a request is recorded as, with its position, when it gets through. -/
def handledCalls (c : Collection) (resolver : Resolver) (r : Request) : List (Nat × Call) :=
  (c.admitted resolver r).toList.map fun i => (i, { seq := c.clock + 1, request := r })

/-- A step of a test against a collection: a call the collection answers, normalized or raw, a
call recorded directly on an expectation, the registration of an expectation, a change of an
expectation's replies, or a reset. -/
inductive CallStep where
  | handle (r : Request)
  | perform (method url : Bytes) (o : Options)
  | called (i : Nat) (r : Request)
  | register (e : Expectation)
  | configure (i : Nat) (op : ReplyOp)
  | reset

namespace CallStep

/-- The collection after a step. -/
def apply (resolver : Resolver) : CallStep → Collection → Collection
  | .handle r, c => (c.handle resolver r).2.1
  | .perform m u o, c => (c.perform resolver m u o).2.1
  | .called i r, c => c.called i r
  | .register e, c => c.push e
  | .configure i op, c => c.configure i op
  | .reset, c => c.reset

/-- The log after a step: the calls it records appended, with their positions; a reset drops
every expectation, and the log with them. -/
def logged (resolver : Resolver) : CallStep → Collection → List (Nat × Call) → List (Nat × Call)
  | .handle r, c, log => log ++ c.handledCalls resolver r
  | .perform m u o, c, log =>
    match Request.normalize m u o with
    | .ok r => log ++ c.handledCalls resolver r
    | .error _ => log
  | .called i r, c, log =>
    if i < c.expectations.length then log ++ [(i, { seq := c.clock + 1, request := r })] else log
  | .register _, _, log => log
  | .configure _ _, _, log => log
  | .reset, _, _ => []

/-- A registered expectation is a new one, with no calls. -/
def Fresh : CallStep → Prop
  | .register e => e.calls = []
  | _ => True

end CallStep

/-- The collections a run of steps reaches from `c₀`, with the calls recorded on the
expectations then in the collection, in the order they were recorded. -/
inductive CallRun (resolver : Resolver) (c₀ : Collection) : Collection → List (Nat × Call) → Prop
  | start : CallRun resolver c₀ c₀ []
  | step {c : Collection} {log : List (Nat × Call)} (s : CallStep) :
      s.Fresh → CallRun resolver c₀ c log → CallRun resolver c₀ (s.apply resolver c) (s.logged resolver c log)

/-- How a collection's calls stand to a log: position by position, each expectation holds the
calls the log records there; every entry is at a position of the collection; and the entries are
numbered in increasing order, up to the clock. -/
structure Chronicle (c : Collection) (log : List (Nat × Call)) : Prop where
  calls : c.expectations.map (·.calls) = (List.range c.expectations.length).map fun j => callsAt j log
  inRange : ∀ p ∈ log, p.1 < c.expectations.length
  ordered : log.Pairwise fun a b => a.2.seq < b.2.seq
  numbered : ∀ p ∈ log, p.2.seq ≤ c.clock

namespace Chronicle

theorem calls_of_getElem? (h : c.Chronicle log) {j : Nat} (hj : c.expectations[j]? = some e) :
    e.calls = callsAt j log := by
  have hmap := congrArg (·[j]?) h.calls
  simp only [List.getElem?_map, hj] at hmap
  have hlt : j < c.expectations.length := (List.getElem?_eq_some_iff.1 hj).1
  simpa [hlt] using hmap

theorem start (h₀ : ∀ e ∈ c.expectations, e.calls = []) : c.Chronicle [] where
  calls := by
    apply List.ext_getElem (by simp)
    intro j h₁ h₂
    simpa using h₀ _ (List.getElem_mem (by simpa using h₁))
  inRange := by simp
  ordered := List.Pairwise.nil
  numbered := by simp

/-- A step that keeps every expectation's calls and does not turn the clock back keeps the log. -/
theorem keep (h : c.Chronicle log) (hcalls : c'.expectations.map (·.calls) = c.expectations.map (·.calls))
    (hclock : c.clock ≤ c'.clock) : c'.Chronicle log := by
  have hlen : c'.expectations.length = c.expectations.length := by
    simpa using congrArg List.length hcalls
  refine ⟨by rw [hcalls, hlen, h.calls], fun p hp => hlen ▸ h.inRange p hp, h.ordered, ?_⟩
  intro p hp
  exact Nat.le_trans (h.numbered p hp) hclock

/-- Recording one call on the expectation at position `i`, numbered after the clock, appends it
to the log. -/
theorem snoc (h : c.Chronicle log) (he : c.expectations[i]? = some e)
    (hcalls : c'.expectations.map (·.calls) =
      (c.expectations.map (·.calls)).set i (e.calls ++ [{ seq := c.clock + 1, request := r }]))
    (hclock : c'.clock = c.clock + 1) :
    c'.Chronicle (log ++ [(i, { seq := c.clock + 1, request := r })]) := by
  have hlt : i < c.expectations.length := (List.getElem?_eq_some_iff.1 he).1
  have hlen : c'.expectations.length = c.expectations.length := by
    simpa using congrArg List.length hcalls
  have hei : e.calls = callsAt i log := h.calls_of_getElem? he
  refine ⟨?_, ?_, ?_, ?_⟩
  · rw [hcalls, h.calls, hlen, hei]
    apply List.ext_getElem (by simp)
    intro j h₁ h₂
    by_cases hij : i = j
    · subst hij
      simp
    · simp [List.getElem_set_ne hij, hij]
  · intro p hp
    rcases List.mem_append.1 hp with hp | hp
    · exact hlen ▸ h.inRange p hp
    · rw [List.mem_singleton.1 hp, hlen]
      exact hlt
  · refine List.pairwise_append.2 ⟨h.ordered, List.pairwise_singleton _ _, ?_⟩
    intro a ha b hb
    rw [List.mem_singleton.1 hb]
    have := h.numbered a ha
    dsimp only
    omega
  · intro p hp
    rcases List.mem_append.1 hp with hp | hp
    · have := h.numbered p hp
      omega
    · rw [List.mem_singleton.1 hp]
      exact Nat.le_of_eq hclock.symm

theorem push (h : c.Chronicle log) (he : e.calls = []) : (c.push e).Chronicle log := by
  have hnone : callsAt c.expectations.length log = [] :=
    callsAt_eq_nil fun p hp => Nat.ne_of_lt (h.inRange p hp)
  refine ⟨?_, fun p hp => ?_, h.ordered, h.numbered⟩
  · simp only [Collection.push, List.map_append, List.length_append, List.length_singleton,
      List.range_succ]
    rw [h.calls]
    simp [he, hnone]
  · simpa [Collection.push] using Nat.lt_succ_of_lt (h.inRange p hp)

theorem reset (c : Collection) : c.reset.Chronicle [] :=
  ⟨by simp [Collection.reset], by simp, List.Pairwise.nil, by simp⟩

/-- The merged stack holds, in some order, exactly the entries of the log. -/
theorem perm (h : c.Chronicle log) :
    (c.expectations.zipIdx.flatMap fun (e, i) => e.calls.map fun call => (i, call)).Perm log := by
  have hblock : ∀ p ∈ c.expectations.zipIdx,
      (p.1.calls.map fun call => (p.2, call)) = log.filter (·.1 = p.2) := by
    intro p hp
    rw [h.calls_of_getElem? (List.mem_zipIdx_iff_getElem?.1 hp), map_callsAt]
  have hflat : (c.expectations.zipIdx.flatMap fun (e, i) => e.calls.map fun call => (i, call)) =
      (List.range c.expectations.length).flatMap fun j => log.filter (·.1 = j) := by
    rw [List.range_eq_range', ← List.zipIdx_map_snd 0 c.expectations, List.flatMap_map]
    exact List.flatMap_congr hblock
  rw [hflat]
  exact flatMap_range_filter_perm log _ h.inRange

/-- Sorting the calls of all expectations by number gives the log. -/
theorem callStack_eq (h : c.Chronicle log) : c.callStack = log := by
  unfold callStack
  generalize hall : (c.expectations.zipIdx.flatMap fun (e, i) => e.calls.map fun call => (i, call)) = all
  have hperm : (all.mergeSort fun a b => decide (a.2.seq ≤ b.2.seq)).Perm log :=
    (List.mergeSort_perm _ _).trans (hall ▸ h.perm)
  have htrans : ∀ a b d : Nat × Call, decide (a.2.seq ≤ b.2.seq) = true →
      decide (b.2.seq ≤ d.2.seq) = true → decide (a.2.seq ≤ d.2.seq) = true := by
    intro a b d hab hbc
    simp only [decide_eq_true_eq] at *
    omega
  have htotal : ∀ a b : Nat × Call, (decide (a.2.seq ≤ b.2.seq) || decide (b.2.seq ≤ a.2.seq)) = true := by
    intro a b
    simpa using Nat.le_total a.2.seq b.2.seq
  have hsorted : (all.mergeSort fun a b => decide (a.2.seq ≤ b.2.seq)).Pairwise
      fun a b => a.2.seq ≤ b.2.seq := by
    simpa using List.pairwise_mergeSort htrans htotal all
  -- both lists are sorted by number, and a number names one entry of the log
  have hunique : ∀ a b, a ∈ all.mergeSort (fun a b => decide (a.2.seq ≤ b.2.seq)) → b ∈ log →
      a.2.seq ≤ b.2.seq → b.2.seq ≤ a.2.seq → a = b := by
    intro a b ha hb hab hba
    exact eq_of_seq_eq h.ordered (hperm.mem_iff.1 ha) hb (Nat.le_antisymm hab hba)
  exact List.Perm.eq_of_pairwise hunique hsorted (h.ordered.imp Nat.le_of_lt) hperm

end Chronicle

@[simp] theorem configure_calls (c : Collection) (i : Nat) (op : ReplyOp) :
    (c.configure i op).expectations.map (·.calls) = c.expectations.map (·.calls) := by
  have hop : ∀ e : Expectation, (op.apply e).calls = e.calls := by
    intro e
    cases op with
    | respond b always =>
      simp only [ReplyOp.apply, Expectation.willRespond]
      split
      · rfl
      · split
        · rfl
        · unfold Expectation.addReply
          split <;> rfl
    | raise m always w =>
      simp only [ReplyOp.apply, Expectation.willThrow]
      unfold Expectation.addReply
      split <;> rfl
    | reset => rfl
  apply List.ext_getElem (by simp [configure])
  intro j h₁ h₂
  simp only [configure, List.getElem_map, List.getElem_modify]
  split <;> simp [hop]

theorem handle_chronicle (h : c.Chronicle log) :
    (c.handle resolver r).2.1.Chronicle (log ++ c.handledCalls resolver r) := by
  cases ha : c.admitted resolver r with
  | none =>
    have hnot : ∀ i e, ¬c.Admits resolver r i e := fun i e hadm => by
      rw [admitted_of_admits hadm] at ha
      cases ha
    rw [handledCalls, ha, Option.toList_none, List.map_nil, List.append_nil]
    exact h.keep (by rw [(handle_of_not_admits hnot).1]) (Nat.le_of_eq (clock_handle_of_not_admits hnot).symm)
  | some i =>
    obtain ⟨e, hadm⟩ := admits_of_admitted ha
    rw [handledCalls, ha]
    refine h.snoc hadm.found ?_ (clock_handle_of_admits hadm)
    rw [(handle_of_admits hadm).2, List.map_set, Expectation.respond_snd]
    rfl

theorem called_chronicle (h : c.Chronicle log) (i : Nat) (r : Request) :
    (c.called i r).Chronicle (if i < c.expectations.length then
      log ++ [(i, { seq := c.clock + 1, request := r })] else log) := by
  cases he : c.expectations[i]? with
  | none =>
    have hge : ¬i < c.expectations.length := by
      simpa [List.getElem?_eq_none_iff] using he
    simpa [called, he, hge] using h
  | some e =>
    have hlt : i < c.expectations.length := (List.getElem?_eq_some_iff.1 he).1
    rw [if_pos hlt]
    refine h.snoc he ?_ (by simp [called, he])
    simp [called, he, List.map_set]

/-- One step keeps a collection's calls in step with the log. -/
theorem CallStep.chronicle (s : CallStep) (hs : s.Fresh) (h : c.Chronicle log) :
    (s.apply resolver c).Chronicle (s.logged resolver c log) := by
  cases s with
  | handle r => exact handle_chronicle h
  | perform m u o =>
    simp only [CallStep.apply, CallStep.logged, Collection.perform]
    cases Request.normalize m u o with
    | error x => exact h.keep (by simp) (by simp)
    | ok r => exact handle_chronicle h
  | called i r => exact called_chronicle h i r
  | register e => exact h.push hs
  | configure i op => exact h.keep (configure_calls c i op) (Nat.le_refl _)
  | reset => exact Chronicle.reset c

theorem CallRun.chronicle {c₀ : Collection} (h₀ : ∀ e ∈ c₀.expectations, e.calls = [])
    (hrun : CallRun resolver c₀ c log) : c.Chronicle log := by
  induction hrun with
  | start => exact Chronicle.start h₀
  | step s hs _ ih => exact s.chronicle hs ih

/-- Along any run from a collection without calls, of calls the collection answers, calls
recorded directly on its expectations, registrations, changes of replies and resets, the merged
call stack is exactly the log of the calls recorded on the expectations now in the collection,
each once, in the order they were recorded; and each expectation's own calls are the part of that
log recorded on it, in the same order. -/
theorem callStack_eq_log {c₀ : Collection} (hrun : CallRun resolver c₀ c log)
    (h₀ : ∀ e ∈ c₀.expectations, e.calls = []) :
    c.callStack = log ∧ ∀ j e, c.expectations[j]? = some e → e.calls = callsAt j log := by
  have hc := CallRun.chronicle h₀ hrun
  exact ⟨hc.callStack_eq, fun j e hj => hc.calls_of_getElem? hj⟩

/-- Two expectations registered, then a call recorded directly on the second and one on the
first: the merged stack lists the second expectation's call first. -/
theorem callStack_eq_log_direct_calls :
    let ra : Request := { method := "GET".toBytes, uri := "/a".toBytes }
    let rb : Request := { method := "GET".toBytes, uri := "/b".toBytes }
    let c : Collection :=
      { expectations := [{ calls := [⟨2, rb⟩] }, { calls := [⟨1, ra⟩] }], clock := 2 }
    let log : List (Nat × Call) := [(1, ⟨1, ra⟩), (0, ⟨2, rb⟩)]
    CallRun ScoreResolver.resolve {} c log ∧ (∀ e ∈ ({} : Collection).expectations, e.calls = []) ∧
      c.callStack = log ∧ ∀ j e, c.expectations[j]? = some e → e.calls = callsAt j log := by
  intro ra rb c log
  have hrun : CallRun ScoreResolver.resolve {} c log :=
    .step (.called 0 rb) trivial (.step (.called 1 ra) trivial
      (.step (.register {}) rfl (.step (.register {}) rfl .start)))
  have h₀ : ∀ e ∈ ({} : Collection).expectations, e.calls = [] := by simp
  exact ⟨hrun, h₀, callStack_eq_log hrun h₀⟩

end Collection

end HttpMock
