import HttpMock.Proofs.Run
/-! Replies follow their configuration along every run. -/
namespace HttpMock

namespace ReplyEvent

/-- The entry a hand-out serves. -/
def served? : ReplyEvent → Option Reply
  | .served x => some x
  | _ => none

/-- The entry an addition puts in the sequence. -/
def added? : ReplyEvent → Option Reply
  | .added x => some x
  | _ => none

/-- The entry an addition sets to answer every call. -/
def addedAlways? : ReplyEvent → Option Reply
  | .addedAlways x => some x
  | _ => none

end ReplyEvent

/-- The entries handed out in a piece of history, in order. -/
def servedIn (seg : List ReplyEvent) : List Reply := seg.filterMap ReplyEvent.served?

/-- The sequence entries added in a piece of history, in order. -/
def addedIn (seg : List ReplyEvent) : List Reply := seg.filterMap ReplyEvent.added?

/-- The always-entries set in a piece of history. -/
def alwaysIn (seg : List ReplyEvent) : List Reply := seg.filterMap ReplyEvent.addedAlways?

/-- A piece of history replays its configuration: the entries handed out are a prefix of the
sequence entries added, each once and none skipped, or all are the one always-entry set. -/
def Replays (seg : List ReplyEvent) : Prop :=
  servedIn seg <+: addedIn seg ∧ alwaysIn seg = [] ∨
    ∃ x, alwaysIn seg = [x] ∧ addedIn seg = [] ∧ ∀ y ∈ servedIn seg, y = x

/-- History after which an interval opens: none, or history ending in a reset. -/
def Opens (pre : List ReplyEvent) : Prop := pre = [] ∨ ∃ pre', pre = pre' ++ [.cleared]

/-- How a queue holds the interval of history since its last reset: a sequence or empty queue
holds the added entries in order, with those handed out before its cursor; an always-queue holds
the one always-entry set, which is all it handed out. -/
def Tracks (q : Response.Queue Reply) (seg : List ReplyEvent) : Prop :=
  q.Invariant ∧
    (q.mode ≠ .always ∧ q.entries = addedIn seg ∧ servedIn seg = q.entries.take q.cursor ∧
        alwaysIn seg = [] ∨
      ∃ x, q.mode = .always ∧ q.always = some x ∧ alwaysIn seg = [x] ∧ addedIn seg = [] ∧
        ∀ y ∈ servedIn seg, y = x)

@[simp] theorem servedIn_append (s t : List ReplyEvent) : servedIn (s ++ t) = servedIn s ++ servedIn t :=
  List.filterMap_append

@[simp] theorem addedIn_append (s t : List ReplyEvent) : addedIn (s ++ t) = addedIn s ++ addedIn t :=
  List.filterMap_append

@[simp] theorem alwaysIn_append (s t : List ReplyEvent) : alwaysIn (s ++ t) = alwaysIn s ++ alwaysIn t :=
  List.filterMap_append

@[simp] theorem servedIn_nil : servedIn [] = [] := rfl

@[simp] theorem addedIn_nil : addedIn [] = [] := rfl

@[simp] theorem alwaysIn_nil : alwaysIn [] = [] := rfl

@[simp] theorem servedIn_singleton (ev : ReplyEvent) : servedIn [ev] = ev.served?.toList := by
  cases ev <;> rfl

@[simp] theorem addedIn_singleton (ev : ReplyEvent) : addedIn [ev] = ev.added?.toList := by
  cases ev <;> rfl

@[simp] theorem alwaysIn_singleton (ev : ReplyEvent) : alwaysIn [ev] = ev.addedAlways?.toList := by
  cases ev <;> rfl

/-! ### A queue tracks its interval through every move -/

variable {q q' : Response.Queue Reply} {seg : List ReplyEvent} {x : Reply}

theorem Tracks.replays (h : Tracks q seg) : Replays seg := by
  rcases h.2 with ⟨-, hadded, hserved, halways⟩ | ⟨x, -, -, halways, hadded, hserved⟩
  · exact .inl ⟨by rw [hserved, ← hadded]; exact List.take_prefix _ _, halways⟩
  · exact .inr ⟨x, halways, hadded, hserved⟩

theorem tracks_empty : Tracks {} [] :=
  ⟨Response.Queue.invariant_empty, .inl ⟨by simp, rfl, rfl, rfl⟩⟩

theorem Tracks.added (h : Tracks q seg) (hq : q.add x = .ok q') : Tracks q' (seg ++ [.added x]) := by
  obtain ⟨hm, rfl⟩ := Response.Queue.add_eq_ok.1 hq
  have hle := h.1.cursor_le
  rcases h.2 with ⟨-, hadded, hserved, halways⟩ | ⟨y, hm', -⟩
  · refine ⟨h.1.add hq, .inl ⟨by simp, ?_, ?_, by simp [halways, ReplyEvent.addedAlways?]⟩⟩
    · simp [hadded, ReplyEvent.added?]
    · simp [hserved, ReplyEvent.served?, List.take_append_of_le_length hle]
  · exact (hm hm').elim

theorem Tracks.addedAlways (h : Tracks q seg) (hq : q.addAlways x = .ok q') :
    Tracks q' (seg ++ [.addedAlways x]) := by
  obtain ⟨hm, rfl⟩ := Response.Queue.addAlways_eq_ok.1 hq
  obtain ⟨hentries, hcursor⟩ := h.1.of_empty hm
  rcases h.2 with ⟨-, hadded, hserved, halways⟩ | ⟨y, hm', -⟩
  · refine ⟨h.1.addAlways hq, .inr ⟨x, rfl, rfl, ?_, ?_, ?_⟩⟩
    · simp [halways, ReplyEvent.addedAlways?]
    · simp [← hadded, hentries, ReplyEvent.added?]
    · simp [hserved, hentries, ReplyEvent.served?]
  · simp [hm] at hm'

theorem Tracks.served (h : Tracks q seg) (hq : q.next = .ok (x, q')) :
    Tracks q' (seg ++ [.served x]) := by
  have hinv := h.1.next hq
  rcases Response.Queue.next_eq_ok.1 hq with ⟨hm, hx, rfl⟩ | ⟨hm, hx, rfl⟩
  · rcases h.2 with ⟨hm', -⟩ | ⟨y, -, hy, halways, hadded, hserved⟩
    · exact (hm' hm).elim
    · obtain rfl : x = y := Option.some.inj (hx.symm.trans hy)
      refine ⟨hinv, .inr ⟨x, hm, hy, by simp [halways, ReplyEvent.addedAlways?], by
        simp [hadded, ReplyEvent.added?], fun y hy => ?_⟩⟩
      simp only [servedIn_append, servedIn_singleton, ReplyEvent.served?, Option.toList_some,
        List.mem_append, List.mem_singleton] at hy
      rcases hy with hy | rfl
      · exact hserved y hy
      · rfl
  · rcases h.2 with ⟨-, hadded, hserved, halways⟩ | ⟨y, hm', -⟩
    · refine ⟨hinv, .inl ⟨by simp [hm], by simpa [ReplyEvent.added?] using hadded, ?_,
        by simp [halways, ReplyEvent.addedAlways?]⟩⟩
      simp [hserved, ReplyEvent.served?, List.take_add_one, hx]
    · simp [hm] at hm'

/-! ### Histories -/

/-- A queue follows a history when it tracks the interval since the history's last reset. -/
def Follows (q : Response.Queue Reply) (evs : List ReplyEvent) : Prop :=
  ∀ pre seg, evs = pre ++ seg → Opens pre → (∀ ev ∈ seg, ev ≠ .cleared) → Tracks q seg

/-- Every interval of a history, from where it opens up to any later point, replays its
configuration. -/
def Replayed (evs : List ReplyEvent) : Prop :=
  ∀ pre seg post, evs = pre ++ seg ++ post → Opens pre → (∀ ev ∈ seg, ev ≠ .cleared) → Replays seg

variable {evs new pre seg : List ReplyEvent} {ev : ReplyEvent}

/-- Every history splits where its last interval opens. -/
theorem exists_open (evs : List ReplyEvent) :
    ∃ pre seg, evs = pre ++ seg ∧ Opens pre ∧ ∀ ev ∈ seg, ev ≠ .cleared := by
  induction evs with
  | nil => exact ⟨[], [], rfl, .inl rfl, by simp⟩
  | cons a evs ih =>
    obtain ⟨pre, seg, rfl, hpre, hseg⟩ := ih
    rcases hpre with rfl | ⟨pre', rfl⟩
    · by_cases ha : a = .cleared
      · exact ⟨[a], seg, rfl, .inr ⟨[], by rw [ha]; rfl⟩, hseg⟩
      · refine ⟨[], a :: seg, rfl, .inl rfl, ?_⟩
        simpa [ha] using hseg
    · exact ⟨a :: pre' ++ [.cleared], seg, by simp, .inr ⟨a :: pre', rfl⟩, hseg⟩

/-- An event other than a reset extends the interval that is open. -/
theorem eq_append_of_snoc (h : evs ++ [ev] = pre ++ seg) (hpre : Opens pre) (hev : ev ≠ .cleared) :
    ∃ seg', seg = seg' ++ [ev] ∧ evs = pre ++ seg' := by
  rcases List.eq_nil_or_concat seg with rfl | ⟨seg', b, rfl⟩
  · -- the whole history would open an interval, so it would end in a reset
    rcases hpre with rfl | ⟨pre', rfl⟩
    · simp at h
    · rw [List.append_nil, List.append_singleton_inj] at h
      exact (hev h.2).elim
  · rw [List.concat_eq_append, ← List.append_assoc, List.append_singleton_inj] at h
    exact ⟨seg', by rw [h.2, List.concat_eq_append], h.1⟩

theorem follows_nil : Follows {} [] := by
  intro pre seg h _ _
  obtain ⟨rfl, rfl⟩ := List.append_eq_nil_iff.1 h.symm
  exact tracks_empty

theorem Follows.snoc (h : Follows q evs) (hev : ev ≠ .cleared)
    (hstep : ∀ seg, Tracks q seg → Tracks q' (seg ++ [ev])) : Follows q' (evs ++ [ev]) := by
  intro pre seg hsplit hpre hseg
  obtain ⟨seg', rfl, rfl⟩ := eq_append_of_snoc hsplit hpre hev
  exact hstep seg' (h pre seg' rfl hpre fun e he => hseg e (by simp [he]))

/-- A queue keeps following its history through every move. -/
theorem Follows.move (h : Follows q evs) (hm : ReplyMove q new q') : Follows q' (evs ++ new) := by
  cases hm with
  | stay => simpa using h
  | cleared =>
    intro pre seg hsplit hpre hseg
    rcases List.eq_nil_or_concat seg with rfl | ⟨seg', b, rfl⟩
    · exact tracks_empty
    · rw [List.concat_eq_append, ← List.append_assoc, List.append_singleton_inj] at hsplit
      exact (hseg b (by simp) hsplit.2.symm).elim
  | added hq => exact h.snoc (by simp) fun _ ht => ht.added hq
  | addedAlways hq => exact h.snoc (by simp) fun _ ht => ht.addedAlways hq
  | served hq => exact h.snoc (by simp) fun _ ht => ht.served hq

theorem ReplyMove.events_eq (hm : ReplyMove q new q') : new = [] ∨ ∃ ev, new = [ev] := by
  cases hm with
  | stay => exact .inl rfl
  | cleared => exact .inr ⟨_, rfl⟩
  | added => exact .inr ⟨_, rfl⟩
  | addedAlways => exact .inr ⟨_, rfl⟩
  | served => exact .inr ⟨_, rfl⟩

theorem replayed_nil : Replayed [] := by
  intro pre seg post h _ _
  obtain ⟨-, rfl, -⟩ : pre = [] ∧ seg = [] ∧ post = [] := by simpa using h.symm
  exact .inl ⟨List.nil_prefix, rfl⟩

/-- Intervals that end before the new events replay as before; those that reach the end are
tracked by the queue that follows the history. -/
theorem Replayed.extend (h : Replayed evs) (hf : Follows q (evs ++ new))
    (hnew : new = [] ∨ ∃ ev, new = [ev]) : Replayed (evs ++ new) := by
  intro pre seg post hsplit hpre hseg
  rcases List.eq_nil_or_concat post with rfl | ⟨post', b, rfl⟩
  · exact (hf pre seg (by simpa using hsplit) hpre hseg).replays
  · rcases hnew with rfl | ⟨ev, rfl⟩
    · exact h pre seg _ (by simpa using hsplit) hpre hseg
    · rw [List.concat_eq_append, ← List.append_assoc, List.append_singleton_inj] at hsplit
      exact h pre seg post' hsplit.1 hpre hseg

/-! ### Runs -/

namespace Collection

variable {c₀ c : Collection} {hist : List (Nat × ReplyEvent)} {r : Request} {i : Nat}
  {e : Expectation}

/-- The invariant of a run: every expectation's queue follows its history, and every history is
replayed. -/
def RunInv (c : Collection) (hist : List (Nat × ReplyEvent)) : Prop :=
  ∀ j, Replayed (eventsAt j hist) ∧ ∀ e, c.expectations[j]? = some e → Follows e.replies (eventsAt j hist)

theorem eventsAt_append (j : Nat) (h₁ h₂ : List (Nat × ReplyEvent)) :
    eventsAt j (h₁ ++ h₂) = eventsAt j h₁ ++ eventsAt j h₂ :=
  List.filterMap_append

theorem runInv_start (h₀ : ∀ e ∈ c₀.expectations, e.replies = {}) : c₀.RunInv [] := by
  intro j
  refine ⟨replayed_nil, fun e he => ?_⟩
  rw [h₀ e (List.mem_of_getElem? he)]
  exact follows_nil

theorem RunInv.step (h : c.RunInv hist) (s : Step) : (s.apply c).RunInv (hist ++ s.events c) := by
  intro j
  rw [eventsAt_append]
  cases hj : c.expectations[j]? with
  | none =>
    obtain ⟨hnone, hev⟩ := s.events_of_none c hj
    rw [hev, List.append_nil]
    exact ⟨(h j).1, fun e he => by simp [hnone] at he⟩
  | some e =>
    obtain ⟨e', he', hm⟩ := s.moves c hj
    have hf := ((h j).2 e hj).move hm
    refine ⟨(h j).1.extend hf hm.events_eq, fun e'' he'' => ?_⟩
    rw [he'] at he''
    cases he''
    exact hf

theorem Run.inv (h₀ : ∀ e ∈ c₀.expectations, e.replies = {}) (hrun : c₀.Run c hist) : c.RunInv hist := by
  induction hrun with
  | start => exact runInv_start h₀
  | step s _ ih => exact ih.step s

theorem RunInv.invariant (h : c.RunInv hist) : ∀ e ∈ c.expectations, e.replies.Invariant := by
  intro e he
  obtain ⟨j, hj⟩ := List.mem_iff_getElem?.1 he
  obtain ⟨pre, seg, hsplit, hpre, hseg⟩ := exists_open (eventsAt j hist)
  exact ((h j).2 e hj pre seg hsplit hpre hseg).1

end Collection

/-! ### Calls that a live expectation scores -/

/-- An expectation whose queue hands out an entry never answers with a queue's error. -/
theorem Expectation.respond_ne_queue_error (e : Expectation) (r : Request) {x : Reply}
    {q : Response.Queue Reply} (h : e.replies.next = .ok (x, q)) (cause : Response.QueueError)
    (y : Bytes) : (e.respond r).1 ≠ .error (.noResponse (.queue cause) y) := by
  cases x with
  | raise m w => simp [Expectation.respond, Expectation.nextReply_of_next_ok h]
  | respond b =>
    simp only [Expectation.respond, Expectation.nextReply_of_next_ok h]
    split <;> simp

namespace Collection

variable {c : Collection} {r : Request} {i : Nat} {e : Expectation} {x : MockError}

/-- The score resolver refuses with none of the queue's errors. -/
theorem Refused.ne_queue_error (h : c.Refused ScoreResolver.resolve r x) (cause : Response.QueueError)
    (y : Bytes) : x ≠ .noResponse (.queue cause) y := by
  cases h with
  | invalid => simp
  | resolver _ hres =>
    rcases (ScoreResolver.resolve_eq_iff _ _ _).1 hres with ⟨-, rfl⟩ | ⟨-, -, rfl⟩ <;> simp
  | unresolved => simp
  | objection => simp

/-- When some scoring expectation still has a reply, the score resolver picks one that has. -/
theorem Admits.hasNextResponse (h : c.Admits ScoreResolver.resolve r i e)
    (hlive : ∃ e' ∈ c.expectations, 0 < (e'.result r).score ∧ e'.hasNextResponse = true) :
    e.hasNextResponse = true := by
  obtain ⟨e', he', hpos, hnext⟩ := hlive
  obtain ⟨k, hk⟩ := List.mem_iff_getElem?.1 he'
  have hl : ScoreResolver.Live c.expectations r k := by
    refine ⟨?_, by simp [ScoreResolver.liveAt, hk, hnext]⟩
    rw [ScoreResolver.Scoring, ScoreResolver.scoreAt_of_getElem? hk]
    exact hpos
  rcases (ScoreResolver.resolve_eq_iff _ _ _).1 h.resolved with ⟨-, hbest⟩ | ⟨hnone, -⟩
  · simpa [ScoreResolver.liveAt, h.found] using hbest.1.2
  · exact (hnone ⟨k, hl⟩).elim

/-- With queues that keep their invariant, a request that some expectation with a reply left
scores never fails for an exhausted or empty queue. -/
theorem handle_ne_queue_error (hinv : ∀ e ∈ c.expectations, e.replies.Invariant)
    (hlive : ∃ e ∈ c.expectations, 0 < (e.result r).score ∧ e.hasNextResponse = true)
    (cause : Response.QueueError) (y : Bytes) :
    (c.handle ScoreResolver.resolve r).1 ≠ .error (.noResponse (.queue cause) y) := by
  by_cases ha : ∃ i e, c.Admits ScoreResolver.resolve r i e
  · obtain ⟨i, e, ha⟩ := ha
    rw [(handle_of_admits ha).1]
    have he := hinv e (List.mem_of_getElem? ha.found)
    obtain ⟨x, q, hn⟩ := (Response.Queue.hasNext_iff_next_ok he).1 (ha.hasNextResponse hlive)
    exact Expectation.respond_ne_queue_error (e.record (c.clock + 1) r) r hn cause y
  · obtain ⟨-, x, hx, hrefused⟩ := handle_of_not_admits fun i e h => ha ⟨i, e, h⟩
    rw [hx]
    exact fun heq => hrefused.ne_queue_error cause y (Except.error.inj heq)

/-! ### What a run guarantees -/

/-- What every run guarantees of replies: each interval of an expectation's history, from its
opening at the start or at a reset up to any later point, replays its configuration, and a call
that some expectation with a reply left scores never meets an exhausted or empty queue. -/
structure RepliesFollow (c : Collection) (hist : List (Nat × ReplyEvent)) : Prop where
  replayed : ∀ j pre seg post, eventsAt j hist = pre ++ seg ++ post → Opens pre →
    (∀ ev ∈ seg, ev ≠ .cleared) → Replays seg
  handle_live : ∀ r, (∃ e ∈ c.expectations, 0 < (e.result r).score ∧ e.hasNextResponse = true) →
    ∀ cause y, (c.handle ScoreResolver.resolve r).1 ≠ .error (.noResponse (.queue cause) y)
  perform_live : ∀ method url o r, Request.normalize method url o = .ok r →
    (∃ e ∈ c.expectations, 0 < (e.result r).score ∧ e.hasNextResponse = true) →
    ∀ cause y, (c.perform ScoreResolver.resolve method url o).1 ≠ .error (.noResponse (.queue cause) y)

theorem RunInv.repliesFollow {hist : List (Nat × ReplyEvent)} (h : c.RunInv hist) :
    c.RepliesFollow hist where
  replayed j := (h j).1
  handle_live _ hlive := handle_ne_queue_error h.invariant hlive
  perform_live _ _ _ _ hn hlive := by
    simp only [Collection.perform, hn]
    exact handle_ne_queue_error h.invariant hlive

/-- Along every run from expectations with no replies, of calls answered by the score resolver and
of additions and resets of replies, replies follow their configuration. -/
theorem run_replies_follow {c₀ c : Collection} {hist : List (Nat × ReplyEvent)}
    (h₀ : ∀ e ∈ c₀.expectations, e.replies = {}) (hrun : c₀.Run c hist) : c.RepliesFollow hist :=
  (hrun.inv h₀).repliesFollow

theorem run_replies_follow_after_raise :
    let c₀ : Collection := { expectations := [{}] }
    let s : Step := .configure 0 (.raise [] false none)
    (∀ e ∈ c₀.expectations, e.replies = {}) ∧ c₀.Run (s.apply c₀) ([] ++ s.events c₀) ∧
      (s.apply c₀).RepliesFollow ([] ++ s.events c₀) :=
  have h₀ : ∀ e ∈ ({ expectations := [{}] } : Collection).expectations, e.replies = {} := by simp
  have hrun := Run.step (.configure 0 (.raise [] false none)) Run.start
  ⟨h₀, hrun, run_replies_follow h₀ hrun⟩

end Collection

end HttpMock
