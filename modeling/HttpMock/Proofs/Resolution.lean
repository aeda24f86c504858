import HttpMock.Collection
/-! The score resolver chooses the first best-scoring expectation that still has a reply. -/
namespace HttpMock.ScoreResolver

/-- The score of the expectation at a position for a request; nothing outside the list. -/
def scoreAt (es : List Expectation) (r : Request) (i : Nat) : Nat :=
  ((es[i]?).map fun e => (e.result r).score).getD 0

/-- Whether the expectation at a position still has a reply to hand out. -/
def liveAt (es : List Expectation) (i : Nat) : Bool :=
  (es[i]?.map Expectation.hasNextResponse).getD false

/-- Among the positions `p` admits, `i` has the highest score and is the first of that score. -/
def FirstBest (score : Nat → Nat) (p : Nat → Prop) (i : Nat) : Prop :=
  p i ∧ ∀ j, p j → score j < score i ∨ score j = score i ∧ i ≤ j

/-- A position whose expectation scores above zero. -/
def Scoring (es : List Expectation) (r : Request) (j : Nat) : Prop := 0 < scoreAt es r j

/-- A position whose expectation scores above zero and still has a reply. -/
def Live (es : List Expectation) (r : Request) (j : Nat) : Prop :=
  Scoring es r j ∧ liveAt es j = true

/-- The reference choice of a position for a request. -/
def Selects (es : List Expectation) (r : Request) (i : Nat) : Prop :=
  (∃ j, Live es r j) ∧ FirstBest (scoreAt es r) (Live es r) i ∨
    (¬∃ j, Live es r j) ∧ FirstBest (scoreAt es r) (Scoring es r) i

/-- What the reference rule answers: no expectations, no match with every result in registration
order, or the position it selects. -/
def Answers (es : List Expectation) (r : Request) : Except MockError (Option Nat) → Prop
  | .error x =>
    es = [] ∧ x = .noExpectations r.render ∨
      es ≠ [] ∧ (∀ e ∈ es, (e.result r).score = 0) ∧ x = .noMatch r.render (es.map (·.result r))
  | .ok none => False
  | .ok (some i) => Selects es r i

/-- `a` ranks ahead of `b`: a higher score, or the same score at an earlier position. -/
def Ahead (a b : Nat × Nat) : Prop := b.1 < a.1 ∨ b.1 = a.1 ∧ a.2 < b.2

/-- The positive scores with their positions, in registration order. -/
def candidates (es : List Expectation) (r : Request) : List (Nat × Nat) :=
  es.zipIdx.filterMap fun (e, i) =>
    let s := (e.result r).score
    if s > 0 then some (s, i) else none

variable {es : List Expectation} {r : Request} {s : Nat → Nat} {p : Nat → Prop} {i j : Nat}

/-! ### The reference rule answers one thing -/

theorem FirstBest.unique (hi : FirstBest s p i) (hj : FirstBest s p j) : i = j := by
  rcases hi.2 j hj.1 with h | ⟨h, h'⟩ <;> rcases hj.2 i hi.1 with g | ⟨g, g'⟩ <;> omega

theorem Selects.unique (hi : Selects es r i) (hj : Selects es r j) : i = j := by
  rcases hi with ⟨hl, hi⟩ | ⟨hl, hi⟩ <;> rcases hj with ⟨hl', hj⟩ | ⟨hl', hj⟩
  · exact hi.unique hj
  · exact (hl' hl).elim
  · exact (hl hl').elim
  · exact hi.unique hj

theorem scoreAt_of_getElem? {e : Expectation} (h : es[i]? = some e) :
    scoreAt es r i = (e.result r).score := by
  simp [scoreAt, h]

theorem exists_getElem?_of_scoring (h : Scoring es r i) : ∃ e, es[i]? = some e ∧ 0 < (e.result r).score := by
  unfold Scoring scoreAt at h
  cases he : es[i]? with
  | none => simp [he] at h
  | some e => exact ⟨e, rfl, by simpa [he] using h⟩

theorem Selects.scoring (h : Selects es r i) : Scoring es r i := by
  rcases h with ⟨-, hb⟩ | ⟨-, hb⟩
  · exact hb.1.1
  · exact hb.1

theorem Answers.unique {x y : Except MockError (Option Nat)} (hx : Answers es r x) (hy : Answers es r y) :
    x = y := by
  match x, y, hx, hy with
  | .error x, .error y, hx, hy =>
    rcases hx with ⟨he, rfl⟩ | ⟨he, -, rfl⟩ <;> rcases hy with ⟨he', rfl⟩ | ⟨he', -, rfl⟩
    · rfl
    · exact (he' he).elim
    · exact (he he').elim
    · rfl
  | .error x, .ok (some j), hx, hy =>
    obtain ⟨e, he, hpos⟩ := exists_getElem?_of_scoring hy.scoring
    have hmem : e ∈ es := List.mem_of_getElem? he
    rcases hx with ⟨rfl, -⟩ | ⟨-, hzero, -⟩
    · simp at hmem
    · exact absurd (hzero e hmem) (Nat.ne_of_gt hpos)
  | .ok (some i), .error y, hx, hy =>
    obtain ⟨e, he, hpos⟩ := exists_getElem?_of_scoring hx.scoring
    have hmem : e ∈ es := List.mem_of_getElem? he
    rcases hy with ⟨rfl, -⟩ | ⟨-, hzero, -⟩
    · simp at hmem
    · exact absurd (hzero e hmem) (Nat.ne_of_gt hpos)
  | .ok (some i), .ok (some j), hx, hy => rw [Selects.unique hx hy]
  | .ok none, _, hx, _ => exact hx.elim
  | _, .ok none, _, hy => exact hy.elim

/-! ### Lists ordered by position -/

theorem pairwise_zipIdx_snd {α : Type} (l : List α) (k : Nat) : (l.zipIdx k).Pairwise (·.2 < ·.2) := by
  induction l generalizing k with
  | nil => simp
  | cons a l ih =>
    rw [List.zipIdx_cons, List.pairwise_cons]
    exact ⟨fun y hy => by have := List.le_snd_of_mem_zipIdx hy; omega, ih (k + 1)⟩

/-- Two members of a list ordered by position stand in the list in the order of their positions. -/
theorem pair_sublist_of_lt {l : List (Nat × Nat)} {x y : Nat × Nat} (hl : l.Pairwise (·.2 < ·.2))
    (hx : x ∈ l) (hy : y ∈ l) (h : x.2 < y.2) : [x, y].Sublist l := by
  induction l with
  | nil => simp at hx
  | cons z l ih =>
    rw [List.pairwise_cons] at hl
    rcases List.mem_cons.1 hx with rfl | hxl
    · rcases List.mem_cons.1 hy with rfl | hyl
      · omega
      · exact (List.singleton_sublist.2 hyl).cons_cons x
    · rcases List.mem_cons.1 hy with rfl | hyl
      · have := hl.1 x hxl
        omega
      · exact (ih hl.2 hxl hyl).cons z

/-- In a list without repeats, two elements cannot stand in both orders. -/
theorem not_both_orders {α : Type} {l : List α} {a b : α} (hl : l.Nodup) (hab : [a, b].Sublist l)
    (hba : [b, a].Sublist l) : False := by
  induction l with
  | nil => simp at hab
  | cons x l ih =>
    rw [List.nodup_cons] at hl
    rw [List.sublist_cons_iff] at hab hba
    rcases hab with hab | ⟨_, h₁, h₂⟩ <;> rcases hba with hba | ⟨_, h₃, h₄⟩
    · exact ih hl.2 hab hba
    · obtain ⟨rfl, rfl⟩ := List.cons_eq_cons.1 h₃
      exact hl.1 (hab.subset (by simp))
    · obtain ⟨rfl, rfl⟩ := List.cons_eq_cons.1 h₁
      exact hl.1 (hba.subset (by simp))
    · obtain ⟨rfl, rfl⟩ := List.cons_eq_cons.1 h₁
      obtain ⟨hba, -⟩ := List.cons_eq_cons.1 h₃
      exact hl.1 (hba ▸ h₂.subset (by simp))

/-! ### The ranking -/

theorem ranked_eq : ranked es r = (candidates es r).mergeSort fun a b => a.1 ≥ b.1 := rfl

theorem mem_candidates {x : Nat × Nat} :
    x ∈ candidates es r ↔ Scoring es r x.2 ∧ x.1 = scoreAt es r x.2 := by
  obtain ⟨v, k⟩ := x
  simp only [candidates, List.mem_filterMap, Prod.exists, List.mk_mem_zipIdx_iff_getElem?]
  constructor
  · rintro ⟨e, k', hk, hsome⟩
    split at hsome
    · simp only [Option.some.injEq, Prod.mk.injEq] at hsome
      obtain ⟨rfl, rfl⟩ := hsome
      simp [Scoring, scoreAt_of_getElem? hk, *]
    · simp at hsome
  · rintro ⟨hpos, rfl⟩
    obtain ⟨e, he, hs⟩ := exists_getElem?_of_scoring hpos
    exact ⟨e, k, he, by simp [hs, scoreAt_of_getElem? he]⟩

theorem candidates_pairwise : (candidates es r).Pairwise (·.2 < ·.2) := by
  apply (pairwise_zipIdx_snd es 0).filterMap
  rintro ⟨e, k⟩ ⟨e', k'⟩ h b hb b' hb'
  simp only [gt_iff_lt, Option.ite_none_right_eq_some, Option.some.injEq] at hb hb'
  obtain ⟨-, rfl⟩ := hb
  obtain ⟨-, rfl⟩ := hb'
  exact h

theorem mem_ranked {x : Nat × Nat} : x ∈ ranked es r ↔ Scoring es r x.2 ∧ x.1 = scoreAt es r x.2 := by
  rw [ranked_eq, List.mem_mergeSort, mem_candidates]

/-- The order of the sort, on descending scores, is transitive. -/
theorem score_ge_trans (a b c : Nat × Nat) (hab : decide (a.1 ≥ b.1) = true)
    (hbc : decide (b.1 ≥ c.1) = true) : decide (a.1 ≥ c.1) = true := by
  simp only [decide_eq_true_eq] at hab hbc ⊢
  omega

/-- The order of the sort, on descending scores, is total. -/
theorem score_ge_total (a b : Nat × Nat) : (decide (a.1 ≥ b.1) || decide (b.1 ≥ a.1)) = true := by
  simp only [Bool.or_eq_true, decide_eq_true_eq]
  omega

theorem ranked_sorted : (ranked es r).Pairwise fun a b => b.1 ≤ a.1 := by
  rw [ranked_eq]
  simpa using List.pairwise_mergeSort score_ge_trans score_ge_total (candidates es r)

theorem ranked_nodup : (ranked es r).Nodup :=
  (List.mergeSort_perm _ _).nodup_iff.2
    (candidates_pairwise.imp fun h he => Nat.ne_of_lt h (congrArg Prod.snd he))

/-- The ranking puts higher scores first and, among equal scores, earlier positions first: the
sort on descending scores is stable, and the candidates come in registration order. -/
theorem ranked_pairwise : (ranked es r).Pairwise Ahead := by
  rw [List.pairwise_iff_forall_sublist]
  intro a b hab
  have hge : b.1 ≤ a.1 := List.pairwise_iff_forall_sublist.1 ranked_sorted hab
  have ha : a ∈ candidates es r := List.mem_mergeSort.1 (hab.subset (by simp))
  have hb : b ∈ candidates es r := List.mem_mergeSort.1 (hab.subset (by simp))
  rcases Nat.lt_or_ge b.1 a.1 with hlt | hle
  · exact .inl hlt
  · refine .inr ⟨by omega, ?_⟩
    rcases Nat.lt_trichotomy a.2 b.2 with h | h | h
    · exact h
    · -- one position, so one pair: it cannot stand twice in the ranking
      have hba : a = b := Prod.ext (by rw [(mem_candidates.1 ha).2, (mem_candidates.1 hb).2, h]) h
      subst hba
      exact (not_both_orders ranked_nodup hab hab).elim
    · -- stability keeps the earlier position `b` ahead of `a`, against `a` standing first
      have hba : [b, a].Sublist (ranked es r) :=
        List.pair_sublist_mergeSort score_ge_trans score_ge_total
          (by simp only [decide_eq_true_eq]; omega) (pair_sublist_of_lt candidates_pairwise hb ha h)
      exact (not_both_orders ranked_nodup hab hba).elim

theorem mem_ranked_of_scoring (h : Scoring es r j) : (scoreAt es r j, j) ∈ ranked es r :=
  mem_ranked.2 ⟨h, rfl⟩

theorem score_eq_zero_of_ranked_nil (hr : ranked es r = []) : ∀ e ∈ es, (e.result r).score = 0 := by
  intro e he
  obtain ⟨k, hk⟩ := List.mem_iff_getElem?.1 he
  rcases Nat.eq_zero_or_pos (e.result r).score with hz | hpos
  · exact hz
  · have hs : Scoring es r k := by rwa [Scoring, scoreAt_of_getElem? hk]
    simpa [hr] using mem_ranked_of_scoring hs

/-! ### Scanning the ranking -/

theorem ahead_of_find?_eq_some {l : List (Nat × Nat)} {q : Nat × Nat → Bool} {x y : Nat × Nat}
    (hl : l.Pairwise Ahead) (hx : l.find? q = some x) (hy : y ∈ l) (hq : q y = true) :
    y = x ∨ Ahead x y := by
  obtain ⟨-, pre, post, rfl, hpre⟩ := List.find?_eq_some_iff_append.1 hx
  rcases List.mem_append.1 hy with hy | hy
  · have := hpre y hy
    simp [hq] at this
  · rcases List.mem_cons.1 hy with rfl | hy
    · exact .inl rfl
    · exact .inr ((List.pairwise_cons.1 (List.pairwise_append.1 hl).2.1).1 y hy)

theorem ahead_of_mem_cons {x y : Nat × Nat} {l : List (Nat × Nat)} (hl : (x :: l).Pairwise Ahead)
    (hy : y ∈ x :: l) : y = x ∨ Ahead x y := by
  rcases List.mem_cons.1 hy with rfl | hy
  · exact .inl rfl
  · exact .inr ((List.pairwise_cons.1 hl).1 y hy)

/-- A ranked position that no admitted position is ranked ahead of is the first best of them. -/
theorem firstBest_of_ranked {q : Nat → Prop} {x : Nat × Nat} (hx : x ∈ ranked es r) (hq : q x.2)
    (hahead : ∀ j, q j → (scoreAt es r j, j) = x ∨ Ahead x (scoreAt es r j, j)) :
    FirstBest (scoreAt es r) q x.2 := by
  refine ⟨hq, fun j hj => ?_⟩
  have hx1 := (mem_ranked.1 hx).2
  rcases hahead j hj with h | h
  · subst h
    exact .inr ⟨rfl, Nat.le_refl j⟩
  · unfold Ahead at h
    omega

/-! ### What the resolver answers -/

theorem resolve_of_ranked_nil (he : es ≠ []) (hr : ranked es r = []) :
    (resolve es r).1 = .error (.noMatch r.render (es.map (·.result r))) := by
  simp [resolve, he, hr]

theorem resolve_of_ranked_cons {x : Nat × Nat} {rest : List (Nat × Nat)} (he : es ≠ [])
    (hr : ranked es r = x :: rest) :
    (resolve es r).1 = .ok (some (((x :: rest).find? fun y => liveAt es y.2).getD x).2) := by
  simp [resolve, he, hr, liveAt]

theorem resolve_answers (es : List Expectation) (r : Request) : Answers es r (resolve es r).1 := by
  by_cases he : es = []
  · subst he
    exact .inl ⟨rfl, rfl⟩
  cases hr : ranked es r with
  | nil =>
    rw [resolve_of_ranked_nil he hr]
    exact .inr ⟨he, score_eq_zero_of_ranked_nil hr, rfl⟩
  | cons x rest =>
    rw [resolve_of_ranked_cons he hr]
    have hl : (x :: rest).Pairwise Ahead := hr ▸ ranked_pairwise
    cases hf : (x :: rest).find? (fun y => liveAt es y.2) with
    | some y =>
      have hlive : liveAt es y.2 = true := (List.find?_eq_some_iff_append.1 hf).1
      have hy : y ∈ ranked es r := hr ▸ List.mem_of_find?_eq_some hf
      have hyl : Live es r y.2 := ⟨(mem_ranked.1 hy).1, hlive⟩
      refine .inl ⟨⟨y.2, hyl⟩, firstBest_of_ranked hy hyl fun j hj => ?_⟩
      exact ahead_of_find?_eq_some hl hf (hr ▸ mem_ranked_of_scoring hj.1) hj.2
    | none =>
      have hnone : ¬∃ j, Live es r j := by
        rintro ⟨j, hs, hlive⟩
        exact List.find?_eq_none.1 hf _ (hr ▸ mem_ranked_of_scoring hs) hlive
      have hx : x ∈ ranked es r := hr ▸ List.mem_cons_self
      refine .inr ⟨hnone, firstBest_of_ranked hx (mem_ranked.1 hx).1 fun j hj => ?_⟩
      exact ahead_of_mem_cons hl (hr ▸ mem_ranked_of_scoring hj)

/-- The score resolver answers exactly what the reference rule answers: no expectations, no match
with every expectation's result in registration order, or the first best-scoring position among
those with a reply left, else among all positive scorers. -/
theorem resolve_eq_iff (es : List Expectation) (r : Request) (x : Except MockError (Option Nat)) :
    (resolve es r).1 = x ↔ Answers es r x :=
  ⟨fun h => h ▸ resolve_answers es r, fun h => (resolve_answers es r).unique h⟩

end HttpMock.ScoreResolver
