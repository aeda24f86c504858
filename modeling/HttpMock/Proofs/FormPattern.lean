import Mathlib
import HttpMock.Request.Normalize
/-! The form body pattern, searched by the regex engine, finds `=` after another octet. -/
namespace HttpMock

/-- Some `=` of a body follows an octet other than `=`. -/
def FormAdjacent (b : Bytes) : Prop := ∃ pre x post, b = pre ++ x :: 0x3D :: post ∧ x ≠ 0x3D

theorem not_formAdjacent_nil : ¬FormAdjacent [] := by
  rintro ⟨pre, x, post, heq, -⟩
  simp at heq

theorem formAdjacent_cons (a : UInt8) (ys : Bytes) :
    FormAdjacent (a :: ys) ↔ (a ≠ 0x3D ∧ ys.head? = some 0x3D) ∨ FormAdjacent ys := by
  constructor
  · rintro ⟨pre, x, post, heq, hx⟩
    cases pre with
    | nil =>
      simp only [List.nil_append, List.cons.injEq] at heq
      obtain ⟨rfl, rfl⟩ := heq
      exact .inl ⟨hx, rfl⟩
    | cons p pre =>
      simp only [List.cons_append, List.cons.injEq] at heq
      exact .inr ⟨pre, x, post, heq.2, hx⟩
  · rintro (⟨ha, hys⟩ | ⟨pre, x, post, rfl, hx⟩)
    · obtain ⟨post, rfl⟩ := List.head?_eq_some_iff.1 hys
      exact ⟨[], a, post, rfl, ha⟩
    · exact ⟨a :: pre, x, post, rfl, hx⟩

/-- Octets without an `=` in front of a body add one adjacency at most: where the body starts
with `=`. -/
theorem formAdjacent_append_of_not_mem {xs : Bytes} (ys : Bytes) (hxs : (0x3D : UInt8) ∉ xs)
    (hne : xs ≠ []) : FormAdjacent (xs ++ ys) ↔ ys.head? = some 0x3D ∨ FormAdjacent ys := by
  induction xs with
  | nil => exact absurd rfl hne
  | cons a xs ih =>
    have ha : a ≠ 0x3D := fun h => hxs (h ▸ List.mem_cons_self)
    rw [List.cons_append, formAdjacent_cons]
    cases xs with
    | nil => simp [ha]
    | cons b xs =>
      have hb : b ≠ 0x3D := fun h => hxs (h ▸ List.mem_cons_of_mem _ List.mem_cons_self)
      rw [ih (fun h => hxs (List.mem_cons_of_mem _ h)) (List.cons_ne_nil _ _)]
      simp [hb]

/-- Whether some `=` of a text follows a character other than `=`. -/
def eqAfterOther : List Char → Bool
  | [] => false
  | c :: rest => (c != '=' && rest.head? == some '=') || eqAfterOther rest

theorem eqAfterOther_eq_cons (rest : List Char) : eqAfterOther ('=' :: rest) = eqAfterOther rest := by
  simp [eqAfterOther]

theorem eqAfterOther_cons_of_ne {c : Char} (hc : c ≠ '=') (rest : List Char) :
    eqAfterOther (c :: rest) = (rest.head? == some '=' || eqAfterOther rest) := by
  rw [eqAfterOther, bne_iff_ne.2 hc, Bool.true_and]

namespace Bytes

/-- A piece as the UTF-8 view gives it: an ASCII octet always reads as a character, so a stray
octet is never one. -/
def Piece.Canonical : Piece → Prop
  | .char _ => True
  | .stray x => 0x80 ≤ x

theorem canonical_of_mem_pieces (bs : Bytes) : ∀ p ∈ pieces bs, p.Canonical := by
  fun_induction pieces bs <;> intro p hp <;> simp_all
  all_goals rcases hp with rfl | hp <;> simp_all [Piece.Canonical]

theorem Piece.toBytes_ne_nil (p : Piece) : p.toBytes ≠ [] := by
  cases p with
  | char c => exact String.utf8EncodeChar_ne_nil
  | stray x => simp [Piece.toBytes]

theorem Piece.toBytes_of_toChar {p : Piece} (h : p.toChar = '=') : p.toBytes = [0x3D] := by
  cases p with
  | char c =>
    simp only [Piece.toChar] at h
    subst h
    rfl
  | stray x =>
    simp only [Piece.toChar] at h
    exact absurd h (by decide)

theorem Piece.mem_toBytes_iff {p : Piece} (hp : p.Canonical) :
    (0x3D : UInt8) ∈ p.toBytes ↔ p.toChar = '=' := by
  cases p with
  | char c =>
    rw [Piece.toBytes, mem_utf8EncodeChar_ascii (by decide), Piece.toChar, ← Char.toNat_inj]
    rfl
  | stray x =>
    simp only [Piece.Canonical] at hp
    simp only [Piece.toBytes, List.mem_singleton, Piece.toChar]
    constructor
    · rintro rfl
      exact absurd hp (by decide)
    · intro h
      exact absurd h (by decide)

theorem head?_ofPieces {ps : List Piece} (hs : ∀ p ∈ ps, p.Canonical) :
    (ofPieces ps).head? = some 0x3D ↔ (ps.map Piece.toChar).head? = some '=' := by
  cases ps with
  | nil => simp
  | cons p ps =>
    obtain ⟨b, tl, hb⟩ := List.exists_cons_of_ne_nil (Piece.toBytes_ne_nil p)
    rw [ofPieces_cons, hb, List.cons_append, List.head?_cons, List.map_cons, List.head?_cons,
      Option.some_inj, Option.some_inj]
    constructor
    · intro h
      rw [← Piece.mem_toBytes_iff (hs p List.mem_cons_self), hb, h]
      exact List.mem_cons_self
    · intro h
      have hone := Piece.toBytes_of_toChar h
      rw [hb, List.cons_eq_cons] at hone
      exact hone.1

/-- Over the pieces of the UTF-8 view, an `=` octet after another octet is an `=` character after
another character: the `=` octet is a piece of its own, and no other piece ends in it. -/
theorem formAdjacent_ofPieces {ps : List Piece} (hs : ∀ p ∈ ps, p.Canonical) :
    FormAdjacent (ofPieces ps) ↔ eqAfterOther (ps.map Piece.toChar) = true := by
  induction ps with
  | nil => simpa [eqAfterOther] using not_formAdjacent_nil
  | cons p ps ih =>
    have hp := hs p List.mem_cons_self
    have hps : ∀ q ∈ ps, q.Canonical := fun q hq => hs q (List.mem_cons_of_mem _ hq)
    rw [ofPieces_cons, List.map_cons, eqAfterOther]
    by_cases hc : p.toChar = '='
    · rw [Piece.toBytes_of_toChar hc, List.singleton_append, formAdjacent_cons, ih hps]
      simp [hc]
    · have hnot : (0x3D : UInt8) ∉ p.toBytes := mt (Piece.mem_toBytes_iff hp).1 hc
      rw [formAdjacent_append_of_not_mem _ hnot (Piece.toBytes_ne_nil p), head?_ofPieces hps, ih hps]
      simp [hc]

end Bytes

theorem formAdjacent_iff_eqAfterOther (b : Bytes) :
    FormAdjacent b ↔ eqAfterOther ((Bytes.pieces b).map Bytes.Piece.toChar) = true := by
  have h := Bytes.formAdjacent_ofPieces (Bytes.canonical_of_mem_pieces b)
  rwa [Bytes.ofPieces_pieces] at h

namespace Regex

section Run

variable {prog : Program} {text : Array Char} {fuel pos : Nat} {pcs : List Nat}

theorem runFrom_succ_of_none (h : text[pos]? = none) :
    runFrom prog text (fuel + 1) pos pcs = prog.accepts (prog.threads text pos pcs) := by
  simp only [runFrom, h]
  cases prog.accepts (prog.threads text pos pcs) <;> rfl

theorem runFrom_succ_of_some {c : Char} (h : text[pos]? = some c) :
    runFrom prog text (fuel + 1) pos pcs = (prog.accepts (prog.threads text pos pcs) ||
      runFrom prog text fuel (pos + 1) (prog.advance (prog.threads text pos pcs) c)) := by
  simp only [runFrom, h]
  cases prog.accepts (prog.threads text pos pcs) <;> rfl

end Run

theorem passes_not_eq (c : Char) : (Test.set [(61, 61)] true false).passes c = (c != '=') := by
  have hc : c = '=' ↔ c.toNat = 61 := Char.toNat_inj.symm
  rw [Bool.eq_iff_iff]
  simp [Test.passes, inRanges, hc]

theorem passes_eq (c : Char) : (Test.lit '=' false).passes c = (c == '=') := by
  simp [Test.passes]

end Regex

open Regex

/-- The compiled form body pattern. Instruction 14 reads the key's first character, 12 and 13
loop over the rest of the key, 11 reads the `=` and 9 and 10 the value; from 1 on the program
accepts or goes on with further pairs. -/
theorem formBodyProgram_eq : formBodyProgram =
    { insts := #[.accept, .fork 8 0, .fork 3 1, .char (.set [(61, 61)] true false) 2,
        .char (.lit '=' false) 2, .fork 6 4, .char (.set [(61, 61)] true false) 5,
        .char (.set [(61, 61)] true false) 5, .char (.lit '&' false) 7, .fork 10 1,
        .char (.set [(61, 61)] true false) 9, .char (.lit '=' false) 9, .fork 13 11,
        .char (.set [(61, 61)] true false) 12, .char (.set [(61, 61)] true false) 12]
      start := 14 } := by
  unfold formBodyProgram
  cbv

section Threads

variable (text : Array Char) (pos : Nat)

/-- With no thread carried over, only a new key can start. -/
theorem threads_formBody_start : formBodyProgram.threads text pos [] = #[14] := by
  rw [formBodyProgram_eq]
  rfl

/-- Inside a key, the key goes on, its `=` may come, or a new key starts. -/
theorem threads_formBody_key (h : pcs = [12] ∨ pcs = [12, 12]) :
    formBodyProgram.threads text pos pcs = #[13, 11, 14] := by
  rw [formBodyProgram_eq]
  rcases h with rfl | rfl <;> rfl

/-- After a key and its `=`, the pattern has matched. -/
theorem threads_formBody_value : formBodyProgram.threads text pos [9] = #[10, 8, 0, 14] := by
  rw [formBodyProgram_eq]
  rfl

end Threads

theorem advance_formBody_start (c : Char) :
    formBodyProgram.advance #[14] c = if c = '=' then [] else [12] := by
  rw [formBodyProgram_eq]
  by_cases h : c = '=' <;> simp [Program.advance, passes_not_eq, h]

theorem advance_formBody_key (c : Char) :
    formBodyProgram.advance #[13, 11, 14] c = if c = '=' then [9] else [12, 12] := by
  rw [formBodyProgram_eq]
  by_cases h : c = '=' <;> simp [Program.advance, passes_not_eq, passes_eq, h]

theorem accepts_formBody_start : formBodyProgram.accepts #[14] = false := by
  rw [formBodyProgram_eq]
  simp [Program.accepts]

theorem accepts_formBody_key : formBodyProgram.accepts #[13, 11, 14] = false := by
  rw [formBodyProgram_eq]
  simp [Program.accepts]

theorem runFrom_formBody_value (text : Array Char) (fuel pos : Nat) :
    runFrom formBodyProgram text (fuel + 1) pos [9] = true := by
  have hacc : formBodyProgram.accepts #[10, 8, 0, 14] = true := by
    rw [formBodyProgram_eq]
    simp [Program.accepts]
  simp [runFrom, threads_formBody_value, hacc]

section Scan

variable {cs : List Char}

theorem getElem?_toArray_of_drop {rest : List Char} {pos : Nat} (h : cs.drop pos = rest) :
    cs.toArray[pos]? = rest.head? := by
  rw [List.getElem?_toArray, ← List.head?_drop, h]

theorem drop_succ_of_drop {c : Char} {rest : List Char} {pos : Nat} (h : cs.drop pos = c :: rest) :
    cs.drop (pos + 1) = rest := by
  rw [← List.tail_drop, h, List.tail_cons]

/-- Inside a key the search accepts at the next `=`, or later at an `=` after a character other
than `=`. The induction is on the characters left; the fuel covers them with two steps to
spare. -/
theorem runFrom_formBody_key (rest : List Char) :
    ∀ pos fuel pcs, cs.drop pos = rest → rest.length + 2 ≤ fuel → (pcs = [12] ∨ pcs = [12, 12]) →
      runFrom formBodyProgram cs.toArray fuel pos pcs =
        (rest.head? == some '=' || eqAfterOther rest) := by
  induction rest with
  | nil =>
    intro pos fuel pcs hdrop hfuel hpcs
    obtain ⟨f, rfl⟩ : ∃ f, fuel = f + 1 := ⟨fuel - 1, by simp at hfuel; omega⟩
    rw [runFrom_succ_of_none (getElem?_toArray_of_drop hdrop), threads_formBody_key _ _ hpcs,
      accepts_formBody_key]
    rfl
  | cons c rest ih =>
    intro pos fuel pcs hdrop hfuel hpcs
    obtain ⟨f, rfl⟩ : ∃ f, fuel = f + 1 := ⟨fuel - 1, by simp at hfuel; omega⟩
    rw [runFrom_succ_of_some (getElem?_toArray_of_drop hdrop), threads_formBody_key _ _ hpcs,
      accepts_formBody_key, advance_formBody_key, Bool.false_or]
    by_cases hc : c = '='
    · obtain ⟨g, rfl⟩ : ∃ g, f = g + 1 := ⟨f - 1, by simp at hfuel; omega⟩
      subst hc
      rw [if_pos rfl, runFrom_formBody_value]
      rfl
    · have hnext := ih (pos + 1) f [12, 12] (drop_succ_of_drop hdrop)
        (by simp at hfuel; omega) (.inr rfl)
      have hbeq : (some c == some '=') = false := by simpa using hc
      rw [if_neg hc, hnext, List.head?_cons, hbeq, Bool.false_or, eqAfterOther_cons_of_ne hc]

/-- Outside a key the search accepts exactly at an `=` after a character other than `=`. -/
theorem runFrom_formBody_start (rest : List Char) :
    ∀ pos fuel, cs.drop pos = rest → rest.length + 2 ≤ fuel →
      runFrom formBodyProgram cs.toArray fuel pos [] = eqAfterOther rest := by
  induction rest with
  | nil =>
    intro pos fuel hdrop hfuel
    obtain ⟨f, rfl⟩ : ∃ f, fuel = f + 1 := ⟨fuel - 1, by simp at hfuel; omega⟩
    rw [runFrom_succ_of_none (getElem?_toArray_of_drop hdrop), threads_formBody_start,
      accepts_formBody_start]
    rfl
  | cons c rest ih =>
    intro pos fuel hdrop hfuel
    obtain ⟨f, rfl⟩ : ∃ f, fuel = f + 1 := ⟨fuel - 1, by simp at hfuel; omega⟩
    rw [runFrom_succ_of_some (getElem?_toArray_of_drop hdrop), threads_formBody_start,
      accepts_formBody_start, advance_formBody_start, Bool.false_or]
    have hfuel' : rest.length + 2 ≤ f := by simp at hfuel; omega
    by_cases hc : c = '='
    · subst hc
      rw [if_pos rfl, ih (pos + 1) f (drop_succ_of_drop hdrop) hfuel', eqAfterOther_eq_cons]
    · rw [if_neg hc, runFrom_formBody_key rest (pos + 1) f [12] (drop_succ_of_drop hdrop) hfuel'
        (.inl rfl), eqAfterOther_cons_of_ne hc]

end Scan

theorem search_formBodyProgram (b : Bytes) :
    formBodyProgram.search b = eqAfterOther ((Bytes.pieces b).map Bytes.Piece.toChar) := by
  unfold Program.search textChars
  exact runFrom_formBody_start _ 0 _ List.drop_zero (by simp)

/-- A body matches the form body pattern exactly when some `=` in it follows an octet other than
`=`. -/
theorem formBodyProgram_search_iff (b : Bytes) : formBodyProgram.search b = true ↔ FormAdjacent b := by
  rw [search_formBodyProgram, formAdjacent_iff_eqAfterOther]

end HttpMock
