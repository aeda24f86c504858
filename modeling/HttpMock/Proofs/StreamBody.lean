import Mathlib.Data.Nat.Find
import HttpMock.Request.Normalize
/-! Reading a streamed body: how many reads, of what size, and when the loop stops. -/
namespace HttpMock

section Spec

variable (read : Int → Nat → Bytes) (L : Int)

/-- The octets of the first `k` reads. -/
def readBefore (k : Nat) : Bytes := ((List.range k).map (read (readSize L))).flatten

/-- The read with index `k` ends the loop: its chunk is empty, or, with a positive content length,
the reads up to it have brought at least that many octets. -/
def Stops (k : Nat) : Prop :=
  read (readSize L) k = [] ∨ (0 < L ∧ L ≤ ((readBefore read L (k + 1)).length : Int))

/-- The read with index `k` is the first that ends the loop. -/
def FirstStop (k : Nat) : Prop := Stops read L k ∧ ∀ j < k, ¬Stops read L j

end Spec

section Loop

variable {read : Int → Nat → Bytes} {L : Int}

theorem readBefore_zero : readBefore read L 0 = [] := rfl

theorem readBefore_succ (k : Nat) :
    readBefore read L (k + 1) = readBefore read L k ++ read (readSize L) k := by
  simp [readBefore, List.range_succ]

/-- One read, after the reads before it: the loop as it goes on from there. -/
theorem drainFor_succ (fuel j : Nat) :
    drainFor read L (fuel + 1) (readBefore read L j) (List.replicate j (readSize L)) =
      if (read (readSize L) j).isEmpty then
        some (readBefore read L j, List.replicate (j + 1) (readSize L))
      else if L > 0 && ((readBefore read L (j + 1)).length : Int) ≥ L then
        some (readBefore read L (j + 1), List.replicate (j + 1) (readSize L))
      else drainFor read L fuel (readBefore read L (j + 1)) (List.replicate (j + 1) (readSize L)) := by
  rw [drainFor, List.length_replicate, readBefore_succ, ← List.replicate_append_replicate,
    List.replicate_one]

/-- A read that ends the loop returns all octets read, and one size for each read. -/
theorem drainFor_of_stops {j : Nat} (h : Stops read L j) (fuel : Nat) :
    drainFor read L (fuel + 1) (readBefore read L j) (List.replicate j (readSize L)) =
      some (readBefore read L (j + 1), List.replicate (j + 1) (readSize L)) := by
  rw [drainFor_succ]
  by_cases hc : read (readSize L) j = []
  · rw [if_pos (by simp [hc]), readBefore_succ, hc, List.append_nil]
  · obtain ⟨hL, hlen⟩ := h.resolve_left hc
    rw [if_neg (by simpa using hc), if_pos (by simp [hL, hlen])]

/-- A read that does not end the loop goes on to the next. -/
theorem drainFor_of_not_stops {j : Nat} (h : ¬Stops read L j) (fuel : Nat) :
    drainFor read L (fuel + 1) (readBefore read L j) (List.replicate j (readSize L)) =
      drainFor read L fuel (readBefore read L (j + 1)) (List.replicate (j + 1) (readSize L)) := by
  have hc : read (readSize L) j ≠ [] := fun hc => h (.inl hc)
  have hlen : ¬(0 < L ∧ L ≤ ((readBefore read L (j + 1)).length : Int)) := fun hl => h (.inr hl)
  rw [drainFor_succ, if_neg (by simpa using hc), if_neg (by simpa [Int.not_le] using hlen)]

/-- From the reads before `j`, the loop ends at the next stop `k` when the reads allowed reach it. -/
theorem drainFor_of_stop_from {j k fuel : Nat} (hk : Stops read L k)
    (hbefore : ∀ i, j ≤ i → i < k → ¬Stops read L i) (hjk : j ≤ k) (hfuel : k < j + fuel) :
    drainFor read L fuel (readBefore read L j) (List.replicate j (readSize L)) =
      some (readBefore read L (k + 1), List.replicate (k + 1) (readSize L)) := by
  induction fuel generalizing j with
  | zero => omega
  | succ fuel ih =>
    rcases Nat.lt_or_ge j k with hlt | hge
    · rw [drainFor_of_not_stops (hbefore j (Nat.le_refl j) hlt)]
      exact ih (fun i hi hik => hbefore i (by omega) hik) hlt (by omega)
    · have hj : j = k := by omega
      subst hj
      exact drainFor_of_stops hk fuel

/-- Reads that do not end the loop run out of the reads allowed. -/
theorem drainFor_eq_none {j fuel : Nat} (h : ∀ i, j ≤ i → i < j + fuel → ¬Stops read L i) :
    drainFor read L fuel (readBefore read L j) (List.replicate j (readSize L)) = none := by
  induction fuel generalizing j with
  | zero => rfl
  | succ fuel ih =>
    rw [drainFor_of_not_stops (h j (Nat.le_refl j) (by omega))]
    exact ih fun i hi hif => h i (by omega) (by omega)

/-- A loop that stops somewhere has a first stop, no later than that one. -/
theorem exists_firstStop {k : Nat} (hk : Stops read L k) : ∃ k₀, k₀ ≤ k ∧ FirstStop read L k₀ := by
  classical
  have hex : ∃ k, Stops read L k := ⟨k, hk⟩
  exact ⟨Nat.find hex, Nat.find_min' hex hk, Nat.find_spec hex, fun j hj => Nat.find_min hex hj⟩

/-- The loop finishes exactly when its first stop comes within the reads allowed, with the octets
and the sizes of the reads up to it. -/
theorem drainFor_eq_some_iff {fuel : Nat} {r : Bytes × List Int} :
    drainFor read L fuel [] [] = some r ↔ ∃ k, k < fuel ∧ FirstStop read L k ∧
      r = (readBefore read L (k + 1), List.replicate (k + 1) (readSize L)) := by
  have hrun : ∀ k, k < fuel → FirstStop read L k → drainFor read L fuel [] [] =
      some (readBefore read L (k + 1), List.replicate (k + 1) (readSize L)) := fun k hk hfirst =>
    drainFor_of_stop_from (j := 0) hfirst.1 (fun i _ hi => hfirst.2 i hi)
      (Nat.zero_le k) (by omega)
  constructor
  · intro h
    -- a stop within the reads allowed exists, or the loop would run out
    have hex : ∃ k, k < fuel ∧ Stops read L k := by
      refine Classical.byContradiction fun hno => ?_
      have hnone : drainFor read L fuel (readBefore read L 0) (List.replicate 0 (readSize L)) =
          none := drainFor_eq_none fun i _ hi hs => hno ⟨i, by omega, hs⟩
      rw [readBefore_zero, List.replicate_zero, h] at hnone
      cases hnone
    obtain ⟨k, hk, hstop⟩ := hex
    obtain ⟨k₀, hle, hfirst⟩ := exists_firstStop hstop
    rw [hrun k₀ (by omega) hfirst] at h
    exact ⟨k₀, by omega, hfirst, (Option.some.inj h).symm⟩
  · rintro ⟨k, hk, hfirst, rfl⟩
    exact hrun k hk hfirst

/-- A loop with a stop before the reads allowed run out finishes, at its first stop. -/
theorem drainFor_of_stops_lt {k fuel : Nat} (hk : Stops read L k) (hfuel : k < fuel) :
    ∃ k₀, k₀ ≤ k ∧ FirstStop read L k₀ ∧
      drainFor read L fuel [] [] = some (readBefore read L (k₀ + 1), List.replicate (k₀ + 1) (readSize L)) := by
  obtain ⟨k₀, hle, hfirst⟩ := exists_firstStop hk
  exact ⟨k₀, hle, hfirst, drainFor_eq_some_iff.mpr ⟨k₀, by omega, hfirst, rfl⟩⟩

/-- Reads that do not end the loop bring at least one octet each. -/
theorem length_readBefore_ge {n : Nat} (h : ∀ i < n, ¬Stops read L i) :
    n ≤ (readBefore read L n).length := by
  induction n with
  | zero => exact Nat.zero_le _
  | succ n ih =>
    have hc : read (readSize L) n ≠ [] := fun hc => h n (by omega) (.inl hc)
    have hpos : 0 < (read (readSize L) n).length := List.length_pos_iff.mpr hc
    rw [readBefore_succ, List.length_append]
    have := ih fun i hi => h i (by omega)
    omega

/-- With a positive content length, a read within that many ends the loop. -/
theorem exists_stops_lt (hL : 0 < L) : ∃ k, k < L.toNat ∧ Stops read L k := by
  refine Classical.byContradiction fun hno => ?_
  have hnone : ∀ i < L.toNat, ¬Stops read L i := fun i hi hs => hno ⟨i, hi, hs⟩
  have hlen := length_readBefore_ge hnone
  have hlast : Stops read L (L.toNat - 1) := by
    refine .inr ⟨hL, ?_⟩
    rw [Nat.sub_add_cancel (by omega)]
    omega
  exact hnone _ (by omega) hlast

end Loop

/-- Reading a streamed body: every read asks for the content length `L` when it is positive and
for 1000 octets otherwise. With `L > 0` the loop ends within `L` reads, whatever the stream
returns, at its first stop, with the octets of all reads up to it. With `L ≤ 0` it ends exactly
when the stream returns an empty chunk, with the chunks before the first one. -/
theorem drainFor_spec (read : Int → Nat → Bytes) (L : Int) :
    (0 < L → ∃ k, k < L.toNat ∧ FirstStop read L k ∧
      drainFor read L L.toNat [] [] = some (readBefore read L (k + 1), List.replicate (k + 1) L)) ∧
    (L ≤ 0 →
      ((∃ fuel r, drainFor read L fuel [] [] = some r) ↔ ∃ i, read 1000 i = []) ∧
      ∀ fuel content asked, drainFor read L fuel [] [] = some (content, asked) →
        ∃ k, read 1000 k = [] ∧ (∀ j < k, read 1000 j ≠ []) ∧
          content = readBefore read L k ∧ asked = List.replicate (k + 1) 1000) := by
  refine ⟨fun hL => ?_, fun hL => ?_⟩
  · -- a positive length: the first stop comes within `L` reads
    have hsize : readSize L = L := if_pos hL
    obtain ⟨k, hk, hstop⟩ : ∃ k, k < L.toNat ∧ Stops read L k := exists_stops_lt hL
    obtain ⟨k₀, hle, hfirst, hrun⟩ := drainFor_of_stops_lt hstop hk
    rw [hsize] at hrun
    exact ⟨k₀, by omega, hfirst, hrun⟩
  · -- no positive length: the loop stops exactly at an empty chunk
    have hsize : readSize L = 1000 := if_neg (by omega)
    have hstops : ∀ k, Stops read L k ↔ read 1000 k = [] := fun k => by
      simp [Stops, hsize, show ¬0 < L by omega]
    refine ⟨⟨fun ⟨fuel, r, h⟩ => ?_, fun ⟨i, hi⟩ => ?_⟩, fun fuel content asked h => ?_⟩
    · obtain ⟨k, -, hfirst, -⟩ := drainFor_eq_some_iff.mp h
      exact ⟨k, (hstops k).mp hfirst.1⟩
    · obtain ⟨_, -, -, hrun⟩ := drainFor_of_stops_lt ((hstops i).mpr hi) (Nat.lt_succ_self i)
      exact ⟨i + 1, _, hrun⟩
    · obtain ⟨k, -, hfirst, hr⟩ := drainFor_eq_some_iff.mp h
      have hempty := (hstops k).mp hfirst.1
      obtain ⟨rfl, rfl⟩ := Prod.mk.inj hr
      refine ⟨k, hempty, fun j hj h0 => hfirst.2 j hj ((hstops j).mpr h0), ?_, by rw [hsize]⟩
      rw [readBefore_succ, hsize, hempty, List.append_nil]

/-- A stream that never ends, read with content length 3: it stops within three reads. -/
theorem drainFor_spec_endless :
    0 < (3 : Int) ∧ ∃ k, k < (3 : Int).toNat ∧ FirstStop (fun _ _ => [0x61, 0x62]) 3 k ∧
      drainFor (fun _ _ => [0x61, 0x62]) 3 (3 : Int).toNat [] [] =
        some (readBefore (fun _ _ => [0x61, 0x62]) 3 (k + 1), List.replicate (k + 1) 3) :=
  ⟨by decide, (drainFor_spec _ 3).1 (by decide)⟩

/-- A stream given by its chunks ends by the read after its last chunk: `drain` is the answer of
the loop. -/
theorem drainFor_chunks (chunks : List Bytes) (L : Int) :
    drainFor (fun _ i => chunks.getD i []) L (chunks.length + 1) [] [] = some (drain chunks L) := by
  have hstop : Stops (fun _ i => chunks.getD i []) L chunks.length := .inl (by simp)
  obtain ⟨_, -, -, h⟩ := drainFor_of_stops_lt hstop (Nat.lt_succ_self _)
  simp only [drain, h, Option.getD_some]

end HttpMock
