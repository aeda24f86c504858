import Mathlib
import HttpMock.Proofs.QueryRoundTrip
/-! Number literals read back, and every finite float prints as a literal. -/
namespace HttpMock.Json

/-- What may follow a number literal without being read into it: nothing, or an octet that is not
a digit, a point or an exponent mark. -/
def NumberEnd (r : Bytes) : Prop :=
  ∀ b ∈ r.head?, isDigit b = false ∧ b ≠ 0x2E ∧ b ≠ 0x65 ∧ b ≠ 0x45

theorem numberEnd_nil : NumberEnd [] := by
  simp [NumberEnd]

/-- The octets that follow a value inside an array or an object end a number literal. -/
theorem numberEnd_cons {b : UInt8} (r : Bytes) (hb : b = 0x2C ∨ b = 0x5D ∨ b = 0x7D) :
    NumberEnd (b :: r) := by
  intro x hx
  simp only [List.head?_cons, Option.mem_def, Option.some.injEq] at hx
  subst hx
  rcases hb with rfl | rfl | rfl <;> decide

/-- A successful `do` step, opened: the first computation succeeded and the rest did. -/
theorem bind_eq_ok {ε α β : Type} {x : Except ε α} {f : α → Except ε β} {b : β}
    (h : (x >>= f) = .ok b) : ∃ a, x = .ok a ∧ f a = .ok b := by
  cases x with
  | error e => cases h
  | ok a => exact ⟨a, rfl, h⟩

section Span

@[simp] theorem spanDigits_nil : spanDigits [] = ([], []) := rfl

theorem spanDigits_cons_of_digit {b : UInt8} (r : Bytes) (hb : isDigit b = true) :
    spanDigits (b :: r) = (b :: (spanDigits r).1, (spanDigits r).2) := by
  simp [spanDigits, hb]

theorem spanDigits_cons_of_not_digit {b : UInt8} (r : Bytes) (hb : isDigit b = false) :
    spanDigits (b :: r) = ([], b :: r) := by
  simp [spanDigits, hb]

/-- Digits read from a text that goes on: those of the text, and the rest after them, unless the
text is all digits and what follows starts with one. -/
theorem spanDigits_append (r rest : Bytes)
    (h : (spanDigits r).2 = [] → ∀ b ∈ rest.head?, isDigit b = false) :
    spanDigits (r ++ rest) = ((spanDigits r).1, (spanDigits r).2 ++ rest) := by
  induction r with
  | nil =>
    cases rest with
    | nil => rfl
    | cons b rest => exact spanDigits_cons_of_not_digit _ (h rfl b rfl)
  | cons b r ih =>
    cases hb : isDigit b
    · rw [List.cons_append, spanDigits_cons_of_not_digit _ hb, spanDigits_cons_of_not_digit _ hb]
      rfl
    · rw [spanDigits_cons_of_digit _ hb] at h
      rw [List.cons_append, spanDigits_cons_of_digit _ hb, spanDigits_cons_of_digit _ hb, ih h]

end Span

section Stages

variable {r p r' rest : Bytes}

theorem readSign_append (hr : r ≠ []) : readSign (r ++ rest) = ((readSign r).1, (readSign r).2 ++ rest) := by
  match r, hr with
  | b :: r, _ =>
    by_cases hb : b = 0x2D
    · subst hb
      rfl
    · simp [readSign, hb]

theorem readIntPart_append (h : readIntPart r = .ok (p, r')) (hend : r' = [] → NumberEnd rest) :
    readIntPart (r ++ rest) = .ok (p, r' ++ rest) := by
  match r with
  | [] => cases h
  | b :: r =>
    by_cases hzero : b = 0x30
    · subst hzero
      simp only [readIntPart, pure, Except.pure, Except.ok.injEq, Prod.mk.injEq] at h
      obtain ⟨rfl, rfl⟩ := h
      rfl
    · by_cases hb : isDigit b = true
      · simp only [readIntPart, hb, if_true, pure, Except.pure, Except.ok.injEq, Prod.mk.injEq] at h
        obtain ⟨rfl, rfl⟩ := h
        have hspan := spanDigits_append r rest fun h b hb => (hend h b hb).1
        simp [readIntPart, hb, hspan, pure, Except.pure]
      · simp [readIntPart, hb, throw, throwThe, MonadExceptOf.throw] at h

theorem readFraction_of_ne {b : UInt8} (r : Bytes) (hb : b ≠ 0x2E) :
    readFraction (b :: r) = .ok ([], b :: r) := by
  simp [readFraction, hb, pure, Except.pure]

theorem readFraction_append (h : readFraction r = .ok (p, r')) (hend : r' = [] → NumberEnd rest) :
    readFraction (r ++ rest) = .ok (p, r' ++ rest) := by
  match r with
  | [] =>
    simp only [readFraction, pure, Except.pure, Except.ok.injEq, Prod.mk.injEq] at h
    obtain ⟨rfl, rfl⟩ := h
    cases rest with
    | nil => rfl
    | cons b rest => exact readFraction_of_ne _ (hend rfl b rfl).2.1
  | b :: r =>
    by_cases hpoint : b = 0x2E
    · subst hpoint
      match r with
      | [] => simp [readFraction, throw, throwThe, MonadExceptOf.throw] at h
      | c :: r =>
        by_cases hc : isDigit c = true
        · simp only [readFraction, hc, if_true, pure, Except.pure, Except.ok.injEq,
            Prod.mk.injEq] at h
          obtain ⟨rfl, rfl⟩ := h
          have hspan := spanDigits_append (c :: r) rest fun h b hb => (hend h b hb).1
          simp only [List.cons_append] at hspan ⊢
          simp only [readFraction, hc, if_true, hspan, pure, Except.pure]
        · simp [readFraction, hc, throw, throwThe, MonadExceptOf.throw] at h
    · rw [readFraction_of_ne _ hpoint, Except.ok.injEq, Prod.mk.injEq] at h
      obtain ⟨rfl, rfl⟩ := h
      exact readFraction_of_ne _ hpoint

theorem readExponent_of_ne {e : UInt8} (r : Bytes) (he : e ≠ 0x65 ∧ e ≠ 0x45) :
    readExponent (e :: r) = .ok ([], e :: r) := by
  simp [readExponent, he.1, he.2, pure, Except.pure]

theorem readExponent_signed {e s b : UInt8} (t : Bytes) (he : e = 0x65 ∨ e = 0x45)
    (hs : s = 0x2B ∨ s = 0x2D) (hb : isDigit b = true) :
    readExponent (e :: s :: b :: t) = .ok ([e, s] ++ (spanDigits (b :: t)).1, (spanDigits (b :: t)).2) := by
  rcases he with rfl | rfl <;> rcases hs with rfl | rfl <;> simp [readExponent, hb, pure, Except.pure]

theorem readExponent_unsigned {e b : UInt8} (t : Bytes) (he : e = 0x65 ∨ e = 0x45)
    (hb : isDigit b = true) :
    readExponent (e :: b :: t) = .ok ([e] ++ (spanDigits (b :: t)).1, (spanDigits (b :: t)).2) := by
  have hsign : b ≠ 0x2B ∧ b ≠ 0x2D := by
    simp only [isDigit, Bool.and_eq_true, decide_eq_true_eq] at hb
    constructor <;> rintro rfl <;> simp at hb
  rcases he with rfl | rfl <;> simp [readExponent, hb, hsign.1, hsign.2, pure, Except.pure]

theorem readExponent_append (h : readExponent r = .ok (p, r')) (hend : r' = [] → NumberEnd rest) :
    readExponent (r ++ rest) = .ok (p, r' ++ rest) := by
  match r with
  | [] =>
    simp only [readExponent, pure, Except.pure, Except.ok.injEq, Prod.mk.injEq] at h
    obtain ⟨rfl, rfl⟩ := h
    cases rest with
    | nil => rfl
    | cons b rest =>
      have hb := hend rfl b rfl
      exact readExponent_of_ne _ ⟨hb.2.2.1, hb.2.2.2⟩
  | e :: r =>
    by_cases he : e = 0x65 ∨ e = 0x45
    · match r with
      | [] => rcases he with rfl | rfl <;> simp [readExponent, throw, throwThe, MonadExceptOf.throw] at h
      | s :: t =>
        have hspan := fun (c : UInt8) (t' : Bytes) => spanDigits_append (c :: t') rest
        by_cases hs : s = 0x2B ∨ s = 0x2D
        · match t with
          | [] =>
            rcases he with rfl | rfl <;> rcases hs with rfl | rfl <;>
              simp [readExponent, throw, throwThe, MonadExceptOf.throw] at h
          | b :: t =>
            by_cases hb : isDigit b = true
            · rw [readExponent_signed _ he hs hb, Except.ok.injEq, Prod.mk.injEq] at h
              obtain ⟨rfl, rfl⟩ := h
              simp only [List.cons_append]
              rw [readExponent_signed _ he hs hb, ← List.cons_append,
                hspan b t fun h x hx => (hend h x hx).1]
              rfl
            · rcases he with rfl | rfl <;> rcases hs with rfl | rfl <;>
                simp [readExponent, hb, throw, throwThe, MonadExceptOf.throw] at h
        · by_cases hb : isDigit s = true
          · rw [readExponent_unsigned _ he hb, Except.ok.injEq, Prod.mk.injEq] at h
            obtain ⟨rfl, rfl⟩ := h
            simp only [List.cons_append]
            rw [readExponent_unsigned _ he hb, ← List.cons_append,
              hspan s t fun h x hx => (hend h x hx).1]
            rfl
          · rcases he with rfl | rfl <;> simp [readExponent, hs, hb, throw, throwThe,
              MonadExceptOf.throw] at h
    · have hne : e ≠ 0x65 ∧ e ≠ 0x45 := not_or.1 he
      rw [readExponent_of_ne _ hne, Except.ok.injEq, Prod.mk.injEq] at h
      obtain ⟨rfl, rfl⟩ := h
      exact readExponent_of_ne _ hne

end Stages

/-- A literal read whole is read the same, and only so far, when octets that end a number follow
it. -/
theorem readNumber_append {bs rest : Bytes} {t : String} (h : readNumber bs = .ok (t, []))
    (hend : NumberEnd rest) : readNumber (bs ++ rest) = .ok (t, rest) := by
  rcases hs : readSign bs with ⟨sign, r1⟩
  simp only [readNumber, hs] at h
  obtain ⟨⟨int, r2⟩, hint, h⟩ := bind_eq_ok h
  dsimp only at h
  obtain ⟨⟨frac, r3⟩, hfrac, h⟩ := bind_eq_ok h
  dsimp only at h
  obtain ⟨⟨ex, r4⟩, hex, h⟩ := bind_eq_ok h
  simp only [pure, Except.pure, Except.ok.injEq, Prod.mk.injEq] at h
  obtain ⟨rfl, rfl⟩ := h
  have hne : bs ≠ [] := by
    rintro rfl
    simp only [readSign, Prod.mk.injEq] at hs
    obtain ⟨-, rfl⟩ := hs
    cases hint
  have hend' : ∀ r : Bytes, r = [] → NumberEnd rest := fun _ _ => hend
  simp only [readNumber, readSign_append hne, hs, bind, Except.bind,
    readIntPart_append hint (hend' _), readFraction_append hfrac (hend' _),
    readExponent_append hex (hend' _), List.nil_append, pure, Except.pure]

/-! ### The grammar of a literal -/

/-- Octets that are all ASCII digits. -/
def AllDigits (ds : Bytes) : Prop := ∀ b ∈ ds, isDigit b = true

/-- The integer part of a literal: `0`, or digits that do not start with `0`. -/
def IntPart (int : Bytes) : Prop :=
  int = [0x30] ∨ ∃ d ds, int = d :: ds ∧ isDigit d = true ∧ d ≠ 0x30 ∧ AllDigits ds

/-- The fraction of a literal: none, or `.` and at least one digit. -/
def FracPart (frac : Bytes) : Prop := frac = [] ∨ ∃ ds, frac = 0x2E :: ds ∧ ds ≠ [] ∧ AllDigits ds

/-- The exponent of a literal: none, or `e` or `E`, an optional sign and at least one digit. -/
def ExpPart (ex : Bytes) : Prop :=
  ex = [] ∨ ∃ e s ds, ex = e :: s ++ ds ∧ (e = 0x65 ∨ e = 0x45) ∧ (s = [] ∨ s = [0x2B] ∨ s = [0x2D]) ∧
    ds ≠ [] ∧ AllDigits ds

theorem spanDigits_of_allDigits {ds : Bytes} (r : Bytes) (hds : AllDigits ds)
    (hr : ∀ b ∈ r.head?, isDigit b = false) : spanDigits (ds ++ r) = (ds, r) := by
  simp only [spanDigits, List.takeWhile_append_of_pos hds, List.dropWhile_append_of_pos hds]
  cases r with
  | nil => simp
  | cons b r => simp [hr b rfl]

section Parts

variable {int frac ex y r : Bytes}

theorem readIntPart_of_intPart (hint : IntPart int) (hy : ∀ b ∈ y.head?, isDigit b = false) :
    readIntPart (int ++ y) = .ok (int, y) := by
  rcases hint with rfl | ⟨d, ds, rfl, hd, hd0, hds⟩
  · rfl
  · simp [readIntPart, hd, spanDigits_of_allDigits y hds hy, pure, Except.pure]

theorem readFraction_of_fracPart (hfrac : FracPart frac)
    (hy : ∀ b ∈ y.head?, isDigit b = false ∧ (frac = [] → b ≠ 0x2E)) :
    readFraction (frac ++ y) = .ok (frac, y) := by
  rcases hfrac with rfl | ⟨ds, rfl, hne, hds⟩
  · cases y with
    | nil => rfl
    | cons b y => exact readFraction_of_ne _ ((hy b rfl).2 rfl)
  · obtain ⟨d, ds, rfl⟩ := List.exists_cons_of_ne_nil hne
    have hd : isDigit d = true := hds d List.mem_cons_self
    have hspan := spanDigits_of_allDigits y hds fun b hb => (hy b hb).1
    simp only [List.cons_append] at hspan ⊢
    simp [readFraction, hd, hspan, pure, Except.pure]

theorem readExponent_of_expPart (hex : ExpPart ex) (hr : NumberEnd r) :
    readExponent (ex ++ r) = .ok (ex, r) := by
  rcases hex with rfl | ⟨e, sg, ds, rfl, he, hsg, hne, hds⟩
  · cases r with
    | nil => rfl
    | cons b r =>
      have hb := hr b rfl
      exact readExponent_of_ne _ ⟨hb.2.2.1, hb.2.2.2⟩
  · obtain ⟨d, ds', rfl⟩ := List.exists_cons_of_ne_nil hne
    have hd : isDigit d = true := hds d List.mem_cons_self
    have hspan := spanDigits_of_allDigits r hds fun b hb => (hr b hb).1
    simp only [List.cons_append] at hspan
    rcases hsg with rfl | rfl | rfl
    · simp only [List.nil_append, List.cons_append]
      rw [readExponent_unsigned _ he hd, hspan]
      rfl
    · simp only [List.cons_append, List.nil_append]
      rw [readExponent_signed _ he (.inl rfl) hd, hspan]
      rfl
    · simp only [List.cons_append, List.nil_append]
      rw [readExponent_signed _ he (.inr rfl) hd, hspan]
      rfl

/-- After the integer part of a literal comes a point, an exponent mark or an octet that ends
the number, never a digit. -/
theorem head_not_digit (hfrac : FracPart frac) (hex : ExpPart ex) (hr : NumberEnd r) :
    ∀ b ∈ (frac ++ ex ++ r).head?, isDigit b = false := by
  rcases hfrac with rfl | ⟨ds, rfl, -, -⟩
  · rcases hex with rfl | ⟨e, sg, ds, rfl, he, -, -, -⟩
    · exact fun b hb => (hr b hb).1
    · intro b hb
      simp only [List.nil_append, List.cons_append, List.head?_cons, Option.mem_def,
        Option.some.injEq] at hb
      subst hb
      rcases he with rfl | rfl <;> rfl
  · intro b hb
    simp only [List.cons_append, List.head?_cons, Option.mem_def, Option.some.injEq] at hb
    subst hb
    rfl

end Parts

/-- A literal made of a sign, an integer part, a fraction and an exponent is read whole, up to
octets that end a number. -/
theorem readNumber_parts {sign int frac ex r : Bytes} (hsign : sign = [] ∨ sign = [0x2D])
    (hint : IntPart int) (hfrac : FracPart frac) (hex : ExpPart ex) (hr : NumberEnd r) :
    readNumber (sign ++ int ++ frac ++ ex ++ r) =
      .ok (Bytes.toText (sign ++ int ++ frac ++ ex), r) := by
  have hsign' : readSign (sign ++ (int ++ (frac ++ (ex ++ r)))) = (sign, int ++ (frac ++ (ex ++ r))) := by
    rcases hsign with rfl | rfl
    · rcases hint with rfl | ⟨d, ds, rfl, hd, -, -⟩
      · rfl
      · have hne : d ≠ 0x2D := by rintro rfl; simp [isDigit] at hd
        simp [readSign, hne]
    · rfl
  have hfrac' : ∀ b ∈ (ex ++ r).head?, isDigit b = false ∧ (frac = [] → b ≠ 0x2E) := by
    rcases hex with rfl | ⟨e, sg, ds, rfl, he, -, -, -⟩
    · exact fun b hb => ⟨(hr b hb).1, fun _ => (hr b hb).2.1⟩
    · intro b hb
      simp only [List.cons_append, List.head?_cons, Option.mem_def, Option.some.injEq] at hb
      subst hb
      rcases he with rfl | rfl <;> exact ⟨rfl, fun _ => by decide⟩
  simp only [readNumber, List.append_assoc, hsign', bind, Except.bind]
  rw [readIntPart_of_intPart hint (by simpa only [List.append_assoc] using head_not_digit hfrac hex hr)]
  dsimp only
  rw [readFraction_of_fracPart hfrac hfrac']
  dsimp only
  rw [readExponent_of_expPart hex hr]
  rfl

end HttpMock.Json

/-! ### Printed digits -/

namespace HttpMock.Decimal

/-- The octet of a decimal digit. -/
def digitOctet (d : Nat) : UInt8 := UInt8.ofNat (48 + d)

theorem digitOctet_zero : digitOctet 0 = 0x30 := rfl

theorem isDigit_digitOctet : ∀ d, d < 10 → Json.isDigit (digitOctet d) = true := by
  decide

theorem digitOctet_ne_zero : ∀ d, d < 10 → d ≠ 0 → digitOctet d ≠ 0x30 := by
  decide

theorem toBytes_digitText {ds : List Nat} (h : ∀ d ∈ ds, d < 10) :
    (digitText ds).toBytes = ds.map digitOctet := by
  induction ds with
  | nil => rfl
  | cons d ds ih =>
    have hd : String.utf8EncodeChar (Char.ofNat (48 + d)) = [digitOctet d] :=
      utf8EncodeChar_ofNat_ascii _ (by have := h d List.mem_cons_self; omega)
    have hds := ih fun d' hd' => h d' (List.mem_cons_of_mem _ hd')
    simp only [digitText, String.toBytes, String.toList_ofList, List.map_cons, List.flatMap_cons,
      hd] at hds ⊢
    rw [hds]
    rfl

theorem digitText_append (ds es : List Nat) : digitText (ds ++ es) = digitText ds ++ digitText es := by
  simp [digitText, String.ofList_append]

theorem ofList_replicate_zero (n : Nat) :
    String.ofList (List.replicate n '0') = digitText (List.replicate n 0) := by
  simp [digitText, List.map_replicate]

/-- A decimal digit character is the character of its value. -/
theorem ofNat_digit {c : Char} (h : c.isDigit = true) : Char.ofNat (48 + (c.toNat - 48)) = c := by
  simp only [Char.isDigit, Bool.and_eq_true, decide_eq_true_eq] at h
  have hc : 48 ≤ c.toNat ∧ c.toNat ≤ 57 := ⟨h.1, h.2⟩
  apply Char.toNat_inj.mp
  rw [Char.toNat_ofNat, if_pos (by omega)]
  omega

theorem digitText_natDigits (n : Nat) : digitText (natDigits n) = toString n := by
  have hcs : ∀ c ∈ Nat.toDigits 10 n, Char.ofNat (48 + (c.toNat - 48)) = c := fun c hc =>
    ofNat_digit (Nat.isDigit_of_mem_toDigits (by decide) (by decide) hc)
  rw [Nat.toString_eq_ofList_toDigits, digitText, natDigits, List.map_map]
  congr 1
  exact (List.map_congr_left hcs).trans (List.map_id _)

theorem natDigits_lt {n d : Nat} (h : d ∈ natDigits n) : d < 10 := by
  obtain ⟨c, hc, rfl⟩ := List.mem_map.1 h
  have := Nat.isDigit_of_mem_toDigits (by decide) (by decide) hc
  simp only [Char.isDigit, Bool.and_eq_true, decide_eq_true_eq] at this
  change c.toNat - 48 < 10
  have h1 : c.val.toNat ≤ 57 := this.2
  simp only [Char.toNat] at *
  omega

theorem natDigits_ne_nil (n : Nat) : natDigits n ≠ [] := by
  simp [natDigits, Nat.toDigits_ne_nil]

/-- The leading digit of a positive number is not zero. -/
theorem head_natDigits {n : Nat} (h : 0 < n) : (natDigits n).head? ≠ some 0 := by
  induction n using Nat.strong_induction_on with
  | _ n ih =>
    rw [natDigits, Nat.toDigits_eq_if (by decide)]
    split
    · rename_i hn
      simp [Nat.toNat_digitChar_of_lt_ten hn]
      omega
    · rename_i hn
      have hq : 0 < n / 10 := by omega
      have hhead := ih (n / 10) (by omega) hq
      rw [natDigits] at hhead
      obtain ⟨c, cs, hcs⟩ := List.exists_cons_of_ne_nil (Nat.toDigits_ne_nil (n := n / 10) (b := 10))
      rw [hcs] at hhead ⊢
      simpa using hhead

theorem trimZeros_cons_of_ne {d : Nat} (ds : List Nat) (hd : d ≠ 0) :
    trimZeros (d :: ds) = d :: trimZeros ds := by
  simp only [trimZeros, List.reverse_cons, List.dropWhile_append]
  split
  · rename_i hnil
    simp only [List.isEmpty_iff] at hnil
    simp [hnil, hd]
  · simp

theorem mem_of_mem_trimZeros {d : Nat} {ds : List Nat} (h : d ∈ trimZeros ds) : d ∈ ds := by
  simp only [trimZeros, List.mem_reverse] at h
  exact List.mem_reverse.1 ((List.dropWhile_sublist _).subset h)

/-- The shortest digits are decimal digits, and the first of them is not zero. -/
theorem shortest_digits (b : Binary) :
    (∀ d ∈ (shortest b).digits, d < 10) ∧ (shortest b).digits.head? ≠ some 0 := by
  unfold shortest
  split
  · simp
  · dsimp only
    generalize (Option.getD _ _) = dk
    obtain ⟨d, k⟩ := dk
    dsimp only
    refine ⟨fun x hx => natDigits_lt (mem_of_mem_trimZeros hx), ?_⟩
    rcases Nat.eq_zero_or_pos d with rfl | hd
    · simp [natDigits, trimZeros]
    · have hhead := head_natDigits hd
      obtain ⟨c, cs, hcs⟩ := List.exists_cons_of_ne_nil (natDigits_ne_nil d)
      rw [hcs] at hhead ⊢
      have hc : c ≠ 0 := by simpa using hhead
      simp [trimZeros_cons_of_ne cs hc, hc]

/-- A float with a decoded form is neither NaN nor infinite: its exponent field is not all ones. -/
theorem finite_of_ofFloat? {x : Float} {b : Binary} (h : Binary.ofFloat? x = some b) :
    x.isNaN = false ∧ x.isInf = false := by
  have hexp : x.toBits.toNat / Nat.pow 2 52 % 2048 ≠ 2047 := by
    intro he
    simp [Binary.ofFloat?, he] at h
  have hvec : @Float.Model.UnpackedFloat.unpackExponent .binary64 x.toModel.toBits.toBitVec ≠
      -1#11 := by
    intro hv
    apply hexp
    have hnat := congrArg BitVec.toNat hv
    simp [Float.Model.UnpackedFloat.unpackExponent] at hnat
    rw [Nat.shiftRight_eq_div_pow] at hnat
    exact hnat
  simp only [Float.isNaN, Float.isInf, Float.Model.isNaN, Float.Model.isInf, Float.Model.unpack,
    Float.Model.UnpackedFloat.unpack]
  rw [if_neg hvec]
  split
  · split <;> simp [Float.Model.UnpackedFloat.isNaN, Float.Model.UnpackedFloat.isInf]
  · simp [Float.Model.UnpackedFloat.isNaN, Float.Model.UnpackedFloat.isInf]

/-- A float that is printed is finite. -/
theorem finite_of_jsonText {x : Float} {t : String} (h : jsonText? x = some t) :
    x.isNaN = false ∧ x.isInf = false := by
  cases hb : Binary.ofFloat? x with
  | none => simp [jsonText?, hb] at h
  | some b => exact finite_of_ofFloat? hb

end HttpMock.Decimal

namespace HttpMock.Json

open Decimal

/-! ### Printed floats are literals -/

/-- A number literal without its sign: an integer part, a fraction and an exponent. -/
def UnsignedLiteral (bs : Bytes) : Prop :=
  ∃ int frac ex, bs = int ++ frac ++ ex ∧ IntPart int ∧ FracPart frac ∧ ExpPart ex

theorem allDigits_map {ds : List Nat} (h : ∀ d ∈ ds, d < 10) : AllDigits (ds.map digitOctet) := by
  intro b hb
  obtain ⟨d, hd, rfl⟩ := List.mem_map.1 hb
  exact isDigit_digitOctet d (h d hd)

/-- Digits make an integer part when they are `0` alone or do not start with `0`. -/
theorem intPart_digits {ds : List Nat} (h : ∀ d ∈ ds, d < 10) (hne : ds ≠ [])
    (hhead : ds = [0] ∨ ds.head? ≠ some 0) : IntPart (ds.map digitOctet) := by
  rcases hhead with rfl | hhead
  · exact .inl rfl
  · obtain ⟨d, ds, rfl⟩ := List.exists_cons_of_ne_nil hne
    have hd : d < 10 := h d List.mem_cons_self
    exact .inr ⟨_, _, rfl, isDigit_digitOctet d hd, digitOctet_ne_zero d hd (by simpa using hhead),
      allDigits_map fun x hx => h x (List.mem_cons_of_mem _ hx)⟩

theorem fracPart_digits {ds : List Nat} (h : ∀ d ∈ ds, d < 10) (hne : ds ≠ []) :
    FracPart (0x2E :: ds.map digitOctet) :=
  .inr ⟨_, rfl, by simpa using hne, allDigits_map h⟩

theorem unsignedLiteral_zero : UnsignedLiteral "0".toBytes :=
  ⟨[0x30], [], [], rfl, .inl rfl, .inl rfl, .inl rfl⟩

section Layout

variable {d : Digits} (hlt : ∀ x ∈ d.digits, x < 10) (hne : d.digits ≠ [])
include hlt hne

theorem unsignedLiteral_positional (hhead : d.digits.head? ≠ some 0) :
    UnsignedLiteral (positional d).toBytes := by
  have hz : ∀ n, ∀ x ∈ List.replicate n 0, x < 10 := fun n x hx => by
    rw [List.eq_of_mem_replicate hx]
    decide
  have happ : ∀ n, ∀ x ∈ List.replicate n 0 ++ d.digits, x < 10 := fun n x hx => by
    rcases List.mem_append.1 hx with h | h
    exacts [hz n x h, hlt x h]
  have happ' : ∀ n, ∀ x ∈ d.digits ++ List.replicate n 0, x < 10 := fun n x hx => by
    rcases List.mem_append.1 hx with h | h
    exacts [hlt x h, hz n x h]
  rw [positional, if_neg (by simpa using hne)]
  dsimp only
  split_ifs with hp hp'
  · refine ⟨[0x30], 0x2E :: (List.replicate (-d.point).toNat 0 ++ d.digits).map digitOctet, [],
      ?_, .inl rfl, fracPart_digits (happ _) (by simp [hne]), .inl rfl⟩
    rw [String.toBytes_append, String.toBytes_append, ofList_replicate_zero,
      toBytes_digitText (hz _), toBytes_digitText hlt]
    simp
    rfl
  · have hlen : 0 < d.digits.length := List.length_pos_of_ne_nil hne
    have htake : ∀ x ∈ d.digits.take d.point.toNat, x < 10 := fun x hx => hlt x (List.mem_of_mem_take hx)
    have hdrop : ∀ x ∈ d.digits.drop d.point.toNat, x < 10 := fun x hx => hlt x (List.mem_of_mem_drop hx)
    refine ⟨(d.digits.take d.point.toNat).map digitOctet,
      0x2E :: (d.digits.drop d.point.toNat).map digitOctet, [], ?_,
      intPart_digits htake ?_ (.inr ?_), fracPart_digits hdrop ?_, .inl rfl⟩
    · have hpt : ".".toBytes = [0x2E] := rfl
      rw [String.toBytes_append, String.toBytes_append, toBytes_digitText htake, toBytes_digitText hdrop,
        hpt]
      simp
    · rw [Ne, List.take_eq_nil_iff, not_or]
      exact ⟨by omega, hne⟩
    · rwa [List.head?_take, if_neg (by omega)]
    · rw [Ne, List.drop_eq_nil_iff]
      omega
  · refine ⟨(d.digits ++ List.replicate (d.point.toNat - d.digits.length) 0).map digitOctet, [], [],
      ?_, intPart_digits (happ' _) (by simp [hne]) (.inr ?_), .inl rfl, .inl rfl⟩
    · rw [String.toBytes_append, ofList_replicate_zero, toBytes_digitText hlt, toBytes_digitText (hz _)]
      simp
    · obtain ⟨x, xs, hx⟩ := List.exists_cons_of_ne_nil hne
      rw [hx] at hhead ⊢
      exact hhead

theorem unsignedLiteral_scientific : UnsignedLiteral (scientific d).toBytes := by
  obtain ⟨first, rest, hd⟩ := List.exists_cons_of_ne_nil hne
  have hfirst : ∀ x ∈ [first], x < 10 := by simpa using hlt first (hd ▸ List.mem_cons_self)
  have hrest : ∀ x ∈ rest, x < 10 := fun x hx => hlt x (hd ▸ List.mem_cons_of_mem _ hx)
  have hint : IntPart [digitOctet first] := by
    refine intPart_digits hfirst (by simp) ?_
    by_cases h0 : first = 0
    · exact .inl (by rw [h0])
    · exact .inr (by simpa using h0)
  have hexp : ExpPart (0x65 :: (if d.point - 1 < 0 then [0x2D] else [0x2B]) ++
      (natDigits (d.point - 1).natAbs).map digitOctet) :=
    .inr ⟨0x65, _, _, rfl, .inl rfl, by split <;> simp, by simp [natDigits_ne_nil],
      allDigits_map fun x hx => natDigits_lt hx⟩
  have hsign : (if d.point - 1 < 0 then "-" else "+").toBytes =
      if d.point - 1 < 0 then [0x2D] else [0x2B] := by
    split <;> rfl
  have hnum : (toString (d.point - 1).natAbs).toBytes =
      (natDigits (d.point - 1).natAbs).map digitOctet := by
    rw [← digitText_natDigits, toBytes_digitText fun x hx => natDigits_lt hx]
  have he : "e".toBytes = [0x65] := rfl
  have hpt : ".".toBytes = [0x2E] := rfl
  rw [scientific]
  split
  · rename_i h
    exact absurd h hne
  · rename_i first' rest' h
    rw [hd, List.cons.injEq] at h
    obtain ⟨rfl, rfl⟩ := h
    dsimp only
    split
    · refine ⟨[digitOctet first], [], _, ?_, hint, .inl rfl, hexp⟩
      simp only [String.toBytes_append, toBytes_digitText hfirst, hsign, hnum, he]
      simp
    · rename_i hr
      refine ⟨[digitOctet first], 0x2E :: rest.map digitOctet, _, ?_, hint,
        fracPart_digits hrest (by simpa using hr), hexp⟩
      simp only [String.toBytes_append, toBytes_digitText hfirst, toBytes_digitText hrest, hsign,
        hnum, he, hpt]
      simp

end Layout

/-- A sign followed by an unsigned literal is a literal. -/
theorem isNumberLiteral_of_parts {sign body : String} (hsign : sign = "" ∨ sign = "-")
    (hbody : UnsignedLiteral body.toBytes) : isNumberLiteral (sign ++ body) := by
  obtain ⟨int, frac, ex, heq, hint, hfrac, hex⟩ := hbody
  have hs : sign.toBytes = [] ∨ sign.toBytes = [0x2D] := by
    rcases hsign with rfl | rfl
    exacts [.inl rfl, .inr rfl]
  have h := readNumber_parts hs hint hfrac hex numberEnd_nil
  rw [List.append_nil] at h
  rw [isNumberLiteral, String.toBytes_append, heq, ← List.append_assoc, ← List.append_assoc, h]

/-- Every finite float is printed as a number literal. -/
theorem isNumberLiteral_jsonText {x : Float} {t : String} (h : jsonText? x = some t) :
    isNumberLiteral t := by
  cases hb : Binary.ofFloat? x with
  | none => simp [jsonText?, hb] at h
  | some b =>
    simp only [jsonText?, hb, Option.bind_eq_bind, Option.bind_some, Option.pure_def,
      Option.some.injEq] at h
    subst h
    obtain ⟨hlt, hhead⟩ := shortest_digits b
    refine isNumberLiteral_of_parts (by split <;> simp) ?_
    split_ifs with h0 hsci
    · exact unsignedLiteral_zero
    · exact unsignedLiteral_scientific hlt (by simpa using h0)
    · exact unsignedLiteral_positional hlt (by simpa using h0) hhead

/-! ### Reading a literal back -/

theorem readSign_eq (bs : Bytes) : bs = (readSign bs).1 ++ (readSign bs).2 := by
  unfold readSign
  split <;> rfl

theorem spanDigits_eq (bs : Bytes) : bs = (spanDigits bs).1 ++ (spanDigits bs).2 :=
  (List.takeWhile_append_dropWhile).symm

theorem readIntPart_eq {bs p r : Bytes} (h : readIntPart bs = .ok (p, r)) : bs = p ++ r := by
  unfold readIntPart at h
  split at h
  · cases h
    rfl
  · split at h
    · cases h
      rw [List.cons_append, ← spanDigits_eq]
    · cases h
  · cases h

theorem readFraction_eq {bs p r : Bytes} (h : readFraction bs = .ok (p, r)) : bs = p ++ r := by
  unfold readFraction at h
  split at h
  · split at h
    · split at h
      · cases h
        rw [List.cons_append, ← spanDigits_eq]
      · cases h
    · cases h
  · cases h
    rfl

theorem readExponent_eq {bs p r : Bytes} (h : readExponent bs = .ok (p, r)) : bs = p ++ r := by
  unfold readExponent at h
  split at h
  · rename_i e rest
    split at h
    · split at h
      rename_i es r' hm
      have hpre : e :: rest = es ++ r' := by
        split at hm
        · split at hm <;> (cases hm; rfl)
        · cases hm
          rfl
      split at h
      · split at h
        · cases h
          rw [hpre, List.append_assoc, ← spanDigits_eq]
        · cases h
      · cases h
    · cases h
      rfl
  · cases h
    rfl

/-- What the reader returns is the text of the octets it consumed. -/
theorem readNumber_eq {bs r : Bytes} {t : String} (h : readNumber bs = .ok (t, r)) :
    ∃ c, bs = c ++ r ∧ t = Bytes.toText c := by
  rcases hs : readSign bs with ⟨sign, r1⟩
  simp only [readNumber, hs] at h
  obtain ⟨⟨int, r2⟩, hi, h⟩ := bind_eq_ok h
  dsimp only at h
  obtain ⟨⟨frac, r3⟩, hf, h⟩ := bind_eq_ok h
  dsimp only at h
  obtain ⟨⟨ex, r4⟩, he, h⟩ := bind_eq_ok h
  cases h
  refine ⟨sign ++ int ++ frac ++ ex, ?_, rfl⟩
  rw [readSign_eq bs, hs, readIntPart_eq hi, readFraction_eq hf, readExponent_eq he]
  simp

/-- A literal is read back whole, up to octets that end a number. -/
theorem readNumber_literal {t : String} {r : Bytes} (h : isNumberLiteral t) (hr : NumberEnd r) :
    readNumber (t.toBytes ++ r) = .ok (t, r) := by
  unfold isNumberLiteral at h
  split at h
  · rename_i t' heq
    obtain ⟨c, hc, rfl⟩ := readNumber_eq heq
    rw [List.append_nil] at hc
    rw [readNumber_append heq hr, ← hc, Bytes.toText_toBytes]
  · cases h

/-- A literal starts with a sign or a digit. -/
theorem isNumberLiteral_head {t : String} (h : isNumberLiteral t) :
    ∃ b r, t.toBytes = b :: r ∧ (b = 0x2D ∨ isDigit b = true) := by
  unfold isNumberLiteral at h
  split at h
  · rename_i t' heq
    cases hbs : t.toBytes with
    | nil =>
      rw [hbs] at heq
      simp [readNumber, readSign, readIntPart, bind, Except.bind, throw, throwThe,
        MonadExceptOf.throw] at heq
    | cons b r =>
      refine ⟨b, r, rfl, ?_⟩
      by_cases hb : b = 0x2D
      · exact .inl hb
      · right
        rw [hbs] at heq
        have hs : readSign (b :: r) = ([], b :: r) := by simp [readSign, hb]
        simp only [readNumber, hs] at heq
        obtain ⟨⟨int, r2⟩, hi, -⟩ := bind_eq_ok heq
        unfold readIntPart at hi
        split at hi
        · rename_i hcons
          obtain ⟨rfl, -⟩ := List.cons.inj hcons
          rfl
        · split at hi
          · rename_i hcons hd
            obtain ⟨rfl, -⟩ := List.cons.inj hcons
            exact hd
          · cases hi
        · cases hi
  · cases h

end HttpMock.Json
