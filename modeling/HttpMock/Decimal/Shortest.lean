/-! The shortest decimal digits that round to a binary64 value. -/
namespace HttpMock.Decimal

/-- A finite binary64 value as sign, integer significand and binary exponent: `m · 2^e`. -/
structure Binary where
  negative : Bool
  mantissa : Nat
  exponent : Int
  /-- The gap below the value is half the gap above it: the significand is a power of two at
  the bottom of a binade. -/
  narrowBelow : Bool
  deriving Repr

/-- The decoded form of a float, or `none` for NaN and the infinities. -/
def Binary.ofFloat? (x : Float) : Option Binary :=
  let bits : Nat := x.toBits.toNat
  let negative : Bool := bits / Nat.pow 2 63 % 2 == 1
  let biased : Nat := bits / Nat.pow 2 52 % 2048
  let frac : Nat := bits % Nat.pow 2 52
  if biased = 2047 then none
  else if biased = 0 then some ⟨negative, frac, -1074, false⟩
  else some ⟨negative, frac + Nat.pow 2 52, (biased : Int) - 1075, frac == 0 && biased > 1⟩

/-- A decimal `0.d₁d₂…dₙ × 10^point` with `d₁ ≠ 0`, or zero when there are no digits. -/
structure Digits where
  digits : List Nat
  point : Int
  deriving Repr, BEq

/-- The decimal digits of a natural number, most significant first. -/
def natDigits (n : Nat) : List Nat := (Nat.toDigits 10 n).map fun c => c.toNat - 48

/-- `a · 2^p` and `b · 10^q` as a pair of naturals in the same unit, for comparison. -/
private def scaled (a : Nat) (p : Int) (b : Nat) (q : Int) : Nat × Nat :=
  let a1 := a * Nat.pow 2 p.toNat * Nat.pow 10 (-q).toNat
  let b1 := b * Nat.pow 10 q.toNat * Nat.pow 2 (-p).toNat
  (a1, b1)

/-- Compares `a · 2^p` with `d · 10^k`. -/
private def compareScaled (a : Nat) (p : Int) (d : Nat) (k : Int) : Ordering :=
  let (x, y) := scaled a p d k
  compare x y

/-- The largest `t` with `10^t ≤ m · 2^e`, for `m > 0`. -/
def floorLog10 (m : Nat) (e : Int) : Int :=
  let num := m * Nat.pow 2 e.toNat
  let den := Nat.pow 2 (-e).toNat
  let t : Int := ((Nat.toDigits 10 num).length : Int) - (Nat.toDigits 10 den).length
  if compareScaled m e 1 t != .lt then t else t - 1

/-- `⌊m · 2^e / 10^k⌋`. -/
private def quotient (m : Nat) (e k : Int) : Nat :=
  let (x, y) := scaled m e 1 k
  x / y

/-- Whether the decimal `d · 10^k` lies in the rounding interval of `b`. The interval runs from
`(4m - 2) · 2^(e-2)` (or `4m - 1` when the gap below is narrow) to `(4m + 2) · 2^(e-2)`, ends
included iff `m` is even. -/
private def inInterval (b : Binary) (d : Nat) (k : Int) : Bool :=
  let lo := if b.narrowBelow then 4 * b.mantissa - 1 else 4 * b.mantissa - 2
  let hi := 4 * b.mantissa + 2
  let p := b.exponent - 2
  if b.mantissa % 2 = 0 then compareScaled lo p d k != .gt && compareScaled hi p d k != .lt
  else compareScaled lo p d k == .lt && compareScaled hi p d k == .gt

/-- The distance of `d · 10^k` from `m · 2^e`, in a common unit. -/
private def distance (m : Nat) (e : Int) (d : Nat) (k : Int) : Nat :=
  let (x, y) := scaled m e d k
  if x ≤ y then y - x else x - y

/-- Trailing zero digits dropped. -/
def trimZeros (ds : List Nat) : List Nat := (ds.reverse.dropWhile (· = 0)).reverse

/-- The shortest digits of a positive finite value: tries 1, 2, … 17 significant digits and takes
the first count for which a neighbour of the value on that decimal grid lies in the rounding
interval, the nearer neighbour when both do. -/
def shortest (b : Binary) : Digits :=
  if b.mantissa = 0 then ⟨[], 0⟩
  else
    let top := floorLog10 b.mantissa b.exponent
    let pick (n : Nat) : Option (Nat × Int) :=
      let k := top - n + 1
      let d0 := quotient b.mantissa b.exponent k
      let c0 := inInterval b d0 k
      let c1 := inInterval b (d0 + 1) k
      if c0 && c1 then
        if distance b.mantissa b.exponent (d0 + 1) k < distance b.mantissa b.exponent d0 k then
          some (d0 + 1, k)
        else some (d0, k)
      else if c0 then some (d0, k)
      else if c1 then some (d0 + 1, k)
      else none
    let found := (List.range 17).findSome? fun i => pick (i + 1)
    let (d, k) := found.getD (quotient b.mantissa b.exponent (top - 16), top - 16)
    let ds := natDigits d
    ⟨trimZeros ds, k + ds.length⟩

end HttpMock.Decimal
