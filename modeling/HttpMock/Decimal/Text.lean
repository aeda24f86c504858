import HttpMock.Decimal.Shortest
/-! Decimal text of binary64 values, and reading decimal literals back to the nearest value. -/
namespace HttpMock.Decimal

/-- The digit characters of a digit list. -/
def digitText (ds : List Nat) : String := String.ofList (ds.map fun d => Char.ofNat (48 + d))

/-- Positional layout of shortest digits: no exponent, no trailing zeros after the point. -/
def positional (d : Digits) : String :=
  if d.digits.isEmpty then "0"
  else
    let n := d.digits.length
    if d.point ≤ 0 then "0." ++ String.ofList (List.replicate (-d.point).toNat '0') ++ digitText d.digits
    else if d.point < n then
      digitText (d.digits.take d.point.toNat) ++ "." ++ digitText (d.digits.drop d.point.toNat)
    else digitText d.digits ++ String.ofList (List.replicate (d.point.toNat - n) '0')

/-- Exponent layout of shortest digits, `d.ddde±x`, with at least one exponent digit. -/
def scientific (d : Digits) : String :=
  match d.digits with
  | [] => "0e+00"
  | first :: rest =>
    let mant := if rest.isEmpty then digitText [first] else digitText [first] ++ "." ++ digitText rest
    let x := d.point - 1
    let sign := if x < 0 then "-" else "+"
    mant ++ "e" ++ sign ++ toString x.natAbs

/-- The JSON text of a finite float: shortest digits, positional for magnitudes in
`[1e-6, 1e21)` and zero, exponent form otherwise; `none` for NaN and the infinities. -/
def jsonText? (x : Float) : Option String := do
  let b ← Binary.ofFloat? x
  let d := shortest b
  let sign := if b.negative then "-" else ""
  let body :=
    if d.digits.isEmpty then "0"
    -- the magnitude is below 1e-6 when point < -5, and at least 1e21 when point > 21
    else if d.point < -5 || d.point > 21 then scientific d
    else positional d
  return sign ++ body

/-- The general text of a float, as a value is printed by default: shortest digits, laid out
positionally when the decimal exponent `e` of the leading digit has `-4 ≤ e < 6`, else as
`d.ddde±xx` with at least two exponent digits; `NaN`, `+Inf` and `-Inf` for the rest. -/
def generalText (x : Float) : String :=
  match Binary.ofFloat? x with
  | none => if x.isNaN then "NaN" else if x > 0 then "+Inf" else "-Inf"
  | some b =>
    let d := shortest b
    let sign := if b.negative then "-" else ""
    let body :=
      if d.digits.isEmpty then "0"
      else if d.point < -3 || d.point > 6 then
        match d.digits with
        | [] => "0"
        | first :: rest =>
          let mant := if rest.isEmpty then digitText [first] else digitText [first] ++ "." ++ digitText rest
          let e := d.point - 1
          let ds := toString e.natAbs
          mant ++ "e" ++ (if e < 0 then "-" else "+") ++ (if ds.length < 2 then "0" ++ ds else ds)
      else positional d
    sign ++ body

/-- A decimal literal split into sign, digits and decimal exponent: `±M · 10^X`. -/
structure Literal where
  negative : Bool
  mantissa : Nat
  exponent : Int
  deriving Repr

/-- Reads a JSON number literal (`-?int frac? exp?`) into its parts; `none` if it is not one. -/
def Literal.ofString? (s : String) : Option Literal :=
  let cs := s.toList
  let (neg, cs) := match cs with
    | '-' :: r => (true, r)
    | r => (false, r)
  let intPart := cs.takeWhile Char.isDigit
  let cs := cs.dropWhile Char.isDigit
  let (frac, cs) := match cs with
    | '.' :: r => (some (r.takeWhile Char.isDigit), r.dropWhile Char.isDigit)
    | r => (none, r)
  let (ex, cs) : Option Int × List Char := match cs with
    | c :: r =>
      if c = 'e' || c = 'E' then
        let (eneg, r) := match r with
          | '-' :: r' => (true, r')
          | '+' :: r' => (false, r')
          | r' => (false, r')
        let ds := r.takeWhile Char.isDigit
        if ds.isEmpty then (some 0, c :: r)
        else
          let v : Nat := ds.foldl (fun a ch => 10 * a + (ch.toNat - 48)) 0
          (some (if eneg then -(v : Int) else v), r.dropWhile Char.isDigit)
      else (none, c :: r)
    | [] => (none, [])
  let digitsOk := !intPart.isEmpty && (intPart.length = 1 || intPart.head? ≠ some '0')
  let fracOk := match frac with
    | some f => !f.isEmpty
    | none => true
  if !(digitsOk && fracOk && cs.isEmpty) then none
  else
    let fd := frac.getD []
    let all := intPart ++ fd
    let m : Nat := all.foldl (fun a ch => 10 * a + (ch.toNat - 48)) 0
    some ⟨neg, m, ex.getD 0 - fd.length⟩

/-- The nearest binary64 value of a literal, or `none` when its magnitude rounds past the
largest finite value. Magnitudes far below the smallest subnormal read as zero. -/
def Literal.toFloat? (l : Literal) : Option Float :=
  if l.mantissa = 0 then some (if l.negative then -0.0 else 0.0)
  else
    let size : Int := (Nat.toDigits 10 l.mantissa).length
    if size + l.exponent > 310 then none
    else if size + l.exponent < -330 then some (if l.negative then -0.0 else 0.0)
    else
      let v := if l.exponent < 0 then Float.ofScientific l.mantissa true (-l.exponent).toNat
        else Float.ofScientific l.mantissa false l.exponent.toNat
      if v.isInf then none else some (if l.negative then -v else v)

/-- The nearest binary64 value of a JSON number literal, `none` when out of range or malformed. -/
def parseFloat? (s : String) : Option Float := (Literal.ofString? s).bind Literal.toFloat?

/-- A float written `[-+]?(.digits|digits(.digits?)?)([eE][-+]?digits)?`, `none` if it is not
one or is beyond the largest finite value. -/
def parseDecimal? (s : String) : Option Float :=
  let cs := s.toList
  let (neg, cs) := match cs with
    | '-' :: r => (true, r)
    | '+' :: r => (false, r)
    | r => (false, r)
  let ip := cs.takeWhile Char.isDigit
  let cs := cs.dropWhile Char.isDigit
  let (fp, hasPoint, cs) := match cs with
    | '.' :: r => (r.takeWhile Char.isDigit, true, r.dropWhile Char.isDigit)
    | r => ([], false, r)
  let (ex, okExp, cs) : Int × Bool × List Char := match cs with
    | c :: r =>
      if c = 'e' || c = 'E' then
        let (eneg, r) := match r with
          | '-' :: r' => (true, r')
          | '+' :: r' => (false, r')
          | r' => (false, r')
        let ds := r.takeWhile Char.isDigit
        let v : Nat := ds.foldl (fun a ch => 10 * a + (ch.toNat - 48)) 0
        (if eneg then -(v : Int) else v, !ds.isEmpty, r.dropWhile Char.isDigit)
      else (0, true, c :: r)
    | [] => (0, true, [])
  let shapeOk := (!ip.isEmpty || (hasPoint && !fp.isEmpty)) && okExp && cs.isEmpty
  if !shapeOk then none
  else
    let m : Nat := (ip ++ fp).foldl (fun a ch => 10 * a + (ch.toNat - 48)) 0
    Literal.toFloat? ⟨neg, m, ex - fp.length⟩

end HttpMock.Decimal
