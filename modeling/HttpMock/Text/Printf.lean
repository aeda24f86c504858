import HttpMock.Text.Quoted
/-! Printf templates, filled without ever failing. -/
namespace HttpMock.Text

/-- An argument of a template. -/
inductive PrintfArg where
  | text (s : Bytes)
  | int (n : Int)
  deriving DecidableEq, Repr

namespace PrintfArg

/-- The type name a note shows for an argument. -/
def typeName : PrintfArg → String
  | .text _ => "string"
  | .int _ => "int"

/-- The plain text of an argument. -/
def plain : PrintfArg → Bytes
  | .text s => s
  | .int n => (toString n).toBytes

end PrintfArg

/-- The flags, width and precision of one directive. -/
structure Directive where
  minus : Bool := false
  plus : Bool := false
  zero : Bool := false
  width : Option Nat := none
  precision : Option Nat := none

/-- Pads a text to the directive's width, counted in characters. -/
def Directive.pad (d : Directive) (bs : Bytes) (zeroAllowed : Bool := true) : Bytes :=
  let n := (Bytes.pieces bs).length
  match d.width with
  | some w =>
    if n ≥ w then bs
    else if d.minus then bs ++ List.replicate (w - n) 0x20
    else if d.zero && zeroAllowed then List.replicate (w - n) 0x30 ++ bs
    else List.replicate (w - n) 0x20 ++ bs
  | none => bs

/-- The digits of a natural number in a base from 2 to 16. -/
def digitsIn (base n : Nat) (upper : Bool) : Bytes :=
  (String.ofList ((Nat.toDigits base n).map fun c => if upper then c.toUpper else c)).toBytes

/-- An integer in a base, its sign in front and zeros to the width after the sign. -/
def Directive.integer (d : Directive) (n : Int) (base : Nat) (upper : Bool) : Bytes :=
  let sign : Bytes := if n < 0 then [0x2D] else if d.plus then [0x2B] else []
  let body := digitsIn base n.natAbs upper
  match d.width with
  | some w =>
    if d.zero && !d.minus && sign.length + body.length < w then
      sign ++ List.replicate (w - sign.length - body.length) 0x30 ++ body
    else d.pad (sign ++ body) false
  | none => sign ++ body

/-- The note for a verb that does not suit its argument. -/
def badVerb (verb : Char) (a : PrintfArg) : Bytes :=
  ("%!" ++ verb.toString ++ "(" ++ a.typeName ++ "=").toBytes ++ a.plain ++ [0x29]

/-- Writes one argument under a verb. -/
def Directive.render (d : Directive) (verb : Char) (a : PrintfArg) : Bytes :=
  match a with
  | .text s =>
    match verb with
    | 's' | 'v' =>
      let cut := match d.precision with
        | some p => Bytes.ofPieces ((Bytes.pieces s).take p)
        | none => s
      d.pad cut
    | 'q' => d.pad (quote s).toBytes
    | 'x' => d.pad (s.flatMap fun b => (Bytes.hexPair b).toBytes)
    | 'X' => d.pad (s.flatMap fun b => (Bytes.hexPair b true).toBytes)
    | _ => badVerb verb a
  | .int n =>
    match verb with
    | 'd' | 'v' => d.integer n 10 false
    | 'b' => d.integer n 2 false
    | 'o' => d.integer n 8 false
    | 'x' => d.integer n 16 false
    | 'X' => d.integer n 16 true
    | 'c' => d.pad (String.utf8EncodeChar (Char.ofNat n.toNat))
    | _ => badVerb verb a

private def isDigitOctet (b : UInt8) : Bool := 0x30 ≤ b && b ≤ 0x39

/-- Reads a run of decimal digits. -/
def readDigits (bs : Bytes) : Option Nat × Bytes :=
  let ds := bs.takeWhile isDigitOctet
  if ds.isEmpty then (none, bs)
  else (some (ds.foldl (fun acc b => acc * 10 + (b.toNat - 0x30)) 0), bs.drop ds.length)

/-- Reads the flags of a directive. -/
def readFlags (d : Directive) : Bytes → Directive × Bytes
  | [] => (d, [])
  | b :: rest =>
    if b = 0x2D then readFlags { d with minus := true } rest
    else if b = 0x2B then readFlags { d with plus := true } rest
    else if b = 0x30 then readFlags { d with zero := true } rest
    else if b = 0x23 || b = 0x20 then readFlags d rest
    else (d, b :: rest)

/-- Reads flags, width and precision. -/
def readDirective (bs : Bytes) : Directive × Bytes :=
  let (d, rest) := readFlags {} bs
  let (width, rest) := readDigits rest
  match rest with
  | 0x2E :: more =>
    let (p, rest) := readDigits more
    ({ d with width, precision := some (p.getD 0) }, rest)
  | _ => ({ d with width }, rest)

/-- The note for arguments that no directive took. -/
def extraNote (args : List PrintfArg) : Bytes :=
  if args.isEmpty then []
  else "%!(EXTRA ".toBytes ++
    (", ".toBytes).intercalate (args.map fun a => (a.typeName ++ "=").toBytes ++ a.plain) ++ [0x29]

/-- Fills a template with arguments. -/
def printf (template : Bytes) (args : List PrintfArg) : Bytes :=
  go template.length template args
where
  go : Nat → Bytes → List PrintfArg → Bytes
    | 0, _, args => extraNote args
    | _, [], args => extraNote args
    | fuel + 1, b :: rest, args =>
      if b ≠ 0x25 then b :: go fuel rest args
      else
        let (d, rest) := readDirective rest
        match Bytes.pieces rest with
        | [] => "%!(NOVERB)".toBytes ++ extraNote args
        | p :: _ =>
          let verbBytes := p.toBytes
          let after := rest.drop verbBytes.length
          let verb := match p with
            | .char c => c
            | .stray _ => '�'
          if verb = '%' then 0x25 :: go fuel after args
          else
            match args with
            | [] => ("%!" ++ verb.toString ++ "(MISSING)").toBytes ++ go fuel after []
            | a :: more => d.render verb a ++ go fuel after more

end HttpMock.Text
