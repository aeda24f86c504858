import HttpMock.Yaml.Token
import HttpMock.Decimal.Text
/-! The nodes of a YAML document and what plain scalars mean. -/
namespace HttpMock.Yaml

/-- A node of a YAML document. An alias stands for the node its anchor names; an alias met while
that node is still being read stands for a node that would contain itself. -/
inductive Node where
  | scalar (value : String) (tag : String) (style : ScalarStyle) (tagged : Bool) (line : Nat)
  | sequence (items : List Node) (tag : String) (line : Nat)
  | mapping (pairs : List (Node × Node)) (tag : String) (line : Nat)
  | alias (name : String) (target : Node) (line : Nat)
  | cycle (name : String) (line : Nat)
  deriving Inhabited, Repr

namespace Node

/-- The line a node starts on. -/
def line : Node → Nat
  | .scalar _ _ _ _ l | .sequence _ _ l | .mapping _ _ l | .alias _ _ l | .cycle _ l => l

/-- The text of a scalar; the anchor name of an alias. -/
def value : Node → String
  | .scalar v _ _ _ _ => v
  | .alias n _ _ | .cycle n _ => n
  | _ => ""

/-- The tag of a node. -/
def tag : Node → String
  | .scalar _ t _ _ _ | .sequence _ t _ | .mapping _ t _ => t
  | .alias _ _ _ | .cycle _ _ => ""

/-- A number for the kind of a node, for comparing keys. -/
def kindIndex : Node → Nat
  | .scalar .. => 0
  | .sequence .. => 1
  | .mapping .. => 2
  | .alias .. | .cycle .. => 3

/-- Whether a scalar is a string by how it is written: quoted, a block scalar, or tagged
`!!str`. -/
def indicatedString : Node → Bool
  | .scalar _ t style tagged _ => style != .plain || (t == "!!str" && tagged)
  | _ => false

end Node

/-- A tag in short form: the YAML tag prefix becomes `!!`. -/
def shortTag (t : String) : String :=
  if t.startsWith "tag:yaml.org,2002:" then "!!" ++ (t.drop 18).copy else t

/-- What a scalar means. -/
inductive Resolved where
  | null
  | bool (b : Bool)
  /-- An integer within the 64-bit signed or unsigned range. -/
  | int (i : Int)
  | float (x : Float)
  | str (s : String)
  /-- A date or time, as its JSON text. -/
  | time (text : String)
  deriving Inhabited, Repr

/-- Whether the meaning of a scalar with this tag is worked out from its text. -/
def resolvable (t : String) : Bool :=
  ["", "!!str", "!!bool", "!!int", "!!float", "!!null", "!!timestamp"].contains t

/-- Texts with a fixed meaning. -/
def fixedMeaning (s : String) : Option (String × Resolved) :=
  if ["true", "True", "TRUE"].contains s then some ("!!bool", .bool true)
  else if ["false", "False", "FALSE"].contains s then some ("!!bool", .bool false)
  else if ["", "~", "null", "Null", "NULL"].contains s then some ("!!null", .null)
  else if [".nan", ".NaN", ".NAN"].contains s then some ("!!float", .float (0.0 / 0.0))
  else if [".inf", ".Inf", ".INF", "+.inf", "+.Inf", "+.INF"].contains s then some ("!!float", .float (1.0 / 0.0))
  else if ["-.inf", "-.Inf", "-.INF"].contains s then some ("!!float", .float (-1.0 / 0.0))
  else none

/-- The value of digits in a base, `none` if one is not a digit of it. -/
def digitsValue (base : Nat) (cs : List Char) : Option Nat :=
  if cs.isEmpty then none
  else cs.foldlM (fun acc c =>
    let d := if c.isDigit then c.toNat - 48
      else if 'a' ≤ c && c ≤ 'z' then c.toNat - 87
      else if 'A' ≤ c && c ≤ 'Z' then c.toNat - 55
      else 99
    if d < base then some (acc * base + d) else none) 0

/-- An unsigned integer with an optional base prefix: `0x`, `0o`, `0b`, or a leading `0` for
octal. -/
def unsignedValue (cs : List Char) : Option Nat :=
  match cs with
  | '0' :: c :: rest =>
    if c = 'x' || c = 'X' then digitsValue 16 rest
    else if c = 'o' || c = 'O' then digitsValue 8 rest
    else if c = 'b' || c = 'B' then digitsValue 2 rest
    else digitsValue 8 (c :: rest)
  | _ => digitsValue 10 cs

/-- An integer with an optional sign and base prefix, within the 64-bit signed range or, without
a sign, the unsigned one. -/
def integerValue (s : String) : Option Int :=
  match s.toList with
  | '-' :: rest => (unsignedValue rest).bind fun n => if n ≤ Nat.pow 2 63 then some (-(n : Int)) else none
  | '+' :: rest => (unsignedValue rest).bind fun n => if n < Nat.pow 2 63 then some (n : Int) else none
  | cs => (unsignedValue cs).bind fun n => if n < Nat.pow 2 64 then some (n : Int) else none

/-- A date `YYYY-M-D` with a valid month and day, as the JSON text of its midnight in UTC. -/
def dateValue (s : String) : Option String :=
  match s.splitOn "-" with
  | [y, m, d] =>
    if y.length = 4 && (y.toList.all Char.isDigit) && 1 ≤ m.length && m.length ≤ 2 && 1 ≤ d.length && d.length ≤ 2 &&
        m.toList.all Char.isDigit && d.toList.all Char.isDigit then
      let yy := y.toNat?.getD 0
      let mm := m.toNat?.getD 0
      let dd := d.toNat?.getD 0
      let leap := (yy % 4 = 0 && yy % 100 ≠ 0) || yy % 400 = 0
      let days := if mm = 2 then (if leap then 29 else 28)
        else if mm = 4 || mm = 6 || mm = 9 || mm = 11 then 30 else 31
      if 1 ≤ mm && mm ≤ 12 && 1 ≤ dd && dd ≤ days then
        let pad (n : Nat) : String := if n < 10 then "0" ++ toString n else toString n
        some (y ++ "-" ++ pad mm ++ "-" ++ pad dd ++ "T00:00:00Z")
      else none
    else none
  | _ => none

/-- The meaning of a scalar's text for a tag, before the tag is checked. -/
def plainMeaning (t : String) (s : String) : String × Resolved :=
  let first := s.toList.headD 'N'
  let hint : Option Char :=
    if s.isEmpty then some 'N'
    else if first = '+' || first = '-' then some 'S'
    else if first.isDigit then some 'D'
    else if "yYnNtTfFoO~".toList.contains first then some 'M'
    else if first = '.' then some '.'
    else none
  match hint with
  | none => ("!!str", .str s)
  | some h =>
    if t = "!!str" || t = "!!binary" then ("!!str", .str s)
    else match fixedMeaning s with
      | some r => r
      | none =>
        if h = '.' then
          match Decimal.parseDecimal? s with
          | some x => ("!!float", .float x)
          | none => ("!!str", .str s)
        else if h = 'D' || h = 'S' then
          let timed := if t = "" || t = "!!timestamp" then dateValue s else none
          match timed with
          | some d => ("!!timestamp", .time d)
          | none =>
            let plain := String.ofList (s.toList.filter (· ≠ '_'))
            match integerValue plain with
            | some i => ("!!int", .int i)
            | none =>
              match Decimal.parseDecimal? plain with
              | some x => ("!!float", .float x)
              | none => ("!!str", .str s)
        else ("!!str", .str s)

/-- The meaning of a scalar with a tag. A tag that does not fit the text, such as `!!int` on
`abc`, is refused; `!!float` takes integers. -/
def resolve (t : String) (s : String) : Except String (String × Resolved) :=
  if !resolvable t then pure (t, .str s)
  else
    let (rt, r) := plainMeaning t s
    if t = "" || t = rt || t = "!!str" || t = "!!binary" then pure (rt, r)
    else if t = "!!float" && rt = "!!int" then
      match r with
      | .int i => pure ("!!float", .float (Float.ofInt i))
      | _ => pure (rt, r)
    else throw ("cannot decode " ++ rt ++ " \x60" ++ s ++ "\x60 as a " ++ t)

end HttpMock.Yaml
