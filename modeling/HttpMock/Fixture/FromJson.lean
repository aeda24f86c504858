import HttpMock.Fixture.Shape
import HttpMock.Json.Read
import HttpMock.Text.Quoted
import HttpMock.Text.Case
import HttpMock.Decimal.Text
/-! Decoding a JSON document into a shape, with the path of the first error. -/
namespace HttpMock.Fixture

/-- Decoding JSON, keeping the first error. -/
abbrev JsonM := StateM (Option String)

namespace FromJson

/-- Keeps an error unless one came before. -/
def report (msg : String) : JsonM Unit := modify fun e => e.orElse fun _ => some msg

/-- Reports a value of the kind `value` (`string`, `number 1.5`, ...) that does not fit the type
named `type` at a path of fields, keys and indices under the structure `root`. -/
def cannot (root : String) (path : List String) (value type : String) : JsonM Unit :=
  report (if path.isEmpty then
      "json: cannot unmarshal " ++ value ++ " into Go value of type " ++ type
    else
      "json: cannot unmarshal " ++ value ++ " into Go struct field " ++ root ++ "." ++
        ".".intercalate path ++ " of type " ++ type)

/-- The value of an integer literal within the 64-bit signed range: an optional minus sign and
digits only. -/
def integerLiteral (t : String) : Option Int :=
  let (neg, ds) := match t.toList with
    | '-' :: r => (true, r)
    | r => (false, r)
  if ds.isEmpty || !ds.all Char.isDigit then none
  else
    let n : Nat := ds.foldl (fun a c => 10 * a + (c.toNat - 48)) 0
    let v : Int := if neg then -(n : Int) else n
    if -Int.pow 2 63 ≤ v && v < Int.pow 2 63 then some v else none

/-- Any data, where members with one name keep the last value. Numbers beyond binary64 are
reported as not fitting `float64`. -/
def anyValue (root : String) (path : List String) : Nat → Json → JsonM Json
  | 0, v => pure v
  | fuel + 1, v =>
    match v with
    | .number t => do
      if (Decimal.parseFloat? t).isNone then cannot root path ("number " ++ t) "float64"
      pure v
    | .array xs => do
      let ys ← xs.attach.mapM fun ⟨x, _⟩ => anyValue root path fuel x
      pure (.array ys)
    | .object ms => do
      let mut acc : List (String × Json) := []
      for (k, x) in ms do
        let y ← anyValue root path fuel x
        acc := Json.setMember acc k y
      pure (.object acc)
    | other => pure other

/-- The zero value of a shape. -/
def zero : Shape → Datum
  | .record _ _ => .record []
  | _ => .none

/-- The field of a structure a key names: the field of that name, else one whose name equals it
ignoring case. -/
def findField (fields : List (String × Shape)) (k : String) : Option (String × Shape) :=
  match fields.find? (·.1 == k) with
  | some f => some f
  | none => fields.find? fun f => Text.equalFold f.1 k

/-- The items of a list, decoded into the items already there. -/
def itemsOf : Datum → List Datum
  | .list xs => xs
  | _ => []

/-- Decodes a value into data of a shape that is already there, at a path under the structure
`root`. -/
def decode (root : String) : Nat → Shape → Json → Datum → List String → JsonM Datum
  | 0, _, _, cur, _ => pure cur
  | fuel + 1, shape, v, cur, path =>
    match v, shape with
    | .null, .anything | .null, .optional _ | .null, .list _ | .null, .dict _ => pure .none
    | .null, _ => pure cur
    | v, .optional s =>
      let inner := match cur with
        | .none => zero s
        | d => d
      decode root fuel s v inner path
    | v, .anything => do
      let j ← anyValue root path (fuel + 1) v
      pure (.json (.ok j))
    | .string s, .text => pure (.text s)
    | .number t, .integer =>
      match integerLiteral t with
      | some i => pure (.integer i)
      | none => do
        cannot root path ("number " ++ t) "int"
        pure cur
    | .array xs, .list s => do
      let old := itemsOf cur
      let ys ← xs.zipIdx.attach.mapM fun ⟨(x, i), _⟩ =>
        decode root fuel s x (old.getD i (zero s)) (path ++ [toString i])
      pure (.list ys)
    | .object ms, .dict s => do
      let mut acc := cur.entries
      for (k, x) in ms do
        let y ← decode root fuel s x (zero s) (path ++ [k])
        acc := Datum.setIn acc k y
      pure (.dict acc)
    | .object ms, .record _ fields => do
      let mut acc := cur.entries
      for (k, x) in ms do
        match findField fields k with
        | none => report ("json: unknown field " ++ Text.quoteString k)
        | some (name, fs) =>
          let y ← decode root fuel fs x ((acc.lookup name).getD (zero fs)) (path ++ [name])
          acc := Datum.setIn acc name y
      pure (.record acc)
    | v, s => do
      let kind := match v with
        | .bool _ => "bool"
        | .number _ | .float _ => "number"
        | .string _ => "string"
        | .array _ => "array"
        | _ => "object"
      cannot root path kind s.typeName
      pure cur

end FromJson

/-- Decodes a JSON text into a structure of a shape: the first error, or the data. The text must
be JSON; members are taken as written, repeated names included. -/
def decodeJson (shape : Shape) (text : Bytes) : Except String Datum :=
  match Json.parseWith true text with
  | .error e => .error ("json: " ++ e.message)
  | .ok v =>
    let root := match shape with
      | .record n _ => n
      | _ => ""
    let fuel := 2 * text.length + 8
    match (FromJson.decode root fuel shape v (FromJson.zero shape) []).run none with
    | (_, some e) => .error e
    | (d, none) => .ok d

end HttpMock.Fixture
