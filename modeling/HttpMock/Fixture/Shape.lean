import HttpMock.Json.Value
/-! The shape of fixture documents and the data read into it. -/
namespace HttpMock.Fixture

/-- What a part of a fixture document holds. -/
inductive Shape where
  | text
  | integer
  /-- Any data at all, kept as JSON. -/
  | anything
  /-- A part that may be absent as a whole. -/
  | optional (inner : Shape)
  | list (item : Shape)
  /-- A map from strings to values. -/
  | dict (value : Shape)
  /-- A structure with named fields. -/
  | record (name : String) (fields : List (String × Shape))
  deriving Inhabited, Repr

namespace Shape

/-- The name a shape has in error messages; an optional part goes by the name of what it holds. -/
def typeName : Shape → String
  | .text => "string"
  | .integer => "int"
  | .anything => "interface {}"
  | .optional s => typeName s
  | .list s => "[]" ++ typeName s
  | .dict s => "map[string]" ++ typeName s
  | .record n _ => "fixture." ++ n

/-- The shape of a field of a structure. -/
def field? : Shape → String → Option Shape
  | .record _ fs, k => fs.lookup k
  | _, _ => none

end Shape

/-- Data read into a shape. -/
inductive Datum where
  /-- Nothing: an absent part, or one set to null. -/
  | none
  | text (s : String)
  | integer (i : Int)
  /-- Any data, or why it has no JSON form. -/
  | json (v : Except String Json)
  | list (items : List Datum)
  | dict (entries : List (String × Datum))
  | record (fields : List (String × Datum))
  deriving Inhabited

namespace Datum

/-- Sets an entry of a map or a field of a structure, in place if present. -/
def setIn (es : List (String × Datum)) (k : String) (v : Datum) : List (String × Datum) :=
  if es.any (·.1 == k) then es.map fun (k', v') => if k' == k then (k', v) else (k', v') else es ++ [(k, v)]

/-- The entries of a map or the fields of a structure. -/
def entries : Datum → List (String × Datum)
  | .dict es | .record es => es
  | _ => []

/-- A field of a structure. -/
def get (d : Datum) (k : String) : Datum := (d.entries.lookup k).getD .none

/-- The text of a string, empty if absent. -/
def str : Datum → String
  | .text s => s
  | _ => ""

/-- A string that may be absent. -/
def str? : Datum → Option String
  | .text s => some s
  | _ => Option.none

/-- The value of an integer, zero if absent. -/
def int : Datum → Int
  | .integer i => i
  | _ => 0

/-- The items of a list, none if absent. -/
def items : Datum → List Datum
  | .list xs => xs
  | _ => []

/-- The JSON of any data, none if absent. -/
def json? : Datum → Option (Except String Json)
  | .json v => some v
  | _ => Option.none

/-- The string values of a map. -/
def strings (d : Datum) : List (String × String) := d.entries.map fun (k, v) => (k, v.str)

end Datum

/-- The message of a JSON value that cannot be written as JSON: NaN and the infinities. -/
def floatProblem (x : Float) : Option String :=
  if x.isNaN then some "json: unsupported value: NaN"
  else if x.isInf then some (if x > 0 then "json: unsupported value: +Inf" else "json: unsupported value: -Inf")
  else Option.none

/-- A JSON array of items that may have no JSON form; the first such item decides. -/
def jsonArray (items : List (Except String Json)) : Except String Json :=
  (items.mapM id).map Json.array

/-- A JSON object of members that may have no JSON form; the first such member in key order
decides, as members are written in that order. -/
def jsonObject (members : List (String × Except String Json)) : Except String Json :=
  let sorted := members.mergeSort fun a b => decide (a.1 ≤ b.1)
  match sorted.find? (fun (_, v) => match v with | .error _ => true | .ok _ => false) with
  | some (_, .error e) => .error e
  | _ => .ok (Json.object (members.filterMap fun (k, v) => match v with
      | .ok j => some (k, j)
      | .error _ => Option.none))

end HttpMock.Fixture
