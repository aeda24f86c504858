import HttpMock.Decimal.Text
/-! JSON values, with numbers as literals or as binary64 values. -/
namespace HttpMock

/-- A JSON value. -/
inductive Json where
  | null
  | bool (b : Bool)
  /-- A number literal kept exactly as written. -/
  | number (text : String)
  /-- A number as a binary64 value. -/
  | float (x : Float)
  | string (s : String)
  | array (items : List Json)
  | object (members : List (String × Json))
  deriving Inhabited, Repr

namespace Json

/-- Sets member `k`: replaces it in place if present, else appends it. -/
def setMember (ms : List (String × Json)) (k : String) (v : Json) : List (String × Json) :=
  if ms.any (·.1 == k) then ms.map fun (k', v') => if k' == k then (k', v) else (k', v')
  else ms ++ [(k, v)]

/-- The member `k` of an object. -/
def getMember? (ms : List (String × Json)) (k : String) : Option Json :=
  (ms.find? (·.1 == k)).map (·.2)

/-- The value of member `k`, if this is an object that has it. -/
def get? : Json → String → Option Json
  | .object ms, k => getMember? ms k
  | _, _ => none

/-- Whether this is `null`. -/
def isNull : Json → Bool
  | .null => true
  | _ => false

/-- The numeric value of a number; a literal is rounded to the nearest binary64 value. -/
def toFloat? : Json → Option Float
  | .number t => Decimal.parseFloat? t
  | .float x => some x
  | _ => none

/-- Structural equality: objects as sets of members, arrays in order, numbers by value (a NaN
equals nothing), strings and Booleans exactly. -/
def same : Json → Json → Bool
  | .null, .null => true
  | .bool a, .bool b => a == b
  | .string a, .string b => a == b
  | .number a, .number b => a == b
  | .float a, .float b => a == b
  | .array xs, .array ys => sameItems xs ys
  | .object xs, .object ys => xs.length == ys.length && sameMembers xs ys ys
  | _, _ => false
where
  sameItems : List Json → List Json → Bool
    | [], [] => true
    | x :: xs, y :: ys => same x y && sameItems xs ys
    | _, _ => false
  sameMembers : List (String × Json) → List (String × Json) → List (String × Json) → Bool
    | [], _, _ => true
    | (k, v) :: rest, ys, all =>
      (match getMember? all k with
        | some w => same v w
        | none => false) && sameMembers rest ys all

end Json

end HttpMock

namespace HttpMock

/-- A value handed over to be written as JSON: JSON data, a value of a type that has no JSON
form, named by that type, or a value that the encoder refuses, with the encoder's message. -/
inductive Payload where
  | json (v : Json)
  | unencodable (typeName : String)
  | refused (message : String)
  deriving Inhabited, Repr

end HttpMock
