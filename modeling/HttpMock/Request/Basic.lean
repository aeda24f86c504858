import HttpMock.Table
import HttpMock.Json.Value
import HttpMock.Text.Case
/-! The normalized request: what an expectation is matched against. -/
namespace HttpMock

/-- The value of a query parameter: a single value, or the list of values a `key[]` parameter
collects. -/
inductive QueryValue where
  | single (v : Bytes)
  | list (vs : List Bytes)
  deriving DecidableEq, Repr, Inhabited

namespace QueryValue

/-- Whether this is a list value. -/
def isList : QueryValue → Bool
  | .single _ => false
  | .list _ => true

/-- The values, one for a single value. -/
def values : QueryValue → List Bytes
  | .single v => [v]
  | .list vs => vs

/-- Whether `v` is the value, or one of the list values. -/
def containsValue (q : QueryValue) (v : Bytes) : Bool := q.values.contains v

/-- Adds a value for a `key[]` parameter: a single value is dropped and a list starts. -/
def appended (q : QueryValue) (v : Bytes) : QueryValue :=
  match q with
  | .single _ => .list [v]
  | .list vs => .list (vs ++ [v])

end QueryValue

/-- One part of a multipart body. Absent attributes are `none`. -/
structure Part where
  name : Bytes
  mimetype : Option Bytes := none
  filename : Option Bytes := none
  content : Option Bytes := none
  deriving DecidableEq, Repr, Inhabited

/-- A normalized request. -/
structure Request where
  method : Bytes
  uri : Bytes
  /-- Header values by lower-case name. -/
  headers : Table Bytes := []
  /-- The raw body, when one was given as text, bytes or a stream. -/
  content : Option Bytes := none
  /-- The JSON body, when there is one. -/
  json : Option Json := none
  queryParams : Table QueryValue := []
  /-- Form parameters of a URL-encoded body. -/
  requestParams : Table Bytes := []
  /-- Parts of a multipart body, by name. -/
  multiparts : Table Part := []
  deriving Inhabited

namespace Request

/-- The value of a header, by name in any case. -/
def header? (r : Request) (name : Bytes) : Option Bytes := r.headers.get? (Text.lower name)

/-- The raw body, empty when there is none. -/
def contentText (r : Request) : Bytes := r.content.getD []

end Request

end HttpMock
