import HttpMock.Request.Basic
import HttpMock.Text.Percent
import HttpMock.Json.Write
/-! Query strings: reading them into single and list values, and writing them. -/
namespace HttpMock.Query

/-- One `key=value` pair, both sides percent-decoded. A pair without `=` has an empty value. -/
def splitPair (pair : Bytes) : Bytes × Bytes :=
  let (k, v) := pair.cut 0x3D
  (Text.Percent.decodeOrKeep k, Text.Percent.decodeOrKeep (v.getD []))

/-- The suffix that marks a list parameter. -/
def listMark : Bytes := [0x5B, 0x5D]

/-- Adds one decoded pair to the parameters. -/
def addPair (params : Table QueryValue) (kv : Bytes × Bytes) : Table QueryValue :=
  let (k, v) := kv
  if k.endsWith listMark then
    let name := k.take (k.length - 2)
    let current := (params.get? name).getD (.single [])
    params.insert name (current.appended v)
  else params.insert k (.single v)

/-- The parameters of a query string (the text after `?`). -/
def parse (query : Bytes) : Table QueryValue :=
  if query.isEmpty then []
  else ((query.splitAt 0x26).map splitPair).foldl addPair []

/-- The written form of a parameter table: sorted keys, `&` between pairs. -/
def build (params : Table QueryValue) : String :=
  let parts := params.sorted.flatMap fun (k, v) =>
    match v with
    | .single x => [Text.Percent.encode k ++ "=" ++ Text.Percent.encode x]
    | .list xs => (xs.zipIdx.map fun (x, i) =>
        Text.Percent.encode (k ++ ("[" ++ toString i ++ "]").toBytes) ++ "=" ++ Text.Percent.encode x)
  "&".intercalate parts

end HttpMock.Query

namespace HttpMock

/-- The text of a query value: a single value as it is, a list as a JSON array of strings. -/
def QueryValue.text : QueryValue → Bytes
  | .single v => v
  | .list vs => (Json.compact (.array (vs.map fun v => .string (Bytes.toText v)))).toBytes

end HttpMock
