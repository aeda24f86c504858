import HttpMock.Request.Query
import HttpMock.Json.Write
import HttpMock.Text.Blank
/-! The text of a request, as diagnostics show it. -/
namespace HttpMock.Request

/-- The attributes of a part that are set and not empty, as `, key=value` items. -/
def partAttrs (p : Part) : Bytes :=
  let item (key : String) : Option Bytes → Bytes
    | some v => if v.isEmpty then [] else (", " ++ key ++ "=").toBytes ++ v
    | none => []
  item "filename" p.filename ++ item "mimetype" p.mimetype ++ item "content" p.content

/-- The body section of the text. -/
def bodyText (r : Request) : Bytes :=
  if !r.requestParams.isEmpty then
    (r.requestParams.sorted.flatMap fun (k, v) => [0x26] ++ k ++ [0x3D] ++ v) ++ [0x0A]
  else if !r.multiparts.isEmpty then
    r.multiparts.sorted.flatMap fun (k, p) =>
      k ++ ": name=".toBytes ++ p.name ++ ", ".toBytes ++ partAttrs p ++ [0x0A]
  else match r.json, r.content with
    | some v, _ => (Json.compact v).toBytes
    | none, some c => c
    | none, none => []

/-- The text of a request. -/
def render (r : Request) : Bytes :=
  let line := r.method ++ [0x20] ++ r.uri ++
    (if r.queryParams.isEmpty then [] else [0x3F] ++ (Query.build r.queryParams).toBytes) ++ [0x0A]
  let headers := r.headers.sorted.flatMap fun (k, v) => k ++ [0x3A, 0x20] ++ v ++ [0x0A]
  Text.trim (line ++ headers ++ bodyText r)

end HttpMock.Request
