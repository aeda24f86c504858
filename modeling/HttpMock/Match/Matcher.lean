import HttpMock.Match.Outcome
import HttpMock.Request.Basic
import HttpMock.Request.Query
import HttpMock.Json.Path
import HttpMock.Json.Read
import HttpMock.Json.Diff
import HttpMock.Xml.Canonical
import HttpMock.Text.Quoted
/-! Matchers: each compares one aspect of a request with an expected value and gives an outcome. -/
namespace HttpMock.Match

/-- Values for `{name}` placeholders of URI patterns, in the order they were first set. -/
abbrev UriParams := Table Bytes

namespace UriParams

/-- A pattern with every placeholder filled, parameter after parameter. -/
def fill (ps : UriParams) (pattern : Bytes) : Bytes :=
  ps.foldl (fun u (k, v) => Bytes.replaceAll u ("\x7b".toBytes ++ k ++ "\x7d".toBytes) v) pattern

/-- The parameters as a JSON object. -/
def json (ps : UriParams) : String :=
  if ps.isEmpty then "\x7b\x7d"
  else Json.compact (.object (ps.map fun (k, v) => (Bytes.toText k, .string (Bytes.toText v))))

end UriParams

/-- What a multipart matcher expects of a part; an empty attribute is not compared. -/
structure PartSpec where
  mimetype : Bytes := []
  filename : Bytes := []
  content : Bytes := []
  deriving DecidableEq, Repr, Inhabited

/-- A matcher. The `...When` forms ask a callback instead of comparing with a value. -/
inductive Matcher where
  | catchAll
  | method (m : Bytes)
  | methodWhen (accepts : Bytes → Bool)
  | uri (pattern : Bytes)
  | uriWhen (accepts : Bytes → UriParams → Bool)
  /-- A header, by lower-case name. -/
  | header (name value : Bytes)
  /-- A query parameter; a list item matcher looks for the value among the list values. -/
  | queryParam (key value : Bytes) (listItem : Bool)
  | requestParam (key value : Bytes)
  | multipart (name : Bytes) (spec : PartSpec)
  | content (c : Bytes)
  | contentWhen (accepts : Option Bytes → Bool)
  /-- A JSON body, equal to the expected value; the expected value has binary64 numbers. -/
  | json (expected : Json)
  | jsonWhen (accepts : Option Json → Bool)
  /-- An XML body with the same canonical text as the expected document. -/
  | xml (raw canonical : Bytes)
  | xmlWhen (accepts : Bytes → Bool)
  | that (accepts : Request → Bool)
  /-- The values a JSON path selects from the body. -/
  | jsonPath (text : Bytes) (path : Json.Path) (expected : Json)
  deriving Inhabited

/-- Why an expected value cannot make a matcher. -/
inductive PayloadError where
  | invalidXml (raw : Bytes)
  | uriWithQuery (pattern : Bytes)
  | unencodable (detail : String)
  | invalidPath (text : Bytes) (detail : String)
  deriving DecidableEq, Repr

/-- The message of a payload error. -/
def PayloadError.message : PayloadError → Bytes
  | .invalidXml raw => "malformed expected payload: no valid xml: ".toBytes ++ raw
  | .uriWithQuery p =>
    "malformed expected payload: uri contains query parameters, use query param matchers instead: ".toBytes ++ p
  | .unencodable d => ("malformed expected payload: value is not encodable as json: " ++ d).toBytes
  | .invalidPath t d =>
    ("malformed expected payload: invalid jsonpath expression " ++ Text.quote t ++ ": " ++ d).toBytes

namespace Matcher

/-- A URI matcher; a pattern with a query is refused. -/
def ofUri (pattern : Bytes) : Except PayloadError Matcher :=
  if pattern.contains 0x3F then throw (.uriWithQuery pattern) else pure (.uri pattern)

/-- A JSON matcher for a value, its numbers made binary64. -/
def ofJson (v : Option Payload) : Except PayloadError Matcher :=
  match v with
  | none => pure (.json .null)
  | some p =>
    match p.normalize with
    | .ok w => pure (.json (w.getD .null))
    | .error e => throw (.unencodable e)

/-- An XML matcher; the expected document must be well-formed. -/
def ofXml (raw : Bytes) : Except PayloadError Matcher :=
  match Xml.canonical? raw with
  | some c => pure (.xml raw c)
  | none => throw (.invalidXml raw)

/-- A JSON path matcher; the path must read and the value must be JSON. -/
def ofJsonPath (text : Bytes) (v : Option Payload) : Except PayloadError Matcher :=
  match Json.Path.parse text with
  | .error e => throw (.invalidPath text e)
  | .ok path =>
    match v with
    | none => pure (.jsonPath text path .null)
    | some p =>
      match p.normalize with
      | .ok w => pure (.jsonPath text path (w.getD .null))
      | .error e => throw (.unencodable e)

/-- A query parameter matcher; a key ending in `[]` looks for an item of a list value. -/
def ofQueryParam (key value : Bytes) : Matcher :=
  if Bytes.endsWith key Query.listMark then .queryParam (key.take (key.length - 2)) value true
  else .queryParam key value false

end Matcher

/-- A value as JSON text; nothing is `null`. -/
def compactOf : Option Json → Bytes
  | some v => (Json.compact v).toBytes
  | none => "null".toBytes

/-- A JSON string of raw text. -/
def jsonString (bs : Bytes) : Bytes := (Json.compact (.string (Bytes.toText bs))).toBytes

/-- Attributes of a part as a JSON object, in the given order; an absent one is `null`. -/
def encodeAttrs (attrs : List (String × Option Bytes)) : Bytes :=
  [0x7B] ++ ([0x2C] : Bytes).intercalate (attrs.map fun (k, v) =>
    jsonString k.toBytes ++ [0x3A] ++ (match v with
      | some x => jsonString x
      | none => "null".toBytes)) ++ [0x7D]

/-- The attributes a multipart matcher compares: the name, then each non-empty expectation. -/
def PartSpec.attrs (name : Bytes) (s : PartSpec) : List (String × Bytes) :=
  [("name", name)] ++ (if s.mimetype.isEmpty then [] else [("mimetype", s.mimetype)]) ++
    (if s.filename.isEmpty then [] else [("filename", s.filename)]) ++
    (if s.content.isEmpty then [] else [("content", s.content)])

/-- The value of a part's attribute; an empty one counts as absent. -/
def partAttr (p : Part) (key : String) : Option Bytes :=
  let v := match key with
    | "name" => some p.name
    | "mimetype" => p.mimetype
    | "filename" => p.filename
    | "content" => p.content
    | _ => none
  v.filter (!·.isEmpty)

/-- Whether a JSON value asks only whether the path selects something: `{"exists": b}`. -/
def existence : Json → Option Bool
  | .object [("exists", .bool b)] => some b
  | _ => none

/-- The expected text shown for a callback. -/
def callbackMark : Bytes := "<callback>".toBytes

namespace Matcher

/-- Runs a matcher on a request, with the expectation's URI parameters. -/
def check (params : UriParams) (r : Request) : Matcher → Outcome
  | .catchAll => .hit .catchAll [] "Match everything".toBytes
  | .method m =>
    if m == r.method then .hit .method [] r.method else .mismatch .method [] m (some r.method)
  | .methodWhen p =>
    if p r.method then .hit .method [] r.method else .mismatch .method [] callbackMark (some r.method)
  | .uri pattern =>
    let e := params.fill pattern
    if e == r.uri then .hit .uri [] r.uri else .mismatch .uri [] e (some r.uri)
  | .uriWhen p =>
    if p r.uri params then .hit .uri [] r.uri
    else .mismatch .uri [] ("<callback(" ++ params.json ++ ")>").toBytes (some r.uri)
  | .header name value =>
    match r.header? name with
    | none => .missing .header name value
    | some a => if a == value then .hit .header name a else .mismatch .header name value (some a)
  | .queryParam key value listItem =>
    match r.queryParams.get? key with
    | none => .missing .queryParam key value
    | some a =>
      let ok := if listItem then a.isList && a.containsValue value else !a.isList && a.text == value
      if ok then .hit .queryParam key a.text else .mismatch .queryParam key value (some a.text)
  | .requestParam key value =>
    match r.requestParams.get? key with
    | none => .missing .requestParam key value
    | some a =>
      if a == value then .hit .requestParam key a else .mismatch .requestParam key value (some a)
  | .multipart name spec =>
    let expected := spec.attrs name
    let shown := encodeAttrs (expected.map fun (k, v) => (k, some v))
    match r.multiparts.get? name with
    | none => .missing .multipart name shown
    | some part =>
      let reduced := expected.map fun (k, _) => (k, partAttr part k)
      if (expected.zip reduced).all (fun ((_, v), (_, w)) => w == some v) then
        .hit .multipart name name
      else .mismatch .multipart name shown (some (encodeAttrs reduced))
  | .content c =>
    match r.content with
    | some a => if a == c then .hit .content [] a else .mismatch .content [] c (some a)
    | none => .mismatch .content [] c none
  | .contentWhen p =>
    if p r.content then .hit .content [] (r.content.getD "NULL".toBytes)
    else .mismatch .content [] callbackMark r.content
  | .json expected =>
    let encoded := (Json.compact expected).toBytes
    match r.json with
    | none => .mismatch .json [] encoded none
    | some v =>
      let actual := (Json.compact v).toBytes
      if Json.same expected v then .hit .json [] actual
      else { Outcome.mismatch .json [] encoded (some actual) with
             diff := if actual.isEmpty then "" else Json.diff (Bytes.toText encoded) (Bytes.toText actual) }
  | .jsonWhen p =>
    let actual := compactOf r.json
    if p r.json then .hit .json [] actual else .mismatch .json [] callbackMark (some actual)
  | .xml raw canonical =>
    match r.content with
    | none => .mismatch .xml [] raw none
    | some [] => .mismatch .xml [] raw (some [])
    | some c =>
      if Xml.canonical? c == some canonical then .hit .xml [] c else .mismatch .xml [] raw (some c)
  | .xmlWhen p =>
    match r.content with
    | some c => if Xml.wellFormed c && p c then .hit .xml [] c else .mismatch .xml [] callbackMark (some c)
    | none => .mismatch .xml [] callbackMark none
  | .that p =>
    if p r then .hit .that [] "Match that-callback".toBytes
    else .mismatch .that [] "<callable>".toBytes (some "returned false".toBytes)
  | .jsonPath text path expected =>
    let results := match r.json with
      | some d => path.select d
      | none => []
    let encoded := (Json.compact expected).toBytes
    match existence expected, results with
    | some true, v :: _ => .hit .jsonPath text (Json.compact v).toBytes
    | some false, [] => .hit .jsonPath text "missing".toBytes
    | some true, [] => .missing .jsonPath text encoded
    | some false, v :: _ => .mismatch .jsonPath text encoded (some (Json.compact v).toBytes)
    | none, [] => .missing .jsonPath text encoded
    | none, v :: more =>
      match results.find? (Json.same · expected) with
      | some w => .hit .jsonPath text (Json.compact w).toBytes
      | none =>
        let shown := if more.isEmpty then v else .array results
        .mismatch .jsonPath text encoded (some (Json.compact shown).toBytes)

/-- A quoted value in a description. -/
private def quoted (bs : Bytes) : Bytes := [0x22] ++ bs ++ [0x22]

/-- The one-line description of a matcher. -/
def describe (params : UriParams) : Matcher → Bytes
  | .catchAll => "*".toBytes
  | .method m => "request.method === ".toBytes ++ quoted m
  | .methodWhen _ => "callback(request.method) !== false".toBytes
  | .uri pattern => "request.uri === ".toBytes ++ quoted (params.fill pattern)
  | .uriWhen _ => ("callback(request.uri, " ++ params.json ++ ") !== false").toBytes
  | .header name value => "request.header[".toBytes ++ quoted name ++ "] === ".toBytes ++ quoted value
  | .queryParam key value _ =>
    "request.queryParams[".toBytes ++ quoted key ++ "] === ".toBytes ++ quoted value
  | .requestParam key value =>
    "request.requestParams[".toBytes ++ quoted key ++ "] === ".toBytes ++ quoted value
  | .multipart name spec =>
    let parts := (if spec.filename.isEmpty then [] else ["filename=".toBytes ++ spec.filename]) ++
      (if spec.mimetype.isEmpty then [] else ["mimetype=".toBytes ++ spec.mimetype]) ++
      (if spec.content.isEmpty then [] else ["content=".toBytes ++ spec.content])
    if parts.isEmpty then "request.request[".toBytes ++ name ++ "] is set".toBytes
    else [0x5B] ++ (", ".toBytes).intercalate parts ++ "] === request.request[".toBytes ++ name ++ [0x5D]
  | .content c => "request.content === ".toBytes ++ quoted c
  | .contentWhen _ => "callback(request.content) !== false".toBytes
  | .json expected => "request.content === ".toBytes ++ quoted (Json.compact expected).toBytes
  | .jsonWhen _ => "callback(request.content) !== false".toBytes
  | .xml raw _ => "request.content === ".toBytes ++ quoted raw
  | .xmlWhen _ => "callback(request.content) !== false".toBytes
  | .that _ => "callback(request)".toBytes
  | .jsonPath text _ expected =>
    "request.json[".toBytes ++ quoted text ++ "] === ".toBytes ++ quoted (Json.compact expected).toBytes

end Matcher

/-- Runs matchers in order, collecting their outcomes under the expectation's name. -/
def run (name : String) (params : UriParams) (ms : List Matcher) (r : Request) : Result :=
  { name, outcomes := ms.map (Matcher.check params r) }

end HttpMock.Match
