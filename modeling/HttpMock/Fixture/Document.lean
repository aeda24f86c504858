import HttpMock.Fixture.Shape
/-! Fixture documents, their declared expectations, and the checks of the fixture schema. -/
namespace HttpMock.Fixture

/-- The expected attributes of a part of a multipart body; empty means not matched. -/
structure PartDecl where
  mimetype : String := ""
  filename : String := ""
  content : String := ""
  deriving Inhabited

/-- The conditions on a request; empty parts are not matched. -/
structure RequestDecl where
  method : String := ""
  uri : String := ""
  uriParams : List (String × String) := []
  headers : List (String × String) := []
  queryParams : List (String × String) := []
  requestParams : List (String × String) := []
  multiparts : List (String × PartDecl) := []
  json : Option (Except String Json) := none
  xml : String := ""
  content : Option String := none
  jsonPath : List (String × Except String Json) := []
  that : String := ""
  deriving Inhabited

/-- A response to give, or an error to raise when `error` is set. -/
structure ResponseDecl where
  status : Int := 0
  headers : List (String × String) := []
  body : Option String := none
  json : Option (Except String Json) := none
  error : String := ""
  deriving Inhabited

/-- A declared expectation. -/
structure ExpectationDecl where
  name : String := ""
  request : RequestDecl := {}
  responses : List ResponseDecl := []
  always : Option ResponseDecl := none
  deriving Inhabited

/-- A fixture document, with the file it came from. -/
structure Document where
  version : String := ""
  expectations : Option (List ExpectationDecl) := none
  source : String := ""
  deriving Inhabited

/-- A map from strings to strings. -/
def stringMap : Shape := .dict .text

/-- The shape of a response. -/
def responseShape : Shape :=
  .record "Response" [("status", .integer), ("headers", stringMap), ("body", .optional .text),
    ("json", .anything), ("error", .text)]

/-- The shape of a part. -/
def partShape : Shape :=
  .record "Multipart" [("mimetype", .text), ("filename", .text), ("content", .text)]

/-- The shape of a request. -/
def requestShape : Shape :=
  .record "Request" [("method", .text), ("uri", .text), ("uriParams", stringMap), ("headers", stringMap),
    ("queryParams", stringMap), ("requestParams", stringMap), ("multiparts", .dict partShape),
    ("json", .anything), ("xml", .text), ("content", .optional .text), ("jsonPath", .dict .anything),
    ("that", .text)]

/-- The shape of an expectation. -/
def expectationShape : Shape :=
  .record "Expectation" [("name", .text), ("request", requestShape), ("responses", .list responseShape),
    ("always", .optional responseShape)]

/-- The shape of a document. -/
def documentShape : Shape :=
  .record "Document" [("version", .text), ("expectations", .list expectationShape)]

namespace Datum

/-- A response from its data. -/
def toResponse (d : Datum) : ResponseDecl :=
  { status := (d.get "status").int, headers := (d.get "headers").strings, body := (d.get "body").str?,
    json := (d.get "json").json?, error := (d.get "error").str }

/-- A part from its data. -/
def toPart (d : Datum) : PartDecl :=
  { mimetype := (d.get "mimetype").str, filename := (d.get "filename").str, content := (d.get "content").str }

/-- Any data in a map: nothing is null. -/
def jsonOrNull : Datum → Except String Json
  | .json v => v
  | _ => .ok .null

/-- A request from its data. -/
def toRequest (d : Datum) : RequestDecl :=
  { method := (d.get "method").str, uri := (d.get "uri").str, uriParams := (d.get "uriParams").strings,
    headers := (d.get "headers").strings, queryParams := (d.get "queryParams").strings,
    requestParams := (d.get "requestParams").strings,
    multiparts := (d.get "multiparts").entries.map fun (k, v) => (k, v.toPart),
    json := (d.get "json").json?, xml := (d.get "xml").str, content := (d.get "content").str?,
    jsonPath := (d.get "jsonPath").entries.map fun (k, v) => (k, v.jsonOrNull), that := (d.get "that").str }

/-- An expectation from its data. -/
def toExpectation (d : Datum) : ExpectationDecl :=
  { name := (d.get "name").str, request := (d.get "request").toRequest,
    responses := (d.get "responses").items.map toResponse,
    always := match d.get "always" with
      | .none => Option.none
      | r => some r.toResponse }

/-- A document from its data. -/
def toDocument (d : Datum) : Document :=
  { version := (d.get "version").str,
    expectations := match d.get "expectations" with
      | .list xs => some (xs.map toExpectation)
      | _ => Option.none }

end Datum

/-- The first value in a list that has no JSON form. -/
def firstProblem (vs : List (Except String Json)) : Option String :=
  vs.findSome? fun v => match v with
    | .error e => some e
    | .ok _ => none

/-- Why a document has no JSON form, looking at its parts in the order they are written: the
JSON of each request, its JSON paths by key, then the JSON of its responses. -/
def Document.encodingProblem (d : Document) : Option String :=
  firstProblem ((d.expectations.getD []).flatMap fun x =>
    x.request.json.toList ++
      ((x.request.jsonPath.mergeSort fun a b => decide (a.1 ≤ b.1)).map (·.2)) ++
      (x.responses.flatMap fun r => r.json.toList) ++
      (x.always.toList.flatMap fun r => r.json.toList))

/-- Whether a response is set to an error and the reports about it, at its place. -/
def ResponseDecl.violations (r : ResponseDecl) (place : String) : List String :=
  let line (p m : String) : String := "  " ++ p ++ ": " ++ m
  (if r.status ≠ 0 && r.status < 100 then [line (place ++ "/status") ("must be >= 100 but found " ++ toString r.status)] else []) ++
  (if r.status > 599 then [line (place ++ "/status") ("must be <= 599 but found " ++ toString r.status)] else []) ++
  (if r.body.isSome && r.json.isSome then [line place "not failed"] else []) ++
  (if r.error ≠ "" then
    (if r.status ≠ 0 then [line (place ++ "/status") "not allowed"] else []) ++
    (if !r.headers.isEmpty then [line (place ++ "/headers") "not allowed"] else []) ++
    (if r.body.isSome then [line (place ++ "/body") "not allowed"] else []) ++
    (if r.json.isSome then [line (place ++ "/json") "not allowed"] else [])
   else [])

/-- The reports about a request, at its place: one for each pair of bodies it gives. -/
def RequestDecl.violations (q : RequestDecl) (place : String) : List String :=
  let hasJson := q.json.isSome
  let hasXml := q.xml ≠ ""
  let hasContent := q.content.isSome
  let line := "  " ++ place ++ ": not failed"
  (if hasJson && hasXml then [line] else []) ++ (if hasJson && hasContent then [line] else []) ++
    (if hasXml && hasContent then [line] else [])

/-- The reports about an expectation at an index. -/
def ExpectationDecl.violations (x : ExpectationDecl) (i : Nat) : List String :=
  let place := "/expectations/" ++ toString i
  x.request.violations (place ++ "/request") ++
    (x.responses.zipIdx.flatMap fun (r, j) => r.violations (place ++ "/responses/" ++ toString j)) ++
    (x.always.toList.flatMap fun r => r.violations (place ++ "/always")) ++
    (if !x.responses.isEmpty && x.always.isSome then ["  " ++ place ++ ": not failed"] else [])

/-- Every report about a document, sorted. -/
def Document.violations (d : Document) : List String :=
  let all :=
    (if d.version ≠ "1" then ["  /version: value must be \"1\""] else []) ++
    (match d.expectations with
      | none => ["  /expectations: expected array, but got null"]
      | some xs => xs.zipIdx.flatMap fun (x, i) => x.violations i)
  all.mergeSort fun a b => decide (a ≤ b)

/-- Checks a document against the schema: why it has no JSON form, or its violations joined one
per line. -/
def Document.check (d : Document) : Except String Unit :=
  match d.encodingProblem with
  | some e => .error (": " ++ e)
  | none =>
    match d.violations with
    | [] => .ok ()
    | vs => .error (":\n" ++ "\n".intercalate vs)

end HttpMock.Fixture
