import HttpMock.Fixture.Document
import HttpMock.Expectation.Config
import HttpMock.Collection
import HttpMock.Predicate
/-! Turning fixture documents into expectations and applying them to a collection. -/
namespace HttpMock.Fixture

/-- The entries of a map in key order. -/
def byKey {α : Type} (es : List (String × α)) : List (String × α) :=
  es.mergeSort fun a b => decide (a.1 ≤ b.1)

/-- Declared JSON as a payload, `null` included: a declared value is never absent here, so a
typed nil writes `null`. A value with no JSON form is refused with the encoder's message. -/
def payloadOf : Except String Json → Option Payload
  | .ok j => some (.json j)
  | .error e => some (.refused e)

/-- The builder of a declared response: its status if set, its headers in key order, then its
JSON or else its body. -/
def ResponseDecl.builder (r : ResponseDecl) : Response.Builder :=
  let b : Response.Builder := {}
  let b := if r.status ≠ 0 then b.withCode r.status else b
  let b := (byKey r.headers).foldl (fun b (k, v) => b.withHeader k.toBytes v.toBytes) b
  match r.json, r.body with
  | some j, _ => b.withJson (payloadOf j)
  | none, some body => b.withContent body.toBytes
  | none, none => b

/-- Adds a declared response to an expectation, for one call or for every call. -/
def ResponseDecl.addTo (r : ResponseDecl) (always : Bool) (e : Expectation) : Expectation :=
  if r.error ≠ "" then e.willThrow r.error.toBytes always else e.willRespond (some r.builder) always

/-- Configures the request conditions of a declaration. -/
def RequestDecl.configure (q : RequestDecl) (e : Expectation) : Except MockError Expectation := do
  let e := if q.method ≠ "" then e.withMethod q.method.toBytes else e
  let e := if q.uri ≠ "" then e.withUri q.uri.toBytes else e
  let e := (byKey q.uriParams).foldl (fun e (k, v) => e.withUriParam k.toBytes v.toBytes) e
  let e := (byKey q.headers).foldl (fun e (k, v) => e.withHeader k.toBytes v.toBytes) e
  let e := (byKey q.queryParams).foldl (fun e (k, v) => e.withQueryParam k.toBytes v.toBytes) e
  let e := (byKey q.requestParams).foldl (fun e (k, v) => e.withRequestParam k.toBytes v.toBytes) e
  let e := (byKey q.multiparts).foldl (fun e (k, p) => e.withPart k.toBytes
    { mimetype := p.mimetype.toBytes, filename := p.filename.toBytes, content := p.content.toBytes }) e
  let e := match q.json, q.content with
    | some j, _ => e.withJson (payloadOf j)
    | none, c =>
      if q.xml ≠ "" then e.withXml q.xml.toBytes
      else match c with
        | some c => e.withContent c.toBytes
        | none => e
  let e := (byKey q.jsonPath).foldl (fun e (k, v) => e.withJsonPath k.toBytes (payloadOf v)) e
  if q.that ≠ "" then
    let p ← Predicate.compile q.that
    pure (e.withThat p)
  else pure e

/-- The expectation a declaration describes, or the first error configuring it ran into. -/
def ExpectationDecl.build (x : ExpectationDecl) : Except MockError Expectation := do
  if !x.responses.isEmpty && x.always.isSome then
    throw (.fixture [] "responses and always are mutually exclusive".toBytes)
  let e : Expectation := {}
  let e := if x.name ≠ "" then e.withName x.name else e
  let e ← x.request.configure e
  let e := x.responses.foldl (fun e r => r.addTo false e) e
  let e := match x.always with
    | some a => a.addTo true e
    | none => e
  match e.err with
  | some problem => throw problem
  | none => pure e

/-- Where an expectation of a document is: its index, its name if it has one, and the file the
document came from if it is known. -/
def Document.place (d : Document) (x : ExpectationDecl) (i : Nat) : String :=
  let at_ := "expectations[" ++ toString i ++ "]" ++ (if x.name ≠ "" then " (" ++ x.name ++ ")" else "")
  if d.source ≠ "" then d.source ++ ": " ++ at_ else at_

/-- The error of an expectation of a document that could not be added. -/
def Document.refusal (d : Document) (x : ExpectationDecl) (i : Nat) (cause : MockError) : MockError :=
  .fixture (ErrorKind.ordered (.invalidFixture :: cause.kinds))
    ("invalid fixture: ".toBytes ++ (d.place x i).toBytes ++ ": ".toBytes ++ cause.message)

/-- Adds expectations from the index `i` on, stopping at the first that fails. -/
def Document.applyFrom (d : Document) : List ExpectationDecl → Nat → Collection →
    Option MockError × Collection
  | [], _, c => (none, c)
  | x :: xs, i, c =>
    match x.build >>= c.add with
    | .ok c' => d.applyFrom xs (i + 1) c'
    | .error cause => (some (d.refusal x i cause), c)

/-- Adds every expectation of a document to a collection, in order: the error of the first that
fails, and the collection with those added before it. -/
def Document.apply (d : Document) (c : Collection) : Option MockError × Collection :=
  d.applyFrom (d.expectations.getD []) 0 c

/-- A collection holding the expectations of the documents, or the first error. -/
def collectionOf (docs : List Document) : Except MockError Collection :=
  docs.foldlM (fun c d => match d.apply c with
    | (none, c') => .ok c'
    | (some x, _) => .error x) {}

end HttpMock.Fixture
