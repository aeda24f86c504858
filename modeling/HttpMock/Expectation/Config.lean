import HttpMock.Expectation.Basic
import HttpMock.Text.Base64
import HttpMock.Text.Printf
import HttpMock.Request.Sniff
import HttpMock.Request.Multipart
import HttpMock.Request.MediaType
/-! Configuring an expectation; a value that cannot make its matcher records an error. -/
namespace HttpMock.Expectation

/-- Sets the name. -/
def withName (e : Expectation) (n : String) : Expectation := { e with name := n }

/-- Expects a method. -/
def withMethod (e : Expectation) (m : Bytes) : Expectation := e.setMatcher .method [] (.method m)

/-- Expects a method that a callback accepts. -/
def withMethodWhen (e : Expectation) (p : Bytes → Bool) : Expectation :=
  e.setMatcher .method [] (.methodWhen p)

/-- Expects a URI; a pattern with a query is refused. -/
def withUri (e : Expectation) (pattern : Bytes) : Expectation :=
  match Match.Matcher.ofUri pattern with
  | .ok m => e.setMatcher .uri [] m
  | .error x => e.fail (.payload x)

/-- Expects a URI that a callback accepts. -/
def withUriWhen (e : Expectation) (p : Bytes → Match.UriParams → Bool) : Expectation :=
  e.setMatcher .uri [] (.uriWhen p)

/-- Sets a URI parameter. -/
def withUriParam (e : Expectation) (k v : Bytes) : Expectation :=
  { e with uriParams := e.uriParams.insert k v }

/-- Expects a header, by name in any case. -/
def withHeader (e : Expectation) (name value : Bytes) : Expectation :=
  let n := Text.lower name
  e.setMatcher .header n (.header n value)

/-- Expects basic authentication with a user and a password. -/
def withBasicAuth (e : Expectation) (user pass : Bytes) : Expectation :=
  e.withHeader "Authorization".toBytes ("Basic ".toBytes ++ (Text.Base64.encode (user ++ [0x3A] ++ pass)).toBytes)

/-- Expects a raw body. -/
def withContent (e : Expectation) (c : Bytes) : Expectation := e.setMatcher .content [] (.content c)

/-- Expects a raw body that a callback accepts. -/
def withContentWhen (e : Expectation) (p : Option Bytes → Bool) : Expectation :=
  e.setMatcher .content [] (.contentWhen p)

/-- Expects a JSON body. -/
def withJson (e : Expectation) (v : Option Payload) : Expectation :=
  match Match.Matcher.ofJson v with
  | .ok m => e.setMatcher .json [] m
  | .error x => e.fail (.payload x)

/-- Expects a JSON body that a callback accepts. -/
def withJsonWhen (e : Expectation) (p : Option Json → Bool) : Expectation :=
  e.setMatcher .json [] (.jsonWhen p)

/-- Expects an XML body. -/
def withXml (e : Expectation) (raw : Bytes) : Expectation :=
  match Match.Matcher.ofXml raw with
  | .ok m => e.setMatcher .xml [] m
  | .error x => e.fail (.payload x)

/-- Expects a well-formed XML body that a callback accepts. -/
def withXmlWhen (e : Expectation) (p : Bytes → Bool) : Expectation :=
  e.setMatcher .xml [] (.xmlWhen p)

/-- Expects a query parameter; with arguments the value is a template filled with them. -/
def withQueryParam (e : Expectation) (key value : Bytes) (args : List Text.PrintfArg := []) :
    Expectation :=
  let v := if args.isEmpty then value else Text.printf value args
  e.setMatcher .queryParam key (Match.Matcher.ofQueryParam key v)

/-- Expects a form parameter. -/
def withRequestParam (e : Expectation) (key value : Bytes) : Expectation :=
  e.setMatcher .requestParam key (.requestParam key value)

/-- Expects a part of a multipart body. -/
def withPart (e : Expectation) (name : Bytes) (spec : Match.PartSpec) : Expectation :=
  e.setMatcher .multipart name (.multipart name spec)

/-- The extension of a path's last element, with its dot. -/
def extension (path : Bytes) : Bytes :=
  let last := path.reverse.takeWhile (· ≠ 0x2F)
  match last.findIdx? (· = 0x2E) with
  | some i => (last.take (i + 1)).reverse
  | none => []

/-- The media type of a file: by its extension, else by its content, without parameters. -/
def fileMediaType (path data : Bytes) : Bytes :=
  let t := (Sniff.byExtension (extension path)).getD (Sniff.detect data)
  match MediaType.parse t with
  | .ok (m, _) => m
  | .error _ => t

/-- Expects a part holding a file: its base name, its content and its media type, which is
found from the file when none is given. A file that does not exist is a configuration error. -/
def withFilePart (e : Expectation) (name path : Bytes) (contents : Option Bytes) (mimetype : Bytes) :
    Expectation :=
  match contents with
  | none => e.fail (.unreadableFile ("open " ++ Bytes.toText path ++ ": no such file or directory"))
  | some data =>
    let m := if mimetype.isEmpty then fileMediaType path data else mimetype
    e.withPart name { mimetype := m, filename := Multipart.baseName path, content := data }

/-- Expects a request that a callback accepts. -/
def withThat (e : Expectation) (p : Request → Bool) : Expectation := e.setMatcher .that [] (.that p)

/-- Expects a JSON path to select a value. -/
def withJsonPath (e : Expectation) (path : Bytes) (v : Option Payload) : Expectation :=
  match Match.Matcher.ofJsonPath path v with
  | .ok m => e.setMatcher .jsonPath path m
  | .error x => e.fail (.payload x)

/-- Adds an assertion. -/
def withAssertion (e : Expectation) (a : Assertion) : Expectation :=
  { e with assertions := e.assertions ++ [a] }

/-- Sets the hook told of each match. -/
def withOnMatch (e : Expectation) (label : String) : Expectation := { e with onMatch := some label }

/-- Adds a reply, to the sequence or as the reply to every request. -/
def addReply (e : Expectation) (x : Reply) (always : Bool) : Expectation :=
  match (if always then e.replies.addAlways x else e.replies.add x) with
  | .ok q => { e with replies := q }
  | .error q => e.fail (.addResponse (.queue q) e.render)

/-- Adds a response; a missing builder, or one that failed, is a configuration error. -/
def willRespond (e : Expectation) (b : Option Response.Builder) (always : Bool := false) :
    Expectation :=
  match b with
  | none => e.fail .missingBuilder
  | some b =>
    match b.failure? with
    | some x => e.fail (.build x)
    | none => e.addReply (.respond b) always

/-- Adds an error to answer with: its message, and the error it wraps, if any. -/
def willThrow (e : Expectation) (message : Bytes) (always : Bool := false)
    (wraps : Option MockError := none) : Expectation :=
  e.addReply (.raise message wraps) always

/-- Forgets every reply. -/
def resetReplies (e : Expectation) : Expectation := { e with replies := e.replies.reset }

/-- An expectation for a method and a URI: the method if given, a query parameter for each
`key=value` of the URI's query (values percent-decoded when they can be), then the URI without
its query if it is not empty. -/
def forRequestLine (e : Expectation) (method uri : Bytes) : Expectation :=
  let e := if method.isEmpty then e else e.withMethod method
  let (base, query) := uri.cut 0x3F
  let e := match query with
    | some q => (q.splitAt 0x26).foldl (fun e pair =>
        let (k, v) := pair.cut 0x3D
        if k.isEmpty then e
        else e.withQueryParam k (Text.Percent.decodeOrKeep (v.getD []))) e
    | none => e
  if base.isEmpty then e else e.withUri base

/-- An expectation that accepts exactly a given request: its method, URI, headers and query
parameters, and the most specific form of its body (JSON, else form parameters, else parts,
else the raw content). -/
def ofRequest (method url : Bytes) (o : Options) : Except MockError Expectation := do
  let r ← (Request.normalize method url o).mapError MockError.request
  let e := ({} : Expectation).withMethod r.method |>.withUri r.uri
  let e := r.headers.sorted.foldl (fun e (k, v) => e.withHeader k v) e
  let e := r.queryParams.sorted.foldl (fun e (k, v) =>
    match v with
    | .single x => e.withQueryParam k x
    | .list xs => xs.foldl (fun e x =>
        e.setMatcher .queryParam (k ++ "[]=".toBytes ++ x) (.queryParam k x true)) e) e
  let e :=
    match r.json with
    | some j => e.withJson (some (.json j))
    | none =>
      if !r.requestParams.isEmpty then
        r.requestParams.sorted.foldl (fun e (k, v) => e.withRequestParam k v) e
      else if !r.multiparts.isEmpty then
        r.multiparts.sorted.foldl (fun (e : Expectation) (kp : Bytes × Part) => e.withPart kp.1
          { mimetype := kp.2.mimetype.getD [], filename := kp.2.filename.getD [],
            content := kp.2.content.getD [] }) e
      else
        match r.content with
        | some c => e.withContent c
        | none => e
  match e.err with
  | some x => throw x
  | none => pure e

end HttpMock.Expectation
