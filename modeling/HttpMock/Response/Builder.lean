import HttpMock.Request.Basic
import HttpMock.Json.Read
import HttpMock.Json.Write
import HttpMock.Text.Blank
import HttpMock.Text.Case
import HttpMock.Response.Status
/-! Canned responses and the builder that collects their status, headers and body. -/
namespace HttpMock

/-- A response as a mock hands it back. -/
structure Response where
  /-- The status code as set; `0` means unset and is sent as 200. -/
  status : Int := 0
  /-- Header values by canonical name. -/
  headers : Table (List Bytes) := []
  /-- The body; `none` when none was set, which is sent as an empty body. -/
  body : Option Bytes := none
  deriving Inhabited

namespace Response

/-- The status sent: the status code, or 200 when unset. -/
def effectiveStatus (r : Response) : Int := if r.status = 0 then 200 else r.status

/-- The status line text, `code reason`. -/
def statusLine (r : Response) : String :=
  toString r.effectiveStatus ++ " " ++ statusText r.effectiveStatus

/-- The octets sent as the body: nothing when no body was set. -/
def sentBody (r : Response) : Bytes := r.body.getD []

/-- Octets allowed in a header name: ASCII letters, digits and ``!#$%&'*+-.^_`|~``. -/
def isNameOctet (b : UInt8) : Bool :=
  (0x41 ≤ b && b ≤ 0x5A) || (0x61 ≤ b && b ≤ 0x7A) || (0x30 ≤ b && b ≤ 0x39) ||
    "!#$%&\x27*+-.^_\x60|~".toBytes.contains b

/-- The canonical form of a header name: upper case at the start and after each `-`, lower
case elsewhere. A name with any other octet is kept as written. -/
def canonicalKey (k : Bytes) : Bytes :=
  if !k.all isNameOctet then k
  else
    let step (acc : Bytes × Bool) (b : UInt8) : Bytes × Bool :=
      let (out, upper) := acc
      let c := if upper then Bytes.asciiUpper b else Bytes.asciiLower b
      (c :: out, c = 0x2D)
    (k.foldl step ([], true)).1.reverse

/-- A callback that makes a response from a request: a response, none, or an error message. -/
abbrev Callback := Request → Except String (Option Response)

/-- Why building a response fails. -/
inductive BuildError where
  /-- The callback returned neither a response nor an error. -/
  | callbackNoResponse
  /-- A JSON body could not be encoded. -/
  | encoding (detail : String)
  /-- The callback returned an error. -/
  | raised (message : String)
  deriving DecidableEq, Repr

/-- The message of a build error. -/
def BuildError.message : BuildError → String
  | .callbackNoResponse => "response callback returned no response"
  | .encoding d => "encoding json response body: " ++ d
  | .raised m => m

/-- A response under construction. -/
structure Builder where
  /-- Header values by lower-case name, in the order first set. -/
  headers : Table Bytes := []
  content : Option Bytes := none
  code : Int := 0
  callback : Option Callback := none
  /-- Why the last JSON body that could not be encoded failed. -/
  error : Option String := none
  deriving Inhabited

namespace Builder

/-- Sets the body. -/
def withContent (b : Builder) (c : Bytes) : Builder := { b with content := some c }

/-- Sets a header. -/
def withHeader (b : Builder) (name value : Bytes) : Builder :=
  { b with headers := b.headers.insert (Text.lower name) value }

/-- Sets the content type. -/
def withContentType (b : Builder) (t : Bytes) : Builder := b.withHeader "Content-Type".toBytes t

/-- Sets the content length header. -/
def withContentLength (b : Builder) (n : Int) : Builder :=
  b.withHeader "Content-Length".toBytes (toString n).toBytes

/-- Sets the entity tag header. -/
def withETag (b : Builder) (t : Bytes) : Builder := b.withHeader "ETag".toBytes t

/-- A JSON body: sets the content type; `none` clears the body; a value that cannot be encoded
records the failure and leaves the body as it was. -/
def withJson (b : Builder) (v : Option Payload) : Builder :=
  let b := b.withContentType "application/json".toBytes
  match v with
  | none => { b with content := none }
  | some p =>
    match p.encode with
    | .error e => { b with error := some e }
    | .ok j => b.withContent (Json.compact j).toBytes

/-- An XML body, with its content type. -/
def withXml (b : Builder) (data : Bytes) : Builder :=
  (b.withContentType "text/xml".toBytes).withContent data

/-- Sets the status code. -/
def withCode (b : Builder) (c : Int) : Builder := { b with code := c }

/-- Makes responses with a callback instead. -/
def withCallback (b : Builder) (f : Callback) : Builder := { b with callback := some f }

/-- The recorded encoding failure, as an error. -/
def failure? (b : Builder) : Option BuildError := b.error.map .encoding

/-- Builds the response for a request. -/
def build (b : Builder) (r : Request) : Except BuildError Response :=
  match b.error with
  | some e => throw (.encoding e)
  | none =>
    match b.callback with
    | some f =>
      match f r with
      | .ok (some resp) => pure resp
      | .ok none => throw .callbackNoResponse
      | .error m => throw (.raised m)
    | none =>
      pure { status := b.code,
             headers := b.headers.foldl (fun acc (k, v) => acc.insert (canonicalKey k) [v]) [],
             body := b.content }

/-- The text of a builder: the status code, the headers in canonical form and the body. -/
def render (b : Builder) : Bytes :=
  if b.callback.isSome then "callable(realRequest)".toBytes
  else
    let codeLine := if b.code = 0 then [] else ("HTTP Code: " ++ toString b.code).toBytes
    let hs := b.headers.flatMap fun (k, v) => [0x0A] ++ canonicalKey k ++ [0x3A, 0x20] ++ v
    let s := codeLine ++ hs
    let s := match b.content with
      | some c => if c.isEmpty then s else (if s.isEmpty then s else s ++ [0x0A, 0x0A]) ++ c
      | none => s
    Text.trim s

end Builder

end Response

end HttpMock
