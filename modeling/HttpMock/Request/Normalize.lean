import HttpMock.Request.Query
import HttpMock.Request.Multipart
import HttpMock.Json.Read
import HttpMock.Text.Blank
import HttpMock.Text.Case
import HttpMock.Regex.Match
/-! Normalizing a request: its query, its headers and its body by content type. -/
namespace HttpMock

/-- Why a request cannot be normalized. -/
inductive RequestError where
  /-- A header line without a colon. -/
  | malformedHeader (line : Bytes)
  /-- A body that cannot be read as its content type requires; the detail says why. -/
  | unprocessableBody (detail : String)
  deriving DecidableEq, Repr

/-- The message of a request error. -/
def RequestError.message : RequestError → String
  | .malformedHeader line => "malformed header line: " ++ Text.quote line
  | .unprocessableBody detail => "unprocessable request body: " ++ detail

/-- A request body as a caller hands it over. -/
inductive Body where
  /-- Text or bytes. -/
  | raw (content : Bytes)
  /-- A stream: the chunks that successive reads return, after which every read returns an
  empty chunk. -/
  | stream (chunks : List Bytes)
  /-- A structured value. -/
  | value (v : Payload)
  deriving Inhabited

/-- What a request is built from, besides its method and URL. -/
structure Options where
  /-- Header lines, `Name: value`. -/
  headers : List Bytes := []
  queryParams : Table QueryValue := []
  json : Option Payload := none
  body : Option Body := none
  deriving Inhabited

/-- A decimal integer with an optional sign, clamped to the 64-bit range; `0` for any other
text. -/
def parseInteger (bs : Bytes) : Int :=
  let (neg, digits) := match bs with
    | 0x2D :: r => (true, r)
    | 0x2B :: r => (false, r)
    | r => (false, r)
  if digits.isEmpty || !digits.all (fun b => 0x30 ≤ b && b ≤ 0x39) then 0
  else
    let n : Nat := digits.foldl (fun a b => 10 * a + (b.toNat - 0x30)) 0
    if neg then max (-(n : Int)) (-Int.pow 2 63) else min (n : Int) (Int.pow 2 63 - 1)

/-- The size asked of a stream on every read: the content length when positive, else 1000. -/
def readSize (contentLength : Int) : Int := if contentLength > 0 then contentLength else 1000

/-- Reads a stream for at most `fuel` more reads, where `read size i` is the chunk that the read
with index `i` returns when it asks for `size` octets. After the octets `acc` and the sizes `asked`
of the reads so far, it reads chunk after chunk until an empty one, or, with a positive content
length, until at least that many octets have arrived: the content and the size asked on each
read, or `none` when the reads allowed run out first. -/
def drainFor (read : Int → Nat → Bytes) (contentLength : Int) :
    Nat → Bytes → List Int → Option (Bytes × List Int)
  | 0, _, _ => none
  | fuel + 1, acc, asked =>
    let size := readSize contentLength
    let c := read size asked.length
    if c.isEmpty then some (acc, asked ++ [size])
    else
      let acc := acc ++ c
      if contentLength > 0 && (acc.length : Int) ≥ contentLength then some (acc, asked ++ [size])
      else drainFor read contentLength fuel acc (asked ++ [size])

/-- Reads a stream given by its chunks, after which every read returns an empty chunk: the content,
and the size asked on each read. The read after the last chunk ends the loop at the latest. -/
def drain (chunks : List Bytes) (contentLength : Int) : Bytes × List Int :=
  (drainFor (fun _ i => chunks.getD i []) contentLength (chunks.length + 1) [] []).getD ([], [])

/-- The pattern that must occur somewhere in a form body for its pairs to be read; pairs that do
not fit it are split all the same. -/
def formBodyPattern : String := "[^=]+=[^=]*(&[^=]+=[^=]*)*"

/-- The form body pattern, compiled. -/
def formBodyProgram : Regex.Program := (Regex.compile formBodyPattern).toOption.getD default

/-- The form parameters of a URL-encoded body: pairs split on `&`, the key before the first
`=`, the value between the first and the second, both percent-decoded; the last of equal keys
wins. -/
def formParams (raw : Bytes) : Table Bytes :=
  if !formBodyProgram.search raw then []
  else (raw.splitAt 0x26).foldl (fun acc pair =>
    let (k, rest) := pair.cut 0x3D
    let v := ((rest.getD []).cut 0x3D).1
    acc.insert (Text.Percent.decodeOrKeep k) (Text.Percent.decodeOrKeep v)) []

namespace Options

/-- The header table: names trimmed and in lower case, one leading space dropped from values. -/
def headerTable (o : Options) : Except RequestError (Table Bytes) :=
  o.headers.foldlM (fun acc line =>
    match line.cut 0x3A with
    | (_, none) => throw (.malformedHeader line)
    | (name, some value) =>
      let value := match value with
        | 0x20 :: v => v
        | v => v
      pure (acc.insert (Text.lower (Text.trim name)) value)) []

/-- The content length a header table declares. -/
def contentLength (headers : Table Bytes) : Int :=
  parseInteger ((headers.get? "content-length".toBytes).getD [])

/-- The raw body octets, when the body is text, bytes or a stream. -/
def rawBody (headers : Table Bytes) : Body → Option Bytes
  | .raw b => some b
  | .stream cs => some (drain cs (contentLength headers)).1
  | .value _ => none

/-- The sizes that reading a streamed body asks for, one per read; empty for other bodies. -/
def sizeHints (o : Options) : List Int :=
  match o.body, o.headerTable with
  | some (.stream cs), .ok headers => (drain cs (contentLength headers)).2
  | _, _ => []

end Options

/-- Reads the JSON data of a raw body with binary64 numbers; `none` when it is not JSON. The
outer `none` means the body is not JSON at all; `some none` is a body that is `null`. -/
def rawJson? (raw : Bytes) : Option (Option Json) :=
  match Json.parse raw with
  | .error _ => none
  | .ok v =>
    match Json.toFloats v with
    | .ok .null => some none
    | .ok w => some (some w)
    | .error _ => none

/-- The parts of a multipart body, by name, the last of equal names winning. -/
def multipartTable (contentType raw : Bytes) : Except RequestError (Table Part) := do
  let (_, params) ← match MediaType.parse contentType with
    | .ok r => pure r
    | .error e => throw (.unprocessableBody e)
  let boundary := (params.get? "boundary".toBytes).getD []
  if boundary.isEmpty then throw (.unprocessableBody "multipart boundary missing")
  match Multipart.readParts boundary raw with
  | .ok parts => pure (parts.foldl (fun acc p => acc.insert p.name p) [])
  | .error e => throw (.unprocessableBody e)

/-- Normalizes a request from its method, URL and options. -/
def Request.normalize (method url : Bytes) (o : Options) : Except RequestError Request := do
  let (uri, query) := url.cut 0x3F
  let queryParams := match query with
    | some q => o.queryParams.insertAll (Query.parse q)
    | none => o.queryParams
  let headers ← o.headerTable
  let json ← match o.json with
    | none => pure none
    | some p => match p.normalize with
      | .ok v => pure v
      | .error e => throw (.unprocessableBody e)
  let base : Request := { method, uri, headers, json, queryParams }
  match o.body with
  | none => pure base
  | some body =>
    let contentType := (headers.get? "content-type".toBytes).getD []
    let raw := Options.rawBody headers body
    let r ←
      if ("application/json".toBytes).isPrefixOf contentType then
        match raw, body with
        | some bs, _ =>
          match rawJson? bs with
          | some v => pure { base with json := v }
          | none => pure base
        | none, .value p =>
          match p.normalize with
          | .ok v => pure { base with json := v }
          | .error e => throw (.unprocessableBody e)
        | none, _ => pure base
      else if ("application/x-www-form-urlencoded".toBytes).isPrefixOf contentType then
        match raw with
        | some bs => pure { base with requestParams := formParams bs }
        | none => throw (.unprocessableBody "form body must be a string")
      else if ("multipart/form-data".toBytes).isPrefixOf contentType then
        match raw with
        | some bs => pure { base with multiparts := ← multipartTable contentType bs }
        | none => throw (.unprocessableBody "multipart body must be a string")
      else pure base
    pure { r with content := raw }

end HttpMock
