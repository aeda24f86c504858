import HttpMock.Collection
/-! A collection behind a client with a compact header model. -/
namespace HttpMock.Transport

/-- The user agent the compact client sends by default. -/
def compactAgent : Bytes := "fasthttp".toBytes

/-- The rest of a header name after its first octet: upper case right after a `-` (which
then counts as an ordinary octet), lower case elsewhere. -/
def titleRest : Bytes → Bytes
  | 0x2D :: b :: rest => 0x2D :: Bytes.asciiUpper b :: titleRest rest
  | b :: rest => Bytes.asciiLower b :: titleRest rest
  | [] => []

/-- A header name with upper case at the start and after each `-`, lower case elsewhere. -/
def titleCase : Bytes → Bytes
  | [] => []
  | b :: rest => Bytes.asciiUpper b :: titleRest rest

/-- Reads cookies: `name=value` pairs separated by `;`, blanks trimmed. -/
def parseCookies (v : Bytes) : List (Bytes × Bytes) :=
  (v.splitOn 0x3B).filterMap fun part =>
    let t := Text.trim part
    let (k, rest) := t.cut 0x3D
    match rest with
    | some value =>
      let k := Text.trim k
      let value := Text.trim value
      if k.isEmpty && value.isEmpty then none else some (k, value)
    | none => if t.isEmpty then none else some ([], t)

/-- Writes cookies back: `name=value` pairs joined by `; `. -/
def renderCookies (cs : List (Bytes × Bytes)) : Bytes :=
  ("; ".toBytes).intercalate (cs.map fun (k, v) => if k.isEmpty then v else k ++ [0x3D] ++ v)

/-- A request of the compact client. -/
structure CompactRequest where
  method : Bytes := "GET".toBytes
  uri : Bytes := []
  host : Bytes := []
  contentLength : Bytes := []
  contentType : Bytes := []
  userAgent : Bytes := []
  cookies : List (Bytes × Bytes) := []
  /-- Other headers, once per name, in the order first set. -/
  others : Table Bytes := []
  body : Bytes := []
  deriving Inhabited

namespace CompactRequest

private def isDigit (b : UInt8) : Bool := 0x30 ≤ b && b ≤ 0x39

/-- Sets a header: the special headers go to their slots, cookies are added to the cookies, and
any other header replaces the one of its name. -/
def setHeader (r : CompactRequest) (name value : Bytes) : CompactRequest :=
  let k := titleCase name
  if k == "Content-Type".toBytes then { r with contentType := value }
  else if k == "Content-Length".toBytes then
    if !value.isEmpty && value.all isDigit then { r with contentLength := value } else r
  else if k == "Cookie".toBytes then { r with cookies := r.cookies ++ parseCookies value }
  else if k == "Host".toBytes then { r with host := value }
  else if k == "User-Agent".toBytes then { r with userAgent := value }
  else if k == "Transfer-Encoding".toBytes then r
  else { r with others := r.others.insert k value }

/-- The header lines, in the client's order. -/
def headerLines (r : CompactRequest) : List Bytes :=
  let line (k v : Bytes) : Bytes := k ++ ": ".toBytes ++ v
  (if r.host.isEmpty then [] else [line "Host".toBytes r.host]) ++
  (if r.contentLength.isEmpty then [] else [line "Content-Length".toBytes r.contentLength]) ++
  (if r.contentType.isEmpty then [] else [line "Content-Type".toBytes r.contentType]) ++
  (if r.userAgent.isEmpty then [] else [line "User-Agent".toBytes r.userAgent]) ++
  (if r.cookies.isEmpty then [] else [line "Cookie".toBytes (renderCookies r.cookies)]) ++
  r.others.map fun (k, v) => line k v

end CompactRequest

/-- Octets a path keeps as they are: letters, digits, `-_.~` and `$&+,/:;=@`. -/
def pathSafe (b : UInt8) : Bool :=
  (0x41 ≤ b && b ≤ 0x5A) || (0x61 ≤ b && b ≤ 0x7A) || (0x30 ≤ b && b ≤ 0x39) ||
    "-_.~$&+,/:;=@".toBytes.contains b

/-- Decodes the `%XX` escapes of a path; a broken escape stays as it is, and `+` is kept. -/
def decodePath : Bytes → Bytes
  | 0x25 :: h :: l :: rest =>
    match Bytes.hexValue? h, Bytes.hexValue? l with
    | some a, some b => UInt8.ofNat (16 * a + b) :: decodePath rest
    | _, _ => 0x25 :: decodePath (h :: l :: rest)
  | b :: rest => b :: decodePath rest
  | [] => []

/-- Collapses repeated slashes. -/
def collapseSlashes : Bytes → Bytes
  | 0x2F :: 0x2F :: rest => collapseSlashes (0x2F :: rest)
  | b :: rest => b :: collapseSlashes rest
  | [] => []

/-- The first position of a pattern in a text. -/
def firstIndex (pat : Bytes) : Bytes → Option Nat
  | [] => if pat.isEmpty then some 0 else none
  | b :: rest => if pat.isPrefixOf (b :: rest) then some 0 else (firstIndex pat rest).map (· + 1)

/-- The last position of an octet among the first `n` octets of a text. -/
def lastIndexBefore (bs : Bytes) (n : Nat) (b : UInt8) : Option Nat :=
  ((bs.take n).reverse.findIdx? (· = b)).map fun k => (min n bs.length) - 1 - k

/-- Replaces each `/./` by `/`, the leftmost first; each step shortens the path. -/
def dropSelfSegments (fuel : Nat) (p : Bytes) : Bytes :=
  match fuel with
  | 0 => p
  | fuel + 1 =>
    match firstIndex "/./".toBytes p with
    | some n => dropSelfSegments fuel (p.take n ++ p.drop (n + 2))
    | none => p

/-- Removes each `/name/..` before a slash, the leftmost `/../` first; a `/../` at the start goes
away alone. -/
def dropParentSegments (fuel : Nat) (p : Bytes) : Bytes :=
  match fuel with
  | 0 => p
  | fuel + 1 =>
    match firstIndex "/../".toBytes p with
    | some n =>
      let from_ := (lastIndexBefore p n 0x2F).getD 0
      dropParentSegments fuel (p.take from_ ++ p.drop (n + 3))
    | none => p

/-- Removes a final `/name/..`, keeping the slash before it; a path that is nothing but `/..`
becomes `/`. -/
def dropTrailingParent (p : Bytes) : Bytes :=
  if Bytes.endsWith p "/..".toBytes then
    match lastIndexBefore p (p.length - 3) 0x2F with
    | some k => p.take (k + 1)
    | none => [0x2F]
  else p

/-- The normalized path of a URI, escaped again: a leading slash added, escapes decoded,
repeated slashes collapsed and dot segments removed. -/
def normalizePath (p : Bytes) : Bytes :=
  let p := match p with
    | 0x2F :: _ => p
    | _ => 0x2F :: p
  let p := collapseSlashes (decodePath p)
  let p := dropTrailingParent (dropParentSegments p.length (dropSelfSegments p.length p))
  if p == "*".toBytes then p
  else p.flatMap fun b => if pathSafe b then [b] else 0x25 :: (Bytes.hexPair b true).toBytes

/-- A URI split into scheme, host and the rest. A URI with `//` after a scheme-like prefix names
its host, which runs to the first `/` or `?`; otherwise the host is the given one. -/
def splitHostUri (host uri : Bytes) : Bytes × Bytes × Bytes :=
  match firstIndex "//".toBytes uri with
  | none => ("http".toBytes, host, uri)
  | some n =>
    let scheme := uri.take n
    if scheme.contains 0x2F then ("http".toBytes, host, uri)
    else
      let scheme := if scheme.getLast? == some 0x3A then scheme.dropLast else scheme
      let rest := uri.drop (n + 2)
      let stop := match rest.findIdx? (· = 0x2F), rest.findIdx? (· = 0x3F) with
        | some a, some b => some (min a b)
        | none, some b => some b
        | a, none => a
      match stop with
      | none => (scheme, rest, "/".toBytes)
      | some k => (scheme, rest.take k, rest.drop k)

/-- What the compact client makes of a request URI: the scheme (lower case), the host (lower
case, without user information) and the request URI (normalized path and query, no fragment).
The host header counts when the URI has no `://`. -/
def compactTarget (hostHeader uri : Bytes) : Bytes × Bytes × Bytes :=
  let (scheme, host, rest) :=
    if hostHeader.isEmpty || (firstIndex "://".toBytes uri).isSome then splitHostUri hostHeader uri
    else ([], hostHeader, uri)
  let host := match host.reverse.findIdx? (· = 0x40) with
    | some k => host.drop (host.length - k)
    | none => host
  let noFragment := rest.takeWhile (· ≠ 0x23)
  let (path, query) := Bytes.cut noFragment 0x3F
  let query := query.getD []
  let requestUri := normalizePath path ++ (if query.isEmpty then [] else 0x3F :: query)
  let scheme := if scheme.isEmpty then "http".toBytes else scheme.map Bytes.asciiLower
  (scheme, host.map Bytes.asciiLower, requestUri)

/-- The error of a host client asked for a URI of another scheme than its own. -/
def schemeMismatch : String :=
  "HostClient can\x27t follow redirects to a different protocol, please use Client instead"

/-- The header lines of a response, in the compact client's order: the length, the content type
(plain text unless set), the encoding, the server and the cookies, then the other headers, and a
closing connection last. -/
def compactResponseHeaders (r : Response) : List Bytes :=
  let all := r.headers.sorted.flatMap fun (k, vs) => vs.map fun v => (titleCase k, v)
  let pick (name : String) : Option Bytes := ((all.filter (·.1 == name.toBytes)).getLast?).map (·.2)
  let line (k v : Bytes) : Bytes := k ++ ": ".toBytes ++ v
  let one (name : String) : List Bytes := match pick name with
    | some v => [line name.toBytes v]
    | none => []
  let isDigit (b : UInt8) : Bool := 0x30 ≤ b && b ≤ 0x39
  let length := match pick "Content-Length" with
    | some v => if !v.isEmpty && v.all isDigit then [line "Content-Length".toBytes v] else []
    | none => []
  let special := ["Content-Type", "Content-Length", "Server", "Content-Encoding", "Set-Cookie",
    "Transfer-Encoding", "Date"].map String.toBytes
  let closes := all.any fun (k, v) => k == "Connection".toBytes && v == "close".toBytes
  length ++
  [line "Content-Type".toBytes ((pick "Content-Type").getD "text/plain; charset=utf-8".toBytes)] ++
  one "Content-Encoding" ++ one "Server" ++
  ((all.filter (·.1 == "Set-Cookie".toBytes)).map fun (_, v) => line "Set-Cookie".toBytes v) ++
  ((all.filter fun (k, v) => !special.contains k && !(k == "Connection".toBytes && v == "close".toBytes)).map
    fun (k, v) => line k v) ++
  (if closes then [line "Connection".toBytes "close".toBytes] else [])

/-- Sends a request of the compact client to a collection. A URI that names a host goes through
a client for that host, which adds its user agent and refuses a secure scheme; one that does not
goes to the collection as it is. -/
def compactSend (c : Collection) (resolver : Resolver) (r : CompactRequest) :
    Except MockError Response × Collection × Trace :=
  let (scheme, host, requestUri) := compactTarget r.host r.uri
  let method := if r.method.isEmpty then "GET".toBytes else r.method
  let options (r : CompactRequest) : Options :=
    { headers := r.headerLines, body := if r.body.isEmpty then none else some (.raw r.body) }
  if host.isEmpty then c.perform resolver method requestUri (options r)
  else if scheme == "https".toBytes then (.error (.raised schemeMismatch.toBytes none), c, {})
  else
    let r := if r.userAgent.isEmpty then { r with userAgent := compactAgent } else r
    c.perform resolver method (scheme ++ "://".toBytes ++ host ++ requestUri) (options r)

end HttpMock.Transport
