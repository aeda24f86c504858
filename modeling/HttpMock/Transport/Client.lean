import HttpMock.Collection
import HttpMock.Transport.Url
/-! A collection behind an HTTP client that may follow redirects. -/
namespace HttpMock.Transport

/-- A request as an HTTP client sends it. -/
structure Outgoing where
  method : Bytes
  url : Url
  /-- The host the request is addressed to. -/
  host : Bytes
  /-- Header values by canonical name, in the order first set. -/
  headers : Table (List Bytes) := []
  body : Bytes := []
  deriving Inhabited

namespace Outgoing

/-- Adds a header value. -/
def addHeader (o : Outgoing) (name value : Bytes) : Outgoing :=
  let k := Response.canonicalKey name
  { o with headers := o.headers.insert k ((o.headers.get? k).getD [] ++ [value]) }

/-- Sets a header to one value. -/
def setHeader (o : Outgoing) (name value : Bytes) : Outgoing :=
  { o with headers := o.headers.insert (Response.canonicalKey name) [value] }

/-- The first value of a header. -/
def header? (o : Outgoing) (name : Bytes) : Option Bytes :=
  (o.headers.get? (Response.canonicalKey name)).bind List.head?

/-- A request from a method, a URL, `Name: value` header lines (both sides trimmed), the host it
is addressed to if not the URL's, and a body. -/
def make (method url : Bytes) (lines : List Bytes) (host : Option Bytes) (body : Bytes) : Outgoing :=
  let u := Url.parse url
  let o : Outgoing := { method, url := u, host := host.getD u.host, body }
  lines.foldl (fun o line =>
    let (name, value) := line.cut 0x3A
    o.addHeader (Text.trim name) (Text.trim (value.getD []))) o

/-- What the collection receives for the request. -/
def options (o : Outgoing) : Options :=
  let lines := o.headers.sorted.map fun (k, vs) => k ++ ": ".toBytes ++ (", ".toBytes).intercalate vs
  let hostLine := if !o.host.isEmpty && !o.url.host.isEmpty && o.host != o.url.host then
    ["Host: ".toBytes ++ o.host] else []
  { headers := lines ++ hostLine, body := if o.body.isEmpty then none else some (.raw o.body) }

/-- The URL the collection receives. -/
def target (o : Outgoing) : Bytes := o.url.withoutFragment.render

end Outgoing

/-- The operation name of a method in client errors: its first letter as it is, the rest in lower
case; `Get` for no method. -/
def operation (method : Bytes) : String :=
  match method with
  | [] => "Get"
  | b :: rest => Bytes.toText (b :: rest.map Bytes.asciiLower)

/-- Whether a response status asks for a redirect, and whether the body goes along. -/
def redirectKind (status : Int) : Option Bool :=
  if status = 301 || status = 302 || status = 303 then some false
  else if status = 307 || status = 308 then some true
  else none

/-- The `Referer` of a redirect: the previous URL, unless it leaves a secure scheme. -/
def referer (last next : Url) : Option Bytes :=
  if last.scheme == "https".toBytes && next.scheme == "http".toBytes then none else some last.render

/-- The first value of a response header. -/
def responseHeader? (r : Response) (name : Bytes) : Option Bytes :=
  (r.headers.get? (Response.canonicalKey name)).bind List.head?

namespace Client

/-- Hands a request to the collection. -/
def roundTrip (c : Collection) (resolver : Resolver) (o : Outgoing) :
    Except MockError Response × Collection × Trace :=
  c.perform resolver o.method o.target o.options

/-- The next request of a redirect, if the response asks for one. -/
def nextHop (first current : Outgoing) (resp : Response) : Option Outgoing := do
  let withBody ← redirectKind resp.effectiveStatus
  let loc ← responseHeader? resp "Location".toBytes
  if loc.isEmpty then none
  let url := current.url.resolve (Url.parse loc)
  let method := if withBody then current.method
    else if current.method == "GET".toBytes || current.method == "HEAD".toBytes then current.method
    else "GET".toBytes
  let next : Outgoing := { method, url, host := url.host, headers := first.headers,
                           body := if withBody then current.body else [] }
  match next.header? "Referer".toBytes with
  | some _ => pure next
  | none =>
    match referer current.url url with
    | some r => pure (next.setHeader "Referer".toBytes r)
    | none => pure next

/-- Sends a request and follows redirects, at most ten. -/
def send (c : Collection) (resolver : Resolver) (o : Outgoing) :
    Except MockError Response × Collection × Trace :=
  let op := operation o.method
  let rec go (fuel : Nat) (c : Collection) (current : Outgoing) (trace : Trace) :
      Except MockError Response × Collection × Trace :=
    let (answer, c, t) := roundTrip c resolver current
    let trace : Trace := { log := trace.log ++ t.log, notices := trace.notices ++ t.notices }
    match answer with
    | .error x => (.error (.client op current.url.render x), c, trace)
    | .ok resp =>
      match nextHop o current resp with
      | none => (.ok resp, c, trace)
      | some next =>
        match fuel with
        | 0 =>
          let loc := (responseHeader? resp "Location".toBytes).getD []
          (.error (.client op loc (.raised "stopped after 10 redirects".toBytes none)), c, trace)
        | fuel + 1 => go fuel c next trace
  go 9 c o {}

end Client

end HttpMock.Transport
