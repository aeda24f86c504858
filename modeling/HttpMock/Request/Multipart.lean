import HttpMock.Request.Basic
import HttpMock.Request.MediaType
import HttpMock.Text.Quoted
/-! Reading a multipart body held in memory. -/
namespace HttpMock.Multipart

/-- The next line with its line feed, the rest, and whether a line feed ended it. -/
def nextLine (bs : Bytes) : Bytes × Bytes × Bool :=
  match bs.cut 0x0A with
  | (front, some rest) => (front ++ [0x0A], rest, true)
  | (front, none) => (front, [], false)

/-- Drops leading spaces and tabs. -/
def skipBlanks (bs : Bytes) : Bytes := bs.dropWhile fun b => b = 0x20 || b = 0x09

/-- Drops leading and trailing spaces and tabs. -/
def trimBlanks (bs : Bytes) : Bytes := (skipBlanks (skipBlanks bs).reverse).reverse

/-- A line without its line break (`\n` or `\r\n`). -/
def chomp (line : Bytes) : Bytes :=
  match line.reverse with
  | 0x0A :: 0x0D :: r => r.reverse
  | 0x0A :: r => r.reverse
  | _ => line

/-- Octets allowed in a header name: ASCII letters, digits and ``!#$%&'*+-.^_`|~``. -/
def isNameOctet (b : UInt8) : Bool :=
  (0x41 ≤ b && b ≤ 0x5A) || (0x61 ≤ b && b ≤ 0x7A) || (0x30 ≤ b && b ≤ 0x39) ||
    "!#$%&'*+-.^_`|~".toBytes.contains b

/-- Octets allowed in a header value: tab, visible ASCII, space and all octets from 0x80. -/
def isValueOctet (b : UInt8) : Bool := b = 0x09 || (0x20 ≤ b && b ≠ 0x7F)

/-- The canonical form of a header name: upper case at the start and after each `-`, lower
case elsewhere. A name with a space is kept as written; `none` for an invalid name. -/
def canonicalName (k : Bytes) : Option Bytes :=
  if k.isEmpty then none
  else if !k.all fun b => isNameOctet b || b = 0x20 then none
  else if k.contains 0x20 then some k
  else
    let step (acc : Bytes × Bool) (b : UInt8) : Bytes × Bool :=
      let (out, upper) := acc
      let c := if upper then Bytes.asciiUpper b else Bytes.asciiLower b
      (c :: out, c = 0x2D)
    some (k.foldl step ([], true)).1.reverse

/-- A header block: values by canonical name, in order of appearance. -/
abbrev Header := Table (List Bytes)

/-- The first value of a header. -/
def Header.first? (h : Header) (name : Bytes) : Option Bytes := (h.get? name).bind List.head?

/-- How reading a header block ended. -/
inductive HeaderEnd where
  /-- A blank line ended the block; the rest follows it. -/
  | block (h : Header) (rest : Bytes)
  /-- The input ended inside the block. -/
  | endOfInput
  /-- A malformed line, with the message. -/
  | malformed (msg : String)

/-- One header line with its continuation lines joined by a space: the line and the rest. -/
def readHeaderLine (line rest : Bytes) : Bytes × Bytes :=
  let rec more (fuel : Nat) (acc rest : Bytes) : Bytes × Bytes :=
    match fuel, rest with
    | fuel + 1, b :: _ =>
      if b = 0x20 || b = 0x09 then
        let (next, rest', _) := nextLine (skipBlanks rest)
        more fuel (acc ++ [0x20] ++ trimBlanks (chomp next)) rest'
      else (acc, rest)
    | _, _ => (acc, rest)
  more rest.length (trimBlanks line) rest

/-- Reads a header block up to its blank line. -/
def readHeader (bs : Bytes) : HeaderEnd :=
  let rec loop (fuel : Nat) (h : Header) (bs : Bytes) : HeaderEnd :=
    match fuel with
    | 0 => .endOfInput
    | fuel + 1 =>
      if bs.isEmpty then .endOfInput
      else
        let (raw, rest, _) := nextLine bs
        let line := chomp raw
        if line.isEmpty then .block h rest
        else if !line.contains 0x3A then
          .malformed ("malformed MIME header: missing colon: " ++ Text.quote line)
        else
          let (kv, rest) := readHeaderLine line rest
          let (k, v) := kv.cut 0x3A
          let v := v.getD []
          match canonicalName k with
          | none => .malformed ("malformed MIME header line: " ++ Bytes.toText kv)
          | some key =>
            if !v.all isValueOctet then .malformed ("malformed MIME header line: " ++ Bytes.toText kv)
            else
              let value := skipBlanks v
              loop fuel (h.insert key ((h.get? key).getD [] ++ [value])) rest
  match bs with
  | b :: _ =>
    if b = 0x20 || b = 0x09 then
      let (raw, _, _) := nextLine bs
      .malformed ("malformed MIME header initial line: " ++ Bytes.toText (chomp raw))
    else loop (bs.length + 1) [] bs
  | [] => .endOfInput

/-- The delimiters of a body: the line break in use and the boundary. -/
structure Delimiters where
  nl : Bytes
  boundary : Bytes

namespace Delimiters

/-- `--boundary`. -/
def dash (d : Delimiters) : Bytes := [0x2D, 0x2D] ++ d.boundary

/-- The line break followed by `--boundary`. -/
def nlDash (d : Delimiters) : Bytes := d.nl ++ d.dash

/-- Whether the line is the closing boundary line. -/
def isFinal (d : Delimiters) (line : Bytes) : Bool :=
  let p := d.dash ++ [0x2D, 0x2D]
  p.isPrefixOf line &&
    (let rest := skipBlanks (line.drop p.length)
     rest.isEmpty || rest == d.nl)

end Delimiters

/-- Whether the octets after a boundary make it one: a blank, a line break, `--` or the end. -/
def endsBoundary (after : Bytes) : Bool :=
  match after with
  | [] => true
  | c :: r => c = 0x20 || c = 0x09 || c = 0x0D || c = 0x0A || (c = 0x2D && r.head? = some 0x2D)

/-- The content of a part: the octets up to the next line break followed by a boundary. At the
very start of the content the boundary needs no line break before it. `none` when the input
ends first. -/
def readContent (d : Delimiters) (bs : Bytes) : Option (Bytes × Bytes) :=
  let nd := d.nlDash
  let rec scan (fuel : Nat) (acc bs : Bytes) : Option (Bytes × Bytes) :=
    match fuel, bs with
    | 0, _ => none
    | _, [] => none
    | fuel + 1, b :: r =>
      if nd.isPrefixOf (b :: r) then
        if endsBoundary ((b :: r).drop nd.length) then some (acc.reverse, b :: r)
        else scan fuel ((nd.reverse) ++ acc) ((b :: r).drop nd.length)
      else scan fuel (b :: acc) r
  if d.dash.isPrefixOf bs then
    if endsBoundary (bs.drop d.dash.length) then some ([], bs)
    else scan bs.length d.dash.reverse (bs.drop d.dash.length)
  else scan (bs.length + 1) [] bs

/-- The base name of a path: the text after the last `/`, trailing slashes ignored. -/
def baseName (p : Bytes) : Bytes :=
  if p.isEmpty then [0x2E]
  else
    let trimmed := (p.reverse.dropWhile (· = 0x2F)).reverse
    if trimmed.isEmpty then [0x2F]
    else (trimmed.reverse.takeWhile (· ≠ 0x2F)).reverse

/-- The part that a header block and content describe. The name is that of a `form-data`
disposition; a part without a content type is `application/octet-stream`; an empty file name
counts as none, and a file name loses its directory. -/
def Part.ofHeader (h : Header) (content : Bytes) : Part :=
  let disposition := (h.first? "Content-Disposition".toBytes).getD []
  let (kind, params) := match MediaType.parse disposition with
    | .ok (kind, params) => (kind, params)
    | .error _ => ([], [])
  let name := if kind == "form-data".toBytes then (params.get? "name".toBytes).getD [] else []
  let mimetype := match h.first? "Content-Type".toBytes with
    | some t => if t.isEmpty then "application/octet-stream".toBytes else t
    | none => "application/octet-stream".toBytes
  let filename := match params.get? "filename".toBytes with
    | some f => if f.isEmpty then none else some (baseName f)
    | none => none
  { name, mimetype := some mimetype, filename, content := some content }

/-- Reads all parts of a body with the given boundary, in order, or the error text. -/
def readParts (boundary : Bytes) (body : Bytes) : Except String (List Part) :=
  let rec loop (fuel : Nat) (d : Delimiters) (partsRead : Nat) (expectNew : Bool) (bs : Bytes)
      (acc : List Part) : Except String (List Part) :=
    match fuel with
    | 0 => pure acc.reverse
    | fuel + 1 =>
      let (line, rest, terminated) := nextLine bs
      if !terminated then pure acc.reverse
      else
        let afterDash := skipBlanks (line.drop d.dash.length)
        let d := if d.dash.isPrefixOf line && partsRead = 0 && afterDash == [0x0A] then
            { d with nl := [0x0A] } else d
        if d.dash.isPrefixOf line && afterDash == d.nl then
          match readHeader rest with
          | .endOfInput => pure acc.reverse
          | .malformed msg => throw msg
          | .block h rest' =>
            match readContent d rest' with
            | none => throw "unexpected EOF"
            | some (content, rest'') =>
              loop fuel d (partsRead + 1) false rest'' (Part.ofHeader h content :: acc)
        else if d.isFinal line then pure acc.reverse
        else if expectNew then
          throw ("multipart: expecting a new Part; got line " ++ Text.quote line)
        else if partsRead = 0 then loop fuel d partsRead expectNew rest acc
        else if line == d.nl then loop fuel d partsRead true rest acc
        else throw ("multipart: unexpected line in Next(): " ++ Text.quote line)
  loop (body.length + 1) ⟨[0x0D, 0x0A], boundary⟩ 0 false body []

end HttpMock.Multipart
