import HttpMock.Bytes
/-! XML tokens, and what the tokenizer refuses. -/
namespace HttpMock.Xml

/-- A name with an optional namespace prefix. -/
structure Name where
  space : Bytes
  localName : Bytes
  deriving DecidableEq, Repr, Inhabited

/-- The name as written: `prefix:local`, or `local`. -/
def Name.full (n : Name) : Bytes :=
  if n.space.isEmpty then n.localName else n.space ++ [0x3A] ++ n.localName

/-- An attribute as written. -/
structure Attr where
  name : Name
  value : Bytes
  deriving DecidableEq, Repr, Inhabited

/-- One token of an XML text. -/
inductive Token where
  /-- A start tag; `empty` for `<…/>`. -/
  | start (name : Name) (attrs : List Attr) (empty : Bool)
  | stop (name : Name)
  /-- Character data; `cdata` for a CDATA section. -/
  | text (data : Bytes) (cdata : Bool)
  | comment (data : Bytes)
  | procInst (target : Bytes) (inst : Bytes)
  | directive (data : Bytes)
  deriving Repr, Inhabited

/-- Octets that may appear in a name in ASCII. -/
def isNameOctet (b : UInt8) : Bool :=
  (0x41 ≤ b && b ≤ 0x5A) || (0x61 ≤ b && b ≤ 0x7A) || (0x30 ≤ b && b ≤ 0x39) ||
    b = 0x5F || b = 0x3A || b = 0x2E || b = 0x2D || b ≥ 0x80

/-- Octets that may start a name in ASCII. -/
def isNameStart (b : UInt8) : Bool :=
  (0x41 ≤ b && b ≤ 0x5A) || (0x61 ≤ b && b ≤ 0x7A) || b = 0x5F || b = 0x3A || b ≥ 0x80

/-- XML white space. -/
def isSpace (b : UInt8) : Bool := b = 0x20 || b = 0x09 || b = 0x0A || b = 0x0D

/-- Whether a code point is an XML character. -/
def isXmlChar (n : Nat) : Bool :=
  n = 0x09 || n = 0x0A || n = 0x0D || (0x20 ≤ n && n ≤ 0xD7FF) || (0xE000 ≤ n && n ≤ 0xFFFD) ||
    (0x10000 ≤ n && n ≤ 0x10FFFF)

/-- Whether character data is valid UTF-8 of XML characters. -/
def validChars (bs : Bytes) : Bool :=
  (Bytes.pieces bs).all fun p => match p with
    | .char c => isXmlChar c.toNat
    | .stray _ => false

/-- A name at the front of the input, and the rest. -/
def readName (bs : Bytes) : Option (Bytes × Bytes) :=
  match bs with
  | b :: _ =>
    if isNameStart b then
      let n := bs.takeWhile isNameOctet
      if (Bytes.pieces n).all (fun p => match p with | .char _ => true | .stray _ => false) then
        some (n, bs.drop n.length)
      else none
    else none
  | [] => none

/-- A name split at its colon into prefix and local part; `none` for two colons or more. -/
def splitName (n : Bytes) : Option Name :=
  match n.splitOn 0x3A with
  | [l] => some ⟨[], l⟩
  | [s, l] => if s.isEmpty || l.isEmpty then some ⟨[], n⟩ else some ⟨s, l⟩
  | _ => none

/-- The code point of a character reference body (`#123` or `#x7b`, without `&` and `;`). -/
def charRef (body : Bytes) : Option Nat :=
  match body with
  | 0x23 :: 0x78 :: ds =>
    if ds.isEmpty then none
    else ds.foldlM (fun acc d => (Bytes.hexValue? d).map (acc * 16 + ·)) 0
  | 0x23 :: ds =>
    if ds.isEmpty || !ds.all (fun d => 0x30 ≤ d && d ≤ 0x39) then none
    else some (ds.foldl (fun acc d => acc * 10 + (d.toNat - 0x30)) 0)
  | _ => none

/-- The text of a predefined entity. -/
def predefined (name : Bytes) : Option Bytes :=
  if name == "lt".toBytes then some [0x3C]
  else if name == "gt".toBytes then some [0x3E]
  else if name == "amp".toBytes then some [0x26]
  else if name == "apos".toBytes then some [0x27]
  else if name == "quot".toBytes then some [0x22]
  else none

/-- Reads character data up to (not including) the octet `stop`: entities resolved, `\r\n` and
`\r` read as `\n`. Returns the data and the rest starting at `stop`; `none` on a forbidden
sequence or the end of input when `needStop`. In an attribute value (`inQuote`) a `<` is
forbidden. -/
def readText (stop : UInt8) (inQuote : Bool) (bs : Bytes) : Option (Bytes × Bytes) :=
  let rec go (fuel : Nat) (acc : Bytes) (bs : Bytes) : Option (Bytes × Bytes) :=
    match fuel, bs with
    | 0, _ => none
    | _, [] => if inQuote then none else some (acc.reverse, [])
    | fuel + 1, b :: rest =>
      if b = stop then some (acc.reverse, b :: rest)
      else if inQuote && b = 0x3C then none
      else if !inQuote && b = 0x5D && rest.take 2 == [0x5D, 0x3E] then none
      else if b = 0x0D then
        match rest with
        | 0x0A :: rest' => go fuel (0x0A :: acc) rest'
        | _ => go fuel (0x0A :: acc) rest
      else if b = 0x26 then
        let (body, after) := Bytes.cut rest 0x3B
        match after with
        | none => none
        | some rest' =>
          let resolved : Option Bytes :=
            match body with
            | 0x23 :: _ => (charRef body).bind fun n =>
                if 0xD800 ≤ n && n ≤ 0xDFFF then some (String.utf8EncodeChar '�')
                else if n ≤ 0x10FFFF then some (String.utf8EncodeChar (Char.ofNat n)) else none
            | _ => predefined body
          match resolved with
          | some t => go fuel (t.reverse ++ acc) rest'
          | none => none
      else go fuel (b :: acc) rest
  match go (bs.length + 1) [] bs with
  | some (t, rest) => if validChars t then some (t, rest) else none
  | none => none

/-- Skips XML white space. -/
def skipSpace (bs : Bytes) : Bytes := bs.dropWhile isSpace

/-- The attributes of a start tag and whether it ends with `/>`; the rest after `>`. -/
def readAttrs (bs : Bytes) : Option (List Attr × Bool × Bytes) :=
  let rec go (fuel : Nat) (acc : List Attr) (bs : Bytes) : Option (List Attr × Bool × Bytes) :=
    match fuel with
    | 0 => none
    | fuel + 1 =>
      match skipSpace bs with
      | 0x2F :: 0x3E :: rest => some (acc.reverse, true, rest)
      | 0x2F :: _ => none
      | 0x3E :: rest => some (acc.reverse, false, rest)
      | rest =>
        match readName rest with
        | none => none
        | some (n, rest) =>
          match splitName n with
          | none => none
          | some name =>
            match skipSpace rest with
            | 0x3D :: rest =>
              match skipSpace rest with
              | q :: rest =>
                if q = 0x22 || q = 0x27 then
                  match readText q true rest with
                  | some (v, _ :: rest) => go fuel (⟨name, v⟩ :: acc) rest
                  | _ => none
                else none
              | [] => none
            | _ => none
  go (bs.length + 1) [] bs

/-- Reads up to the terminator `term`: the text before it and the rest after it. -/
def readUntil (term : Bytes) (bs : Bytes) : Option (Bytes × Bytes) :=
  match Bytes.cutText bs term with
  | (front, some rest) => some (front, rest)
  | (_, none) => none

/-- The body of a declaration `<!…>` after `<!`: quotes and nested brackets respected, comments
replaced by a space. -/
def readDirective (bs : Bytes) : Option (Bytes × Bytes) :=
  let rec go (fuel : Nat) (acc : Bytes) (quote : Option UInt8) (depth : Nat) (bs : Bytes) :
      Option (Bytes × Bytes) :=
    match fuel, bs with
    | 0, _ => none
    | _, [] => none
    | fuel + 1, b :: rest =>
      match quote with
      | some q => go fuel (b :: acc) (if b = q then none else some q) depth rest
      | none =>
        if b = 0x3E && depth = 0 then some (acc.reverse, rest)
        else if b = 0x22 || b = 0x27 then go fuel (b :: acc) (some b) depth rest
        else if b = 0x3E then go fuel (b :: acc) none (depth - 1) rest
        else if b = 0x3C then
          if rest.take 3 == "!--".toBytes then
            match readUntil "-->".toBytes (rest.drop 3) with
            | some (_, rest') => go fuel (0x20 :: acc) none depth rest'
            | none => none
          else go fuel (b :: acc) none (depth + 1) rest
        else go fuel (b :: acc) none depth rest
  go (bs.length + 1) [] none 0 bs

/-- Whether a processing instruction named `xml` declares a version other than 1.0 or an
encoding other than UTF-8. -/
def badDeclaration (inst : Bytes) : Bool :=
  let value (param : String) : Option Bytes :=
    match Bytes.cutText inst param.toBytes with
    | (_, some rest) =>
      match skipSpace rest with
      | 0x3D :: rest =>
        match skipSpace rest with
        | q :: rest => if q = 0x22 || q = 0x27 then some (rest.takeWhile (· ≠ q)) else none
        | [] => none
      | _ => none
    | (_, none) => none
  let badVersion := match value "version" with
    | some v => !v.isEmpty && v != "1.0".toBytes
    | none => false
  let badEncoding := match value "encoding" with
    | some e => !e.isEmpty && (e.map Bytes.asciiLower) != "utf-8".toBytes
    | none => false
  badVersion || badEncoding

/-- The next token and the rest of the input, `none` for malformed markup. -/
def next (bs : Bytes) : Option (Token × Bytes) :=
  match bs with
  | 0x3C :: 0x2F :: rest =>
    match readName rest with
    | some (n, rest) =>
      match splitName n, skipSpace rest with
      | some name, 0x3E :: rest => some (.stop name, rest)
      | _, _ => none
    | none => none
  | 0x3C :: 0x3F :: rest =>
    match readName rest with
    | some (target, rest) =>
      match readUntil "?>".toBytes (skipSpace rest) with
      | some (inst, rest) =>
        if target == "xml".toBytes && badDeclaration inst then none
        else some (.procInst target inst, rest)
      | none => none
    | none => none
  | 0x3C :: 0x21 :: 0x2D :: 0x2D :: rest =>
    match readUntil "--".toBytes rest with
    | some (data, 0x3E :: rest) => some (.comment data, rest)
    | _ => none
  | 0x3C :: 0x21 :: 0x5B :: rest =>
    if rest.take 6 == "CDATA[".toBytes then
      match readUntil "]]>".toBytes (rest.drop 6) with
      | some (data, rest) => if validChars data then some (.text data true, rest) else none
      | none => none
    else none
  | 0x3C :: 0x21 :: rest =>
    match rest with
    | 0x2D :: _ => none
    | _ =>
      match readDirective rest with
      | some (d, rest) => some (.directive d, rest)
      | none => none
  | 0x3C :: rest =>
    match readName rest with
    | some (n, rest) =>
      match splitName n, readAttrs rest with
      | some name, some (attrs, empty, rest) => some (.start name attrs empty, rest)
      | _, _ => none
    | none => none
  | _ =>
    match readText 0x3C false bs with
    | some (t, rest) => some (.text t false, rest)
    | none => none

/-- All tokens of a text, `none` when it is malformed. -/
def tokens (bs : Bytes) : Option (List Token) :=
  let rec go (fuel : Nat) (acc : List Token) (bs : Bytes) : Option (List Token) :=
    match fuel, bs with
    | _, [] => some acc.reverse
    | 0, _ => none
    | fuel + 1, bs =>
      match next bs with
      | some (t, rest) => if rest.length < bs.length then go fuel (t :: acc) rest else none
      | none => none
  go (bs.length + 1) [] bs

end HttpMock.Xml
