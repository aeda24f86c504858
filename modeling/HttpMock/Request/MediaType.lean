import HttpMock.Table
import HttpMock.Text.Blank
import HttpMock.Text.Case
/-! Media types with parameters, as in `Content-Type` and `Content-Disposition` values. -/
namespace HttpMock.MediaType

/-- Separators that cannot appear in a token. -/
def isSpecial (b : UInt8) : Bool := "()<>@,;:\\\"/[]?=".toBytes.contains b

/-- Token octets: visible ASCII other than the separators. -/
def isTokenOctet (b : UInt8) : Bool := 0x20 < b && b < 0x7F && !isSpecial b

/-- The token at the front and the rest. -/
def takeToken (bs : Bytes) : Bytes × Bytes := (bs.takeWhile isTokenOctet, bs.dropWhile isTokenOctet)

/-- A quoted string after its opening quote: a backslash before a separator escapes it, a line
break ends the attempt. The value and the rest, or `none` when the quote is not closed. -/
def takeQuoted : Bytes → Bytes → Option (Bytes × Bytes)
  | _, [] => none
  | acc, 0x22 :: rest => some (acc.reverse, rest)
  | acc, 0x5C :: c :: rest =>
    if isSpecial c then takeQuoted (c :: acc) rest else takeQuoted (0x5C :: acc) (c :: rest)
  | acc, c :: rest => if c = 0x0D || c = 0x0A then none else takeQuoted (c :: acc) rest

/-- A parameter value, a token or a quoted string; `none` when there is none. -/
def takeValue (bs : Bytes) : Option (Bytes × Bytes) :=
  match bs with
  | 0x22 :: rest => takeQuoted [] rest
  | _ =>
    let (t, rest) := takeToken bs
    if t.isEmpty then none else some (t, rest)

/-- One `; name=value` parameter at the front: lower-case name, value and rest. -/
def takeParam (bs : Bytes) : Option (Bytes × Bytes × Bytes) :=
  match Text.trimLeft bs with
  | 0x3B :: rest =>
    let (name, rest) := takeToken (Text.trimLeft rest)
    if name.isEmpty then none
    else
      match Text.trimLeft rest with
      | 0x3D :: rest =>
        match takeValue (Text.trimLeft rest) with
        | some (v, rest) => some (Text.lower name, v, rest)
        | none => none
      | _ => none
  | _ => none

/-- Checks that a media type is `token` or `token/token`. -/
def checkType (t : Bytes) : Except String Unit :=
  let (first, rest) := takeToken t
  if first.isEmpty then throw "mime: no media type"
  else if rest.isEmpty then pure ()
  else match rest with
    | 0x2F :: rest' =>
      let (sub, rest'') := takeToken rest'
      if sub.isEmpty then throw "mime: expected token after slash"
      else if !rest''.isEmpty then throw "mime: unexpected content after media subtype"
      else pure ()
    | _ => throw "mime: expected slash after first token"

/-- Reads `%XX` escapes; `none` on a malformed one. -/
def unescapeHex : Bytes → Option Bytes
  | [] => some []
  | 0x25 :: a :: b :: rest =>
    match Bytes.hexValue? a, Bytes.hexValue? b with
    | some x, some y => (unescapeHex rest).map (UInt8.ofNat (16 * x + y) :: ·)
    | _, _ => none
  | 0x25 :: _ => none
  | c :: rest => (unescapeHex rest).map (c :: ·)

/-- Decodes `charset'language'text` where the character set is UTF-8 or US-ASCII. -/
def decodeExtended (v : Bytes) : Option Bytes :=
  match v.splitOn 0x27 with
  | cs :: _ :: rest@(_ :: _) =>
    let charset := Text.lower cs
    if charset.isEmpty || !(charset == "utf-8".toBytes || charset == "us-ascii".toBytes) then none
    else unescapeHex (List.intersperse [0x27] rest).flatten
  | _ => none

/-- Joins the pieces of a split parameter `key`, from its collected `key*…` entries. -/
def joinPieces (key : Bytes) (pieces : Table Bytes) : Option Bytes :=
  match pieces.get? (key ++ [0x2A]) with
  | some v => decodeExtended v
  | none =>
    let rec go (fuel n : Nat) (acc : Bytes) (valid : Bool) : Option Bytes :=
      match fuel with
      | 0 => if valid then some acc else none
      | fuel + 1 =>
        let simple := key ++ ("*" ++ toString n).toBytes
        match pieces.get? simple with
        | some v => go fuel (n + 1) (acc ++ v) true
        | none =>
          match pieces.get? (simple ++ [0x2A]) with
          | none => if valid then some acc else none
          | some v =>
            let piece := if n = 0 then (decodeExtended v).getD [] else (unescapeHex v).getD []
            go fuel (n + 1) (acc ++ piece) true
    go (pieces.length + 1) 0 [] false

/-- Parses a media type with parameters: the lower-case type and the parameters by lower-case
name, or the error text. -/
def parse (v : Bytes) : Except String (Bytes × Table Bytes) := do
  let (base, _) := v.cut 0x3B
  let mediatype := Text.trim (Text.lower base)
  checkType mediatype
  let rec loop (fuel : Nat) (rest : Bytes) (params : Table Bytes) (split : Table (Table Bytes)) :
      Except String (Table Bytes × Table (Table Bytes)) :=
    match fuel with
    | 0 => pure (params, split)
    | fuel + 1 =>
      let rest := Text.trimLeft rest
      if rest.isEmpty then pure (params, split)
      else
        match takeParam rest with
        | none =>
          if Text.trim rest == [0x3B] then pure (params, split)
          else throw "mime: invalid media parameter"
        | some (key, value, rest') =>
          let (baseName, star) := key.cut 0x2A
          if star.isSome then
            let table := (split.get? baseName).getD []
            if (table.get? key).any (· != value) then throw "mime: duplicate parameter name"
            else loop fuel rest' params (split.insert baseName (table.insert key value))
          else if (params.get? key).any (· != value) then throw "mime: duplicate parameter name"
          else loop fuel rest' (params.insert key value) split
  let (params, split) ← loop (v.length + 1) (v.drop base.length) [] []
  let params := split.foldl (fun acc (name, pieces) =>
    match joinPieces name pieces with
    | some joined => acc.insert name joined
    | none => acc) params
  return (mediatype, params)

end HttpMock.MediaType
