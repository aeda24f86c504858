import HttpMock.Json.Value
import HttpMock.Json.Write
import HttpMock.Bytes
import HttpMock.Text.Quoted
/-! Reading JSON text, and rounding its number literals to binary64. -/
namespace HttpMock.Json

/-- Why a text is not JSON. -/
inductive SyntaxError where
  /-- The text ends inside a value. -/
  | unexpectedEnd
  /-- Octet `b` cannot stand here; `context` says what was expected instead. -/
  | invalidChar (b : UInt8) (context : String)
  deriving Repr, DecidableEq

/-- The octet as a character in single quotes, escaped as in quoted text. -/
def quoteOctet (b : UInt8) : String :=
  if b = 0x27 then "'\\''"
  else if b = 0x22 then "'\"'"
  else
    let q := Text.quoteString (Char.ofNat b.toNat).toString
    "'" ++ String.ofList ((q.toList.drop 1).dropLast) ++ "'"

/-- The message of a syntax error. -/
def SyntaxError.message : SyntaxError → String
  | .unexpectedEnd => "unexpected end of JSON input"
  | .invalidChar b ctx => "invalid character " ++ quoteOctet b ++ " " ++ ctx

/-- JSON white space: space, tab, line feed, carriage return. -/
def isSpace (b : UInt8) : Bool := b = 0x20 || b = 0x09 || b = 0x0A || b = 0x0D

/-- The input after leading JSON white space. -/
def skipSpace (bs : Bytes) : Bytes := bs.dropWhile isSpace

/-- An ASCII digit. -/
def isDigit (b : UInt8) : Bool := 0x30 ≤ b && b ≤ 0x39

/-- The digits at the front of the input and the rest. -/
def spanDigits (bs : Bytes) : Bytes × Bytes := (bs.takeWhile isDigit, bs.dropWhile isDigit)

/-- The sign of a number literal: a leading `-`, if any, and the rest. -/
def readSign : Bytes → Bytes × Bytes
  | 0x2D :: r => ([0x2D], r)
  | r => ([], r)

/-- The integer part of a number literal: `0`, or a digit and the digits after it. -/
def readIntPart : Bytes → Except SyntaxError (Bytes × Bytes)
  | 0x30 :: r => pure ([0x30], r)
  | b :: r =>
    if isDigit b then pure (b :: (spanDigits r).1, (spanDigits r).2)
    else throw (.invalidChar b "in numeric literal")
  | [] => throw .unexpectedEnd

/-- The fraction of a number literal, if any: `.` and at least one digit. -/
def readFraction : Bytes → Except SyntaxError (Bytes × Bytes)
  | 0x2E :: r =>
    match r with
    | b :: _ =>
      if isDigit b then pure ((0x2E : UInt8) :: (spanDigits r).1, (spanDigits r).2)
      else throw (.invalidChar b "after decimal point in numeric literal")
    | [] => throw .unexpectedEnd
  | r => pure ([], r)

/-- The exponent of a number literal, if any: `e` or `E`, an optional sign and at least one
digit. -/
def readExponent : Bytes → Except SyntaxError (Bytes × Bytes)
  | e :: r =>
    if e = 0x65 || e = 0x45 then
      let (es, r') := match r with
        | s :: t => if s = 0x2B || s = 0x2D then ([e, s], t) else ([e], s :: t)
        | [] => ([e], [])
      match r' with
      | b :: _ =>
        if isDigit b then pure (es ++ (spanDigits r').1, (spanDigits r').2)
        else throw (.invalidChar b "in exponent of numeric literal")
      | [] => throw .unexpectedEnd
    else pure ([], e :: r)
  | [] => pure ([], [])

/-- Reads a number literal; the first octet is `-` or a digit. Returns its text and the rest. -/
def readNumber (bs : Bytes) : Except SyntaxError (String × Bytes) := do
  let (sign, r) := readSign bs
  let (intPart, r) ← readIntPart r
  let (frac, r) ← readFraction r
  let (ex, r) ← readExponent r
  return (Bytes.toText (sign ++ intPart ++ frac ++ ex), r)

/-- Reads exactly `word` (whose first octet was already seen) for the literal `name`. -/
def readWord (name : String) (word : Bytes) (bs : Bytes) : Except SyntaxError Bytes :=
  match word, bs with
  | [], r => pure r
  | w :: ws, b :: r =>
    if w = b then readWord name ws r
    else throw (.invalidChar b s!"in literal {name} (expecting {quoteOctet w})")
  | _ :: _, [] => throw .unexpectedEnd

/-- Four hexadecimal digits of a `\u` escape. -/
def readHex4 (bs : Bytes) : Except SyntaxError (Nat × Bytes) :=
  let rec go : Nat → Nat → Bytes → Except SyntaxError (Nat × Bytes)
    | 0, acc, r => pure (acc, r)
    | n + 1, acc, b :: r =>
      match Bytes.hexValue? b with
      | some d => go n (acc * 16 + d) r
      | none => throw (.invalidChar b "in \\u hexadecimal character escape")
    | _ + 1, _, [] => throw .unexpectedEnd
  go 4 0 bs

/-- A decoded escape or character of a string literal. -/
inductive StrUnit where
  | char (c : Char)
  | unit16 (u : Nat)
  | raw (b : UInt8)

/-- Raw octets read as UTF-8, stray octets as U+FFFD. -/
def flushRaw (pending : Bytes) : List Char := (Bytes.toText pending.reverse).toList

/-- Joins decoded units: a high and a low surrogate make one character, any other surrogate
becomes U+FFFD, and runs of raw octets (collected in reverse in `pending`) are read as UTF-8. -/
def joinUnits (pending : Bytes) : List StrUnit → List Char
  | [] => flushRaw pending
  | .raw b :: rest => joinUnits (b :: pending) rest
  | .char c :: rest => flushRaw pending ++ c :: joinUnits [] rest
  | .unit16 hi :: rest =>
    let single := if 0xD800 ≤ hi && hi < 0xE000 then '�' else Char.ofNat hi
    flushRaw pending ++
      match _h : rest with
      | .unit16 lo :: rest' =>
        if 0xD800 ≤ hi && hi < 0xDC00 && 0xDC00 ≤ lo && lo < 0xE000 then
          Char.ofNat (0x10000 + (hi - 0xD800) * 0x400 + (lo - 0xDC00)) :: joinUnits [] rest'
        else single :: joinUnits [] rest
      | _ => single :: joinUnits [] rest
termination_by us => us.length
decreasing_by all_goals (subst_vars; simp only [List.length_cons]; omega)

/-- Reads the body of a string literal after its opening quote: the text and the rest. -/
def readString (bs : Bytes) : Except SyntaxError (String × Bytes) :=
  let rec go : Nat → List StrUnit → Bytes → Except SyntaxError (List StrUnit × Bytes)
    | 0, _, _ => throw .unexpectedEnd
    | _ + 1, acc, [] => let _ := acc; throw .unexpectedEnd
    | fuel + 1, acc, b :: r =>
      if b = 0x22 then pure (acc.reverse, r)
      else if b = 0x5C then
        match r with
        | [] => throw .unexpectedEnd
        | e :: r' =>
          let simple : Option Char := match e with
            | 0x22 => some '"' | 0x5C => some '\\' | 0x2F => some '/'
            | 0x62 => some (Char.ofNat 8) | 0x66 => some (Char.ofNat 12)
            | 0x6E => some '\n' | 0x72 => some '\r' | 0x74 => some '\t'
            | _ => none
          match simple with
          | some c => go fuel (.char c :: acc) r'
          | none =>
            if e = 0x75 then do
              let (u, r'') ← readHex4 r'
              go fuel (.unit16 u :: acc) r''
            else throw (.invalidChar e "in string escape code")
      else if b < 0x20 then throw (.invalidChar b "in string literal")
      else go fuel (.raw b :: acc) r
  match go (bs.length + 1) [] bs with
  | .ok (us, r) => .ok (String.ofList (joinUnits [] us), r)
  | .error e => .error e

mutual
/-- Reads one value after optional white space. `fuel` bounds the nesting and is never the
limit for fuel at least the input length. -/
def readValue (keep : Bool) : Nat → Bytes → Except SyntaxError (Json × Bytes)
  | 0, _ => throw .unexpectedEnd
  | fuel + 1, bs =>
    match skipSpace bs with
    | [] => throw .unexpectedEnd
    | b :: r =>
      if b = 0x7B then readObject keep fuel [] true r
      else if b = 0x5B then readArray keep fuel [] true r
      else if b = 0x22 then do
        let (s, r') ← readString r
        pure (.string s, r')
      else if b = 0x2D || isDigit b then do
        let (t, r') ← readNumber (b :: r)
        pure (.number t, r')
      else if b = 0x74 then do pure (.bool true, ← readWord "true" [0x72, 0x75, 0x65] r)
      else if b = 0x66 then do pure (.bool false, ← readWord "false" [0x61, 0x6C, 0x73, 0x65] r)
      else if b = 0x6E then do pure (.null, ← readWord "null" [0x75, 0x6C, 0x6C] r)
      else throw (.invalidChar b "looking for beginning of value")
/-- Reads array items after `[`; `first` holds before the first item. -/
def readArray (keep : Bool) : Nat → List Json → Bool → Bytes → Except SyntaxError (Json × Bytes)
  | 0, _, _, _ => throw .unexpectedEnd
  | fuel + 1, acc, first, bs =>
    match skipSpace bs with
    | [] => throw .unexpectedEnd
    | b :: r =>
      if first && b = 0x5D then pure (.array [], r)
      else do
        let (v, r') ← readValue keep fuel (b :: r)
        match skipSpace r' with
        | [] => throw .unexpectedEnd
        | c :: r'' =>
          if c = 0x2C then readArray keep fuel (v :: acc) false r''
          else if c = 0x5D then pure (.array (v :: acc).reverse, r'')
          else throw (.invalidChar c "after array element")
/-- Reads object members after `{`; `first` holds before the first member. -/
def readObject (keep : Bool) : Nat → List (String × Json) → Bool → Bytes → Except SyntaxError (Json × Bytes)
  | 0, _, _, _ => throw .unexpectedEnd
  | fuel + 1, acc, first, bs =>
    match skipSpace bs with
    | [] => throw .unexpectedEnd
    | b :: r =>
      if first && b = 0x7D then pure (.object [], r)
      else if b ≠ 0x22 then throw (.invalidChar b "looking for beginning of object key string")
      else do
        let (k, r1) ← readString r
        match skipSpace r1 with
        | [] => throw .unexpectedEnd
        | c :: r2 =>
          if c ≠ 0x3A then throw (.invalidChar c "after object key")
          else do
            let (v, r3) ← readValue keep fuel r2
            let acc := if keep then acc ++ [(k, v)] else setMember acc k v
            match skipSpace r3 with
            | [] => throw .unexpectedEnd
            | d :: r4 =>
              if d = 0x2C then readObject keep fuel acc false r4
              else if d = 0x7D then pure (.object acc, r4)
              else throw (.invalidChar d "after object key:value pair")
end

/-- Reads a whole JSON text: one value with white space around it and nothing else. With
`keep`, an object keeps every member as written, repeated names included. -/
def parseWith (keep : Bool) (bs : Bytes) : Except SyntaxError Json := do
  let (v, r) ← readValue keep (2 * bs.length + 2) bs
  match skipSpace r with
  | [] => pure v
  | b :: _ => throw (.invalidChar b "after top-level value")

/-- Reads a whole JSON text; of members with one name the last is kept, in the place of the
first. -/
def parse (bs : Bytes) : Except SyntaxError Json := parseWith false bs

/-- Reads a whole JSON text given as a string. -/
def parseString (s : String) : Except SyntaxError Json := parse s.toBytes

mutual
/-- Every number literal rounded to binary64, in document order; the first literal out of range
is the error, with its text. -/
def toFloats : Json → Except String Json
  | .number t =>
    match Decimal.parseFloat? t with
    | some x => pure (.float x)
    | none => throw t
  | .array xs => return .array (← toFloatsItems xs)
  | .object ms => return .object (← toFloatsMembers ms)
  | v => pure v
/-- `toFloats` on array items. -/
def toFloatsItems : List Json → Except String (List Json)
  | [] => pure []
  | x :: xs => return (← toFloats x) :: (← toFloatsItems xs)
/-- `toFloats` on member values. -/
def toFloatsMembers : List (String × Json) → Except String (List (String × Json))
  | [] => pure []
  | (k, v) :: ms => return (k, ← toFloats v) :: (← toFloatsMembers ms)
end

/-- The message for a number literal that does not fit binary64. -/
def rangeMessage (literal : String) : String :=
  "json: cannot unmarshal number " ++ literal ++ " into Go value of type float64"

/-- Whether a text is one number literal: the reader reads all of it as a number. -/
def isNumberLiteral (t : String) : Bool :=
  match readNumber t.toBytes with
  | .ok (_, []) => true
  | _ => false

/-- How the encoder names a float that is not finite. -/
def nonFiniteName (x : Float) : String := if x.isNaN then "NaN" else if x < 0 then "-Inf" else "+Inf"

mutual
/-- The first value that has no JSON text, in the order the encoder writes values (members sorted
by name), with the encoder's message: a float that is not finite, or a number literal that is not
one. An empty literal is written as `0`. -/
def unsupported? : Json → Option String
  | .float x =>
    if x.isNaN || x.isInf then some ("json: unsupported value: " ++ nonFiniteName x) else none
  | .number t =>
    if t.isEmpty || isNumberLiteral t then none
    else some ("json: invalid number literal " ++ Text.quoteString t)
  | .array xs => unsupportedItems? xs
  | .object ms => ((memberProblems ms).mergeSort fun a b => decide (a.1 ≤ b.1)).findSome? (·.2)
  | _ => none
/-- `unsupported?` of the first item that has a problem. -/
def unsupportedItems? : List Json → Option String
  | [] => none
  | x :: xs => (unsupported? x).or (unsupportedItems? xs)
/-- Each member's name with `unsupported?` of its value. -/
def memberProblems : List (String × Json) → List (String × Option String)
  | [] => []
  | (k, v) :: ms => (k, unsupported? v) :: memberProblems ms
end

end HttpMock.Json

namespace HttpMock.Payload

/-- The JSON data of a payload, or the error the encoder gives for it. -/
def encode : Payload → Except String Json
  | .json v =>
    match v.unsupported? with
    | some m => throw m
    | none => pure v
  | .unencodable t => throw ("json: unsupported type: " ++ t)
  | .refused m => throw m

/-- The payload written as compact JSON text and read back with binary64 numbers, as a generic
JSON reader sees it; `none` stands for `null`. -/
def normalize (p : Payload) : Except String (Option Json) := do
  let v ← p.encode
  match Json.parse (Json.compact v).toBytes with
  | .error e => throw e.message
  | .ok w =>
    match Json.toFloats w with
    | .ok .null => pure none
    | .ok w => pure (some w)
    | .error lit => throw (Json.rangeMessage lit)

end HttpMock.Payload
