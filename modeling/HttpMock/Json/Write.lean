import HttpMock.Json.Value
import HttpMock.Bytes
/-! Writing JSON text: compact, with members sorted by name, or indented. -/
namespace HttpMock.Json

/-- Four hexadecimal digits, lower case. -/
def hex4 (n : Nat) : String :=
  String.ofList ([n / 4096 % 16, n / 256 % 16, n / 16 % 16, n % 16].map fun d => Bytes.hexDigit d)

/-- The escaped form of one character inside a JSON string. -/
def escapeChar (c : Char) : String :=
  match c with
  | '"' => "\\\""
  | '\\' => "\\\\"
  | '\n' => "\\n"
  | '\r' => "\\r"
  | '\t' => "\\t"
  | c =>
    if c.toNat = 8 then "\\b"
    else if c.toNat = 12 then "\\f"
    else if c.toNat < 0x20 || c.toNat = 0x2028 || c.toNat = 0x2029 then "\\u" ++ hex4 c.toNat
    else c.toString

/-- A string as a JSON string literal. -/
def quote (s : String) : String := "\"" ++ String.join (s.toList.map escapeChar) ++ "\""

/-- The text of a number. A non-finite float has no JSON text and is written as `null`. -/
def numberText : Json → String
  | .number t => if t.isEmpty then "0" else t
  | .float x => (Decimal.jsonText? x).getD "null"
  | _ => ""

/-- Written members sorted by name. -/
def sortMembers (ms : List (String × String)) : List (String × String) :=
  ms.mergeSort fun a b => decide (a.1 ≤ b.1)

mutual
/-- Compact JSON text, members sorted by name when `sorted` holds. -/
def compactWith (sorted : Bool) : Json → String
  | .null => "null"
  | .bool b => if b then "true" else "false"
  | .number t => numberText (.number t)
  | .float x => numberText (.float x)
  | .string s => quote s
  | .array xs => "[" ++ ",".intercalate (compactItems sorted xs) ++ "]"
  | .object ms =>
    let ws := compactMembers sorted ms
    let ws := if sorted then sortMembers ws else ws
    "\x7b" ++ ",".intercalate (ws.map fun (k, t) => quote k ++ ":" ++ t) ++ "\x7d"
/-- The compact texts of array items. -/
def compactItems (sorted : Bool) : List Json → List String
  | [] => []
  | x :: xs => compactWith sorted x :: compactItems sorted xs
/-- Member names with the compact texts of their values. -/
def compactMembers (sorted : Bool) : List (String × Json) → List (String × String)
  | [] => []
  | (k, v) :: ms => (k, compactWith sorted v) :: compactMembers sorted ms
end

/-- Compact JSON text with members sorted by name. -/
def compact (v : Json) : String := compactWith true v

/-- A line break followed by `width` spaces for each of `level` levels. -/
private def newline (width level : Nat) : String := "\n" ++ String.ofList (List.replicate (width * level) ' ')

mutual
/-- Indented JSON text at nesting depth `level`, `width` spaces a level, members sorted by
name. -/
def prettyAt (width level : Nat) : Json → String
  | .array [] => "[]"
  | .object [] => "{}"
  | .array xs =>
    "[" ++ ",".intercalate ((prettyItems width (level + 1) xs).map (newline width (level + 1) ++ ·)) ++
      newline width level ++ "]"
  | .object ms =>
    let ws := sortMembers (prettyMembers width (level + 1) ms)
    "\x7b" ++ ",".intercalate (ws.map fun (k, t) => newline width (level + 1) ++ quote k ++ ": " ++ t) ++
      newline width level ++ "\x7d"
  | v => compactWith true v
/-- The indented texts of array items. -/
def prettyItems (width level : Nat) : List Json → List String
  | [] => []
  | x :: xs => prettyAt width level x :: prettyItems width level xs
/-- Member names with the indented texts of their values. -/
def prettyMembers (width level : Nat) : List (String × Json) → List (String × String)
  | [] => []
  | (k, v) :: ms => (k, prettyAt width level v) :: prettyMembers width level ms
end

/-- Indented JSON text, four spaces a level, members sorted by name. -/
def pretty (v : Json) : String := prettyAt 4 0 v

/-- JSON text made safe to embed in HTML: `<`, `>` and `&` written as escapes. Outside string
literals JSON text has none of them, so the text still reads as the same value. -/
def htmlSafe (s : String) : String :=
  String.join (s.toList.map fun c =>
    if c = '<' then "\\u003c" else if c = '>' then "\\u003e" else if c = '&' then "\\u0026" else c.toString)

end HttpMock.Json
