import HttpMock.Bytes
/-! Quoted text with backslash escapes. -/
namespace HttpMock.Text

/-- Whether a character is printable: a letter, mark, number, punctuation or symbol, or the
ASCII space. Control, format, separator (other than the space), private-use and unassigned
characters of the common blocks are not. -/
def isPrintable (c : Char) : Bool :=
  let n := c.toNat
  if n < 0x20 || n = 0x7F then false
  else if n < 0x7F then true
  else if n ≤ 0xA0 || n = 0xAD then false
  else if n < 0x378 then true
  else
    !(n = 0x378 || n = 0x379 || (0x380 ≤ n && n ≤ 0x383) || n = 0x38B || n = 0x38D ||
      n = 0x3A2 || (0x600 ≤ n && n ≤ 0x605) || n = 0x61C || n = 0x6DD || n = 0x70F ||
      n = 0x180E || n = 0x1680 || (0x2000 ≤ n && n ≤ 0x200F) || (0x2028 ≤ n && n ≤ 0x202F) ||
      (0x205F ≤ n && n ≤ 0x206F) || n = 0x3000 || (0xD800 ≤ n && n ≤ 0xF8FF) || n = 0xFEFF ||
      (0xFFF0 ≤ n && n ≤ 0xFFFB) || n = 0xFFFE || n = 0xFFFF ||
      (0xE0000 ≤ n && n ≤ 0xE007F) || 0xF0000 ≤ n)

/-- Hexadecimal digits of `n`, at least `width` of them, in lower case. -/
def hexPadded (n width : Nat) : String :=
  let ds := Nat.toDigits 16 n
  String.ofList (List.replicate (width - ds.length) '0' ++ ds)

/-- The escaped form of one character inside quotes. -/
def escapeChar (c : Char) : String :=
  if c = '"' then "\\\""
  else if c = '\\' then "\\\\"
  else if isPrintable c then c.toString
  else
    match c.toNat with
    | 7 => "\\a"
    | 8 => "\\b"
    | 12 => "\\f"
    | 10 => "\\n"
    | 13 => "\\r"
    | 9 => "\\t"
    | 11 => "\\v"
    | n =>
      if n < 0x20 || n = 0x7F then "\\x" ++ hexPadded n 2
      else if n < 0x10000 then "\\u" ++ hexPadded n 4
      else "\\U" ++ hexPadded n 8

/-- The escaped form of one piece of the UTF-8 view. -/
def escapePiece : Bytes.Piece → String
  | .char c => escapeChar c
  | .stray b => "\\x" ++ Bytes.hexPair b

/-- Raw text in double quotes, escaped. -/
def quote (bs : Bytes) : String :=
  "\"" ++ String.join ((Bytes.pieces bs).map escapePiece) ++ "\""

/-- A string in double quotes, escaped. -/
def quoteString (s : String) : String := quote s.toBytes

end HttpMock.Text
