import HttpMock.Bytes
/-! Lower-case mapping of characters and of raw text. -/
namespace HttpMock.Text

/-- The simple lower-case form of a character. -/
def lowerChar (c : Char) : Char :=
  let n := c.toNat
  let m :=
    if 0x41 ≤ n && n ≤ 0x5A then n + 32
    else if n < 0xC0 then n
    else if n ≤ 0xDE && n ≠ 0xD7 then n + 32
    else if n < 0x100 then n
    else if n = 0x130 then 0x69
    else if (0x100 ≤ n && n ≤ 0x12F) || (0x132 ≤ n && n ≤ 0x137) || (0x14A ≤ n && n ≤ 0x177) then
      if n % 2 = 0 then n + 1 else n
    else if (0x139 ≤ n && n ≤ 0x148) || (0x179 ≤ n && n ≤ 0x17E) then
      if n % 2 = 1 then n + 1 else n
    else if n = 0x178 then 0xFF
    else if n = 0x386 then 0x3AC
    else if 0x388 ≤ n && n ≤ 0x38A then n + 37
    else if n = 0x38C then 0x3CC
    else if n = 0x38E || n = 0x38F then n + 63
    else if 0x391 ≤ n && n ≤ 0x3AB && n ≠ 0x3A2 then n + 32
    else if 0x400 ≤ n && n ≤ 0x40F then n + 80
    else if 0x410 ≤ n && n ≤ 0x42F then n + 32
    else n
  Char.ofNat m

/-- A string in lower case. -/
def lowerString (s : String) : String := s.map lowerChar

/-- The case-folded form of a character: its lower case, with the long s and the Kelvin and
Angstrom signs folded to the letters they stand for. -/
def foldChar (c : Char) : Char :=
  match c.toNat with
  | 0x17F => 's'
  | 0x212A => 'k'
  | 0x212B => Char.ofNat 0xE5
  | _ => lowerChar c

/-- Whether two strings are equal up to case folding. -/
def equalFold (a b : String) : Bool := a.toList.map foldChar == b.toList.map foldChar

/-- Raw text in lower case. Pure ASCII text keeps every octet; otherwise the text is mapped
character by character and a stray octet becomes U+FFFD. -/
def lower (bs : Bytes) : Bytes :=
  if bs.all (· < 0x80) then bs.map Bytes.asciiLower
  else Bytes.ofPieces ((Bytes.pieces bs).map fun p => match p with
    | .char c => .char (lowerChar c)
    | .stray _ => .char '�')

end HttpMock.Text
