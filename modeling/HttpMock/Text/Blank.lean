import HttpMock.Bytes
/-! White space by the Unicode `White_Space` property, and trimming raw text by it. -/
namespace HttpMock.Text

/-- The characters with the Unicode `White_Space` property. -/
def isBlank (c : Char) : Bool :=
  let n := c.toNat
  (0x09 ≤ n && n ≤ 0x0D) || n = 0x20 || n = 0x85 || n = 0xA0 || n = 0x1680 ||
    (0x2000 ≤ n && n ≤ 0x200A) || n = 0x2028 || n = 0x2029 || n = 0x202F || n = 0x205F ||
    n = 0x3000

/-- Whether a piece of the UTF-8 view is white space. -/
def isBlankPiece : Bytes.Piece → Bool
  | .char c => isBlank c
  | .stray _ => false

/-- Raw text without its leading and trailing white space. -/
def trim (bs : Bytes) : Bytes :=
  let ps := (Bytes.pieces bs).dropWhile isBlankPiece
  Bytes.ofPieces (ps.reverse.dropWhile isBlankPiece).reverse

/-- Raw text without its leading white space. -/
def trimLeft (bs : Bytes) : Bytes := Bytes.ofPieces ((Bytes.pieces bs).dropWhile isBlankPiece)

/-- Raw text without its trailing white space. -/
def trimRight (bs : Bytes) : Bytes :=
  Bytes.ofPieces ((Bytes.pieces bs).reverse.dropWhile isBlankPiece).reverse

/-- A string without its leading and trailing white space. -/
def trimString (s : String) : String :=
  String.ofList ((s.toList.dropWhile isBlank).reverse.dropWhile isBlank).reverse

end HttpMock.Text
