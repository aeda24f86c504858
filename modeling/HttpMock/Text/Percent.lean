import HttpMock.Bytes
/-! Percent-encoding of query components. -/
namespace HttpMock.Text.Percent

/-- Octets written as themselves: ASCII letters, digits and `-_.~`. -/
def isUnreserved (b : UInt8) : Bool :=
  (0x41 ≤ b && b ≤ 0x5A) || (0x61 ≤ b && b ≤ 0x7A) || (0x30 ≤ b && b ≤ 0x39) ||
    b = 0x2D || b = 0x5F || b = 0x2E || b = 0x7E

/-- The written form of one octet. -/
def encodeOctet (b : UInt8) : List Char :=
  if isUnreserved b then [Char.ofNat b.toNat]
  else if b = 0x20 then ['+']
  else ['%', Bytes.hexDigit (b.toNat / 16) true, Bytes.hexDigit (b.toNat % 16) true]

/-- Raw text written as a query component. -/
def encode (bs : Bytes) : String := String.ofList (bs.flatMap encodeOctet)

/-- Reads a query component, or `none` when a `%` is not followed by two hexadecimal digits. -/
def decode? : Bytes → Option Bytes
  | [] => some []
  | 0x25 :: a :: b :: rest =>
    match Bytes.hexValue? a, Bytes.hexValue? b with
    | some x, some y => (decode? rest).map (UInt8.ofNat (16 * x + y) :: ·)
    | _, _ => none
  | 0x25 :: _ => none
  | 0x2B :: rest => (decode? rest).map (0x20 :: ·)
  | c :: rest => (decode? rest).map (c :: ·)

/-- Reads a query component, keeping the text as it is when it cannot be read. -/
def decodeOrKeep (bs : Bytes) : Bytes := (decode? bs).getD bs

end HttpMock.Text.Percent
