import HttpMock.Bytes
/-! Base64 with the standard alphabet and `=` padding. -/
namespace HttpMock.Text.Base64

/-- The standard alphabet. -/
def alphabet : List Char :=
  "ABCDEFGHIJKLMNOPQRSTUVWXYZabcdefghijklmnopqrstuvwxyz0123456789+/".toList

/-- The character of a six-bit value. -/
def digit (n : Nat) : Char := alphabet.getD (n % 64) 'A'

/-- Encodes raw text. -/
def encode : Bytes → String
  | [] => ""
  | [a] =>
    let n := a.toNat * 65536
    String.ofList [digit (n / 262144), digit (n / 4096), '=', '=']
  | [a, b] =>
    let n := a.toNat * 65536 + b.toNat * 256
    String.ofList [digit (n / 262144), digit (n / 4096), digit (n / 64), '=']
  | a :: b :: c :: rest =>
    let n := a.toNat * 65536 + b.toNat * 256 + c.toNat
    String.ofList [digit (n / 262144), digit (n / 4096), digit (n / 64), digit n] ++ encode rest

/-- The six-bit value of a character of the alphabet. -/
def value? (c : Char) : Option Nat :=
  if 'A' ≤ c && c ≤ 'Z' then some (c.toNat - 65)
  else if 'a' ≤ c && c ≤ 'z' then some (c.toNat - 71)
  else if '0' ≤ c && c ≤ '9' then some (c.toNat + 4)
  else if c = '+' then some 62
  else if c = '/' then some 63
  else none

/-- Decodes text, ignoring every character outside the alphabet, padding included. -/
def decode (s : String) : Bytes :=
  let vals := s.toList.filterMap value?
  let rec go : List Nat → Bytes
    | a :: b :: c :: d :: rest =>
      let n := ((a * 64 + b) * 64 + c) * 64 + d
      UInt8.ofNat (n / 65536) :: UInt8.ofNat (n / 256 % 256) :: UInt8.ofNat (n % 256) :: go rest
    | [a, b, c] =>
      let n := ((a * 64 + b) * 64 + c) * 64
      [UInt8.ofNat (n / 65536), UInt8.ofNat (n / 256 % 256)]
    | [a, b] => [UInt8.ofNat ((a * 64 + b) * 4096 / 65536)]
    | _ => []
  go vals

/-- Decodes padded text exactly: line breaks are skipped, every other character is of the
alphabet, and `=` pads only the last group of four, after two or three characters; `none`
otherwise. Bits below the last octet are not required to be zero. -/
def decode? (s : Bytes) : Option Bytes :=
  let cs := (s.filter fun b => b ≠ 0x0A && b ≠ 0x0D).map fun b => Char.ofNat b.toNat
  let rec go : List Char → Option Bytes
    | [] => some []
    | [a, b, '=', '='] => do
      let n := ((← value? a) * 64 + (← value? b)) * 4096
      pure [UInt8.ofNat (n / 65536)]
    | [a, b, c, '='] => do
      let n := (((← value? a) * 64 + (← value? b)) * 64 + (← value? c)) * 64
      pure [UInt8.ofNat (n / 65536), UInt8.ofNat (n / 256 % 256)]
    | a :: b :: c :: d :: rest => do
      let n := (((← value? a) * 64 + (← value? b)) * 64 + (← value? c)) * 64 + (← value? d)
      let tail ← go rest
      pure (UInt8.ofNat (n / 65536) :: UInt8.ofNat (n / 256 % 256) :: UInt8.ofNat (n % 256) :: tail)
    | _ => none
  go cs

end HttpMock.Text.Base64
