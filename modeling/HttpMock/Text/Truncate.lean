import HttpMock.Bytes
/-! Truncating text for logs at a character boundary. -/
namespace HttpMock.Text

/-- The default limit of logged text, in octets. -/
def defaultLimit : Nat := 2048

/-- The marker after truncated text. -/
def truncationMarker : String := "...(truncated)"

/-- The longest cut position `c ≤ n` that is zero or falls on the first octet of a character. -/
def cutPoint (bs : Bytes) : Nat → Nat
  | 0 => 0
  | n + 1 =>
    match bs[n + 1]? with
    | some b => if Bytes.isRuneStart b then n + 1 else cutPoint bs n
    | none => n + 1

/-- Text cut to at most `limit` octets (the default limit for `limit ≤ 0`), with the marker
when anything was cut. -/
def truncate (bs : Bytes) (limit : Int) : Bytes :=
  let m := if limit > 0 then limit.toNat else defaultLimit
  if bs.length ≤ m then bs
  else bs.take (cutPoint bs m) ++ truncationMarker.toBytes

end HttpMock.Text
