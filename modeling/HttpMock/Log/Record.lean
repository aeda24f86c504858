import HttpMock.Log.Level
import HttpMock.Text.Quoted
import HttpMock.Text.Truncate
import HttpMock.Json.Value
/-! Log records, written as one JSON object or as one line of `key=value` pairs. -/
namespace HttpMock.Log

/-- A value of a record. -/
inductive Value where
  | text (s : Bytes)
  | int (n : Int)
  deriving DecidableEq, Repr

/-- A log record. -/
structure Record where
  level : Level := .debug
  message : String
  attrs : List (String × Value) := []
  deriving Repr

/-- A long text value, cut to the size log records allow. -/
def clipped (s : Bytes) : Value := .text (Text.truncate s Text.defaultLimit)

/-- Whether a line value must be quoted. -/
def needsQuotes (s : Bytes) : Bool :=
  s.isEmpty || (Bytes.pieces s).any fun p =>
    match p with
    | .stray _ => true
    | .char c =>
      if c.toNat < 0x80 then
        c ≠ '\\' && (c = ' ' || c = '=' || c = '"' || c.toNat < 0x20)
      else Text.isBlank c || !Text.isPrintable c

/-- A value as the line form writes it. -/
def lineText (s : Bytes) : Bytes :=
  if needsQuotes s then (Text.quote s).toBytes else s

/-- The line form of a value. -/
def Value.line : Value → Bytes
  | .text s => lineText s
  | .int n => (toString n).toBytes

/-- The JSON form of a value. -/
def Value.json : Value → Json
  | .text s => .string (Bytes.toText s)
  | .int n => .number (toString n)

namespace Record

/-- A record as one line of `key=value` pairs, without a time. -/
def line (r : Record) : Bytes :=
  let pairs := ("level", Value.text r.level.name.toBytes) :: ("msg", Value.text r.message.toBytes) :: r.attrs
  ([0x20] : Bytes).intercalate (pairs.map fun (k, v) => k.toBytes ++ [0x3D] ++ v.line)

/-- A record as a JSON object, without a time. -/
def json (r : Record) : Json :=
  .object ([("level", .string r.level.name), ("msg", .string r.message)] ++
    r.attrs.map fun (k, v) => (k, v.json))

end Record

end HttpMock.Log
