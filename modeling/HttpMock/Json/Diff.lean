import HttpMock.Json.Read
import HttpMock.Json.Write
import HttpMock.Diff.Unified
/-! Differences between two JSON texts, as a unified diff of their indented forms. -/
namespace HttpMock.Json

/-- A JSON text read with binary64 numbers and written indented. -/
def prettify? (text : String) : Option String :=
  match parseString text with
  | .error _ => none
  | .ok v =>
    match toFloats v with
    | .ok w => some (pretty w)
    | .error _ => none

/-- The unified diff from the expected JSON text to the actual one, empty when either is not
JSON or when they agree. -/
def diff (expected actual : String) : String :=
  match prettify? expected, prettify? actual with
  | some e, some a => Diff.unified "Expected" "Actual" e a 3
  | _, _ => ""

end HttpMock.Json
