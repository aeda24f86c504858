import HttpMock.Fixture.Document
import HttpMock.Fixture.FromYaml
import HttpMock.Fixture.FromJson
import HttpMock.Error
import HttpMock.Text.Blank
import HttpMock.Text.Case
/-! Reading a fixture document from its YAML or JSON text. -/
namespace HttpMock.Fixture

/-- How a fixture document is written. -/
inductive Format where
  | yaml
  | json
  /-- A format there is no reader for, by name. -/
  | other (name : String)
  deriving DecidableEq, Repr

namespace Format

/-- The format of a name: `yaml`, `json`, or another. -/
def ofName (s : String) : Format :=
  if s = "yaml" then .yaml else if s = "json" then .json else .other s

/-- The extension of the last element of a path, with its dot; empty if it has none. -/
def extension (path : String) : String :=
  let last := (path.toList.reverse.takeWhile (· ≠ '/'))
  match last.findIdx? (· = '.') with
  | some i => String.ofList (last.take (i + 1)).reverse
  | none => ""

/-- The format of a file by its extension: `.yaml` or `.yml` in any case is YAML, anything else
JSON. -/
def ofPath (path : String) : Format :=
  let ext := Text.lowerString (extension path)
  if ext = ".yaml" || ext = ".yml" then .yaml else .json

end Format

/-- The message of an empty file. -/
def emptyFileMessage : String := "fixture file is empty"

/-- Reads a YAML document. -/
def readYaml (data : Bytes) : Except MockError Document :=
  let syntaxError (m : String) : MockError :=
    .fixture [.invalidYaml] ("invalid YAML syntax: yaml: " ++ m).toBytes
  match Yaml.firstDocument data with
  | .error p => .error (syntaxError p.text)
  | .ok none => .error (.fixture [.emptyFile] emptyFileMessage.toBytes)
  | .ok (some root) =>
    match decodeYaml documentShape root (64 * data.length + 64) with
    | .error (.inl m) => .error (syntaxError m)
    | .error (.inr lines) =>
      .error (.fixture [.invalidFixture]
        ("invalid fixture: yaml: unmarshal errors:\n  " ++ "\n  ".intercalate lines).toBytes)
    | .ok d => .ok d.toDocument

/-- Reads a JSON document. -/
def readJson (data : Bytes) : Except MockError Document :=
  match Json.parse data with
  | .error _ => .error (.fixture [.fixtureInvalidJson] "invalid JSON syntax".toBytes)
  | .ok _ =>
    match decodeJson documentShape data with
    | .error m => .error (.fixture [.invalidFixture] ("invalid fixture: " ++ m).toBytes)
    | .ok d => .ok d.toDocument

/-- Reads and checks a fixture document. -/
def parse (data : Bytes) (format : Format) : Except MockError Document := do
  if (Text.trim data).isEmpty then throw (.fixture [.emptyFile] emptyFileMessage.toBytes)
  let doc ← match format with
    | .yaml => readYaml data
    | .json => readJson data
    | .other name =>
      throw (.fixture [] ("unsupported fixture format " ++ Text.quoteString name).toBytes)
  match doc.check with
  | .ok () => pure doc
  | .error tail => throw (.fixture [.invalidFixture] ("invalid fixture" ++ tail).toBytes)

end HttpMock.Fixture
