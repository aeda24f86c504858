import HttpMock.Fixture.Parse
import HttpMock.Fixture.Build
import HttpMock.Files.Glob
/-! Loading fixture files from a tree of files, by extension and by pattern. -/
namespace HttpMock.Fixture

open Files

/-- The pattern that selects every fixture file below a directory. -/
def defaultPattern : String := "**/*.\x7byaml,yml,json\x7d"

/-- An error of a document, reported after the path of its file. -/
def located (path : String) : MockError → MockError
  | .fixture ks m => .fixture ks (path.toBytes ++ ": ".toBytes ++ m)
  | x => .fixture x.rawKinds (path.toBytes ++ ": ".toBytes ++ x.message)

/-- Reads and checks the fixture file at a path; the document keeps the path as its source. -/
def load (t : Tree) (path : String) : Except MockError Document :=
  match t.stat path with
  | .missing => throw (.fixture [.fileNotFound] ("fixture file not found: " ++ path).toBytes)
  | .belowFile => throw (.fixture [] ("failed to stat file: stat " ++ path ++ ": not a directory").toBytes)
  | .directory => throw (.fixture [] ("path is a directory, not a file: " ++ path).toBytes)
  | .file data =>
    if (Text.trim data).isEmpty then
      throw (.fixture [.emptyFile] (emptyFileMessage ++ ": " ++ path).toBytes)
    else
      match parse data (Format.ofPath path) with
      | .ok doc => pure { doc with source := path }
      | .error x => throw (located path x)

/-- The files below a directory that a pattern selects (the default one when it is empty),
sorted and joined to the directory. A pattern that is not well formed is an error. -/
def glob (t : Tree) (dir pattern : String) : Except MockError (List String) :=
  let pattern := if pattern.isEmpty then defaultPattern else pattern
  if !Glob.valid pattern then
    throw (.fixture [] "expanding glob pattern: syntax error in pattern".toBytes)
  else
    let found := if dir.isEmpty then [] else (t.filesBelow dir).filter (Glob.accepts pattern)
    pure ((found.mergeSort fun a b => decide (a ≤ b)).map (join dir))

/-- Loads every file below a directory that a pattern selects, in order; the first error
stops. -/
def loadDir (t : Tree) (dir pattern : String) : Except MockError (List Document) := do
  let paths ← glob t dir pattern
  paths.mapM (load t)

/-- The number of expectations a document declares. -/
def Document.declared (d : Document) : Nat := (d.expectations.getD []).length

end HttpMock.Fixture
