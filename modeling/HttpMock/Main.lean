import HttpMock.Cli.Run
/-! The `clientmock` program: reads the files a command line names and runs the command. -/
namespace HttpMock.Main

open Cli

/-- The build the program reports. -/
def buildInfo : BuildInfo := { runtime := "lean4", os := "unknown", arch := "unknown" }

/-- The paths a command line names as fixture files or as the directory to search. -/
def namedPaths (args : List String) : List String :=
  match find args with
  | .error _ => []
  | .ok (c, rest) =>
    match parseFlags c.flags rest with
    | .error _ => []
    | .ok g =>
      let dir := g.text { name := "dir", usage := "" }
      g.values "file" ++ (if dir.isEmpty then [] else [dir])

/-- Adds what is at a path to a tree: the file's content, or the directory. -/
def record (t : Files.Tree) (path : String) : IO Files.Tree := do
  try
    let data ← IO.FS.readBinFile path
    pure (t.addFile path data.toList)
  catch e =>
    match e with
    | .inappropriateType _ 21 _ => pure (t.addDirectory path)
    | _ => pure t

/-- Writes raw text to a stream. -/
def emit (s : IO.FS.Stream) (bs : Bytes) : IO Unit := do
  s.write (ByteArray.mk bs.toArray)
  s.flush

end HttpMock.Main

/-- Runs the program on its command line. -/
def main (args : List String) : IO UInt32 := do
  let tree ← (HttpMock.Main.namedPaths args).foldlM HttpMock.Main.record ({} : HttpMock.Files.Tree)
  let o := HttpMock.Cli.run HttpMock.Main.buildInfo tree args
  HttpMock.Main.emit (← IO.getStdout) o.stdout
  HttpMock.Main.emit (← IO.getStderr) o.stderr
  pure o.exit.toUInt32
