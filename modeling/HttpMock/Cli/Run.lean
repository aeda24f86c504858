import HttpMock.Cli.Command
import HttpMock.Collection
import HttpMock.Json.Write
/-! Running `clientmock validate` and `clientmock match` on a command line over a tree of files. -/
namespace HttpMock.Cli

open Files

/-- What a run prints, and its exit status. -/
structure Outcome where
  exit : Nat := 0
  stdout : Bytes := []
  stderr : Bytes := []
  deriving Repr

/-- What the program is built from, as `version` reports it. -/
structure BuildInfo where
  version : String := "dev"
  commit : String := "none"
  date : String := "unknown"
  /-- The language runtime the program runs on. -/
  runtime : String
  os : String
  arch : String

/-- What a command prints before it ends, and the error it ends with, if any. -/
structure Report where
  stdout : Bytes := []
  stderr : Bytes := []
  error : Option Bytes := none

/-- A report of an error alone. -/
def Report.failed (message : Bytes) : Report := { error := some message }

/-- The paths of the fixture files a command line names: those given with `-f`, then those
below `--dir` that the pattern selects. -/
def sourcePaths (t : Tree) (g : Given) : Except MockError (List String) := do
  let files := g.values "file"
  let dir := g.text { name := "dir", usage := "" }
  if dir.isEmpty then pure files
  else
    let found ← Fixture.glob t dir (g.text { name := "pattern", default := Fixture.defaultPattern, usage := "" })
    pure (files ++ found)

/-- The number of expectations a fixture file adds to an empty collection, or why it cannot. -/
def validateFile (t : Tree) (path : String) : Except MockError Nat := do
  let doc ← Fixture.load t path
  match doc.apply {} with
  | (some x, _) => throw x
  | (none, c) => pure c.expectations.length

/-- The message the program gives when no fixture file is named. -/
def noFilesMessage : String := "no fixture files given, use -f or --dir"

/-- Runs `validate`. -/
def validate (t : Tree) (g : Given) : Report :=
  match sourcePaths t g with
  | .error x => .failed x.message
  | .ok [] => .failed noFilesMessage.toBytes
  | .ok paths =>
    let (out, err, failed) := paths.foldl (fun (acc : Bytes × Bytes × Nat) path =>
      let (out, err, failed) := acc
      match validateFile t path with
      | .ok n => (out ++ ("OK " ++ path ++ " (" ++ toString n ++ " expectations)\n").toBytes, err, failed)
      | .error x => (out, err ++ "FAIL ".toBytes ++ x.message ++ "\n".toBytes, failed + 1)) ([], [], 0)
    { stdout := out, stderr := err,
      error := if failed = 0 then none
        else some (toString failed ++ " of " ++ toString paths.length ++ " fixture files invalid").toBytes }

/-- A log record as the error output shows it, one line, in the chosen format. -/
def logLine (format : Log.Format) (r : Log.Record) : Bytes :=
  (match format with
    | .json => (Json.htmlSafe (Json.compact r.json)).toBytes
    | .text => r.line) ++ "\n".toBytes

/-- A response as `match` prints it: the status, the headers in order of name, then the body
after a blank line if there is one. -/
def responseText (r : Response) : Bytes :=
  ("HTTP " ++ toString r.effectiveStatus ++ "\n").toBytes ++
  (r.headers.sorted.flatMap fun (k, vs) => vs.flatMap fun v => k ++ ": ".toBytes ++ v ++ "\n".toBytes) ++
  (if r.sentBody.isEmpty then [] else "\n".toBytes ++ r.sentBody ++ "\n".toBytes)

/-- Runs `match`. -/
def answer (t : Tree) (g : Given) : Report :=
  let flag (name : String) : String :=
    g.text (((Command.answer.flags).find? (·.name == name)).getD { name, usage := "" })
  let url := flag "url"
  if url.isEmpty then .failed "--url is required".toBytes
  else
    let loaded : Except MockError Collection := do
      let paths ← sourcePaths t g
      if paths.isEmpty then throw (.fixture [] noFilesMessage.toBytes)
      let docs ← paths.mapM (Fixture.load t)
      Fixture.collectionOf docs
    match loaded with
    | .error x => .failed x.message
    | .ok c =>
      let options : Options :=
        { headers := (g.values "header").map String.toBytes,
          body := if g.changed "data" then some (.raw (flag "data").toBytes) else none }
      let (result, c, trace) := c.perform ScoreResolver.resolve (flag "method").toBytes url.toBytes options
      let level := Log.Level.parse (flag "log-level")
      let format := Log.Format.parse (flag "log-format")
      let logged := (trace.log.filter fun r => r.level.rank ≥ level.rank).flatMap (logLine format)
      let matched := match c.expectations.find? (!·.calls.isEmpty) with
        | some e => ("matched ".toBytes ++ (if e.name.isEmpty then e.render else e.name.toBytes) ++ "\n".toBytes)
        | none => []
      match result with
      | .error x => { stdout := matched, stderr := logged, error := some x.message }
      | .ok r => { stdout := matched ++ responseText r, stderr := logged }

/-- Runs `version`. -/
def version (b : BuildInfo) (g : Given) : Report :=
  if g.isOn "json" then
    let field (k v : String) : String := "  " ++ Json.quote k ++ ": " ++ Json.quote v
    let fields := [field "version" b.version, field "commit" b.commit, field "date" b.date,
      field "go" b.runtime, field "os" b.os, field "arch" b.arch]
    { stdout := ("\x7b\n" ++ ",\n".intercalate fields ++ "\n\x7d\n").toBytes }
  else
    { stdout := ("clientmock " ++ b.version ++ " (" ++ b.commit ++ ", " ++ b.date ++ ") " ++ b.runtime ++
        " " ++ b.os ++ "/" ++ b.arch ++ "\n").toBytes }

/-- Runs a command with the flags and arguments read for it. -/
def execute (b : BuildInfo) (t : Tree) (c : Command) (g : Given) : Report :=
  if g.isOn "help" || !c.runnable then { stdout := c.helpText.toBytes }
  else
    match c.refusesArgs, g.args with
    | true, w :: _ =>
      .failed ("unknown command " ++ Text.quoteString w ++ " for " ++ Text.quoteString c.path).toBytes
    | _, _ =>
      match c with
      | .validate => validate t g
      | .answer => answer t g
      | .version => version b g
      | .help => { stdout := (helpTopic g.args).toBytes }
      | _ => { stdout := c.helpText.toBytes }

/-- Runs the program on a command line. -/
def run (b : BuildInfo) (t : Tree) (args : List String) : Outcome :=
  let report : Report := match find args with
    | .error e => .failed e.toBytes
    | .ok (c, rest) =>
      match parseFlags c.flags rest with
      | .error e => .failed e.toBytes
      | .ok g => execute b t c g
  match report.error with
  | none => { stdout := report.stdout, stderr := report.stderr }
  | some e => { exit := 1, stdout := report.stdout, stderr := report.stderr ++ "Error: ".toBytes ++ e ++ "\n".toBytes }

end HttpMock.Cli
