import HttpMock.Cli.Flags
import HttpMock.Fixture.Load
/-! The commands of `clientmock`, how a command line selects one, and the help each prints. -/
namespace HttpMock.Cli

/-- The commands of the program. -/
inductive Command where
  | root
  | validate
  | answer
  | version
  | help
  | completion
  deriving DecidableEq, Repr

namespace Command

/-- The name the program runs as. -/
def program : String := "clientmock"

/-- The name of a command. -/
def name : Command → String
  | .root => program
  | .validate => "validate"
  | .answer => "match"
  | .version => "version"
  | .help => "help"
  | .completion => "completion"

/-- The commands below a command, in the order they are added. -/
def children : Command → List Command
  | .root => [.validate, .answer, .version, .help, .completion]
  | _ => []

/-- The command path: the program and the command's name. -/
def path : Command → String
  | .root => program
  | c => program ++ " " ++ c.name

/-- The one-line summary of a command. -/
def short : Command → String
  | .root => "Validate and dry-run HTTP client mock fixtures"
  | .validate => "Validate fixture files"
  | .answer => "Answer one request from fixture files"
  | .version => "Show clientmock version information"
  | .help => "Help about any command"
  | .completion => "Generate the autocompletion script for the specified shell"

/-- The description of a command that help shows. -/
def long : Command → String
  | .root =>
    "clientmock loads declarative expectation fixtures (YAML or JSON), checks\n" ++
    "them against the fixture schema and answers sample requests with them, the\n" ++
    "same way tests using the clientmock package would."
  | .validate =>
    "Validate checks each fixture file for syntax, schema violations and\n" ++
    "expectations that cannot be built, for example a URI containing a query\n" ++
    "string or an invalid JSONPath."
  | .answer =>
    "Match loads the fixtures into a collection, sends a single request through\n" ++
    "it and prints the expectation that answered together with its response.\n" ++
    "When nothing matches, the diagnostic listing every expectation is printed."
  | .version => ""
  | .help =>
    "Help provides help for any command in the application.\n" ++
    "Simply type clientmock help [path to command] for full details."
  | .completion =>
    "Generate the autocompletion script for clientmock for the specified shell.\n" ++
    "See each sub-command" ++ (Char.ofNat 39).toString ++
    "s help for details on how to use the generated script.\n"

/-- The examples that help shows for a command. -/
def examples : Command → String
  | .validate =>
    "  clientmock validate -f users.yaml\n" ++
    "  clientmock validate --dir fixtures --pattern " ++ (Char.ofNat 39).toString ++ "**/*.yaml" ++
      (Char.ofNat 39).toString
  | .answer =>
    let q := (Char.ofNat 39).toString
    "  clientmock match -f users.yaml --url https://api.test/users/42 -H " ++ q ++
      "Accept: application/json" ++ q ++ "\n" ++
    "  clientmock match -f orders.json --method POST --url https://api.test/orders \\\n" ++
    "    -H " ++ q ++ "Content-Type: application/json" ++ q ++ " --data " ++ q ++
      "\x7b\"sku\":\"lamp\"\x7d" ++ q
  | _ => ""

/-- How a command's first line of usage reads before its flags. -/
def use : Command → String
  | .help => "help [command]"
  | c => c.name

/-- Whether a command does something of its own, rather than only hold commands. -/
def runnable : Command → Bool
  | .root | .completion => false
  | _ => true

/-- Whether a command refuses arguments. The top command and `help` take any words, the top
command refusing those that name no command. -/
def refusesArgs : Command → Bool
  | .root | .help => false
  | _ => true

/-- The commands listed under a command's help, by name with their summaries, in order of
name. The `help` command is listed though it is not offered as a suggestion. -/
def listing : Command → List (String × String)
  | .root =>
    ([Command.completion, .help, .answer, .validate, .version]).map fun c => (c.name, c.short)
  | .completion =>
    ["bash", "fish", "powershell", "zsh"].map fun s =>
      (s, "Generate the autocompletion script for " ++ s)
  | _ => []

/-- The commands that a mistyped word may be suggested as, in the order they are added. -/
def suggestable : List Command := [.validate, .answer, .version, .completion]

/-- The flags that select fixture files. -/
def sourceFlags : List Flag :=
  [{ name := "file", short := some 'f', kind := .texts,
     usage := "Fixture file (can be specified multiple times)" },
   { name := "dir", usage := "Directory to search for fixture files" },
   { name := "pattern", default := Fixture.defaultPattern, usage := "Glob pattern used with --dir" }]

/-- The request flags of `match`. -/
def requestFlags : List Flag :=
  [{ name := "method", short := some 'X', default := "GET", usage := "Request method" },
   { name := "url", usage := "Request URL, query string included" },
   { name := "header", short := some 'H', kind := .texts,
     usage := "Request header as \"Name: value\" (can be specified multiple times)" },
   { name := "data", short := some 'd', usage := "Request body" }]

/-- The flags of the top command, which every command accepts. -/
def globalFlags : List Flag :=
  [{ name := "log-level", default := "info", usage := "Log level (debug, info, warn, error)" },
   { name := "log-format", default := "text", usage := "Log format (text, json)" }]

/-- The flags a command has of its own, the top command's global flags included. -/
def ownFlags : Command → List Flag
  | .root => globalFlags
  | .validate => sourceFlags
  | .answer => sourceFlags ++ requestFlags
  | .version => [{ name := "json", kind := .switch, default := "false", usage := "Output in JSON format" }]
  | _ => []

/-- The flags a command has from the top command. -/
def inheritedFlags : Command → List Flag
  | .root => []
  | _ => globalFlags

/-- The flag that asks for help about a command. -/
def helpFlag (c : Command) : Flag :=
  { name := "help", short := some 'h', kind := .switch, default := "false", usage := "help for " ++ c.name }

/-- Every flag a command reads. -/
def flags (c : Command) : List Flag := c.ownFlags ++ c.inheritedFlags ++ [c.helpFlag]

end Command

/-- Whether a word is a flag that the search for a command takes to have its value in the
next word: a long flag or a one-letter short flag, without `=`. -/
def takesNextWord (s : String) : Bool :=
  !s.contains '=' && (s.startsWith "--" || (s.startsWith "-" && s.utf8ByteSize = 2))

/-- The words of a command line that may name commands: those that are not flags or the
values of flags, up to `--`. A flag whose value would be the last word ends the search. -/
def commandWords : List String → List String
  | [] => []
  | [s] => if s ≠ "" && !s.startsWith "-" then [s] else []
  | s :: tail@(_ :: rest) =>
    if s = "--" then []
    else if takesNextWord s then (if rest.isEmpty then [] else commandWords rest)
    else if s ≠ "" && !s.startsWith "-" then s :: commandWords tail
    else commandWords tail

/-- A command line without the first word that names the command, skipping flag values. -/
def withoutWord (x : String) : List String → List String
  | [] => []
  | [s] => if s ≠ "--" && !takesNextWord s && !s.startsWith "-" && s = x then [] else [s]
  | s :: tail@(v :: rest) =>
    if s = "--" then s :: tail
    else if takesNextWord s then s :: v :: withoutWord x rest
    else if !s.startsWith "-" && s = x then tail
    else s :: withoutWord x tail

/-- The least number of single-octet insertions, deletions and substitutions that turn one
text into another. -/
def editDistance (s t : Bytes) : Nat :=
  let rec cells (a : UInt8) : Bytes → List Nat → Nat → List Nat
    | b :: bs, p0 :: p1 :: ps, left =>
      let v := if a = b then p0 else 1 + min p1 (min left p0)
      v :: cells a bs (p1 :: ps) v
    | _, _, _ => []
  let row (prev : List Nat) (a : UInt8) : List Nat :=
    let start := prev.headD 0 + 1
    start :: cells a t prev start
  ((s.foldl row (List.range (t.length + 1))).getLast?).getD 0

/-- The commands a mistyped word may have meant: those within two edits of it, or that start
with it, ignoring case. -/
def suggestionsFor (typed : String) : List String :=
  let typed := Text.lowerString typed
  (Command.suggestable.filter fun c =>
    let n := Text.lowerString c.name
    editDistance typed.toBytes n.toBytes ≤ 2 || n.startsWith typed).map Command.name

/-- The command a command line selects, with the words left for it, looking at most `fuel`
levels down. -/
def descend : Nat → Command → List String → Command × List String
  | 0, c, args => (c, args)
  | fuel + 1, c, args =>
    match commandWords args with
    | [] => (c, args)
    | w :: _ =>
      match c.children.find? (·.name == w) with
      | some sub => descend fuel sub (withoutWord w args)
      | none => (c, args)

/-- The command a command line selects and the words left for it. A word that names no
command below the top command is an error. -/
def find (args : List String) : Except String (Command × List String) :=
  let (c, rest) := descend 2 .root args
  if c.refusesArgs || c.children.isEmpty then pure (c, rest)
  else
    match commandWords rest with
    | w :: _ =>
      if c = .root then
        let hints := suggestionsFor w
        throw ("unknown command " ++ Text.quoteString w ++ " for " ++ Text.quoteString c.path ++
          (if hints.isEmpty then ""
           else "\n\nDid you mean this?\n" ++ String.join (hints.map fun h => "\t" ++ h ++ "\n")))
      else pure (c, rest)
    | [] => pure (c, rest)

/-- Text without the white space at its end. -/
def trimEnd (s : String) : String := String.ofList (s.toList.reverse.dropWhile Char.isWhitespace).reverse

/-- Text padded with spaces on the right to a width. -/
def padRight (s : String) (width : Nat) : String :=
  s ++ String.ofList (List.replicate (width - s.length) ' ')

/-- The start of a flag's line in help: its names and the kind of value it takes. -/
def Flag.heading (f : Flag) : String :=
  (match f.short with
    | some c => "  -" ++ c.toString ++ ", --" ++ f.name
    | none => "      --" ++ f.name) ++
  (match f.kind with
    | .text => " string"
    | .texts => " stringArray"
    | .switch => "")

/-- The rest of a flag's line in help: its usage, and its default if that is not empty. -/
def Flag.explained (f : Flag) : String :=
  f.usage ++ (if f.kind = FlagKind.text && !f.default.isEmpty then " (default " ++ Text.quoteString f.default ++ ")" else "")

/-- The help lines of flags, in order of name, their explanations lined up. -/
def flagLines (fs : List Flag) : String :=
  let fs := fs.mergeSort fun a b => decide (a.name ≤ b.name)
  let width := (fs.map fun f => f.heading.length + 1).foldl max 0
  String.join (fs.map fun f =>
    f.heading ++ " " ++ String.ofList (List.replicate (width - f.heading.length) ' ') ++ " " ++
      f.explained ++ "\n")

namespace Command

/-- The first line of usage of a command that runs. -/
def useLine (c : Command) : String :=
  (if c = .root then c.use else program ++ " " ++ c.use) ++ " [flags]"

/-- The usage of a command: how to call it, examples, the commands below it and its flags.
The help flag is listed once it has been set up for the command. -/
def usage (c : Command) (withHelp : Bool) : String :=
  let subs := c.listing
  let own := c.ownFlags ++ (if withHelp then [c.helpFlag] else [])
  let inherited := c.inheritedFlags
  "Usage:" ++
  (if c.runnable then "\n  " ++ c.useLine else "") ++
  (if subs.isEmpty then "" else "\n  " ++ c.path ++ " [command]") ++
  (if c.examples.isEmpty then "" else "\n\nExamples:\n" ++ c.examples) ++
  (if subs.isEmpty then ""
   else "\n\nAvailable Commands:" ++ String.join (subs.map fun (n, s) => "\n  " ++ padRight n 11 ++ " " ++ s)) ++
  (if own.isEmpty then "" else "\n\nFlags:\n" ++ trimEnd (flagLines own)) ++
  (if inherited.isEmpty then "" else "\n\nGlobal Flags:\n" ++ trimEnd (flagLines inherited)) ++
  (if subs.isEmpty then ""
   else "\n\nUse \"" ++ c.path ++ " [command] --help\" for more information about a command.") ++
  "\n"

/-- The help of a command: its description, then its usage. -/
def helpText (c : Command) : String :=
  let about := if c.long.isEmpty then c.short else c.long
  (if about.isEmpty then "" else trimEnd about ++ "\n\n") ++ c.usage true

end Command

/-- Whether text can be shown between backquotes: no backquote, no control character but the
tab, no byte order mark. -/
def canBackquote (s : String) : Bool :=
  s.toList.all fun c => c ≠ '\x60' && c.toNat ≠ 0xFEFF && c.toNat ≠ 0x7F && (c.toNat ≥ 0x20 || c = '\t')

/-- A list of words as a bracketed list, each between backquotes where it can be, quoted
otherwise. -/
def showWords (ws : List String) : String :=
  "[" ++ " ".intercalate (ws.map fun w => if canBackquote w then "\x60" ++ w ++ "\x60" else Text.quoteString w) ++ "]"

/-- What `help` prints for the words after it: the help of the command they name, or a note
that they name none with the usage of the top command. -/
def helpTopic (words : List String) : String :=
  match find words with
  | .ok (c, _) => c.helpText
  | .error _ => "Unknown help topic " ++ showWords words ++ "\n" ++ Command.root.usage false

end HttpMock.Cli
