import HttpMock.Text.Quoted
import HttpMock.Text.Case
/-! Command-line flags: long and short names, values, switches, and the arguments left over. -/
namespace HttpMock.Cli

/-- What a flag holds. -/
inductive FlagKind where
  /-- Text; the last value given wins. -/
  | text
  /-- A list of texts, one per time the flag is given. -/
  | texts
  /-- On or off; given alone it is on. -/
  | switch
  deriving DecidableEq, Repr

/-- A flag that a command accepts. -/
structure Flag where
  name : String
  short : Option Char := none
  kind : FlagKind := .text
  /-- The value when the flag is not given, as help shows it. -/
  default : String := ""
  usage : String
  deriving Repr

/-- The flags given on a command line, and its arguments. -/
structure Given where
  /-- Each flag given, by name, with its value, in order. -/
  settings : List (String × String) := []
  args : List String := []
  deriving Repr

namespace Given

/-- The values a flag was given, in order. -/
def values (g : Given) (name : String) : List String :=
  g.settings.filterMap fun (n, v) => if n = name then some v else none

/-- Whether a flag was given. -/
def changed (g : Given) (name : String) : Bool := g.settings.any (·.1 == name)

/-- The value of a text flag: the last one given, or its default. -/
def text (g : Given) (f : Flag) : String := (g.values f.name).getLast?.getD f.default

/-- Whether a switch is on: the last value given reads as true. -/
def isOn (g : Given) (name : String) : Bool :=
  match (g.values name).getLast? with
  | some v => v = "true"
  | none => false

end Given

/-- The truth value of a switch's text: `1`, `t`, `T`, `TRUE`, `true`, `True` and their
opposites. -/
def readBool (s : String) : Except String Bool :=
  if ["1", "t", "T", "TRUE", "true", "True"].contains s then pure true
  else if ["0", "f", "F", "FALSE", "false", "False"].contains s then pure false
  else throw ("strconv.ParseBool: parsing " ++ Text.quoteString s ++ ": invalid syntax")

/-- A flag as errors about its value name it. -/
def Flag.shown (f : Flag) : String :=
  match f.short with
  | some c => "-" ++ c.toString ++ ", --" ++ f.name
  | none => "--" ++ f.name

/-- Records a value given to a flag; a switch's value must read as a truth value, and is kept
as `true` or `false`. -/
def Given.set (g : Given) (f : Flag) (value : String) : Except String Given :=
  match f.kind with
  | .switch =>
    match readBool value with
    | .ok b => pure { g with settings := g.settings ++ [(f.name, if b then "true" else "false")] }
    | .error e =>
      throw ("invalid argument " ++ Text.quoteString value ++ " for " ++ Text.quoteString f.shown ++
        " flag: " ++ e)
  | _ => pure { g with settings := g.settings ++ [(f.name, value)] }

/-- A character in single quotes, escaped as a character literal would be. -/
def quoteChar (c : Char) : String :=
  let apostrophe := Char.ofNat 39
  let body := if c = apostrophe then "\\" ++ apostrophe.toString
    else if c = '"' then "\""
    else Text.escapeChar c
  apostrophe.toString ++ body ++ apostrophe.toString

/-- The flag with a long name. -/
def lookupLong (flags : List Flag) (name : String) : Option Flag := flags.find? (·.name == name)

/-- The flag with a short name, given as an octet. -/
def lookupShort (flags : List Flag) (b : UInt8) : Option Flag :=
  flags.find? fun f => match f.short with
    | some c => c.toNat = b.toNat
    | none => false

/-- Reads a group of short flags after one dash: each letter in turn, until a letter takes the
rest of the group or the next argument as its value. Gives what was read and the arguments
left. -/
def shortGroup (flags : List Flag) : Nat → Bytes → List String → Given → Except String (Given × List String)
  | 0, _, rest, g => pure (g, rest)
  | _ + 1, [], rest, g => pure (g, rest)
  | fuel + 1, group@(b :: more), rest, g =>
    if Bytes.startsWith group "test.".toBytes then pure (g, rest)
    else
      let shown := Bytes.toText group
      match lookupShort flags b with
      | none =>
        throw ("unknown shorthand flag: " ++ quoteChar (Char.ofNat b.toNat) ++ " in -" ++ shown)
      | some f =>
        match more with
        | 0x3D :: value@(_ :: _) => do
          let g ← g.set f (Bytes.toText value)
          pure (g, rest)
        | _ =>
          if f.kind = FlagKind.switch then do
            let g ← g.set f "true"
            shortGroup flags fuel more rest g
          else if !more.isEmpty then do
            let g ← g.set f (Bytes.toText more)
            pure (g, rest)
          else
            match rest with
            | v :: rest' => do
              let g ← g.set f v
              pure (g, rest')
            | [] =>
              throw ("flag needs an argument: " ++ quoteChar (Char.ofNat b.toNat) ++ " in -" ++ shown)

/-- Reads one long flag, written `--name` or `--name=value`; gives what was read and the
arguments left. -/
def longFlag (flags : List Flag) (s : String) (rest : List String) (g : Given) :
    Except String (Given × List String) :=
  let body := (s.drop 2).copy
  if body.startsWith "-" || body.startsWith "=" then throw ("bad flag syntax: " ++ s)
  else
    let (name, value) := match body.splitOn "=" with
      | [n] => (n, none)
      | n :: vs => (n, some ("=".intercalate vs))
      | [] => (body, none)
    match lookupLong flags name with
    | none => throw ("unknown flag: --" ++ name)
    | some f =>
      match value with
      | some v => do
        let g ← g.set f v
        pure (g, rest)
      | none =>
        if f.kind = FlagKind.switch then do
          let g ← g.set f "true"
          pure (g, rest)
        else
          match rest with
          | v :: rest' => do
            let g ← g.set f v
            pure (g, rest')
          | [] => throw ("flag needs an argument: " ++ s)

/-- Reads a command line against the flags a command accepts. -/
def readFlags (flags : List Flag) : Nat → List String → Given → Except String Given
  | 0, _, g => pure g
  | _ + 1, [], g => pure g
  | fuel + 1, s :: rest, g =>
    if s.length < 2 || !s.startsWith "-" then readFlags flags fuel rest { g with args := g.args ++ [s] }
    else if s = "--" then pure { g with args := g.args ++ rest }
    else if s.startsWith "--" then do
      let (g, rest) ← longFlag flags s rest g
      readFlags flags fuel rest g
    else do
      let group := (s.drop 1).copy.toBytes
      let (g, rest) ← shortGroup flags (group.length + 1) group rest g
      readFlags flags fuel rest g

/-- Reads a command line: the flags given and the arguments, or the first error. -/
def parseFlags (flags : List Flag) (args : List String) : Except String Given :=
  readFlags flags (args.length + 1) args {}

end HttpMock.Cli
