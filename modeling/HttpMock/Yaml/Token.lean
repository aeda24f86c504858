import HttpMock.Bytes
/-! The tokens of YAML text and the problems met while reading it. -/
namespace HttpMock.Yaml

/-- A position in YAML text: the characters before it, its line and its column. -/
structure Mark where
  index : Nat := 0
  line : Nat := 0
  column : Nat := 0
  deriving Inhabited, Repr, BEq

/-- How a scalar is written. -/
inductive ScalarStyle where
  | plain
  | singleQuoted
  | doubleQuoted
  | literal
  | folded
  deriving Inhabited, Repr, BEq, DecidableEq

/-- What a token is. -/
inductive TokenKind where
  | streamStart
  | streamEnd
  | versionDirective (major minor : Nat)
  | tagDirective (handle pre : String)
  | documentStart
  | documentEnd
  | blockSequenceStart
  | blockMappingStart
  | blockEnd
  | flowSequenceStart
  | flowSequenceEnd
  | flowMappingStart
  | flowMappingEnd
  | blockEntry
  | flowEntry
  | key
  | value
  | alias (name : String)
  | anchor (name : String)
  | tag (handle suffix : String)
  | scalar (text : String) (style : ScalarStyle)
  deriving Inhabited, Repr, BEq

/-- A token with the positions where it starts and ends. -/
structure Token where
  kind : TokenKind
  start : Mark
  stop : Mark
  deriving Inhabited, Repr

/-- A problem in YAML text. -/
structure Problem where
  /-- Whether the scanner found it, rather than the parser. -/
  scanning : Bool
  /-- What was being read, if anything. -/
  context : String := ""
  /-- Where what was being read starts. -/
  contextMark : Mark := {}
  message : String
  /-- Where the problem was found. -/
  mark : Mark
  deriving Inhabited, Repr

/-- A problem as it is reported: `line N: message`, or the message alone. -/
def Problem.text (p : Problem) : String :=
  let line := if p.contextMark.line ≠ 0 then p.contextMark.line else p.mark.line
  let line := if line ≠ 0 && p.scanning then line + 1 else line
  (if line = 0 then "" else "line " ++ toString line ++ ": ") ++ p.message

end HttpMock.Yaml
