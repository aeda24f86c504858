import HttpMock.Bytes
import HttpMock.Text.Quoted
/-! Splitting an expression into tokens, each with the index of the character it starts at. -/
namespace HttpMock.Expr

/-- The kind of a token. -/
inductive TokenKind where
  | identifier
  | number
  | string
  | operator
  | bracket
  | eof
  deriving DecidableEq, Repr, Inhabited

/-- The name of a kind in messages. -/
def TokenKind.name : TokenKind → String
  | .identifier => "Identifier"
  | .number => "Number"
  | .string => "String"
  | .operator => "Operator"
  | .bracket => "Bracket"
  | .eof => "EOF"

/-- A token: its kind, its text (for a string, the text it stands for) and the index of its first
character. -/
structure Token where
  kind : TokenKind
  value : Bytes
  pos : Nat
  deriving Inhabited, Repr

namespace Token

/-- Whether a token is of a kind and, if one is given, has a text. -/
def is (t : Token) (k : TokenKind) (v : Option String := none) : Bool :=
  t.kind == k && match v with
    | some s => t.value == s.toBytes
    | none => true

/-- The token as messages show it: its kind, and its text quoted if it has one. -/
def describe (t : Token) : String :=
  if t.value.isEmpty then t.kind.name else t.kind.name ++ "(" ++ Text.quote t.value ++ ")"

end Token

/-- An error in an expression: its message and the index of the character it concerns; an
error about a part of the expression that has no place of its own is not located. -/
structure SourceError where
  message : String
  pos : Nat
  located : Bool := true
  deriving Inhabited, Repr

/-- Whether a character is white space. -/
def isSpaceChar (c : Char) : Bool :=
  c = ' ' || c = '\t' || c = '\n' || c = '\r' || c = '\x0B' || c = '\x0C' || c.toNat = 0x85 ||
    c.toNat = 0xA0 || c.toNat = 0x1680 || (0x2000 ≤ c.toNat && c.toNat ≤ 0x200A) ||
    c.toNat = 0x2028 || c.toNat = 0x2029 || c.toNat = 0x202F || c.toNat = 0x205F || c.toNat = 0x3000

/-- Whether a character is a letter: ASCII letters, and the characters beyond ASCII that are not
spaces, punctuation or symbols of the common blocks. -/
def isLetterChar (c : Char) : Bool :=
  let n := c.toNat
  if n < 0x80 then c.isAlpha
  else !(isSpaceChar c) && Text.isPrintable c &&
    !(n ≤ 0xBF && n ≠ 0xAA && n ≠ 0xB5 && n ≠ 0xBA) && n ≠ 0xD7 && n ≠ 0xF7 &&
    !(0x2000 ≤ n && n ≤ 0x2BFF) && !(0x3000 ≤ n && n ≤ 0x303F) && !(0xFE30 ≤ n && n ≤ 0xFE4F) &&
    !(0xFF00 ≤ n && n ≤ 0xFF20) && !(0x1F000 ≤ n && n ≤ 0x1FAFF)

/-- Whether a character may stand in an identifier: a letter, a digit, `_` or `$`. -/
def isWordChar (c : Char) : Bool := c = '_' || c = '$' || c.isDigit || isLetterChar c

/-- The value of a digit in bases up to 16; 16 for any other character. -/
def digitValue (c : Char) : Nat :=
  if c.isDigit then c.toNat - 48
  else if 'a' ≤ c && c ≤ 'f' then c.toNat - 87
  else if 'A' ≤ c && c ≤ 'F' then c.toNat - 55
  else 16

/-- A character as `U+XXXX 'c'`, the quoted form left out when it is not printable. -/
def describeChar (c : Char) : String :=
  let hex := String.ofList ((Text.hexPadded c.toNat 4).toList.map Char.toUpper)
  if Text.isPrintable c then "U+" ++ hex ++ " \x27" ++ c.toString ++ "\x27" else "U+" ++ hex

/-- The reader: the source, where the current token starts, how far reading went, and the
tokens so far. -/
structure Lexer where
  source : Array Char
  start : Nat := 0
  stop : Nat := 0
  tokens : Array Token := #[]

namespace Lexer

/-- Reads one character; `none` is the end of the input, which also counts as read. -/
def next (l : Lexer) : Option Char × Lexer :=
  (l.source[l.stop]?, { l with stop := l.stop + 1 })

/-- Steps back over the last character read. -/
def backup (l : Lexer) : Lexer := { l with stop := l.stop - 1 }

/-- The next character, not read. -/
def peek (l : Lexer) : Option Char := l.source[l.stop]?

/-- Whether a character is among those of a set. -/
def among (c : Option Char) (set : String) : Bool :=
  match c with
  | some c => set.toList.contains c
  | none => false

/-- Reads the next character if it is among those of a set. -/
def accept (l : Lexer) (set : String) : Bool × Lexer :=
  if among l.peek set then (true, { l with stop := l.stop + 1 }) else (false, l)

/-- Reads characters while they are among those of a set. -/
def acceptRun (l : Lexer) (set : String) : Lexer :=
  let n := ((l.source.toList.drop l.stop).takeWhile fun c => set.toList.contains c).length
  { l with stop := l.stop + n }

/-- The text read since the current token started. -/
def word (l : Lexer) : String := String.ofList ((l.source.toList.take l.stop).drop l.start)

/-- Starts the next token where reading stands. -/
def commit (l : Lexer) : Lexer := { l with start := l.stop }

/-- Ends a token with a given text. -/
def emitValue (l : Lexer) (k : TokenKind) (v : Bytes) : Lexer :=
  { l with tokens := l.tokens.push { kind := k, value := v, pos := l.start }, start := l.stop }

/-- Ends a token with the text read. -/
def emit (l : Lexer) (k : TokenKind) : Lexer := l.emitValue k l.word.toBytes

/-- Ends the input: the end token stands one character before the last position read. -/
def emitEof (l : Lexer) : Lexer :=
  { l with tokens := l.tokens.push { kind := .eof, value := [], pos := l.stop - 2 }, start := l.stop }

/-- An error at the last character read. -/
def fail (l : Lexer) (message : String) : SourceError := { message, pos := l.stop - 1 }

/-- Reads up to `n` digits of a base after the character `c` already read; the character after
them is returned. Fewer digits than `n` is an error. -/
def scanDigits (l : Lexer) (c : Option Char) (base n : Nat) : Except SourceError (Option Char × Lexer) :=
  match n with
  | 0 => pure (c, l)
  | n + 1 =>
    match c with
    | some ch =>
      if digitValue ch < base then
        let (c', l') := l.next
        scanDigits l' c' base n
      else throw (l.fail "invalid char escape")
    | none => throw (l.fail "invalid char escape")

/-- Reads an escape after a backslash; the character after it is returned. -/
def scanEscape (l : Lexer) (quote : Char) : Except SourceError (Option Char × Lexer) :=
  let (c, l) := l.next
  match c with
  | some ch =>
    if "abfnrtv\\".toList.contains ch || ch = quote then pure l.next
    else if '0' ≤ ch && ch ≤ '7' then scanDigits l c 8 3
    else if ch = 'x' then let (c', l') := l.next; scanDigits l' c' 16 2
    else if ch = 'u' then let (c', l') := l.next; scanDigits l' c' 16 4
    else if ch = 'U' then let (c', l') := l.next; scanDigits l' c' 16 8
    else throw (l.fail "invalid char escape")
  | none => throw (l.fail "invalid char escape")

/-- Reads a quoted string up to its closing quote, `c` being the character after the opening
one. -/
def scanString (fuel : Nat) (l : Lexer) (quote : Char) (c : Option Char) : Except SourceError Lexer :=
  match fuel with
  | 0 => throw (l.fail "literal not terminated")
  | fuel + 1 =>
    match c with
    | none => throw (l.fail "literal not terminated")
    | some ch =>
      if ch = quote then pure l
      else if ch = '\n' then throw (l.fail "literal not terminated")
      else if ch = '\\' then do
        let (c', l') ← l.scanEscape quote
        scanString fuel l' quote c'
      else
        let (c', l') := l.next
        scanString fuel l' quote c'

end Lexer

/-- The value of `n` hexadecimal or octal digits at the front, with the rest. -/
def digitsValue (base n : Nat) (cs : List Char) : Nat × List Char :=
  ((cs.take n).foldl (fun a c => base * a + digitValue c) 0, cs.drop n)

/-- The text a string literal stands for, its quotes taken off and its escapes replaced; octal
and `\x` escapes give single octets. The escapes were checked while reading. -/
def unescape (cs : List Char) : Bytes :=
  let rec go : Nat → List Char → Bytes
    | 0, _ => []
    | _, [] => []
    | fuel + 1, '\\' :: c :: rest =>
      match c with
      | 'a' => 7 :: go fuel rest
      | 'b' => 8 :: go fuel rest
      | 'f' => 12 :: go fuel rest
      | 'n' => 10 :: go fuel rest
      | 'r' => 13 :: go fuel rest
      | 't' => 9 :: go fuel rest
      | 'v' => 11 :: go fuel rest
      | 'x' => let (v, r) := digitsValue 16 2 rest; v.toUInt8 :: go fuel r
      | 'u' => let (v, r) := digitsValue 16 4 rest; (Char.ofNat v).toString.toBytes ++ go fuel r
      | 'U' => let (v, r) := digitsValue 16 8 rest; (Char.ofNat v).toString.toBytes ++ go fuel r
      | d =>
        if '0' ≤ d && d ≤ '7' then
          let (v, r) := digitsValue 8 3 (d :: rest)
          v.toUInt8 :: go fuel r
        else d.toString.toBytes ++ go fuel rest
    | fuel + 1, c :: rest => c.toString.toBytes ++ go fuel rest
  go (cs.length + 1) cs

/-- Word operators. -/
def wordOperators : List String :=
  ["in", "or", "and", "matches", "contains", "startsWith", "endsWith", "let", "if", "else"]

/-- Word operators that may follow `not`. -/
def negatable : List String := ["in", "matches", "contains", "startsWith", "endsWith"]

namespace Lexer

/-- Reads a number from where the token starts; `false` when a letter or digit follows it,
which is then read too. -/
def scanNumber (l : Lexer) : Bool × Lexer :=
  let (zero, l) := l.accept "0"
  let (digits, l) :=
    if zero then
      let (x, l) := l.accept "xX"
      if x then ("0123456789abcdefABCDEF_", l)
      else
        let (o, l) := l.accept "oO"
        if o then ("01234567_", l)
        else
          let (b, l) := l.accept "bB"
          if b then ("01_", l) else ("0123456789_", l)
    else ("0123456789_", l)
  let l := l.acceptRun digits
  let whole := l.stop
  let (point, l') := l.accept "."
  let (l, rangeAhead) :=
    if point then
      if l'.peek = some '.' then ({ l' with stop := whole }, true)
      else (l'.acceptRun digits, false)
    else (l', false)
  if rangeAhead then (true, l)
  else
    let (e, l) := l.accept "eE"
    let l := if e then (l.accept "+-").2.acceptRun digits else l
    match l.peek with
    | some c => if isWordChar c then (false, { l with stop := l.stop + 1 }) else (true, l)
    | none => (true, l)

/-- Reads a number token. -/
def number (l : Lexer) : Except SourceError Lexer :=
  let (ok, l) := l.scanNumber
  if ok then pure (l.emit .number)
  else throw (l.fail ("bad number syntax: " ++ Text.quoteString l.word))

/-- Reads an identifier or a word operator; after `not`, also a word operator that follows. -/
def identifier (l : Lexer) : Lexer :=
  let n := ((l.source.toList.drop l.stop).takeWhile isWordChar).length
  let l := { l with stop := l.stop + n }
  let w := l.word
  if w = "not" then
    let l := l.emit .operator
    let spaces := ((l.source.toList.drop l.stop).takeWhile (· = ' ')).length
    let l := { l with stop := l.stop + spaces }.commit
    let m := ((l.source.toList.drop l.stop).takeWhile isWordChar).length
    let l' := { l with stop := l.stop + m }
    if negatable.contains l'.word then l'.emit .operator else l
  else if wordOperators.contains w then l.emit .operator
  else l.emit .identifier

/-- Skips a comment to the end of the line. -/
def lineComment (l : Lexer) : Lexer :=
  let n := ((l.source.toList.drop l.stop).takeWhile (· ≠ '\n')).length
  -- the line break, or the end of the input, is read too
  { l with stop := l.stop + n + 1 }.commit

/-- Skips a comment to its closing `*/`. -/
def blockComment (fuel : Nat) (l : Lexer) : Except SourceError Lexer :=
  match fuel with
  | 0 => throw (l.fail "unclosed comment")
  | fuel + 1 =>
    let (c, l) := l.next
    match c with
    | none => throw (l.fail "unclosed comment")
    | some '*' =>
      let (slash, l) := l.accept "/"
      if slash then pure l.commit else blockComment fuel l
    | some _ => blockComment fuel l

/-- Reads `#` and the name that may follow it. -/
def pointer (l : Lexer) : Lexer :=
  let l := (l.accept "#").2
  let l := l.emitValue .operator "#".toBytes
  let n := ((l.source.toList.drop l.stop).takeWhile isWordChar).length
  let l := { l with stop := l.stop + n }
  if n = 0 then l else l.emit .identifier

/-- Reads one token, or skips white space or a comment; `true` once the end is read. -/
def step (l : Lexer) : Except SourceError (Bool × Lexer) :=
  let fuel := l.source.size + 2
  let (c, l) := l.next
  match c with
  | none => pure (true, l.emitEof)
  | some r =>
    if isSpaceChar r then pure (false, l.commit)
    else if r = '\x27' || r = '"' then do
      let (c', l') := l.next
      let l ← l'.scanString fuel r c'
      let w := l.word.toList
      pure (false, l.emitValue .string (unescape ((w.drop 1).dropLast)))
    else if r = '\x60' then
      let rest := l.source.toList.drop l.stop
      match rest.findIdx? (· = '\x60') with
      | some i =>
        let l := { l with stop := l.stop + i + 1 }
        pure (false, l.emitValue .string (String.ofList (rest.take i)).toBytes)
      | none => throw ({ l with stop := l.source.size + 1 }.fail "literal not terminated")
    else if r.isDigit then do
      let l ← l.backup.number
      pure (false, l)
    else if r = '?' then pure (false, ((l.accept ".?").2).emit .operator)
    else if r = '/' then
      let (line, l1) := l.accept "/"
      if line then pure (false, l1.lineComment)
      else
        let (block, l2) := l.accept "*"
        if block then do
          let l ← l2.blockComment fuel
          pure (false, l)
        else pure (false, l.emit .operator)
    else if r = '#' then pure (false, l.backup.pointer)
    else if r = '|' then pure (false, ((l.accept "|").2).emit .operator)
    else if r = ':' then pure (false, ((l.accept ":").2).emit .operator)
    else if "([\x7b)]\x7d".toList.contains r then pure (false, l.emit .bracket)
    else if ",;%+-^".toList.contains r then pure (false, l.emit .operator)
    else if "&!=*<>".toList.contains r then pure (false, ((l.accept "&=*").2).emit .operator)
    else if r = '.' then
      if among l.peek "0123456789" then do
        let l ← l.number
        pure (false, l)
      else pure (false, ((l.accept ".").2).emit .operator)
    else if isWordChar r then pure (false, l.backup.identifier)
    else throw (l.fail ("unrecognized character: " ++ describeChar r))

/-- Reads tokens until the end. -/
def run : Nat → Lexer → Except SourceError (Array Token)
  | 0, l => pure l.tokens
  | fuel + 1, l => do
    let (done, l) ← l.step
    if done then pure l.tokens else run fuel l

end Lexer

/-- The tokens of an expression, ending with the end token, or the first error. -/
def tokenize (source : String) : Except SourceError (Array Token) :=
  let cs := source.toList.toArray
  Lexer.run (cs.size + 2) { source := cs }

end HttpMock.Expr
