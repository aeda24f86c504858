import HttpMock.Yaml.Token
/-! Scanning YAML text into tokens. -/
namespace HttpMock.Yaml

/-- Whether a character ends a line: CR, LF, NEL, LS or PS. -/
def isBreak (c : Char) : Bool :=
  c = '\r' || c = '\n' || c = '\x85' || c = '\u2028' || c = '\u2029'

/-- Whether a character is a space or a tab. -/
def isBlank (c : Char) : Bool := c = ' ' || c = '\t'

/-- The end of the text reads as NUL, a character the text itself cannot hold. -/
def isEnd (c : Char) : Bool := c = '\x00'

/-- Whether a character is blank, ends a line or ends the text. -/
def isBlankOrEnd (c : Char) : Bool := isBlank c || isBreak c || isEnd c

/-- Whether a character ends a line or the text. -/
def isBreakOrEnd (c : Char) : Bool := isBreak c || isEnd c

/-- Letters, digits, `_` and `-`: the characters of anchors and tag handles. -/
def isWordChar (c : Char) : Bool := c.isAlphanum || c = '_' || c = '-'

/-- The value of a hexadecimal digit. -/
def hexValue (c : Char) : Option Nat :=
  if '0' ≤ c && c ≤ '9' then some (c.toNat - '0'.toNat)
  else if 'a' ≤ c && c ≤ 'f' then some (c.toNat - 'a'.toNat + 10)
  else if 'A' ≤ c && c ≤ 'F' then some (c.toNat - 'A'.toNat + 10)
  else none

/-- Where a simple key may have started. -/
structure SimpleKey where
  possible : Bool := false
  /-- A key is required where a block mapping expects one. -/
  required : Bool := false
  /-- The index of its first token. -/
  number : Nat := 0
  mark : Mark := {}
  deriving Inhabited

/-- Text pending between the parts of a scalar: blanks, the first line break and the breaks
after it. -/
structure Fold where
  text : String := ""
  leadingBreak : String := ""
  trailingBreaks : String := ""
  whitespaces : String := ""
  leadingBlanks : Bool := false
  deriving Inhabited

/-- Adds the pending blanks and breaks to the text: a single line break folds into a space, more
line breaks stay as they are, and blanks without a break are kept. -/
def Fold.join (f : Fold) : Fold :=
  if f.leadingBlanks then
    let t := if f.leadingBreak.startsWith "\n" then
        (if f.trailingBreaks.isEmpty then f.text.push ' ' else f.text ++ f.trailingBreaks)
      else f.text ++ f.leadingBreak ++ f.trailingBreaks
    { f with text := t, leadingBreak := "", trailingBreaks := "", leadingBlanks := false }
  else { f with text := f.text ++ f.whitespaces, whitespaces := "" }

/-- The scanner's state. -/
structure Scanner where
  rest : List Char
  mark : Mark := {}
  tokens : Array Token := #[]
  indent : Int := -1
  indents : List Int := []
  keyAllowed : Bool := true
  /-- One slot per flow level, the innermost first. -/
  keys : List SimpleKey := [{}]
  flowLevel : Nat := 0
  deriving Inhabited

/-- Tokens read from YAML text, and the problem that stopped the scanner with the number of
tokens it had made by then. -/
structure Scanned where
  tokens : Array Token
  problem : Option (Problem × Nat)
  deriving Inhabited

namespace Scanner

/-- The character `i` places ahead. -/
def peekAt (s : Scanner) (i : Nat) : Char := s.rest.getD i '\x00'

/-- The current character. -/
def cur (s : Scanner) : Char := s.peekAt 0

/-- Moves past one character on the same line. -/
def skip (s : Scanner) : Scanner :=
  match s.rest with
  | [] => s
  | _ :: r => { s with rest := r, mark := { s.mark with index := s.mark.index + 1, column := s.mark.column + 1 } }

/-- Moves past a line break. -/
def skipLine (s : Scanner) : Scanner :=
  match s.rest with
  | '\r' :: '\n' :: r => { s with rest := r, mark := { index := s.mark.index + 2, line := s.mark.line + 1, column := 0 } }
  | c :: r =>
    if isBreak c then { s with rest := r, mark := { index := s.mark.index + 1, line := s.mark.line + 1, column := 0 } }
    else s
  | [] => s

/-- Moves past `n` characters. -/
def skipN (s : Scanner) : Nat → Scanner
  | 0 => s
  | n + 1 => (s.skip).skipN n

/-- Copies the current character to a text and moves past it. -/
def read (s : Scanner) (acc : String) : Scanner × String := (s.skip, acc.push s.cur)

/-- Moves past a line break and adds it to a text: CR, LF, CR LF and NEL as LF, LS and PS as
they are. -/
def readLine (s : Scanner) (acc : String) : Scanner × String :=
  match s.rest with
  | '\r' :: '\n' :: _ => (s.skipLine, acc.push '\n')
  | c :: _ =>
    if c = '\r' || c = '\n' || c = '\x85' then (s.skipLine, acc.push '\n')
    else if c = '\u2028' || c = '\u2029' then (s.skipLine, acc.push c)
    else (s, acc)
  | [] => (s, acc)

/-- Copies characters while they pass a test. -/
def readWhile (p : Char → Bool) : Nat → Scanner → String → Scanner × String
  | 0, s, acc => (s, acc)
  | n + 1, s, acc => if p s.cur && !isEnd s.cur then readWhile p n s.skip (acc.push s.cur) else (s, acc)

/-- Moves past characters while they pass a test. -/
def skipWhile (p : Char → Bool) : Nat → Scanner → Scanner
  | 0, s => s
  | n + 1, s => if p s.cur && !isEnd s.cur then skipWhile p n s.skip else s

/-- A problem found at the current position. -/
def fail {α : Type} (s : Scanner) (context : String) (contextMark : Mark) (message : String) :
    Except Problem α :=
  .error { scanning := true, context, contextMark, message, mark := s.mark }

/-- Adds a token at the end. -/
def push (s : Scanner) (k : TokenKind) (start stop : Mark) : Scanner :=
  { s with tokens := s.tokens.push { kind := k, start, stop } }

/-- The simple key slot of the current flow level. -/
def topKey (s : Scanner) : SimpleKey := s.keys.headD {}

/-- Replaces the simple key slot of the current flow level. -/
def setTopKey (s : Scanner) (k : SimpleKey) : Scanner := { s with keys := k :: s.keys.tail }

/-- Forgets the possible simple key; a required one is a problem. -/
def removeKey (s : Scanner) : Except Problem Scanner :=
  let k := s.topKey
  if k.possible then
    if k.required then s.fail "while scanning a simple key" k.mark "could not find expected \x27:\x27"
    else pure (s.setTopKey { k with possible := false })
  else pure s

/-- Notes that a simple key may start here, if one may. -/
def saveKey (s : Scanner) : Except Problem Scanner := do
  if s.keyAllowed then
    let k : SimpleKey := { possible := true, required := s.flowLevel == 0 && s.indent == (s.mark.column : Int),
                           number := s.tokens.size, mark := s.mark }
    let s ← s.removeKey
    pure (s.setTopKey k)
  else pure s

/-- Whether the possible simple key can still be one: it must be on the current line and at most
1024 characters back. A required key that cannot is a problem. -/
def keyValid (s : Scanner) (k : SimpleKey) : Except Problem Bool :=
  if !k.possible then pure false
  else if k.mark.line < s.mark.line || k.mark.index + 1024 < s.mark.index then
    if k.required then s.fail "while scanning a simple key" k.mark "could not find expected \x27:\x27"
    else pure false
  else pure true

/-- Opens a block collection at a column more indented than the current block, with a token
added at the end or put at a given index. -/
def rollIndent (s : Scanner) (column : Nat) (number : Option Nat) (k : TokenKind) (m : Mark) : Scanner :=
  if s.flowLevel > 0 then s
  else if s.indent < (column : Int) then
    let s := { s with indents := s.indent :: s.indents, indent := column }
    let t : Token := { kind := k, start := m, stop := m }
    match number with
    | some n => { s with tokens := s.tokens.insertIdxIfInBounds n t }
    | none => { s with tokens := s.tokens.push t }
  else s

/-- Closes the block collections more indented than a column. -/
def unrollIndent (s : Scanner) (column : Int) : Scanner :=
  if s.flowLevel > 0 then s else go s.indents.length s
where
  go : Nat → Scanner → Scanner
    | 0, s => s
    | n + 1, s =>
      if s.indent > column then
        let s := s.push .blockEnd s.mark s.mark
        go n { s with indent := s.indents.headD (-1), indents := s.indents.tail }
      else s

/-- Moves to the next token: past spaces, tabs where they may stand, comments and line breaks.
A line break in block context lets a simple key start. -/
def skipToToken : Nat → Scanner → Scanner
  | 0, s => s
  | n + 1, s =>
    let s := if s.mark.column == 0 && s.cur = '\uFEFF' then s.skip else s
    let tabs := s.flowLevel > 0 || !s.keyAllowed
    let s := skipWhile (fun c => c = ' ' || (tabs && c = '\t')) (s.rest.length + 1) s
    let s := if s.cur = '#' then skipWhile (fun c => !isBreak c) (s.rest.length + 1) s else s
    if isBreak s.cur then
      let s := s.skipLine
      skipToToken n (if s.flowLevel == 0 then { s with keyAllowed := true } else s)
    else s

/-- Whether a document marker `---` or `...` starts here. -/
def atDocumentMarker (s : Scanner) : Bool :=
  s.mark.column == 0 &&
    ((s.peekAt 0 = '-' && s.peekAt 1 = '-' && s.peekAt 2 = '-') ||
      (s.peekAt 0 = '.' && s.peekAt 1 = '.' && s.peekAt 2 = '.')) &&
    isBlankOrEnd (s.peekAt 3)

/-- The end of the text: every block is closed. -/
def fetchStreamEnd (s : Scanner) : Except Problem Scanner := do
  let s := if s.mark.column ≠ 0 then { s with mark := { s.mark with column := 0, line := s.mark.line + 1 } } else s
  let s := s.unrollIndent (-1)
  let s ← s.removeKey
  let s := { s with keyAllowed := false }
  pure (s.push .streamEnd s.mark s.mark)

/-- A document marker. -/
def fetchDocumentMarker (s : Scanner) (k : TokenKind) : Except Problem Scanner := do
  let s := s.unrollIndent (-1)
  let s ← s.removeKey
  let s := { s with keyAllowed := false }
  let start := s.mark
  let s := s.skipN 3
  pure (s.push k start s.mark)

/-- An opening bracket or brace. -/
def fetchFlowStart (s : Scanner) (k : TokenKind) : Except Problem Scanner := do
  let s ← s.saveKey
  let s := { s with keys := {} :: s.keys, flowLevel := s.flowLevel + 1, keyAllowed := true }
  let start := s.mark
  let s := s.skip
  pure (s.push k start s.mark)

/-- A closing bracket or brace. -/
def fetchFlowEnd (s : Scanner) (k : TokenKind) : Except Problem Scanner := do
  let s ← s.removeKey
  let s := if s.flowLevel > 0 then { s with flowLevel := s.flowLevel - 1, keys := s.keys.tail } else s
  let s := { s with keyAllowed := false }
  let start := s.mark
  let s := s.skip
  pure (s.push k start s.mark)

/-- A comma between flow entries. -/
def fetchFlowEntry (s : Scanner) : Except Problem Scanner := do
  let s ← s.removeKey
  let s := { s with keyAllowed := true }
  let start := s.mark
  let s := s.skip
  pure (s.push .flowEntry start s.mark)

/-- A `-` entry of a block sequence. -/
def fetchBlockEntry (s : Scanner) : Except Problem Scanner := do
  let s ← if s.flowLevel == 0 then
      if !s.keyAllowed then s.fail "" s.mark "block sequence entries are not allowed in this context"
      else pure (s.rollIndent s.mark.column none .blockSequenceStart s.mark)
    else pure s
  let s ← s.removeKey
  let s := { s with keyAllowed := true }
  let start := s.mark
  let s := s.skip
  pure (s.push .blockEntry start s.mark)

/-- A `?` before a complex key. -/
def fetchKey (s : Scanner) : Except Problem Scanner := do
  let s ← if s.flowLevel == 0 then
      if !s.keyAllowed then s.fail "" s.mark "mapping keys are not allowed in this context"
      else pure (s.rollIndent s.mark.column none .blockMappingStart s.mark)
    else pure s
  let s ← s.removeKey
  let s := { s with keyAllowed := s.flowLevel == 0 }
  let start := s.mark
  let s := s.skip
  pure (s.push .key start s.mark)

/-- A `:` before a value: what stands before it on the line becomes a key if it may. -/
def fetchValue (s : Scanner) : Except Problem Scanner := do
  let k := s.topKey
  let valid ← s.keyValid k
  let s ← if valid then
      let t : Token := { kind := .key, start := k.mark, stop := k.mark }
      let s := { s with tokens := s.tokens.insertIdxIfInBounds k.number t }
      let s := s.rollIndent k.mark.column (some k.number) .blockMappingStart k.mark
      pure { s.setTopKey { k with possible := false } with keyAllowed := false }
    else if s.flowLevel == 0 then
      if !s.keyAllowed then s.fail "" s.mark "mapping values are not allowed in this context"
      else pure { s.rollIndent s.mark.column none .blockMappingStart s.mark with keyAllowed := true }
    else pure { s with keyAllowed := false }
  let start := s.mark
  let s := s.skip
  pure (s.push .value start s.mark)

/-- An anchor `&name` or an alias `*name`. -/
def fetchAnchor (s : Scanner) (isAlias : Bool) : Except Problem Scanner := do
  let s ← s.saveKey
  let s := { s with keyAllowed := false }
  let start := s.mark
  let s := s.skip
  let (s, name) := readWhile isWordChar (s.rest.length + 1) s ""
  let c := s.cur
  if name.isEmpty || !(isBlankOrEnd c || c = '?' || c = ':' || c = ',' || c = ']' || c = '\x7d' ||
      c = '%' || c = '@' || c = '\x60') then
    s.fail (if isAlias then "while scanning an alias" else "while scanning an anchor") start
      "did not find expected alphabetic or numeric character"
  else pure (s.push (if isAlias then .alias name else .anchor name) start s.mark)

/-- Whether a character may stand in a tag. -/
def isUriChar (verbatim : Bool) (c : Char) : Bool :=
  isWordChar c || [';', '/', '?', ':', '@', '&', '=', '+', '$', '.', '!', '~', '*', '\x27', '(', ')', '%'].contains c ||
    (verbatim && (c = ',' || c = '[' || c = ']'))

/-- A tag: `!<uri>`, `!handle!suffix`, `!suffix` or `!`. -/
def fetchTag (s : Scanner) : Except Problem Scanner := do
  let s ← s.saveKey
  let s := { s with keyAllowed := false }
  let start := s.mark
  let (s, handle, suffix) ← if s.peekAt 1 = '<' then
      let s := s.skipN 2
      let (s, uri) := readWhile (isUriChar true) (s.rest.length + 1) s ""
      if uri.isEmpty then s.fail "while parsing a tag" start "did not find expected tag URI"
      else if s.cur ≠ '>' then s.fail "while scanning a tag" start "did not find the expected \x27>\x27"
      else pure (s.skip, "", uri)
    else
      let s1 := s.skip
      let (s2, word) := readWhile isWordChar (s1.rest.length + 1) s1 ""
      if s2.cur = '!' && !word.isEmpty then
        let s3 := s2.skip
        let (s4, uri) := readWhile (isUriChar false) (s3.rest.length + 1) s3 ""
        if uri.isEmpty then s4.fail "while parsing a tag" start "did not find expected tag URI"
        else pure (s4, "!" ++ word ++ "!", uri)
      else if s2.cur = '!' then
        let s3 := s2.skip
        let (s4, uri) := readWhile (isUriChar false) (s3.rest.length + 1) s3 ""
        if uri.isEmpty then s4.fail "while parsing a tag" start "did not find expected tag URI"
        else pure (s4, "!!", uri)
      else
        let (s3, uri) := readWhile (isUriChar false) (s1.rest.length + 1) s1 ""
        if uri.isEmpty then pure (s3, "", "!") else pure (s3, "!", uri)
  if !isBlankOrEnd s.cur && (s.flowLevel == 0 || s.cur ≠ ',') then
    s.fail "while scanning a tag" start "did not find expected whitespace or line break"
  else pure (s.push (.tag handle suffix) start s.mark)

/-- Reads indentation and empty lines inside a block scalar, fixing its indentation from the
most indented of them when it is not set yet. -/
def blockBreaks (start : Mark) (indent : Nat) (stop : Mark) (breaks : String) :
    Nat → Nat → Scanner → Except Problem (Scanner × Nat × Mark × String)
  | 0, _, s => pure (s, indent, stop, breaks)
  | n + 1, maxIndent, s =>
    let s := skipWhile (fun c => c = ' ') (if indent = 0 then s.rest.length + 1 else indent - min indent s.mark.column) s
    let maxIndent := max maxIndent s.mark.column
    if (indent = 0 || s.mark.column < indent) && s.cur = '\t' then
      s.fail "while scanning a block scalar" start "found a tab character where an indentation space is expected"
    else if !isBreak s.cur then
      let indent := if indent = 0 then max 1 (max maxIndent (Int.toNat (s.indent + 1))) else indent
      pure (s, indent, stop, breaks)
    else
      let (s, breaks) := s.readLine breaks
      blockBreaks start indent s.mark breaks n maxIndent s

/-- The lines of a block scalar, from the first non-empty one on. -/
def blockLines (start : Mark) (literal : Bool) (indent : Nat) :
    Nat → Scanner × Mark × String × String × String × Bool → Except Problem (Scanner × Mark × String × String × String)
  | 0, (s, stop, text, leading, trailing, _) => pure (s, stop, text, leading, trailing)
  | n + 1, (s, stop, text, leading, trailing, leadingBlank) =>
    if s.mark.column == indent && !isEnd s.cur then
      let trailingBlank := isBlank s.cur
      let text :=
        if !literal && !leadingBlank && !trailingBlank && leading.startsWith "\n" then
          (if trailing.isEmpty then text.push ' ' else text)
        else text ++ leading
      let text := text ++ trailing
      let leadingBlank := isBlank s.cur
      let (s, text) := readWhile (fun c => !isBreak c) (s.rest.length + 1) s text
      let (s, leading) := s.readLine ""
      match blockBreaks start indent stop "" (s.rest.length + 1) 0 s with
      | .error p => .error p
      | .ok (s, _, stop, trailing) => blockLines start literal indent n (s, stop, text, leading, trailing, leadingBlank)
    else pure (s, stop, text, leading, trailing)

/-- A literal `|` or folded `>` block scalar. -/
def fetchBlockScalar (s : Scanner) (literal : Bool) : Except Problem Scanner := do
  let s ← s.removeKey
  let s := { s with keyAllowed := true }
  let start := s.mark
  let s := s.skip
  let chompOf (c : Char) : Int := if c = '+' then 1 else -1
  let digitOf (c : Char) : Nat := c.toNat - '0'.toNat
  let (s, chomping, increment) ←
    if s.cur = '+' || s.cur = '-' then
      let ch := chompOf s.cur
      let s := s.skip
      if s.cur.isDigit then
        if s.cur = '0' then s.fail "while scanning a block scalar" start "found an indentation indicator equal to 0"
        else pure (s.skip, ch, digitOf s.cur)
      else pure (s, ch, 0)
    else if s.cur.isDigit then
      if s.cur = '0' then s.fail "while scanning a block scalar" start "found an indentation indicator equal to 0"
      else
        let inc := digitOf s.cur
        let s := s.skip
        if s.cur = '+' || s.cur = '-' then pure (s.skip, chompOf s.cur, inc) else pure (s, 0, inc)
    else pure (s, 0, 0)
  let s := skipWhile isBlank (s.rest.length + 1) s
  let s := if s.cur = '#' then skipWhile (fun c => !isBreak c) (s.rest.length + 1) s else s
  if !isBreakOrEnd s.cur then
    s.fail "while scanning a block scalar" start "did not find expected comment or line break"
  else
    let s := if isBreak s.cur then s.skipLine else s
    let indent : Nat := if increment > 0 then (if s.indent ≥ 0 then Int.toNat s.indent + increment else increment) else 0
    let (s, indent, stop, trailing) ← blockBreaks start indent s.mark "" (s.rest.length + 1) 0 s
    let (s, stop, text, leading, trailing) ←
      blockLines start literal indent (s.rest.length + 1) (s, stop, "", "", trailing, false)
    let text := if chomping ≠ -1 then text ++ leading else text
    let text := if chomping = 1 then text ++ trailing else text
    pure (s.push (.scalar text (if literal then .literal else .folded)) start stop)

/-- The simple escapes of a double-quoted scalar. -/
def simpleEscape (c : Char) : Option Char :=
  match c with
  | '0' => some '\x00'
  | 'a' => some '\x07'
  | 'b' => some '\x08'
  | 't' => some '\t'
  | '\t' => some '\t'
  | 'n' => some '\n'
  | 'v' => some '\x0b'
  | 'f' => some '\x0c'
  | 'r' => some '\r'
  | 'e' => some '\x1b'
  | ' ' => some ' '
  | '"' => some '"'
  | '\x27' => some '\x27'
  | '\\' => some '\\'
  | 'N' => some '\x85'
  | '_' => some '\xa0'
  | 'L' => some '\u2028'
  | 'P' => some '\u2029'
  | '/' => some '/'
  | _ => none

/-- The non-blank characters of a quoted scalar up to a blank, a line break or the closing quote;
with whether an escaped line break ended them. -/
def quotedWord (start : Mark) (single : Bool) :
    Nat → Scanner × String × Bool → Except Problem (Scanner × String × Bool)
  | 0, st => pure st
  | n + 1, (s, t, lb) =>
    if isBlankOrEnd s.cur then pure (s, t, lb)
    else if single && s.cur = '\x27' && s.peekAt 1 = '\x27' then quotedWord start single n (s.skipN 2, t.push '\x27', lb)
    else if single && s.cur = '\x27' then pure (s, t, lb)
    else if !single && s.cur = '"' then pure (s, t, lb)
    else if !single && s.cur = '\\' && isBreak (s.peekAt 1) then pure (s.skip.skipLine, t, true)
    else if !single && s.cur = '\\' then
      let e := s.peekAt 1
      match simpleEscape e with
      | some c => quotedWord start single n (s.skipN 2, t.push c, lb)
      | none =>
        let len := if e = 'x' then 2 else if e = 'u' then 4 else if e = 'U' then 8 else 0
        if len = 0 then s.fail "while parsing a quoted scalar" start "found unknown escape character"
        else
          let s := s.skipN 2
          let digits := (List.range len).map s.peekAt
          match digits.mapM hexValue with
          | none => s.fail "while parsing a quoted scalar" start "did not find expected hexdecimal number"
          | some ds =>
            let v := ds.foldl (fun a d => a * 16 + d) 0
            if (0xD800 ≤ v && v ≤ 0xDFFF) || v > 0x10FFFF then
              s.fail "while parsing a quoted scalar" start "found invalid Unicode character escape code"
            else quotedWord start single n (s.skipN len, t.push (Char.ofNat v), lb)
    else
      let (s, t) := s.read t
      quotedWord start single n (s, t, lb)

/-- Blanks and line breaks inside a quoted scalar. -/
def quotedBlanks : Nat → Scanner × Fold → Scanner × Fold
  | 0, st => st
  | n + 1, (s, f) =>
    if isBlank s.cur then
      if !f.leadingBlanks then
        let (s, w) := s.read f.whitespaces
        quotedBlanks n (s, { f with whitespaces := w })
      else quotedBlanks n (s.skip, f)
    else if isBreak s.cur then
      if !f.leadingBlanks then
        let (s, b) := s.readLine ""
        quotedBlanks n (s, { f with whitespaces := "", leadingBreak := b, leadingBlanks := true })
      else
        let (s, b) := s.readLine f.trailingBreaks
        quotedBlanks n (s, { f with trailingBreaks := b })
    else (s, f)

/-- The parts of a quoted scalar after the opening quote, up to the closing one. -/
def quotedParts (start : Mark) (single : Bool) : Nat → Scanner × Fold → Except Problem (Scanner × Fold)
  | 0, st => pure st
  | n + 1, (s, f) =>
    if s.atDocumentMarker then s.fail "while scanning a quoted scalar" start "found unexpected document indicator"
    else if isEnd s.cur then s.fail "while scanning a quoted scalar" start "found unexpected end of stream"
    else
      match quotedWord start single (s.rest.length + 1) (s, f.text, false) with
      | .error p => .error p
      | .ok (s, t, lb) =>
        let f := { f with text := t, leadingBlanks := lb }
        if (single && s.cur = '\x27') || (!single && s.cur = '"') then pure (s, f)
        else
          let (s, f) := quotedBlanks (s.rest.length + 1) (s, f)
          quotedParts start single n (s, f.join)

/-- A single- or double-quoted scalar. -/
def fetchQuoted (s : Scanner) (single : Bool) : Except Problem Scanner := do
  let s ← s.saveKey
  let s := { s with keyAllowed := false }
  let start := s.mark
  let (s, f) ← quotedParts start single (s.rest.length + 1) (s.skip, {})
  let s := s.skip
  pure (s.push (.scalar f.text (if single then .singleQuoted else .doubleQuoted)) start s.mark)

/-- Whether the current character ends a plain scalar's word. -/
def plainStop (s : Scanner) : Bool :=
  (s.cur = ':' && isBlankOrEnd (s.peekAt 1)) ||
    (s.flowLevel > 0 && (s.cur = ',' || s.cur = '?' || s.cur = '[' || s.cur = ']' || s.cur = '\x7b' || s.cur = '\x7d'))

/-- The non-blank characters of a plain scalar, joined to what came before. -/
def plainWord : Nat → Scanner × Fold × Mark → Scanner × Fold × Mark
  | 0, st => st
  | n + 1, (s, f, stop) =>
    if isBlankOrEnd s.cur || s.plainStop then (s, f, stop)
    else
      let f := f.join
      let (s, t) := s.read f.text
      plainWord n (s, { f with text := t }, s.mark)

/-- Blanks and line breaks inside a plain scalar; a tab may not stand in the indentation. -/
def plainBlanks (start : Mark) (indent : Int) : Nat → Scanner × Fold → Except Problem (Scanner × Fold)
  | 0, st => pure st
  | n + 1, (s, f) =>
    if isBlank s.cur then
      if f.leadingBlanks && (s.mark.column : Int) < indent && s.cur = '\t' then
        s.fail "while scanning a plain scalar" start "found a tab character that violates indentation"
      else if !f.leadingBlanks then
        let (s, w) := s.read f.whitespaces
        plainBlanks start indent n (s, { f with whitespaces := w })
      else plainBlanks start indent n (s.skip, f)
    else if isBreak s.cur then
      if !f.leadingBlanks then
        let (s, b) := s.readLine ""
        plainBlanks start indent n (s, { f with whitespaces := "", leadingBreak := b, leadingBlanks := true })
      else
        let (s, b) := s.readLine f.trailingBreaks
        plainBlanks start indent n (s, { f with trailingBreaks := b })
    else pure (s, f)

/-- The lines of a plain scalar; it ends before a comment, a document marker, an indicator, or a
line less indented than its block. -/
def plainParts (start : Mark) (indent : Int) : Nat → Scanner × Fold × Mark → Except Problem (Scanner × Fold × Mark)
  | 0, st => pure st
  | n + 1, (s, f, stop) =>
    if s.atDocumentMarker || s.cur = '#' then pure (s, f, stop)
    else
      let (s, f, stop) := plainWord (s.rest.length + 1) (s, f, stop)
      if !(isBlank s.cur || isBreak s.cur) then pure (s, f, stop)
      else
        match plainBlanks start indent (s.rest.length + 1) (s, f) with
        | .error p => .error p
        | .ok (s, f) =>
          if s.flowLevel == 0 && (s.mark.column : Int) < indent then pure (s, f, stop)
          else plainParts start indent n (s, f, stop)

/-- A plain scalar. -/
def fetchPlain (s : Scanner) : Except Problem Scanner := do
  let s ← s.saveKey
  let s := { s with keyAllowed := false }
  let start := s.mark
  let (s, f, stop) ← plainParts start (s.indent + 1) (s.rest.length + 1) (s, {}, start)
  let s := if f.leadingBlanks then { s with keyAllowed := true } else s
  pure (s.push (.scalar f.text .plain) start stop)

/-- A directive line: `%YAML major.minor` or `%TAG handle prefix`. -/
def fetchDirective (s : Scanner) : Except Problem Scanner := do
  let s := s.unrollIndent (-1)
  let s ← s.removeKey
  let s := { s with keyAllowed := false }
  let start := s.mark
  let s := s.skip
  let (s, name) := readWhile isWordChar (s.rest.length + 1) s ""
  if name.isEmpty then s.fail "while scanning a directive" start "could not find expected directive name"
  else if !isBlankOrEnd s.cur then s.fail "while scanning a directive" start "found unexpected non-alphabetical character"
  else
    let (s, k) ← if name = "YAML" then
        let s := skipWhile isBlank (s.rest.length + 1) s
        let (s, major) := readWhile Char.isDigit 3 s ""
        if major.isEmpty then s.fail "while scanning a %YAML directive" start "did not find expected version number"
        else if major.length > 2 then s.fail "while scanning a %YAML directive" start "found extremely long version number"
        else if s.cur ≠ '.' then
          s.fail "while scanning a %YAML directive" start "did not find expected digit or \x27.\x27 character"
        else
          let (s, minor) := readWhile Char.isDigit 3 s.skip ""
          if minor.isEmpty then s.fail "while scanning a %YAML directive" start "did not find expected version number"
          else if minor.length > 2 then s.fail "while scanning a %YAML directive" start "found extremely long version number"
          else pure (s, TokenKind.versionDirective (major.toNat?.getD 0) (minor.toNat?.getD 0))
      else if name = "TAG" then
        let s := skipWhile isBlank (s.rest.length + 1) s
        if s.cur ≠ '!' then s.fail "while parsing a %TAG directive" start "did not find expected \x27!\x27"
        else
          let (s, word) := readWhile isWordChar (s.rest.length + 1) s.skip ""
          let (s, handle) ← if s.cur = '!' then pure (s.skip, "!" ++ word ++ "!")
            else if word.isEmpty then pure (s, "!")
            else s.fail "while parsing a %TAG directive" start "did not find expected \x27!\x27"
          if !isBlank s.cur then s.fail "while scanning a %TAG directive" start "did not find expected whitespace"
          else
            let s := skipWhile isBlank (s.rest.length + 1) s
            let (s, pre) := readWhile (isUriChar true) (s.rest.length + 1) s ""
            if pre.isEmpty then s.fail "while parsing a %TAG directive" start "did not find expected tag URI"
            else if !isBlankOrEnd s.cur then
              s.fail "while scanning a %TAG directive" start "did not find expected whitespace or line break"
            else pure (s, TokenKind.tagDirective handle pre)
      else s.fail "while scanning a directive" start "found unknown directive name"
    let s' := s.push k start s.mark
    let s' := skipWhile isBlank (s'.rest.length + 1) s'
    let s' := if s'.cur = '#' then skipWhile (fun c => !isBreak c) (s'.rest.length + 1) s' else s'
    if !isBreakOrEnd s'.cur then s'.fail "while scanning a directive" start "did not find expected comment or line break"
    else pure (if isBreak s'.cur then s'.skipLine else s')

/-- The characters that cannot start a plain scalar on their own. -/
def indicators : List Char :=
  ['-', '?', ':', ',', '[', ']', '\x7b', '\x7d', '#', '&', '*', '!', '|', '>', '\x27', '"', '%', '@', '\x60']

/-- Whether a plain scalar starts here. -/
def startsPlain (s : Scanner) : Bool :=
  let c := s.cur
  let n := s.peekAt 1
  !(isBlankOrEnd c || indicators.contains c) || (c = '-' && !isBlank n) ||
    (s.flowLevel == 0 && (c = '?' || c = ':') && !isBlankOrEnd n)

/-- Reads the next token, after closing the blocks the position leaves. -/
def fetch (s : Scanner) : Except Problem Scanner :=
  let s := skipToToken (s.rest.length + 1) s
  let s := s.unrollIndent s.mark.column
  let c := s.cur
  let n := s.peekAt 1
  if isEnd c then s.fetchStreamEnd
  else if s.mark.column == 0 && c = '%' then s.fetchDirective
  else if s.atDocumentMarker && c = '-' then s.fetchDocumentMarker .documentStart
  else if s.atDocumentMarker && c = '.' then s.fetchDocumentMarker .documentEnd
  else if c = '[' then s.fetchFlowStart .flowSequenceStart
  else if c = '\x7b' then s.fetchFlowStart .flowMappingStart
  else if c = ']' then s.fetchFlowEnd .flowSequenceEnd
  else if c = '\x7d' then s.fetchFlowEnd .flowMappingEnd
  else if c = ',' then s.fetchFlowEntry
  else if c = '-' && isBlankOrEnd n then s.fetchBlockEntry
  else if c = '?' && (s.flowLevel > 0 || isBlankOrEnd n) then s.fetchKey
  else if c = ':' && (s.flowLevel > 0 || isBlankOrEnd n) then s.fetchValue
  else if c = '*' then s.fetchAnchor true
  else if c = '&' then s.fetchAnchor false
  else if c = '!' then s.fetchTag
  else if c = '|' && s.flowLevel == 0 then s.fetchBlockScalar true
  else if c = '>' && s.flowLevel == 0 then s.fetchBlockScalar false
  else if c = '\x27' then s.fetchQuoted true
  else if c = '"' then s.fetchQuoted false
  else if s.startsPlain then s.fetchPlain
  else s.fail "while scanning for the next token" s.mark "found character that cannot start any token"

/-- Whether the last token ends the text. -/
def ended (s : Scanner) : Bool :=
  match s.tokens.back? with
  | some t => t.kind == .streamEnd
  | none => false

/-- Reads tokens until the end of the text or a problem. Each token takes at least one
character, so the length of the text bounds the steps. -/
def run : Nat → Scanner → Scanned
  | 0, s => { tokens := s.tokens, problem := none }
  | n + 1, s =>
    match s.fetch with
    | .error p => { tokens := s.tokens, problem := some (p, s.tokens.size) }
    | .ok s' => if s'.ended then { tokens := s'.tokens, problem := none } else run n s'

end Scanner

/-- Whether YAML text may hold a character: tab, line breaks, printable ASCII, NEL and the
other characters outside the control and surrogate ranges, but not the two noncharacters at the
end of the basic plane. -/
def allowedChar (c : Char) : Bool :=
  let v := c.toNat
  v = 0x09 || v = 0x0A || v = 0x0D || (0x20 ≤ v && v ≤ 0x7E) || v = 0x85 ||
    (0xA0 ≤ v && v ≤ 0xD7FF) || (0xE000 ≤ v && v ≤ 0xFFFD) || (0x10000 ≤ v && v ≤ 0x10FFFF)

/-- Reads the tokens of YAML text. Text that is not UTF-8, or holds a character YAML does not
allow, is refused before any token. -/
def scan (text : Bytes) : Scanned :=
  let refuse (message : String) : Scanned :=
    { tokens := #[], problem := some ({ scanning := false, message, mark := {} }, 0) }
  if !Bytes.isUtf8 text then refuse "invalid leading UTF-8 octet"
  else
    let chars := (Bytes.toText text).toList
    if !chars.all allowedChar then refuse "control characters are not allowed"
    else
      let s : Scanner := { rest := chars }
      let s := s.push .streamStart {} {}
      Scanner.run (chars.length + 2) s

end HttpMock.Yaml
