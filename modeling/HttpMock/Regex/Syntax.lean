import HttpMock.Text.Case
/-! Regular expressions in the RE2 syntax, and the errors of reading them. -/
namespace HttpMock.Regex

/-- A zero-width assertion. -/
inductive Anchor where
  | beginText
  | endText
  | beginLine
  | endLine
  | wordBoundary
  | notWordBoundary
  deriving DecidableEq, Repr, Inhabited

/-- A node of a parsed regular expression. Sets of characters are lists of inclusive ranges of code
points; `fold` makes a literal or a set ignore case. -/
inductive Node where
  | empty
  | lit (c : Char) (fold : Bool)
  | set (ranges : List (Nat × Nat)) (negated : Bool) (fold : Bool)
  | anyChar (matchesNewline : Bool)
  | assert (a : Anchor)
  | concat (items : List Node)
  | alt (items : List Node)
  | rep (sub : Node) (min : Nat) (max : Option Nat)
  deriving Inhabited, Repr

/-- The flags in force. -/
structure Flags where
  fold : Bool := false
  multiLine : Bool := false
  dotNl : Bool := false
  ungreedy : Bool := false
  deriving Inhabited, Repr

/-- The message of a parse error: its problem and the offending text. -/
def problem (code : String) (expr : List Char) : String :=
  "error parsing regexp: " ++ code ++ ": \x60" ++ String.ofList expr ++ "\x60"

/-- The text consumed between a longer and a shorter remainder of the input. -/
def consumed (before after : List Char) : List Char := before.take (before.length - after.length)

/-- The ranges of the POSIX class names. -/
def posixClass? (name : String) : Option (List (Nat × Nat)) :=
  match name with
  | "alnum" => some [(0x30, 0x39), (0x41, 0x5A), (0x61, 0x7A)]
  | "alpha" => some [(0x41, 0x5A), (0x61, 0x7A)]
  | "ascii" => some [(0, 0x7F)]
  | "blank" => some [(9, 9), (0x20, 0x20)]
  | "cntrl" => some [(0, 0x1F), (0x7F, 0x7F)]
  | "digit" => some [(0x30, 0x39)]
  | "graph" => some [(0x21, 0x7E)]
  | "lower" => some [(0x61, 0x7A)]
  | "print" => some [(0x20, 0x7E)]
  | "punct" => some [(0x21, 0x2F), (0x3A, 0x40), (0x5B, 0x60), (0x7B, 0x7E)]
  | "space" => some [(9, 13), (0x20, 0x20)]
  | "upper" => some [(0x41, 0x5A)]
  | "word" => some [(0x30, 0x39), (0x41, 0x5A), (0x5F, 0x5F), (0x61, 0x7A)]
  | "xdigit" => some [(0x30, 0x39), (0x41, 0x46), (0x61, 0x66)]
  | _ => none

/-- The ranges of the Perl classes `\d`, `\s`, `\w`, by letter. -/
def perlClass? (c : Char) : Option (List (Nat × Nat) × Bool) :=
  match c with
  | 'd' => some ([(0x30, 0x39)], false)
  | 'D' => some ([(0x30, 0x39)], true)
  | 's' => some ([(9, 10), (12, 13), (0x20, 0x20)], false)
  | 'S' => some ([(9, 10), (12, 13), (0x20, 0x20)], true)
  | 'w' => some ([(0x30, 0x39), (0x41, 0x5A), (0x5F, 0x5F), (0x61, 0x7A)], false)
  | 'W' => some ([(0x30, 0x39), (0x41, 0x5A), (0x5F, 0x5F), (0x61, 0x7A)], true)
  | _ => none

/-- The ranges of the Unicode classes known here: general categories of letters, numbers,
punctuation, symbols and separators, and a few scripts, over the common blocks. -/
def unicodeClass? (name : String) : Option (List (Nat × Nat)) :=
  let upper := [(0x41, 0x5A), (0xC0, 0xD6), (0xD8, 0xDE), (0x391, 0x3A9), (0x410, 0x42F)]
  let lower := [(0x61, 0x7A), (0xB5, 0xB5), (0xDF, 0xF6), (0xF8, 0xFF), (0x3B1, 0x3C9), (0x430, 0x44F)]
  let letters := [(0x41, 0x5A), (0x61, 0x7A), (0xAA, 0xAA), (0xB5, 0xB5), (0xBA, 0xBA),
    (0xC0, 0xD6), (0xD8, 0xF6), (0xF8, 0x2C1), (0x370, 0x373), (0x376, 0x377), (0x37B, 0x37D),
    (0x386, 0x386), (0x388, 0x3FF), (0x400, 0x481), (0x48A, 0x52F), (0x5D0, 0x5EA),
    (0x620, 0x64A), (0x3041, 0x3096), (0x30A1, 0x30FA), (0x4E00, 0x9FFF), (0xAC00, 0xD7A3)]
  let digits := [(0x30, 0x39), (0x660, 0x669), (0x6F0, 0x6F9), (0x966, 0x96F), (0xFF10, 0xFF19)]
  let punct := [(0x21, 0x23), (0x25, 0x2A), (0x2C, 0x2F), (0x3A, 0x3B), (0x3F, 0x40),
    (0x5B, 0x5D), (0x5F, 0x5F), (0x7B, 0x7B), (0x7D, 0x7D), (0xA1, 0xA1), (0xA7, 0xA7),
    (0xAB, 0xAB), (0xB6, 0xB7), (0xBB, 0xBB), (0xBF, 0xBF), (0x2010, 0x2027), (0x2030, 0x205E),
    (0x3001, 0x3003)]
  let symbols := [(0x24, 0x24), (0x2B, 0x2B), (0x3C, 0x3E), (0x5E, 0x5E), (0x60, 0x60),
    (0x7C, 0x7C), (0x7E, 0x7E), (0xA2, 0xA6), (0xA8, 0xA9), (0xAC, 0xAC), (0xAE, 0xB1),
    (0xB4, 0xB4), (0xB8, 0xB8), (0xD7, 0xD7), (0xF7, 0xF7), (0x20A0, 0x20C0), (0x2190, 0x23FF),
    (0x2500, 0x27BF), (0x1F300, 0x1FAFF)]
  let spaces := [(0x20, 0x20), (0xA0, 0xA0), (0x1680, 0x1680), (0x2000, 0x200A),
    (0x2028, 0x2029), (0x202F, 0x202F), (0x205F, 0x205F), (0x3000, 0x3000)]
  match name with
  | "L" => some letters
  | "Lu" => some upper
  | "Ll" => some lower
  | "N" | "Nd" => some digits
  | "P" => some punct
  | "S" => some symbols
  | "Z" | "Zs" => some spaces
  | "Latin" => some [(0x41, 0x5A), (0x61, 0x7A), (0xAA, 0xAA), (0xBA, 0xBA), (0xC0, 0xD6),
      (0xD8, 0xF6), (0xF8, 0x24F)]
  | "Greek" => some [(0x370, 0x373), (0x375, 0x377), (0x37A, 0x37D), (0x384, 0x384),
      (0x386, 0x386), (0x388, 0x3E1), (0x3F0, 0x3FF)]
  | "Cyrillic" => some [(0x400, 0x52F)]
  | "Han" => some [(0x2E80, 0x2FD5), (0x3005, 0x3007), (0x3021, 0x3029), (0x3400, 0x4DBF),
      (0x4E00, 0x9FFF), (0xF900, 0xFAFF)]
  | "Any" => some [(0, 0x10FFFF)]
  | _ => none

/-- The value of a hexadecimal digit. -/
def hexDigit? (c : Char) : Option Nat :=
  if c.isDigit then some (c.toNat - 48)
  else if 'a' ≤ c && c ≤ 'f' then some (c.toNat - 87)
  else if 'A' ≤ c && c ≤ 'F' then some (c.toNat - 55)
  else none

/-- Whether a character is an ASCII letter or digit. -/
def isAlnum (c : Char) : Bool := c.isAlpha || c.isDigit

/-- The digits of `\x{...}`: the code point and the rest after `}`. -/
def bracedHex : Nat → List Char → Nat → Nat → Option (Nat × List Char)
  | 0, _, _, _ => none
  | _, [], _, _ => none
  | fuel + 1, c :: rest, acc, n =>
    if c = '}' then (if n = 0 then none else some (acc, rest))
    else match hexDigit? c with
      | some v => if acc * 16 + v > 0x10FFFF then none else bracedHex fuel rest (acc * 16 + v) (n + 1)
      | none => none

/-- Reads an escape starting at a backslash: the character it stands for and the rest. -/
def parseEscape (s : List Char) : Except String (Char × List Char) :=
  match s.drop 1 with
  | [] => throw (problem "trailing backslash at end of expression" [])
  | c :: t =>
    let bad (rest : List Char) : Except String (Char × List Char) :=
      throw (problem "invalid escape sequence" (consumed s rest))
    let octal (first : Nat) (t : List Char) : Char × List Char :=
      let ds := (t.take 2).takeWhile fun d => '0' ≤ d && d ≤ '7'
      (Char.ofNat (ds.foldl (fun a d => 8 * a + (d.toNat - 48)) first), t.drop ds.length)
    if '1' ≤ c && c ≤ '7' then
      match t with
      | d :: _ => if '0' ≤ d && d ≤ '7' then pure (octal (c.toNat - 48) t) else bad t
      | [] => bad t
    else if c = '0' then pure (octal 0 t)
    else if c = 'x' then
      match t with
      | [] => bad t
      | '{' :: rest =>
        match bracedHex (rest.length + 1) rest 0 0 with
        | some (v, rest') => pure (Char.ofNat v, rest')
        | none =>
          -- the escape runs to where reading stopped
          let stop := (rest.takeWhile fun d => (hexDigit? d).isSome).length
          let after := rest.drop stop
          bad (match after with
            | _ :: r => r
            | [] => [])
      | x :: rest =>
        match rest with
        | y :: rest' =>
          match hexDigit? x, hexDigit? y with
          | some a, some b => pure (Char.ofNat (16 * a + b), rest')
          | _, _ => bad rest'
        | [] => bad []
    else if c = 'a' then pure ('\x07', t)
    else if c = 'f' then pure ('\x0C', t)
    else if c = 'n' then pure ('\n', t)
    else if c = 'r' then pure ('\r', t)
    else if c = 't' then pure ('\t', t)
    else if c = 'v' then pure ('\x0B', t)
    else if c.toNat < 0x80 && !isAlnum c then pure (c, t)
    else bad t

/-- Reads a Unicode class `\pL`, `\p{Name}`, `\PL` or `\p{^Name}` at the front: its ranges,
whether it is negated, and the rest; `none` when the input does not start with one. -/
def parseUnicodeClass (s : List Char) : Except String (Option (List (Nat × Nat) × Bool × List Char)) :=
  match s with
  | '\\' :: p :: rest =>
    if p ≠ 'p' && p ≠ 'P' then pure none
    else
      let negated := p = 'P'
      match rest with
      | [] => throw (problem "invalid character class range" s)
      | '{' :: inner =>
        match inner.findIdx? (· = '}') with
        | none => throw (problem "invalid character class range" s)
        | some i =>
          let name := inner.take i
          let after := inner.drop (i + 1)
          let (neg2, name) := match name with
            | '^' :: n => (true, n)
            | n => (false, n)
          match unicodeClass? (String.ofList name) with
          | some rs => pure (some (rs, negated != neg2, after))
          | none => throw (problem "invalid character class range" (consumed s after))
      | c :: after =>
        match unicodeClass? c.toString with
        | some rs => pure (some (rs, negated, after))
        | none => throw (problem "invalid character class range" (consumed s after))
  | _ => pure none

/-- Reads one character of a class, escaped or not. -/
def classChar (s whole : List Char) : Except String (Char × List Char) :=
  match s with
  | [] => throw (problem "missing closing ]" whole)
  | '\\' :: _ => parseEscape s
  | c :: rest => pure (c, rest)

/-- A class item: a set of ranges, negated or not. -/
abbrev ClassItem := List (Nat × Nat) × Bool

/-- The length of the text before the first `:]`. -/
def posixEnd : List Char → Nat → Option Nat
  | ':' :: ']' :: _, i => some i
  | _ :: r, i => posixEnd r (i + 1)
  | [], _ => none

/-- The text up to `\E` and the rest after it; all of it when there is no `\E`. -/
def quotedText : List Char → List Char × List Char
  | '\\' :: 'E' :: r => ([], r)
  | x :: r => let (q, r') := quotedText r; (x :: q, r')
  | [] => ([], [])

mutual

/-- The items of a class after its opening bracket, up to and without the closing one. -/
def classItems : Nat → List Char → List Char → Bool → List ClassItem → Except String (List ClassItem × List Char)
  | 0, _, whole, _, _ => throw (problem "missing closing ]" whole)
  | fuel + 1, t, whole, first, acc =>
    match t with
    | ']' :: rest => if first then
        -- a leading bracket is a literal
        classRange fuel t whole acc
      else pure (acc, rest)
    | [] => throw (problem "missing closing ]" whole)
    | _ =>
      -- POSIX names
      let named : Option (List Char × List Char) := match t with
        | '[' :: ':' :: body =>
          match posixEnd body 0 with
          | some i => some (body.take i, body.drop (i + 2))
          | none => none
        | _ => none
      match named with
      | some (name, rest) =>
        let (neg, n) := match name with
          | '^' :: n => (true, n)
          | n => (false, n)
        match posixClass? (String.ofList n) with
        | some rs => classItems fuel rest whole false (acc ++ [(rs, neg)])
        | none => throw (problem "invalid character class" (consumed t rest))
      | none => do
        match ← parseUnicodeClass t with
        | some (rs, neg, rest) => classItems fuel rest whole false (acc ++ [(rs, neg)])
        | none =>
          match t with
          | '\\' :: c :: rest =>
            match perlClass? c with
            | some (rs, neg) => classItems fuel rest whole false (acc ++ [(rs, neg)])
            | none => classRange fuel t whole acc
          | _ => classRange fuel t whole acc
/-- A single character or a range `a-z` of a class, then the items after it. -/
def classRange : Nat → List Char → List Char → List ClassItem → Except String (List ClassItem × List Char)
  | 0, _, whole, _ => throw (problem "missing closing ]" whole)
  | fuel + 1, t, whole, acc => do
    let (lo, t1) ← classChar t whole
    match t1 with
    | '-' :: c :: _ =>
      if c = ']' then classItems fuel t1 whole false (acc ++ [([(lo.toNat, lo.toNat)], false)])
      else
        let (hi, t2) ← classChar (t1.drop 1) whole
        if hi < lo then throw (problem "invalid character class range" (consumed t t2))
        else classItems fuel t2 whole false (acc ++ [([(lo.toNat, hi.toNat)], false)])
    | _ => classItems fuel t1 whole false (acc ++ [([(lo.toNat, lo.toNat)], false)])

end

/-- The ranges of a class made of items, some negated. -/
def itemsRanges (items : List ClassItem) : List (Nat × Nat) :=
  items.flatMap fun (rs, neg) =>
    if !neg then rs
    else
      -- the complement of sorted ranges within the code points
      let sorted := rs.mergeSort fun a b => decide (a.1 ≤ b.1)
      let (out, next) := sorted.foldl (fun (acc : List (Nat × Nat) × Nat) (lo, hi) =>
        let (out, next) := acc
        (if lo > next then out ++ [(next, lo - 1)] else out, max next (hi + 1))) ([], 0)
      if next ≤ 0x10FFFF then out ++ [(next, 0x10FFFF)] else out

/-- Reads a class from its opening bracket. -/
def parseClass (s : List Char) (flags : Flags) : Except String (Node × List Char) := do
  let t := s.drop 1
  let (negated, t) := match t with
    | '^' :: r => (true, r)
    | r => (false, r)
  let (items, rest) ← classItems (2 * s.length + 4) t s true []
  pure (.set (itemsRanges items) negated flags.fold, rest)

/-- Reads a count of a repetition: digits without leading zeros; `none` past 10^8. -/
def repeatCount (s : List Char) : Option (Option Nat × List Char) :=
  let ds := s.takeWhile Char.isDigit
  if ds.isEmpty then none
  else if ds.length ≥ 2 && ds.head? = some '0' then none
  else
    let v := ds.foldl (fun a d => 10 * a + (d.toNat - 48)) 0
    some (if ds.length > 8 then none else some v, s.drop ds.length)

/-- Reads `{n}`, `{n,}` or `{n,m}`: the least count, the greatest if any (`none` for no bound),
whether a count was too large, and the rest; `none` when it is not a repetition. -/
def parseRepeat (s : List Char) : Option (Nat × Option Nat × Bool × List Char) :=
  match s with
  | '{' :: t =>
    match repeatCount t with
    | none => none
    | some (lo, t) =>
      match t with
      | '}' :: rest => some (lo.getD 0, lo, lo.isNone, rest)
      | ',' :: '}' :: rest => some (lo.getD 0, none, lo.isNone, rest)
      | ',' :: t' =>
        match repeatCount t' with
        | some (hi, '}' :: rest) => some (lo.getD 0, some (hi.getD 0), lo.isNone || hi.isNone, rest)
        | _ => none
      | _ => none
  | _ => none

/-- Whether a name may name a group: letters, digits and underscores, at least one. -/
def validGroupName (name : List Char) : Bool :=
  !name.isEmpty && name.all fun c => isAlnum c || c = '_' || c.toNat ≥ 0x80

/-- Flag letters after `(?`, up to `:` or `)`: the flags, whether a group follows (`:`), and the
rest after that character; an error carries the rest after the character that ended the letters
wrongly, or nothing when the text ends. -/
def flagChanges : List Char → Flags → Bool → Bool → Except (List Char) (Flags × Bool × List Char)
  | [], _, _, _ => throw []
  | c :: rest, flags, negative, sawFlag =>
    if c = 'i' then flagChanges rest { flags with fold := !negative } negative true
    else if c = 'm' then flagChanges rest { flags with multiLine := !negative } negative true
    else if c = 's' then flagChanges rest { flags with dotNl := !negative } negative true
    else if c = 'U' then flagChanges rest { flags with ungreedy := !negative } negative true
    else if c = '-' then
      if negative then throw rest else flagChanges rest flags true false
    else if c = ':' || c = ')' then
      if negative && !sawFlag then throw rest else pure (flags, c = ':', rest)
    else throw rest

mutual

/-- Alternatives separated by `|`, up to a `)` or the end: the expression, the flags in force
after it, and the rest. -/
def parseAlt : Nat → List Char → Flags → List Char → Except String (Node × Flags × List Char)
  | 0, whole, _, _ => throw (problem "expression nests too deeply" whole)
  | fuel + 1, whole, flags, s => do
    let (first, flags, rest) ← parseSeq fuel whole flags s [] none
    match rest with
    | '|' :: more =>
      let (others, flags, rest) ← parseAlt fuel whole flags more
      match others with
      | .alt items => pure (.alt (first :: items), flags, rest)
      | other => pure (.alt [first, other], flags, rest)
    | _ => pure (first, flags, rest)

/-- A sequence of items up to `|`, `)` or the end. `last` holds the text from the previous
repetition operator on, if the previous item was one. -/
def parseSeq : Nat → List Char → Flags → List Char → List Node → Option (List Char) →
    Except String (Node × Flags × List Char)
  | 0, whole, _, _, _, _ => throw (problem "expression nests too deeply" whole)
  | fuel + 1, whole, flags, s, items, last => do
    let done : Except String (Node × Flags × List Char) :=
      pure (match items with
        | [] => .empty
        | [x] => x
        | xs => .concat xs, flags, s)
    -- a repetition of the last item
    let repeatLast (before after : List Char) (lo : Nat) (hi : Option Nat) :
        Except String (Node × Flags × List Char) := do
      let after := match after with
        | '?' :: r => r
        | r => r
      match last with
      | some l => throw (problem "invalid nested repetition operator" (consumed l after))
      | none =>
        match items.getLast? with
        | none => throw (problem "missing argument to repetition operator" (consumed before after))
        | some x => parseSeq fuel whole flags after (items.dropLast ++ [.rep x lo hi]) (some before)
    match s with
    | [] => done
    | '|' :: _ => done
    | ')' :: _ => done
    | '(' :: '?' :: _ => do
      let t := s.drop 2
      let named : Option (List Char) := match t with
        | 'P' :: '<' :: r => some r
        | '<' :: r => some r
        | _ => none
      match named with
      | some r =>
        match r.findIdx? (· = '>') with
        | none => throw (problem "invalid named capture" s)
        | some i =>
          if !validGroupName (r.take i) then throw (problem "invalid named capture" (consumed s (r.drop (i + 1))))
          else do
            let (g, rest) ← group fuel whole flags (r.drop (i + 1))
            parseSeq fuel whole flags rest (items ++ [g]) none
      | none =>
        match flagChanges t flags false false with
        | .ok (newFlags, false, rest) => parseSeq fuel whole newFlags rest items none
        | .ok (newFlags, true, rest) => do
          let (g, rest') ← group fuel whole newFlags rest
          parseSeq fuel whole flags rest' (items ++ [g]) none
        | .error rest => throw (problem "invalid or unsupported Perl syntax" (consumed s rest))
    | '(' :: rest => do
      let (g, rest') ← group fuel whole flags rest
      parseSeq fuel whole flags rest' (items ++ [g]) none
    | '[' :: _ => do
      let (c, rest) ← parseClass s flags
      parseSeq fuel whole flags rest (items ++ [c]) none
    | '.' :: rest => parseSeq fuel whole flags rest (items ++ [.anyChar flags.dotNl]) none
    | '^' :: rest =>
      parseSeq fuel whole flags rest (items ++ [.assert (if flags.multiLine then .beginLine else .beginText)]) none
    | '$' :: rest =>
      parseSeq fuel whole flags rest (items ++ [.assert (if flags.multiLine then .endLine else .endText)]) none
    | '*' :: rest => repeatLast s rest 0 none
    | '+' :: rest => repeatLast s rest 1 none
    | '?' :: rest => repeatLast s rest 0 (some 1)
    | '{' :: rest =>
      match parseRepeat s with
      | some (lo, hi, tooLarge, after) =>
        if tooLarge || lo > 1000 || (hi.getD 0) > 1000 || (match hi with
            | some h => lo > h
            | none => false) then throw (problem "invalid repeat count" (consumed s after))
        else repeatLast s after lo hi
      | none => parseSeq fuel whole flags rest (items ++ [.lit '{' flags.fold]) none
    | '\\' :: c :: rest =>
      if c = 'A' then parseSeq fuel whole flags rest (items ++ [.assert .beginText]) none
      else if c = 'z' then parseSeq fuel whole flags rest (items ++ [.assert .endText]) none
      else if c = 'b' then parseSeq fuel whole flags rest (items ++ [.assert .wordBoundary]) none
      else if c = 'B' then parseSeq fuel whole flags rest (items ++ [.assert .notWordBoundary]) none
      else if c = 'C' then throw (problem "invalid escape sequence" (s.take 2))
      else if c = 'Q' then
        let (lits, rest') := quotedText rest
        parseSeq fuel whole flags rest' (items ++ lits.map fun x => .lit x flags.fold) none
      else do
        match ← parseUnicodeClass s with
        | some (rs, neg, rest') => parseSeq fuel whole flags rest' (items ++ [.set rs neg flags.fold]) none
        | none =>
          match perlClass? c with
          | some (rs, neg) => parseSeq fuel whole flags rest (items ++ [.set rs neg flags.fold]) none
          | none => do
            let (ch, rest') ← parseEscape s
            parseSeq fuel whole flags rest' (items ++ [.lit ch flags.fold]) none
    | '\\' :: [] => throw (problem "trailing backslash at end of expression" [])
    | c :: rest => parseSeq fuel whole flags rest (items ++ [.lit c flags.fold]) none

/-- A group after its opening: the alternatives inside and the rest after its `)`. The flags
set inside end with it. -/
def group : Nat → List Char → Flags → List Char → Except String (Node × List Char)
  | 0, whole, _, _ => throw (problem "expression nests too deeply" whole)
  | fuel + 1, whole, flags, s => do
    let (inner, _, rest) ← parseAlt fuel whole flags s
    match rest with
    | ')' :: after => pure (inner, after)
    | _ => throw (problem "missing closing )" whole)

end

/-- Parses a regular expression, or gives the message of its first error. -/
def parse (pattern : String) : Except String Node := do
  let whole := pattern.toList
  let (re, _, rest) ← parseAlt (4 * whole.length + 8) whole {} whole
  match rest with
  | [] => pure re
  | _ => throw (problem "unexpected )" whole)

end HttpMock.Regex
