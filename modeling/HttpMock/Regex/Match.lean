import HttpMock.Regex.Syntax
import HttpMock.Bytes
/-! Searching text for a match of a regular expression with a thread-list machine. -/
namespace HttpMock.Regex

/-- A test of one character. -/
inductive Test where
  | lit (c : Char) (fold : Bool)
  | set (ranges : List (Nat × Nat)) (negated : Bool) (fold : Bool)
  | any (matchesNewline : Bool)
  deriving Inhabited, Repr

/-- An instruction of a compiled expression. -/
inductive Inst where
  /-- Reads a character that passes a test, then goes on. -/
  | char (t : Test) (next : Nat)
  /-- Goes on at both places. -/
  | fork (a b : Nat)
  | jump (a : Nat)
  /-- Goes on if an assertion holds at the current position. -/
  | check (a : Anchor) (next : Nat)
  | accept
  deriving Inhabited, Repr

/-- A compiled expression: its instructions and where it starts. -/
structure Program where
  insts : Array Inst
  start : Nat
  deriving Inhabited, Repr

/-- The upper-case form of an ASCII or Latin-1 letter. -/
def upperChar (c : Char) : Char :=
  let n := c.toNat
  if 0x61 ≤ n && n ≤ 0x7A then Char.ofNat (n - 32)
  else if 0xE0 ≤ n && n ≤ 0xFE && n ≠ 0xF7 then Char.ofNat (n - 32)
  else c

/-- Whether a character lies in one of the ranges. -/
def inRanges (rs : List (Nat × Nat)) (c : Char) : Bool := rs.any fun (lo, hi) => lo ≤ c.toNat && c.toNat ≤ hi

/-- Whether a character passes a test. -/
def Test.passes : Test → Char → Bool
  | .lit c fold, x => x == c || (fold && Text.foldChar x == Text.foldChar c)
  | .set rs negated fold, x =>
    let inside := inRanges rs x || (fold && (inRanges rs (Text.foldChar x) || inRanges rs (upperChar x)))
    inside != negated
  | .any nl, x => nl || x ≠ '\n'

/-- Compiles an expression so that it continues at `next`: the place it starts at, and the
instructions. -/
def compileTo : Nat → Node → Nat → Array Inst → Nat × Array Inst
  | 0, _, next, prog => (next, prog)
  | fuel + 1, re, next, prog =>
    let emit (i : Inst) (prog : Array Inst) : Nat × Array Inst := (prog.size, prog.push i)
    match re with
    | .empty => (next, prog)
    | .lit c f => emit (.char (.lit c f) next) prog
    | .set rs n f => emit (.char (.set rs n f) next) prog
    | .anyChar nl => emit (.char (.any nl) next) prog
    | .assert a => emit (.check a next) prog
    | .concat items =>
      items.reverse.foldl (fun (acc : Nat × Array Inst) item => compileTo fuel item acc.1 acc.2) (next, prog)
    | .alt items =>
      let (entries, prog) := items.foldl (fun (acc : List Nat × Array Inst) item =>
        let (e, p) := compileTo fuel item next acc.2
        (acc.1 ++ [e], p)) ([], prog)
      match entries.reverse with
      | [] => (next, prog)
      | last :: earlier =>
        earlier.foldl (fun (acc : Nat × Array Inst) e => emit (.fork e acc.1) acc.2) (last, prog)
    | .rep sub lo hi =>
      let (tail, prog) := match hi with
        | none =>
          -- a loop: a fork into the body, which comes back to the fork
          let loopAt := prog.size
          let prog := prog.push (.jump next)
          let (body, prog) := compileTo fuel sub loopAt prog
          (loopAt, prog.set! loopAt (.fork body next))
        | some h =>
          (List.range (h - lo)).foldl (fun (acc : Nat × Array Inst) _ =>
            let (body, p) := compileTo fuel sub acc.1 acc.2
            emit (.fork body next) p) (next, prog)
      (List.range lo).foldl (fun (acc : Nat × Array Inst) _ => compileTo fuel sub acc.1 acc.2) (tail, prog)

/-- The number of nodes of an expression, counting a repetition as often as it is written out. -/
def weight : Nat → Node → Nat
  | 0, _ => 1
  | fuel + 1, re =>
    match re with
    | .concat items | .alt items => 1 + (items.map (weight fuel)).foldl (· + ·) 0
    | .rep sub lo hi => 1 + (max lo (hi.getD (lo + 1)) + 1) * weight fuel sub
    | _ => 1

/-- Compiles an expression. -/
def Program.ofRegex (re : Node) : Program :=
  let fuel := weight 64 re + 64
  let prog : Array Inst := #[.accept]
  let (start, prog) := compileTo fuel re 0 prog
  { insts := prog, start }

/-- Whether a character is a word character for `\b`: an ASCII letter, digit or `_`. -/
def isWordChar (c : Char) : Bool := c.isAlpha || c.isDigit || c = '_'

/-- Whether an assertion holds at a position of the text. -/
def Anchor.holds (a : Anchor) (text : Array Char) (pos : Nat) : Bool :=
  let before := if pos = 0 then none else text[pos - 1]?
  let after := text[pos]?
  let wordBefore := (before.map isWordChar).getD false
  let wordAfter := (after.map isWordChar).getD false
  match a with
  | .beginText => pos = 0
  | .endText => pos = text.size
  | .beginLine => pos = 0 || before = some '\n'
  | .endLine => pos = text.size || after = some '\n'
  | .wordBoundary => wordBefore != wordAfter
  | .notWordBoundary => wordBefore == wordAfter

/-- Adds the thread at `pc` and every thread it reaches without reading, at a position. -/
def addThread (prog : Program) (text : Array Char) (pos : Nat) :
    Nat → Nat → Array Bool × Array Nat → Array Bool × Array Nat
  | 0, _, acc => acc
  | fuel + 1, pc, (seen, list) =>
    if seen[pc]?.getD true then (seen, list)
    else
      let seen := seen.set! pc true
      match prog.insts[pc]? with
      | some (.jump a) => addThread prog text pos fuel a (seen, list)
      | some (.fork a b) =>
        let acc := addThread prog text pos fuel a (seen, list)
        addThread prog text pos fuel b acc
      | some (.check a next) =>
        if a.holds text pos then addThread prog text pos fuel next (seen, list) else (seen, list)
      | some _ => (seen, list.push pc)
      | none => (seen, list)

/-- The threads at a position: those the threads `pcs` carried over reach without reading, then
those a new thread at the start reaches, each once. -/
def Program.threads (prog : Program) (text : Array Char) (pos : Nat) (pcs : List Nat) : Array Nat :=
  let size := prog.insts.size
  let acc := pcs.foldl (fun acc pc => addThread prog text pos (size + 1) pc acc)
    (Array.replicate size false, #[])
  (addThread prog text pos (size + 1) prog.start acc).2

/-- Whether one of the threads is at an accepting instruction. -/
def Program.accepts (prog : Program) (list : Array Nat) : Bool :=
  list.any fun pc => match prog.insts[pc]? with
    | some Inst.accept => true
    | _ => false

/-- Where the threads go on after reading a character: the next instruction of each test the
character passes, in order. -/
def Program.advance (prog : Program) (list : Array Nat) (c : Char) : List Nat :=
  list.toList.filterMap fun pc => match prog.insts[pc]? with
    | some (Inst.char t n) => if t.passes c then some n else none
    | _ => none

/-- Runs the threads from a position on: whether one of them accepts. -/
def runFrom (prog : Program) (text : Array Char) : Nat → Nat → List Nat → Bool
  | 0, _, _ => false
  | fuel + 1, pos, pcs =>
    let list := prog.threads text pos pcs
    if prog.accepts list then true
    else
      match text[pos]? with
      | none => false
      | some c => runFrom prog text fuel (pos + 1) (prog.advance list c)

/-- The characters of raw text; an octet that is not UTF-8 reads as U+FFFD. -/
def textChars (bs : Bytes) : Array Char := ((Bytes.pieces bs).map Bytes.Piece.toChar).toArray

/-- Whether some part of the text matches. -/
def Program.search (prog : Program) (bs : Bytes) : Bool :=
  let text := textChars bs
  runFrom prog text (text.size + 2) 0 []

/-- Compiles a pattern, or gives the message of its first error. -/
def compile (pattern : String) : Except String Program := (parse pattern).map Program.ofRegex

end HttpMock.Regex
