import HttpMock.Json.Value
import HttpMock.Bytes
/-! JSON paths: reading them from text and selecting values from a document. -/
namespace HttpMock.Json

/-- A name or a position in a union. -/
inductive PathKey where
  | name (s : String)
  | index (i : Int)
  deriving DecidableEq, Repr

/-- A value a filter condition works with. -/
inductive FilterValue where
  | nil
  | bool (b : Bool)
  | int (i : Int)
  | float (x : Float)
  | str (s : String)
  /-- An array or an object, which no comparison accepts. -/
  | other
  deriving Inhabited

/-- An operator of a filter condition. -/
inductive FilterOp where
  | eq | ne | lt | le | gt | ge
  | and | or
  | add | sub | mul | div
  deriving DecidableEq, Repr

mutual
/-- One step of a path. -/
inductive PathStep where
  | root
  | current
  | child (name : String)
  | index (i : Int)
  | wildcard
  | descent
  | union (keys : List PathKey)
  | slice (start stop : Option Int) (step : Int)
  /-- The elements for which a condition holds. -/
  | filter (cond : Condition)
/-- A filter condition. -/
inductive Condition where
  /-- The first value a path selects, from the document when `rooted`, else from the element. -/
  | path (rooted : Bool) (steps : List PathStep)
  | literal (v : FilterValue)
  | binary (op : FilterOp) (left right : Condition)
  | negate (c : Condition)
end

/-- A path: steps applied from left to right. -/
abbrev Path := List PathStep

/-- Whether a step is a descent. -/
def PathStep.isDescent : PathStep → Bool
  | .descent => true
  | _ => false

/-- How loosely an operator binds when a condition is read: products bind tightest, then sums,
then comparisons, then `&&`, then `||`. -/
def FilterOp.looseness : FilterOp → Nat
  | .mul | .div => 1
  | .add | .sub => 2
  | .eq | .ne | .lt | .le | .gt | .ge => 3
  | .and => 4
  | .or => 5

namespace Path

/-- Why a path text cannot be read, and where. -/
structure ParseError where
  message : String
  /-- How much of the text was left when reading stopped. -/
  rest : Nat

/-- Octets that end a bare name. -/
def isStop (b : UInt8) : Bool :=
  b < 0x20 || b = 0x7F || " !\"#$%&\x27()*+,./:;<=>?@[\\]^\x60\x7b|\x7d~".toBytes.contains b

/-- Reads a bare name. -/
def readName (bs : Bytes) : Bytes × Bytes := (bs.takeWhile (!isStop ·), bs.dropWhile (!isStop ·))

/-- Skips blanks and takes the octet after them. -/
def nextSolid : Bytes → Option (UInt8 × Bytes)
  | [] => none
  | b :: rest => if b = 0x20 then nextSolid rest else some (b, rest)

private def fail {α : Type} (msg : String) (rest : Bytes) : Except ParseError α :=
  throw { message := msg, rest := rest.length }

/-- Reads a quoted name up to its closing quote; a backslash takes the next octet as it is. -/
def readQuoted (quote : UInt8) : Bytes → Bytes → Except ParseError (Bytes × Bytes)
  | _, [] => fail "not terminated" []
  | acc, b :: rest =>
    if b = quote then pure (acc.reverse, rest)
    else if b = 0x5C then
      match rest with
      | c :: more => readQuoted quote (c :: acc) more
      | [] => fail "not terminated" []
    else readQuoted quote (b :: acc) rest

private def isDigit (b : UInt8) : Bool := 0x30 ≤ b && b ≤ 0x39

/-- Reads an integer, optionally negative. -/
def readInt (bs : Bytes) : Option Int × Bytes :=
  let (neg, body) := match bs with
    | 0x2D :: r => (true, r)
    | r => (false, r)
  let ds := body.takeWhile isDigit
  if ds.isEmpty then (none, bs)
  else
    let n : Int := ds.foldl (fun acc b => acc * 10 + (b.toNat - 0x30 : Nat)) 0
    (some (if neg then -n else n), body.drop ds.length)

/-- Reads one key of a union. -/
def readKey (bs : Bytes) : Except ParseError (PathKey × Bytes) :=
  match nextSolid bs with
  | none => fail "not terminated" []
  | some (q, rest) =>
    if q = 0x27 || q = 0x22 then do
      let (s, rest) ← readQuoted q [] rest
      pure (.name (Bytes.toText s), rest)
    else
      match readInt (q :: rest) with
      | (some i, rest) => pure (.index i, rest)
      | (none, _) => fail "invalid union" rest

/-- Reads the rest of a union after its first key, up to the closing bracket. -/
def readUnion (keys : List PathKey) : Nat → Bytes → Except ParseError (PathStep × Bytes)
  | 0, rest => fail "not terminated" rest
  | fuel + 1, rest => do
    let (k, rest) ← readKey rest
    match nextSolid rest with
    | some (0x5D, rest) => pure (.union (keys ++ [k]), rest)
    | some (0x2C, rest) => readUnion (keys ++ [k]) fuel rest
    | some (_, rest) => fail "invalid union" rest
    | none => fail "not terminated" []

/-- Reads the rest of a slice after its start, up to the closing bracket. -/
def readSlice (start : Option Int) (bs : Bytes) : Except ParseError (PathStep × Bytes) :=
  let (stop, rest) := readInt ((bs.dropWhile (· = 0x20)))
  match nextSolid rest with
  | some (0x5D, rest) => pure (.slice start stop 1, rest)
  | some (0x3A, rest) =>
    let (step, rest) := readInt (rest.dropWhile (· = 0x20))
    match nextSolid rest with
    | some (0x5D, rest) => pure (.slice start stop (step.getD 1), rest)
    | some (_, rest) => fail "invalid slice" rest
    | none => fail "not terminated" []
  | some (_, rest) => fail "invalid slice" rest
  | none => fail "not terminated" []

/-- Reads what follows a dot: a name, a wildcard, or a second dot for descent. -/
def afterDot (bs : Bytes) : Except ParseError (PathStep × Bytes) :=
  match bs with
  | [] => fail "not terminated" []
  | 0x2A :: rest => pure (.wildcard, rest)
  | 0x2E :: rest => pure (.descent, rest)
  | b :: rest =>
    if isStop b then
      fail ("an expression fragment can not start with a \x27" ++ (Char.ofNat b.toNat).toString ++ "\x27")
        (b :: rest)
    else
      let (name, rest) := readName (b :: rest)
      pure (.child (Bytes.toText name), rest)

/-- Reads a comparison or arithmetic operator after optional blanks. -/
def readOp (bs : Bytes) : Except ParseError (FilterOp × Bytes) :=
  match bs.dropWhile (· = 0x20) with
  | 0x3D :: 0x3D :: rest => pure (.eq, rest)
  | 0x21 :: 0x3D :: rest => pure (.ne, rest)
  | 0x3C :: 0x3D :: rest => pure (.le, rest)
  | 0x3E :: 0x3D :: rest => pure (.ge, rest)
  | 0x3C :: rest => pure (.lt, rest)
  | 0x3E :: rest => pure (.gt, rest)
  | 0x26 :: 0x26 :: rest => pure (.and, rest)
  | 0x7C :: 0x7C :: rest => pure (.or, rest)
  | 0x2B :: rest => pure (.add, rest)
  | 0x2D :: rest => pure (.sub, rest)
  | 0x2A :: rest => pure (.mul, rest)
  | 0x2F :: rest => pure (.div, rest)
  | rest => fail "invalid operation" rest

/-- Reads a number literal: an integer, or a float when it has a fraction or an exponent. -/
def readNumber (bs : Bytes) : Option (FilterValue × Bytes) :=
  let (sign, body) : Bytes × Bytes := match bs with
    | 0x2D :: r => ([0x2D], r)
    | r => ([], r)
  let whole := body.takeWhile isDigit
  if whole.isEmpty then none
  else
    let rest := body.drop whole.length
    let (frac, rest) : Bytes × Bytes := match rest with
      | 0x2E :: r => (0x2E :: r.takeWhile isDigit, r.dropWhile isDigit)
      | r => ([], r)
    let (ex, rest) : Bytes × Bytes := match rest with
      | e :: r =>
        if e = 0x65 || e = 0x45 then
          let (es, r) : Bytes × Bytes := match r with
            | 0x2D :: r' => ([0x2D], r')
            | 0x2B :: r' => ([0x2B], r')
            | r' => ([], r')
          let ds := r.takeWhile isDigit
          if ds.isEmpty then ([], e :: r) else (e :: es ++ ds, r.drop ds.length)
        else ([], e :: r)
      | [] => ([], [])
    if frac.isEmpty && ex.isEmpty then
      let n : Int := whole.foldl (fun acc b => acc * 10 + (b.toNat - 0x30 : Nat)) 0
      some (.int (if sign.isEmpty then n else -n), rest)
    else
      match Decimal.parseDecimal? (Bytes.toText (sign ++ whole ++ frac ++ ex)) with
      | some x => some (.float x, rest)
      | none => none

/-- Reads a literal of a condition: a quoted string, a number, `true`, `false` or `null`. -/
def readLiteral (bs : Bytes) : Except ParseError (FilterValue × Bytes) :=
  match bs with
  | q :: rest =>
    if q = 0x27 || q = 0x22 then do
      let (s, rest) ← readQuoted q [] rest
      pure (.str (Bytes.toText s), rest)
    else if "true".toBytes.isPrefixOf bs then pure (.bool true, bs.drop 4)
    else if "false".toBytes.isPrefixOf bs then pure (.bool false, bs.drop 5)
    else if "null".toBytes.isPrefixOf bs then pure (.nil, bs.drop 4)
    else match readNumber bs with
      | some r => pure r
      | none => fail "expected a value" bs
  | [] => fail "not terminated" []

/-- A condition extended by one more operator and operand, as conditions are read from left to
right: an operator that binds no tighter than the last one takes the whole condition as its left
side, a tighter one takes the last right side. -/
def joinCondition (c : Condition) (o : FilterOp) (v : Condition) : Condition :=
  match c with
  | .binary co l r => if co.looseness ≤ o.looseness then .binary o c v else .binary co l (.binary o r v)
  | _ => .binary o c v

mutual
/-- Reads what follows an opening bracket. -/
def afterBracket : Nat → Bytes → Except ParseError (PathStep × Bytes)
  | 0, bs => fail "not terminated" bs
  | fuel + 1, bs =>
    if bs.isEmpty then fail "not terminated" bs
    else
      match nextSolid bs with
      | none => fail "not terminated" []
      | some (b, rest) =>
        if b = 0x2A then
          match nextSolid rest with
          | some (0x5D, rest) => pure (.wildcard, rest)
          | some (_, rest) => fail "not terminated" rest
          | none => fail "not terminated" []
        else if b = 0x27 || b = 0x22 then do
          let (s, rest) ← readQuoted b [] rest
          let name := Bytes.toText s
          match nextSolid rest with
          | some (0x5D, rest) => pure (.child name, rest)
          | some (0x2C, rest) => readUnion [.name name] rest.length rest
          | some (_, rest) => fail "invalid bracket fragment" rest
          | none => fail "not terminated" []
        else if b = 0x3A then readSlice none rest
        else if b = 0x3F then readFilter fuel rest
        else if b = 0x28 then fail "scripts not implemented yet" rest
        else if b = 0x2D || isDigit b then
          match readInt (b :: rest) with
          | (some i, rest) =>
            match nextSolid rest with
            | some (0x5D, rest) => pure (.index i, rest)
            | some (0x2C, rest) => readUnion [.index i] rest.length rest
            | some (0x3A, rest) => readSlice (some i) rest
            | some (_, rest) => fail "invalid bracket fragment" rest
            | none => fail "not terminated" []
          | (none, rest) => fail "parse error" rest
        else fail "parse error" rest

/-- Reads a filter after its question mark: a parenthesized condition and the closing bracket. -/
def readFilter : Nat → Bytes → Except ParseError (PathStep × Bytes)
  | 0, bs => fail "not terminated" bs
  | fuel + 1, bs =>
    match nextSolid bs with
    | some (0x28, rest) => do
      let (c, rest) ← readCondition fuel rest
      match rest with
      | 0x5D :: rest => pure (.filter c, rest)
      | _ => fail "not terminated" rest
    | some (_, rest) => fail "expected a \x27(\x27 in filter" rest
    | none => fail "not terminated" []

/-- Reads one operand of a condition: a parenthesized condition, a negated operand, a path from
the element or the document, or a literal. -/
def readOperand : Nat → Bytes → Except ParseError (Condition × Bytes)
  | 0, bs => fail "not terminated" bs
  | fuel + 1, bs =>
    match nextSolid bs with
    | none => fail "not terminated" []
    | some (0x28, rest) => readCondition fuel rest
    | some (0x21, rest) => do
      let (c, rest) ← readOperand fuel rest
      pure (.negate c, rest)
    | some (b, rest) =>
      if b = 0x40 || b = 0x24 then do
        let (steps, rest) ← readSteps fuel true false (b :: rest)
        pure (.path (b = 0x24) steps, rest)
      else do
        let (v, rest) ← readLiteral (b :: rest)
        pure (.literal v, rest)

/-- Reads a condition up to and including its closing parenthesis. -/
def readCondition : Nat → Bytes → Except ParseError (Condition × Bytes)
  | 0, bs => fail "not terminated" bs
  | fuel + 1, bs => do
    let (left, rest) ← readOperand fuel bs
    match nextSolid rest with
    | some (0x29, rest) => pure (left, rest)
    | none => fail "not terminated" []
    | some _ => do
      let (o, rest) ← readOp rest
      let (right, rest) ← readOperand fuel rest
      extendCondition fuel (.binary o left right) rest

/-- Reads further operators and operands of a condition up to its closing parenthesis. -/
def extendCondition : Nat → Condition → Bytes → Except ParseError (Condition × Bytes)
  | 0, _, bs => fail "not terminated" bs
  | fuel + 1, c, bs =>
    match nextSolid bs with
    | some (0x29, rest) => pure (c, rest)
    | none => fail "not terminated" []
    | some _ => do
      let (o, rest) ← readOp bs
      let (v, rest) ← readOperand fuel rest
      extendCondition fuel (joinCondition c o v) rest

/-- Reads the next step, if one starts here. `first` is true at the start of a path, and
`afterDescent` right after a descent, where a bare name may stand. -/
def nextStep : Nat → Bool → Bool → Bytes → Except ParseError (Option PathStep × Bytes)
  | 0, _, _, bs => pure (none, bs)
  | _, _, _, [] => pure (none, [])
  | fuel + 1, first, afterDescent, b :: rest =>
    if b = 0x24 then pure (if first then some .root else none, rest)
    else if b = 0x40 then pure (if first then some .current else none, rest)
    else if b = 0x2E then do
      let (s, rest) ← afterDot rest
      pure (some s, rest)
    else if b = 0x2A then pure (some .wildcard, rest)
    else if b = 0x5B then do
      let (s, rest) ← afterBracket fuel rest
      pure (some s, rest)
    else if (first || afterDescent) && !isStop b then
      let (name, rest) := readName (b :: rest)
      pure (some (.child (Bytes.toText name)), rest)
    else pure (none, b :: rest)

/-- Reads steps until none starts. -/
def readSteps : Nat → Bool → Bool → Bytes → Except ParseError (Path × Bytes)
  | 0, _, _, bs => pure ([], bs)
  | fuel + 1, first, afterDescent, bs => do
    match ← nextStep fuel first afterDescent bs with
    | (none, rest) => pure ([], rest)
    | (some s, rest) =>
      let (more, rest) ← readSteps fuel false s.isDescent rest
      pure (s :: more, rest)
end

/-- Reads a path. The error message says what is wrong and at which octet, counted from one. -/
def parse (text : Bytes) : Except String Path :=
  let located (msg : String) (rest : Nat) : String :=
    msg ++ " at " ++ toString (text.length - rest + 1) ++ " in " ++ Bytes.toText text
  -- every read step consumes an octet or descends one level of nesting
  match readSteps (8 * text.length + 8) true false text with
  | .error e => throw (located e.message e.rest)
  | .ok (p, rest) =>
    if rest.isEmpty then pure p else throw (located "parse error" rest.length)

end Path

/-- The element at a position, counting from the end for a negative one. -/
def elementAt (xs : List Json) (i : Int) : List Json :=
  let j := if i < 0 then i + xs.length else i
  if 0 ≤ j then (xs[j.toNat]?).toList else []

/-- The elements of a slice: from `start` up to `stop`, every `step`-th. -/
def sliceOf (xs : List Json) (start stop : Option Int) (step : Int) : List Json :=
  let n : Int := xs.length
  let clampIndex (i : Int) : Int := if i < 0 then max 0 (i + n) else min i n
  if step = 0 then []
  else if step > 0 then
    let s := clampIndex (start.getD 0)
    let e := clampIndex (stop.getD n)
    (List.range (e - s).toNat).filterMap fun k =>
      if k % step.toNat = 0 then xs[(s + k).toNat]? else none
  else
    let s : Int := match start with
      | some i => if i < 0 then i + n else min i (n - 1)
      | none => n - 1
    let e : Int := match stop with
      | some i => if i < 0 then max (-1) (i + n) else i
      | none => -1
    let count := (s - e).toNat
    (List.range count).filterMap fun k =>
      if k % step.natAbs = 0 then
        let idx := s - k
        if 0 ≤ idx then xs[idx.toNat]? else none
      else none

/-- Whether a value is an object or an array. -/
def isContainer : Json → Bool
  | .object _ => true
  | .array _ => true
  | _ => false

mutual

/-- The containers at and below a value: every container's descendants before the container. -/
def containersBelow : Json → List Json
  | .object ms => containersMembers ms ++ [.object ms]
  | .array xs => containersItems xs ++ [.array xs]
  | _ => []

/-- The containers at and below the values of members, in order. -/
def containersMembers : List (String × Json) → List Json
  | [] => []
  | (_, v) :: rest => containersBelow v ++ containersMembers rest

/-- The containers at and below the items of an array, in order. -/
def containersItems : List Json → List Json
  | [] => []
  | v :: rest => containersBelow v ++ containersItems rest

end

namespace FilterValue

/-- The filter value of a JSON value; a number literal reads as a float. -/
def ofJson : Json → FilterValue
  | .null => .nil
  | .bool b => .bool b
  | .number t => match Decimal.parseFloat? t with
    | some x => .float x
    | none => .nil
  | .float x => .float x
  | .string s => .str s
  | _ => .other

/-- Whether this is `true`. -/
def isTrue : FilterValue → Bool
  | .bool true => true
  | _ => false

/-- Equality: numbers by value, other values of one kind by their contents. -/
def same : FilterValue → FilterValue → Bool
  | .nil, .nil => true
  | .bool a, .bool b => a == b
  | .int a, .int b => a == b
  | .int a, .float b => Float.ofInt a == b
  | .float a, .int b => a == Float.ofInt b
  | .float a, .float b => a == b
  | .str a, .str b => a == b
  | _, _ => false

/-- Order: numbers by value, strings by their characters; `none` for values that have none. -/
def order : FilterValue → FilterValue → Option Ordering
  | .int a, .int b => some (compare a b)
  | .int a, .float b => some (if Float.ofInt a < b then .lt else if Float.ofInt a == b then .eq else .gt)
  | .float a, .int b => some (if a < Float.ofInt b then .lt else if a == Float.ofInt b then .eq else .gt)
  | .float a, .float b => some (if a < b then .lt else if a == b then .eq else .gt)
  | .str a, .str b => some (compare a b)
  | _, _ => none

/-- Arithmetic: integers stay integers, a float makes a float, `+` also joins strings; `nil` for
anything else and for an integer division by zero. -/
def arith (o : FilterOp) : FilterValue → FilterValue → FilterValue
  | .int a, .int b =>
    match o with
    | .add => .int (a + b)
    | .sub => .int (a - b)
    | .mul => .int (a * b)
    | _ => if b = 0 then .nil else .int (a.tdiv b)
  | .str a, .str b => if o = .add then .str (a ++ b) else .nil
  | x, y =>
    let num : FilterValue → Option Float
      | .int i => some (Float.ofInt i)
      | .float f => some f
      | _ => none
    match num x, num y with
    | some a, some b =>
      match o with
      | .add => .float (a + b)
      | .sub => .float (a - b)
      | .mul => .float (a * b)
      | _ => .float (a / b)
    | _, _ => .nil

end FilterValue

/-- The value of an operator applied to two values. -/
def FilterOp.apply (o : FilterOp) (a b : FilterValue) : FilterValue :=
  let ordered (p : Ordering → Bool) : FilterValue := .bool ((a.order b).map p |>.getD false)
  match o with
  | .eq => .bool (a.same b)
  | .ne => .bool !(a.same b)
  | .lt => ordered (· == .lt)
  | .le => ordered (· != .gt)
  | .gt => ordered (· == .gt)
  | .ge => ordered (· != .lt)
  | .and => .bool (a.isTrue && b.isTrue)
  | .or => .bool (a.isTrue || b.isTrue)
  | _ => FilterValue.arith o a b

mutual
/-- The values one step selects from one value, `root` being the whole document. -/
def PathStep.select (root : Json) : PathStep → Json → List Json
  | .root, v => [v]
  | .current, v => [v]
  | .child k, .object ms => (getMember? ms k).toList
  | .child _, _ => []
  | .index i, .array xs => elementAt xs i
  | .index _, _ => []
  | .wildcard, .object ms => ms.map (·.2)
  | .wildcard, .array xs => xs
  | .wildcard, _ => []
  | .descent, v => containersBelow v
  | .union keys, v => keys.flatMap fun k =>
    match k, v with
    | .name s, .object ms => (getMember? ms s).toList
    | .index i, .array xs => elementAt xs i
    | _, _ => []
  | .slice a b s, .array xs => sliceOf xs a b s
  | .slice _ _ _, _ => []
  | .filter c, .array xs => xs.filter fun x => (Condition.eval root c x).isTrue
  | .filter c, .object ms => (ms.map (·.2)).filter fun x => (Condition.eval root c x).isTrue
  | .filter _, _ => []
/-- The values steps select from values, one step after the other. -/
def PathStep.selectAll (root : Json) : List PathStep → List Json → List Json
  | [], vs => vs
  | s :: rest, vs => PathStep.selectAll root rest (vs.flatMap (PathStep.select root s))
/-- The value of a condition for an element. -/
def Condition.eval (root : Json) : Condition → Json → FilterValue
  | .path rooted steps, v =>
    match PathStep.selectAll root steps [if rooted then root else v] with
    | w :: _ => FilterValue.ofJson w
    | [] => .nil
  | .literal x, _ => x
  | .binary o l r, v => o.apply (Condition.eval root l v) (Condition.eval root r v)
  | .negate c, v => .bool !(Condition.eval root c v).isTrue
end

/-- The values a path selects from a document, in order. -/
def Path.select (p : Path) (doc : Json) : List Json := PathStep.selectAll doc p [doc]

end HttpMock.Json
