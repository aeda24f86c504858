import HttpMock.Expr.Lex
import HttpMock.Expr.Syntax
import HttpMock.Decimal.Text
/-! Parsing an expression by precedence climbing. -/
namespace HttpMock.Expr

/-- The precedence of a binary operator, and whether it groups to the right. -/
def binaryOperator? (op : String) : Option (Nat × Bool) :=
  if op = "|" then some (0, false)
  else if op = "or" || op = "||" then some (10, false)
  else if op = "and" || op = "&&" then some (15, false)
  else if ["==", "!=", "<", ">", ">=", "<=", "in", "matches", "contains", "startsWith",
      "endsWith"].contains op then some (20, false)
  else if op = ".." then some (25, false)
  else if op = "+" || op = "-" then some (30, false)
  else if op = "*" || op = "/" || op = "%" then some (60, false)
  else if op = "**" || op = "^" then some (100, true)
  else if op = "??" then some (500, false)
  else none

/-- The precedence of a unary operator. -/
def unaryOperator? (op : String) : Option Nat :=
  if op = "not" || op = "!" then some 50
  else if op = "-" || op = "+" then some 90
  else none

/-- Whether an operator is an ordering comparison, which may be chained. -/
def isComparison (op : String) : Bool := op = "<" || op = ">" || op = ">=" || op = "<="

/-- What a built-in function that takes a predicate reads: for each argument, whether it is a
predicate and whether it may be left out. -/
def predicateArguments? (name : String) : Option (List (Bool × Bool)) :=
  let two := [(false, false), (true, false)]
  if ["all", "none", "any", "one", "filter", "map", "find", "findIndex", "findLast",
      "findLastIndex", "groupBy"].contains name then some two
  else if name = "count" || name = "sum" then some [(false, false), (true, true)]
  else if name = "sortBy" || name = "reduce" then some [(false, false), (true, false), (false, true)]
  else none

/-- The built-in functions. -/
def builtinNames : List String :=
  ["len", "type", "abs", "ceil", "floor", "round", "int", "float", "string", "trim", "trimPrefix",
   "trimSuffix", "upper", "lower", "split", "splitAfter", "replace", "repeat", "join", "indexOf",
   "lastIndexOf", "hasPrefix", "hasSuffix", "max", "min", "sum", "mean", "median", "toJSON",
   "fromJSON", "toBase64", "fromBase64", "now", "duration", "date", "timezone", "first", "last",
   "get", "take", "keys", "values", "toPairs", "fromPairs", "sort", "reverse", "uniq", "concat",
   "flatten", "bitand", "bitor", "bitxor", "bitnand", "bitnot", "bitshl", "bitshr", "bitushr"]

/-- Whether a text may be a name: a letter, `_` or `$`, then letters, digits, `_` and `$`. -/
def isValidName (s : String) : Bool :=
  match s.toList with
  | c :: rest => (c = '_' || c = '$' || isLetterChar c) && rest.all isWordChar
  | [] => false

/-- The message of a number that does not fit 64 bits or is malformed, as the number reader
words it. -/
def numberProblem (function literal : String) (outOfRange : Bool) : String :=
  "strconv." ++ function ++ ": parsing " ++ Text.quoteString literal ++ ": " ++
    (if outOfRange then "value out of range" else "invalid syntax")

/-- An integer of 64 bits written in a base, with its prefix already removed. -/
def integerIn (base : Nat) (digits : List Char) : Option Nat :=
  if digits.isEmpty || !digits.all (fun c => digitValue c < base) then none
  else some (digits.foldl (fun a c => base * a + digitValue c) 0)

/-- The node of a number token, or why its text is not a number. -/
def numberNode (t : Token) : Except String Node :=
  let text := String.ofList ((Bytes.toText t.value).toList.filter (· ≠ '_'))
  let lower := text.toList.map Char.toLower
  let fail (kind function : String) (outOfRange : Bool) : Except String Node :=
    throw ("invalid " ++ kind ++ " literal: " ++ numberProblem function text outOfRange)
  let prefixed (kind : String) (base : Nat) : Except String Node :=
    match integerIn base (lower.drop 2) with
    | some n => if n < Nat.pow 2 63 then pure (.int n t.pos) else fail kind "ParseInt" true
    | none => fail kind "ParseInt" false
  if lower.take 2 = ['0', 'x'] then prefixed "hex" 16
  else if lower.contains '.' || lower.contains 'e' then
    match Decimal.parseDecimal? text with
    | some x => pure (.float x t.pos)
    | none =>
      let shapeOk := (Decimal.parseDecimal? (String.ofList (text.toList.map fun c =>
        if c = 'e' || c = 'E' then 'e' else c))).isSome
      fail "float" "ParseFloat" (!shapeOk && (Decimal.Literal.ofString? text).isNone &&
        (text.toList.any Char.isDigit) && (text.toList.getLast? |>.all Char.isDigit))
  else if lower.take 2 = ['0', 'b'] then prefixed "binary" 2
  else if lower.take 2 = ['0', 'o'] then prefixed "octal" 8
  else
    match integerIn 10 lower with
    | some n => if n < Nat.pow 2 63 then pure (.int n t.pos) else fail "integer" "ParseInt" true
    | none => fail "integer" "ParseInt" false

/-- The parser: the tokens, the index of the current one, and how many predicates it is
inside. -/
structure Parser where
  tokens : Array Token
  index : Nat := 0
  depth : Nat := 0

/-- Parsing, stopping at the first error. -/
abbrev ParseM := StateT Parser (Except SourceError)

namespace Parse

/-- The current token. -/
def current : ParseM Token := do
  let p ← get
  pure (p.tokens[p.index]?.getD { kind := .eof, value := [], pos := 0 })

/-- An error at a token. -/
def failAt {α : Type} (t : Token) (message : String) : ParseM α :=
  throw { message, pos := t.pos }

/-- An error at the current token. -/
def fail {α : Type} (message : String) : ParseM α := do failAt (← current) message

/-- Moves to the next token; there is none after the end. -/
def next : ParseM Unit := do
  let p ← get
  if p.index + 1 ≥ p.tokens.size then fail "unexpected end of expression"
  else set { p with index := p.index + 1 }

/-- Whether the current token is of a kind and, if one is given, has a text. -/
def at_ (k : TokenKind) (v : Option String := none) : ParseM Bool := do
  pure ((← current).is k v)

/-- Moves past the current token if it is of a kind and has a text; an error otherwise. -/
def expect (k : TokenKind) (v : Option String := none) : ParseM Unit := do
  let t ← current
  if t.is k v then next else fail ("unexpected token " ++ t.describe)

/-- The error for parsing too deep. -/
def tooDeep {α : Type} : ParseM α := fail "expression is too deeply nested"

mutual

/-- Expressions separated by `;`. -/
def sequence : Nat → ParseM Node
  | 0 => tooDeep
  | fuel + 1 => do
    let first ← expression fuel 0
    let rest ← sequenceRest fuel
    pure (if rest.isEmpty then first else .sequence (first :: rest))

/-- The expressions after the first of a sequence. -/
def sequenceRest : Nat → ParseM (List Node)
  | 0 => tooDeep
  | fuel + 1 => do
    if ← at_ .operator ";" then
      next
      if ← at_ .eof then pure []
      else
        let n ← expression fuel 0
        let rest ← sequenceRest fuel
        pure (n :: rest)
    else pure []

/-- An expression whose binary operators bind at least as tightly as `precedence`. -/
def expression : Nat → Nat → ParseM Node
  | 0, _ => tooDeep
  | fuel + 1, precedence => do
    if precedence = 0 && (← at_ .operator "let") then letBinding fuel
    else if precedence = 0 && (← at_ .operator "if") then ifElse fuel
    else
      let left ← primary fuel
      let node ← binaryTail fuel precedence left ""
      if precedence = 0 then conditionalTail fuel node else pure node

/-- The binary operations after a left operand. -/
def binaryTail : Nat → Nat → Node → String → ParseM Node
  | 0, _, _, _ => tooDeep
  | fuel + 1, precedence, left, previous => do
    let opToken ← current
    if opToken.kind ≠ .operator then return left
    let saved ← get
    let negate := opToken.is .operator "not"
    let chosen ← if negate then do
        next
        let t ← current
        if negatable.contains (Bytes.toText t.value) then
          match binaryOperator? (Bytes.toText t.value) with
          | some (prec, _) => if prec ≥ precedence then pure (some t) else pure none
          | none => pure none
        else fail ("unexpected token " ++ t.describe)
      else pure (some opToken)
    match chosen with
    | none =>
      set saved
      pure left
    | some op =>
      let name := Bytes.toText op.value
      match binaryOperator? name with
      | some (prec, right) =>
        if prec ≥ precedence then
          next
          if name = "|" then
            let ident ← current
            expect .identifier
            let node ← callOf fuel ident [left]
            binaryTail fuel precedence node name
          else if previous = "??" && name ≠ "??" then
            failAt op ("Operator (" ++ name ++
              ") and coalesce expressions (??) cannot be mixed. Wrap either by parentheses.")
          else if isComparison name then
            let node ← comparisonChain fuel left op prec none
            binaryTail fuel precedence node name
          else
            let rhs ← expression fuel (if right then prec else prec + 1)
            let node := Node.binary name left rhs op.pos
            let node := if negate then Node.unary "not" node op.pos else node
            binaryTail fuel precedence node name
        else
          set saved
          pure left
      | none =>
        set saved
        pure left

/-- A chain of ordering comparisons: `a < b < c` is `a < b && b < c`. -/
def comparisonChain : Nat → Node → Token → Nat → Option Node → ParseM Node
  | 0, _, _, _, _ => tooDeep
  | fuel + 1, left, op, prec, acc => do
    let rhs ← expression fuel (prec + 1)
    let cmp := Node.binary (Bytes.toText op.value) left rhs op.pos
    let acc := match acc with
      | none => cmp
      | some a => Node.binary "&&" a cmp op.pos
    let t ← current
    if t.kind = .operator && isComparison (Bytes.toText t.value) then
      next
      comparisonChain fuel rhs t prec (some acc)
    else pure acc

/-- The `? :` conditionals after an expression. -/
def conditionalTail : Nat → Node → ParseM Node
  | 0, _ => tooDeep
  | fuel + 1, node => do
    if ← at_ .operator "?" then
      next
      let node' ← if !(← at_ .operator ":") then do
          let yes ← expression fuel 0
          expect .operator ":"
          let no ← expression fuel 0
          pure (Node.conditional node yes no)
        else do
          next
          let no ← expression fuel 0
          pure (Node.conditional node node no)
      conditionalTail fuel node'
    else pure node

/-- `let name = value; body`. -/
def letBinding : Nat → ParseM Node
  | 0 => tooDeep
  | fuel + 1 => do
    expect .operator "let"
    let name ← current
    expect .identifier
    expect .operator "="
    let value ← expression fuel 0
    expect .operator ";"
    let body ← sequence fuel
    pure (.letIn (Bytes.toText name.value) value body)

/-- `if cond { a } else { b }`. -/
def ifElse : Nat → ParseM Node
  | 0 => tooDeep
  | fuel + 1 => do
    next
    let cond ← expression fuel 0
    expect .bracket "\x7b"
    let yes ← sequence fuel
    expect .bracket "\x7d"
    expect .operator "else"
    expect .bracket "\x7b"
    let no ← sequence fuel
    expect .bracket "\x7d"
    pure (.conditional cond yes no)

/-- A unary operation, a parenthesized expression, a pointer, or an operand. -/
def primary : Nat → ParseM Node
  | 0 => tooDeep
  | fuel + 1 => do
    let t ← current
    let unary := if t.kind = .operator then unaryOperator? (Bytes.toText t.value) else none
    match unary with
    | some prec =>
      next
      let arg ← expression fuel prec
      accessors fuel (.unary (Bytes.toText t.value) arg t.pos)
    | none =>
      if t.is .bracket "(" then
        next
        let e ← expression fuel 0
        expect .bracket ")"
        accessors fuel e
      else if t.is .operator "#" || t.is .operator "." then
        if (← get).depth > 0 then
          let name ← if t.is .operator "#" then do
              next
              let n ← current
              if n.kind = .identifier then
                next
                pure (Bytes.toText n.value)
              else pure ""
            else pure ""
          accessors fuel (.pointer name t.pos)
        else fail "cannot use pointer accessor outside predicate"
      else secondary fuel

/-- A name, a call, a literal, an array or a map, with what follows it. -/
def secondary : Nat → ParseM Node
  | 0 => tooDeep
  | fuel + 1 => do
    let t ← current
    match t.kind with
    | .identifier =>
      next
      let name := Bytes.toText t.value
      if name = "true" then pure (.bool true t.pos)
      else if name = "false" then pure (.bool false t.pos)
      else if name = "nil" then pure (.nil t.pos)
      else if ← at_ .bracket "(" then
        let node ← callOf fuel t []
        accessors fuel node
      else accessors fuel (.ident name t.pos)
    | .number =>
      next
      -- a malformed number is reported at the token after it
      match numberNode t with
      | .ok n => pure n
      | .error m => fail m
    | .string =>
      next
      accessors fuel (.str t.value t.pos)
    | _ =>
      if t.is .bracket "[" then
        let node ← arrayLiteral fuel
        accessors fuel node
      else if t.is .bracket "\x7b" then
        let node ← mapLiteral fuel
        accessors fuel node
      else fail ("unexpected token " ++ t.describe)

/-- Member accesses, indexes, slices and method calls after a node. -/
def accessors : Nat → Node → ParseM Node
  | 0, _ => tooDeep
  | fuel + 1, node => do
    let t ← current
    if !(t.kind = .operator || t.kind = .bracket) then return node
    let v := Bytes.toText t.value
    if v = "." || v = "?." then
      let optional := v = "?."
      next
      let prop ← current
      if optional && prop.is .bracket "[" then
        let node' ← index fuel node prop true
        accessors fuel node'
      else
        next
        let propName := Bytes.toText prop.value
        if prop.kind ≠ .identifier && (prop.kind ≠ .operator || !isValidName propName) then
          fail "expected name"
        else
          let (isChain, base) := match node with
            | .chain n => (true, n)
            | n => (false, n)
          let property := Node.str prop.value prop.pos
          let node' ← if ← at_ .bracket "(" then do
              let args ← arguments fuel []
              pure (Node.call (.member base property optional true prop.pos) args prop.pos)
            else pure (Node.member base property optional false prop.pos)
          accessors fuel (if isChain || optional then .chain node' else node')
    else if v = "[" then
      let node' ← index fuel node t false
      accessors fuel node'
    else pure node

/-- An index or a slice after a node, from its opening bracket. -/
def index : Nat → Node → Token → Bool → ParseM Node
  | 0, _, _, _ => tooDeep
  | fuel + 1, node, bracket, optional => do
    next
    if ← at_ .operator ":" then
      next
      let hi ← if !(← at_ .bracket "]") then some <$> expression fuel 0 else pure none
      expect .bracket "]"
      pure (.slice node none hi bracket.pos)
    else
      let lo ← expression fuel 0
      if ← at_ .operator ":" then
        next
        let hi ← if !(← at_ .bracket "]") then some <$> expression fuel 0 else pure none
        expect .bracket "]"
        pure (.slice node (some lo) hi bracket.pos)
      else
        let m := Node.member node lo optional false bracket.pos
        expect .bracket "]"
        pure (if optional then .chain m else m)

/-- A call of a named function, the arguments already taken (the operand before a pipe) given. -/
def callOf : Nat → Token → List Node → ParseM Node
  | 0, _, _ => tooDeep
  | fuel + 1, t, given => do
    let name := Bytes.toText t.value
    match predicateArguments? name with
    | some specs =>
      expect .bracket "("
      let rest := specs.drop given.length
      let args ← predicateArgs fuel rest rest.length 0 given
      if ← at_ .operator "," then next
      expect .bracket ")"
      pure (.builtin name args t.pos)
    | none =>
      let args ← arguments fuel given
      if builtinNames.contains name then pure (.builtin name args t.pos)
      else pure (.call (.ident name t.pos) args t.pos)

/-- The arguments of a built-in function that takes a predicate. -/
def predicateArgs : Nat → List (Bool × Bool) → Nat → Nat → List Node → ParseM (List Node)
  | 0, _, _, _, _ => tooDeep
  | _, [], _, _, acc => pure acc
  | fuel + 1, (isPredicate, optional) :: rest, total, i, acc => do
    let closing ← at_ .bracket ")"
    if optional && closing then pure acc
    else if !optional && closing then fail ("expected at least " ++ toString total ++ " arguments")
    else
      if i > 0 then expect .operator ","
      let node ← if isPredicate then predicate fuel else expression fuel 0
      predicateArgs fuel rest total (i + 1) (acc ++ [node])

/-- Arguments in parentheses, after those already given. -/
def arguments : Nat → List Node → ParseM (List Node)
  | 0, _ => tooDeep
  | fuel + 1, given => do
    expect .bracket "("
    let args ← argumentList fuel given given.length
    expect .bracket ")"
    pure args

/-- The arguments up to the closing parenthesis. -/
def argumentList : Nat → List Node → Nat → ParseM (List Node)
  | 0, _, _ => tooDeep
  | fuel + 1, acc, offset => do
    if ← at_ .bracket ")" then pure acc
    else
      if acc.length > offset then expect .operator ","
      if ← at_ .bracket ")" then pure acc
      else
        let node ← expression fuel 0
        argumentList fuel (acc ++ [node]) offset

/-- A predicate: an expression over `#`, in braces or bare. -/
def predicate : Nat → ParseM Node
  | 0 => tooDeep
  | fuel + 1 => do
    let start ← current
    let braces := start.is .bracket "\x7b"
    if braces then next
    modify fun p => { p with depth := p.depth + 1 }
    let body ← if braces then sequence fuel
      else do
        let e ← expression fuel 0
        if ← at_ .operator ";" then fail "wrap predicate with brackets \x7b and \x7d"
        pure e
    modify fun p => { p with depth := p.depth - 1 }
    if braces then expect .bracket "\x7d"
    pure (.predicate body start.pos)

/-- An array literal. -/
def arrayLiteral : Nat → ParseM Node
  | 0 => tooDeep
  | fuel + 1 => do
    let start ← current
    expect .bracket "["
    let items ← arrayItems fuel []
    expect .bracket "]"
    pure (.array items start.pos)

/-- The items of an array literal. -/
def arrayItems : Nat → List Node → ParseM (List Node)
  | 0, _ => tooDeep
  | fuel + 1, acc => do
    if ← at_ .bracket "]" then pure acc
    else
      if !acc.isEmpty then expect .operator ","
      if !acc.isEmpty && (← at_ .bracket "]") then pure acc
      else
        let node ← expression fuel 0
        arrayItems fuel (acc ++ [node])

/-- A map literal. -/
def mapLiteral : Nat → ParseM Node
  | 0 => tooDeep
  | fuel + 1 => do
    let start ← current
    expect .bracket "\x7b"
    let pairs ← mapPairs fuel start []
    expect .bracket "\x7d"
    pure (.map pairs start.pos)

/-- The pairs of a map literal. -/
def mapPairs : Nat → Token → List (Node × Node) → ParseM (List (Node × Node))
  | 0, _, _ => tooDeep
  | fuel + 1, start, acc => do
    if ← at_ .bracket "\x7d" then pure acc
    else
      if !acc.isEmpty then
        expect .operator ","
      if !acc.isEmpty && (← at_ .bracket "\x7d") then pure acc
      else
        if !acc.isEmpty && (← at_ .operator ",") then fail ("unexpected token " ++ (← current).describe)
        let k ← current
        let key ← if k.kind = .number || k.kind = .string || k.kind = .identifier then do
            next
            pure (Node.str k.value start.pos)
          else if k.is .bracket "(" then expression fuel 0
          else fail ("a map key must be a quoted string, a number, a identifier, or an expression " ++
            "enclosed in parentheses (unexpected token " ++ k.describe ++ ")")
        expect .operator ":"
        let value ← expression fuel 0
        mapPairs fuel start (acc ++ [(key, value)])

end

end Parse

/-- The syntax tree of an expression, or the first error. -/
def parse (source : String) : Except SourceError Node := do
  let tokens ← tokenize source
  let fuel := 16 * tokens.size + 64
  let (node, p) ← (Parse.sequence fuel).run { tokens }
  match p.tokens[p.index]? with
  | some t => if t.kind = .eof then pure node else throw { message := "unexpected token " ++ t.describe, pos := t.pos }
  | none => pure node

end HttpMock.Expr
