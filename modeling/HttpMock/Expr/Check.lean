import HttpMock.Expr.Syntax
import HttpMock.Expr.Types
import HttpMock.Expr.Lex
import HttpMock.Regex.Match
/-! Checking the types of an expression before it runs; the first problem is reported. -/
namespace HttpMock.Expr

/-- What the checker knows about where a node stands: the collections of the predicates it is
inside (innermost first) and the variables bound by `let`. -/
structure Scope where
  predicates : List Ty := []
  vars : List (String × Ty) := []

/-- An error about a node. -/
def Node.problem {α : Type} (n : Node) (message : String) : Except SourceError α :=
  throw { message, pos := n.pos, located := n.located }

/-- The type of a binary operation on operands of the given types, or the message of the
mismatch. -/
def binaryType (op : String) (left right : Ty) (pattern? : Option Bytes) : Except String Ty := do
  let l := left.deref
  let r := right.deref
  let orIs (f : Ty → Bool) : Bool :=
    (l.isUnknown && r.isUnknown) || (l.isUnknown && f r) || (r.isUnknown && f l)
  let mismatch : Except String Ty :=
    throw ("invalid operation: " ++ op ++ " (mismatched types " ++ l.text ++ " and " ++ r.text ++ ")")
  if op = "==" || op = "!=" then
    if Ty.comparable l r then pure .bool else mismatch
  else if op = "or" || op = "||" || op = "and" || op = "&&" then
    if (l.isBool && r.isBool) || orIs Ty.isBool then pure .bool else mismatch
  else if op = "<" || op = ">" || op = ">=" || op = "<=" then
    if (l.isNumber && r.isNumber) || (l.isString && r.isString) ||
        orIs fun t => t.isNumber || t.isString then pure .bool
    else mismatch
  else if op = "-" || op = "*" then
    if l.isNumber && r.isNumber then pure (Ty.combined l r)
    else if orIs Ty.isNumber then pure .unknown
    else mismatch
  else if op = "/" || op = "**" || op = "^" then
    if (l.isNumber && r.isNumber) || orIs Ty.isNumber then pure .float else mismatch
  else if op = "%" then
    if (l.isInteger && r.isInteger) || orIs Ty.isInteger then pure .int else mismatch
  else if op = "+" then
    if l.isNumber && r.isNumber then pure (Ty.combined l r)
    else if l.isString && r.isString then pure .string
    else if orIs fun t => t.isNumber || t.isString then pure .unknown
    else mismatch
  else if op = "in" then
    if (l.isString || l.isUnknown) && r.isStruct then pure .bool
    else if r.isDict then
      if !l.isUnknown && !l.assignableTo r.key then
        throw ("cannot use " ++ l.text ++ " as type " ++ r.key.text ++ " in map key")
      else pure .bool
    else if r.isList then
      if !Ty.comparable l r.elem then
        throw ("cannot use " ++ l.text ++ " as type " ++ r.elem.text ++ " in array")
      else pure .bool
    else if l.isUnknown && (r.isString || r.isList || r.isDict) then pure .bool
    else if r.isUnknown then pure .bool
    else mismatch
  else if op = "matches" then
    match pattern? with
    | some p =>
      match Regex.compile (Bytes.toText p) with
      | .error e => throw e
      | .ok _ => if (l.isString && r.isString) || orIs Ty.isString then pure .bool else mismatch
    | none => if (l.isString && r.isString) || orIs Ty.isString then pure .bool else mismatch
  else if op = "contains" || op = "startsWith" || op = "endsWith" then
    if (l.isString && r.isString) || orIs Ty.isString then pure .bool else mismatch
  else if op = ".." then
    if (l.isInteger && r.isInteger) || orIs Ty.isInteger then pure (.list .int) else mismatch
  else if op = "??" then
    if l.isNil && !r.isNil then pure r
    else if !l.isNil && r.isNil then pure l
    else if l.isNil && r.isNil then pure .nil
    else if r.assignableTo l then pure l
    else pure .unknown
  else throw ("unknown operator (" ++ op ++ ")")

/-- The kind of a type, as array literals compare their items: types of one kind count as
alike. -/
def Ty.kind : Ty → Nat
  | .unknown => 0
  | .nil => 1
  | .bool => 2
  | .int => 3
  | .float => 4
  | .string => 5
  | .byte => 6
  | .pointer _ => 7
  | .list _ => 8
  | .dict .. => 9
  | .named _ => 10
  | .func .. => 11
  | .closure _ => 11

/-- Checks the arguments of a call of a function of a type: the type of its first result, or
the problem (and the node it concerns, none for the call itself). -/
def argumentsFit (name : String) (params : List Ty) (variadic : Bool) (results : List Ty)
    (args : List (Node × Ty)) : Except (Option Node × String) Ty := do
  if results.isEmpty then throw (none, "func " ++ name ++ " doesn\x27t return value")
  if results.length > 2 then throw (none, "func " ++ name ++ " returns more then two values")
  let n := params.length
  if variadic then
    if args.length + 1 < n then throw (none, "not enough arguments to call " ++ name)
  else
    if args.length > n then throw (none, "too many arguments to call " ++ name)
    if args.length < n then throw (none, "not enough arguments to call " ++ name)
  for ((arg, t), i) in args.zipIdx do
    let want := if variadic && i + 1 ≥ n then (params.getLast?.getD .unknown).elem
      else params.getD i .unknown
    if want.isFloat && t.isInteger then continue
    if want.isInteger && t.isInteger then continue
    if t.isNil then
      if want.isPointer || want.isUnknown || want.isList || want.isDict then continue
      throw (some arg, "cannot use nil as argument (type " ++ want.text ++ ") to call " ++ name)
    let fits := t.assignableTo want || (t.isPointer && t.deref.assignableTo want)
    if !fits && !t.isUnknown then
      throw (some arg, "cannot use " ++ t.text ++ " as argument (type " ++ want.text ++ ") to call " ++ name ++ " ")
  pure (results.headD .unknown)

/-- How a built-in function is checked: against one of several function types, tried in
order, or by a rule on the argument types. -/
inductive Signature where
  | overloads (fns : List Ty)
  | rule (f : List Ty → Except String Ty)

/-- A rule that takes exactly one argument. -/
def oneArgument (f : Ty → Except String Ty) : List Ty → Except String Ty
  | [t] => f t
  | ts => throw ("invalid number of arguments (expected 1, got " ++ toString ts.length ++ ")")

/-- The rule of the aggregate functions: at least one argument, each a number or a list (or
unknown); the type is that of the first argument, unknown once a list or an unknown type is
met. -/
def aggregate (name : String) : List Ty → Except String Ty
  | [] => throw ("not enough arguments to call " ++ name)
  | t :: ts =>
    let rec go : List Ty → Except String Ty
      | [] => pure t
      | u :: us =>
        if u.deref.isUnknown || u.deref.isList then pure .unknown
        else if u.deref.isNumber then go us
        else throw ("invalid argument for " ++ name ++ " (type " ++ u.text ++ ")")
    go (t :: ts)

/-- The signature of a built-in function that takes no predicate. -/
def builtinSignature? (name : String) : Option Signature :=
  let fn (ps : List Ty) (r : Ty) : Ty := .func ps false [r]
  let s := Ty.string
  match name with
  | "len" => some (.rule (oneArgument fun t =>
      if t.isList || t.isDict || t.isString || t.isUnknown then pure .int
      else throw ("invalid argument for len (type " ++ t.text ++ ")")))
  | "abs" => some (.rule (oneArgument fun t =>
      if t.isNumber || t.isUnknown then pure t
      else throw ("invalid argument for abs (type " ++ t.text ++ ")")))
  | "int" => some (.rule (oneArgument fun t =>
      if t.isNumber || t.isString || t.isUnknown then pure .int
      else throw ("invalid argument for int (type " ++ t.text ++ ")")))
  | "float" => some (.rule (oneArgument fun t =>
      if t.isNumber || t.isString || t.isUnknown then pure .float
      else throw ("invalid argument for float (type " ++ t.text ++ ")")))
  | "ceil" | "floor" | "round" => some (.rule (oneArgument fun t =>
      if t.isNumber || t.isUnknown then pure .float
      else throw ("invalid argument for " ++ name ++ " (type " ++ t.text ++ ")")))
  | "first" | "last" => some (.rule (oneArgument fun t =>
      if t.isUnknown then pure .unknown
      else if t.isList then pure t.elem
      else throw ("cannot get " ++ name ++ " element from " ++ t.text)))
  | "keys" | "values" => some (.rule (oneArgument fun t =>
      if t.isUnknown || t.isDict then pure (.list .unknown)
      else throw ("cannot get " ++ name ++ " from " ++ t.text)))
  | "max" | "min" | "mean" | "median" => some (.rule (aggregate name))
  | "take" => some (.rule fun ts => match ts with
      | [xs, n] =>
        if !(xs.isUnknown || xs.isList) then throw ("cannot take from " ++ xs.text)
        else if !(n.isUnknown || n == .int) then throw ("cannot take " ++ n.text ++ " elements")
        else pure xs
      | ts => throw ("invalid number of arguments (expected 2, got " ++ toString ts.length ++ ")"))
  | "reverse" | "uniq" | "flatten" => some (.rule (oneArgument fun t =>
      if t.isUnknown || t.isList then pure (.list .unknown)
      else throw ("cannot " ++ name ++ " " ++ t.text)))
  | "concat" => some (.rule fun ts =>
      if ts.isEmpty then throw "invalid number of arguments (expected at least 1, got 0)"
      else match ts.find? fun t => !(t.deref.isUnknown || t.deref.isList) with
        | some t => throw ("cannot concat " ++ t.text)
        | none => pure (.list .unknown))
  | "sort" => some (.rule fun ts => match ts with
      | [xs] | [xs, _] =>
        if !(xs.isUnknown || xs.isList) then throw ("cannot sort " ++ xs.text)
        else match ts with
          | [_, o] =>
            if o.isUnknown || o.isString then pure (.list .unknown)
            else throw ("invalid argument for sort (expected string, got " ++ o.text ++ ")")
          | _ => pure (.list .unknown)
      | ts => throw ("invalid number of arguments (expected 1 or 2, got " ++ toString ts.length ++ ")"))
  | "type" | "string" | "toJSON" => some (.overloads [fn [.unknown] s])
  | "fromJSON" => some (.overloads [fn [s] .unknown])
  | "toBase64" | "fromBase64" | "upper" | "lower" => some (.overloads [fn [s] s])
  | "trim" => some (.overloads [fn [s] s, fn [s, s] s])
  | "trimPrefix" | "trimSuffix" => some (.overloads [fn [s, s] s, fn [s] s])
  | "split" | "splitAfter" => some (.overloads [fn [s, s] (.list s), fn [s, s, .int] (.list s)])
  | "replace" => some (.overloads [fn [s, s, s, .int] s, fn [s, s, s] s])
  | "repeat" => some (.overloads [fn [s, .int] s])
  | "join" => some (.overloads [fn [.list s, s] s, fn [.list .unknown, s] s, fn [.list .unknown] s,
      fn [.list s, s] s, fn [.list s] s])
  | "indexOf" | "lastIndexOf" => some (.overloads [fn [s, s] .int])
  | "hasPrefix" | "hasSuffix" => some (.overloads [fn [s, s] .bool])
  | _ => none

mutual

/-- The type of an expression in a scope, or the first problem. -/
def check : Nat → Scope → Node → Except SourceError Ty
  | 0, _, n => n.problem "expression is too deeply nested"
  | fuel + 1, sc, node =>
    match node with
    | .nil _ => pure .nil
    | .bool .. => pure .bool
    | .int .. => pure .int
    | .float .. => pure .float
    | .str .. => pure .string
    | .ident name _ =>
      match sc.vars.lookup name with
      | some t => pure t
      | none =>
        if name = "$env" then pure .unknown
        else match environment.lookup name with
          | some t => pure t
          | none => node.problem ("unknown name " ++ name)
    | .pointer name _ =>
      match sc.predicates with
      | [] => node.problem "cannot use pointer accessor outside predicate"
      | c :: _ =>
        if name = "" then
          if c.isUnknown then pure .unknown
          else if c.isList then pure c.elem
          else node.problem ("cannot use " ++ c.text ++ " as array")
        else if name = "index" then pure .int
        else if name = "acc" then pure .unknown
        else node.problem ("unknown pointer #" ++ name)
    | .unary op arg _ => do
      let t := (← check fuel sc arg).deref
      if op = "!" || op = "not" then
        if t.isBool || t.isUnknown then pure .bool
        else node.problem ("invalid operation: " ++ op ++ " (mismatched type " ++ t.text ++ ")")
      else if op = "+" || op = "-" then
        if t.isNumber then pure t
        else if t.isUnknown then pure .unknown
        else node.problem ("invalid operation: " ++ op ++ " (mismatched type " ++ t.text ++ ")")
      else node.problem ("unknown operator (" ++ op ++ ")")
    | .binary op l r _ => do
      let lt ← check fuel sc l
      let rt ← check fuel sc r
      let pattern := match op, r with
        | "matches", .str p _ => some p
        | _, _ => none
      match binaryType op lt rt pattern with
      | .ok t =>
        -- integer division by a zero constant is refused when constants are folded
        match op, l, r with
        | "%", .int _ _, .int 0 _ => node.problem "integer divide by zero"
        | _, _, _ => pure t
      | .error m => node.problem m
    | .member base prop _ method _ => do
      let bt ← check fuel sc base
      let pt ← check fuel sc prop
      if bt.isUnknown then return .unknown
      let name? := match prop with
        | .str s _ => some (Bytes.toText s)
        | _ => none
      if let some name := name? then
        if bt.isNil then return ← node.problem ("type nil has no field " ++ name)
        if let some m := bt.method? name then return m
      let b := bt.deref
      match b with
      | .dict k v =>
        if !pt.assignableTo k && !pt.isUnknown then
          prop.problem ("cannot use " ++ pt.text ++ " to get an element from " ++ b.text)
        else pure v
      | .list t =>
        if !pt.isInteger && !pt.isUnknown then
          prop.problem ("array elements can only be selected using an integer (got " ++ pt.text ++ ")")
        else pure t
      | .named n =>
        match name? with
        | some name =>
          match (Ty.fields n).lookup name with
          | some t => pure t
          | none =>
            if method then node.problem ("type " ++ b.text ++ " has no method " ++ name)
            else node.problem ("type " ++ b.text ++ " has no field " ++ name)
        | none => node.problem ("type " ++ b.text ++ "[" ++ pt.text ++ "] is undefined")
      | _ => node.problem ("type " ++ b.text ++ "[" ++ pt.text ++ "] is undefined")
    | .slice base lo hi _ => do
      let t ← check fuel sc base
      if t.isUnknown then return .unknown
      if !(t.isString || t.isList) then return ← node.problem ("cannot slice " ++ t.text)
      if let some n := lo then
        let it ← check fuel sc n
        if !it.isInteger && !it.isUnknown then return ← n.problem ("non-integer slice index " ++ it.text)
      if let some n := hi then
        let it ← check fuel sc n
        if !it.isInteger && !it.isUnknown then return ← n.problem ("non-integer slice index " ++ it.text)
      pure t
    | .call callee args _ => do
      let ft ← check fuel sc callee
      let name := match callee with
        | .ident n _ => n
        | .member _ (.str s _) _ _ _ => Bytes.toText s
        | _ => "function"
      if ft.isUnknown then return .unknown
      if ft.isNil then return ← node.problem (name ++ " is nil; cannot call nil as function")
      match ft with
      | .func ps variadic rs => do
        let typed ← checkAll fuel sc args
        match argumentsFit name ps variadic rs typed with
        | .ok t => pure t
        | .error (some arg, m) => arg.problem m
        | .error (none, m) => node.problem m
      | _ => node.problem (ft.text ++ " is not callable")
    | .builtin name args _ => checkBuiltin fuel sc node name args
    | .predicate body _ => do
      let t ← check fuel sc body
      pure (if t.isNil then .func [.unknown] false [] else .closure t)
    | .chain inner => check fuel sc inner
    | .conditional c a b => do
      let ct ← check fuel sc c
      if !ct.isBool && !ct.isUnknown then
        return ← c.problem ("non-bool expression (type " ++ ct.text ++ ") used as condition")
      let at_ ← check fuel sc a
      let bt ← check fuel sc b
      if at_.isNil && !bt.isNil then pure bt
      else if !at_.isNil && bt.isNil then pure at_
      else if at_.isNil && bt.isNil then pure .nil
      else if at_.assignableTo bt then pure at_
      else pure .unknown
    | .array items _ => do
      let typed ← checkAll fuel sc items
      let same := (typed.zip (typed.drop 1)).all fun ((_, a), (_, b)) => a.kind == b.kind
      match typed.getLast? with
      | some (_, t) => pure (if same then .list t else .list .unknown)
      | none => pure (.list .unknown)
    | .map pairs _ => do
      let _ ← checkPairs fuel sc pairs
      pure (.dict .string .unknown)
    | .letIn name value body => do
      if (environment.lookup name).isSome then return ← node.problem ("cannot redeclare " ++ name)
      if (sc.vars.lookup name).isSome then return ← node.problem ("cannot redeclare variable " ++ name)
      let vt ← check fuel sc value
      check fuel { sc with vars := (name, vt) :: sc.vars } body
    | .sequence items => do
      let typed ← checkAll fuel sc items
      match typed.getLast? with
      | some (_, t) => pure t
      | none => node.problem "empty sequence expression"

/-- The types of nodes, in order. -/
def checkAll : Nat → Scope → List Node → Except SourceError (List (Node × Ty))
  | 0, _, _ => pure []
  | _, _, [] => pure []
  | fuel + 1, sc, n :: ns => do
    let t ← check fuel sc n
    let rest ← checkAll fuel sc ns
    pure ((n, t) :: rest)

/-- Checks the keys and values of a map literal. -/
def checkPairs : Nat → Scope → List (Node × Node) → Except SourceError Unit
  | 0, _, _ => pure ()
  | _, _, [] => pure ()
  | fuel + 1, sc, (k, v) :: ps => do
    let _ ← check fuel sc k
    let _ ← check fuel sc v
    checkPairs fuel sc ps

/-- The type of a call of a built-in function. -/
def checkBuiltin : Nat → Scope → Node → String → List Node → Except SourceError Ty
  | 0, _, node, _, _ => node.problem "expression is too deeply nested"
  | fuel + 1, sc, node, name, args => do
    let predicateOf (collection : Ty) (closure : Node) : Except SourceError Ty := do
      let t ← check fuel { sc with predicates := collection :: sc.predicates } closure
      match t with
      | .closure out => pure out
      | _ => closure.problem "predicate should has one input and one output param"
    let collectionOf (n : Node) : Except SourceError Ty := do
      let c := (← check fuel sc n).deref
      if !c.isList && !c.isUnknown then
        n.problem ("builtin " ++ name ++ " takes only array (got " ++ c.text ++ ")")
      else pure c
    match name, args with
    | "all", [xs, p] | "none", [xs, p] | "any", [xs, p] | "one", [xs, p] => do
      let c ← collectionOf xs
      let out ← predicateOf c p
      if !out.isBool && !out.isUnknown then
        p.problem ("predicate should return boolean (got " ++ out.text ++ ")")
      else pure .bool
    | "filter", [xs, p] => do
      let c ← collectionOf xs
      let out ← predicateOf c p
      if !out.isBool && !out.isUnknown then
        p.problem ("predicate should return boolean (got " ++ out.text ++ ")")
      else pure (if c.isUnknown then .list .unknown else .list c.elem)
    | "map", [xs, p] => do
      let c ← collectionOf xs
      let out ← predicateOf c p
      pure (.list out)
    | "count", [xs] => do
      let _ ← collectionOf xs
      pure .int
    | "count", [xs, p] => do
      let c ← collectionOf xs
      let out ← predicateOf c p
      if !out.isBool && !out.isUnknown then
        p.problem ("predicate should return boolean (got " ++ out.text ++ ")")
      else pure .int
    | "sum", [xs] => do
      let c ← collectionOf xs
      pure (if c.isUnknown then .unknown else c.elem)
    | "sum", [xs, p] => do
      let c ← collectionOf xs
      predicateOf c p
    | "find", [xs, p] | "findLast", [xs, p] => do
      let c ← collectionOf xs
      let out ← predicateOf c p
      if !out.isBool && !out.isUnknown then
        p.problem ("predicate should return boolean (got " ++ out.text ++ ")")
      else pure (if c.isUnknown then .unknown else c.elem)
    | "findIndex", [xs, p] | "findLastIndex", [xs, p] => do
      let c ← collectionOf xs
      let out ← predicateOf c p
      if !out.isBool && !out.isUnknown then
        p.problem ("predicate should return boolean (got " ++ out.text ++ ")")
      else pure .int
    | _, _ =>
      let typed ← checkAll fuel sc args
      match builtinSignature? name with
      | some (.rule f) =>
        match f (typed.map fun (_, t) => if t.isUnknown then .unknown else t) with
        | .ok t => pure t
        | .error m => node.problem m
      | some (.overloads fns) =>
        let attempt := fns.foldl (fun (acc : Option Ty × Option (Option Node × String)) fnTy =>
          match acc.1 with
          | some _ => acc
          | none =>
            match fnTy with
            | .func ps variadic rs =>
              match argumentsFit name ps variadic rs typed with
              | .ok t => (some t, acc.2)
              | .error e => (none, some e)
            | _ => acc) (none, none)
        match attempt with
        | (some t, _) => pure t
        | (none, some (some arg, m)) => arg.problem m
        | (none, some (none, m)) => node.problem m
        | (none, none) => pure .unknown
      | none => pure .unknown

end

/-- Checks an expression: its type, or the first problem. -/
def typeOf (n : Node) : Except SourceError Ty := check (1024 + 4 * 1024) {} n

end HttpMock.Expr
