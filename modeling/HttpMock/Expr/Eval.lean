import HttpMock.Expr.Syntax
import HttpMock.Expr.Types
import HttpMock.Request.Basic
import HttpMock.Request.Query
import HttpMock.Request.Render
import HttpMock.Regex.Match
import HttpMock.Text.Blank
import HttpMock.Decimal.Text
import HttpMock.Json.Read
import HttpMock.Json.Write
import HttpMock.Text.Base64
/-! Running an expression against a request. -/
namespace HttpMock.Expr

/-- A value of an expression. -/
inductive Value where
  | nil
  | bool (b : Bool)
  | int (i : Int)
  | float (x : Float)
  | str (s : Bytes)
  | byte (b : UInt8)
  | list (elem : Ty) (items : List Value)
  | dict (val : Ty) (entries : List (Bytes × Value))
  | request (r : Request)
  | query (q : QueryValue)
  | part (p : Part)
  /-- A method bound to the value it belongs to. -/
  | method (recv : Value) (name : String)
  deriving Inhabited

/-- Why evaluation stopped: an error, or `nil` met by an optional access, which ends the chain
it belongs to. -/
inductive Stop where
  | error (message : String)
  | nilChain
  deriving Inhabited

/-- Evaluation, which may stop. -/
abbrev EvalM := Except Stop

/-- Stops with an error. -/
def halt {α : Type} (message : String) : EvalM α := throw (.error message)

namespace Value

mutual
/-- The value of a JSON datum. -/
def ofJson : Json → Value
  | .null => .nil
  | .bool b => .bool b
  | .number t => match Decimal.parseFloat? t with
    | some x => .float x
    | none => .nil
  | .float x => .float x
  | .string s => .str s.toBytes
  | .array items => .list .unknown (ofJsonItems items)
  | .object ms => .dict .unknown (ofJsonMembers ms)
/-- The values of JSON items. -/
def ofJsonItems : List Json → List Value
  | [] => []
  | x :: xs => ofJson x :: ofJsonItems xs
/-- The entries of JSON members. -/
def ofJsonMembers : List (String × Json) → List (Bytes × Value)
  | [] => []
  | (k, v) :: ms => (k.toBytes, ofJson v) :: ofJsonMembers ms
end

/-- A string that may be absent: `nil` when it is. -/
def ofOption : Option Bytes → Value
  | some b => .str b
  | none => .nil

/-- The zero value of a type. -/
def zero : Ty → Value
  | .string => .str []
  | .int => .int 0
  | .float => .float 0
  | .bool => .bool false
  | .byte => .byte 0
  | .named .queryValue => .query (.single [])
  | .named .part => .part { name := [] }
  | _ => .nil

/-- Whether a value is `nil`. -/
def isNil : Value → Bool
  | .nil => true
  | _ => false

/-- The number a value holds, if it is one: integers, octets and floats. -/
def number? : Value → Option (Int ⊕ Float)
  | .int i => some (.inl i)
  | .byte b => some (.inl b.toNat)
  | .float x => some (.inr x)
  | _ => none

/-- An integer value as a float. -/
def toFloat : Int ⊕ Float → Float
  | .inl i => Float.ofInt i
  | .inr x => x

end Value

/-- An integer wrapped into the 64-bit signed range. -/
def wrap64 (i : Int) : Int :=
  let m : Int := Int.pow 2 64
  let r := i % m
  if r ≥ Int.pow 2 63 then r - m else r

mutual
/-- Whether two values are deeply equal: same kind and same contents. -/
def Value.deepEq : Value → Value → Bool
  | .nil, .nil => true
  | .bool a, .bool b => a == b
  | .int a, .int b => a == b
  | .float a, .float b => a == b
  | .str a, .str b => a == b
  | .byte a, .byte b => a == b
  | .list t xs, .list u ys => t == u && Value.deepEqList xs ys
  | .dict t xs, .dict u ys => t == u && xs.length == ys.length && Value.deepEqEntries xs ys ys
  | .query a, .query b => a == b
  | .part a, .part b => a == b
  | .request a, .request b => a.method == b.method && a.uri == b.uri && a.headers == b.headers &&
      a.content == b.content && a.queryParams == b.queryParams && a.requestParams == b.requestParams &&
      a.multiparts == b.multiparts
  | _, _ => false
/-- Item-wise deep equality. -/
def Value.deepEqList : List Value → List Value → Bool
  | [], [] => true
  | x :: xs, y :: ys => Value.deepEq x y && Value.deepEqList xs ys
  | _, _ => false
/-- Whether every entry has an equal entry of the same key in `all`. -/
def Value.deepEqEntries : List (Bytes × Value) → List (Bytes × Value) → List (Bytes × Value) → Bool
  | [], _, _ => true
  | (k, v) :: rest, all, _ =>
    (match all.find? (·.1 == k) with
      | some (_, w) => Value.deepEq v w
      | none => false) && Value.deepEqEntries rest all all
end

namespace Value

/-- Equality as `==` sees it: numbers compare by value across integers and floats, `nil` equals
`nil`, and anything else compares deeply. -/
def equal (a b : Value) : Bool :=
  match a.number?, b.number? with
  | some (.inl x), some (.inl y) => x == y
  | some x, some y => toFloat x == toFloat y
  | some _, none | none, some _ => false
  | none, none => a.deepEq b

end Value

mutual
/-- The text of a value as it is printed by default: `<nil>`, `true`, numbers in their general
form, strings as they are, lists as `[a b]` and maps as `map[k:v]` with the keys in order. -/
def Value.display : Value → Bytes
  | .nil => "<nil>".toBytes
  | .bool b => (toString b).toBytes
  | .int i => (toString i).toBytes
  | .float x => (Decimal.generalText x).toBytes
  | .str s => s
  | .byte b => (toString b.toNat).toBytes
  | .list _ items => "[".toBytes ++ (" ".toBytes).intercalate (Value.displayItems items) ++ "]".toBytes
  | .dict _ es =>
    let sorted := (Value.displayEntries es).mergeSort fun a b => Bytes.le a.1 b.1
    "map[".toBytes ++ (" ".toBytes).intercalate (sorted.map fun (k, v) => k ++ ":".toBytes ++ v) ++
      "]".toBytes
  | _ => []
/-- The texts of list items. -/
def Value.displayItems : List Value → List Bytes
  | [] => []
  | v :: vs => Value.display v :: Value.displayItems vs
/-- Map keys with the texts of their values. -/
def Value.displayEntries : List (Bytes × Value) → List (Bytes × Bytes)
  | [] => []
  | (k, v) :: es => (k, Value.display v) :: Value.displayEntries es
end

/-- The value of a field of the request. -/
def requestField (r : Request) (name : String) : Option Value :=
  match name with
  | "Method" => some (.str r.method)
  | "URI" => some (.str r.uri)
  | "Headers" => some (.dict .string (r.headers.map fun (k, v) => (k, .str v)))
  | "Content" => some (Value.ofOption r.content)
  | "JSON" => some ((r.json.map Value.ofJson).getD .nil)
  | "QueryParams" => some (.dict (.named .queryValue) (r.queryParams.map fun (k, v) => (k, .query v)))
  | "RequestParams" => some (.dict .string (r.requestParams.map fun (k, v) => (k, .str v)))
  | "Multiparts" => some (.dict (.named .part) (r.multiparts.map fun (k, v) => (k, .part v)))
  | _ => none

/-- The value of a field of a part. -/
def partField (p : Part) (name : String) : Option Value :=
  match name with
  | "Name" => some (.str p.name)
  | "Mimetype" => some (Value.ofOption p.mimetype)
  | "Filename" => some (Value.ofOption p.filename)
  | "Content" => some (Value.ofOption p.content)
  | _ => none

/-- Whether a value has a method of a name. -/
def hasMethod : Value → String → Bool
  | .request _, m => ["ContentString", "String", "HasHeader", "HasMultipart", "HasQueryParam",
      "HasRequestParam", "Header", "RequestParam", "Multipart", "QueryParam"].contains m
  | .query _, m => ["Contains", "IsList", "List", "String"].contains m
  | _, _ => false

/-- An index into a list or string of a length, counting from the end when negative. -/
def indexIn (i : Int) (len : Nat) : EvalM Nat :=
  let j := if i < 0 then i + len else i
  if j < 0 || j ≥ len then halt ("index out of range: " ++ toString j ++ " (array length is " ++ toString len ++ ")")
  else pure j.toNat

/-- An integer from a value used as an index. -/
def indexValue : Value → EvalM Int
  | .int i => pure i
  | .byte b => pure b.toNat
  | .float x => pure (if x.isNaN || x.isInf then 0 else (if x < 0 then -(((-x).floor).toUInt64.toNat : Int) else (x.floor.toUInt64.toNat : Int)))
  | _ => halt "index is not an integer"

/-- The element or field of a value at a key. -/
def fetch (base key : Value) : EvalM Value :=
  match base, key with
  | .nil, _ => halt "cannot fetch from nil"
  | b, .str k =>
    if hasMethod b (Bytes.toText k) then pure (.method b (Bytes.toText k))
    else match b with
      | .dict t es => pure ((es.find? (·.1 == k)).elim (Value.zero t) (·.2))
      | .request r => match requestField r (Bytes.toText k) with
        | some v => pure v
        | none => halt "no such field"
      | .part p => match partField p (Bytes.toText k) with
        | some v => pure v
        | none => halt "no such field"
      | _ => halt "cannot fetch"
  | .list _ items, k => do
    let i ← indexValue k
    let j ← indexIn i items.length
    pure (items.getD j .nil)
  | .str s, k => do
    let i ← indexValue k
    let j ← indexIn i s.length
    pure (.byte (s.getD j 0))
  | _, _ => halt "cannot fetch"

/-- The JSON text of a list of strings. -/
def stringsJson (vs : List Bytes) : Bytes := (QueryValue.list vs).text

/-- Calls a method of a value. -/
def callMethod (recv : Value) (name : String) (args : List Value) : EvalM Value :=
  match recv, name, args with
  | .request r, "ContentString", [] => pure (.str r.contentText)
  | .request r, "String", [] => pure (.str r.render)
  | .request r, "HasHeader", [.str k] => pure (.bool (r.header? k).isSome)
  | .request r, "Header", [.str k] => pure (.str ((r.header? k).getD []))
  | .request r, "HasQueryParam", [.str k] => pure (.bool (r.queryParams.get? k).isSome)
  | .request r, "QueryParam", [.str k] => pure (.query ((r.queryParams.get? k).getD (.single [])))
  | .request r, "HasRequestParam", [.str k] => pure (.bool (r.requestParams.get? k).isSome)
  | .request r, "RequestParam", [.str k] => pure (.str ((r.requestParams.get? k).getD []))
  | .request r, "HasMultipart", [.str k] => pure (.bool (r.multiparts.get? k).isSome)
  | .request r, "Multipart", [.str k] => pure (.part ((r.multiparts.get? k).getD { name := [] }))
  | .query q, "Contains", [.str v] => pure (.bool (q.containsValue v))
  | .query q, "IsList", [] => pure (.bool q.isList)
  | .query q, "List", [] => pure (.list .string (q.values.map .str))
  | .query q, "String", [] => pure (.str q.text)
  | _, _, _ => halt ("cannot call " ++ name)

/-- Compares two values in order: numbers by value, strings by their octets. -/
def compareValues (op : String) (a b : Value) : EvalM Bool :=
  let decideOrd (o : Ordering) : Bool :=
    if op = "<" then o == .lt else if op = ">" then o == .gt
    else if op = "<=" then o != .gt else o != .lt
  match a.number?, b.number?, a, b with
  | some (.inl x), some (.inl y), _, _ => pure (decideOrd (compare x y))
  | some x, some y, _, _ =>
    let (p, q) := (Value.toFloat x, Value.toFloat y)
    pure (if op = "<" then p < q else if op = ">" then p > q else if op = "<=" then p ≤ q else p ≥ q)
  | _, _, .str x, .str y =>
    pure (decideOrd (if x == y then .eq else if Bytes.le x y then .lt else .gt))
  | _, _, _, _ => halt ("invalid operation: " ++ op)

/-- Arithmetic on two values. -/
def arithmetic (op : String) (a b : Value) : EvalM Value :=
  match a.number?, b.number? with
  | some (.inl x), some (.inl y) =>
    if op = "+" then pure (.int (wrap64 (x + y)))
    else if op = "-" then pure (.int (wrap64 (x - y)))
    else if op = "*" then pure (.int (wrap64 (x * y)))
    else if op = "/" then pure (.float (Float.ofInt x / Float.ofInt y))
    else if op = "%" then
      if y = 0 then halt "integer divide by zero" else pure (.int (x.tmod y))
    else pure (.float (Float.pow (Float.ofInt x) (Float.ofInt y)))
  | some x, some y =>
    let (p, q) := (Value.toFloat x, Value.toFloat y)
    if op = "+" then pure (.float (p + q))
    else if op = "-" then pure (.float (p - q))
    else if op = "*" then pure (.float (p * q))
    else if op = "/" then pure (.float (p / q))
    else if op = "%" then halt "invalid operation: %"
    else pure (.float (Float.pow p q))
  | _, _ =>
    match op, a, b with
    | "+", .str x, .str y => pure (.str (x ++ y))
    | _, _, _ => halt ("invalid operation: " ++ op)

/-- Whether a value is in a collection: an element of a list, a key of a map, a field of a
structure. -/
def contained (needle hay : Value) : EvalM Bool :=
  match hay with
  | .nil => pure false
  | .list _ items => pure (items.any (Value.equal · needle))
  | .dict _ es => match needle with
    | .str k => pure (es.any (·.1 == k))
    | .nil => pure (es.any (·.1 == []))
    | _ => halt "invalid map key"
  | .request _ => match needle with
    | .str k => pure ((requestField default (Bytes.toText k)).isSome)
    | _ => halt "invalid field name"
  | .part _ => match needle with
    | .str k => pure ((partField { name := [] } (Bytes.toText k)).isSome)
    | _ => halt "invalid field name"
  | .query _ => match needle with
    | .str _ => pure false
    | _ => halt "invalid field name"
  | _ => halt "operator in not defined"

/-- A slice of a list or a string, its bounds counted from the end when negative and clamped. -/
def sliceOf (v : Value) (lo hi : Option Int) : EvalM Value :=
  let bounds (len : Nat) : Nat × Nat :=
    let clamp (i : Int) : Nat :=
      let j := if i < 0 then i + len else i
      if j < 0 then 0 else min j.toNat len
    let b := clamp (hi.getD len)
    let a := min (clamp (lo.getD 0)) b
    (a, b)
  match v with
  | .list t items => let (a, b) := bounds items.length; pure (.list t ((items.take b).drop a))
  | .str s => let (a, b) := bounds s.length; pure (.str ((s.take b).drop a))
  | _ => halt "cannot slice"

/-- Upper case of ASCII and Latin-1 letters. -/
def upperBytes (bs : Bytes) : Bytes :=
  if bs.all (· < 0x80) then bs.map Bytes.asciiUpper
  else Bytes.ofPieces ((Bytes.pieces bs).map fun p => match p with
    | .char c =>
      let n := c.toNat
      .char (if 0x61 ≤ n && n ≤ 0x7A then Char.ofNat (n - 32)
        else if 0xE0 ≤ n && n ≤ 0xFE && n ≠ 0xF7 then Char.ofNat (n - 32) else c)
    | .stray _ => .char '�')

/-- The index of the first occurrence of a needle in text, -1 if none. -/
def indexOfBytes (s sub : Bytes) : Int :=
  match (List.range (s.length + 1)).find? fun i => sub.isPrefixOf (s.drop i) with
  | some i => i
  | none => -1

/-- The text cut at occurrences of a separator, into at most `limit` pieces when a limit is
given (the last piece holding the rest), each piece but the last keeping its separator when
`after` holds. An empty separator cuts between characters. -/
def splitBytes (s sep : Bytes) (after : Bool) (limit : Option Nat) : List Bytes :=
  if limit == some 0 then []
  else if sep.isEmpty then
    let chars := (Bytes.pieces s).map Bytes.Piece.toBytes
    match limit with
    | some n => if chars.length > n then chars.take (n - 1) ++ [(chars.drop (n - 1)).flatten] else chars
    | none => chars
  else
    let rec go : Nat → Nat → Bytes → Bytes → List Bytes
      | 0, _, acc, rest => [acc ++ rest]
      | _, 0, acc, rest => [acc ++ rest]
      | fuel + 1, cuts + 1, acc, rest =>
        if sep.isPrefixOf rest then
          (if after then acc ++ sep else acc) :: go fuel cuts [] (rest.drop sep.length)
        else match rest with
          | [] => [acc]
          | b :: r => go fuel (cuts + 1) (acc ++ [b]) r
    go (s.length + 1) ((limit.map (· - 1)).getD (s.length + 1)) [] s

/-- The text with the first `limit` (all, without a limit) occurrences of `old` replaced by
`new`, left to right without overlap. An empty `old` occurs before every character and at the
end. -/
def replaceBytes (s old new : Bytes) (limit : Option Nat) : Bytes :=
  if old.isEmpty then
    let chars := (Bytes.pieces s).map Bytes.Piece.toBytes
    let k := match limit with
      | some n => min n (chars.length + 1)
      | none => chars.length + 1
    if k = 0 then s
    else new ++ (chars.take (k - 1)).flatMap (· ++ new) ++ (chars.drop (k - 1)).flatten
  else
    let rec go : Nat → Nat → Bytes → Bytes
      | 0, _, xs => xs
      | _, 0, xs => xs
      | fuel + 1, left + 1, xs =>
        if old.isPrefixOf xs then new ++ go fuel left (xs.drop old.length)
        else match xs with
          | [] => []
          | x :: rest => x :: go fuel (left + 1) rest
    go (s.length + 1) (limit.getD (s.length + 1)) s

/-- A count argument of the string functions: a negative count means no limit. -/
def countLimit (n : Int) : Option Nat := if n < 0 then none else some n.toNat

mutual
/-- The numbers in a list and in the lists nested in it, in order; `none` when an item is
neither a number nor a list. With `strict`, every nested list must hold a number. -/
def numbersIn (strict : Bool) : List Value → Option (List Value)
  | [] => some []
  | v :: vs => do
    let here ← numbersOfItem strict v
    let rest ← numbersIn strict vs
    pure (here ++ rest)
/-- The numbers of one item of a list: the item if it is a number, those inside it if it is a
list. -/
def numbersOfItem (strict : Bool) : Value → Option (List Value)
  | .list _ items => do
    let ns ← numbersIn strict items
    if strict && ns.isEmpty then none else some ns
  | v => if v.number?.isSome then some [v] else none
end

/-- The numbers of the arguments of an aggregate function: each argument is a number or a list
of them. -/
def argumentNumbers (strict : Bool) (args : List Value) : EvalM (List Value) :=
  match args.mapM fun v => match v with
    | .list _ items => numbersIn strict items
    | v => if v.number?.isSome then some [v] else none with
  | some groups => pure groups.flatten
  | none => halt "invalid argument for aggregate"

/-- The greatest (with `greater`) or least of the numbers of aggregate arguments, the first of
equal ones, or `nil` when there are none. A single argument that is neither a number nor a list
is its own answer. -/
def extremum (greater : Bool) (args : List Value) : EvalM Value := do
  match args with
  | [v] =>
    match v with
    | .list .. => pure ()
    | _ => if v.number?.isNone then return v
  | _ => pure ()
  let ns ← argumentNumbers true args
  ns.foldlM (fun best v => match best with
    | .nil => pure v
    | b => do
      let replace ← compareValues (if greater then "<" else ">") b v
      pure (if replace then v else b)) Value.nil

mutual
/-- The count and the sum of the numbers in a list and the lists nested in it, added to
`acc`: each nested list is summed on its own first. -/
def sumsIn (acc : Nat × Float) : List Value → Option (Nat × Float)
  | [] => some acc
  | v :: vs => do
    let (n, t) ← sumsOfItem v
    sumsIn (acc.1 + n, acc.2 + t) vs
/-- The count and the sum of the numbers of one item. -/
def sumsOfItem : Value → Option (Nat × Float)
  | .list _ items => sumsIn (0, 0) items
  | v => v.number?.map fun x => (1, Value.toFloat x)
end

/-- The mean of the numbers of aggregate arguments, zero when there are none. -/
def meanOf (args : List Value) : EvalM Value :=
  match sumsIn (0, 0) args with
  | some (n, t) => pure (.float (if n = 0 then 0 else t / Float.ofNat n))
  | none => halt "invalid argument for mean"

/-- The median of the numbers of aggregate arguments as floats, zero when there are none; of
an even count, the mean of the two middle ones. A NaN orders below every number. -/
def medianOf (args : List Value) : EvalM Value := do
  let ns ← argumentNumbers false args
  let xs := (ns.filterMap fun v => v.number?.map Value.toFloat).mergeSort fun a b =>
    !(b < a || (b.isNaN && !a.isNaN))
  let n := xs.length
  if n = 0 then pure (.float 0)
  else if n % 2 = 1 then pure (.float (xs.getD (n / 2) 0))
  else pure (.float ((xs.getD (n / 2 - 1) 0 + xs.getD (n / 2) 0) / 2))

mutual
/-- The items of a list with every nested list opened, in order. -/
def flattenItems : List Value → List Value
  | [] => []
  | v :: vs => flattenItem v ++ flattenItems vs
/-- One item with nested lists opened. -/
def flattenItem : Value → List Value
  | .list _ items => flattenItems items
  | v => [v]
end

/-- The items of a list without repeats, the first of equal ones kept. -/
def uniqueItems (items : List Value) : List Value :=
  items.foldl (fun kept v => if kept.any (Value.equal · v) then kept else kept ++ [v]) []

/-- Whether one sortable value goes before another: numbers by value, strings by their octets. -/
def Value.before (a b : Value) : Bool :=
  match a.number?, b.number?, a, b with
  | some (.inl x), some (.inl y), _, _ => x < y
  | some x, some y, _, _ => Value.toFloat x < Value.toFloat y
  | _, _, .str x, .str y => x != y && Bytes.le x y
  | _, _, _, _ => false

/-- The items of a list in order, descending with `descending`. Items must all be numbers or all
strings, unless there is at most one. -/
def sortItems (items : List Value) (descending : Bool) : EvalM (List Value) :=
  if items.length ≤ 1 then pure items
  else if items.all (·.number?.isSome) || items.all (fun v => match v with | .str _ => true | _ => false) then
    pure (items.mergeSort fun a b => if descending then !(Value.before a b) else !(Value.before b a))
  else halt "invalid operation: <"

mutual
/-- The JSON data of a value, or `none` for a value that has none: a non-finite float, a
structure or a method. -/
def Value.toJson? : Value → Option Json
  | .nil => some .null
  | .bool b => some (.bool b)
  | .int i => some (.number (toString i))
  | .byte b => some (.number (toString b.toNat))
  | .float x => if x.isNaN || x.isInf then none else some (.float x)
  | .str s => some (.string s.toText)
  | .list _ items => Json.array <$> Value.itemsToJson? items
  | .dict _ es => Json.object <$> Value.entriesToJson? es
  | _ => none
/-- The JSON data of list items. -/
def Value.itemsToJson? : List Value → Option (List Json)
  | [] => some []
  | v :: vs => do
    let j ← Value.toJson? v
    let js ← Value.itemsToJson? vs
    pure (j :: js)
/-- The JSON members of map entries. -/
def Value.entriesToJson? : List (Bytes × Value) → Option (List (String × Json))
  | [] => some []
  | (k, v) :: es => do
    let j ← Value.toJson? v
    let js ← Value.entriesToJson? es
    pure ((k.toText, j) :: js)
end

/-- Text without leading and trailing octets of a set. -/
def trimSet (s cut : Bytes) : Bytes :=
  ((s.dropWhile (cut.contains ·)).reverse.dropWhile (cut.contains ·)).reverse

/-- The environment of evaluation: the request, the variables bound by `let`, and the elements
(with their indices) of the predicates being run, innermost first. -/
structure Env where
  request : Request
  vars : List (String × Value) := []
  elements : List (Value × Nat) := []

/-- The results of a predicate run over a list. -/
def predicateResults (run : Value → Nat → EvalM Value) (items : List Value) : EvalM (List Value) :=
  items.zipIdx.mapM fun (v, i) => run v i

/-- A Boolean a predicate gave, or an error. -/
def asBool : Value → EvalM Bool
  | .bool b => pure b
  | _ => halt "predicate should return boolean"

/-- Evaluates a built-in function that takes no predicate on its argument values. -/
def applyBuiltin (name : String) (args : List Value) : EvalM Value :=
  match name, args with
  | "len", [.str s] => pure (.int s.length)
  | "len", [.list _ xs] => pure (.int xs.length)
  | "len", [.dict _ es] => pure (.int es.length)
  | "upper", [.str s] => pure (.str (upperBytes s))
  | "lower", [.str s] => pure (.str (Text.lower s))
  | "trim", [.str s] => pure (.str (Text.trim s))
  | "trim", [.str s, .str cut] => pure (.str (trimSet s cut))
  | "trimPrefix", [.str s] => pure (.str (if Bytes.startsWith s [0x20] then s.drop 1 else s))
  | "trimPrefix", [.str s, .str p] => pure (.str (if Bytes.startsWith s p then s.drop p.length else s))
  | "trimSuffix", [.str s] => pure (.str (if Bytes.endsWith s [0x20] then s.dropLast else s))
  | "trimSuffix", [.str s, .str p] =>
    pure (.str (if Bytes.endsWith s p then s.take (s.length - p.length) else s))
  | "hasPrefix", [.str s, .str p] => pure (.bool (Bytes.startsWith s p))
  | "hasSuffix", [.str s, .str p] => pure (.bool (Bytes.endsWith s p))
  | "indexOf", [.str s, .str p] => pure (.int (indexOfBytes s p))
  | "lastIndexOf", [.str s, .str p] =>
    let i := indexOfBytes s.reverse p.reverse
    pure (.int (if i < 0 then -1 else s.length - p.length - i))
  | "split", [.str s, .str sep] => pure (.list .string ((splitBytes s sep false none).map .str))
  | "split", [.str s, .str sep, .int n] =>
    pure (.list .string ((splitBytes s sep false (countLimit n)).map .str))
  | "splitAfter", [.str s, .str sep] => pure (.list .string ((splitBytes s sep true none).map .str))
  | "splitAfter", [.str s, .str sep, .int n] =>
    pure (.list .string ((splitBytes s sep true (countLimit n)).map .str))
  | "replace", [.str s, .str old, .str new] => pure (.str (replaceBytes s old new none))
  | "replace", [.str s, .str old, .str new, .int n] => pure (.str (replaceBytes s old new (countLimit n)))
  | "repeat", [.str s, .int n] =>
    if n < 0 then halt "negative repeat count" else pure (.str ((List.replicate n.toNat s).flatten))
  | "join", [.list _ xs] => do
    let parts ← xs.mapM fun x => match x with
      | .str s => pure s
      | _ => halt "join takes strings"
    pure (.str parts.flatten)
  | "join", [.list _ xs, .str sep] => do
    let parts ← xs.mapM fun x => match x with
      | .str s => pure s
      | _ => halt "join takes strings"
    pure (.str (sep.intercalate parts))
  | "first", [.list _ xs] => pure (xs.headD .nil)
  | "last", [.list _ xs] => pure (xs.getLastD .nil)
  | "first", [.nil] | "last", [.nil] => pure .nil
  | "keys", [.dict _ es] => pure (.list .unknown (es.map fun (k, _) => .str k))
  | "values", [.dict _ es] => pure (.list .unknown (es.map (·.2)))
  | "max", args => extremum true args
  | "min", args => extremum false args
  | "mean", args => meanOf args
  | "median", args => medianOf args
  | "take", [.list t items, .int n] =>
    if n < 0 then halt "slice bounds out of range" else pure (.list t (items.take n.toNat))
  | "get", [base, key] => pure ((fetch base key).toOption.getD .nil)
  | "get", _ => pure .nil
  | "reverse", [.list _ items] => pure (.list .unknown items.reverse)
  | "uniq", [.list _ items] => pure (.list .unknown (uniqueItems items))
  | "flatten", [.list _ items] => pure (.list .unknown (flattenItems items))
  | "concat", first :: more => do
    let parts ← (first :: more).mapM fun v => match v with
      | .list _ items => pure items
      | _ => halt "cannot concat"
    pure (.list .unknown parts.flatten)
  | "sort", [.list _ items] => .list .unknown <$> sortItems items false
  | "sort", [.list _ items, .str order] =>
    if order == "asc".toBytes then .list .unknown <$> sortItems items false
    else if order == "desc".toBytes then .list .unknown <$> sortItems items true
    else halt "invalid order, expected asc or desc"
  | "toJSON", [v] => match v.toJson? with
    | some j => pure (.str (Json.htmlSafe (Json.prettyAt 2 0 j)).toBytes)
    | none => halt "json: unsupported value"
  | "fromJSON", [.str s] =>
    match Json.parse s with
    | .error _ => halt "invalid JSON"
    | .ok j => match Json.toFloats j with
      | .ok j => pure (Value.ofJson j)
      | .error lit => halt (Json.rangeMessage lit)
  | "toBase64", [.str s] => pure (.str (Text.Base64.encode s).toBytes)
  | "fromBase64", [.str s] => match Text.Base64.decode? s with
    | some bs => pure (.str bs)
    | none => halt "illegal base64 data"
  | "abs", [.int i] => pure (.int (if i < 0 then wrap64 (-i) else i))
  | "abs", [.float x] => pure (.float x.abs)
  | "int", [.int i] => pure (.int i)
  | "int", [.byte b] => pure (.int b.toNat)
  | "int", [.float x] =>
    pure (.int (if x.isNaN || x.isInf then 0 else if x < 0 then -((-x).floor.toUInt64.toNat : Int) else (x.floor.toUInt64.toNat : Int)))
  | "int", [.str s] =>
    match (Bytes.toText s).toInt? with
    | some i => if -Int.pow 2 63 ≤ i && i < Int.pow 2 63 then pure (.int i) else halt "value out of range"
    | none => halt "invalid syntax"
  | "float", [.int i] => pure (.float (Float.ofInt i))
  | "float", [.float x] => pure (.float x)
  | "float", [.str s] => match Decimal.parseDecimal? (Bytes.toText s) with
    | some x => pure (.float x)
    | none => halt "invalid syntax"
  | "string", [v] => pure (.str v.display)
  | "ceil", [.float x] => pure (.float x.ceil)
  | "floor", [.float x] => pure (.float x.floor)
  | "round", [.float x] => pure (.float x.round)
  | "ceil", [.int i] | "floor", [.int i] | "round", [.int i] => pure (.float (Float.ofInt i))
  | "type", [v] => pure (.str (match v with
      | .nil => "nil"
      | .bool _ => "bool"
      | .int _ | .byte _ => "int"
      | .float _ => "float"
      | .str _ => "string"
      | .list .. => "array"
      | .dict .. => "map"
      | .method .. => "func"
      | _ => "struct").toBytes)
  | _, _ => halt ("cannot call " ++ name)

mutual

/-- Evaluates an expression. -/
def eval : Nat → Env → Node → EvalM Value
  | 0, _, _ => halt "expression is too deeply nested"
  | fuel + 1, env, node =>
    match node with
    | .nil _ => pure .nil
    | .bool b _ => pure (.bool b)
    | .int i _ => pure (.int i)
    | .float x _ => pure (.float x)
    | .str s _ => pure (.str s)
    | .ident name _ =>
      match env.vars.lookup name with
      | some v => pure v
      | none => if name = "request" then pure (.request env.request) else halt ("unknown name " ++ name)
    | .pointer name _ =>
      match env.elements with
      | (v, i) :: _ =>
        if name = "" then pure v else if name = "index" then pure (.int i) else halt "unknown pointer"
      | [] => halt "pointer outside predicate"
    | .unary op arg _ => do
      let v ← eval fuel env arg
      if op = "not" || op = "!" then
        match v with
        | .bool b => pure (.bool !b)
        | _ => halt "not a Boolean"
      else if op = "-" then
        match v with
        | .int i => pure (.int (wrap64 (-i)))
        | .byte b => pure (.int (-(b.toNat : Int)))
        | .float x => pure (.float (-x))
        | _ => halt "cannot negate"
      else
        match v.number? with
        | some _ => pure v
        | none => halt "not a number"
    | .binary op l r _ => do
      if op = "and" || op = "&&" then
        match ← eval fuel env l with
        | .bool false => pure (.bool false)
        | .bool true => eval fuel env r
        | _ => halt "not a Boolean"
      else if op = "or" || op = "||" then
        match ← eval fuel env l with
        | .bool true => pure (.bool true)
        | .bool false => eval fuel env r
        | _ => halt "not a Boolean"
      else if op = "??" then
        let a ← (eval fuel env l).tryCatch fun e => match e with
          | .nilChain => pure .nil
          | other => throw other
        if a.isNil then eval fuel env r else pure a
      else
        let a ← eval fuel env l
        let b ← eval fuel env r
        if op = "==" then pure (.bool (a.equal b))
        else if op = "!=" then pure (.bool !(a.equal b))
        else if op = "<" || op = ">" || op = "<=" || op = ">=" then .bool <$> compareValues op a b
        else if ["+", "-", "*", "/", "%", "**", "^"].contains op then arithmetic op a b
        else if op = "in" then .bool <$> contained a b
        else if op = "contains" || op = "startsWith" || op = "endsWith" then
          match a, b with
          | .str x, .str y => pure (.bool (if op = "contains" then Bytes.hasInfix x y
              else if op = "startsWith" then Bytes.startsWith x y else Bytes.endsWith x y))
          | _, _ => halt ("invalid operation: " ++ op)
        else if op = "matches" then
          match a, b with
          | .str x, .str p =>
            match Regex.compile (Bytes.toText p) with
            | .ok prog => pure (.bool (prog.search x))
            | .error e => halt e
          | _, _ => halt "invalid operation: matches"
        else if op = ".." then
          match a, b with
          | .int x, .int y =>
            let count : Nat := (y - x + 1).toNat
            let items : List Value := (List.range count).map fun (k : Nat) => Value.int (x + Int.ofNat k)
            pure (.list .int items)
          | _, _ => halt "invalid operation: .."
        else halt ("unknown operator " ++ op)
    | .member base prop optional _ _ => do
      let b ← eval fuel env base
      if optional && b.isNil then throw .nilChain
      let k ← eval fuel env prop
      fetch b k
    | .slice base lo hi _ => do
      let v ← eval fuel env base
      let a ← match lo with
        | some n => do let x ← eval fuel env n; some <$> indexValue x
        | none => pure none
      let b ← match hi with
        | some n => do let x ← eval fuel env n; some <$> indexValue x
        | none => pure none
      sliceOf v a b
    | .call callee args _ => do
      let f ← eval fuel env callee
      let vs ← evalAll fuel env args
      match f with
      | .method recv name => callMethod recv name vs
      | _ => halt "not callable"
    | .builtin name args _ => evalBuiltin fuel env name args
    | .predicate _ _ => halt "predicate outside a call"
    | .chain inner =>
      (eval fuel env inner).tryCatch fun e => match e with
        | .nilChain => pure .nil
        | other => throw other
    | .conditional c a b => do
      match ← eval fuel env c with
      | .bool true => eval fuel env a
      | .bool false => eval fuel env b
      | _ => halt "not a Boolean"
    | .array items _ => do
      let vs ← evalAll fuel env items
      pure (.list .unknown vs)
    | .map pairs _ => do
      let es ← evalPairs fuel env pairs
      pure (.dict .unknown es)
    | .letIn name value body => do
      let v ← eval fuel env value
      eval fuel { env with vars := (name, v) :: env.vars } body
    | .sequence items => do
      let vs ← evalAll fuel env items
      pure (vs.getLastD .nil)

/-- Evaluates nodes in order. -/
def evalAll : Nat → Env → List Node → EvalM (List Value)
  | 0, _, _ => halt "expression is too deeply nested"
  | _, _, [] => pure []
  | fuel + 1, env, n :: ns => do
    let v ← eval fuel env n
    let rest ← evalAll fuel env ns
    pure (v :: rest)

/-- Evaluates the pairs of a map literal; keys must be strings, a later key replacing an earlier
one. -/
def evalPairs : Nat → Env → List (Node × Node) → EvalM (List (Bytes × Value))
  | 0, _, _ => halt "expression is too deeply nested"
  | _, _, [] => pure []
  | fuel + 1, env, (k, v) :: ps => do
    let kv ← eval fuel env k
    let vv ← eval fuel env v
    let rest ← evalPairs fuel env ps
    match kv with
    | .str key => pure ((key, vv) :: rest.filter (·.1 != key))
    | _ => halt "map keys must be strings"

/-- Evaluates a call of a built-in function. -/
def evalBuiltin : Nat → Env → String → List Node → EvalM Value
  | 0, _, _, _ => halt "expression is too deeply nested"
  | fuel + 1, env, name, args => do
    let withPredicate (xs : Node) (p : Node) : EvalM (List Value × List Value) := do
      let items ← match ← eval fuel env xs with
        | .list _ items => pure items
        | .nil => pure []
        | _ => halt ("builtin " ++ name ++ " takes only array")
      let body := match p with
        | .predicate b _ => b
        | other => other
      let results ← predicateResults (fun v i =>
        eval fuel { env with elements := (v, i) :: env.elements } body) items
      pure (items, results)
    match name, args with
    | "all", [xs, p] => do
      let (_, rs) ← withPredicate xs p
      let bs ← rs.mapM asBool
      pure (.bool (bs.all id))
    | "any", [xs, p] => do
      let (_, rs) ← withPredicate xs p
      let bs ← rs.mapM asBool
      pure (.bool (bs.any id))
    | "none", [xs, p] => do
      let (_, rs) ← withPredicate xs p
      let bs ← rs.mapM asBool
      pure (.bool !(bs.any id))
    | "one", [xs, p] => do
      let (_, rs) ← withPredicate xs p
      let bs ← rs.mapM asBool
      pure (.bool ((bs.filter id).length == 1))
    | "filter", [xs, p] => do
      let (items, rs) ← withPredicate xs p
      let bs ← rs.mapM asBool
      pure (.list .unknown ((items.zip bs).filterMap fun (v, b) => if b then some v else none))
    | "map", [xs, p] => do
      let (_, rs) ← withPredicate xs p
      pure (.list .unknown rs)
    | "count", [xs, p] => do
      let (_, rs) ← withPredicate xs p
      let bs ← rs.mapM asBool
      pure (.int (bs.filter id).length)
    | "count", [xs] => do
      match ← eval fuel env xs with
      | .list _ items => do
        let bs ← items.mapM asBool
        pure (.int (bs.filter id).length)
      | _ => halt "count takes only array"
    | "sum", [xs] => do
      let items ← match ← eval fuel env xs with
        | .list _ items => pure items
        | _ => halt "builtin sum takes only array"
      items.foldlM (fun acc v => arithmetic "+" v acc) (Value.int 0)
    | "sum", [xs, p] => do
      let (_, rs) ← withPredicate xs p
      rs.foldlM (fun acc v => arithmetic "+" v acc) (Value.int 0)
    | "find", [xs, p] => do
      let (items, rs) ← withPredicate xs p
      let bs ← rs.mapM asBool
      pure (((items.zip bs).find? (·.2)).elim .nil (·.1))
    | "findLast", [xs, p] => do
      let (items, rs) ← withPredicate xs p
      let bs ← rs.mapM asBool
      pure (((items.zip bs).reverse.find? (·.2)).elim .nil (·.1))
    | "findIndex", [xs, p] => do
      let (_, rs) ← withPredicate xs p
      let bs ← rs.mapM asBool
      pure (.int ((bs.findIdx? id).elim (-1) (fun i => (i : Int))))
    | "findLastIndex", [xs, p] => do
      let (_, rs) ← withPredicate xs p
      let bs ← rs.mapM asBool
      pure (.int ((bs.reverse.findIdx? id).elim (-1) (fun i => ((bs.length - 1 - i : Nat) : Int))))
    | _, _ => do
      let vs ← evalAll fuel env args
      applyBuiltin name vs

end

/-- Whether an expression accepts a request: only `false` and an error reject it. -/
def accepts (n : Node) (r : Request) : Bool :=
  match eval 8192 { request := r } n with
  | .ok (.bool b) => b
  | .ok _ => true
  | .error _ => false

end HttpMock.Expr
