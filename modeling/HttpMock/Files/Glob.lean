import HttpMock.Files.Tree
/-! Path patterns with `**`, classes and alternatives, matched component by component. -/
namespace HttpMock.Files.Glob

/-- The rest of a pattern after the class that begins it (just after `[`), if the class is
closed and not empty. -/
def classEnd (cs : List Char) : Option (List Char) :=
  let cs := match cs with
    | '^' :: rest | '!' :: rest => rest
    | _ => cs
  let rec close : List Char → Option (List Char)
    | [] => none
    | '\\' :: [] => none
    | '\\' :: _ :: rest => close rest
    | ']' :: rest => some rest
    | _ :: rest => close rest
  match cs with
  | [] | ']' :: _ => none
  | _ => close cs

/-- Whether a pattern is well formed, with `depth` braces open. -/
def wellFormed : List Char → Nat → Bool
  | [], depth => depth = 0
  | '\\' :: [], _ => false
  | '\\' :: _ :: rest, depth => wellFormed rest depth
  | '[' :: rest, depth =>
    match classEnd rest with
    | some after => if _h : after.length < rest.length then wellFormed after depth else false
    | none => false
  | '{' :: rest, depth => wellFormed rest (depth + 1)
  | '}' :: rest, depth => if depth = 0 then false else wellFormed rest (depth - 1)
  | _ :: rest, depth => wellFormed rest depth
termination_by cs => cs.length

/-- Whether a pattern is well formed. -/
def valid (pattern : String) : Bool := wellFormed pattern.toList 0

/-- The pattern up to the brace that closes the one just opened, and the rest after it; braces
in between nest, and a backslash keeps the next character from counting. -/
def closingBrace : List Char → Nat → List Char → Option (List Char × List Char)
  | [], _, _ => none
  | '\\' :: c :: rest, depth, acc => closingBrace rest depth (c :: '\\' :: acc)
  | '{' :: rest, depth, acc => closingBrace rest (depth + 1) ('{' :: acc)
  | '}' :: rest, depth, acc =>
    if depth = 0 then some (acc.reverse, rest) else closingBrace rest (depth - 1) ('}' :: acc)
  | c :: rest, depth, acc => closingBrace rest depth (c :: acc)

/-- The alternatives between braces: the text split at the commas outside nested braces. -/
def alternatives : List Char → Nat → List Char → List (List Char)
  | [], _, acc => [acc.reverse]
  | '\\' :: c :: rest, depth, acc => alternatives rest depth (c :: '\\' :: acc)
  | '{' :: rest, depth, acc => alternatives rest (depth + 1) ('{' :: acc)
  | '}' :: rest, depth, acc => alternatives rest (depth - 1) ('}' :: acc)
  | ',' :: rest, depth, acc =>
    if depth = 0 then acc.reverse :: alternatives rest depth [] else alternatives rest depth (',' :: acc)
  | c :: rest, depth, acc => alternatives rest depth (c :: acc)

/-- The first brace of a pattern that opens alternatives: the text before it and the text after
it. Braces inside a class or after a backslash do not count. -/
def firstBrace : List Char → List Char → Option (List Char × List Char)
  | [], _ => none
  | '\\' :: c :: rest, acc => firstBrace rest (c :: '\\' :: acc)
  | '[' :: rest, acc =>
    match classEnd rest with
    | some after =>
      if _h : after.length < rest.length then
        firstBrace after ((rest.take (rest.length - after.length)).reverse ++ '[' :: acc)
      else none
    | none => none
  | '{' :: rest, acc => some (acc.reverse, rest)
  | c :: rest, acc => firstBrace rest (c :: acc)
termination_by cs => cs.length

/-- The patterns that the alternatives of a pattern spell out, in order. -/
def expand : Nat → List Char → List (List Char)
  | 0, p => [p]
  | fuel + 1, p =>
    match firstBrace p [] with
    | none => [p]
    | some (before, after) =>
      match closingBrace after 0 [] with
      | none => [p]
      | some (inside, rest) =>
        (alternatives inside 0 []).flatMap fun alt => expand fuel (before ++ alt ++ rest)

/-- One character of a class, after a backslash if there is one, and the rest. -/
def classChar : List Char → Option (Char × List Char)
  | '\\' :: c :: rest => some (c, rest)
  | c :: rest => some (c, rest)
  | [] => none

/-- The ranges of a class (read from just after `[` and its negation) and the rest of the
pattern after `]`. A character followed by `-` and a character that is not `]` makes a range;
any other character stands for itself. -/
def classItems : Nat → List Char → List (Char × Char) → Option (List (Char × Char) × List Char)
  | 0, _, _ => none
  | _ + 1, [], _ => none
  | _ + 1, ']' :: rest, acc => some (acc.reverse, rest)
  | fuel + 1, cs, acc =>
    match classChar cs with
    | none => none
    | some (c, rest) =>
      match rest with
      | '-' :: ']' :: _ => classItems fuel rest ((c, c) :: acc)
      | '-' :: more =>
        match classChar more with
        | some (d, after) => classItems fuel after ((c, d) :: acc)
        | none => classItems fuel rest ((c, c) :: acc)
      | _ => classItems fuel rest ((c, c) :: acc)

/-- Whether one path component matches one component of a pattern. -/
def matchName : List Char → List Char → Bool
  | [], name => name.isEmpty
  | '*' :: p, name => (List.range (name.length + 1)).any fun k => matchName p (name.drop k)
  | '?' :: p, name =>
    match name with
    | _ :: more => matchName p more
    | [] => false
  | '[' :: p, name =>
    let (negated, body) := match p with
      | '^' :: rest | '!' :: rest => (true, rest)
      | _ => (false, p)
    match name, classItems (body.length + 1) body [] with
    | c :: more, some (ranges, after) =>
      if _h : after.length < p.length + 1 then
        let inside := ranges.any fun (lo, hi) => lo ≤ c && c ≤ hi
        (inside != negated) && matchName after more
      else false
    | _, _ => false
  | '\\' :: x :: p, name =>
    match name with
    | c :: more => c = x && matchName p more
    | [] => false
  | x :: p, name =>
    match name with
    | c :: more => c = x && matchName p more
    | [] => false
termination_by p => p.length

/-- Whether the components of a path match the components of a pattern. -/
def matchParts : List (List Char) → List (List Char) → Bool
  | [], names => names.isEmpty
  | part :: parts, names =>
    if part = ['*', '*'] then
      (List.range (names.length + 1)).any fun k => matchParts parts (names.drop k)
    else
      match names with
      | n :: more => matchName part n && matchParts parts more
      | [] => false

/-- Whether a slash-separated path matches a well-formed pattern. -/
def accepts (pattern path : String) : Bool :=
  let parts (cs : List Char) := (cs.splitOn '/')
  let names := parts path.toList
  (expand (pattern.length + 1) pattern.toList).any fun p => matchParts (parts p) names

end HttpMock.Files.Glob
