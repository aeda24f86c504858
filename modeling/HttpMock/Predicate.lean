import HttpMock.Error
import HttpMock.Expr.Parse
import HttpMock.Expr.Check
import HttpMock.Expr.Eval
/-! Request predicates written as expressions, compiled once and run against each request. -/
namespace HttpMock.Predicate

open HttpMock.Expr

/-- The message of an error in an expression, with its place: `message (line:column)`, the line
of the source and a marker under the column. An error on an empty line is the message alone. -/
def describeError (e : SourceError) (source : String) : String :=
  let cs := source.toList
  let before := cs.take e.pos
  let line := 1 + (before.filter (· = '\n')).length
  let lineHead := (before.reverse.takeWhile (· ≠ '\n')).reverse
  let column := lineHead.length
  let lineText := lineHead ++ ((cs.drop e.pos).takeWhile (· ≠ '\n'))
  if lineText.isEmpty then e.message
  else
    let shown := String.ofList (lineText.map fun c => if c = '\t' then ' ' else c)
    e.message ++ " (" ++ toString line ++ ":" ++ toString (column + 1) ++ ")" ++ "\n | " ++ shown ++
      "\n | " ++ String.ofList (List.replicate column '.') ++ "^"

/-- The syntax tree of an expression whose types check, or the first error. -/
def checked (text : String) : Except SourceError Node := do
  let n ← parse text
  let _ ← typeOf n
  pure n

/-- Compiles an expression over the request. -/
def compile (text : String) : Except MockError (Request → Bool) :=
  match checked text with
  | .ok n => pure (accepts n)
  | .error e =>
    throw (.fixture [.invalidFixture]
      ("invalid fixture: compile " ++ Text.quoteString text ++ ": " ++ describeError e text).toBytes)

end HttpMock.Predicate
