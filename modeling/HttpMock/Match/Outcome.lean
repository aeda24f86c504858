import HttpMock.Bytes
/-! Outcomes of matching one expectation against a request, and their scores. -/
namespace HttpMock.Match

/-- What a matcher compares. -/
inductive Category where
  | catchAll
  | method
  | uri
  | header
  | queryParam
  | requestParam
  | multipart
  | content
  | json
  | xml
  | that
  | jsonPath
  deriving DecidableEq, Repr, Inhabited

namespace Category

/-- The name of a category, as reports show it. -/
def name : Category → String
  | .catchAll => "catchAll"
  | .method => "method"
  | .uri => "uri"
  | .header => "header"
  | .queryParam => "queryParam"
  | .requestParam => "requestParam"
  | .multipart => "multipart"
  | .content => "content"
  | .json => "json"
  | .xml => "xml"
  | .that => "that"
  | .jsonPath => "jsonPath"

/-- What a hit of the category is worth: the request line weighs most, a catch-all least. -/
def weight : Category → Nat
  | .catchAll => 1
  | .method => 10
  | .uri => 20
  | _ => 5

end Category

/-- How a matcher judged the request. -/
inductive Verdict where
  | hit
  | mismatch
  /-- The request lacks the value the matcher looks for. -/
  | missing
  deriving DecidableEq, Repr, Inhabited

/-- The name of a verdict. -/
def Verdict.name : Verdict → String
  | .hit => "hit"
  | .mismatch => "mismatch"
  | .missing => "missing"

/-- What one matcher found. `expected` is empty for a hit; `actual` is `none` where the request
has no value to show. -/
structure Outcome where
  verdict : Verdict
  category : Category
  key : Bytes := []
  expected : Bytes := []
  actual : Option Bytes := none
  /-- A line diff of expected and actual JSON documents, for a JSON mismatch. -/
  diff : String := ""
  deriving Inhabited

namespace Outcome

/-- A hit, with the value it saw. -/
def hit (c : Category) (key actual : Bytes) : Outcome :=
  { verdict := .hit, category := c, key, actual := some actual }

/-- A mismatch of an expected value and what the request holds. -/
def mismatch (c : Category) (key expected : Bytes) (actual : Option Bytes) : Outcome :=
  { verdict := .mismatch, category := c, key, expected, actual }

/-- A value the matcher looks for and the request lacks. -/
def missing (c : Category) (key expected : Bytes) : Outcome :=
  { verdict := .missing, category := c, key, expected }

/-- Whether the matcher accepted the request. -/
def isHit (o : Outcome) : Bool := o.verdict == .hit

/-- Whether the matcher rejected the request. -/
def isFailure (o : Outcome) : Bool := !o.isHit

/-- The score of an outcome: the category's weight for a hit, nothing for a failure. -/
def score (o : Outcome) : Nat := if o.isHit then o.category.weight else 0

/-- The actual value as text; `NULL` where there is none. -/
def actualText (o : Outcome) : Bytes := o.actual.getD "NULL".toBytes

end Outcome

/-- The outcomes of one expectation's matchers, in evaluation order. -/
structure Result where
  name : String
  outcomes : List Outcome := []
  deriving Inhabited

namespace Result

/-- Whether no matcher was evaluated. -/
def isEmpty (r : Result) : Bool := r.outcomes.isEmpty

/-- Whether some matcher rejected the request. -/
def isMismatch (r : Result) : Bool := r.outcomes.any Outcome.isFailure

/-- The score: zero if some matcher rejected the request, else the sum of the hits' weights. -/
def score (r : Result) : Nat :=
  if r.isMismatch then 0 else (r.outcomes.map Outcome.score).foldl (· + ·) 0

/-- How many matchers accepted the request. -/
def hits (r : Result) : Nat := r.outcomes.countP Outcome.isHit

end Result

end HttpMock.Match
