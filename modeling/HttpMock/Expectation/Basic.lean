import HttpMock.Error
import HttpMock.Request.Render
/-! Expectations: the matchers, assertions, replies and calls of one expected request. -/
namespace HttpMock

/-- What an expectation hands out when it answers: a response built from a builder, or an
error with its message and the error it wraps, if any. -/
inductive Reply where
  | respond (b : Response.Builder)
  | raise (message : Bytes) (wraps : Option MockError)
  deriving Inhabited

/-- A check of a chosen request; it gives its objection, if it has one: a message and the error
it wraps, if any. -/
abbrev Assertion := Request → Option (Bytes × Option MockError)

/-- A request an expectation answered, with its place among all calls. -/
structure Call where
  seq : Nat
  request : Request
  deriving Inhabited

/-- An expectation. -/
structure Expectation where
  /-- How the test that holds the expectation refers to it. -/
  id : Nat := 0
  name : String := ""
  /-- Matchers by category, each category keyed, in the order first set. -/
  matchers : List (Match.Category × Table Match.Matcher) := []
  uriParams : Match.UriParams := []
  assertions : List Assertion := []
  /-- The label of the hook told of each match, if one is set. -/
  onMatch : Option String := none
  /-- Every configuration error, in order. -/
  problems : List MockError := []
  /-- Whether a test harness watches the expectation: it also reports configuration errors. -/
  watched : Bool := false
  replies : Response.Queue Reply := {}
  calls : List Call := []
  deriving Inhabited

namespace Expectation

/-- The first configuration error, which makes the expectation invalid. -/
def err (e : Expectation) : Option MockError := e.problems.head?

/-- Records a configuration error. -/
def fail (e : Expectation) (x : MockError) : Expectation := { e with problems := e.problems ++ [x] }

/-- Sets the matcher of a category and key. -/
def setMatcher (e : Expectation) (c : Match.Category) (key : Bytes) (m : Match.Matcher) :
    Expectation :=
  if e.matchers.any (·.1 == c) then
    { e with matchers := e.matchers.map fun (c', t) => if c' == c then (c', t.insert key m) else (c', t) }
  else { e with matchers := e.matchers ++ [(c, [(key, m)])] }

/-- Whether no matcher was set. -/
def isEmpty (e : Expectation) : Bool := e.matchers.isEmpty

/-- The matchers in evaluation order; a catch-all when there are none. -/
def matcherList (e : Expectation) : List Match.Matcher :=
  match e.matchers.flatMap fun (_, t) => t.map (·.2) with
  | [] => [.catchAll]
  | ms => ms

/-- The result of matching a request. -/
def result (e : Expectation) (r : Request) : Match.Result :=
  Match.run e.name e.uriParams e.matcherList r

/-- The descriptions of the matchers of one category. -/
def rendered (e : Expectation) (c : Match.Category) : List Bytes :=
  match e.matchers.find? (·.1 == c) with
  | some (_, t) => t.map fun (_, m) => m.describe e.uriParams
  | none => []

/-- The one-line description of an expectation. -/
def render (e : Expectation) : Bytes :=
  let fixed := [Match.Category.method, .uri, .header, .queryParam, .requestParam, .multipart,
    .jsonPath].flatMap e.rendered
  let body := ([Match.Category.json, .xml, .content].map e.rendered).find? (!·.isEmpty)
  Text.trim ((" && ".toBytes).intercalate (fixed ++ body.getD []))

/-- Whether some reply was added. -/
def hasResponse (e : Expectation) : Bool := !e.replies.isEmpty

/-- Whether a reply is left to hand out. -/
def hasNextResponse (e : Expectation) : Bool := e.replies.hasNext

/-- Hands out the next reply. -/
def nextReply (e : Expectation) : Except MockError (Reply × Expectation) :=
  match e.replies.next with
  | .ok (x, q) => pure (x, { e with replies := q })
  | .error q => throw (.noResponse (.queue q) e.render)

/-- Answers a chosen request: the next reply, built for the request. -/
def respond (e : Expectation) (r : Request) : Except MockError Response × Expectation :=
  match e.nextReply with
  | .error x => (.error x, e)
  | .ok (.raise m w, e') => (.error (.raised m w), e')
  | .ok (.respond b, e') =>
    match b.build r with
    | .ok resp => (.ok resp, e')
    | .error .callbackNoResponse => (.error (.noResponse (.build .callbackNoResponse) e'.render), e')
    | .error x => (.error (.build x), e')

/-- The first objection of the assertions to a request. -/
def check (e : Expectation) (r : Request) : Option (Bytes × Option MockError) :=
  e.assertions.findSome? (· r)

/-- Records a call. -/
def record (e : Expectation) (seq : Nat) (r : Request) : Expectation :=
  { e with calls := e.calls ++ [{ seq, request := r }] }

/-- Why the expectation cannot be used, as an invalid-expectation error. -/
def invalidity (e : Expectation) : Option MockError := e.err.map MockError.asInvalid

end Expectation

end HttpMock
