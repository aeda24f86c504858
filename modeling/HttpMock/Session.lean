import HttpMock.Collection
/-! A test session: a collection, the expectations the test holds, and what a harness reports. -/
namespace HttpMock

/-- Work a test leaves for its end. -/
inductive Cleanup where
  | reset
  | reportFailures
  deriving DecidableEq, Repr

/-- A test session. -/
structure Session where
  collection : Collection := {}
  resolver : Resolver := ScoreResolver.resolve
  /-- Whether a test harness runs the session. -/
  harnessed : Bool := false
  /-- The expectations the test made with a request line, by id, in order. -/
  held : List Nat := []
  /-- Expectations a reset took out of the collection. -/
  detached : List Expectation := []
  nextId : Nat := 0
  fatals : List Bytes := []
  testErrors : List Bytes := []
  /-- Cleanups, in the order they were registered. -/
  cleanups : List Cleanup := []

namespace Session

/-- A session, under the harness or not. -/
def start (harnessed : Bool) (resolver : Resolver := ScoreResolver.resolve) : Session :=
  { harnessed, resolver, cleanups := if harnessed then [.reset] else [] }

/-- A fresh expectation with the next id. -/
def fresh (s : Session) (watched : Bool := false) : Expectation × Session :=
  ({ id := s.nextId, watched }, { s with nextId := s.nextId + 1 })

/-- The expectation with an id, wherever the session keeps it. -/
def byId (s : Session) (id : Nat) : Option Expectation :=
  (s.collection.expectations.find? (·.id == id)).orElse fun _ => s.detached.find? (·.id == id)

/-- The expectation a test means by an index: a position in the collection, else the order in
which the test made its expectations. -/
def locate (s : Session) (index : Int) : Option Expectation :=
  if 0 ≤ index && index < s.collection.expectations.length then s.collection.expectations[index.toNat]?
  else if 0 ≤ index then (s.held[index.toNat]?).bind s.byId
  else none

/-- Reports the configuration errors an expectation ran into beyond the first `before`, if the
harness watches it. -/
def reportProblems (s : Session) (before : Nat) (e : Expectation) : Session :=
  if e.watched then { s with fatals := s.fatals ++ (e.problems.drop before).map MockError.message }
  else s

/-- Changes the expectation with an id, wherever the session keeps it. -/
def modify (s : Session) (id : Nat) (f : Expectation → Expectation) : Session :=
  let es := s.collection.expectations
  if es.any (·.id == id) then
    let updated := es.map fun e => if e.id == id then f e else e
    let s' := { s with collection := { s.collection with expectations := updated } }
    match es.find? (·.id == id) with
    | some e => s'.reportProblems e.problems.length (f e)
    | none => s'
  else
    let s' := { s with detached := s.detached.map fun e => if e.id == id then f e else e }
    match s.detached.find? (·.id == id) with
    | some e => s'.reportProblems e.problems.length (f e)
    | none => s'

/-- Applies configuration steps to the expectation with an id, until a step fails. -/
def configure (s : Session) (id : Nat) :
    List (Except MockError (Expectation → Expectation)) → Except MockError Session × Session
  | [] => (.ok s, s)
  | .error x :: _ => (.error x, s)
  | .ok f :: rest => configure (s.modify id f) id rest

/-- Makes an expectation for a request line and registers it. -/
def expect (s : Session) (method uri : Bytes) : Nat × Session :=
  let (e, s) := s.fresh
  let e := e.forRequestLine method uri
  (e.id, { s with collection := s.collection.push e, held := s.held ++ [e.id] })

/-- Makes an expectation for a request line through the harness and registers it; one that
cannot be registered is reported as fatal. -/
def request (s : Session) (method uri : Bytes) : Nat × Session :=
  let (e, s) := s.fresh true
  let e := e.forRequestLine method uri
  let s := s.reportProblems 0 e
  let s := { s with held := s.held ++ [e.id] }
  match s.collection.add e with
  | .ok c => (e.id, { s with collection := c })
  | .error x => (e.id, { s with fatals := s.fatals ++ [x.message], detached := s.detached ++ [e] })

/-- Registers a configured expectation; an invalid one is refused. -/
def add (s : Session) (e : Expectation) : Except MockError Session :=
  match s.collection.add e with
  | .ok c => pure { s with collection := c }
  | .error x => throw x

/-- Takes over a collection grown from the session's own: the expectations added to it get the
next ids. -/
def adopt (s : Session) (c : Collection) : Session :=
  let kept := s.collection.expectations.length
  let added := (c.expectations.drop kept).zipIdx.map fun (p : Expectation × Nat) =>
    ({ p.1 with id := s.nextId + p.2 } : Expectation)
  let all := c.expectations.take kept ++ added
  { s with collection := { c with expectations := all }, nextId := s.nextId + added.length }

/-- Forgets every expectation and failure of the collection; the test still holds its
expectations. -/
def reset (s : Session) : Session :=
  { s with detached := s.detached ++ s.collection.expectations, collection := s.collection.reset }

/-- Asks to have every failure reported as a test error when the test ends. -/
def failOnUnmatched (s : Session) : Session := { s with cleanups := s.cleanups ++ [.reportFailures] }

/-- Runs one cleanup. -/
def runCleanup (s : Session) : Cleanup → Session
  | .reset => s.reset
  | .reportFailures => { s with testErrors := s.testErrors ++ s.collection.failures.map MockError.message }

/-- Runs the pending cleanups, the last registered first. -/
def cleanup (s : Session) : Session :=
  s.cleanups.reverse.foldl runCleanup { s with cleanups := [] }

/-- Answers a request that a transport hands to the collection. -/
def deliver (s : Session)
    (send : Collection → Resolver → Except MockError Response × Collection × Trace) :
    Except MockError Response × Session × Trace :=
  let (answer, c, trace) := send s.collection s.resolver
  (answer, { s with collection := c }, trace)

/-- Normalizes and answers a request. -/
def perform (s : Session) (method url : Bytes) (o : Options) :
    Except MockError Response × Session × Trace :=
  s.deliver fun c r => c.perform r method url o

end Session

end HttpMock
