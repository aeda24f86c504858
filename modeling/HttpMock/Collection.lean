import HttpMock.Expectation.Config
import HttpMock.Log.Record
/-! Collections of expectations, how a request is answered, and the failures they keep. -/
namespace HttpMock

/-- What a match hook is told: its label, the request, the calls so far and whether a reply is
left. -/
structure MatchNotice where
  label : String
  request : Bytes
  calls : Nat
  hasNextResponse : Bool

/-- The records a request rendering adds to a log record: method and URI. -/
def requestLine (r : Request) : List (String × Log.Value) :=
  [("method", .text r.method), ("uri", .text r.uri)]

/-- A resolver: given the registered expectations and a request, the position of the expectation
that answers, none, or an error, with the log records it wrote. -/
abbrev Resolver := List Expectation → Request → Except MockError (Option Nat) × List Log.Record

namespace ScoreResolver

/-- The log record of a chosen expectation. -/
def resolved (r : Request) (e : Expectation) (score : Nat) : Log.Record :=
  { message := "resolved expectation",
    attrs := [("name", .text e.name.toBytes), ("score", .int score)] ++ requestLine r }

/-- The result with the most hits; the earliest of equals. -/
def closest : List Match.Result → Option Match.Result
  | [] => none
  | r :: rest => some (rest.foldl (fun best x => if x.hits > best.hits then x else best) r)

/-- The log record of a request that no expectation accepted. -/
def unmatched (r : Request) (missed : List Match.Result) : Log.Record :=
  let c := closest missed
  { message := "no matching expectation",
    attrs := requestLine r ++ [("candidates", .int missed.length),
      ("closest", .text ((c.map (·.name)).getD "").toBytes),
      ("reason", Log.clipped ((c.map Match.Result.reason).getD []))] }

/-- The expectations with a positive score, best score first, in order among equals. -/
def ranked (es : List Expectation) (r : Request) : List (Nat × Nat) :=
  let scored := es.zipIdx.filterMap fun (e, i) =>
    let s := (e.result r).score
    if s > 0 then some (s, i) else none
  scored.mergeSort fun a b => a.1 ≥ b.1

/-- Resolves by score. -/
def resolve : Resolver := fun es r =>
  if es.isEmpty then
    (.error (.noExpectations r.render),
     [{ message := "no matching expectation",
        attrs := [("reason", .text "collection is empty".toBytes), ("request", Log.clipped r.render)] }])
  else
    match ranked es r with
    | [] =>
      let missed := es.map (·.result r)
      (.error (.noMatch r.render missed), [unmatched r missed])
    | best :: rest =>
      let (score, i) := ((best :: rest).find? fun (_, i) =>
        (es[i]?.map Expectation.hasNextResponse).getD false).getD best
      (.ok (some i), (es[i]?.map fun e => resolved r e score).toList)

end ScoreResolver

/-- A collection of expectations. -/
structure Collection where
  expectations : List Expectation := []
  /-- Errors the engine caused, in order. -/
  failures : List MockError := []
  /-- How many calls were recorded; the next call gets the next number. -/
  clock : Nat := 0
  deriving Inhabited

/-- What answering a request did besides its result: log records and match notices. -/
structure Trace where
  log : List Log.Record := []
  notices : List MatchNotice := []

namespace Collection

/-- Registers an expectation; an invalid one is refused. -/
def add (c : Collection) (e : Expectation) : Except MockError Collection :=
  match e.invalidity with
  | some x => throw x
  | none => pure { c with expectations := c.expectations ++ [e] }

/-- Registers an expectation whatever its state. -/
def push (c : Collection) (e : Expectation) : Collection :=
  { c with expectations := c.expectations ++ [e] }

/-- Forgets every expectation and failure. -/
def reset (c : Collection) : Collection := { c with expectations := [], failures := [] }

/-- Keeps an error as a failure if the engine caused it. -/
def fail (c : Collection) (x : MockError) : Collection :=
  if x.isEngine then { c with failures := c.failures ++ [x] } else c

/-- Replaces the expectation at a position. -/
def update (c : Collection) (i : Nat) (e : Expectation) : Collection :=
  { c with expectations := c.expectations.set i e }

/-- Records a call directly on the expectation at a position, numbered after every call before
it; a position outside the collection records nothing. -/
def called (c : Collection) (i : Nat) (r : Request) : Collection :=
  match c.expectations[i]? with
  | some e => { c.update i (e.record (c.clock + 1) r) with clock := c.clock + 1 }
  | none => c

/-- Every recorded call, in the order they happened, with the position of the expectation that
answered. -/
def callStack (c : Collection) : List (Nat × Call) :=
  let all := c.expectations.zipIdx.flatMap fun (e, i) => e.calls.map fun call => (i, call)
  all.mergeSort fun a b => a.2.seq ≤ b.2.seq

/-- Answers a normalized request. -/
def handle (c : Collection) (resolver : Resolver) (r : Request) :
    Except MockError Response × Collection × Trace :=
  match c.expectations.findSome? fun e => e.invalidity.map fun x => MockError.forExpectation x e.render with
  | some x => (.error x, c.fail x, {})
  | none =>
    let (choice, log) := resolver c.expectations r
    match choice with
    | .error x => (.error x, c.fail x, { log })
    | .ok none =>
      let x := MockError.unresolved r.render
      (.error x, c.fail x, { log })
    | .ok (some i) =>
      match c.expectations[i]? with
      | none =>
        let x := MockError.unresolved r.render
        (.error x, c.fail x, { log })
      | some e =>
        match e.check r with
        | some (m, w) => (.error (.raised m w), c, { log })
        | none =>
          let seq := c.clock + 1
          let e := e.record seq r
          let notices := match e.onMatch with
            | some label => [{ label, request := r.render, calls := e.calls.length,
                               hasNextResponse := e.hasNextResponse : MatchNotice }]
            | none => []
          let (answer, e) := e.respond r
          let c := { c.update i e with clock := seq }
          match answer with
          | .ok resp => (.ok resp, c, { log, notices })
          | .error x =>
            if x.isEngine then
              let msg := if x.isKind .callbackNoResponse then "response callback returned no response"
                else "expectation exhausted"
              let note : Log.Record :=
                { message := msg, attrs := [("name", .text e.name.toBytes)] ++ requestLine r }
              (.error x, c.fail x, { log := log ++ [note], notices })
            else (.error x, c, { log, notices })

/-- Normalizes a request and answers it; a request that cannot be normalized is a failure. -/
def perform (c : Collection) (resolver : Resolver) (method url : Bytes) (o : Options) :
    Except MockError Response × Collection × Trace :=
  match Request.normalize method url o with
  | .error x => (.error (.request x), c.fail (.request x), {})
  | .ok r => c.handle resolver r

end Collection

end HttpMock
