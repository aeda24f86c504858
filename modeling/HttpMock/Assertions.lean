import HttpMock.Session
/-! Assertions a test makes about the calls an expectation answered, and what they report. -/
namespace HttpMock

/-- An assertion about calls. Expectations are named by the index a test uses. -/
inductive CallCheck where
  | calledTimes (index n : Int)
  | allCalled
  /-- The JSON body of every call; a value that is not JSON fails at once. -/
  | calledWithJson (index : Int) (v : Option Payload)
  | calledWithContent (index : Int) (v : Bytes)
  | calledWithRequestParams (index : Int) (v : Table Bytes)
  | calledWithQueryParams (index : Int) (v : Table QueryValue)
  | calledWithQueryParam (index : Int) (k v : Bytes)
  /-- A part with a file name and, unless the size is negative, that many octets. -/
  | calledWithFile (index : Int) (k filename : Bytes) (size : Int)
  | calledWithHeaderSame (index : Int) (k v : Bytes)
  | calledWithHeaderContaining (index : Int) (k v : Bytes)
  | calledWithHeaderNotContaining (index : Int) (k v : Bytes)
  | calledWithoutHeader (index : Int) (k : Bytes)

/-- Whether two tables hold the same keys with equal values. -/
def sameTable {α : Type} [BEq α] (a b : Table α) : Bool :=
  a.length == b.length && a.all fun (k, v) => b.get? k == some v

/-- An outcome of one comparison: whether it held, and the failures it reported. -/
def verdict (ok : Bool) : Bool × Nat := (ok, if ok then 0 else 1)

/-- Runs a check on every call: one failure if there was none. -/
def eachCall (calls : List Call) (f : Request → Bool × Nat) : Bool × Nat :=
  if calls.isEmpty then (false, 1)
  else calls.foldl (fun (ok, n) c => let (o, m) := f c.request; (ok && o, n + m)) (true, 0)

namespace CallCheck

/-- The expectation a check names. -/
def index : CallCheck → Int
  | .calledTimes i _ | .calledWithJson i _ | .calledWithContent i _
  | .calledWithRequestParams i _ | .calledWithQueryParams i _ | .calledWithQueryParam i _ _
  | .calledWithFile i _ _ _ | .calledWithHeaderSame i _ _ | .calledWithHeaderContaining i _ _
  | .calledWithHeaderNotContaining i _ _ | .calledWithoutHeader i _ => i
  | .allCalled => 0

/-- Runs a check on the calls of an expectation. -/
def onCalls (calls : List Call) : CallCheck → Bool × Nat
  | .calledTimes _ n => verdict (calls.length == n)
  | .allCalled => verdict (!calls.isEmpty)
  | .calledWithJson _ v =>
    match (v.map Payload.normalize).getD (.ok none) with
    | .error _ => (false, 1)
    | .ok want => eachCall calls fun r =>
      verdict (match want, r.json with
        | none, none => true
        | some a, some b => Json.same a b
        | _, _ => false)
  | .calledWithContent _ v => eachCall calls fun r => verdict (r.contentText == v)
  | .calledWithRequestParams _ v => eachCall calls fun r => verdict (sameTable v r.requestParams)
  | .calledWithQueryParams _ v => eachCall calls fun r => verdict (sameTable v r.queryParams)
  | .calledWithQueryParam _ k v => eachCall calls fun r =>
    match r.queryParams.get? k with
    | none => (false, 1)
    | some a => verdict (a.text == v)
  | .calledWithFile _ k filename size => eachCall calls fun r =>
    match r.multiparts.get? k with
    | none => (false, 1)
    | some p =>
      if p.filename.getD [] != filename then (false, 1)
      else if size < 0 then (true, 0)
      else verdict ((p.content.getD []).length == size)
  | .calledWithHeaderSame _ k v => eachCall calls fun r => verdict (r.header? k == some v)
  | .calledWithHeaderContaining _ k v => eachCall calls fun r =>
    verdict (Bytes.hasInfix ((r.header? k).getD []) v)
  | .calledWithHeaderNotContaining _ k v => eachCall calls fun r =>
    verdict (!Bytes.hasInfix ((r.header? k).getD []) v)
  | .calledWithoutHeader _ k => eachCall calls fun r => verdict (r.header? k).isNone

end CallCheck

/-- Runs a check in a session: whether it held, and how many failures it reported. -/
def Session.check (s : Session) (c : CallCheck) : Bool × Nat :=
  match c with
  | .allCalled =>
    s.collection.expectations.foldl (fun (ok, n) e =>
      let (o, m) := CallCheck.allCalled.onCalls e.calls
      (ok && o, n + m)) (true, 0)
  | _ =>
    match s.locate c.index with
    | some e => c.onCalls e.calls
    | none => (false, 1)

end HttpMock
