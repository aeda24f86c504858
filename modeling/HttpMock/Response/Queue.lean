/-! Response queues: empty, one entry for every request, or a sequence handed out in order. -/
namespace HttpMock.Response

/-- Why a queue refuses an operation or has nothing to hand out. -/
inductive QueueError where
  /-- Nothing was ever added. -/
  | noResponseAdded
  /-- Every entry of the sequence was handed out. -/
  | allResponsesProcessed
  /-- The queue already answers every request with one entry. -/
  | alwaysAlreadyAdded
  /-- The queue already holds a sequence. -/
  | responseAlreadyAdded
  deriving DecidableEq, Repr

/-- The message of a queue error. -/
def QueueError.message : QueueError → String
  | .noResponseAdded => "no response configured"
  | .allResponsesProcessed => "all responses have already been processed"
  | .alwaysAlreadyAdded => "single response already added, add not possible"
  | .responseAlreadyAdded => "response already added, add always not possible"

/-- How a queue hands out entries. -/
inductive Mode where
  | empty
  | always
  | sequence
  deriving DecidableEq, Repr, Inhabited

/-- A response queue: its mode, the always-entry, the sequence and how much of it was handed
out. -/
structure Queue (α : Type) where
  mode : Mode := .empty
  always : Option α := none
  entries : List α := []
  cursor : Nat := 0
  deriving Inhabited

/-- The abstract state of a queue. -/
inductive Queue.State (α : Type) where
  | empty
  | always (e : α)
  /-- Entries handed out, and entries still to come. -/
  | seq (done pending : List α)

namespace Queue

variable {α : Type}

/-- The abstract state of a queue. -/
def view (q : Queue α) : State α :=
  match q.mode, q.always with
  | .always, some e => .always e
  | .sequence, _ => .seq (q.entries.take q.cursor) (q.entries.drop q.cursor)
  | _, _ => .empty

/-- Appends an entry to the sequence; refused by an always-queue. -/
def add (q : Queue α) (e : α) : Except QueueError (Queue α) :=
  if q.mode = .always then throw .alwaysAlreadyAdded
  else pure { q with mode := .sequence, entries := q.entries ++ [e] }

/-- Makes an empty queue an always-queue. -/
def addAlways (q : Queue α) (e : α) : Except QueueError (Queue α) :=
  match q.mode with
  | .always => throw .alwaysAlreadyAdded
  | .sequence => throw .responseAlreadyAdded
  | .empty => pure { q with mode := .always, always := some e }

/-- Hands out the next entry. -/
def next (q : Queue α) : Except QueueError (α × Queue α) :=
  match q.mode, q.always with
  | .always, some e => pure (e, q)
  | .sequence, _ =>
    match q.entries[q.cursor]? with
    | some e => pure (e, { q with cursor := q.cursor + 1 })
    | none => throw .allResponsesProcessed
  | _, _ => throw .noResponseAdded

/-- Whether `next` would hand out an entry. -/
def hasNext (q : Queue α) : Bool :=
  match q.mode with
  | .always => true
  | .sequence => q.cursor < q.entries.length
  | .empty => false

/-- Whether nothing was added since the queue was made or reset. -/
def isEmpty (q : Queue α) : Bool := q.mode = .empty

/-- Entries still to come; `-1` for an always-queue. -/
def remaining (q : Queue α) : Int :=
  match q.mode with
  | .always => -1
  | .sequence => (q.entries.length : Int) - q.cursor
  | .empty => 0

/-- The empty queue. -/
def reset (_ : Queue α) : Queue α := {}

end Queue

end HttpMock.Response
