import HttpMock.Bytes
/-! Keyed tables: association lists with unique raw-text keys. -/
namespace HttpMock

/-- A table from raw-text keys to values, each key at most once. -/
abbrev Table (α : Type) := List (Bytes × α)

namespace Table

variable {α : Type}

/-- The value stored under `k`. -/
def get? (t : Table α) (k : Bytes) : Option α := (t.find? (·.1 == k)).map (·.2)

/-- Whether `k` has a value. -/
def contains (t : Table α) (k : Bytes) : Bool := t.any (·.1 == k)

/-- Stores `v` under `k`, replacing the value in place if `k` is present. -/
def insert (t : Table α) (k : Bytes) (v : α) : Table α :=
  if t.contains k then t.map fun (k', v') => if k' == k then (k', v) else (k', v')
  else t ++ [(k, v)]

/-- The entries sorted by key, bytewise. -/
def sorted (t : Table α) : Table α := t.mergeSort fun a b => Bytes.le a.1 b.1

/-- The keys sorted bytewise. -/
def keys (t : Table α) : List Bytes := (sorted t).map (·.1)

/-- Inserts every entry of `u` into `t`, in order. -/
def insertAll (t u : Table α) : Table α := u.foldl (fun acc (k, v) => acc.insert k v) t

end Table

end HttpMock
