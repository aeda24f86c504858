/-! Matching two sequences of lines into blocks, edit operations and hunks. -/
namespace HttpMock.Diff

/-- A run of equal lines: `size` lines from `a` in the first sequence and `b` in the second. -/
structure Block where
  a : Nat
  b : Nat
  size : Nat
  deriving Repr, BEq, Inhabited

/-- The kind of an edit operation. -/
inductive Tag where
  | equal
  | replace
  | delete
  | insert
  deriving Repr, BEq, DecidableEq, Inhabited

/-- An edit operation: lines `i1 … i2` of the first sequence become lines `j1 … j2` of the
second. -/
structure OpCode where
  tag : Tag
  i1 : Nat
  i2 : Nat
  j1 : Nat
  j2 : Nat
  deriving Repr, BEq, Inhabited

/-- Two sequences to match, with the lines of the second that are too common to start a run. -/
structure Matcher where
  a : Array String
  b : Array String
  popular : Array Bool

/-- Prepares matching: finds the popular lines of the second sequence. -/
def Matcher.new (a b : Array String) : Matcher :=
  let n := b.size
  let popular :=
    if n ≥ 200 then
      let limit := n / 100 + 1
      b.map fun s => decide ((b.filter (· == s)).size > limit)
    else Array.replicate n false
  ⟨a, b, popular⟩

namespace Matcher

/-- The longest run of equal lines within `a[alo:ahi]` and `b[blo:bhi]` that starts with a line
that is not popular, the first such in the first sequence, then extended over equal lines on both
sides. -/
def longest (m : Matcher) (alo ahi blo bhi : Nat) : Block := Id.run do
  let mut besti := alo
  let mut bestj := blo
  let mut best := 0
  -- prev[j + 1] is the length of the run ending at the previous line of `a` and at `b[j]`
  let mut prev : Array Nat := Array.replicate (m.b.size + 1) 0
  for i in [alo:ahi] do
    let mut cur : Array Nat := Array.replicate (m.b.size + 1) 0
    for j in [blo:bhi] do
      if m.a[i]! == m.b[j]! && !m.popular[j]! then
        let k := prev[j]! + 1
        cur := cur.set! (j + 1) k
        if k > best then
          besti := i + 1 - k
          bestj := j + 1 - k
          best := k
    prev := cur
  -- extend over equal lines before and after
  let mut fuel := m.a.size + m.b.size
  while fuel > 0 && besti > alo && bestj > blo && m.a[besti - 1]! == m.b[bestj - 1]! do
    besti := besti - 1
    bestj := bestj - 1
    best := best + 1
    fuel := fuel - 1
  fuel := m.a.size + m.b.size
  while fuel > 0 && besti + best < ahi && bestj + best < bhi &&
      m.a[besti + best]! == m.b[bestj + best]! do
    best := best + 1
    fuel := fuel - 1
  return ⟨besti, bestj, best⟩

/-- Matching blocks within the given ranges, in order. -/
def blocksIn (m : Matcher) : Nat → Nat → Nat → Nat → Nat → List Block
  | 0, _, _, _, _ => []
  | fuel + 1, alo, ahi, blo, bhi =>
    let x := m.longest alo ahi blo bhi
    if x.size = 0 then []
    else
      let before := if alo < x.a && blo < x.b then m.blocksIn fuel alo x.a blo x.b else []
      let after :=
        if x.a + x.size < ahi && x.b + x.size < bhi then
          m.blocksIn fuel (x.a + x.size) ahi (x.b + x.size) bhi
        else []
      before ++ [x] ++ after

/-- Joins adjacent blocks. -/
def joinAdjacent : List Block → List Block
  | x :: y :: rest =>
    if x.a + x.size = y.a && x.b + x.size = y.b then joinAdjacent (⟨x.a, x.b, x.size + y.size⟩ :: rest)
    else x :: joinAdjacent (y :: rest)
  | xs => xs
termination_by xs => xs.length

/-- The matching blocks of the two sequences, ending with an empty block at their ends. -/
def blocks (m : Matcher) : List Block :=
  joinAdjacent (m.blocksIn (m.a.size + m.b.size + 1) 0 m.a.size 0 m.b.size) ++
    [⟨m.a.size, m.b.size, 0⟩]

/-- The edit operations that turn the first sequence into the second. -/
def opCodes (m : Matcher) : List OpCode :=
  let step (acc : List OpCode × Nat × Nat) (x : Block) : List OpCode × Nat × Nat :=
    let (ops, i, j) := acc
    let tag : Option Tag :=
      if i < x.a && j < x.b then some .replace
      else if i < x.a then some .delete
      else if j < x.b then some .insert
      else none
    let ops := match tag with
      | some t => ⟨t, i, x.a, j, x.b⟩ :: ops
      | none => ops
    let ops := if x.size > 0 then ⟨.equal, x.a, x.a + x.size, x.b, x.b + x.size⟩ :: ops else ops
    (ops, x.a + x.size, x.b + x.size)
  (m.blocks.foldl step ([], 0, 0)).1.reverse

end Matcher

/-- Edit operations grouped into hunks with `n` lines of context; unchanged stretches longer
than `2n` lines separate hunks, and a hunk with no change is dropped. -/
def groupOpCodes (codes : List OpCode) (n : Nat) : List (List OpCode) :=
  let codes : List OpCode := if codes.isEmpty then [⟨.equal, 0, 1, 0, 1⟩] else codes
  let codes : List OpCode := match codes with
    | c :: rest =>
      if c.tag == Tag.equal then ⟨c.tag, max c.i1 (c.i2 - n), c.i2, max c.j1 (c.j2 - n), c.j2⟩ :: rest
      else c :: rest
    | [] => []
  let codes : List OpCode := match codes.getLast? with
    | some c =>
      if c.tag == Tag.equal then
        codes.dropLast ++ [⟨c.tag, c.i1, min c.i2 (c.i1 + n), c.j1, min c.j2 (c.j1 + n)⟩]
      else codes
    | none => codes
  let step (acc : List (List OpCode) × List OpCode) (c : OpCode) : List (List OpCode) × List OpCode :=
    let (groups, group) := acc
    if c.tag == Tag.equal && c.i2 - c.i1 > 2 * n then
      let closing : OpCode := ⟨c.tag, c.i1, min c.i2 (c.i1 + n), c.j1, min c.j2 (c.j1 + n)⟩
      let groups := (closing :: group).reverse :: groups
      ((groups, [⟨c.tag, max c.i1 (c.i2 - n), c.i2, max c.j1 (c.j2 - n), c.j2⟩]))
    else (groups, c :: group)
  let (groups, group) := codes.foldl step ([], [])
  let last := group.reverse
  let groups := match last with
    | [] => groups
    | [c] => if c.tag == Tag.equal then groups else last :: groups
    | _ => last :: groups
  groups.reverse

end HttpMock.Diff
