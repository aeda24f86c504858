import HttpMock.Diff.Sequence
/-! Unified diffs of texts. -/
namespace HttpMock.Diff

/-- The lines of a text, each ending in a line feed. -/
def splitLines (s : String) : List String :=
  let parts := s.splitOn "\n"
  match parts.reverse with
  | last :: rest => (rest.reverse.map (· ++ "\n")) ++ [last ++ "\n"]
  | [] => ["\n"]

/-- The unified diff of two texts with `context` lines of context, empty when they are equal. -/
def unified (fromName toName : String) (a b : String) (context : Nat) : String :=
  let la := (splitLines a).toArray
  let lb := (splitLines b).toArray
  let m := Matcher.new la lb
  let groups := groupOpCodes m.opCodes context
  if groups.isEmpty then ""
  else
    let slice (xs : Array String) (i j : Nat) : List String := (xs.extract i j).toList
    let hunk (g : List OpCode) : String :=
      "@@ @@\n" ++ String.join (g.map fun c =>
        match c.tag with
        | .equal => String.join ((slice la c.i1 c.i2).map (" " ++ ·))
        | .delete => String.join ((slice la c.i1 c.i2).map ("-" ++ ·))
        | .insert => String.join ((slice lb c.j1 c.j2).map ("+" ++ ·))
        | .replace =>
          String.join ((slice la c.i1 c.i2).map ("-" ++ ·)) ++
            String.join ((slice lb c.j1 c.j2).map ("+" ++ ·)))
    "--- " ++ fromName ++ "\n+++ " ++ toName ++ "\n" ++ String.join (groups.map hunk)

end HttpMock.Diff
