import HttpMock.Match.Outcome
import HttpMock.Text.Quoted
/-! Reports on match results: one line per outcome, a breakdown, and a one-line reason. -/
namespace HttpMock.Match

/-- The category and, if there is one, the key of an outcome. -/
def Outcome.subject (o : Outcome) : Bytes :=
  o.category.name.toBytes ++ (if o.key.isEmpty then [] else 0x20 :: o.key)

/-- The report line of an outcome. -/
def Outcome.line (o : Outcome) : Bytes :=
  match o.verdict with
  | .hit => "✔ ".toBytes ++ o.subject ++ " matches \"".toBytes ++ o.actualText ++ "\"".toBytes
  | .mismatch =>
    "✘ ".toBytes ++ o.subject ++ " \"".toBytes ++ o.actualText ++ "\" does not match \"".toBytes ++
      o.expected ++ "\"".toBytes
  | .missing => "✘ ".toBytes ++ o.category.name.toBytes ++ 0x20 :: o.key ++ " missing".toBytes

/-- The lines of a diff, without the line break that ends the last one. -/
def diffLines (diff : String) : List String :=
  ((diff.dropSuffix "\n").copy).splitOn "\n"

/-- The lines an outcome adds to a breakdown: its report line with its score, and for a mismatch
its diff, indented. -/
def Outcome.breakdown (o : Outcome) : Bytes :=
  let head := "  ".toBytes ++ o.line ++ (" (" ++ toString o.score ++ ")\n").toBytes
  if o.verdict == .mismatch && o.diff != "" then
    head ++ ((diffLines o.diff).map fun l => ("    " ++ l ++ "\n").toBytes).flatten
  else head

/-- The breakdown of a result: a numbered heading with the expectation's name, then every
outcome. -/
def Result.breakdown (number : Nat) (r : Result) : Bytes :=
  let name := if r.name.isEmpty then "(unnamed)" else r.name
  ("#" ++ toString number ++ " " ++ name ++ "\n").toBytes ++ (r.outcomes.map Outcome.breakdown).flatten

/-- The first `n` octets of a text, marked with an ellipsis when something was cut. -/
def clip (n : Nat) (bs : Bytes) : Bytes :=
  if bs.length ≤ n then bs else bs.take n ++ "...".toBytes

/-- Why an outcome failed, in one phrase. -/
def Outcome.failure (o : Outcome) : Bytes :=
  match o.verdict with
  | .missing => o.subject ++ " missing".toBytes
  | _ =>
    o.subject ++ (" expected " ++ Text.quote (clip 64 o.expected) ++ ", got " ++
      Text.quote (clip 64 o.actualText)).toBytes

/-- Names joined as a sentence lists them: `a`, `a and b`, `a, b, and c`. -/
def joinNames : List String → String
  | [] => ""
  | [a] => a
  | [a, b] => a ++ " and " ++ b
  | names => ", ".intercalate names.dropLast ++ ", and " ++ names.getLastD ""

/-- The reason of a result: what matched, and the first failure. -/
def Result.reason (r : Result) : Bytes :=
  if r.isEmpty then "no matchers to compare".toBytes
  else
    match r.outcomes.find? Outcome.isFailure with
    | none => "all specified matchers matched".toBytes
    | some first =>
      let matched := (r.outcomes.filter Outcome.isHit).map (·.category.name)
      if matched.isEmpty then first.failure
      else (joinNames matched ++ " matched, but ").toBytes ++ first.failure

end HttpMock.Match
