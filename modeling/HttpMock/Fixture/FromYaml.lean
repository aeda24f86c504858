import HttpMock.Fixture.Shape
import HttpMock.Yaml.Compose
import HttpMock.Text.Quoted
/-! Decoding a YAML document into a shape, with merges and the type errors of every line. -/
namespace HttpMock.Fixture

open Yaml

/-- The decoder's state: the type errors so far, and the keys a merge may not set. -/
structure YamlState where
  errors : List String := []
  merged : Option (List String) := none
  deriving Inhabited

/-- Decoding YAML, collecting type errors; a fatal problem stops it. -/
abbrev YamlM := StateT YamlState (Except String)

namespace FromYaml

/-- Adds a type error at a line. -/
def report (line : Nat) (msg : String) : YamlM Unit :=
  modify fun s => { s with errors := s.errors ++ ["line " ++ toString line ++ ": " ++ msg] }

/-- The error of a node that does not fit a shape. Scalars show their text, cut after seven
octets when longer than ten. -/
def cannot (n : Node) (target : String) : YamlM Unit :=
  let tag := n.tag
  let shown :=
    if tag = "!!seq" || tag = "!!map" then ""
    else
      let bs := n.value.toBytes
      if bs.length > 10 then " \x60" ++ Bytes.toText (bs.take 7) ++ "...\x60" else " \x60" ++ n.value ++ "\x60"
  report n.line ("cannot unmarshal " ++ tag ++ shown ++ " into " ++ target)

/-- The node an alias stands for. -/
def follow : Node → YamlM Node
  | .alias _ t _ => follow t
  | .cycle name _ => throw ("anchor \x27" ++ name ++ "\x27 value contains itself")
  | n => pure n

/-- The tag by which a node's kind of value is judged. -/
def kindTag (n : Node) : String := if n.indicatedString then "!!str" else n.tag

/-- Whether a node is null, through aliases. -/
def isNull : Node → Bool
  | .alias _ t _ => isNull t
  | n => match n with
    | .scalar .. => kindTag n == "!!null"
    | _ => false

/-- Whether a key asks for a merge. -/
def isMerge : Node → Bool
  | .scalar v t _ _ _ => v == "<<" && (t == "" || t == "!" || t == "!!merge")
  | _ => false

/-- What a scalar means; a tag that does not fit its text stops decoding. -/
def meaning (n : Node) : YamlM Resolved :=
  if n.indicatedString then pure (.str n.value)
  else match resolve n.tag n.value with
    | .ok (_, r) => pure r
    | .error e => throw e

/-- The JSON of what a scalar means. -/
def scalarJson : Resolved → Except String Json
  | .null => .ok .null
  | .bool b => .ok (.bool b)
  | .int i => .ok (.number (toString i))
  | .float x => match floatProblem x with
    | some e => .error e
    | none => .ok (.float x)
  | .str s => .ok (.string s)
  | .time t => .ok (.string t)

/-- The JSON of decoded data: nothing is null. -/
def datumJson : Datum → Except String Json
  | .json v => v
  | _ => .ok .null

/-- The integer part of a float, as a 64-bit conversion gives it: out of range is the least
64-bit integer. -/
def truncate (x : Float) : Int :=
  let bound : Float := 9223372036854775808.0
  if x.isNaN || x ≥ bound || x < -bound then -Int.pow 2 63
  else
    let m := (Float.floor x.abs).toUInt64.toNat
    if x < 0 then -(m : Int) else m

/-- An integer from a scalar, if it is one in range. -/
def integerOf (r : Resolved) : Option Int :=
  match r with
  | .int i => if -Int.pow 2 63 ≤ i && i < Int.pow 2 63 then some i else none
  | .float x => if x ≤ 9223372036854775807.0 then some (truncate x) else none
  | _ => none

/-- Whether every key of a mapping is a string, so that it reads as an object. -/
def stringKeys (pairs : List (Node × Node)) : Bool :=
  pairs.all fun (k, _) =>
    let t := match k with
      | .alias _ t _ => kindTag t
      | _ => kindTag k
    t == "!!str" || t == "!!merge"

/-- Reports keys that repeat an earlier key of the same mapping; whether there were any. -/
def repeatedKeys (pairs : List (Node × Node)) : YamlM Bool := do
  let keys := pairs.map (·.1)
  let mut found := false
  for (ki, i) in keys.zipIdx do
    for kj in keys.drop (i + 1) do
      if ki.kindIndex == kj.kindIndex && ki.value == kj.value then
        report kj.line ("mapping key " ++ Text.quoteString kj.value ++ " already defined at line " ++ toString ki.line)
        found := true
  pure found

/-- The empty value of a shape. -/
def zeroOf : Shape → Datum
  | .record _ _ => .record []
  | _ => .none

/-- The keys of a mapping that are strings, which a merge into it may not set. -/
def stringKeyNames (pairs : List (Node × Node)) : List String :=
  pairs.filterMap fun (k, _) =>
    let k := match k with
      | .alias _ t _ => t
      | _ => k
    match k with
    | .scalar v _ _ _ _ => if kindTag k == "!!str" || kindTag k == "!!merge" then some v else none
    | _ => none

/-- Takes the keys a merge may not set, leaving none for nested mappings. -/
def takeMerged : YamlM (Option (List String)) := do
  let s ← get
  set { s with merged := none }
  pure s.merged

/-- Sets the keys a merge may not set. -/
def putMerged (m : Option (List String)) : YamlM Unit := modify fun s => { s with merged := m }

mutual

/-- Decodes a node into a shape, given the shape's current data; whether it fitted, and the new
data. -/
def decode : Nat → Shape → Node → Datum → YamlM (Bool × Datum)
  | 0, _, _, cur => pure (false, cur)
  | fuel + 1, shape, n0, cur => do
    let n ← follow n0
    if isNull n then do
      let _ ← meaning n
      match shape with
      | .anything | .optional _ | .dict _ | .list _ => pure (true, .none)
      | _ => pure (false, cur)
    else
      match shape with
      | .optional s => decode fuel s n (match cur with
          | .none => zeroOf s
          | c => c)
      | _ =>
        match n with
        | .scalar .. => do
          let r ← meaning n
          match shape with
          | .text => pure (true, .text n.value)
          | .integer =>
            match integerOf r with
            | some i => pure (true, .integer i)
            | none => do
              cannot n "int"
              pure (false, cur)
          | .anything => pure (true, .json (scalarJson r))
          | other => do
            cannot n other.typeName
            pure (false, cur)
        | .sequence items _ _ =>
          match shape with
          | .list s => do
            let kept ← sequenceItems fuel s items []
            pure (true, .list kept)
          | .anything => do
            let kept ← sequenceItems fuel .anything items []
            pure (true, .json (jsonArray (kept.map datumJson)))
          | other => do
            cannot n other.typeName
            pure (false, cur)
        | .mapping pairs _ _ => do
          if ← repeatedKeys pairs then pure (false, cur)
          else
            match shape with
            | .record name fields => do
              let fs ← structPairs fuel name fields pairs pairs cur.entries []
              pure (true, .record fs)
            | .dict s => do
              let es ← mapPairs fuel s pairs pairs cur.entries (match cur with
                | .dict _ => false
                | _ => true)
              pure (true, .dict es)
            | .anything =>
              if stringKeys pairs then do
                let es ← mapPairs fuel .anything pairs pairs [] true
                pure (true, .json (jsonObject (es.map fun (k, v) => (k, datumJson v))))
              else do
                let _ ← sequenceItems fuel .anything (pairs.map (·.2)) []
                pure (true, .json (.error "json: unsupported type: map[interface \x7b\x7d]interface \x7b\x7d"))
            | other => do
              cannot n other.typeName
              pure (false, cur)
        | _ => pure (false, cur)

/-- The items of a sequence that fit a shape. -/
def sequenceItems : Nat → Shape → List Node → List Datum → YamlM (List Datum)
  | 0, _, _, acc => pure acc
  | _, _, [], acc => pure acc
  | fuel + 1, s, it :: rest, acc => do
    let (ok, d) ← decode fuel s it (zeroOf s)
    sequenceItems fuel s rest (if ok then acc ++ [d] else acc)

/-- The fields of a structure from the pairs of a mapping, then its merge. -/
def structPairs : Nat → String → List (String × Shape) → List (Node × Node) → List (Node × Node) →
    List (String × Datum) → List String → YamlM (List (String × Datum))
  | 0, _, _, _, _, acc, _ => pure acc
  | fuel + 1, name, fields, all, pairs, acc, done => do
    let merged ← takeMerged
    let (acc, merged, mergeNode) ← structFields fuel name fields pairs acc done merged none
    putMerged merged
    match mergeNode with
    | some m => do
      let d ← mergeInto fuel (.record name fields) all m (.record acc)
      pure d.entries
    | none => pure acc

/-- The pairs of a mapping read into the fields of a structure. -/
def structFields : Nat → String → List (String × Shape) → List (Node × Node) → List (String × Datum) →
    List String → Option (List String) → Option Node →
    YamlM (List (String × Datum) × Option (List String) × Option Node)
  | 0, _, _, _, acc, _, merged, mergeNode => pure (acc, merged, mergeNode)
  | _, _, _, [], acc, _, merged, mergeNode => pure (acc, merged, mergeNode)
  | fuel + 1, name, fields, (k, v) :: rest, acc, done, merged, mergeNode => do
    let k' ← follow k
    if isMerge k' then structFields fuel name fields rest acc done merged (some v)
    else do
      let (okKey, key) ← decode fuel .text k' .none
      if !okKey then structFields fuel name fields rest acc done merged mergeNode
      else
        let fname := key.str
        match merged with
        | some m =>
          if m.contains fname then structFields fuel name fields rest acc done merged mergeNode
          else fieldStep fuel name fields k v rest acc done (some (m ++ [fname])) mergeNode fname
        | none => fieldStep fuel name fields k v rest acc done none mergeNode fname

/-- One field of a structure. -/
def fieldStep : Nat → String → List (String × Shape) → Node → Node → List (Node × Node) →
    List (String × Datum) → List String → Option (List String) → Option Node → String →
    YamlM (List (String × Datum) × Option (List String) × Option Node)
  | 0, _, _, _, _, _, acc, _, merged, mergeNode, _ => pure (acc, merged, mergeNode)
  | fuel + 1, name, fields, k, v, rest, acc, done, merged, mergeNode, fname => do
    match fields.lookup fname with
    | some fs =>
      if done.contains fname then do
        report k.line ("field " ++ fname ++ " already set in type fixture." ++ name)
        structFields fuel name fields rest acc done merged mergeNode
      else do
        let (_, d) ← decode fuel fs v ((acc.lookup fname).getD (zeroOf fs))
        structFields fuel name fields rest (Datum.setIn acc fname d) (fname :: done) merged mergeNode
    | none => do
      report k.line ("field " ++ fname ++ " not found in type fixture." ++ name)
      structFields fuel name fields rest acc done merged mergeNode

/-- The entries of a map from the pairs of a mapping, then its merge. -/
def mapPairs : Nat → Shape → List (Node × Node) → List (Node × Node) → List (String × Datum) → Bool →
    YamlM (List (String × Datum))
  | 0, _, _, _, acc, _ => pure acc
  | fuel + 1, s, all, pairs, acc, isNew => do
    let merged ← takeMerged
    let (acc, merged, mergeNode) ← mapEntries fuel s pairs acc isNew merged none
    putMerged merged
    match mergeNode with
    | some m => do
      let d ← mergeInto fuel (.dict s) all m (.dict acc)
      pure d.entries
    | none => pure acc

/-- The pairs of a mapping read into the entries of a map. A null value is kept unless the key is
already set by a merge. -/
def mapEntries : Nat → Shape → List (Node × Node) → List (String × Datum) → Bool → Option (List String) →
    Option Node → YamlM (List (String × Datum) × Option (List String) × Option Node)
  | 0, _, _, acc, _, merged, mergeNode => pure (acc, merged, mergeNode)
  | _, _, [], acc, _, merged, mergeNode => pure (acc, merged, mergeNode)
  | fuel + 1, s, (k, v) :: rest, acc, isNew, merged, mergeNode => do
    let k' ← follow k
    if isMerge k' then mapEntries fuel s rest acc isNew merged (some v)
    else do
      let (okKey, key) ← decode fuel .text k' .none
      let name := key.str
      let skipIt := match merged with
        | some m => m.contains name
        | none => false
      if !okKey || skipIt then mapEntries fuel s rest acc isNew merged mergeNode
      else do
        let merged := merged.map (· ++ [name])
        let (ok, d) ← decode fuel s v (zeroOf s)
        let acc := if ok || (isNull v && (isNew || (acc.lookup name).isNone)) then Datum.setIn acc name d else acc
        mapEntries fuel s rest acc isNew merged mergeNode

/-- Merges the mappings a `<<` key names into data already read; the keys of the mapping it
stands in, and those merged before, are not set again. -/
def mergeInto : Nat → Shape → List (Node × Node) → Node → Datum → YamlM Datum
  | 0, _, _, _, cur => pure cur
  | fuel + 1, shape, parent, m, cur => do
    let saved := (← get).merged
    if saved.isNone then putMerged (some (stringKeyNames parent))
    let m ← follow m
    let result ← match m with
      | .mapping .. => do
        let (_, d) ← decode fuel shape m cur
        pure d
      | .sequence items _ _ => mergeEach fuel shape items cur
      | _ => throw "map merge requires map or sequence of maps as the value"
    putMerged saved
    pure result

/-- Merges each mapping of a sequence in turn. -/
def mergeEach : Nat → Shape → List Node → Datum → YamlM Datum
  | 0, _, _, cur => pure cur
  | _, _, [], cur => pure cur
  | fuel + 1, shape, it :: rest, cur => do
    let it ← follow it
    match it with
    | .mapping .. => do
      let (_, d) ← decode fuel shape it cur
      mergeEach fuel shape rest d
    | _ => throw "map merge requires map or sequence of maps as the value"

end

end FromYaml

/-- Decodes a YAML document into a shape: the data, or the type errors as
`yaml: unmarshal errors:` with one indented line each; a fatal problem is `.error (.inl msg)`. -/
def decodeYaml (shape : Shape) (root : Yaml.Node) (fuel : Nat) : Except (String ⊕ List String) Datum :=
  match (FromYaml.decode fuel shape root (FromYaml.zeroOf shape)).run {} with
  | .error e => .error (.inl e)
  | .ok ((_, d), st) => if st.errors.isEmpty then .ok d else .error (.inr st.errors)

end HttpMock.Fixture
