import HttpMock.Yaml.Scan
import HttpMock.Yaml.Node
/-! Reading the first document of YAML text into nodes. -/
namespace HttpMock.Yaml

/-- The reader's state. -/
structure Reader where
  tokens : Array Token
  problem : Option (Problem × Nat)
  pos : Nat := 0
  /-- Anchors in the order their nodes started; a node still being read has none yet. -/
  anchors : Array (String × Option Node) := #[]
  /-- Tag handles and their prefixes. -/
  directives : List (String × String) := []
  deriving Inhabited

/-- Reading with a state that can fail with a problem. -/
abbrev ReadM := StateT Reader (Except Problem)

namespace Read

/-- The tag handles every document knows. -/
def defaultDirectives : List (String × String) := [("!", "!"), ("!!", "tag:yaml.org,2002:")]

/-- A problem found by the reader. -/
def problemAt (context : String) (contextMark : Mark) (message : String) (mark : Mark) : Problem :=
  { scanning := false, context, contextMark, message, mark }

/-- A problem of the document's structure, with no position. -/
def structureProblem (message : String) : Problem := { scanning := false, message, mark := {} }

/-- The current token; the scanner's problem if it stopped too close to it. -/
def peek : ReadM Token := do
  let r ← get
  match r.problem with
  | some (p, n) => if n < r.pos + 3 then throw p else pure ()
  | none => pure ()
  pure (r.tokens.getD r.pos (r.tokens.back?.getD default))

/-- Moves past the current token. -/
def next : ReadM Unit := modify fun r => { r with pos := r.pos + 1 }

/-- An empty scalar, which means null. -/
def emptyAt (m : Mark) : Node := .scalar "" "!!null" .plain false (m.line + 1)

/-- A scalar node: an explicit tag is kept, quoted and block scalars are strings, and a plain
scalar takes the tag its text resolves to. -/
def scalarNode (value : String) (style : ScalarStyle) (tag : String) (line : Nat) : Node :=
  if tag ≠ "" && tag ≠ "!" then .scalar value (shortTag tag) style true line
  else if style != .plain then .scalar value "!!str" style false line
  else if value = "<<" then .scalar value "!!merge" style false line
  else .scalar value (plainMeaning "" value).1 style false line

/-- The tag of a collection: the explicit one, or the default. -/
def collectionTag (tag default : String) : String :=
  if tag ≠ "" && tag ≠ "!" then shortTag tag else default

/-- Starts an anchored node; gives the place of its anchor. -/
def openAnchor : Option String → ReadM (Option Nat)
  | some name => do
    let r ← get
    set { r with anchors := r.anchors.push (name, none) }
    pure (some r.anchors.size)
  | none => pure none

/-- Finishes an anchored node. -/
def closeAnchor (at_ : Option Nat) (n : Node) : ReadM Unit :=
  match at_ with
  | some i => modify fun r => { r with anchors := r.anchors.modify i fun (name, _) => (name, some n) }
  | none => pure ()

/-- What an alias refers to, by the latest anchor of its name. -/
def aliasNode (name : String) (line : Nat) : ReadM Node := do
  let r ← get
  match r.anchors.toList.reverse.find? (·.1 == name) with
  | some (_, some n) => pure (.alias name n line)
  | some (_, none) => pure (.cycle name line)
  | none => throw (structureProblem ("unknown anchor \x27" ++ name ++ "\x27 referenced"))

/-- Whether a token ends a document's content. -/
def boundary : TokenKind → Bool
  | .versionDirective .. | .tagDirective .. | .documentStart | .documentEnd | .streamEnd => true
  | _ => false

/-- A node with no content: an empty scalar if it has an anchor or a tag, else a problem. -/
def bare (block : Bool) (anchor : Option String) (tag : String) (start : Mark) (line : Nat) (tok : Token) :
    ReadM Node := do
    if anchor.isSome || tag ≠ "" then do
      let n := scalarNode "" .plain tag line
      let at_ ← openAnchor anchor
      closeAnchor at_ n
      pure n
    else
      throw (problemAt (if block then "while parsing a block node" else "while parsing a flow node") start
        "did not find expected node content" tok.start)

mutual

/-- A node, with its anchor and tag. In block context it may be a block collection; where a
mapping value may be a sequence at the mapping's own indentation, `-` entries make one. -/
def node : Nat → Bool → Bool → ReadM Node
  | 0, _, _ => throw (structureProblem "exceeded max depth")
  | fuel + 1, block, indentless => do
    let tok ← peek
    match tok.kind with
    | .alias name => do
      next
      aliasNode name (tok.start.line + 1)
    | _ => do
      let start := tok.start
      let mut anchor : Option String := none
      let mut tagTok : Option (String × String) := none
      let mut tagMark := start
      let mut tok := tok
      match tok.kind with
      | .anchor a =>
        anchor := some a
        next
        tok ← peek
        match tok.kind with
        | .tag h s =>
          tagTok := some (h, s)
          tagMark := tok.start
          next
          tok ← peek
        | _ => pure ()
      | .tag h s =>
        tagTok := some (h, s)
        tagMark := tok.start
        next
        tok ← peek
        match tok.kind with
        | .anchor a =>
          anchor := some a
          next
          tok ← peek
        | _ => pure ()
      | _ => pure ()
      let tag ← match tagTok with
        | none => pure ""
        | some (h, s) =>
          if h.isEmpty then pure s
          else do
            let r ← get
            match (r.directives ++ defaultDirectives).lookup h with
            | some pre => pure (pre ++ s)
            | none => throw (problemAt "while parsing a node" start "found undefined tag handle" tagMark)
      let line := start.line + 1
      if indentless && tok.kind == .blockEntry then do
        let at_ ← openAnchor anchor
        let items ← indentlessEntries fuel []
        let n := Node.sequence items (collectionTag tag "!!seq") line
        closeAnchor at_ n
        pure n
      else
        match tok.kind with
        | .scalar text style => do
          next
          let n := scalarNode text style tag line
          let at_ ← openAnchor anchor
          closeAnchor at_ n
          pure n
        | .flowSequenceStart => do
          let at_ ← openAnchor anchor
          next
          let items ← flowEntries fuel tok.start true []
          let n := Node.sequence items (collectionTag tag "!!seq") line
          closeAnchor at_ n
          pure n
        | .flowMappingStart => do
          let at_ ← openAnchor anchor
          next
          let pairs ← flowPairs fuel tok.start true []
          let n := Node.mapping pairs (collectionTag tag "!!map") line
          closeAnchor at_ n
          pure n
        | .blockSequenceStart =>
          if block then do
            let at_ ← openAnchor anchor
            next
            let items ← blockEntries fuel tok.start []
            let n := Node.sequence items (collectionTag tag "!!seq") line
            closeAnchor at_ n
            pure n
          else bare block anchor tag start line tok
        | .blockMappingStart =>
          if block then do
            let at_ ← openAnchor anchor
            next
            let pairs ← blockPairs fuel tok.start []
            let n := Node.mapping pairs (collectionTag tag "!!map") line
            closeAnchor at_ n
            pure n
          else bare block anchor tag start line tok
        | _ => bare block anchor tag start line tok

/-- The `-` entries of a block sequence, up to its end. -/
def blockEntries : Nat → Mark → List Node → ReadM (List Node)
  | 0, _, _ => throw (structureProblem "exceeded max depth")
  | fuel + 1, start, acc => do
    let tok ← peek
    if tok.kind == .blockEntry then do
      next
      let t ← peek
      let item ← if t.kind != .blockEntry && t.kind != .blockEnd then node fuel true false
        else pure (emptyAt tok.stop)
      blockEntries fuel start (item :: acc)
    else if tok.kind == .blockEnd then do
      next
      pure acc.reverse
    else throw (problemAt "while parsing a block collection" start
      "did not find expected \x27-\x27 indicator" tok.start)

/-- The `-` entries of a sequence written at its mapping's indentation. -/
def indentlessEntries : Nat → List Node → ReadM (List Node)
  | 0, _ => throw (structureProblem "exceeded max depth")
  | fuel + 1, acc => do
    let tok ← peek
    if tok.kind == .blockEntry then do
      next
      let t ← peek
      let item ← if t.kind != .blockEntry && t.kind != .key && t.kind != .value && t.kind != .blockEnd then
          node fuel true false
        else pure (emptyAt tok.stop)
      indentlessEntries fuel (item :: acc)
    else pure acc.reverse

/-- The pairs of a block mapping, up to its end. -/
def blockPairs : Nat → Mark → List (Node × Node) → ReadM (List (Node × Node))
  | 0, _, _ => throw (structureProblem "exceeded max depth")
  | fuel + 1, start, acc => do
    let tok ← peek
    if tok.kind == .key then do
      next
      let t ← peek
      let k ← if t.kind != .key && t.kind != .value && t.kind != .blockEnd then node fuel true true
        else pure (emptyAt tok.stop)
      let t ← peek
      let v ← if t.kind == .value then do
          next
          let t2 ← peek
          if t2.kind != .key && t2.kind != .value && t2.kind != .blockEnd then node fuel true true
          else pure (emptyAt t.stop)
        else pure (emptyAt t.start)
      blockPairs fuel start ((k, v) :: acc)
    else if tok.kind == .blockEnd then do
      next
      pure acc.reverse
    else throw (problemAt "while parsing a block mapping" start "did not find expected key" tok.start)

/-- The entries of a flow sequence after `[`, up to `]`. An entry `k: v` is a mapping of one
pair. -/
def flowEntries : Nat → Mark → Bool → List Node → ReadM (List Node)
  | 0, _, _, _ => throw (structureProblem "exceeded max depth")
  | fuel + 1, start, first, acc => do
    let tok ← peek
    if tok.kind == .flowSequenceEnd then do
      next
      pure acc.reverse
    else do
      let tok ← if first then pure tok
        else if tok.kind == .flowEntry then do
          next
          peek
        else throw (problemAt "while parsing a flow sequence" start
          "did not find expected \x27,\x27 or \x27]\x27" tok.start)
      if tok.kind == .key then do
        next
        let t ← peek
        let k ← if t.kind != .value && t.kind != .flowEntry && t.kind != .flowSequenceEnd then node fuel false false
          else do
            next
            pure (emptyAt t.stop)
        let t ← peek
        let v ← if t.kind == .value then do
            next
            let t2 ← peek
            if t2.kind != .flowEntry && t2.kind != .flowSequenceEnd then node fuel false false
            else pure (emptyAt t.start)
          else pure (emptyAt t.start)
        flowEntries fuel start false (Node.mapping [(k, v)] "!!map" (tok.start.line + 1) :: acc)
      else if tok.kind == .flowSequenceEnd then do
        next
        pure acc.reverse
      else do
        let item ← node fuel false false
        flowEntries fuel start false (item :: acc)

/-- The pairs of a flow mapping after its opening brace, up to the closing one. -/
def flowPairs : Nat → Mark → Bool → List (Node × Node) → ReadM (List (Node × Node))
  | 0, _, _, _ => throw (structureProblem "exceeded max depth")
  | fuel + 1, start, first, acc => do
    let tok ← peek
    if tok.kind == .flowMappingEnd then do
      next
      pure acc.reverse
    else do
      let tok ← if first then pure tok
        else if tok.kind == .flowEntry then do
          next
          peek
        else throw (problemAt "while parsing a flow mapping" start
          "did not find expected \x27,\x27 or \x27\x7d\x27" tok.start)
      if tok.kind == .key then do
        next
        let t ← peek
        let k ← if t.kind != .value && t.kind != .flowEntry && t.kind != .flowMappingEnd then node fuel false false
          else pure (emptyAt t.start)
        let t ← peek
        let v ← if t.kind == .value then do
            next
            let t2 ← peek
            if t2.kind != .flowEntry && t2.kind != .flowMappingEnd then node fuel false false
            else pure (emptyAt t2.start)
          else pure (emptyAt t.start)
        flowPairs fuel start false ((k, v) :: acc)
      else if tok.kind == .flowMappingEnd then do
        next
        pure acc.reverse
      else do
        let k ← node fuel false false
        let t ← peek
        flowPairs fuel start false ((k, emptyAt t.start) :: acc)

end

/-- The `%YAML` and `%TAG` directives before a document. -/
def directives : Nat → Bool → ReadM Unit
  | 0, _ => pure ()
  | fuel + 1, seenVersion => do
    let t ← peek
    match t.kind with
    | .versionDirective major minor =>
      if seenVersion then throw (problemAt "" {} "found duplicate %YAML directive" t.start)
      else if major ≠ 1 || minor ≠ 1 then throw (problemAt "" {} "found incompatible YAML document" t.start)
      else do
        next
        directives fuel true
    | .tagDirective h p => do
      let r ← get
      if r.directives.any (·.1 == h) then throw (problemAt "" {} "found duplicate %TAG directive" t.start)
      else do
        set { r with directives := (h, p) :: r.directives }
        next
        directives fuel seenVersion
    | _ => pure ()

/-- The first document: its root node, or none when the text holds none. -/
def document (fuel : Nat) : ReadM (Option Node) := do
  let _ ← peek
  next
  let t ← peek
  match t.kind with
  | .streamEnd => pure none
  | .versionDirective .. | .tagDirective .. | .documentStart => do
    directives fuel false
    let t ← peek
    if t.kind != .documentStart then throw (problemAt "" {} "did not find expected <document start>" t.start)
    else do
      next
      let t ← peek
      let root ← if boundary t.kind then pure (emptyAt t.start) else node fuel true false
      let _ ← peek
      pure (some root)
  | _ => do
    let root ← node fuel true false
    let _ ← peek
    pure (some root)

end Read

/-- The root node of the first document of YAML text, or none when the text holds no document. -/
def firstDocument (text : Bytes) : Except Problem (Option Node) :=
  let sc := scan text
  (Read.document (2 * sc.tokens.size + 16)).run' { tokens := sc.tokens, problem := sc.problem }

end HttpMock.Yaml
