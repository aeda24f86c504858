import HttpMock.Xml.Token
import HttpMock.Text.Blank
/-! The canonical text of an XML document, used to compare documents regardless of layout. -/
namespace HttpMock.Xml

/-- A node of a document tree. -/
inductive Node where
  | element (name : Name) (attrs : List Attr) (children : List Node)
  /-- Text; `blank` when it consists of white space only. -/
  | text (data : Bytes) (blank : Bool)
  | comment (data : Bytes)
  | procInst (target : Bytes) (inst : Bytes)
  | directive (data : Bytes)
  deriving Repr, Inhabited

/-- Whether text is white space only (space, tab, line feed, carriage return). -/
def isBlankText (bs : Bytes) : Bool := bs.all isSpace

/-- Whether a token sequence is well-formed: every end tag closes the innermost open element,
all elements are closed at the end, and there is at least one element. -/
def wellFormedTokens (ts : List Token) : Bool :=
  let step (acc : Option (List Name × Bool)) (t : Token) : Option (List Name × Bool) :=
    acc.bind fun (open_, seen) =>
      match t with
      | .start _ _ true => some (open_, true)
      | .start n _ false => some (n :: open_, true)
      | .stop n =>
        match open_ with
        | m :: rest => if m = n then some (rest, seen) else none
        | [] => none
      | _ => some (open_, seen)
  match ts.foldl step (some ([], false)) with
  | some ([], true) => true
  | _ => false

/-- Whether a text is a well-formed XML document. -/
def wellFormed (bs : Bytes) : Bool :=
  match tokens bs with
  | some ts => wellFormedTokens ts
  | none => false

/-- Sets an attribute, a repeated name replacing the earlier value in place. -/
def setAttr (attrs : List Attr) (a : Attr) : List Attr :=
  if attrs.any (·.name == a.name) then attrs.map fun b => if b.name == a.name then a else b
  else attrs ++ [a]

/-- Builds the document's top-level nodes from well-formed tokens. The stack holds, for each
open element, its name, attributes and children so far (in reverse). -/
def buildTree (ts : List Token) : List Node :=
  let step (stack : List (Name × List Attr × List Node)) (t : Token) :
      List (Name × List Attr × List Node) :=
    let push (n : Node) : List (Name × List Attr × List Node) :=
      match stack with
      | (nm, as, cs) :: rest => (nm, as, n :: cs) :: rest
      | [] => []
    match t with
    | .start n attrs true => push (.element n (attrs.foldl setAttr []) [])
    | .start n attrs false => (n, attrs.foldl setAttr [], []) :: stack
    | .stop _ =>
      match stack with
      | (nm, as, cs) :: rest =>
        match rest with
        | (pn, pas, pcs) :: rest' => (pn, pas, .element nm as cs.reverse :: pcs) :: rest'
        | [] => stack
      | [] => stack
    | .text d _ => push (.text d (isBlankText d))
    | .comment d => push (.comment d)
    | .procInst target inst => push (.procInst target inst)
    | .directive d => push (.directive d)
  match ts.foldl step [(⟨[], []⟩, [], [])] with
  | (_, _, cs) :: _ => cs.reverse
  | [] => []

/-- Escapes text for output: `&`, `<`, `>`, `'` and `"` as entities. -/
def escape (bs : Bytes) : Bytes :=
  bs.flatMap fun b =>
    if b = 0x26 then "&amp;".toBytes
    else if b = 0x3C then "&lt;".toBytes
    else if b = 0x3E then "&gt;".toBytes
    else if b = 0x27 then "&apos;".toBytes
    else if b = 0x22 then "&quot;".toBytes
    else [b]

/-- A line break and `n` spaces of indentation. -/
def indentText (n : Int) : Bytes := 0x0A :: List.replicate n.toNat 0x20

mutual
/-- The indented text of a node at nesting depth `depth`. -/
def Node.write (depth : Nat) : Node → Bytes
  | .element name attrs children =>
    let head := [0x3C] ++ name.full ++
      attrs.flatMap (fun a => [0x20] ++ a.name.full ++ [0x3D, 0x22] ++ escape a.value ++ [0x22])
    let hasContent := children.any fun c => match c with
      | .text _ blank => !blank
      | _ => true
    if !hasContent then head ++ [0x2F, 0x3E]
    else
      head ++ [0x3E] ++ writeChildren (depth + 1) true false children ++ [0x3C, 0x2F] ++ name.full ++
        [0x3E]
  | .text d _ => escape d
  | .comment d => "<!--".toBytes ++ d ++ "-->".toBytes
  | .procInst target inst =>
    "<?".toBytes ++ target ++ (if inst.isEmpty then [] else [0x20] ++ inst) ++ "?>".toBytes
  | .directive d => "<!".toBytes ++ d ++ [0x3E]
/-- Children at depth `depth`, blank text left out, each markup child on a new line; a closing
line break follows unless the last child is text. `first` holds before the first markup child;
`lastText` says whether the previous child was text. -/
def writeChildren (depth : Nat) (first : Bool) (lastText : Bool) : List Node → Bytes
  | [] =>
    if lastText then []
    else if !first || depth > 0 then indentText (2 * ((depth : Int) - 1)) else []
  | c :: cs =>
    match c with
    | .text d blank =>
      if blank then writeChildren depth first lastText cs
      else escape d ++ writeChildren depth first true cs
    | _ =>
      let pre := if !first || depth > 0 then indentText (2 * (depth : Int)) else []
      pre ++ Node.write depth c ++ writeChildren depth false false cs
end

/-- The canonical text of a document, `none` when it is not well-formed. -/
def canonical? (bs : Bytes) : Option Bytes := do
  let ts ← tokens bs
  if !wellFormedTokens ts then none
  let top := (buildTree ts).filter fun n => match n with
    | .procInst target _ => target != "xml".toBytes
    | .text _ blank => !blank
    | _ => true
  some (Text.trim (writeChildren 0 true false top))

end HttpMock.Xml
