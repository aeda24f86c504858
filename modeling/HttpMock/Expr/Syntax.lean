import HttpMock.Bytes
/-! The syntax tree of an expression, each node with the position its errors point at. -/
namespace HttpMock.Expr

/-- A node of an expression. -/
inductive Node where
  | nil (pos : Nat)
  | bool (b : Bool) (pos : Nat)
  | int (i : Int) (pos : Nat)
  | float (x : Float) (pos : Nat)
  | str (s : Bytes) (pos : Nat)
  | ident (name : String) (pos : Nat)
  /-- The element a predicate looks at (`#`), or one of its variables (`#index`). -/
  | pointer (name : String) (pos : Nat)
  | unary (op : String) (arg : Node) (pos : Nat)
  | binary (op : String) (left right : Node) (pos : Nat)
  /-- An access to a property or an element; `method` when it is called. -/
  | member (base prop : Node) (optional method : Bool) (pos : Nat)
  | slice (base : Node) (lo hi : Option Node) (pos : Nat)
  | call (callee : Node) (args : List Node) (pos : Nat)
  /-- A call of a built-in function. -/
  | builtin (name : String) (args : List Node) (pos : Nat)
  /-- A predicate given to a built-in function, as `{# > 1}`. -/
  | predicate (body : Node) (pos : Nat)
  | chain (inner : Node)
  | conditional (cond yes no : Node)
  | array (items : List Node) (pos : Nat)
  | map (pairs : List (Node × Node)) (pos : Nat)
  | letIn (name : String) (value body : Node)
  | sequence (items : List Node)
  deriving Inhabited, Repr

namespace Node

/-- The index of the character that messages about a node point at. -/
def pos : Node → Nat
  | .nil p | .bool _ p | .int _ p | .float _ p | .str _ p | .ident _ p | .pointer _ p => p
  | .unary _ _ p | .binary _ _ _ p | .member _ _ _ _ p | .slice _ _ _ p | .call _ _ p => p
  | .builtin _ _ p | .predicate _ p | .array _ p | .map _ p => p
  | .chain n => n.pos
  | .conditional .. | .letIn .. | .sequence _ => 0

/-- Whether a node has a place in the source that messages can point at. -/
def located : Node → Bool
  | .chain n => n.located
  | .conditional .. | .letIn .. | .sequence _ => false
  | _ => true

end Node

end HttpMock.Expr
