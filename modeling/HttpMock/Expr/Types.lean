/-! The static types of expressions, and the fields and methods of the request's structures. -/
namespace HttpMock.Expr

/-- The named structures an expression can reach. -/
inductive Named where
  | request
  | queryValue
  | part
  deriving DecidableEq, Repr, Inhabited

/-- A static type. -/
inductive Ty where
  | unknown
  | nil
  | bool
  | int
  | float
  | string
  /-- An octet, the element of a string. -/
  | byte
  | pointer (t : Ty)
  | list (t : Ty)
  | dict (k v : Ty)
  | named (n : Named)
  /-- A function: its parameters, whether the last one takes any number of arguments, and its
  results. -/
  | func (params : List Ty) (variadic : Bool) (results : List Ty)
  /-- A predicate given to a built-in function, with the type of what it gives. -/
  | closure (result : Ty)
  deriving Inhabited, Repr, BEq

namespace Ty

/-- The name of a named structure. -/
def Named.text : Named → String
  | .request => "request.Request"
  | .queryValue => "request.QueryValue"
  | .part => "request.Multipart"

mutual
/-- The type as messages write it. -/
def text : Ty → String
  | .unknown => "interface {}"
  | .nil => "nil"
  | .bool => "bool"
  | .int => "int"
  | .float => "float64"
  | .string => "string"
  | .byte => "uint8"
  | .pointer t => "*" ++ t.text
  | .list t => "[]" ++ t.text
  | .dict k v => "map[" ++ k.text ++ "]" ++ v.text
  | .named n => Named.text n
  | .func ps variadic rs =>
    "func(" ++ paramsText ps variadic ++ ")" ++
      (match rs with
        | [] => ""
        | [r] => " " ++ r.text
        | rs => " (" ++ listText rs ++ ")")
  | .closure r => "func(interface {}) " ++ r.text
/-- Types separated by commas. -/
def listText : List Ty → String
  | [] => ""
  | [t] => t.text
  | t :: ts => t.text ++ ", " ++ listText ts
/-- Parameters separated by commas, the last written `...T` when it takes any number. -/
def paramsText : List Ty → Bool → String
  | [], _ => ""
  | [t], variadic => if variadic then "..." ++ (match t with
      | .list e => e.text
      | e => e.text) else t.text
  | t :: ts, variadic => t.text ++ ", " ++ paramsText ts variadic
end

/-- Whether nothing is known of the values. -/
def isUnknown : Ty → Bool
  | .unknown => true
  | _ => false

/-- Whether this is the type of `nil`. -/
def isNil : Ty → Bool
  | .nil => true
  | _ => false

/-- Whether this is an integer type. -/
def isInteger : Ty → Bool
  | .int | .byte => true
  | _ => false

/-- Whether this is a floating-point type. -/
def isFloat : Ty → Bool
  | .float => true
  | _ => false

/-- Whether this is a number type. -/
def isNumber (t : Ty) : Bool := t.isInteger || t.isFloat

/-- Whether this is the string type. -/
def isString : Ty → Bool
  | .string => true
  | _ => false

/-- Whether this is the Boolean type. -/
def isBool : Ty → Bool
  | .bool => true
  | _ => false

/-- Whether this is a list type. -/
def isList : Ty → Bool
  | .list _ => true
  | _ => false

/-- Whether this is a map type. -/
def isDict : Ty → Bool
  | .dict .. => true
  | _ => false

/-- Whether this is a structure type. -/
def isStruct : Ty → Bool
  | .named _ => true
  | _ => false

/-- Whether this is a pointer type. -/
def isPointer : Ty → Bool
  | .pointer _ => true
  | _ => false

/-- The type pointed to, through any number of pointers. -/
def deref : Ty → Ty
  | .pointer t => deref t
  | t => t

/-- The element type of a list or a map. -/
def elem : Ty → Ty
  | .list t | .dict _ t | .pointer t => t
  | _ => .unknown

/-- The key type of a map. -/
def key : Ty → Ty
  | .dict k _ => k
  | _ => .unknown

/-- Whether a value of type `a` may be used where `b` is expected: the same type, or anything
where nothing is known. The type of `nil` fits only where nothing is known. -/
def assignableTo (a b : Ty) : Bool := b.isUnknown || (a == b && !a.isNil)

/-- Whether values of two types may be compared for equality. -/
def comparable (l r : Ty) : Bool :=
  l.isUnknown || r.isUnknown || l.isNil || r.isNil || (l.isNumber && r.isNumber) ||
    (l.isList && r.isList) || l.assignableTo r

/-- The type of an arithmetic result: unknown if an operand is, a float if one is, else an
integer. -/
def combined (l r : Ty) : Ty :=
  if l.isUnknown || r.isUnknown then .unknown
  else if l.isFloat || r.isFloat then .float
  else .int

/-- The methods of a type, with their types, the receiver left out. A pointer to the request has
the request's methods; query values have theirs. -/
def method? : Ty → String → Option Ty
  | .pointer (.named .request), m =>
    if m = "ContentString" || m = "String" then some (.func [] false [.string])
    else if ["HasHeader", "HasMultipart", "HasQueryParam", "HasRequestParam"].contains m then
      some (.func [.string] false [.bool])
    else if m = "Header" || m = "RequestParam" then some (.func [.string] false [.string, .bool])
    else if m = "Multipart" then some (.func [.string] false [.named .part, .bool])
    else if m = "QueryParam" then some (.func [.string] false [.named .queryValue, .bool])
    else none
  | .named .queryValue, m =>
    if m = "Contains" then some (.func [.string] false [.bool])
    else if m = "IsList" then some (.func [] false [.bool])
    else if m = "List" then some (.func [] false [.list .string])
    else if m = "String" then some (.func [] false [.string])
    else none
  | _, _ => none

/-- The exported fields of a named structure, with their types. -/
def fields : Named → List (String × Ty)
  | .request =>
    [("Method", .string), ("URI", .string), ("Headers", .dict .string .string),
     ("Content", .pointer .string), ("JSON", .unknown),
     ("QueryParams", .dict .string (.named .queryValue)), ("RequestParams", .dict .string .string),
     ("Multiparts", .dict .string (.named .part))]
  | .queryValue => []
  | .part =>
    [("Name", .string), ("Mimetype", .pointer .string), ("Filename", .pointer .string),
     ("Content", .pointer .string)]

end Ty

/-- The variables an expression sees, with their types. -/
def environment : List (String × Ty) := [("request", .pointer (.named .request))]

end HttpMock.Expr
