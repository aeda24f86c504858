import HttpMock.Bytes
/-! URLs as an HTTP client sees them, and resolving a reference against a base. -/
namespace HttpMock.Transport

/-- A URL split into its parts. -/
structure Url where
  scheme : Bytes := []
  /-- The authority, when the URL has one (`//host:port`). -/
  authority : Option Bytes := none
  path : Bytes := []
  query : Option Bytes := none
  fragment : Option Bytes := none
  deriving DecidableEq, Repr, Inhabited

namespace Url

private def isAlpha (b : UInt8) : Bool := (0x41 ≤ b && b ≤ 0x5A) || (0x61 ≤ b && b ≤ 0x7A)

private def isSchemeOctet (b : UInt8) : Bool :=
  isAlpha b || (0x30 ≤ b && b ≤ 0x39) || b = 0x2B || b = 0x2D || b = 0x2E

/-- Splits off a scheme: letters, digits, `+`, `-` and `.` before a colon, starting with a
letter. -/
def splitScheme (bs : Bytes) : Bytes × Bytes :=
  let s := bs.takeWhile isSchemeOctet
  match bs.drop s.length with
  | 0x3A :: rest =>
    match s with
    | b :: _ => if isAlpha b then (s, rest) else ([], bs)
    | [] => ([], bs)
  | _ => ([], bs)

/-- Reads a URL. -/
def parse (bs : Bytes) : Url :=
  let (front, fragment) := bs.cut 0x23
  let (front, query) := front.cut 0x3F
  let (scheme, rest) := splitScheme front
  match rest with
  | 0x2F :: 0x2F :: more =>
    let auth := more.takeWhile (· ≠ 0x2F)
    { scheme, authority := some auth, path := more.drop auth.length, query, fragment }
  | _ => { scheme, path := rest, query, fragment }

/-- The host of a URL: its authority, or nothing. -/
def host (u : Url) : Bytes := u.authority.getD []

/-- Writes a URL back. -/
def render (u : Url) : Bytes :=
  (if u.scheme.isEmpty then [] else u.scheme ++ [0x3A]) ++
    (match u.authority with
      | some a => [0x2F, 0x2F] ++ a
      | none => []) ++ u.path ++
    (match u.query with
      | some q => 0x3F :: q
      | none => []) ++
    (match u.fragment with
      | some f => 0x23 :: f
      | none => [])

/-- The URL without its fragment. -/
def withoutFragment (u : Url) : Url := { u with fragment := none }

/-- Removes `.` and `..` segments from a path, which then starts with a single `/`. -/
def removeDots (path : Bytes) : Bytes :=
  let segs := path.splitOn 0x2F
  let step (st : Bytes × Bool) (elem : Bytes) : Bytes × Bool :=
    let (dst, first) := st
    if elem == [0x2E] then (dst, false)
    else if elem == [0x2E, 0x2E] then
      match dst.reverse.findIdx? (· = 0x2F) with
      | some k => (dst.take (dst.length - k - 1), first)
      | none => ([], true)
    else ((if first then dst else dst ++ [0x2F]) ++ elem, false)
  let (dst, _) := segs.foldl step ([], true)
  let last := segs.getLastD []
  let dst := if last == [0x2E] || last == [0x2E, 0x2E] then dst ++ [0x2F] else dst
  match dst with
  | 0x2F :: _ => dst
  | _ => 0x2F :: dst

/-- Resolves a reference against a base URL. -/
def resolve (base ref : Url) : Url :=
  if !ref.scheme.isEmpty then { ref with path := if ref.path.isEmpty then [] else removeDots ref.path }
  else if ref.authority.isSome then
    { ref with scheme := base.scheme, path := if ref.path.isEmpty then [] else removeDots ref.path }
  else if ref.path.isEmpty then
    { base with query := if ref.query.isSome then ref.query else base.query, fragment := ref.fragment }
  else
    let full := match ref.path with
      | 0x2F :: _ => ref.path
      | _ =>
        let dir := (base.path.reverse.dropWhile (· ≠ 0x2F)).reverse
        dir ++ ref.path
    { base with path := removeDots full, query := ref.query, fragment := ref.fragment }

end Url

end HttpMock.Transport
