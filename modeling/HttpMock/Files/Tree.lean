import HttpMock.Bytes
/-! A tree of files held in memory, and slash-separated paths into it. -/
namespace HttpMock.Files

/-- The lexical form of a path: repeated slashes, `.` components and `..` components after a
name are removed, a rooted path keeps its leading slash, and the empty result is `.`. -/
def clean (p : String) : String :=
  let rooted := p.startsWith "/"
  let step (acc : List String) (c : String) : List String :=
    if c = "" || c = "." then acc
    else if c = ".." then
      match acc with
      | last :: rest => if last = ".." then c :: acc else rest
      | [] => if rooted then [] else [c]
    else c :: acc
  let parts := ((p.splitOn "/").foldl step []).reverse
  let body := "/".intercalate parts
  if rooted then "/" ++ body else if body.isEmpty then "." else body

/-- Two paths joined with a slash and cleaned; an empty part is left out. -/
def join (dir name : String) : String :=
  if dir.isEmpty then (if name.isEmpty then "" else clean name)
  else if name.isEmpty then clean dir
  else clean (dir ++ "/" ++ name)

/-- What a path names. -/
inductive Entry where
  | file (content : Bytes)
  | directory
  | missing
  /-- The path goes on below a file. -/
  | belowFile
  deriving DecidableEq, Repr

/-- Files in memory, each under the components of its path, and directories known to exist
though they may hold no file. -/
structure Tree where
  files : List (List String × Bytes) := []
  directories : List (List String) := []
  deriving Inhabited

namespace Tree

/-- The components of a path as the tree stores them: a rooted path starts with an empty
component. -/
def components (p : String) : List String :=
  match clean p with
  | "." => []
  | "/" => [""]
  | c => c.splitOn "/"

/-- A tree of the given files, each under its cleaned path. -/
def ofList (fs : List (String × Bytes)) : Tree :=
  { files := fs.map fun (p, c) => (components p, c) }

/-- A tree with one more file. -/
def addFile (t : Tree) (p : String) (content : Bytes) : Tree :=
  { t with files := t.files ++ [(components p, content)] }

/-- A tree with one more directory. -/
def addDirectory (t : Tree) (p : String) : Tree :=
  { t with directories := t.directories ++ [components p] }

/-- What the components name: a file stored there, or a directory that is known or that some
file or directory lies in. -/
def kindAt (t : Tree) (at_ : List String) : Entry :=
  let below (cs : List String) : Bool := at_.isPrefixOf cs && cs.length > at_.length
  match t.files.find? (·.1 == at_) with
  | some (_, content) => .file content
  | none =>
    if t.directories.contains at_ || t.files.any (below ·.1) || t.directories.any below then .directory
    else .missing

/-- Looks a path up one component at a time from a directory. -/
def walk (t : Tree) : List String → List String → Entry
  | here, [] => if here.isEmpty || here = [""] then .directory else t.kindAt here
  | here, c :: rest =>
    if c = "" || c = "." then walk t here rest
    else if c = ".." then
      let up := match here.reverse with
        | [] => [".."]
        | [""] => [""]
        | last :: before => if last = ".." then here ++ [".."] else before.reverse
      walk t up rest
    else
      let next := here ++ [c]
      match t.kindAt next with
      | .file content => if rest.isEmpty then .file content else .belowFile
      | .directory => walk t next rest
      | e => e

/-- What a path names. The empty path names nothing. -/
def stat (t : Tree) (p : String) : Entry :=
  if p.isEmpty then .missing
  else
    let parts := p.splitOn "/"
    if p.startsWith "/" then t.walk [""] (parts.drop 1) else t.walk [] parts

/-- The files below a directory, by their paths relative to it. -/
def filesBelow (t : Tree) (dir : String) : List String :=
  match t.stat dir with
  | .directory =>
    let base := components dir
    t.files.filterMap fun (cs, _) =>
      if base.isPrefixOf cs && cs.length > base.length then some ("/".intercalate (cs.drop base.length))
      else none
  | _ => []

end Tree

end HttpMock.Files
