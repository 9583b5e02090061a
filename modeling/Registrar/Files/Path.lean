/-!
# Paths

File paths as a root and names. Empty names and single points are dropped when a path is read, double
points are kept; two leading slashes are a root of their own.
-/

namespace Registrar

/-- Where a path starts. -/
inductive PathRoot
  | relative
  | slash
  | doubleSlash
  deriving DecidableEq

/-- A path: its root and the names below it. -/
structure Path where
  root : PathRoot
  names : List String
  deriving DecidableEq

namespace Path

/-- The root as it is written. -/
def rootText : PathRoot → String
  | .relative => ""
  | .slash => "/"
  | .doubleSlash => "//"

/-- The root a text starts with. -/
def rootOf : List Char → PathRoot
  | '/' :: '/' :: '/' :: _ => .slash
  | '/' :: '/' :: _ => .doubleSlash
  | '/' :: _ => .slash
  | _ => .relative

/-- Cut a text at slashes; `name` is the current piece in reverse. -/
def splitFrom (name : List Char) : List Char → List (List Char)
  | [] => [name.reverse]
  | c :: cs => if c == '/' then name.reverse :: splitFrom [] cs else splitFrom (c :: name) cs

/-- The pieces of a text between slashes. -/
def split (text : String) : List String :=
  (splitFrom [] text.toList).map String.ofList

/-- Whether a piece of a text is a name of the path. -/
def isNamed (piece : String) : Bool := piece != "" && piece != "."

/-- Read a path. -/
def ofString (text : String) : Path :=
  ⟨rootOf text.toList, (split text).filter isNamed⟩

/-- Write a path; the empty relative path is a point. -/
def toString (path : Path) : String :=
  let names := "/".intercalate path.names
  match path.root, path.names with
  | .relative, [] => "."
  | root, _ => rootText root ++ names

instance : ToString Path := ⟨toString⟩

/-- Whether a path starts at a root. -/
def isAbsolute (path : Path) : Bool := path.root != .relative

/-- Whether a text is an absolute path. -/
def isAbsoluteText (text : String) : Bool := text.toList.head? == some '/'

/-- A path below another, unless it is absolute. -/
def join (base path : Path) : Path :=
  if path.isAbsolute then path else { base with names := base.names ++ path.names }

/-- The parts of a path, its root first. -/
def parts (path : Path) : List String :=
  match path.root with
  | .relative => path.names
  | root => rootText root :: path.names

/-- The last name of a path, empty if there is none. -/
def name (path : Path) : String := path.names.getLast?.getD ""

/-- The path without its last name. -/
def parent (path : Path) : Path := { path with names := path.names.dropLast }

/-- Cut a name before its last point, unless that is its first or last character. -/
def splitSuffix (name : String) : String × String :=
  let reversed := name.toList.reverse
  let suffix := reversed.takeWhile (· != '.')
  match reversed.dropWhile (· != '.') with
  | '.' :: stem =>
    if stem.isEmpty || suffix.isEmpty then (name, "")
    else (String.ofList stem.reverse, String.ofList ('.' :: suffix.reverse))
  | _ => (name, "")

/-- The last name without its suffix. -/
def stem (path : Path) : String := (splitSuffix path.name).1

/-- The path with the suffix of its last name dropped; none if it has no name. -/
def dropSuffix? (path : Path) : Option Path :=
  match path.names.getLast? with
  | none => none
  | some _ => some { path with names := path.names.dropLast ++ [path.stem] }

/-- Names below the root with double points carried out; those above the root are dropped. -/
def normalize (names : List String) : List String :=
  (names.foldl (fun (done : List String) name =>
    if name == ".." then done.drop 1
    else if isNamed name then name :: done
    else done) []).reverse

/-- Drop the names two lists start with in common. -/
def dropCommon : List String → List String → List String × List String
  | a :: as, b :: bs => if a == b then dropCommon as bs else (a :: as, b :: bs)
  | as, bs => (as, bs)

/-- The names that lead from one directory to a path, both given from the root: steps up, then down. -/
def relativeNames (path start : List String) : List String :=
  let (down, up) := dropCommon (normalize path) (normalize start)
  up.map (fun _ => "..") ++ down

end Path

end Registrar
