import Registrar.Files.Path
import Registrar.Files.Tree

/-!
# Places

Where a path leads in a tree. Links on the way are followed, at most forty of them; whether one at
the end is followed too depends on the operation. On that rest reading, writing and making
directories.
-/

namespace Registrar

/-- Where a path leads. -/
inductive Place
  /-- To something that exists. -/
  | existing (names : List String)
  /-- To nothing yet, in a directory that exists. -/
  | missing (directory : List String) (name : String)
  deriving DecidableEq

namespace FileNode

/-- Follow the pieces of a path from a directory, up to the first link; `onLink` goes on from there
with the directory, the link's target and the pieces left. -/
def followUntil (tree : FileNode)
    (onLink : List String → String → List String → Except FileError Place) (followLast : Bool)
    (here : List String) : List String → Except FileError Place
  | [] => .ok (.existing here)
  | piece :: rest =>
    if !Path.isNamed piece then followUntil tree onLink followLast here rest
    else if piece == ".." then followUntil tree onLink followLast here.dropLast rest
    else match tree.get? (here ++ [piece]) with
      | none => if rest.isEmpty then .ok (.missing here piece) else .error .notFound
      | some (.directory _) => followUntil tree onLink followLast (here ++ [piece]) rest
      | some (.file _) =>
        if rest.isEmpty then .ok (.existing (here ++ [piece])) else .error .notDirectory
      | some (.link target) =>
        if rest.isEmpty && !followLast then .ok (.existing (here ++ [piece]))
        else onLink here target rest

/-- Follow the pieces of a path from a directory over at most `links` links. -/
def follow (tree : FileNode) (followLast : Bool) : (links : Nat) → List String → List String →
    Except FileError Place
  | 0, here, pieces =>
    followUntil tree (fun _ _ _ => .error .tooManyLinks) followLast here pieces
  | links + 1, here, pieces =>
    followUntil tree (fun here target rest =>
      follow tree followLast links (if Path.isAbsoluteText target then [] else here)
        (Path.split target ++ rest)) followLast here pieces

/-- The most links that are followed on one way. -/
def maximalLinks : Nat := 40

/-- Where the pieces of an absolute path lead. -/
def locate (tree : FileNode) (followLast : Bool) (pieces : List String) : Except FileError Place :=
  tree.follow followLast maximalLinks [] pieces

/-- What a path leads to, links followed. -/
def status (tree : FileNode) (pieces : List String) : Except FileError FileNode :=
  match tree.locate true pieces with
  | .error error => .error error
  | .ok (.missing ..) => .error .notFound
  | .ok (.existing names) =>
    match tree.get? names with
    | some node => .ok node
    | none => .error .notFound

/-- Whether a path leads to something, links followed. -/
def pathExists (tree : FileNode) (pieces : List String) : Bool :=
  match tree.status pieces with
  | .ok _ => true
  | .error _ => false

/-- Whether something stands at the end of a path, be it a link to nowhere. -/
def entryExists (tree : FileNode) (pieces : List String) : Bool :=
  match tree.locate false pieces with
  | .ok (.existing _) => true
  | _ => false

/-- Whether a path leads to a directory. -/
def isDirectoryAt (tree : FileNode) (pieces : List String) : Bool :=
  match tree.status pieces with
  | .ok node => node.isDirectory
  | .error _ => false

/-- Whether a path leads to a file. -/
def isFileAt (tree : FileNode) (pieces : List String) : Bool :=
  match tree.status pieces with
  | .ok node => node.isFile
  | .error _ => false

/-- The octets of the file a path leads to. -/
def read (tree : FileNode) (pieces : List String) : Except FileError ByteArray :=
  match tree.status pieces with
  | .ok (.file content) => .ok content
  | .ok (.directory _) => .error .isDirectory
  | .ok (.link _) => .error .notFound
  | .error error => .error error

/-- Give the file a path leads to new octets; a missing file is made, in a directory that exists. -/
def write (tree : FileNode) (pieces : List String) (content : ByteArray) :
    Except FileError FileNode :=
  match tree.locate true pieces with
  | .error error => .error error
  | .ok (.missing parent name) => .ok (tree.put (.file content) (parent ++ [name]))
  | .ok (.existing names) =>
    match tree.get? names with
    | some (.directory _) => .error .isDirectory
    | _ => .ok (tree.put (.file content) names)

/-- Take away the file or link at the end of a path. -/
def unlink (tree : FileNode) (pieces : List String) : Except FileError FileNode :=
  match tree.locate false pieces with
  | .error error => .error error
  | .ok (.missing ..) => .error .notFound
  | .ok (.existing names) =>
    match tree.get? names with
    | some (.directory _) => .error .isDirectory
    | _ => .ok (tree.remove names)

/-- Make one directory. -/
def makeDirectory (tree : FileNode) (pieces : List String) : Except FileError FileNode :=
  match tree.locate false pieces with
  | .error error => .error error
  | .ok (.existing _) => .error .alreadyExists
  | .ok (.missing parent name) => .ok (tree.put empty (parent ++ [name]))

/-- Make a directory unless it exists, with the missing ones above it; the path is given by its names
in reverse. The tree is what was made until an error. -/
def makeDirectories (tree : FileNode) : List String → FileNode × Except FileError Unit
  | [] => (tree, .ok ())
  | name :: above =>
    let pieces := (name :: above).reverse
    let settle (tree : FileNode) (error : FileError) : FileNode × Except FileError Unit :=
      if tree.isDirectoryAt pieces then (tree, .ok ()) else (tree, .error error)
    match tree.makeDirectory pieces with
    | .ok tree => (tree, .ok ())
    | .error .notFound =>
      match makeDirectories tree above with
      | (tree, .error error) => (tree, .error error)
      | (tree, .ok ()) =>
        match tree.makeDirectory pieces with
        | .ok tree => (tree, .ok ())
        | .error .notFound => (tree, .error .notFound)
        | .error error => settle tree error
    | .error error => settle tree error

/-- The names in the directory a path leads to; none if it is no directory. -/
def list (tree : FileNode) (pieces : List String) : List String :=
  match tree.status pieces with
  | .ok (.directory entries) => entries.map (·.1)
  | _ => []

end FileNode

end Registrar
