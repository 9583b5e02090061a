/-!
# File trees

A file tree is its root directory: files with their octets, symbolic links with their targets, and
directories with their entries. Places in a tree are lists of names from the root.
-/

namespace Registrar

/-- A file, a symbolic link or a directory. -/
inductive FileNode
  | file (content : ByteArray)
  | link (target : String)
  | directory (entries : List (String × FileNode))

/-- Why an operation on files fails. -/
inductive FileError
  | notFound
  | alreadyExists
  | notDirectory
  | isDirectory
  | tooManyLinks
  deriving DecidableEq

/-- The number by which a system names an error. -/
def FileError.number : FileError → Nat
  | notFound => 2
  | alreadyExists => 17
  | notDirectory => 20
  | isDirectory => 21
  | tooManyLinks => 40

namespace FileNode

/-- The tree with nothing in it. -/
def empty : FileNode := .directory []

/-- The entries of a directory; anything else has none. -/
def entries : FileNode → List (String × FileNode)
  | .directory entries => entries
  | _ => []

/-- Whether a node is a directory. -/
def isDirectory : FileNode → Bool
  | .directory _ => true
  | _ => false

/-- Whether a node is a file. -/
def isFile : FileNode → Bool
  | .file _ => true
  | _ => false

/-- What stands at a place, links not followed. -/
def get? (node : FileNode) : List String → Option FileNode
  | [] => some node
  | name :: names => (node.entries.lookup name).bind (get? · names)

/-- Entries with one set: in its place if its name is there, else at the end. -/
def setEntry (name : String) (node : FileNode) : List (String × FileNode) → List (String × FileNode)
  | [] => [(name, node)]
  | entry :: entries =>
    if entry.1 == name then (name, node) :: entries else entry :: setEntry name node entries

/-- Put a node at a place whose directory exists. -/
def put (node new : FileNode) : List String → FileNode
  | [] => new
  | name :: names =>
    match node with
    | .directory entries =>
      let child := (entries.lookup name).getD empty
      .directory (setEntry name (put child new names) entries)
    | node => node

/-- Take away what stands at a place. -/
def remove (node : FileNode) : List String → FileNode
  | [] => node
  | [name] => match node with
    | .directory entries => .directory (entries.filter (·.1 != name))
    | node => node
  | name :: names => match node with
    | .directory entries =>
      match entries.lookup name with
      | some child => .directory (setEntry name (remove child names) entries)
      | none => node
    | node => node

mutual

/-- How many nodes a tree has. -/
def size : FileNode → Nat
  | .file _ | .link _ => 1
  | .directory entries => sizeEntries entries + 1

/-- How many nodes some entries have. -/
def sizeEntries : List (String × FileNode) → Nat
  | [] => 0
  | (_, node) :: entries => size node + sizeEntries entries

end

end FileNode

end Registrar
