import Registrar.Catalogue.Render
import Registrar.Files.Resolve

/-!
# Work on a project

What happens in a tree of files: steps that read and change the tree, report events, and may fail.
What was changed and reported before a failure stays.
-/

namespace Registrar

/-- A tree of files, the directory relative paths start at, and the events reported so far. -/
structure World where
  tree : FileNode
  working : List String
  events : List Event

/-- Why work on a project fails. -/
inductive ProjectError
  /-- An operation on files fails. -/
  | file (error : FileError)
  /-- A file is no text. -/
  | undecodable
  /-- A path cannot be resolved. -/
  | unresolved (error : ResolveError)
  /-- The container module cannot be generated. -/
  | catalogue (error : CatalogueError)

/-- A step of work. -/
abbrev Work := ExceptT ProjectError (StateM World)

namespace Work

/-- Report an event. -/
def report (event : Event) : Work Unit :=
  modify fun world => { world with events := world.events ++ [event] }

/-- Report events in order. -/
def reportAll (events : List Event) : Work Unit :=
  modify fun world => { world with events := world.events ++ events }

/-- The result of an operation on files, or its failure. -/
def ofFiles {α : Type} : Except FileError α → Work α
  | .ok value => pure value
  | .error error => throw (.file error)

/-- A path without links. -/
def resolve (path : Path) : Work Path := do
  let world ← get
  match path.resolve world.tree world.working with
  | .ok path => pure path
  | .error error => throw (.unresolved error)

/-- The text in octets, with every line end a newline. -/
def decode? (content : ByteArray) : Option String :=
  (String.fromUTF8? content).map fun text => String.ofList (unifyLineEnds text.toList)

/-- The text of a file. -/
def readText (path : Path) : Work String := do
  let content ← ofFiles ((← get).tree.read path.names)
  match decode? content with
  | some text => pure text
  | none => throw .undecodable

/-- The text of a file, or none if there is no file. -/
def readText? (path : Path) : Work (Option String) := do
  match (← get).tree.read path.names with
  | .error .notFound => pure none
  | _ => some <$> readText path

/-- Write a text into a file, making the directories above it. -/
def writeText (path : Path) (text : String) : Work Unit := do
  let (tree, made) := (← get).tree.makeDirectories path.parent.names.reverse
  modify fun world => { world with tree }
  ofFiles made
  let tree ← ofFiles (tree.write path.names text.toUTF8)
  modify fun world => { world with tree }

end Work

end Registrar
