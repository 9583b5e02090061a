import Registrar.Project.Work
import Registrar.Selection.Expand

/-!
# Analysis of a project

The registrations in the selected files, with an alias for each. A file that cannot be read, or is no
module, has none.
-/

namespace Registrar

namespace Selection

/-- The selection that some settings describe: the root and the generated module are resolved. -/
def make (includes excludes : List String) (root : Path) (output : Option Path) : Work Selection := do
  let root ← Work.resolve root
  let output ← output.mapM Work.resolve
  return { includes, excludes, root, output }

/-- The files that a selection selects. -/
def files (selection : Selection) : Work (List Path) := do
  let world ← get
  match selection.expand world.tree world.working with
  | .ok paths => pure paths
  | .error error => throw (.unresolved error)

/-- Whether a selection selects a path, which need not exist. -/
def selectsPath (selection : Selection) (path : Path) : Work Bool :=
  selection.selects <$> Work.resolve (selection.root.join path)

end Selection

namespace Analysis

/-- The text of a file in a tree, if it can be read. -/
def textAt? (tree : FileNode) (path : Path) : Option String :=
  match tree.read path.names with
  | .ok content => Work.decode? content
  | .error _ => none

/-- The registrations in one file, and what is reported about it. -/
def scanFile (entryPoints : EntryPoints) (tree : FileNode) (path : Path) :
    List Event × List Registration :=
  match textAt? tree path with
  | none => ([.unreadable path], [])
  | some source =>
    match Registration.scanSource? entryPoints source with
    | none => ([.unparsable path], [])
    | some scan => (scan.skipped.map .keyNotLiteral, scan.registrations)

/-- Scan some files in order. -/
def scanFiles (entryPoints : EntryPoints) (paths : List Path) :
    Work (List (Path × List Registration)) := do
  let tree := (← get).tree
  let scans := paths.map fun path => (path, scanFile entryPoints tree path)
  Work.reportAll (scans.flatMap fun (_, events, _) => events)
  return scans.map fun (path, _, registrations) => (path, registrations)

/-- The exports of the selected files. -/
def run (selection : Selection) : Work (List FileExports) := do
  let paths ← selection.files
  Work.report (.scanning paths.length)
  let scans ← scanFiles .usual paths
  return FileExports.number 0 scans

end Analysis

end Registrar
