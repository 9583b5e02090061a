import Registrar.Project.Analysis

/-!
# Generation of the container module

A project whose container module is rendered, written and compared. When there is no module yet, an
empty one is written before the analysis, because the scanned modules import from it.
-/

namespace Registrar

/-- A project: the files to scan, the generated module and the module of the runtime primitives. -/
structure Project where
  selection : Selection
  /-- The generated module; absolute, its links not followed. -/
  output : Path
  runtimeModule : String

/-- What a generation did. -/
structure GenerationResult where
  output : Path
  files : List FileExports
  /-- Whether the output file was written. -/
  changed : Bool

namespace Project

/-- The project some settings describe. -/
def make (includes excludes : List String) (root output : Path) (runtimeModule : String) :
    Work Project := do
  let root ← Work.resolve root
  let output := root.join output
  let selection ← Selection.make includes excludes root (some output)
  return { selection, output, runtimeModule }

/-- The container module for some exports. -/
def renderFiles (project : Project) (files : List FileExports) : Work String := do
  if !RuntimeName.accepts project.runtimeModule then
    throw (.catalogue (.runtimeName project.runtimeModule))
  let output ← Work.resolve project.output
  let (events, rendered) := Catalogue.render project.runtimeModule output.parent.names files
  Work.reportAll events
  match rendered with
  | .ok text => pure text
  | .error error => throw (.catalogue error)

/-- The container module with no registrations. -/
def placeholder (project : Project) : Work String := project.renderFiles []

/-- The container module for the files as they are. -/
def render (project : Project) : Work String := do
  let files ← Analysis.run project.selection
  project.renderFiles files

/-- Write the container module unless it is there already; whether it was written. -/
def writeIfChanged (project : Project) (text : String) : Work Bool := do
  if (← Work.readText? project.output) == some text then
    Work.report (.upToDate project.output)
    return false
  else
    Work.writeText project.output text
    return true

/-- Write an empty container module if there is none; whether it was written. -/
def writePlaceholder (project : Project) : Work Bool := do
  if (← get).tree.pathExists project.output.names then return false
  else
    Work.report .placeholder
    let text ← project.placeholder
    Work.writeText project.output text
    return true

/-- Scan the project and write its container module. -/
def generate (project : Project) : Work GenerationResult := do
  Work.report (.generating project.output)
  let wrotePlaceholder ← project.writePlaceholder
  let files ← Analysis.run project.selection
  let text ← project.renderFiles files
  let changed ← project.writeIfChanged text
  Work.report (.generated project.output (FileExports.count files) files.length)
  return ⟨project.output, files, changed || wrotePlaceholder⟩

/-- Whether the container module is what a rendering gives. -/
def isCurrent (project : Project) : Work Bool := do
  let expected ← project.render
  let current ← Work.readText? project.output
  return current == some expected

end Project

end Registrar
