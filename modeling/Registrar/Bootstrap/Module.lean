import Registrar.Bootstrap.ModuleName
import Registrar.Script.Evaluation

/-!
# Importing modules

A module is imported after the packages above it, and executed once unless it fails. Executing it
performs its steps on containers.
-/

namespace Registrar

/-- How a module ends after its steps. -/
inductive ModuleEnding
  | returns
  /-- With a fault of its own, named so. -/
  | fails (name : String)
  /-- With an interruption, which no one handles, named so. -/
  | interrupts (name : String)
  deriving DecidableEq

/-- What can be imported under a name. -/
structure ModuleSource where
  isPackage : Bool
  steps : List Step
  ending : ModuleEnding

/-- A session with the modules it can import and has imported. -/
structure Program where
  session : Session
  sources : List (String × ModuleSource)
  /-- The modules imported so far, and whether they are packages. -/
  loaded : List (String × Bool)
  /-- The modules executed, in order. -/
  executed : List String

/-- A part of a run that can import modules. -/
abbrev Import := ExceptT Fault (StateM Program)

namespace Import

/-- A part of a run on the session. -/
def ofRun {α : Type} (part : Run α) : Import α := do
  let program ← get
  let (result, session) := part.run.run program.session
  set { program with session }
  match result with
  | .ok value => return value
  | .error fault => throw fault

/-- Whether a module imported so far is a package. -/
def package? (name : String) : Import (Option Bool) :=
  return Entries.find? (· == ·) (← get).loaded name

/-- Perform the steps of a module. -/
def performAll : List Step → Import Unit
  | [] => return
  | step :: rest => do
    let _ ← ofRun step.run
    performAll rest

/-- Execute a module. -/
def execute (name : String) (source : ModuleSource) : Import Unit := do
  modify fun program => { program with executed := program.executed ++ [name] }
  performAll source.steps
  match source.ending with
  | .returns =>
    modify fun program =>
      { program with loaded := Entries.put (· == ·) program.loaded name source.isPackage }
  | .fails fault => throw (.foreign fault)
  | .interrupts fault => throw (.interrupted fault)

/-- Import a module whose parent, if it has one, is imported. -/
def loadBelow (parent? : Option String) (name : String) : Import Unit := do
  if (← package? name).isSome then return
  if let some parent := parent? then
    if (← package? parent) != some true then throw .missingModule
  match Entries.find? (· == ·) (← get).sources name with
  | some source => execute name source
  | none => throw .missingModule

/-- Import modules, each the parent of the next. -/
def loadAll : Option String → List String → Import Unit
  | _, [] => return
  | parent?, name :: rest => do
    loadBelow parent? name
    loadAll (some name) rest

/-- Import the module of a name. -/
def load (name : String) : Import Unit := do
  if name.isEmpty then throw .emptyModuleName
  if ModuleName.isRelative name then throw .mistyped
  if (← package? name).isNone then loadAll none (ModuleName.lineage name)

end Import

end Registrar
