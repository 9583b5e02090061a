import Registrar.Bootstrap.Module

/-!
# Initializing a container

A bootstrap imports the modules that register into a container, each at most once on behalf of the
container. It gives way after each import, so that bootstraps of one container can interleave: a
turn goes from one import to the next.
-/

namespace Registrar

/-- A bootstrap under way. -/
structure Bootstrap where
  container : Nat
  /-- The package relative names start from. -/
  anchor : Option String
  /-- How many modules were asked for. -/
  asked : Nat
  /-- The modules still to import. -/
  pending : List String
  /-- The modules imported by this bootstrap, in order. -/
  imported : List String

namespace Bootstrap

/-- The bootstrap of modules, before its first turn. -/
def start (container : Nat) (anchor : Option String) (modules : List String) : Bootstrap :=
  ⟨container, anchor, modules.length, modules, []⟩

/-- The absolute name of a module to import. -/
def resolve (bootstrap : Bootstrap) (reference : String) : Except Fault String :=
  match ModuleName.resolve bootstrap.anchor reference with
  | .ok name => .ok name
  | .error _ => .error (.bootstrap (.unresolved reference bootstrap.anchor) .beyondPackage)

/-- The fault of a bootstrap when an import fails: interruptions stay what they are. -/
def failure (name : String) : Fault → Fault
  | .interrupted fault => .interrupted fault
  | cause => .bootstrap (.failed name) cause

/-- Import a module on behalf of the container. -/
def importModule (bootstrap : Bootstrap) (name : String) : Import Unit := do
  tryCatch (Import.load name) fun fault => throw (failure name fault)
  Import.ofRun (Run.modifyContainer bootstrap.container fun container =>
    { container with initialized := container.initialized ++ [name] })

/-- Whether a module was imported on behalf of the container. -/
def isInitialized (bootstrap : Bootstrap) (name : String) : Import Bool :=
  return (← Import.ofRun (Run.container bootstrap.container)).initialized.contains name

/-- One turn: pass over modules imported before, up to and with the next import. The bootstrap
after it, or none if there was nothing to import. -/
def turn (bootstrap : Bootstrap) : List String → Import (Option Bootstrap)
  | [] => return none
  | reference :: rest => do
    let name ← Import.ofRun (Run.ofExcept (bootstrap.resolve reference))
    if ← bootstrap.isInitialized name then bootstrap.turn rest
    else
      bootstrap.importModule name
      return some { bootstrap with pending := rest, imported := bootstrap.imported ++ [name] }

/-- Report that a bootstrap is done. -/
def finish (bootstrap : Bootstrap) : Import (List String) := do
  let imported := bootstrap.imported.length
  Import.ofRun (Run.report (.initialized imported (bootstrap.asked - imported)))
  return bootstrap.imported

/-- Take turns until the bootstrap is done, at most so many. -/
def run (bootstrap : Bootstrap) : (turns : Nat) → Import (List String)
  | 0 => bootstrap.finish
  | turns + 1 => do
    match ← bootstrap.turn bootstrap.pending with
    | some next => next.run turns
    | none => bootstrap.finish

end Bootstrap

namespace Import

/-- Import modules on behalf of a container; each turn but the last imports one. -/
def populate (container : Nat) (anchor : Option String) (modules : List String) :
    Import (List String) :=
  (Bootstrap.start container anchor modules).run (modules.length + 1)

end Import

end Registrar
