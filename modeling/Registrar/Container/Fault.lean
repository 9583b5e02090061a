import Registrar.Text.Quoted

/-!
# Faults

Why an operation on a container fails, and what is said about it. Only faults the library itself
words have a message.
-/

namespace Registrar

/-- What is wrong with a registration. Values appear in their displayed form. -/
inductive RegistrationProblem
  /-- The name is no text or empty. -/
  | badName (operation shown : String)
  /-- The configuration is no mapping. -/
  | notMapping (name typeName : String)
  /-- The dependencies are no list. -/
  | notDependencies (operation name shown : String)
  /-- Some dependencies are no text or empty. -/
  | badDependencies (operation name shown : String)
  /-- The implementation cannot be called. -/
  | notCallable (operation name : String)
  /-- The kind is no kind of function. -/
  | badKind (shown : String)
  /-- The signature of the function cannot be read. -/
  | unreadable (name : String)
  /-- The function with dependencies has an open-ended last position. -/
  | variadic (name : String)
  /-- The function with dependencies takes no position. -/
  | noPositional (name : String)
  /-- The function uses the name of the override bag for something else. -/
  | bagNameTaken (name : String)
  deriving DecidableEq

/-- What is said about a registration. -/
def RegistrationProblem.message : RegistrationProblem → String
  | badName operation shown =>
    operation ++ "() parameter 'name' must be a non-empty string, got " ++ shown ++ "."
  | notMapping name typeName =>
    "register_config() expects a mapping for " ++ quoted name ++ ", got " ++ typeName ++ "."
  | notDependencies operation name shown =>
    operation ++ "() expects a list of dependency keys for " ++ quoted name ++ ", got " ++ shown
      ++ "."
  | badDependencies operation name shown =>
    operation ++ "() got invalid dependency keys for " ++ quoted name ++ ": " ++ shown ++ "."
  | notCallable operation name =>
    operation ++ "() expects a callable implementation for " ++ quoted name ++ "."
  | badKind shown =>
    "register_function() parameter 'kind' must be FUNCTION or HOOK, got " ++ shown ++ "."
  | unreadable name =>
    "Cannot inspect the signature of the function registered as " ++ quoted name ++ "."
  | variadic name =>
    "Function registered as " ++ quoted name
      ++ " declares dependencies and '*args'; "
      ++ "the dependency set must be its last positional parameter."
  | noPositional name =>
    "Function registered as " ++ quoted name
      ++ " declares dependencies but has no positional parameter to receive the dependency set."
  | bagNameTaken name =>
    "Function registered as " ++ quoted name
      ++ " uses the reserved parameter name 'deps' for something other than its dependency set."

/-- Why a module does not take part in a bootstrap. -/
inductive BootstrapProblem
  /-- Its name cannot be resolved. -/
  | unresolved (reference : String) (anchor : Option String)
  /-- Its import fails. -/
  | failed (name : String)
  deriving DecidableEq

/-- What is said about a bootstrap. -/
def BootstrapProblem.message : BootstrapProblem → String
  | unresolved reference anchor =>
    "Cannot resolve container module " ++ quoted reference ++ " from package "
      ++ (anchor.map quoted).getD "None" ++ "."
  | failed name => "Failed to import container module " ++ quoted name ++ "."

/-- Why an operation fails. -/
inductive Fault
  | registration (problem : RegistrationProblem)
  /-- A declared dependency is neither overridden nor registered. -/
  | unregistered (shown : String)
  /-- A bootstrap fails, because of another fault. -/
  | bootstrap (problem : BootstrapProblem) (cause : Fault)
  /-- A function item is called with too many positions. -/
  | tooManyPositions (name : String) (most given : Nat)
  /-- A function item is called with two override bags. -/
  | secondBag (name : String)
  /-- A gate that is not mounted is waited for. -/
  | unmounted
  /-- A script fails on its own account. -/
  | raised (message : String)
  /-- Something has the wrong type, or a call does not bind. -/
  | mistyped
  /-- A mapping has no such key. -/
  | missingKey
  /-- A value has no such operation. -/
  | missingOperation
  /-- A sequence has no such place. -/
  | missingIndex
  /-- Calls or values are nested too deeply. -/
  | tooDeep
  /-- A module name is empty. -/
  | emptyModuleName
  /-- A relative module name leaves its package. -/
  | beyondPackage
  /-- There is no such module. -/
  | missingModule
  /-- A module is interrupted, which no one handles. -/
  | interrupted (name : String)
  /-- A module fails with a fault of its own, named so. -/
  | foreign (name : String)
  deriving DecidableEq

/-- What is said about a fault. -/
def Fault.message? : Fault → Option String
  | registration problem => some problem.message
  | unregistered shown =>
    some ("Dependency " ++ shown ++ " is not registered and was not overridden.")
  | bootstrap problem _ => some problem.message
  | tooManyPositions name most given =>
    some (name ++ "() takes at most " ++ toString most ++ " positional arguments but "
      ++ toString given ++ " were given")
  | secondBag name => some (name ++ "() got multiple override bags")
  | unmounted =>
    some ("ContainerInitializer.wait_ready() requires a mounted gate; "
      ++ "call mount() first.")
  | raised message => some message
  | _ => none

end Registrar
