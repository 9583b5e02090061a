import Registrar.Signature.Parameter

/-!
# Where the dependency set goes

An implementation with dependencies receives its dependency set in its last positional parameter.
The signature callers see hides that parameter and has a named one for the override bag instead.
-/

namespace Registrar

/-- The name that brings the override bag in. -/
def bagName : String := "deps"

/-- The parameter that receives the dependency set. -/
structure DependencyParameter where
  name : String
  /-- Its index among the positional parameters. -/
  position : Nat
  positionalOnly : Bool
  deriving DecidableEq

/-- Why a signature has no place for a dependency set. -/
inductive NoDependencyParameter
  /-- The last position is open-ended. -/
  | variadic
  /-- No parameter takes a position. -/
  | noPositional
  /-- Another parameter has the name of the override bag. -/
  | nameTaken
  deriving DecidableEq

namespace Signature

variable {α : Type}

/-- Whether a parameter besides the last positional one has the name of the override bag. -/
def takesBagName (signature : Signature α) (last : Parameter α) : Bool :=
  last.name != bagName && signature.any (·.name == bagName)

/-- The last positional parameter, if it can receive the dependency set. -/
def dependencyParameter (signature : Signature α) :
    Except NoDependencyParameter DependencyParameter :=
  if signature.isVariadic then .error .variadic
  else match signature.positionals.getLast? with
    | none => .error .noPositional
    | some last =>
      if signature.takesBagName last then .error .nameTaken
      else .ok ⟨last.name, signature.positionals.length - 1, last.kind == .positionalOnly⟩

/-- A named parameter for the override bag, after all others but the one for the names left. -/
def withBag (absent : α) : Signature α → Signature α
  | [] => [⟨bagName, .named, some absent⟩]
  | [parameter] =>
    if parameter.kind == .keywords then [⟨bagName, .named, some absent⟩, parameter]
    else [parameter, ⟨bagName, .named, some absent⟩]
  | parameter :: rest => parameter :: withBag absent rest

/-- The signature callers see: no dependency set, and an override bag that may be `absent`. -/
def visible (absent : α) (signature : Signature α) (hidden : DependencyParameter) : Signature α :=
  withBag absent (signature.filter fun parameter => parameter.name != hidden.name)

end Signature

/-- How a function is called once it is registered. -/
structure Injection (α : Type) where
  /-- Where the dependency set goes, if there is one. -/
  parameter? : Option DependencyParameter
  /-- The signature callers see. -/
  signature : Signature α

/-- How a function of this signature is called, with or without dependencies. -/
def Signature.injection {α : Type} (absent : α) (signature : Signature α) (hasDependencies : Bool) :
    Except NoDependencyParameter (Injection α) :=
  if hasDependencies then
    signature.dependencyParameter.map fun hidden => ⟨some hidden, signature.visible absent hidden⟩
  else .ok ⟨none, signature⟩

end Registrar
