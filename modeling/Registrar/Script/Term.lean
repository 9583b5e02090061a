import Registrar.ItemKind
import Registrar.Signature.Parameter

/-!
# Scripts

The language implementations are written in: terms, which give a value, and the actions on
containers a term can perform.
-/

namespace Registrar

/-- How a callable presents itself. -/
inductive CallableForm
  /-- With a name and a qualified name. -/
  | function
  /-- Without names. -/
  | anonymous
  /-- Without names, and with a signature that cannot be read. -/
  | unreadable
  deriving DecidableEq

/-- How a registration reaches its container. -/
inductive Manner
  /-- By the container's own operation. -/
  | direct
  /-- By an entry point bound to the container. -/
  | entryPoint
  /-- By an entry point that is not given the implementation, and the decorator it returns. -/
  | decorator
  deriving DecidableEq

/-- What a registration of an implementation makes of it. -/
inductive Registrant
  | component | function | hook
  deriving DecidableEq

mutual

/-- A term of a script. Operands are evaluated from left to right. -/
inductive Term
  | null
  | bool (b : Bool)
  | int (n : Int)
  | text (s : String)
  | bytes (octets : String)
  | kind (kind : ItemKind)
  | list (elements : List Term)
  | tuple (elements : List Term)
  | set (elements : List Term)
  | dict (entries : List (Term × Term))
  /-- A read-only view of a mapping. -/
  | view (mapping : Term)
  /-- A new callable. -/
  | callable (parameters : List (Parameter Term)) (body : Term) (name qualifiedName : String)
    (form : CallableForm)
  /-- What an earlier action stored. -/
  | stored (name : String)
  /-- A parameter of the callable being run. -/
  | argument (name : String)
  /-- All parameters of the callable being run, in a new mapping. -/
  | arguments
  | get (mapping key : Term)
  | getOr (mapping key fallback : Term)
  | has (mapping key : Term)
  | keys (mapping : Term)
  | put (mapping key value : Term)
  | concat (parts : List Term)
  | add (left right : Term)
  | call (callee : Term) (positions : List Term) (names : List (Term × Term))
  | sequence (terms : List Term)
  | branch (condition yes no : Term)
  /-- Whether two values are identical. -/
  | same (left right : Term)
  /-- Whether two values are equal. -/
  | equal (left right : Term)
  /-- The number of a value, in the order of first asking. -/
  | identity (value : Term)
  /-- Record a value. -/
  | trace (value : Term)
  | fail (message : String)
  /-- Perform an action on a container, and keep its value under a name if one is given. -/
  | perform (container : String) (keep : Option String) (action : Action)

/-- An action on a container. -/
inductive Action
  /-- Create the container. -/
  | create (strict : Bool)
  | registerConfig (name config : Term)
  | register (registrant : Registrant) (manner : Manner) (name dependencies : Term)
    (implementation : Option Term) (kind : Option Term)
  | evaluate (term : Term)
  | get (name : Term)
  | contains (name : Term)
  /-- The keys of the items, in order. -/
  | names
  | count
  /-- Build a dependency set. -/
  | build (dependencies : Term) (overrides : Option Term)
  /-- The kind and the name of an item. -/
  | metadata (target : Term)
  /-- The displayed form of a value. -/
  | display (target : Term)
  /-- All that is known of a function or component item. -/
  | inspect (target : Term)

end

instance : Inhabited Term := ⟨.null⟩

instance : Inhabited Action := ⟨.names⟩

end Registrar
