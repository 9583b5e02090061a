import Registrar.Script.Term
import Registrar.Signature.Injection

/-!
# Values and objects

A value is immediate or the reference of an object. Identity of values is equality of this type:
immediate values are identical when kind and content agree, objects when they were created once.
Objects live in a store that only grows, and few of them change: lists, mappings and the memo of a
component.
-/

namespace Registrar

/-- A value. -/
inductive Value
  | null
  | bool (b : Bool)
  | int (n : Int)
  | text (s : String)
  /-- Octets, as the characters of their values. -/
  | bytes (octets : String)
  | kind (kind : ItemKind)
  | object (reference : Nat)
  deriving DecidableEq, Inhabited

/-- A callable written as a script. -/
structure Callable where
  signature : Signature Value
  body : Term
  name : String
  qualifiedName : String
  form : CallableForm

/-- A registered function or hook. -/
structure FunctionItem where
  name : String
  kind : ItemKind
  dependencies : List String
  implementation : Value
  injection : Injection Value
  /-- The container it was registered in. -/
  container : Nat
  shownName? : Option String
  qualifiedName? : Option String

/-- What a component handed over, and the circumstances under which it may do so again. -/
structure Memo where
  /-- The properties besides the override bag. -/
  properties : List (String × Value)
  bag : List (Value × Value)
  /-- What was registered under the dependencies. -/
  registered : List (String × Value)
  /-- The dependency set. -/
  dependencies : Value

/-- A registered component. -/
structure ComponentItem where
  name : String
  dependencies : List String
  implementation : Value
  container : Nat
  displayName : String
  shownName? : Option String
  qualifiedName? : Option String
  memo? : Option Memo

/-- A registration that waits for its implementation. -/
structure PendingRegistration where
  container : Nat
  /-- The kind of function to register, or none for a component. -/
  kind? : Option Value
  name : Value
  dependencies : Value

/-- An object. -/
inductive Object
  | list (elements : List Value)
  | tuple (elements : List Value)
  /-- A set of at most one element. -/
  | set (element : Option Value)
  | dict (entries : List (Value × Value))
  /-- A registered configuration mapping. -/
  | config (name : String) (entries : List (Value × Value))
  /-- A dependency set, which never changes. -/
  | dependencies (entries : List (Value × Value))
  /-- A read-only view of a mapping. -/
  | view (mapping : Value)
  | callable (callable : Callable)
  | function (item : FunctionItem)
  | component (item : ComponentItem)
  | pending (registration : PendingRegistration)

/-- The objects created so far, by reference. -/
abbrev Store := Array Object

namespace Store

/-- The store at the start: the empty tuple, of which there is only one. -/
def initial : Store := #[.tuple []]

/-- The object of a value, if it is one. -/
def object? (store : Store) : Value → Option Object
  | .object reference => store[reference]?
  | _ => none

/-- A new object, and the store with it. -/
def create (store : Store) (object : Object) : Value × Store :=
  (.object store.size, store.push object)

/-- The store with another object in the place of one. -/
def replace (store : Store) (value : Value) (object : Object) : Store :=
  match value with
  | .object reference => store.setIfInBounds reference object
  | _ => store

theorem object?_create (store : Store) (object : Object) :
    (store.create object).2.object? (store.create object).1 = some object := by
  simp [create, object?]

end Store

end Registrar
