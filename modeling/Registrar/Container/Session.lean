import Registrar.Container.Fault
import Registrar.Event
import Registrar.Value.Display

/-!
# Sessions

What a run of operations on containers has made so far: objects, containers, and what scripts
stored and recorded. An operation can fail; what it did before stays.
-/

namespace Registrar

/-- A container: the items by key, in the order of their first registration. -/
structure Container where
  /-- Whether an unresolved dependency is a fault. -/
  strict : Bool
  items : List (String × Value)
  /-- The modules imported on the container's behalf. -/
  initialized : List String

namespace Container

/-- A container without items. -/
def empty (strict : Bool) : Container := ⟨strict, [], []⟩

/-- The item under a key. -/
def item? (container : Container) (key : String) : Option Value :=
  Entries.find? (· == ·) container.items key

/-- The container with an item under a key. -/
def store (container : Container) (key : String) (item : Value) : Container :=
  { container with items := Entries.put (· == ·) container.items key item }

/-- The keys, in order. -/
def names (container : Container) : List String := container.items.map (·.1)

end Container

/-- The state of a run. -/
structure Session where
  objects : Store
  containers : Array Container
  /-- The containers that have names now. -/
  named : List (String × Nat)
  /-- What actions kept. -/
  kept : List (String × Value)
  /-- The values whose number was asked, in order. -/
  numbered : List Value
  /-- The values recorded. -/
  traced : List Value
  events : List Event

/-- The session at the start. -/
def Session.initial : Session := ⟨Store.initial, #[], [], [], [], [], []⟩

/-- A part of a run. -/
abbrev Run := ExceptT Fault (StateM Session)

namespace Run

/-- Report an event. -/
def report (event : Event) : Run Unit :=
  modify fun session => { session with events := session.events ++ [event] }

/-- Create an object. -/
def create (object : Object) : Run Value :=
  modifyGet fun session =>
    let (value, objects) := session.objects.create object
    (value, { session with objects })

/-- Put an object in the place of another. -/
def replace (value : Value) (object : Object) : Run Unit :=
  modify fun session => { session with objects := session.objects.replace value object }

/-- The objects so far. -/
def objects : Run Store := return (← get).objects

/-- The object of a value, if it is one. -/
def object? (value : Value) : Run (Option Object) := return (← objects).object? value

/-- A new list. -/
def list (elements : List Value) : Run Value := create (.list elements)

/-- A new tuple; there is only one empty tuple. -/
def tuple : List Value → Run Value
  | [] => return .object 0
  | elements => create (.tuple elements)

/-- A new mapping. -/
def dict (entries : List (Value × Value)) : Run Value := create (.dict entries)

/-- The displayed form of a value. -/
def display (value : Value) : Run String := return (← objects).display value

/-- A container. -/
def container (index : Nat) : Run Container := do
  match (← get).containers[index]? with
  | some container => return container
  | none => throw .missingKey

/-- Change a container. -/
def modifyContainer (index : Nat) (change : Container → Container) : Run Unit :=
  modify fun session => { session with containers := session.containers.modify index change }

/-- The container a name stands for. -/
def containerNamed (name : String) : Run Nat := do
  match Entries.find? (· == ·) (← get).named name with
  | some index => return index
  | none => throw .missingKey

/-- Create a container under a name. -/
def createContainer (name : String) (strict : Bool) : Run Unit :=
  modify fun session =>
    { session with
      containers := session.containers.push (.empty strict)
      named := Entries.put (· == ·) session.named name session.containers.size }

end Run

end Registrar
