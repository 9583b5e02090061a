import Registrar.Container.Session

/-!
# Dependency sets

A dependency set is built afresh for each call: each declared key goes to the call's override if
there is one, else to the registered item. Keys with neither are left out, or are a fault if the
container is strict.
-/

namespace Registrar

namespace Store

/-- The elements a value is made of when it is gone through, or none if it has none. -/
def elements? (store : Store) (value : Value) : Option (List Value) :=
  match store.entries? value with
  | some entries => some (entries.map (·.1))
  | none =>
    match value, store.object? value with
    | .text s, _ => some (s.toList.map fun c => .text (String.singleton c))
    | .bytes octets, _ => some (octets.toList.map fun c => .int c.toNat)
    | _, some (.list elements) | _, some (.tuple elements) => some elements
    | _, some (.set element) => some element.toList
    | _, _ => none

/-- The entries of an override bag: anything that does not count as true is an empty bag. -/
def bag? (store : Store) (overrides : Value) : Option (List (Value × Value)) :=
  if store.isTrue overrides then store.entries? overrides else some []

end Store

namespace Container

/-- What a declared key goes to: an override, unless it is null, else the registered item. -/
def resolve? (container : Container) (objects : Store) (bag : List (Value × Value))
    (key : Value) : Option Value :=
  match Entries.find? objects.sameKey (bag.filter fun entry => entry.2 != .null) key with
  | some value => some value
  | none =>
    match key with
    | .text name => container.item? name
    | _ => none

/-- The dependency set so far with one more declared key. -/
def addDependency (container : Container) (objects : Store) (bag : List (Value × Value))
    (entries : List (Value × Value)) (key : Value) : Except Fault (List (Value × Value)) :=
  if (objects.key? key).isNone then .error .mistyped
  else match container.resolve? objects bag key with
    | some value => .ok (Entries.put objects.sameKey entries key value)
    | none =>
      if container.strict then .error (.unregistered (objects.display key)) else .ok entries

/-- The dependency set for declared keys and a bag of overrides. -/
def build (container : Container) (objects : Store) (bag : List (Value × Value))
    (keys : List Value) : Except Fault (List (Value × Value)) :=
  keys.foldlM (container.addDependency objects bag) []

end Container

namespace Run

/-- The result of a computation, or its fault. -/
def ofExcept {α : Type} : Except Fault α → Run α
  | .ok value => return value
  | .error fault => throw fault

/-- Something that is there, or a fault. -/
def need {α : Type} (fault : Fault) : Option α → Run α
  | some value => return value
  | none => throw fault

/-- The entries of an override bag. -/
def bag (overrides : Value) : Run (List (Value × Value)) := do
  need .missingOperation ((← objects).bag? overrides)

/-- A new dependency set for declared keys and the entries of a bag. -/
def dependencySet (index : Nat) (bag : List (Value × Value)) (keys : List Value) : Run Value := do
  let entries ← ofExcept ((← container index).build (← objects) bag keys)
  create (.dependencies entries)

/-- A new dependency set for any collection of keys. -/
def buildDependencies (index : Nat) (dependencies overrides : Value) : Run Value := do
  let bag ← bag overrides
  let keys ← need .mistyped ((← objects).elements? dependencies)
  dependencySet index bag keys

end Run

end Registrar
