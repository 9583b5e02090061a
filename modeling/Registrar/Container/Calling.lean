import Registrar.Container.Dependencies
import Registrar.Signature.Binding

/-!
# Calling items

Calling a function item takes the override bag out of the arguments, builds a dependency set, and
calls the implementation with the set in its place. Rendering a component does the same with named
properties only, and hands over the dependency set of the render before while nothing it hangs on
has changed its identity. How an implementation itself is called is a parameter here.
-/

namespace Registrar

/-- How a value is called, with arguments by position and by distinct names. -/
abbrev Caller := Value → List Value → List (String × Value) → Run Value

/-- The name under which an item receives itself, and which a call therefore cannot give. -/
def receiverName : String := "self"

/-- Whether a call gives a name. -/
def givesName (names : List (String × Value)) (name : String) : Bool :=
  names.any fun entry => entry.1 == name

namespace FunctionItem

/-- The arguments of a call without its override bag. -/
structure Arguments where
  positions : List Value
  names : List (String × Value)
  overrides : Value

/-- Take the override bag out of a call's arguments: it is named, or the position right after
those of the implementation. -/
def takeBag (item : FunctionItem) (position : Nat) (positions : List Value)
    (names : List (String × Value)) : Except Fault Arguments :=
  let named := (Signature.givenBy bagName names).getD .null
  let names := Signature.besides bagName names
  match positions.drop position with
  | [] => .ok ⟨positions, names, named⟩
  | [overrides] =>
    if named = .null then .ok ⟨positions.take position, names, overrides⟩
    else .error (.secondBag item.name)
  | _ => .error (.tooManyPositions item.name (position + 1) positions.length)

/-- Call a function item. -/
def invoke (item : FunctionItem) (call : Caller) (positions : List Value)
    (names : List (String × Value)) : Run Value := do
  if givesName names receiverName then throw .mistyped
  match item.injection.parameter? with
  | none => call item.implementation positions names
  | some parameter =>
    let arguments ← Run.ofExcept (item.takeBag parameter.position positions names)
    let bag ← Run.bag arguments.overrides
    let set ← Run.dependencySet item.container bag (item.dependencies.map .text)
    if parameter.positionalOnly then
      call item.implementation (arguments.positions ++ [set]) arguments.names
    else
      call item.implementation arguments.positions
        (Entries.put (· == ·) arguments.names parameter.name set)

end FunctionItem

namespace ComponentItem

/-- What is registered under the declared dependencies, each once. -/
def registered (item : ComponentItem) (container : Container) : List (String × Value) :=
  item.dependencies.eraseDups.map fun key => (key, (container.item? key).getD .null)

/-- Whether entries have the same keys in the same order, with identical values. -/
def sameEntries {κ : Type} (same : κ → κ → Bool) : List (κ × Value) → List (κ × Value) → Bool
  | [], [] => true
  | (a, value) :: rest, (b, other) :: others =>
    same a b && value == other && sameEntries same rest others
  | _, _ => false

/-- The dependency set of the render before, if nothing it hangs on has changed its identity. -/
def remembered? (item : ComponentItem) (objects : Store) (properties : List (String × Value))
    (bag : List (Value × Value)) (registered : List (String × Value)) : Option Value :=
  match item.memo? with
  | none => none
  | some memo =>
    if sameEntries (· == ·) memo.properties properties && sameEntries objects.sameKey memo.bag bag
        && sameEntries (· == ·) memo.registered registered
    then some memo.dependencies
    else none

/-- The dependency set a render hands over. -/
def prepare (item : ComponentItem) (self : Value) (properties : List (String × Value))
    (overrides : Value) : Run Value := do
  let bag ← Run.bag overrides
  let registered := item.registered (← Run.container item.container)
  match item.remembered? (← Run.objects) properties bag registered with
  | some dependencies => return dependencies
  | none =>
    let dependencies ← Run.dependencySet item.container bag (item.dependencies.map .text)
    Run.replace self (.component
      { item with memo? := some { properties, bag, registered, dependencies } })
    return dependencies

/-- Render a component item. -/
def render (item : ComponentItem) (self : Value) (call : Caller) (positions : List Value)
    (names : List (String × Value)) : Run Value := do
  if !positions.isEmpty || givesName names receiverName then throw .mistyped
  let overrides := (Signature.givenBy bagName names).getD .null
  let properties := Signature.besides bagName names
  let dependencies ← item.prepare self properties overrides
  call item.implementation [] (properties ++ [(bagName, dependencies)])

end ComponentItem

end Registrar
