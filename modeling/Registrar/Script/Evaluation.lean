import Registrar.Script.Operation
import Registrar.Container.Calling

/-!
# Evaluating scripts

Terms are evaluated by recursion on the term; how a value is called is a parameter. Calling a
callable evaluates its body in turn, so that calls are bounded by how deeply they may be nested.
-/

namespace Registrar

/-- The parameters of the callable being run. -/
abbrev Scope := List (String × Value)

mutual

/-- The value of a term. -/
def Term.eval (call : Caller) (scope : Scope) : Term → Run Value
  | .null => return .null
  | .bool b => return .bool b
  | .int n => return .int n
  | .text s => return .text s
  | .bytes octets => return .bytes octets
  | .kind kind => return .kind kind
  | .list elements => do Run.list (← Term.evalAll call scope elements)
  | .tuple elements => do Run.tuple (← Term.evalAll call scope elements)
  | .set elements => do
    let entries ← Run.entriesOf ((← Term.evalAll call scope elements).map fun key => (key, .null))
    Run.create (.set (entries.head?.map (·.1)))
  | .dict entries => do Run.dict (← Run.entriesOf (← Term.evalPairs call scope entries))
  | .view mapping => do
    let mapping ← mapping.eval call scope
    if ((← Run.objects).entries? mapping).isNone then throw .mistyped
    Run.create (.view mapping)
  | .callable parameters body name qualifiedName form => do
    let signature ← Term.evalDefaults call scope parameters
    Run.create (.callable { signature, body, name, qualifiedName, form })
  | .stored name => do Run.need .missingKey (Entries.find? (· == ·) (← get).kept name)
  | .argument name => Run.need .missingKey (Entries.find? (· == ·) scope name)
  | .arguments => Run.dict (scope.map fun (name, value) => (.text name, value))
  | .get mapping key => do
    let mapping ← mapping.eval call scope
    let key ← key.eval call scope
    Run.ofExcept ((← Run.objects).get mapping key)
  | .getOr mapping key fallback => do
    let mapping ← mapping.eval call scope
    let key ← key.eval call scope
    let fallback ← fallback.eval call scope
    Run.ofExcept ((← Run.objects).getOr mapping key fallback)
  | .has mapping key => do
    let mapping ← mapping.eval call scope
    let key ← key.eval call scope
    return .bool (← Run.ofExcept ((← Run.objects).has mapping key))
  | .keys mapping => do
    let mapping ← mapping.eval call scope
    Run.list (← Run.need .mistyped ((← Run.objects).elements? mapping))
  | .put mapping key value => do
    let mapping ← mapping.eval call scope
    let key ← key.eval call scope
    let value ← value.eval call scope
    let object ← Run.ofExcept ((← Run.objects).put (← Run.object? mapping) key value)
    Run.replace mapping object
    return .null
  | .concat parts => do Run.concat (← Term.evalAll call scope parts)
  | .add left right => do
    let left ← left.eval call scope
    let right ← right.eval call scope
    Run.add left right
  | .call callee positions names => do
    let callee ← callee.eval call scope
    let positions ← Term.evalAll call scope positions
    let names ← Run.namesOf (← Term.evalPairs call scope names)
    call callee positions names
  | .sequence terms => return ((← Term.evalAll call scope terms).getLast?).getD .null
  | .branch condition yes no => do
    let condition ← condition.eval call scope
    if (← Run.objects).isTrue condition then yes.eval call scope else no.eval call scope
  | .same left right => do
    let left ← left.eval call scope
    let right ← right.eval call scope
    return .bool (left == right)
  | .equal left right => do
    let left ← left.eval call scope
    let right ← right.eval call scope
    Run.equal left right
  | .identity value => do Run.identity (← value.eval call scope)
  | .trace value => do Run.trace (← value.eval call scope)
  | .fail message => throw (.raised message)
  | .perform container none action => action.run call scope container
  | .perform container (some name) action => do
    let value ← action.run call scope container
    Run.keep name value
    return value

/-- The values of terms, in order. -/
def Term.evalAll (call : Caller) (scope : Scope) : List Term → Run (List Value)
  | [] => return []
  | term :: rest => do
    let value ← term.eval call scope
    return value :: (← Term.evalAll call scope rest)

/-- The values of pairs of terms, in order. -/
def Term.evalPairs (call : Caller) (scope : Scope) :
    List (Term × Term) → Run (List (Value × Value))
  | [] => return []
  | (key, value) :: rest => do
    let key ← key.eval call scope
    let value ← value.eval call scope
    return (key, value) :: (← Term.evalPairs call scope rest)

/-- Parameters with the values of their defaults. -/
def Term.evalDefaults (call : Caller) (scope : Scope) :
    List (Parameter Term) → Run (Signature Value)
  | [] => return []
  | ⟨name, kind, none⟩ :: rest => return ⟨name, kind, none⟩ :: (← Term.evalDefaults call scope rest)
  | ⟨name, kind, some default⟩ :: rest => do
    let default ← default.eval call scope
    return ⟨name, kind, some default⟩ :: (← Term.evalDefaults call scope rest)

/-- The value of a term that may be missing. -/
def Term.evalOption (call : Caller) (scope : Scope) : Option Term → Run (Option Value)
  | none => return none
  | some term => return some (← term.eval call scope)

/-- The value of an action on the container of a name. -/
def Action.run (call : Caller) (scope : Scope) (container : String) : Action → Run Value
  | .create strict => do
    Run.createContainer container strict
    return .null
  | .registerConfig name config => do
    let name ← name.eval call scope
    let config ← config.eval call scope
    Run.registerConfig (← Run.containerNamed container) name config
  | .register registrant manner name dependencies implementation kind => do
    let name ← name.eval call scope
    let dependencies ← dependencies.eval call scope
    let implementation := (← Term.evalOption call scope implementation).getD .null
    let kind := (← Term.evalOption call scope kind).getD (.kind .function)
    let container ← Run.containerNamed container
    let kind? := match registrant with
      | .component => none
      | .function => some kind
      | .hook => some (.kind .hook)
    let registration : PendingRegistration := { container, kind?, name, dependencies }
    match manner with
    | .direct => Run.complete registration implementation
    | .entryPoint => Run.enter registration implementation
    | .decorator => do call (← Run.enter registration .null) [implementation] []
  | .evaluate term => term.eval call scope
  | .get name => do
    let name ← name.eval call scope
    return (← Run.item? (← Run.containerNamed container) name).getD .null
  | .contains name => do
    let name ← name.eval call scope
    return .bool (← Run.item? (← Run.containerNamed container) name).isSome
  | .names => do
    let names := (← Run.container (← Run.containerNamed container)).names
    Run.list (names.map .text)
  | .count => do
    return .int (← Run.container (← Run.containerNamed container)).items.length
  | .build dependencies overrides => do
    let dependencies ← dependencies.eval call scope
    let overrides := (← Term.evalOption call scope overrides).getD .null
    Run.buildDependencies (← Run.containerNamed container) dependencies overrides
  | .metadata target => do Run.metadata (← target.eval call scope)
  | .display target => do return .text (← Run.display (← target.eval call scope))
  | .inspect target => do Run.inspect (← target.eval call scope)

end

/-- Call a value once; calls its implementation makes go through `call`. -/
def Run.callOnce (call : Caller) : Caller := fun value positions names => do
  match ← Run.object? value with
  | some (.callable callable) =>
    let bound ← Run.need .mistyped (callable.signature.bind? positions names)
    let scope ← bound.mapM fun (name, argument) => return (name, ← Run.argument argument)
    callable.body.eval call scope
  | some (.function item) => item.invoke call positions names
  | some (.component item) => item.render value call positions names
  | some (.pending registration) =>
    match Store.pendingSignature.bind? positions names with
    | some [(_, .one implementation)] => Run.complete registration implementation
    | _ => throw .mistyped
  | _ => throw .mistyped

/-- Call a value, with calls nested at most so deep. -/
def Run.callWithin : (depth : Nat) → Caller
  | 0 => fun _ _ _ => throw .tooDeep
  | depth + 1 => Run.callOnce (Run.callWithin depth)

/-- How deeply calls may be nested. -/
def Run.callDepth : Nat := 1000

/-- Call a value. -/
def Run.call : Caller := Run.callWithin Run.callDepth

/-- An action on a container, with a name to keep its value under. -/
structure Step where
  container : String
  keep : Option String
  action : Action
  deriving Inhabited

/-- Perform a step. -/
def Step.run (step : Step) : Run Value :=
  (Term.perform step.container step.keep step.action).eval Run.call []

end Registrar
