import Registrar.Registration.Scan
import Registrar.Script.Evaluation

/-!
# Executing modules

What the top-level statements of a module do to the container that the entry points are bound to.
Registrations are carried out as they are written: as calls of an entry point, as calls of the
decorator it returns, and as decorators of definitions. Whatever else there is in a module is left
to its surroundings.
-/

namespace Registrar

/-- How everything in a module is carried out that is no registration. -/
structure Surroundings where
  /-- The value of an expression. -/
  value : Source.Expr → Run Value
  /-- The values of an unpacked argument. -/
  spread : Source.Expr → Run (List Value)
  /-- The names and values of an unpacked mapping. -/
  spreadNames : Source.Expr → Run (List (String × Value))
  /-- The function or the class of a definition, before its decorators are applied. -/
  define : Source.Stmt → Run Value
  /-- Apply a decorator that is no entry point. -/
  decorate : Value → Value → Run Value
  /-- Bind the value of a statement. -/
  conclude : Source.Stmt → Value → Run Unit
  /-- Any other statement. -/
  other : Source.Stmt → Run Unit

/-- A call of an entry point. -/
structure EntryCall where
  kind : ItemKind
  callee : Source.Expr
  arguments : List Source.Expr
  keywords : List (Option String × Source.Expr)

/-- What a statement registered: the kind and the name of its item, or none if its value is no
item. -/
abbrev Label := Option (ItemKind × String)

namespace EntryCall

/-- The call of an entry point that an expression is. -/
def ofExpr? : Source.Expr → Option EntryCall
  | .call _ callee arguments keywords =>
    (Registration.calleeKind? .usual callee).map (⟨·, callee, arguments, keywords⟩)
  | _ => none

/-- The parameters of the entry point of a kind. -/
def signature : ItemKind → Signature Value
  | .config => [⟨"name", .positional, none⟩, ⟨"config", .positional, none⟩]
  | .component =>
    [⟨"name", .positional, none⟩, ⟨"dependencies", .positional, none⟩,
      ⟨"component", .positional, some .null⟩]
  | .function | .hook =>
    [⟨"name", .positional, none⟩, ⟨"dependencies", .positional, none⟩,
      ⟨"func", .positional, some .null⟩]

/-- What an entry point for functions of a kind registers them as; none for a component. -/
def functionKind? (kind : ItemKind) : Option Value :=
  if kind = .component then none else some (.kind kind)

/-- Call the entry point of a kind, which is bound to a container. -/
def enter (container : Nat) (kind : ItemKind) (positions : List Value)
    (names : List (String × Value)) : Run Value :=
  if (names.map (·.1)).Nodup then
    match (signature kind).bind? positions names with
    | some [(_, .one name), (_, .one config)] => Run.registerConfig container name config
    | some [(_, .one name), (_, .one dependencies), (_, .one implementation)] =>
      Run.enter ⟨container, functionKind? kind, name, dependencies⟩ implementation
    | _ => throw .mistyped
  else throw .mistyped

end EntryCall

namespace Surroundings

variable (surroundings : Surroundings) (container : Nat)

/-- The value of an argument; a string literal is a text. -/
def operand (argument : Source.Expr) : Run Value :=
  match Registration.literal? argument with
  | some text => return .text text
  | none => surroundings.value argument

/-- The values of a positional argument. -/
def positions : Source.Expr → Run (List Value)
  | .starred argument => surroundings.spread argument
  | argument => return [← surroundings.operand argument]

/-- The names and values of a keyword argument. -/
def names : Option String × Source.Expr → Run (List (String × Value))
  | (none, argument) => surroundings.spreadNames argument
  | (some name, argument) => return [(name, ← surroundings.operand argument)]

/-- What the callee of an entry point is got from. -/
def reach : Source.Expr → Run Unit
  | .attribute value _ => do let _ ← surroundings.value value
  | _ => return ()

/-- Carry out a call of an entry point. -/
def perform (entry : EntryCall) : Run Value := do
  surroundings.reach entry.callee
  let positions ← entry.arguments.mapM surroundings.positions
  let names ← entry.keywords.mapM surroundings.names
  EntryCall.enter container entry.kind positions.flatten names.flatten

/-- The value of the expression of a statement: it may call an entry point, or apply the decorator
that one returns. -/
def evaluate (expression : Source.Expr) : Run Value :=
  match EntryCall.ofExpr? expression with
  | some entry => surroundings.perform container entry
  | none =>
    match expression with
    | .call _ callee arguments keywords =>
      match EntryCall.ofExpr? callee with
      | some entry => do
        let decorator ← surroundings.perform container entry
        let positions ← arguments.mapM surroundings.positions
        let names ← keywords.mapM surroundings.names
        Run.call decorator positions.flatten names.flatten
      | none => surroundings.value expression
    | _ => surroundings.value expression

/-- What the value of an expression is registered as, if the expression registers. -/
def labels (expression : Source.Expr) (value : Value) : Run (List Label) := do
  let objects ← Run.objects
  return if (Registration.valueCall? .usual none expression).isSome then
    [objects.metadata? value] else []

/-- Carry out a definition: its decorators are evaluated in order, and applied from the last one
on. -/
def decorated (define : Run Value) : List Source.Expr → Run (Value × List Label)
  | [] => return (← define, [])
  | expression :: rest => do
    let decorator ← surroundings.evaluate container expression
    let (value, labels) ← decorated define rest
    if (EntryCall.ofExpr? expression).isSome then
      let item ← Run.call decorator [value] []
      return (item, labels ++ [(← Run.objects).metadata? item])
    else return (← surroundings.decorate decorator value, labels)

/-- Carry out a statement, and tell what it registered. -/
def carryOut (statement : Source.Stmt) : Run (List Label) :=
  match statement with
  | .assign _ value | .annAssign _ _ (some value) | .evaluate value => do
    let result ← surroundings.evaluate container value
    let labels ← labels value result
    surroundings.conclude statement result
    return labels
  | .functionDef _ _ _ decorators _ _ | .classDef _ _ _ decorators _ => do
    let (result, labels) ← surroundings.decorated container (surroundings.define statement)
      decorators
    surroundings.conclude statement result
    return labels
  | _ => do
    surroundings.other statement
    return []

/-- Carry out modules in order, and tell what they registered. -/
def execute (modules : List Source.Module) : Run (List Label) := do
  let labels ← modules.flatten.mapM (surroundings.carryOut container)
  return labels.flatten

end Surroundings

end Registrar
