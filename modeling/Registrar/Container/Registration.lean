import Registrar.Container.Dependencies

/-!
# Registration

A registration checks its arguments in a fixed order, name, dependencies, implementation, kind,
signature, and changes the container only when all of them are right.
-/

namespace Registrar

namespace Registrant

/-- The operation messages name: hooks are registered as functions. -/
def operation : Registrant → String
  | component => "register_component"
  | function | hook => "register_function"

end Registrant

namespace Store

/-- Whether a value can be called. -/
def isCallable (store : Store) (value : Value) : Bool :=
  match store.object? value with
  | some (.callable _) | some (.function _) | some (.component _) | some (.pending _) => true
  | _ => false

/-- The parameters of a pending registration. -/
def pendingSignature : Signature Value := [⟨"decorated", .positional, none⟩]

/-- The signature of a callable, looking through components up to `depth`. -/
def signatureWithin (store : Store) : (depth : Nat) → Value → Option (Signature Value)
  | depth, value =>
    match store.object? value, depth with
    | some (.callable callable), _ =>
      if callable.form = .unreadable then none else some callable.signature
    | some (.function item), _ => some item.injection.signature
    | some (.pending _), _ => some pendingSignature
    | some (.component item), depth + 1 => store.signatureWithin depth item.implementation
    | _, _ => none

/-- The signature of a callable, or none if it cannot be read. A component shows the signature of
what it wraps, which was created before it. -/
def signature? (store : Store) (value : Value) : Option (Signature Value) :=
  store.signatureWithin (store.size + 1) value

/-- The qualified name of the decorator a pending registration is. -/
def pendingName (registration : PendingRegistration) : String :=
  if registration.kind?.isSome then
    "register_function_factory.<locals>.register_function.<locals>.decorator"
  else "register_component_factory.<locals>.register_component.<locals>.decorator"

/-- The name and the qualified name of a callable, if it has them. -/
def callableNames (store : Store) (value : Value) : Option String × Option String :=
  match store.object? value with
  | some (.callable callable) =>
    if callable.form = .function then (some callable.name, some callable.qualifiedName)
    else (none, none)
  | some (.function item) => (item.shownName?, item.qualifiedName?)
  | some (.component item) => (item.shownName?, item.qualifiedName?)
  | some (.pending registration) => (some "decorator", some (pendingName registration))
  | _ => (none, none)

/-- Whether a value is a text with something in it. -/
def isKeyText : Value → Bool
  | .text s => !s.isEmpty
  | _ => false

/-- The kind and the name of a registered item. -/
def metadata? (store : Store) (value : Value) : Option (ItemKind × String) :=
  match store.object? value with
  | some (.config name _) => some (.config, name)
  | some (.function item) => some (item.kind, item.name)
  | some (.component item) => some (.component, item.name)
  | _ => none

end Store

/-- What is said of a function that has no place for its dependency set. -/
def NoDependencyParameter.problem (name : String) : NoDependencyParameter → RegistrationProblem
  | variadic => .variadic name
  | noPositional => .noPositional name
  | nameTaken => .bagNameTaken name

namespace Run

/-- Refuse a registration. -/
def refuse {α : Type} (problem : RegistrationProblem) : Run α := throw (.registration problem)

/-- The name of a registration. -/
def checkedName (operation : String) (name : Value) : Run String := do
  match name with
  | .text s => if s.isEmpty then refuse (.badName operation (← display name)) else return s
  | _ => refuse (.badName operation (← display name))

/-- The dependencies of a registration: a list or a tuple of texts with something in them. -/
def checkedDependencies (operation name : String) (dependencies : Value) :
    Run (List String) := do
  match ← object? dependencies with
  | some (.list elements) | some (.tuple elements) =>
    match elements.filter fun element => !Store.isKeyText element with
    | [] => return elements.filterMap fun
      | .text s => some s
      | _ => none
    | invalid =>
      let shown := "[" ++ ", ".intercalate (invalid.map (← objects).display) ++ "]"
      refuse (.badDependencies operation name shown)
  | _ => refuse (.notDependencies operation name (← display dependencies))

/-- Check that an implementation can be called. -/
def checkCallable (operation name : String) (implementation : Value) : Run Unit := do
  if !(← objects).isCallable implementation then refuse (.notCallable operation name)

/-- The kind of a function registration. -/
def checkedKind (kind : Value) : Run ItemKind := do
  match kind with
  | .kind .function => return .function
  | .kind .hook => return .hook
  | _ => refuse (.badKind (← display kind))

/-- How a function is called once it is registered. -/
def checkedInjection (name : String) (hasDependencies : Bool) (implementation : Value) :
    Run (Injection Value) := do
  match (← objects).signature? implementation with
  | none => refuse (.unreadable name)
  | some signature =>
    match signature.injection .null hasDependencies with
    | .ok injection => return injection
    | .error reason => refuse (reason.problem name)

/-- Store an item under its key, and report it. -/
def storeItem (index : Nat) (name : String) (kind : ItemKind) (item : Value) : Run Value := do
  if let some previous := (← container index).item? name then
    if let some (kind, _) := (← objects).metadata? previous then
      report (.replaced name kind)
  modifyContainer index (·.store name item)
  report (.registered name kind)
  return item

/-- Register a configuration mapping. -/
def registerConfig (index : Nat) (name config : Value) : Run Value := do
  let name ← checkedName "register_config" name
  match (← objects).entries? config with
  | none => refuse (.notMapping name ((← objects).typeName config))
  | some entries => storeItem index name .config (← create (.config name entries))

/-- Register a component. -/
def registerComponent (index : Nat) (name dependencies implementation : Value) : Run Value := do
  let operation := Registrant.component.operation
  let name ← checkedName operation name
  let dependencies ← checkedDependencies operation name dependencies
  checkCallable operation name implementation
  let (shownName?, qualifiedName?) := (← objects).callableNames implementation
  let subject := match qualifiedName? with
    | some qualifiedName => if qualifiedName.isEmpty then "Component" else qualifiedName
    | none => "Component"
  storeItem index name .component (← create (.component
    { name, dependencies, implementation, container := index
      displayName := "uiwire(" ++ subject ++ ")"
      shownName?, qualifiedName?, memo? := none }))

/-- Register a function of a kind, which must be the kind of a function or a hook. -/
def registerFunction (index : Nat) (name dependencies implementation kind : Value) :
    Run Value := do
  let operation := Registrant.function.operation
  let name ← checkedName operation name
  let dependencies ← checkedDependencies operation name dependencies
  checkCallable operation name implementation
  let kind ← checkedKind kind
  let injection ← checkedInjection name (!dependencies.isEmpty) implementation
  let (shownName?, qualifiedName?) := (← objects).callableNames implementation
  storeItem index name kind (← create (.function
    { name, kind, dependencies, implementation, injection, container := index
      shownName?, qualifiedName? }))

/-- Register an implementation under a pending registration. -/
def complete (registration : PendingRegistration) (implementation : Value) : Run Value :=
  match registration.kind? with
  | some kind =>
    registerFunction registration.container registration.name registration.dependencies
      implementation kind
  | none =>
    registerComponent registration.container registration.name registration.dependencies
      implementation

/-- Apply an entry point: to an implementation, or to none, for a pending registration. -/
def enter (registration : PendingRegistration) (implementation : Value) : Run Value :=
  if implementation = .null then create (.pending registration)
  else complete registration implementation

end Run

end Registrar
