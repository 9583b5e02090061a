import Registrar.Container.Registration

/-!
# Inspection

What is known of a registered function or component, as a value scripts can read.
-/

namespace Registrar

namespace Run

/-- A text that may be missing. -/
def optionalText (text? : Option String) : Value := (text?.map Value.text).getD .null

/-- A parameter as a list: its name, its kind, and its default if it has one. -/
def parameterList (parameter : Parameter Value) : Run Value :=
  list ([.text parameter.name, .text parameter.kind.label] ++ parameter.default?.toList)

/-- A signature as a list of parameters. -/
def signatureList (signature : Signature Value) : Run Value := do
  list (← signature.mapM parameterList)

/-- The kind and the name of an item, or null for any other value. -/
def metadata (value : Value) : Run Value := do
  match (← objects).metadata? value with
  | some (kind, name) => list [.text kind.label, .text name]
  | none => return .null

/-- All that is known of a function or component item. -/
def inspect (value : Value) : Run Value := do
  let about (dependencies : List String) (displayName? : Option String) : Run Value := do
    let (shownName?, qualifiedName?) := (← objects).callableNames value
    let metadata ← metadata value
    let dependencies ← list (dependencies.map .text)
    let shown ← display value
    let signature ← match (← objects).signature? value with
      | some signature => signatureList signature
      | none => pure .null
    dict [(.text "metadata", metadata), (.text "dependencies", dependencies),
      (.text "repr", .text shown), (.text "name", optionalText shownName?),
      (.text "qualname", optionalText qualifiedName?),
      (.text "display_name", optionalText displayName?), (.text "signature", signature)]
  match ← object? value with
  | some (.function item) => about item.dependencies none
  | some (.component item) => about item.dependencies (some item.displayName)
  | _ => throw .missingOperation

end Run

end Registrar
