import Registrar.Value.Equality
import Registrar.Text.Quoted

/-!
# Displayed form

The form in which messages show values. An object inside itself is shown by dots.
-/

namespace Registrar

namespace ItemKind

/-- The displayed form of a kind. -/
def display (kind : ItemKind) : String :=
  "<ItemKind." ++ kind.constantName ++ ": " ++ quoted kind.label ++ ">"

end ItemKind

namespace FunctionItem

/-- The displayed form of a function item. -/
def display (item : FunctionItem) : String :=
  "<FunctionItem " ++ item.kind.label ++ " " ++ quoted item.name ++ ">"

end FunctionItem

namespace ComponentItem

/-- The displayed form of a component item. -/
def display (item : ComponentItem) : String :=
  "<ComponentItem " ++ quoted item.name ++ " " ++ item.displayName ++ ">"

end ComponentItem

namespace Store

/-- Entries in braces. -/
def displayEntries (display : Value → String) (entries : List (Value × Value)) : String :=
  "\x7b" ++ ", ".intercalate (entries.map fun (key, value) => display key ++ ": " ++ display value)
    ++ "\x7d"

/-- The displayed form of a value inside the objects of `within`, at most `depth` further in. -/
def displayWithin (store : Store) : (depth : Nat) → (within : List Nat) → Value → String
  | _, _, .null => "None"
  | _, _, .bool b => if b then "True" else "False"
  | _, _, .int n => toString n
  | _, _, .text s => quoted s
  | _, _, .bytes octets => quotedBytes octets
  | _, _, .kind kind => kind.display
  | 0, _, .object _ => "..."
  | depth + 1, within, .object reference =>
    let display := store.displayWithin depth (reference :: within)
    let inside := within.contains reference
    let shownEntries (entries : List (Value × Value)) : String :=
      if inside then "\x7b...\x7d" else displayEntries display entries
    match store[reference]? with
    | none => "..."
    | some (.list elements) =>
      if inside then "[...]" else "[" ++ ", ".intercalate (elements.map display) ++ "]"
    | some (.tuple [element]) => if inside then "(...)" else "(" ++ display element ++ ",)"
    | some (.tuple elements) =>
      if inside then "(...)" else "(" ++ ", ".intercalate (elements.map display) ++ ")"
    | some (.set none) => "set()"
    | some (.set (some element)) => "\x7b" ++ display element ++ "\x7d"
    | some (.dict entries) => shownEntries entries
    | some (.config name entries) =>
      "ConfigItem(" ++ quoted name ++ ", " ++ shownEntries entries ++ ")"
    | some (.dependencies entries) => "mappingproxy(" ++ shownEntries entries ++ ")"
    | some (.view mapping) => "mappingproxy(" ++ store.displayWithin depth within mapping ++ ")"
    | some (.function item) => item.display
    | some (.component item) => item.display
    | some (.callable callable) => "<function " ++ callable.qualifiedName ++ ">"
    | some (.pending _) => "<function decorator>"

/-- The displayed form of a value. -/
def display (store : Store) (value : Value) : String :=
  store.displayWithin (2 * store.size + 2) [] value

/-- The word for the type of a value. -/
def typeName (store : Store) : Value → String
  | .null => "NoneType"
  | .bool _ => "bool"
  | .int _ => "int"
  | .text _ => "str"
  | .bytes _ => "bytes"
  | .kind _ => "ItemKind"
  | .object reference =>
    match store[reference]? with
    | some (.list _) => "list"
    | some (.tuple _) => "tuple"
    | some (.set _) => "set"
    | some (.dict _) => "dict"
    | some (.config ..) => "ConfigItem"
    | some (.dependencies _) | some (.view _) => "mappingproxy"
    | some (.function _) => "FunctionItem"
    | some (.component _) => "ComponentItem"
    | some (.callable _) | some (.pending _) | none => "function"

end Store

end Registrar
