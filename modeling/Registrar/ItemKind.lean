/-!
# Kinds of items

The four kinds of items a container holds.
-/

namespace Registrar

/-- The kind of a registered item. -/
inductive ItemKind
  /-- A configuration mapping, consumed as it is. -/
  | config
  /-- A renderable called with keyword properties. -/
  | component
  /-- A plain function. -/
  | function
  /-- A function meant to be called while a component renders. -/
  | hook
  deriving DecidableEq

namespace ItemKind

/-- The kind as a word. -/
def label : ItemKind → String
  | config => "config"
  | component => "component"
  | function => "function"
  | hook => "hook"

/-- The name of a kind among its fellows. -/
def constantName : ItemKind → String
  | config => "CONFIG"
  | component => "COMPONENT"
  | function => "FUNCTION"
  | hook => "HOOK"

/-- The kind a word means. -/
def ofLabel? : String → Option ItemKind
  | "config" => some config
  | "component" => some component
  | "function" => some function
  | "hook" => some hook
  | _ => none

end ItemKind

end Registrar
