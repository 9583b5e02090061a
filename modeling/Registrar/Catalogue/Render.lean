import Registrar.Catalogue.Canonical
import Registrar.Catalogue.Export
import Registrar.Catalogue.Reference
import Registrar.Catalogue.RuntimeName
import Registrar.Text.Json

/-!
# The generated module

The module that declares a container with the types of its dependencies, lists the modules that
register items, and imports them on demand. A key registered more than once keeps its last
registration, in the place of that one.
-/

namespace Registrar

/-- Why a container module cannot be generated. -/
inductive CatalogueError
  /-- The runtime module's name is not a dotted name. -/
  | runtimeName (name : String)
  /-- A file is not importable because of some names on its path. -/
  | notImportable (path : Path) (names : List String)
  /-- A file has no name. -/
  | noFileName (path : Path)
  /-- The rendered text is no module. -/
  | malformed
  deriving DecidableEq

/-- Quoted texts in square brackets. -/
def quotedList (texts : List String) : String :=
  "[" ++ ", ".intercalate (texts.map quoted) ++ "]"

/-- The wording of an error. -/
def CatalogueError.message : CatalogueError → String
  | runtimeName name => "Runtime module name " ++ quoted name ++ " is not a dotted module name."
  | notImportable path names =>
    "Cannot import " ++ path.toString ++ " from the generated module: " ++ quotedList names
      ++ " is not a module name."
  | noFileName path => quoted path.toString ++ " has an empty name"
  | malformed => "Generated container module is not valid Python"

namespace Catalogue

/-- The class of the items of a kind. -/
def itemClass : ItemKind → String
  | .config => "ConfigItem"
  | .component => "ComponentItem"
  | .function | .hook => "FunctionItem"

/-- The names every generated module imports from the runtime. -/
def runtimeNames : List String :=
  ["Container", "ExtractedContainerItem", "container_initializer_factory", "initialize_modules",
    "register_component_factory", "register_config_factory", "register_function_factory",
    "register_hook_factory"]

/-- A file that contributes exports, with its reference. -/
structure Contribution where
  file : FileExports
  reference : Reference
  deriving DecidableEq

/-- An entry of the table of dependencies. -/
structure Entry where
  key : String
  type : String
  deriving DecidableEq

/-- The type dependents see an export as. -/
def dependencyType (entry : Export) : String :=
  match entry.name with
  | none => "ExtractedContainerItem[" ++ itemClass entry.kind ++ "]"
  | some _ => "ExtractedContainerItem[" ++ entry.alias ++ "]"

/-- Add an export to the table: it takes the place of an entry with its key, at the end. -/
def addEntry (entries : List Entry) (entry : Export) : List Entry :=
  entries.filter (·.key != entry.key) ++ [⟨entry.key, dependencyType entry⟩]

/-- The table of dependencies of some exports. -/
def entries (exports : List Export) : List Entry := exports.foldl addEntry []

/-- The exports whose key an earlier export has, in order; `seen` holds the keys before them. -/
def duplicates (seen : List String) : List Export → List Export
  | [] => []
  | entry :: rest =>
    if seen.contains entry.key then entry :: duplicates seen rest
    else duplicates (entry.key :: seen) rest

/-- The imports a type checker sees for one file. -/
def typeImports (contribution : Contribution) : List String :=
  let reference := contribution.reference
  let moduleImport := match contribution.file.moduleExports, reference.names.getLast? with
    | first :: _, some last =>
      ["from " ++ reference.parent ++ " import " ++ last ++ " as " ++ first.alias]
    | _, _ => []
  let namedImport := match contribution.file.namedExports with
    | [] => []
    | exports =>
      let bindings := exports.map fun entry => entry.name.getD "" ++ " as " ++ entry.alias
      ["from " ++ reference.module ++ " import " ++ ", ".intercalate bindings]
  moduleImport ++ namedImport

/-- The names the module imports from the runtime, sorted. -/
def importedNames (contributions : List Contribution) : List String :=
  let classes := contributions.flatMap fun contribution =>
    contribution.file.moduleExports.map fun entry => itemClass entry.kind
  ((runtimeNames ++ classes).eraseDups).mergeSort (· ≤ ·)

/-- White space dropped from the end of a text. -/
def withoutTrail (text : String) : String := String.ofList (trimEnd text.toList)

/-- Each line indented and ended. -/
def indented (indent : String) (texts : List String) : String :=
  String.join (texts.map fun text => indent ++ text ++ "\n")

/-- The docstring of the module. -/
def docstring (registered contributing : Nat) : String :=
  "\n".intercalate
    ["\"\"\"",
      "Generated uiwire container module.",
      "",
      "Generated by: uiwire._internal.codegen.renderer.ContainerModuleRenderer.render",
      "uiwire version used for generation: 0.1.0",
      "",
      "Do not edit by hand: run ``uiwire generate`` to refresh it.",
      "",
      "Generation summary:",
      "- registered dependencies: " ++ toString registered,
      "- contributing modules: " ++ toString contributing,
      "\"\"\""]

/-- The imports of the module. -/
def importsBlock (runtimeModule : String) (contributions : List Contribution) : String :=
  let imports := contributions.flatMap typeImports
  let typing := if imports.isEmpty then "TypedDict" else "TYPE_CHECKING, TypedDict"
  withoutTrail <|
    "from __future__ import annotations\n\nfrom typing import " ++ typing ++ "\n\nfrom "
      ++ runtimeModule ++ " import (\n"
      ++ indented "    " ((importedNames contributions).map (· ++ ","))
      ++ ")\n"
      ++ (if imports.isEmpty then "" else "\nif TYPE_CHECKING:\n" ++ indented "    " imports)

/-- The table of dependencies in the module. -/
def dependenciesBlock (entries : List Entry) : String :=
  let table :=
    if entries.isEmpty then "    \x7b\x7d,\n"
    else
      "    \x7b\n"
        ++ indented "        " (entries.map fun entry =>
          Json.literal entry.key ++ ": " ++ Json.literal entry.type ++ ",")
        ++ "    \x7d,\n"
  "ContainerDependencies = TypedDict(\n    \"ContainerDependencies\",\n" ++ table
    ++ "    total=False,\n)\n"
    ++ "\"\"\"Dependency keys registered in ``container`` mapped to the types dependents"
    ++ " consume.\"\"\""

/-- The container and its entry points in the module. -/
def containerBlock : String :=
  "\n".intercalate
    ["container: Container[ContainerDependencies] = Container()",
      "",
      "register_component = register_component_factory(container)",
      "register_hook = register_hook_factory(container)",
      "register_function = register_function_factory(container)",
      "register_config = register_config_factory(container)"]

/-- The bootstrap and the list of public names in the module. -/
def initializerBlock (references : List Reference) : String :=
  "CONTRIBUTING_MODULES: tuple[str, ...] = (\n"
    ++ indented "    " (references.map fun reference => Json.literal reference.module ++ ",")
    ++ "\n".intercalate
      [")",
        "",
        "",
        "async def init_container() -> None:",
        "    \"\"\"Import every module registering items into ``container``.\"\"\"",
        "    await initialize_modules(container, CONTRIBUTING_MODULES, package=__package__)",
        "",
        "",
        "ContainerInitializer = container_initializer_factory(init_container)",
        "",
        "__all__ = [",
        "    \"CONTRIBUTING_MODULES\",",
        "    \"ContainerDependencies\",",
        "    \"ContainerInitializer\",",
        "    \"container\",",
        "    \"init_container\",",
        "    \"register_component\",",
        "    \"register_config\",",
        "    \"register_function\",",
        "    \"register_hook\",",
        "]"]

/-- The text of the module before it is put into canonical form. -/
def text (runtimeModule : String) (contributions : List Contribution) : String :=
  let table := entries (contributions.flatMap (·.file.exports))
  "\n\n".intercalate
    [docstring table.length contributions.length,
      importsBlock runtimeModule contributions,
      dependenciesBlock table,
      containerBlock,
      initializerBlock (contributions.map (·.reference))]

/-- The files with exports, with their references seen from a directory. -/
def contributions (directory : List String) (files : List FileExports) :
    Except CatalogueError (List Contribution) :=
  (files.filter fun file => !file.exports.isEmpty).mapM fun file =>
    match Reference.ofPath file.path directory with
    | .ok reference => .ok ⟨file, reference⟩
    | .error .noName => .error (.noFileName file.path)
    | .error (.notNames names) => .error (.notImportable file.path names)

/-- What a rendering reports once the references are known. -/
def events (files : List FileExports) (contributions : List Contribution) : List Event :=
  let exports := contributions.flatMap (·.file.exports)
  .rendering files.length contributions.length exports.length
    :: (duplicates [] exports).map fun entry => .duplicateKey entry.key entry.path

/-- Render the module for a directory, which is given by its names below the root: what is reported
on the way, and the text or why there is none. -/
def render (runtimeModule : String) (directory : List String) (files : List FileExports) :
    List Event × Except CatalogueError String :=
  if !RuntimeName.accepts runtimeModule then ([], .error (.runtimeName runtimeModule))
  else match contributions directory files with
    | .error error => ([], .error error)
    | .ok contributions =>
      let rendered := match Canonical.ofSource? (text runtimeModule contributions) with
        | some source => .ok source
        | none => .error .malformed
      (events files contributions, rendered)

end Catalogue

end Registrar
