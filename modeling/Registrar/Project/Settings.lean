import Registrar.Project.Generation
import Registrar.Text.Json

/-!
# Settings

The settings of a project from explicit values and from the environment, where lists are JSON. An
explicit value goes before the environment, and that before the default. Every invalid field is
reported, in the order of the fields.
-/

namespace Registrar

/-- The settings of a project. -/
structure Settings where
  includes : List String
  excludes : List String
  projectRoot : Path
  outputPath : Path
  runtimeModule : String

/-- A field of the settings. -/
inductive SettingsField
  | includes | excludes | projectRoot | outputPath | runtimeModule
  deriving DecidableEq

/-- The name of a field. -/
def SettingsField.name : SettingsField → String
  | includes => "includes"
  | excludes => "excludes"
  | projectRoot => "project_root"
  | outputPath => "output_path"
  | runtimeModule => "runtime_module"

/-- What is wrong with a field. -/
inductive FieldProblem
  /-- The value is no list. -/
  | notList
  /-- The value is no path. -/
  | notPath
  /-- The value, or the element at an index, is no string. -/
  | notString (index : Option Nat)
  /-- The element at an index is no sequence of characters. -/
  | notCharacters (index : Option Nat)
  /-- There is no include pattern. -/
  | noIncludes
  /-- The name is not dotted. -/
  | notDotted (name : String)
  deriving DecidableEq

/-- Why settings are refused. -/
inductive SettingsError
  /-- A list in the environment is no JSON document. -/
  | undecodable
  /-- Some fields are invalid. -/
  | invalid (problems : List (SettingsField × FieldProblem))

namespace FieldProblem

/-- The kind of a problem as a word. -/
def label : FieldProblem → String
  | notList => "list_type"
  | notPath => "path_type"
  | notString _ => "string_type"
  | notCharacters _ => "string_unicode"
  | noIncludes | notDotted _ => "value_error"

/-- The element a problem is about. -/
def index? : FieldProblem → Option Nat
  | notString index | notCharacters index => index
  | _ => none

/-- The wording of a problem that has one. -/
def message? : FieldProblem → Option String
  | noIncludes => some "Value error, At least one include pattern is required."
  | notDotted name => some ("Value error, " ++ quoted name ++ " is not a dotted module name.")
  | _ => none

end FieldProblem

namespace Settings

open Json (Document)

/-- A value as a string. -/
def stringOf (index : Option Nat) : Document → Except FieldProblem String
  | .string (some text) => .ok text
  | .string none => .error (.notCharacters index)
  | _ => .error (.notString index)

/-- A value as a list of strings, with every problem of its elements. -/
def stringsOf : Document → Except (List FieldProblem) (List String)
  | .array elements =>
    let read := elements.mapIdx fun i element => stringOf (some i) element
    let problems := read.filterMap fun
      | .error problem => some problem
      | .ok _ => none
    if problems.isEmpty then
      .ok (read.filterMap fun
        | .ok text => some text
        | .error _ => none)
    else .error problems
  | _ => .error [.notList]

/-- A value as a path. -/
def pathOf : Document → Except (List FieldProblem) Path
  | .string (some text) => .ok (Path.ofString text)
  | _ => .error [.notPath]

/-- A value as include patterns. -/
def includesOf (value : Document) : Except (List FieldProblem) (List String) := do
  let patterns ← stringsOf value
  if patterns.isEmpty then .error [.noIncludes] else .ok patterns

/-- A value as the name of the runtime module. -/
def runtimeModuleOf (value : Document) : Except (List FieldProblem) String :=
  match stringOf none value with
  | .error problem => .error [problem]
  | .ok name => if RuntimeName.accepts name then .ok name else .error [.notDotted name]

/-- How the environment's variables start. -/
def variableStart : String := "uiwire_"

/-- Lower case, in ASCII. -/
def lowerCase (text : String) : String := String.ofList (text.toList.map Char.toLower)

/-- The variable of a field in the environment; case does not matter, and the last one counts. -/
def variableText? (environment : List (String × String)) (field : SettingsField) : Option String :=
  (environment.reverse.find? fun entry => lowerCase entry.1 == variableStart ++ field.name).map (·.2)

/-- Whether the environment gives a field as JSON. -/
def isList : SettingsField → Bool
  | .includes | .excludes => true
  | _ => false

/-- The value of a field in the environment; a list that is null counts as absent. -/
def environmentValue? (environment : List (String × String)) (field : SettingsField) :
    Except SettingsError (Option Document) :=
  match variableText? environment field with
  | none => .ok none
  | some text =>
    if isList field then
      match Json.parse? text with
      | none => .error .undecodable
      | some .null => .ok none
      | some value => .ok (some value)
    else .ok (some (.string (some text)))

/-- The value of a field, if one is given. -/
def value? (explicit : List (String × Document)) (environment : List (String × String))
    (field : SettingsField) : Except SettingsError (Option Document) :=
  (environmentValue? environment field).map fun fallback =>
    (explicit.reverse.lookup field.name).or fallback

/-- Read a field, or take its default. -/
def readField {α : Type} (read : Document → Except (List FieldProblem) α) (default : α) :
    Option Document → Except (List FieldProblem) α
  | none => .ok default
  | some value => read value

/-- The problems of a field. -/
def problemsOf {α : Type} (field : SettingsField) :
    Except (List FieldProblem) α → List (SettingsField × FieldProblem)
  | .ok _ => []
  | .error problems => problems.map (field, ·)

/-- Read settings. -/
def read (explicit : List (String × Document)) (environment : List (String × String)) :
    Except SettingsError Settings := do
  let value := value? explicit environment
  let includes := readField includesOf ["src/**/*.py"] (← value .includes)
  let excludes := readField stringsOf [] (← value .excludes)
  let projectRoot := readField pathOf ⟨.relative, []⟩ (← value .projectRoot)
  let outputPath := readField pathOf (Path.ofString "src/container_gen.py") (← value .outputPath)
  let runtimeModule := readField runtimeModuleOf RuntimeName.usual (← value .runtimeModule)
  match includes, excludes, projectRoot, outputPath, runtimeModule with
  | .ok includes, .ok excludes, .ok projectRoot, .ok outputPath, .ok runtimeModule =>
    .ok { includes, excludes, projectRoot, outputPath, runtimeModule }
  | _, _, _, _, _ =>
    .error (.invalid (problemsOf .includes includes ++ problemsOf .excludes excludes
      ++ problemsOf .projectRoot projectRoot ++ problemsOf .outputPath outputPath
      ++ problemsOf .runtimeModule runtimeModule))

/-- The generated module, absolute. -/
def resolvedOutput (settings : Settings) : Work Path := do
  let root ← Work.resolve settings.projectRoot
  return root.join settings.outputPath

/-- The project that settings describe. -/
def project (settings : Settings) : Work Project :=
  Project.make settings.includes settings.excludes settings.projectRoot settings.outputPath
    settings.runtimeModule

/-- Whether a change to a path, which need not exist, affects the container module. -/
def shouldRegenerate (settings : Settings) (path : Path) : Work Bool := do
  let output ← settings.resolvedOutput
  let selection ← Selection.make settings.includes settings.excludes settings.projectRoot (some output)
  selection.selectsPath path

end Settings

end Registrar
