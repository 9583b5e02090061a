import Registrar.CommandLine.Arguments
import Registrar.Project.Settings

/-!
# The program

What a command does: the status it ends with and the texts it writes. Only failures the program knows
are told; any other leaves it.
-/

namespace Registrar.CommandLine

open Json (Document)

/-- What a command leaves behind. -/
structure Report where
  status : Nat
  output : String
  errors : String

/-- How the program ends. -/
inductive Ending
  /-- It writes its usage or says what is wrong with its arguments. -/
  | usage (status : Nat)
  /-- A command is done. -/
  | done (report : Report)
  /-- The environment holds a list that cannot be read. -/
  | undecodableSettings

/-- The settings that options give. -/
def Options.explicit (options : Options) : List (String × Document) :=
  let patterns (values : List String) : Document :=
    .array (values.map fun value => .string (some value))
  let single (field : SettingsField) (value : Option String) : List (String × Document) :=
    (value.map fun value => (field.name, Document.string (some value))).toList
  (if options.includes.isEmpty then [] else [(SettingsField.includes.name, patterns options.includes)])
    ++ (if options.excludes.isEmpty then []
      else [(SettingsField.excludes.name, patterns options.excludes)])
    ++ single .outputPath options.output
    ++ single .projectRoot options.projectRoot
    ++ single .runtimeModule options.runtimeModule

/-- The line an error is told in; the texts of errors of the system are their numbers. Errors that the
program does not know are not told. -/
def errorLine? : ProjectError → Option String
  | .file error => some ("uiwire: [Errno " ++ toString error.number ++ "]")
  | .catalogue (.noFileName _) => none
  | .catalogue error => some ("uiwire: " ++ error.message ++ "\n")
  | .undecodable | .unresolved _ => none

/-- What a command does with a project. -/
def runCommand (command : Command) (project : Project) : Work Report :=
  match command with
  | .check => do
    if ← project.isCurrent then return ⟨0, "", ""⟩
    else return ⟨1, "", project.output.toString ++ " is out of sync. Run: uiwire generate\n"⟩
  | .generate => do
    let result ← project.generate
    let status := if result.changed then "updated" else "unchanged"
    return ⟨0, result.output.toString ++ ": " ++ toString (FileExports.count result.files)
      ++ " registrations (" ++ status ++ ")\n", ""⟩

/-- Do a command, telling the errors the program knows. -/
def tell (work : Work Report) : Work Report :=
  tryCatch work fun error =>
    match errorLine? error with
    | some line => pure ⟨1, "", line⟩
    | none => throw error

/-- Run the program with its arguments in an environment. -/
def run (arguments : List String) (environment : List (String × String)) : Work Ending :=
  match read arguments with
  | .help => pure (.usage 0)
  | .mistake => pure (.usage 2)
  | .run command options =>
    match Settings.read options.explicit environment with
    | .error .undecodable => pure .undecodableSettings
    | .error (.invalid _) => pure (.done ⟨1, "", "Invalid settings:\n"⟩)
    | .ok settings => do
      let project ← settings.project
      .done <$> tell (runCommand command project)

/-- The severity from which on events are shown: all with the option, else no details; none but
warnings before the arguments are read. -/
def threshold (arguments : List String) : Severity :=
  match read arguments with
  | .run _ options => if options.verbose then .debug else .info
  | _ => .warning

end Registrar.CommandLine
