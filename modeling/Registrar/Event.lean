import Registrar.ItemKind
import Registrar.Files.Path
import Registrar.Text.Quoted

/-!
# Events

What the library reports while it works, with the severity and the wording of each event.
-/

namespace Registrar

/-- How severe an event is. -/
inductive Severity
  | debug | info | warning | error
  deriving DecidableEq

/-- The word for a severity. -/
def Severity.label : Severity → String
  | debug => "DEBUG"
  | info => "INFO"
  | warning => "WARNING"
  | error => "ERROR"

/-- Something worth reporting. -/
inductive Event
  /-- A registration of an existing key takes the place of an item. -/
  | replaced (key : String) (kind : ItemKind)
  /-- An item is registered. -/
  | registered (key : String) (kind : ItemKind)
  /-- A registration call has a key that is no string literal. -/
  | keyNotLiteral (line : Nat)
  /-- A file cannot be read as text. -/
  | unreadable (path : Path)
  /-- A file is not a module. -/
  | unparsable (path : Path)
  /-- An analysis starts. -/
  | scanning (files : Nat)
  /-- A rendering starts. -/
  | rendering (scanned contributing exports : Nat)
  /-- A key is registered again, here. -/
  | duplicateKey (key : String) (path : Path)
  /-- A generation starts. -/
  | generating (output : Path)
  /-- There is no output file yet. -/
  | placeholder
  /-- The output file holds the generated text already. -/
  | upToDate (output : Path)
  /-- A generation is done. -/
  | generated (output : Path) (exports files : Nat)
  /-- A bootstrap is done. -/
  | initialized (imported skipped : Nat)
  /-- A gate's bootstrap failed. -/
  | bootstrapFailed
  /-- A bootstrap completed for a gate that no longer waits for it. -/
  | completionIgnored
  deriving DecidableEq

namespace Event

/-- The severity of an event. -/
def severity : Event → Severity
  | replaced .. | registered .. | keyNotLiteral .. | scanning .. | placeholder | upToDate ..
  | initialized .. | completionIgnored => .debug
  | rendering .. | generating .. | generated .. => .info
  | unreadable .. | unparsable .. | duplicateKey .. => .warning
  | bootstrapFailed => .error

/-- The wording of an event. -/
def message : Event → String
  | replaced key kind =>
    "Replacing container item " ++ quoted key ++ " (" ++ kind.label ++ ") registered earlier"
  | registered key kind => "Registered container item " ++ quoted key ++ " as " ++ kind.label
  | keyNotLiteral line =>
    "Skipping registration at line " ++ toString line
      ++ ": dependency key is not a string literal"
  | unreadable path => "Skipping unreadable file " ++ path.toString
  | unparsable path => "Skipping unparsable file " ++ path.toString
  | scanning files => "Scanning " ++ toString files ++ " files for container registrations"
  | rendering scanned contributing exports =>
    "Container codegen: scanned_files=" ++ toString scanned ++ " contributing_files="
      ++ toString contributing ++ " exports=" ++ toString exports
  | duplicateKey key path =>
    "Dependency " ++ quoted key ++ " is registered more than once; keeping the registration in "
      ++ path.toString
  | generating output => "Generating uiwire container: " ++ output.toString
  | placeholder => "Writing placeholder container module before analysis"
  | upToDate output => "Container module is up to date: " ++ output.toString
  | generated output exports files =>
    "Generated uiwire container " ++ output.toString ++ ": " ++ toString exports
      ++ " exports from " ++ toString files ++ " files"
  | initialized imported skipped =>
    "Initialized " ++ toString imported ++ " container modules (" ++ toString skipped
      ++ " already initialized)"
  | bootstrapFailed => "Container bootstrap failed"
  | completionIgnored => "Ignoring bootstrap completion for an unmounted gate"

/-- An event as a line of a log. -/
def line (event : Event) : String := event.severity.label ++ " " ++ event.message

end Event

end Registrar
