import Registrar.Registration.Scan
import Registrar.Text.Word

/-!
# Exports

The registrations of scanned files as exports, each with an alias of its own. An alias is made of the
symbol or the module's name and of the export's number in the analysis.
-/

namespace Registrar

/-- An export of a scanned file. -/
structure Export where
  /-- The file. -/
  path : Path
  /-- The exported symbol; none if importing the module is what registers the item. -/
  name : Option String
  /-- An identifier no other export of the analysis has. -/
  «alias» : String
  /-- The dependency key. -/
  key : String
  /-- The kind of the item. -/
  kind : ItemKind
  deriving DecidableEq

/-- The exports of a scanned file, in order. -/
structure FileExports where
  path : Path
  exports : List Export
  deriving DecidableEq

namespace FileExports

/-- The exports that are imported as their module. -/
def moduleExports (file : FileExports) : List Export :=
  file.exports.filter (·.name.isNone)

/-- The exports that are imported by name. -/
def namedExports (file : FileExports) : List Export :=
  file.exports.filter (·.name.isSome)

end FileExports

namespace Export

/-- The name a file has as a module: its stem, or its directory's name for a package. -/
def moduleName (path : Path) : String :=
  if path.stem == "__init__" then path.parent.name else path.stem

/-- A text as an identifier: other characters become underscores, and one stands before a digit or
alone. -/
def identifierOf (text : String) : String :=
  let letters := text.toList.map fun c => if isWordChar c then c else '_'
  match letters with
  | c :: _ => String.ofList (if isDigitChar c then '_' :: letters else letters)
  | [] => "_"

/-- The alias of the export with a number. -/
def aliasOf (name : Option String) (path : Path) (index : Nat) : String :=
  identifierOf (name.getD (moduleName path)) ++ "_" ++ toString index

/-- The exports of one file, numbered from a number on. -/
def ofRegistrations (path : Path) (start : Nat) (registrations : List Registration) :
    List Export :=
  registrations.mapIdx fun i registration =>
    { path
      name := registration.name
      «alias» := aliasOf registration.name path (start + i)
      key := registration.key
      kind := registration.kind }

end Export

namespace FileExports

/-- The exports of scanned files, numbered through all files in order. -/
def number (start : Nat) : List (Path × List Registration) → List FileExports
  | [] => []
  | (path, registrations) :: files =>
    ⟨path, Export.ofRegistrations path start registrations⟩
      :: number (start + registrations.length) files

/-- How many exports some files have. -/
def count (files : List FileExports) : Nat :=
  (files.flatMap (·.exports)).length

end FileExports

end Registrar
