import Registrar.Files.Path
import Registrar.Text.Identifier

/-!
# Module references

Where a scanned file stands as a module, seen from the package of the generated module.
-/

namespace Registrar

/-- A relative module name. -/
structure Reference where
  /-- The number of leading points: one for the package itself, one more for each parent. -/
  level : Nat
  /-- The names below that package. -/
  names : List String
  deriving DecidableEq

namespace Reference

/-- A relative module name as text. -/
def textOf (level : Nat) (names : List String) : String :=
  String.ofList (List.replicate level '.') ++ ".".intercalate names

/-- The reference as text. -/
def module (reference : Reference) : String := textOf reference.level reference.names

/-- The package that holds the module, as text. -/
def parent (reference : Reference) : String := textOf reference.level reference.names.dropLast

/-- Why a file has no reference. -/
inductive Failure
  /-- The path has no name. -/
  | noName
  /-- Some names on the way are not identifiers. -/
  | notNames (names : List String)
  deriving DecidableEq

/-- The reference of the module that relative names lead to. -/
def ofNames (names : List String) : Except Failure Reference :=
  let level := (names.takeWhile (· == "..")).length + 1
  let below := names.dropWhile (· == "..")
  let below := if below.getLast? == some "__init__" then below.dropLast else below
  let invalid := below.filter fun name => !isIdentifier name
  if invalid.isEmpty then .ok ⟨level, below⟩ else .error (.notNames invalid)

/-- The reference of a file seen from a directory, which is given by its names below the root. -/
def ofPath (path : Path) (directory : List String) : Except Failure Reference :=
  match path.dropSuffix? with
  | none => .error .noName
  | some module => ofNames (Path.relativeNames module.names directory)

end Reference

end Registrar
