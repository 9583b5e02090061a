import Registrar.Files.Path
import Registrar.Selection.Segments

/-!
# Selections

Which paths some include and exclude patterns select, by their spelling alone. Relative patterns are
anchored at the root of the project; the generated module is never selected.
-/

namespace Registrar

/-- The patterns that select the scanned files. -/
structure Selection where
  /-- Patterns of the files to scan. -/
  includes : List String
  /-- Patterns of the files to leave out. -/
  excludes : List String
  /-- The directory that anchors relative patterns. -/
  root : Path
  /-- The generated module. -/
  output : Option Path

namespace Selection

/-- A pattern as an absolute one. -/
def anchor (selection : Selection) (pattern : String) : String :=
  if Path.isAbsoluteText pattern then pattern
  else (selection.root.join (Path.ofString pattern)).toString

/-- Whether a pattern matches a path. -/
def patternMatches (selection : Selection) (path : Path) (pattern : String) : Bool :=
  Segments.accepts (Path.ofString (selection.anchor pattern)).parts path.parts

/-- Whether an absolute path without links would be selected. -/
def selects (selection : Selection) (path : Path) : Bool :=
  some path != selection.output
    && selection.includes.any (selection.patternMatches path)
    && !selection.excludes.any (selection.patternMatches path)

end Selection

end Registrar
