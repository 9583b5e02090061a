import Registrar.Selection.Wildcard

/-!
# Path patterns

Patterns for whole paths, part by part. A double star spans any number of names that are not hidden;
any other part takes exactly one name.
-/

namespace Registrar

namespace Segments

/-- The part that spans any number of names. -/
def spanning : String := "**"

/-- Whether a part of a pattern matches a name. A part without wildcards matches itself only;
wildcards match a hidden name only after a point. -/
def partMatches (pattern name : String) : Bool :=
  if !hasWildcard pattern then pattern == name
  else if isHidden name && !isHidden pattern then false
  else wildcardMatches pattern name

/-- Whether what remains after some names that are not hidden satisfies a predicate. -/
def anyAfterVisible (p : List String → Bool) : List String → Bool
  | [] => p []
  | name :: names => p (name :: names) || (!isHidden name && anyAfterVisible p names)

/-- Whether the parts of a pattern match the parts of a path. -/
def accepts : List String → List String → Bool
  | [], names => names.isEmpty
  | part :: parts, names =>
    if part == spanning then anyAfterVisible (accepts parts) names
    else match names with
      | [] => false
      | name :: names => partMatches part name && accepts parts names

end Segments

end Registrar
