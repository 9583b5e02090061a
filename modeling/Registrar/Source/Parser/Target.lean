import Registrar.Source.Syntax

/-!
# Targets

Which expressions can be assigned to, looped over, deleted or annotated.
-/

namespace Registrar.Source

mutual

/-- Whether an expression can stand left of an equals sign, inside another target: a name, an
attribute, a subscript, or a list or tuple of targets, each with at most one star. -/
def Expr.isTarget : Expr → Bool
  | .name _ | .attribute .. | .subscript .. => true
  | .list elements | .tuple elements => areTargets elements
  | _ => false

/-- Whether every expression of a list is a target, perhaps with a star. -/
def areTargets : List Expr → Bool
  | [] => true
  | .starred e :: rest => e.isTarget && areTargets rest
  | e :: rest => e.isTarget && areTargets rest

end

/-- Whether an expression can stand left of an equals sign. -/
def Expr.isAssignable : Expr → Bool
  | .starred e => e.isTarget
  | e => e.isTarget

/-- Whether an expression can be annotated or be the target of an augmented assignment. -/
def Expr.isSingleTarget : Expr → Bool
  | .name _ | .attribute .. | .subscript .. => true
  | _ => false

mutual

/-- Whether an expression can be deleted. -/
def Expr.isDeletable : Expr → Bool
  | .name _ | .attribute .. | .subscript .. => true
  | .list elements | .tuple elements => areDeletable elements
  | _ => false

/-- Whether every expression of a list can be deleted. -/
def areDeletable : List Expr → Bool
  | [] => true
  | e :: rest => e.isDeletable && areDeletable rest

end

end Registrar.Source
