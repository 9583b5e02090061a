import Registrar.Signature.Parameter

/-!
# Binding arguments to parameters

A call gives arguments by position and by name. Binding goes through the parameters in order: one
that takes positions takes the first that is left, otherwise a name, otherwise its default. A
call binds when every parameter has an argument and no argument is left.
-/

namespace Registrar

/-- What a call gives one parameter. -/
inductive Argument (α : Type)
  /-- One value. -/
  | one (value : α)
  /-- The positions that were left. -/
  | many (values : List α)
  /-- The names that were left, with their values. -/
  | entries (values : List (String × α))
  deriving DecidableEq

namespace Signature

variable {α : Type}

/-- The value a name is given. -/
def givenBy (name : String) (given : List (String × α)) : Option α :=
  (given.find? fun entry => entry.1 == name).map (·.2)

/-- The names that are given besides one. -/
def besides (name : String) (given : List (String × α)) : List (String × α) :=
  given.filter fun entry => entry.1 != name

/-- Bind the arguments of a call, given by position and by distinct names. -/
def bind? : Signature α → List α → List (String × α) → Option (List (String × Argument α))
  | [], [], [] => some []
  | [], _, _ => none
  | parameter :: rest, positions, names =>
    let bound (argument : Argument α) (positions : List α) (names : List (String × α)) :=
      (bind? rest positions names).map ((parameter.name, argument) :: ·)
    let byName : Option (List (String × Argument α)) :=
      match (if parameter.kind.isNamed then givenBy parameter.name names else none) with
      | some value => bound (.one value) positions (besides parameter.name names)
      | none => parameter.default?.bind fun value => bound (.one value) positions names
    match parameter.kind, positions with
    | .positionalOnly, value :: positions => bound (.one value) positions names
    | .positional, value :: positions =>
      if (givenBy parameter.name names).isSome then none
      else bound (.one value) positions names
    | .variadic, positions => bound (.many positions) [] names
    | .keywords, positions => bound (.entries names) positions []
    | _, _ => byName

end Signature

end Registrar
