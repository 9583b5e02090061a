/-!
# Parameters

The parameters of a callable, with defaults of any type, in the order of their declaration.
-/

namespace Registrar

/-- How a parameter takes arguments. -/
inductive ParameterKind
  /-- By position only. -/
  | positionalOnly
  /-- By position or by name. -/
  | positional
  /-- All positions that are left. -/
  | variadic
  /-- By name only. -/
  | named
  /-- All names that are left. -/
  | keywords
  deriving DecidableEq, Inhabited

namespace ParameterKind

/-- Whether a parameter takes one argument by its position. -/
def isPositional : ParameterKind → Bool
  | positionalOnly | positional => true
  | _ => false

/-- Whether a parameter takes one argument by its name. -/
def isNamed : ParameterKind → Bool
  | positional | named => true
  | _ => false

/-- The short word for a kind. -/
def label : ParameterKind → String
  | positionalOnly => "po"
  | positional => "pk"
  | variadic => "vp"
  | named => "ko"
  | keywords => "vk"

/-- The kind a short word means. -/
def ofLabel? : String → Option ParameterKind
  | "po" => some positionalOnly
  | "pk" => some positional
  | "vp" => some variadic
  | "ko" => some named
  | "vk" => some keywords
  | _ => none

/-- The place of a kind in a declaration: kinds do not come before kinds of a lower rank. -/
def rank : ParameterKind → Nat
  | positionalOnly => 0
  | positional => 1
  | variadic => 2
  | named => 3
  | keywords => 4

end ParameterKind

/-- A parameter, whose default, if there is one, is an `α`. -/
structure Parameter (α : Type) where
  name : String
  kind : ParameterKind
  default? : Option α
  deriving DecidableEq, Inhabited

/-- The parameters of a callable. -/
abbrev Signature (α : Type) := List (Parameter α)

namespace Signature

variable {α : Type}

/-- The parameters that take one argument by position. -/
def positionals (signature : Signature α) : Signature α :=
  signature.filter (·.kind.isPositional)

/-- Whether some parameter takes the positions that are left. -/
def isVariadic (signature : Signature α) : Bool :=
  signature.any (·.kind == .variadic)

/-- Whether a parameter needs no argument. -/
def isOptional (parameter : Parameter α) : Bool :=
  parameter.default?.isSome || parameter.kind == .variadic || parameter.kind == .keywords

/-- A well-formed declaration: kinds in their order, names that differ, at most one parameter for
the positions and one for the names that are left, and no positional parameter without default
after one with a default. -/
structure WellFormed (signature : Signature α) : Prop where
  ordered : signature.Pairwise fun a b => a.kind.rank ≤ b.kind.rank
  distinct : (signature.map Parameter.name).Nodup
  rest : signature.Pairwise fun a b => a.kind = b.kind → a.kind ≠ .variadic ∧ a.kind ≠ .keywords
  defaulted : signature.positionals.Pairwise fun a b => a.default?.isSome → b.default?.isSome
  plain : ∀ a ∈ signature, a.kind = .variadic ∨ a.kind = .keywords → a.default? = none

end Signature

end Registrar
