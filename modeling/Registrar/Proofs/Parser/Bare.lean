import Registrar.Source.Syntax

/-! # Syntax without positions

The lines of calls are the only positions that syntax holds. Without them, two texts that say the
same have equal syntax, however they are laid out.
-/

namespace Registrar.Source

mutual

/-- An expression without the lines of its calls. -/
def Expr.bare : Expr → Expr
  | .name id => .name id
  | .constant value => .constant value
  | .joined parts => .joined (bareParts parts)
  | .attribute value attr => .attribute value.bare attr
  | .subscript value index => .subscript value.bare index.bare
  | .call _ callee arguments keywords =>
    .call 0 callee.bare (bareExprs arguments) (bareKeywords keywords)
  | .list elements => .list (bareExprs elements)
  | .tuple elements => .tuple (bareExprs elements)
  | .set elements => .set (bareExprs elements)
  | .dict items => .dict (bareItems items)
  | .unary operator operand => .unary operator operand.bare
  | .binary left operator right => .binary left.bare operator right.bare
  | .boolean connective operands => .boolean connective (bareExprs operands)
  | .compare first rest => .compare first.bare (bareComparisons rest)
  | .conditional test body orelse => .conditional test.bare body.bare orelse.bare
  | .lambda parameters body => .lambda parameters.bare body.bare
  | .comprehension kind element clauses =>
    .comprehension kind element.bare (bareClauses clauses)
  | .dictComprehension key value clauses =>
    .dictComprehension key.bare value.bare (bareClauses clauses)
  | .await value => .await value.bare
  | .yield value => .yield (bareOption value)
  | .yieldFrom value => .yieldFrom value.bare
  | .named target value => .named target value.bare
  | .starred value => .starred value.bare
  | .slice lower upper step => .slice (bareOption lower) (bareOption upper) (bareOption step)

/-- An optional expression without positions. -/
def bareOption : Option Expr → Option Expr
  | none => none
  | some value => some value.bare

/-- Expressions without positions. -/
def bareExprs : List Expr → List Expr
  | [] => []
  | e :: rest => e.bare :: bareExprs rest

/-- Keyword arguments without positions. -/
def bareKeywords : List (Option String × Expr) → List (Option String × Expr)
  | [] => []
  | (name, value) :: rest => (name, value.bare) :: bareKeywords rest

/-- Items of a dictionary without positions. -/
def bareItems : List (Option Expr × Expr) → List (Option Expr × Expr)
  | [] => []
  | (key, value) :: rest => (bareOption key, value.bare) :: bareItems rest

/-- Comparisons without positions. -/
def bareComparisons : List (Comparison × Expr) → List (Comparison × Expr)
  | [] => []
  | (operator, value) :: rest => (operator, value.bare) :: bareComparisons rest

/-- A clause without positions. -/
def Clause.bare : Clause → Clause
  | .mk isAsync target iterable conditions =>
    .mk isAsync target.bare iterable.bare (bareExprs conditions)

/-- Clauses without positions. -/
def bareClauses : List Clause → List Clause
  | [] => []
  | clause :: rest => clause.bare :: bareClauses rest

/-- A piece of a formatted literal without positions. -/
def FormatPart.bare : FormatPart → FormatPart
  | .literal points => .literal points
  | .field value conversion spec => .field value.bare conversion (bareSpec spec)

/-- A format specification without positions. -/
def bareSpec : Option (List FormatPart) → Option (List FormatPart)
  | none => none
  | some parts => some (bareParts parts)

/-- Pieces of a formatted literal without positions. -/
def bareParts : List FormatPart → List FormatPart
  | [] => []
  | part :: rest => part.bare :: bareParts rest

/-- A parameter without positions. -/
def Parameter.bare : Parameter → Parameter
  | .mk name hint fallback => .mk name (bareOption hint) (bareOption fallback)

/-- Parameters of one kind without positions. -/
def bareParameters : List Parameter → List Parameter
  | [] => []
  | parameter :: rest => parameter.bare :: bareParameters rest

/-- An optional parameter without positions. -/
def bareRest : Option Parameter → Option Parameter
  | none => none
  | some parameter => some parameter.bare

/-- The parameters of a function without positions. -/
def Parameters.bare : Parameters → Parameters
  | .mk positionalOnly regular rest keywordOnly keywordRest =>
    .mk (bareParameters positionalOnly) (bareParameters regular) (bareRest rest)
      (bareParameters keywordOnly) (bareRest keywordRest)

end

/-! ## Patterns and statements -/

mutual

/-- A pattern without positions. -/
def Pattern.bare : Pattern → Pattern
  | .value value => .value value.bare
  | .singleton value => .singleton value
  | .sequence patterns => .sequence (barePatterns patterns)
  | .mapping entries rest => .mapping (bareEntries entries) rest
  | .object callee patterns keywords =>
    .object callee.bare (barePatterns patterns) (bareNamed keywords)
  | .star name => .star name
  | .bind pattern name => .bind (barePattern? pattern) name
  | .either patterns => .either (barePatterns patterns)

/-- Patterns without positions. -/
def barePatterns : List Pattern → List Pattern
  | [] => []
  | pattern :: rest => pattern.bare :: barePatterns rest

/-- Entries of a mapping pattern without positions. -/
def bareEntries : List (Expr × Pattern) → List (Expr × Pattern)
  | [] => []
  | (key, pattern) :: rest => (key.bare, pattern.bare) :: bareEntries rest

/-- Keyword patterns without positions. -/
def bareNamed : List (String × Pattern) → List (String × Pattern)
  | [] => []
  | (name, pattern) :: rest => (name, pattern.bare) :: bareNamed rest

/-- An optional pattern without positions. -/
def barePattern? : Option Pattern → Option Pattern
  | none => none
  | some pattern => some pattern.bare

end

/-- Contexts of a `with` statement without positions. -/
def bareContexts (items : List (Expr × Option Expr)) : List (Expr × Option Expr) :=
  items.map fun item => (item.1.bare, bareOption item.2)

mutual

/-- A statement without positions. -/
def Stmt.bare : Stmt → Stmt
  | .functionDef isAsync name parameters decorators returns body =>
    .functionDef isAsync name parameters.bare (bareExprs decorators) (bareOption returns)
      (bareStmts body)
  | .classDef name bases keywords decorators body =>
    .classDef name (bareExprs bases) (bareKeywords keywords) (bareExprs decorators) (bareStmts body)
  | .returnValue value => .returnValue (bareOption value)
  | .delete targets => .delete (bareExprs targets)
  | .assign targets value => .assign (bareExprs targets) value.bare
  | .augAssign target operator value => .augAssign target.bare operator value.bare
  | .annAssign target hint value => .annAssign target.bare hint.bare (bareOption value)
  | .forLoop isAsync target iterable body orelse =>
    .forLoop isAsync target.bare iterable.bare (bareStmts body) (bareStmts orelse)
  | .whileLoop test body orelse => .whileLoop test.bare (bareStmts body) (bareStmts orelse)
  | .conditional test body orelse => .conditional test.bare (bareStmts body) (bareStmts orelse)
  | .withItems isAsync items body => .withItems isAsync (bareContexts items) (bareStmts body)
  | .matchCases subject cases => .matchCases subject.bare (bareCases cases)
  | .raise exception cause => .raise (bareOption exception) (bareOption cause)
  | .tryExcept isGroup body handlers orelse finalbody =>
    .tryExcept isGroup (bareStmts body) (bareHandlers handlers) (bareStmts orelse)
      (bareStmts finalbody)
  | .assertion test message => .assertion test.bare (bareOption message)
  | .importModules names => .importModules names
  | .importFrom level module names => .importFrom level module names
  | .globals names => .globals names
  | .nonlocals names => .nonlocals names
  | .evaluate value => .evaluate value.bare
  | .pass => .pass
  | .breakLoop => .breakLoop
  | .continueLoop => .continueLoop

/-- Statements without positions. -/
def bareStmts : List Stmt → List Stmt
  | [] => []
  | statement :: rest => statement.bare :: bareStmts rest

/-- A `case` block without positions. -/
def Case.bare : Case → Case
  | .mk pattern guard body => .mk pattern.bare (bareOption guard) (bareStmts body)

/-- `case` blocks without positions. -/
def bareCases : List Case → List Case
  | [] => []
  | block :: rest => block.bare :: bareCases rest

/-- An `except` block without positions. -/
def Handler.bare : Handler → Handler
  | .mk exception name body => .mk (bareOption exception) name (bareStmts body)

/-- `except` blocks without positions. -/
def bareHandlers : List Handler → List Handler
  | [] => []
  | handler :: rest => handler.bare :: bareHandlers rest

end

attribute [simp] Expr.bare Pattern.bare Stmt.bare Case.bare Handler.bare

/-- A module without positions. -/
def bareModule (body : Module) : Module := bareStmts body

end Registrar.Source
