/-!
# Abstract syntax of Python modules

Expressions, patterns and statements of a Python 3.11 module. Layout, comments, redundant
parentheses and the spelling of literals are gone; the one position kept is the line a call starts
on. A text literal is a sequence of code points, because its escapes can name code points that are
not characters.
-/

namespace Registrar.Source

/-- Value of a literal. -/
inductive Constant
  | none
  | bool (value : Bool)
  | ellipsis
  | number (spelling : String)
  | text (points : List Nat)
  | bytes (octets : List Nat)
  deriving DecidableEq

/-- Unary operators. -/
inductive UnaryOperator
  | invert | not | plus | minus
  deriving DecidableEq

/-- Binary operators, which also serve augmented assignments. -/
inductive BinaryOperator
  | add | subtract | multiply | matrixMultiply | divide | remainder | power | shiftLeft | shiftRight
  | bitOr | bitXor | bitAnd | floorDivide
  deriving DecidableEq

/-- Comparison operators. -/
inductive Comparison
  | equal | notEqual | less | lessEqual | greater | greaterEqual | is | isNot | isIn | notIn
  deriving DecidableEq

/-- Connectives of boolean expressions. -/
inductive Connective
  | and | or
  deriving DecidableEq

/-- What a comprehension over single elements builds. -/
inductive ComprehensionKind
  | generator | list | set
  deriving DecidableEq

mutual

/-- An expression. Targets of assignments are expressions too. -/
inductive Expr
  | name (id : String)
  | constant (value : Constant)
  /-- A formatted string literal. -/
  | joined (parts : List FormatPart)
  | attribute (value : Expr) (attr : String)
  | subscript (value index : Expr)
  /-- A call; `line` is the line of the first token of the callee. -/
  | call (line : Nat) (callee : Expr) (arguments : List Expr)
    (keywords : List (Option String × Expr))
  | list (elements : List Expr)
  | tuple (elements : List Expr)
  | set (elements : List Expr)
  /-- A dictionary display; an item without a key unpacks a mapping. -/
  | dict (items : List (Option Expr × Expr))
  | unary (operator : UnaryOperator) (operand : Expr)
  | binary (left : Expr) (operator : BinaryOperator) (right : Expr)
  | boolean (connective : Connective) (operands : List Expr)
  | compare (first : Expr) (rest : List (Comparison × Expr))
  | conditional (test body orelse : Expr)
  | lambda (parameters : Parameters) (body : Expr)
  | comprehension (kind : ComprehensionKind) (element : Expr) (clauses : List Clause)
  | dictComprehension (key value : Expr) (clauses : List Clause)
  | await (value : Expr)
  | yield (value : Option Expr)
  | yieldFrom (value : Expr)
  | named (target : String) (value : Expr)
  | starred (value : Expr)
  | slice (lower upper step : Option Expr)

/-- A `for` clause of a comprehension with its conditions. -/
inductive Clause
  | mk (isAsync : Bool) (target iterable : Expr) (conditions : List Expr)

/-- A piece of a formatted string literal. -/
inductive FormatPart
  | literal (points : List Nat)
  | field (value : Expr) (conversion : Option Char) (spec : Option (List FormatPart))

/-- One parameter of a function. -/
inductive Parameter
  | mk (name : String) (hint fallback : Option Expr)

/-- The parameters of a function by the way they are passed. -/
inductive Parameters
  | mk (positionalOnly regular : List Parameter) (rest : Option Parameter)
    (keywordOnly : List Parameter) (keywordRest : Option Parameter)

end

/-- A name imported from somewhere, with the name it is bound to if that differs. -/
structure ImportedName where
  name : String
  binding : Option String

/-- A pattern of a `case` block. -/
inductive Pattern
  | value (value : Expr)
  | singleton (value : Constant)
  | sequence (patterns : List Pattern)
  | mapping (entries : List (Expr × Pattern)) (rest : Option String)
  | object (callee : Expr) (patterns : List Pattern) (keywords : List (String × Pattern))
  | star (name : Option String)
  | bind (pattern : Option Pattern) (name : Option String)
  | either (patterns : List Pattern)

mutual

/-- A statement. -/
inductive Stmt
  | functionDef (isAsync : Bool) (name : String) (parameters : Parameters)
    (decorators : List Expr) (returns : Option Expr) (body : List Stmt)
  | classDef (name : String) (bases : List Expr) (keywords : List (Option String × Expr))
    (decorators : List Expr) (body : List Stmt)
  | returnValue (value : Option Expr)
  | delete (targets : List Expr)
  | assign (targets : List Expr) (value : Expr)
  | augAssign (target : Expr) (operator : BinaryOperator) (value : Expr)
  | annAssign (target hint : Expr) (value : Option Expr)
  | forLoop (isAsync : Bool) (target iterable : Expr) (body orelse : List Stmt)
  | whileLoop (test : Expr) (body orelse : List Stmt)
  | conditional (test : Expr) (body orelse : List Stmt)
  | withItems (isAsync : Bool) (items : List (Expr × Option Expr)) (body : List Stmt)
  | matchCases (subject : Expr) (cases : List Case)
  | raise (exception cause : Option Expr)
  | tryExcept (isGroup : Bool) (body : List Stmt) (handlers : List Handler)
    (orelse finalbody : List Stmt)
  | assertion (test : Expr) (message : Option Expr)
  | importModules (names : List ImportedName)
  /-- An import from a module; no names stand for all of them. -/
  | importFrom (level : Nat) (module : Option String) (names : List ImportedName)
  | globals (names : List String)
  | nonlocals (names : List String)
  | evaluate (value : Expr)
  | pass
  | breakLoop
  | continueLoop

/-- A `case` block. -/
inductive Case
  | mk (pattern : Pattern) (guard : Option Expr) (body : List Stmt)

/-- An `except` block. -/
inductive Handler
  | mk (exception : Option Expr) (name : Option String) (body : List Stmt)

end

/-- A module: its top-level statements. -/
abbrev Module := List Stmt

end Registrar.Source
