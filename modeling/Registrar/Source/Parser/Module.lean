import Registrar.Source.Lexer
import Registrar.Source.Parser.Statement

/-!
# Modules

The rules unrolled, and the reading of a whole module.
-/

namespace Registrar.Source

namespace Parser

/-- The expression that is the text of a replacement field, read as if in brackets. -/
def fieldText (rules : Rules) (text : List Char) : Option Expr := do
  let lexemes ← tokens? ('(' :: text ++ [')'])
  let (value, rest) ← (starExpressions rules).run lexemes
  match rest with
  | [⟨.newline, _⟩, ⟨.finish, _⟩] => some value
  | _ => none

/-- The rules unrolled to a depth. -/
def unrolled : Nat → Rules
  | 0 => .stuck
  | depth + 1 => {
      expression := fun lexemes => expression (unrolled depth) lexemes
      disjunction := fun lexemes => disjunction (unrolled depth) lexemes
      bitOr := fun lexemes => bitOr (unrolled depth) lexemes
      factor := fun lexemes => factor (unrolled depth) lexemes
      primary := fun lexemes => primary (unrolled depth) lexemes
      pattern := fun lexemes => pattern (unrolled depth) lexemes
      block := fun lexemes => block (unrolled depth) lexemes
      field := fun text => fieldText (unrolled depth) text }

/-- A whole module. -/
def module (rules : Rules) : Parser Module := statementsUntil .finish rules

end Parser

/-- Read a text as a module; no null character may be in it. Every unrolled rule takes a character,
so no module is too deep. -/
def parseModule? (source : List Char) : Option Module := do
  if source.contains '\x00' then failure
  let lexemes ← tokens? source
  let (body, rest) ← (Parser.module (Parser.unrolled (2 * source.length + 10))).run lexemes
  if rest.isEmpty then some body else none

end Registrar.Source
