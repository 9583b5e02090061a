import Registrar.Source.Syntax
import Registrar.Source.Token

/-!
# Parsers of tokens

A parser takes tokens off the front of a list or fails. Which way a rule goes is decided by the
token ahead, so almost no rule is tried twice. Rules that contain themselves reach their smaller
selves through a record of parsers, which is unrolled as deep as a module can nest.
-/

namespace Registrar.Source

/-- A parser: what it read and the tokens that remain, or nothing. -/
abbrev Parser := StateT (List Lexeme) Option

namespace Parser

/-- The token ahead. -/
def peek : Parser Token := do
  match ← get with
  | lexeme :: _ => return lexeme.token
  | [] => failure

/-- The two tokens ahead. -/
def peekTwo : Parser (Token × Token) := do
  match ← get with
  | first :: second :: _ => return (first.token, second.token)
  | [first] => return (first.token, .finish)
  | [] => failure

/-- The line of the token ahead. -/
def line : Parser Nat := do
  match ← get with
  | lexeme :: _ => return lexeme.line
  | [] => failure

/-- Take one token. -/
def advance : Parser Unit := do
  match ← get with
  | _ :: rest => set rest
  | [] => failure

/-- Take a given token if it is ahead. -/
def takes (token : Token) : Parser Bool := do
  if (← peek) == token then
    advance
    return true
  else return false

/-- Take a given token. -/
def expect (token : Token) : Parser Unit := do
  if (← peek) == token then advance else failure

/-- Take an operator or delimiter. -/
def symbol (text : String) : Parser Unit := expect (.symbol text)

/-- Take a reserved word. -/
def word (text : String) : Parser Unit := expect (.keyword text)

/-- Take an operator or delimiter if it is ahead. -/
def takesSymbol (text : String) : Parser Bool := takes (.symbol text)

/-- Take a reserved word if it is ahead. -/
def takesWord (text : String) : Parser Bool := takes (.keyword text)

/-- Take a name. -/
def identifier : Parser String := do
  match ← peek with
  | .name id => advance; return id
  | _ => failure

/-- Run a step as long as it finds something, at most `fuel` times. -/
def collectWith {α : Type} (step : Parser (Option α)) : (fuel : Nat) → Parser (List α)
  | 0 => failure
  | fuel + 1 => do
    match ← step with
    | none => return []
    | some item =>
      let items ← collectWith step fuel
      return item :: items

/-- Run a step as long as it finds something. -/
def collect {α : Type} (step : Parser (Option α)) : Parser (List α) := do
  collectWith step ((← get).length + 1)

/-- One item or more with commas between them; also whether a comma follows the last. -/
def commaListWith {α : Type} (starts : Token → Bool) (item : Parser α) :
    (fuel : Nat) → Parser (List α × Bool)
  | 0 => failure
  | fuel + 1 => do
    let first ← item
    if ← takesSymbol "," then
      if starts (← peek) then
        let (items, trailing) ← commaListWith starts item fuel
        return (first :: items, trailing)
      else return ([first], true)
    else return ([first], false)

/-- One item or more with commas between them; also whether a comma follows the last. An item after
a comma is there exactly when `starts` holds of the token ahead. -/
def commaList {α : Type} (starts : Token → Bool) (item : Parser α) : Parser (List α × Bool) := do
  commaListWith starts item ((← get).length + 1)

/-- One item or more with a separator between them. -/
def separated {α : Type} (separator : String) (item : Parser α) : Parser (List α) := do
  let first ← item
  let rest ← collect do
    if ← takesSymbol separator then return some (← item) else return none
  return first :: rest

/-- An optional item, there exactly when a condition on the token ahead holds. -/
def whenAhead {α : Type} (starts : Token → Bool) (item : Parser α) : Parser (Option α) := do
  if starts (← peek) then return some (← item) else return none

/-- Whether an expression can start with a token. -/
def startsExpression : Token → Bool
  | .name _ | .number _ | .string _ => true
  | .keyword text => ["None", "True", "False", "lambda", "not", "await"].contains text
  | .symbol text => ["(", "[", "\x7b", "+", "-", "~", "..."].contains text
  | _ => false

/-- Whether an expression, perhaps with a star, can start with a token. -/
def startsStarred (token : Token) : Bool :=
  startsExpression token || token == .symbol "*"

/-- The smaller selves of the rules that contain themselves. -/
structure Rules where
  /-- An expression without a star or an unparenthesised assignment. -/
  expression : Parser Expr
  /-- An expression below the conditional. -/
  disjunction : Parser Expr
  /-- An expression below the comparisons. -/
  bitOr : Parser Expr
  /-- The operand of a sign. -/
  factor : Parser Expr
  /-- An atom with what is applied to it. -/
  primary : Parser Expr
  /-- A pattern, perhaps with alternatives and a name. -/
  pattern : Parser Pattern
  /-- The body of a compound statement. -/
  block : Parser (List Stmt)
  /-- The expression that is the text of a replacement field. -/
  field : List Char → Option Expr

/-- Rules that read nothing, at the bottom of the unrolling. -/
def Rules.stuck : Rules where
  expression := failure
  disjunction := failure
  bitOr := failure
  factor := failure
  primary := failure
  pattern := failure
  block := failure
  field := fun _ => none

end Parser

end Registrar.Source
