import Registrar.Source.Parser.Pattern

/-!
# Statements

Simple statements, which share lines, and compound statements with their blocks.
-/

namespace Registrar.Source.Parser

/-- Names with points between them. -/
def dottedName : Parser String := do
  let parts ← separated "." identifier
  return ".".intercalate parts

/-- A name something is bound to instead of its own. -/
def asName : Parser (Option String) := do
  if ← takesWord "as" then some <$> identifier else return none

/-- An import of modules. -/
def importStatement : Parser Stmt := do
  word "import"
  let names ← separated "," do
    let name ← dottedName
    let binding ← asName
    return (⟨name, binding⟩ : ImportedName)
  return .importModules names

/-- Whether a token is a name. -/
def isName : Token → Bool
  | .name _ => true
  | _ => false

/-- The names an import takes out of a module. -/
def importedNames : Parser (List ImportedName) := do
  let item : Parser ImportedName := do
    let name ← identifier
    let binding ← asName
    return ⟨name, binding⟩
  if ← takesSymbol "*" then return []
  else if ← takesSymbol "(" then
    let (names, _) ← commaList isName item
    symbol ")"
    return names
  else separated "," item

/-- An import from a module. -/
def importFromStatement : Parser Stmt := do
  word "from"
  let dots ← collect do
    if ← takesSymbol "." then return some 1
    else if ← takesSymbol "..." then return some 3
    else return none
  let level := dots.foldl (· + ·) 0
  let module ← whenAhead isName dottedName
  if level == 0 && module.isNone then failure
  word "import"
  let names ← importedNames
  return .importFrom level module names

/-- The operator of an augmented assignment. -/
def augmentation? : Token → Option BinaryOperator
  | .symbol "+=" => some .add
  | .symbol "-=" => some .subtract
  | .symbol "*=" => some .multiply
  | .symbol "@=" => some .matrixMultiply
  | .symbol "/=" => some .divide
  | .symbol "%=" => some .remainder
  | .symbol "&=" => some .bitAnd
  | .symbol "|=" => some .bitOr
  | .symbol "^=" => some .bitXor
  | .symbol "<<=" => some .shiftLeft
  | .symbol ">>=" => some .shiftRight
  | .symbol "**=" => some .power
  | .symbol "//=" => some .floorDivide
  | _ => none

/-- A statement that starts with an expression: an assignment of some kind or the expression. -/
def expressionStatement (rules : Rules) : Parser Stmt := do
  let first ← starExpressions rules
  match ← peek with
  | .symbol "=" =>
    let rest ← collect do
      if ← takesSymbol "=" then some <$> yieldOrExpressions rules else return none
    let targets := first :: rest.dropLast
    if targets.all (·.isAssignable) then
      match rest.getLast? with
      | some value => return .assign targets value
      | none => failure
    else failure
  | .symbol ":" =>
    if !first.isSingleTarget then failure
    advance
    let hint ← rules.expression
    let value ← if ← takesSymbol "=" then some <$> yieldOrExpressions rules else pure none
    return .annAssign first hint value
  | token =>
    match augmentation? token with
    | some operator =>
      if !first.isSingleTarget then failure
      advance
      let value ← yieldOrExpressions rules
      return .augAssign first operator value
    | none => return .evaluate first

/-- A deletion. -/
def deleteStatement (rules : Rules) : Parser Stmt := do
  word "del"
  let (targets, _) ← commaList startsTarget rules.primary
  if targets.all (·.isDeletable) then return .delete targets else failure

/-- A raising of an exception. -/
def raiseStatement (rules : Rules) : Parser Stmt := do
  word "raise"
  if startsExpression (← peek) then
    let exception ← rules.expression
    let cause ← if ← takesWord "from" then some <$> rules.expression else pure none
    return .raise (some exception) cause
  else return .raise none none

/-- An assertion. -/
def assertStatement (rules : Rules) : Parser Stmt := do
  word "assert"
  let test ← rules.expression
  let message ← if ← takesSymbol "," then some <$> rules.expression else pure none
  return .assertion test message

/-- A statement without a block. -/
def simpleStatement (rules : Rules) : Parser Stmt := do
  match ← peek with
  | .keyword "return" =>
    advance
    .returnValue <$> whenAhead startsStarred (starExpressions rules)
  | .keyword "import" => importStatement
  | .keyword "from" => importFromStatement
  | .keyword "raise" => raiseStatement rules
  | .keyword "pass" => advance; return .pass
  | .keyword "del" => deleteStatement rules
  | .keyword "yield" => .evaluate <$> yieldExpression rules
  | .keyword "assert" => assertStatement rules
  | .keyword "break" => advance; return .breakLoop
  | .keyword "continue" => advance; return .continueLoop
  | .keyword "global" => advance; .globals <$> separated "," identifier
  | .keyword "nonlocal" => advance; .nonlocals <$> separated "," identifier
  | _ => expressionStatement rules

/-- Simple statements up to the end of a line, with semicolons between them. -/
def simpleStatements (rules : Rules) : Parser (List Stmt) := do
  let first ← simpleStatement rules
  let rest ← collect do
    if ← takesSymbol ";" then
      if (← peek) == .newline then return none else some <$> simpleStatement rules
    else return none
  expect .newline
  return first :: rest

/-- A colon and the block after it. -/
def suite (rules : Rules) : Parser (List Stmt) := do
  symbol ":"
  rules.block

/-- The block after a word, if the word is there. -/
def optionalSuite (rules : Rules) (text : String) : Parser (List Stmt) := do
  if ← takesWord text then suite rules else return []

/-- A conditional statement with its further branches. -/
def ifStatement (rules : Rules) : Parser Stmt := do
  word "if"
  let test ← namedExpression rules
  let body ← suite rules
  let branches ← collect do
    if ← takesWord "elif" then
      let test ← namedExpression rules
      let body ← suite rules
      return some (test, body)
    else return none
  let orelse ← optionalSuite rules "else"
  let rest := branches.foldr
    (fun (test, body) orelse => [Stmt.conditional test body orelse]) orelse
  return .conditional test body rest

/-- A loop with a condition. -/
def whileStatement (rules : Rules) : Parser Stmt := do
  word "while"
  let test ← namedExpression rules
  let body ← suite rules
  let orelse ← optionalSuite rules "else"
  return .whileLoop test body orelse

/-- A loop over the elements of something. -/
def forStatement (rules : Rules) (isAsync : Bool) : Parser Stmt := do
  word "for"
  let target ← loopTargets rules
  word "in"
  let iterable ← starExpressions rules
  let body ← suite rules
  let orelse ← optionalSuite rules "else"
  return .forLoop isAsync target iterable body orelse

/-- A context of a `with` statement. -/
def withItem (rules : Rules) : Parser (Expr × Option Expr) := do
  let context ← rules.expression
  if ← takesWord "as" then
    let target ← loopTarget rules
    match ← peek with
    | .symbol text =>
      if text == "," || text == ")" || text == ":" then return (context, some target) else failure
    | _ => failure
  else return (context, none)

/-- The contexts of a `with` statement in brackets, up to the colon. -/
def bracketedItems (rules : Rules) : Parser (List (Expr × Option Expr)) := do
  symbol "("
  let (items, _) ← commaList startsExpression (withItem rules)
  symbol ")"
  if (← peek) == .symbol ":" then return items else failure

/-- A statement that runs a block in contexts. Brackets around all contexts are tried first. -/
def withStatement (rules : Rules) (isAsync : Bool) : Parser Stmt := do
  word "with"
  let items ← bracketedItems rules <|> separated "," (withItem rules)
  let body ← suite rules
  return .withItems isAsync items body

/-- An `except` block and whether it is for groups. -/
def handler (rules : Rules) : Parser (Bool × Handler) := do
  let isGroup ← takesSymbol "*"
  if !isGroup && (← peek) == .symbol ":" then
    let body ← suite rules
    return (false, .mk none none body)
  else
    let exception ← rules.expression
    let name ← asName
    let body ← suite rules
    return (isGroup, .mk (some exception) name body)

/-- A statement that handles exceptions. Its handlers are all for groups or none is. -/
def tryStatement (rules : Rules) : Parser Stmt := do
  word "try"
  let body ← suite rules
  let handlers ← collect do
    if ← takesWord "except" then some <$> handler rules else return none
  let isGroup := handlers.any (·.1)
  if isGroup && !handlers.all (·.1) then failure
  let orelse ← if handlers.isEmpty then pure [] else optionalSuite rules "else"
  let finalbody ← optionalSuite rules "finally"
  if handlers.isEmpty && finalbody.isEmpty then failure
  return .tryExcept isGroup body (handlers.map (·.2)) orelse finalbody

/-- A `case` block. -/
def caseBlock (rules : Rules) : Parser Case := do
  expect (.name "case")
  let pattern ← casePattern rules
  let guard ← if ← takesWord "if" then some <$> namedExpression rules else pure none
  let body ← suite rules
  return .mk pattern guard body

/-- A statement that matches a value against patterns. Its words are not reserved. -/
def matchStatement (rules : Rules) : Parser Stmt := do
  expect (.name "match")
  let subject ← asTuple <$> commaList startsStarred (starredOrNamed rules)
  if isStarred subject then failure
  symbol ":"
  expect .newline
  expect .indent
  let cases ← collect do
    if (← peek) == .name "case" then some <$> caseBlock rules else return none
  if cases.isEmpty then failure
  expect .dedent
  return .matchCases subject cases

/-- A function definition. -/
def functionStatement (rules : Rules) (isAsync : Bool) (decorators : List Expr) : Parser Stmt := do
  word "def"
  let name ← identifier
  symbol "("
  let parameters ← functionParameters rules
  symbol ")"
  let returns ← if ← takesSymbol "->" then some <$> rules.expression else pure none
  let body ← suite rules
  return .functionDef isAsync name parameters decorators returns body

/-- A class definition. -/
def classStatement (rules : Rules) (decorators : List Expr) : Parser Stmt := do
  word "class"
  let name ← identifier
  let (bases, keywords) ← if ← takesSymbol "(" then arguments rules else pure ([], [])
  let body ← suite rules
  return .classDef name bases keywords decorators body

/-- A function or class definition after its decorators. -/
def decorated (rules : Rules) : Parser Stmt := do
  let decorators ← collect do
    if ← takesSymbol "@" then
      let decorator ← namedExpression rules
      expect .newline
      return some decorator
    else return none
  match ← peek with
  | .keyword "class" => classStatement rules decorators
  | .keyword "async" =>
    advance
    functionStatement rules true decorators
  | _ => functionStatement rules false decorators

/-- A statement that starts with `async`. -/
def asyncStatement (rules : Rules) : Parser Stmt := do
  word "async"
  match ← peek with
  | .keyword "def" => functionStatement rules true []
  | .keyword "with" => withStatement rules true
  | _ => forStatement rules true

/-- One statement with a block, or the simple statements of a line. -/
def statement (rules : Rules) : Parser (List Stmt) := do
  let one (parser : Parser Stmt) : Parser (List Stmt) := do return [← parser]
  match ← peek with
  | .keyword "if" => one (ifStatement rules)
  | .keyword "while" => one (whileStatement rules)
  | .keyword "for" => one (forStatement rules false)
  | .keyword "with" => one (withStatement rules false)
  | .keyword "try" => one (tryStatement rules)
  | .keyword "def" => one (functionStatement rules false [])
  | .keyword "class" => one (classStatement rules [])
  | .keyword "async" => one (asyncStatement rules)
  | .symbol "@" => one (decorated rules)
  | .name "match" => one (matchStatement rules) <|> simpleStatements rules
  | _ => simpleStatements rules

/-- Statements up to a token that ends them. -/
def statementsUntil (final : Token) (rules : Rules) : Parser (List Stmt) := do
  let statements ← collect do
    if (← peek) == final then return none else some <$> statement rules
  expect final
  return statements.flatten

/-- A block: indented statements, or simple statements on the same line. -/
def block (rules : Rules) : Parser (List Stmt) := do
  if ← takes .newline then
    expect .indent
    let statements ← statementsUntil .dedent rules
    if statements.isEmpty then failure
    return statements
  else simpleStatements rules

end Registrar.Source.Parser
