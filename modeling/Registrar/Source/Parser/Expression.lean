import Registrar.Source.Format
import Registrar.Source.Parser.Signature
import Registrar.Source.Parser.Target

/-!
# Expressions

The rules of expressions, from literals up to comma-separated lists. Each level of binding strength
is one rule over the level below it.
-/

namespace Registrar.Source.Parser

/-- An expression after a star. -/
def starred (rules : Rules) : Parser Expr := do
  symbol "*"
  let value ← rules.bitOr
  return .starred value

/-- An expression, or an assignment to a name inside an expression. -/
def namedExpression (rules : Rules) : Parser Expr := do
  match ← peekTwo with
  | (.name target, .symbol ":=") =>
    advance
    advance
    let value ← rules.expression
    return .named target value
  | _ => rules.expression

/-- An element of a list, set or bracketed tuple. -/
def starredOrNamed (rules : Rules) : Parser Expr := do
  if (← peek) == .symbol "*" then starred rules else namedExpression rules

/-- An element of a tuple without brackets. -/
def starredOrPlain (rules : Rules) : Parser Expr := do
  if (← peek) == .symbol "*" then starred rules else rules.expression

/-- Elements as one expression: a tuple, unless there is one element and no comma after it. -/
def asTuple : List Expr × Bool → Expr
  | ([element], false) => element
  | (elements, _) => .tuple elements

/-- A comma-separated list of expressions, perhaps starred. -/
def starExpressions (rules : Rules) : Parser Expr :=
  asTuple <$> commaList startsStarred (starredOrPlain rules)

/-- An expression that suspends a generator. -/
def yieldExpression (rules : Rules) : Parser Expr := do
  word "yield"
  if ← takesWord "from" then
    let value ← rules.expression
    return .yieldFrom value
  else
    let value ← whenAhead startsStarred (starExpressions rules)
    return .yield value

/-- The right side of an assignment. -/
def yieldOrExpressions (rules : Rules) : Parser Expr := do
  if (← peek) == .keyword "yield" then yieldExpression rules else starExpressions rules

/-- Whether a token can start a loop's target. -/
def startsTarget : Token → Bool
  | .name _ | .number _ | .string _ => true
  | .keyword text => ["None", "True", "False"].contains text
  | .symbol text => ["(", "[", "\x7b", "...", "*"].contains text
  | _ => false

/-- One target of a loop. -/
def loopTarget (rules : Rules) : Parser Expr := do
  let target ← if ← takesSymbol "*" then .starred <$> rules.primary else rules.primary
  if target.isAssignable then return target else failure

/-- The targets of a loop as one expression. -/
def loopTargets (rules : Rules) : Parser Expr :=
  asTuple <$> commaList startsTarget (loopTarget rules)

/-- Whether the clauses of a comprehension follow. -/
def clausesAhead : Parser Bool := do
  match ← peekTwo with
  | (.keyword "for", _) => return true
  | (.keyword "async", .keyword "for") => return true
  | _ => return false

/-- A clause of a comprehension. -/
def clause (rules : Rules) : Parser Clause := do
  let isAsync ← takesWord "async"
  word "for"
  let target ← loopTargets rules
  word "in"
  let iterable ← rules.disjunction
  let conditions ← collect do
    if ← takesWord "if" then some <$> rules.disjunction else return none
  return .mk isAsync target iterable conditions

/-- The clauses of a comprehension. -/
def clauses (rules : Rules) : Parser (List Clause) :=
  collect do if ← clausesAhead then some <$> clause rules else return none

/-- Whether an expression has a star. -/
def isStarred : Expr → Bool
  | .starred _ => true
  | _ => false

/-- The elements between brackets, or a comprehension; `display` makes the expression of the
elements. -/
def elementsOrComprehension (rules : Rules) (closing : String) (kind : ComprehensionKind)
    (display : List Expr × Bool → Option Expr) : Parser Expr := do
  let first ← starredOrNamed rules
  if ← clausesAhead then
    if isStarred first then failure
    let clauses ← clauses rules
    symbol closing
    return .comprehension kind first clauses
  else
    let rest ← if ← takesSymbol "," then
        if startsStarred (← peek) then
          let (rest, _) ← commaList startsStarred (starredOrNamed rules)
          pure (rest, true)
        else pure ([], true)
      else pure ([], false)
    symbol closing
    StateT.lift (display (first :: rest.1, rest.2))

/-- What an opening round bracket starts: a tuple, an expression in brackets or a generator. -/
def bracketed (rules : Rules) : Parser Expr := do
  symbol "("
  if ← takesSymbol ")" then return .tuple []
  else if (← peek) == .keyword "yield" then
    let value ← yieldExpression rules
    symbol ")"
    return value
  else elementsOrComprehension rules ")" .generator fun
    | ([element], false) => if isStarred element then none else some element
    | (elements, _) => some (.tuple elements)

/-- A list display or list comprehension. -/
def listDisplay (rules : Rules) : Parser Expr := do
  symbol "["
  if ← takesSymbol "]" then return .list []
  else elementsOrComprehension rules "]" .list fun (elements, _) => some (.list elements)

/-- An item of a dictionary display. -/
def dictItem (rules : Rules) : Parser (Option Expr × Expr) := do
  if ← takesSymbol "**" then
    let value ← rules.bitOr
    return (none, value)
  else
    let key ← rules.expression
    symbol ":"
    let value ← rules.expression
    return (some key, value)

/-- Whether a token can start an item of a dictionary display. -/
def startsDictItem (token : Token) : Bool :=
  startsExpression token || token == .symbol "**"

/-- The rest of a dictionary display after its first item. -/
def dictRest (rules : Rules) (first : Option Expr × Expr) : Parser Expr := do
  let rest ← if ← takesSymbol "," then
      (·.getD []) <$> whenAhead startsDictItem
        ((·.1) <$> commaList startsDictItem (dictItem rules))
    else pure []
  symbol "\x7d"
  return .dict (first :: rest)

/-- The rest of a set display after its first element. -/
def setRest (rules : Rules) (first : Expr) : Parser Expr := do
  if ← clausesAhead then
    if isStarred first then failure
    let clauses ← clauses rules
    symbol "\x7d"
    return .comprehension .set first clauses
  else
    let rest ← if ← takesSymbol "," then
        (·.getD []) <$> whenAhead startsStarred
          ((·.1) <$> commaList startsStarred (starredOrNamed rules))
      else pure []
    symbol "\x7d"
    return .set (first :: rest)

/-- What an opening curly bracket starts: a dictionary, a set or a comprehension of either. -/
def curlyDisplay (rules : Rules) : Parser Expr := do
  symbol "\x7b"
  match ← peekTwo with
  | (.symbol "\x7d", _) =>
    advance
    return .dict []
  | (.symbol "**", _) =>
    let first ← dictItem rules
    dictRest rules first
  | (.symbol "*", _) =>
    let first ← starred rules
    setRest rules first
  | (.name _, .symbol ":=") =>
    let first ← namedExpression rules
    setRest rules first
  | _ =>
    let first ← rules.expression
    if ← takesSymbol ":" then
      let value ← rules.expression
      if ← clausesAhead then
        let clauses ← clauses rules
        symbol "\x7d"
        return .dictComprehension first value clauses
      else dictRest rules (some first, value)
    else setRest rules first

/-- Neighbouring string literals as one expression. -/
def joinLiterals (field : List Char → Option Expr) (literals : List StringLiteral) :
    Option Expr := do
  if literals.any (·.isBytes) then
    if literals.all (·.isBytes) then
      let octets ← literals.mapM fun literal => Escape.decodeBytes literal.isRaw literal.body
      return .constant (.bytes octets.flatten)
    else none
  else
    let parts ← literals.mapM fun literal =>
      if literal.isFormat then Format.read field literal.isRaw literal.body
      else (Escape.decodeText literal.isRaw literal.body).map fun points => [.literal points]
    if literals.any (·.isFormat) then return .joined (Format.mergeText parts.flatten)
    else
      let points := parts.flatten.flatMap fun
        | .literal points => points
        | .field .. => []
      return .constant (.text points)

/-- The string literals ahead. -/
def stringLiterals : Parser (List StringLiteral) :=
  collect do
    match ← peek with
    | .string literal => advance; return some literal
    | _ => return none

/-- Neighbouring string literals. -/
def strings (rules : Rules) : Parser Expr := do
  let literals ← stringLiterals
  StateT.lift (joinLiterals rules.field literals)

/-- An atom. -/
def atom (rules : Rules) : Parser Expr := do
  match ← peek with
  | .name id => advance; return .name id
  | .number spelling => advance; return .constant (.number spelling)
  | .string _ => strings rules
  | .keyword "None" => advance; return .constant .none
  | .keyword "True" => advance; return .constant (.bool true)
  | .keyword "False" => advance; return .constant (.bool false)
  | .symbol "..." => advance; return .constant .ellipsis
  | .symbol "(" => bracketed rules
  | .symbol "[" => listDisplay rules
  | .symbol "\x7b" => curlyDisplay rules
  | _ => failure

/-- An argument of a call. -/
inductive Argument
  | positional (value : Expr)
  | spread (value : Expr)
  | keyword (name : String) (value : Expr)
  | keywordSpread (value : Expr)

/-- Whether a token can start an argument. -/
def startsArgument (token : Token) : Bool :=
  startsStarred token || token == .symbol "**"

/-- One argument of a call. -/
def argument (rules : Rules) : Parser Argument := do
  match ← peekTwo with
  | (.symbol "*", _) =>
    advance
    .spread <$> rules.expression
  | (.symbol "**", _) =>
    advance
    .keywordSpread <$> rules.expression
  | (.name name, .symbol "=") =>
    advance
    advance
    .keyword name <$> rules.expression
  | _ => .positional <$> namedExpression rules

/-- Arguments by the way they are passed. After a keyword no plain argument may stand, and after a
double star no single one. -/
def arrangeArguments : List Argument → (keywordSeen doubleSeen : Bool) →
    Option (List Expr × List (Option String × Expr))
  | [], _, _ => some ([], [])
  | .positional value :: rest, keywordSeen, doubleSeen => do
    if keywordSeen || doubleSeen then none
    let (arguments, keywords) ← arrangeArguments rest keywordSeen doubleSeen
    return (value :: arguments, keywords)
  | .spread value :: rest, keywordSeen, doubleSeen => do
    if doubleSeen then none
    let (arguments, keywords) ← arrangeArguments rest keywordSeen doubleSeen
    return (.starred value :: arguments, keywords)
  | .keyword name value :: rest, _, doubleSeen => do
    let (arguments, keywords) ← arrangeArguments rest true doubleSeen
    return (arguments, (some name, value) :: keywords)
  | .keywordSpread value :: rest, keywordSeen, _ => do
    let (arguments, keywords) ← arrangeArguments rest keywordSeen true
    return (arguments, (none, value) :: keywords)

/-- The arguments between the brackets of a call or class definition, the closing one included. -/
def arguments (rules : Rules) : Parser (List Expr × List (Option String × Expr)) := do
  if ← takesSymbol ")" then return ([], [])
  else
    let (items, _) ← commaList startsArgument (argument rules)
    symbol ")"
    StateT.lift (arrangeArguments items false false)

/-- The arguments of a call after the opening bracket; a single generator needs no brackets of its
own. -/
def callArguments (rules : Rules) : Parser (List Expr × List (Option String × Expr)) := do
  if ← takesSymbol ")" then return ([], [])
  else
    let first ← argument rules
    match first, ← clausesAhead with
    | .positional element, true =>
      let clauses ← clauses rules
      symbol ")"
      return ([.comprehension .generator element clauses], [])
    | _, _ =>
      let rest ← if ← takesSymbol "," then
          (·.getD []) <$> whenAhead startsArgument
            ((·.1) <$> commaList startsArgument (argument rules))
        else pure []
      symbol ")"
      StateT.lift (arrangeArguments (first :: rest) false false)

/-- Whether a token can start a part of a subscript. -/
def startsSlice (token : Token) : Bool :=
  startsStarred token || token == .symbol ":"

/-- One part of a subscript. -/
def slicePart (rules : Rules) : Parser Expr := do
  let bound : Parser (Option Expr) := whenAhead startsExpression rules.expression
  let afterLower (lower : Option Expr) : Parser Expr := do
    symbol ":"
    let upper ← bound
    let step ← if ← takesSymbol ":" then bound else pure none
    return .slice lower upper step
  match ← peekTwo with
  | (.symbol "*", _) => starred rules
  | (.symbol ":", _) => afterLower none
  | (.name _, .symbol ":=") => namedExpression rules
  | _ =>
    let lower ← rules.expression
    if (← peek) == .symbol ":" then afterLower (some lower) else return lower

/-- The subscript between square brackets. -/
def subscriptIndex (rules : Rules) : Parser Expr := do
  match ← commaList startsSlice (slicePart rules) with
  | ([.starred value], false) => return .tuple [.starred value]
  | parts => return asTuple parts

/-- One thing applied to an expression: an attribute, a call or a subscript. -/
def trailer (rules : Rules) (line : Nat) : Parser (Option (Expr → Expr)) := do
  match ← peek with
  | .symbol "." =>
    advance
    let attr ← identifier
    return some (.attribute · attr)
  | .symbol "(" =>
    advance
    let (arguments, keywords) ← callArguments rules
    return some (.call line · arguments keywords)
  | .symbol "[" =>
    advance
    let index ← subscriptIndex rules
    symbol "]"
    return some (.subscript · index)
  | _ => return none

/-- An atom with what is applied to it. -/
def primary (rules : Rules) : Parser Expr := do
  let line ← line
  let first ← atom rules
  let trailers ← collect (trailer rules line)
  return trailers.foldl (fun value apply => apply value) first

/-- A power, whose exponent binds stronger signs than its base. -/
def power (rules : Rules) : Parser Expr := do
  let base ← if ← takesWord "await" then .await <$> primary rules else primary rules
  if ← takesSymbol "**" then
    let exponent ← rules.factor
    return .binary base .power exponent
  else return base

/-- The sign a token is. -/
def sign? : Token → Option UnaryOperator
  | .symbol "+" => some .plus
  | .symbol "-" => some .minus
  | .symbol "~" => some .invert
  | _ => none

/-- A power with signs before it. -/
def factor (rules : Rules) : Parser Expr := do
  let signs ← collect do
    match sign? (← peek) with
    | some operator => advance; return some operator
    | none => return none
  let operand ← power rules
  return signs.foldr (fun operator operand => .unary operator operand) operand

/-- Operands of one strength, grouped from the left. -/
def leftGrouped (operator? : Token → Option BinaryOperator) (operand : Parser Expr) :
    Parser Expr := do
  let first ← operand
  let rest ← collect do
    match operator? (← peek) with
    | some operator =>
      advance
      let right ← operand
      return some (operator, right)
    | none => return none
  return rest.foldl (fun left (operator, right) => .binary left operator right) first

/-- Products. -/
def term (rules : Rules) : Parser Expr :=
  leftGrouped (fun
    | .symbol "*" => some .multiply
    | .symbol "/" => some .divide
    | .symbol "//" => some .floorDivide
    | .symbol "%" => some .remainder
    | .symbol "@" => some .matrixMultiply
    | _ => none) (factor rules)

/-- Sums. -/
def sum (rules : Rules) : Parser Expr :=
  leftGrouped (fun
    | .symbol "+" => some .add
    | .symbol "-" => some .subtract
    | _ => none) (term rules)

/-- Shifts. -/
def shift (rules : Rules) : Parser Expr :=
  leftGrouped (fun
    | .symbol "<<" => some .shiftLeft
    | .symbol ">>" => some .shiftRight
    | _ => none) (sum rules)

/-- Bitwise conjunctions. -/
def bitAnd (rules : Rules) : Parser Expr :=
  leftGrouped (fun
    | .symbol "&" => some .bitAnd
    | _ => none) (shift rules)

/-- Bitwise exclusive disjunctions. -/
def bitXor (rules : Rules) : Parser Expr :=
  leftGrouped (fun
    | .symbol "^" => some .bitXor
    | _ => none) (bitAnd rules)

/-- Bitwise disjunctions. -/
def bitOr (rules : Rules) : Parser Expr :=
  leftGrouped (fun
    | .symbol "|" => some .bitOr
    | _ => none) (bitXor rules)

/-- A comparison operator, taken if it is ahead. -/
def comparisonOperator : Parser (Option Comparison) := do
  match ← peekTwo with
  | (.symbol "==", _) => advance; return some .equal
  | (.symbol "!=", _) => advance; return some .notEqual
  | (.symbol "<=", _) => advance; return some .lessEqual
  | (.symbol "<", _) => advance; return some .less
  | (.symbol ">=", _) => advance; return some .greaterEqual
  | (.symbol ">", _) => advance; return some .greater
  | (.keyword "not", .keyword "in") => advance; advance; return some .notIn
  | (.keyword "in", _) => advance; return some .isIn
  | (.keyword "is", .keyword "not") => advance; advance; return some .isNot
  | (.keyword "is", _) => advance; return some .is
  | _ => return none

/-- A chain of comparisons. -/
def comparison (rules : Rules) : Parser Expr := do
  let first ← bitOr rules
  let rest ← collect do
    match ← comparisonOperator with
    | some operator =>
      let right ← bitOr rules
      return some (operator, right)
    | none => return none
  return if rest.isEmpty then first else .compare first rest

/-- A comparison, perhaps negated. -/
def inversion (rules : Rules) : Parser Expr := do
  let negations ← collect do
    if ← takesWord "not" then return some () else return none
  let operand ← comparison rules
  return negations.foldr (fun _ operand => .unary .not operand) operand

/-- Operands joined by a connective. -/
def connected (connective : Connective) (text : String) (operand : Parser Expr) :
    Parser Expr := do
  let first ← operand
  let rest ← collect do
    if ← takesWord text then some <$> operand else return none
  return if rest.isEmpty then first else .boolean connective (first :: rest)

/-- Conjunctions. -/
def conjunction (rules : Rules) : Parser Expr := connected .and "and" (inversion rules)

/-- Disjunctions. -/
def disjunction (rules : Rules) : Parser Expr := connected .or "or" (conjunction rules)

/-- A function without a name. -/
def lambdaExpression (rules : Rules) : Parser Expr := do
  word "lambda"
  let parameters ← lambdaParameters rules
  symbol ":"
  let body ← rules.expression
  return .lambda parameters body

/-- An expression. -/
def expression (rules : Rules) : Parser Expr := do
  if (← peek) == .keyword "lambda" then lambdaExpression rules
  else
    let body ← disjunction rules
    if ← takesWord "if" then
      let test ← disjunction rules
      word "else"
      let orelse ← rules.expression
      return .conditional test body orelse
    else return body

end Registrar.Source.Parser
