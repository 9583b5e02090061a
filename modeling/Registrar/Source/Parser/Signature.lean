import Registrar.Source.Parser.Basic

/-!
# Parameter lists

A parameter list as its items in order, and its arrangement into parameters by the way they are
passed. Parameters without a default precede those with one up to the star; a star alone is followed
by a named parameter; nothing follows the double star.
-/

namespace Registrar.Source.Parser

/-- An item of a parameter list. -/
inductive ParameterItem
  | slash
  | star
  | plain (parameter : Parameter)
  | rest (parameter : Parameter)
  | keywordRest (parameter : Parameter)

/-- Whether a token can start an item of a parameter list. -/
def startsParameter : Token → Bool
  | .name _ => true
  | .symbol text => text == "/" || text == "*" || text == "**"
  | _ => false

/-- One item of a parameter list; `hint` and `starHint` read what follows the name of a
parameter before its default. -/
def parameterItem (hint starHint : Parser (Option Expr)) (value : Parser Expr) :
    Parser ParameterItem := do
  if ← takesSymbol "/" then return .slash
  else if ← takesSymbol "*" then
    match ← peek with
    | .name _ =>
      let name ← identifier
      let hint ← starHint
      return .rest (.mk name hint none)
    | _ => return .star
  else if ← takesSymbol "**" then
    let name ← identifier
    let hint ← hint
    return .keywordRest (.mk name hint none)
  else
    let name ← identifier
    let hint ← hint
    let fallback ← if ← takesSymbol "=" then some <$> value else pure none
    return .plain (.mk name hint fallback)

/-- Whether a parameter has a default. -/
def hasFallback : Parameter → Bool
  | .mk _ _ fallback => fallback.isSome

/-- Whether no parameter without a default follows one with a default. -/
def fallbacksLast (parameters : List Parameter) : Bool :=
  (parameters.dropWhile fun p => !hasFallback p).all hasFallback

/-- The plain parameters at the head of a list of items, and the rest. -/
def splitPlain : List ParameterItem → List Parameter × List ParameterItem
  | .plain parameter :: items =>
    let (parameters, rest) := splitPlain items
    (parameter :: parameters, rest)
  | items => ([], items)

/-- The keyword parameters after a star and the double star after them. -/
def arrangeKeywords (items : List ParameterItem) : Option (List Parameter × Option Parameter) :=
  match splitPlain items with
  | (keywordOnly, []) => some (keywordOnly, none)
  | (keywordOnly, [.keywordRest parameter]) => some (keywordOnly, some parameter)
  | _ => none

/-- The parameters a list of items declares. -/
def arrange (items : List ParameterItem) : Option Parameters := do
  let (first, items) := splitPlain items
  let (positionalOnly, regular, items) ← match items with
    | .slash :: items =>
      if first.isEmpty then none
      else
        let (regular, items) := splitPlain items
        pure (first, regular, items)
    | items => pure ([], first, items)
  if !fallbacksLast (positionalOnly ++ regular) then none
  match items with
  | .star :: items =>
    let (keywordOnly, keywordRest) ← arrangeKeywords items
    if keywordOnly.isEmpty then none
    else return .mk positionalOnly regular none keywordOnly keywordRest
  | .rest parameter :: items =>
    let (keywordOnly, keywordRest) ← arrangeKeywords items
    return .mk positionalOnly regular (some parameter) keywordOnly keywordRest
  | items =>
    let (keywordOnly, keywordRest) ← arrangeKeywords items
    if keywordOnly.isEmpty then return .mk positionalOnly regular none [] keywordRest else none

/-- The parameters of a lambda expression, up to its colon. -/
def lambdaParameters (rules : Rules) : Parser Parameters := do
  let items ← whenAhead startsParameter
    (commaList startsParameter (parameterItem (pure none) (pure none) rules.expression))
  StateT.lift (arrange ((items.map (·.1)).getD []))

/-- The parameters of a function definition, up to its closing bracket. -/
def functionParameters (rules : Rules) : Parser Parameters := do
  let hint : Parser (Option Expr) := do
    if ← takesSymbol ":" then some <$> rules.expression else pure none
  let starHint : Parser (Option Expr) := do
    if ← takesSymbol ":" then
      if ← takesSymbol "*" then
        let value ← rules.bitOr
        return some (.starred value)
      else some <$> rules.expression
    else pure none
  let items ← whenAhead startsParameter
    (commaList startsParameter (parameterItem hint starHint rules.expression))
  StateT.lift (arrange ((items.map (·.1)).getD []))

end Registrar.Source.Parser
