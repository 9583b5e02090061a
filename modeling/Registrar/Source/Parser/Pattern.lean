import Registrar.Source.Parser.Expression

/-!
# Patterns

The patterns of `case` blocks.
-/

namespace Registrar.Source.Parser

/-- Whether a numeric literal is imaginary. -/
def isImaginary (spelling : String) : Bool :=
  match spelling.toList.getLast? with
  | some c => c == 'j' || c == 'J'
  | none => false

/-- A number, perhaps negated. -/
def signedNumber : Parser (Expr × String) := do
  let isNegative ← takesSymbol "-"
  match ← peek with
  | .number spelling =>
    advance
    let value := Expr.constant (.number spelling)
    return (if isNegative then .unary .minus value else value, spelling)
  | _ => failure

/-- The sign between the parts of a complex number, taken if it is ahead. -/
def partSign : Parser (Option BinaryOperator) := do
  match ← peek with
  | .symbol "+" => advance; return some .add
  | .symbol "-" => advance; return some .subtract
  | _ => return none

/-- A number, or the sum or difference of a real and an imaginary one. -/
def numberPattern : Parser Expr := do
  let (value, spelling) ← signedNumber
  match ← partSign with
  | none => return value
  | some operator =>
    match ← peek with
    | .number imaginary =>
      advance
      if !isImaginary spelling && isImaginary imaginary then
        return .binary value operator (.constant (.number imaginary))
      else failure
    | _ => failure

/-- A name followed by attributes. -/
def dottedExpression : Parser Expr := do
  let first ← identifier
  let attributes ← collect do
    if ← takesSymbol "." then some <$> identifier else return none
  return attributes.foldl .attribute (.name first)

/-- The name a pattern binds, which is neither the wildcard nor the start of something longer. -/
def captureName : Parser String := do
  let name ← identifier
  if name == "_" then failure
  match ← peek with
  | .symbol text => if text == "." || text == "(" || text == "=" then failure else return name
  | _ => return name

/-- A star and the name it binds; the wildcard binds none. -/
def starPattern : Parser Pattern := do
  symbol "*"
  if (← peek) == .name "_" then
    advance
    return .star none
  else
    let name ← captureName
    return .star (some name)

/-- Whether a token can start a pattern. -/
def startsPattern : Token → Bool
  | .name _ | .number _ | .string _ => true
  | .keyword text => ["None", "True", "False"].contains text
  | .symbol text => ["-", "(", "[", "\x7b", "*"].contains text
  | _ => false

/-- A pattern or a starred name. -/
def maybeStarPattern (rules : Rules) : Parser Pattern := do
  if (← peek) == .symbol "*" then starPattern else rules.pattern

/-- What an opening round bracket starts: a sequence or a pattern in brackets. -/
def bracketedPattern (rules : Rules) : Parser Pattern := do
  symbol "("
  if ← takesSymbol ")" then return .sequence []
  else
    let (patterns, trailing) ← commaList startsPattern (maybeStarPattern rules)
    symbol ")"
    match patterns, trailing with
    | [.star _], false => failure
    | [pattern], false => return pattern
    | patterns, _ => return .sequence patterns

/-- A sequence in square brackets. -/
def listPattern (rules : Rules) : Parser Pattern := do
  symbol "["
  let patterns ← whenAhead startsPattern (commaList startsPattern (maybeStarPattern rules))
  symbol "]"
  return .sequence ((patterns.map (·.1)).getD [])

/-- The key of a mapping pattern. -/
def mappingKey (rules : Rules) : Parser Expr := do
  match ← peek with
  | .string _ => strings rules
  | .keyword "None" => advance; return .constant .none
  | .keyword "True" => advance; return .constant (.bool true)
  | .keyword "False" => advance; return .constant (.bool false)
  | .name _ =>
    match ← dottedExpression with
    | .name _ => failure
    | key => return key
  | _ => numberPattern

/-- An entry of a mapping pattern: a key with its pattern, or the name of the rest. -/
def mappingEntry (rules : Rules) : Parser ((Expr × Pattern) ⊕ String) := do
  if ← takesSymbol "**" then .inr <$> captureName
  else
    let key ← mappingKey rules
    symbol ":"
    let pattern ← rules.pattern
    return .inl (key, pattern)

/-- The entries of a mapping pattern; the rest may only come last. -/
def arrangeEntries : List ((Expr × Pattern) ⊕ String) →
    Option (List (Expr × Pattern) × Option String)
  | [] => some ([], none)
  | [.inr name] => some ([], some name)
  | .inr _ :: _ => none
  | .inl entry :: rest => do
    let (entries, name) ← arrangeEntries rest
    return (entry :: entries, name)

/-- Whether a token can start an entry of a mapping pattern. -/
def startsEntry : Token → Bool
  | .name _ | .number _ | .string _ => true
  | .keyword text => ["None", "True", "False"].contains text
  | .symbol text => text == "-" || text == "**"
  | _ => false

/-- A mapping in curly brackets. -/
def mappingPattern (rules : Rules) : Parser Pattern := do
  symbol "\x7b"
  let items ← whenAhead startsEntry (commaList startsEntry (mappingEntry rules))
  symbol "\x7d"
  let (entries, rest) ← StateT.lift (arrangeEntries ((items.map (·.1)).getD []))
  return .mapping entries rest

/-- An argument of a class pattern. -/
def classArgument (rules : Rules) : Parser (Option String × Pattern) := do
  match ← peekTwo with
  | (.name name, .symbol "=") =>
    advance
    advance
    let pattern ← rules.pattern
    return (some name, pattern)
  | _ =>
    let pattern ← rules.pattern
    return (none, pattern)

/-- The arguments of a class pattern; those with keywords come last. -/
def arrangeClassArguments : List (Option String × Pattern) →
    Option (List Pattern × List (String × Pattern))
  | [] => some ([], [])
  | (none, pattern) :: rest => do
    let (patterns, keywords) ← arrangeClassArguments rest
    return (pattern :: patterns, keywords)
  | (some name, pattern) :: rest => do
    let keywords ← rest.mapM fun (name, pattern) => name.map (·, pattern)
    return ([], (name, pattern) :: keywords)

/-- A pattern that starts with a name: the wildcard, a capture, a value or a class. -/
def namePattern (rules : Rules) : Parser Pattern := do
  if ← takes (.name "_") then return .bind none none
  else
    let callee ← dottedExpression
    if ← takesSymbol "(" then
      let items ← whenAhead startsPattern (commaList startsPattern (classArgument rules))
      symbol ")"
      let (patterns, keywords) ← StateT.lift (arrangeClassArguments ((items.map (·.1)).getD []))
      return .object callee patterns keywords
    else if (← peek) == .symbol "=" then failure
    else match callee with
      | .name name => return .bind none (some name)
      | value => return .value value

/-- A pattern without alternatives. -/
def closedPattern (rules : Rules) : Parser Pattern := do
  match ← peek with
  | .name _ => namePattern rules
  | .string _ => .value <$> strings rules
  | .keyword "None" => advance; return .singleton .none
  | .keyword "True" => advance; return .singleton (.bool true)
  | .keyword "False" => advance; return .singleton (.bool false)
  | .symbol "(" => bracketedPattern rules
  | .symbol "[" => listPattern rules
  | .symbol "\x7b" => mappingPattern rules
  | _ => .value <$> numberPattern

/-- A pattern, perhaps with alternatives and a name. -/
def pattern (rules : Rules) : Parser Pattern := do
  let alternatives ← separated "|" (closedPattern rules)
  let first := match alternatives with
    | [only] => only
    | alternatives => .either alternatives
  if ← takesWord "as" then
    let name ← captureName
    return .bind (some first) (some name)
  else return first

/-- The pattern of a `case` block, which may be a sequence without brackets. -/
def casePattern (rules : Rules) : Parser Pattern := do
  let (patterns, trailing) ← commaList startsPattern (maybeStarPattern rules)
  match patterns, trailing with
  | [.star _], false => failure
  | [pattern], false => return pattern
  | patterns, _ => return .sequence patterns

end Registrar.Source.Parser
