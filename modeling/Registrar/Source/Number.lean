import Registrar.Text.Identifier

/-!
# Numeric literals

The longest numeric literal at the head of a text. A literal may be followed at once by one of the
words that can stand after a number in an expression, and by no other identifier character.
-/

namespace Registrar.Source.Number

/-- Characters that could continue an identifier, before any check of its spelling. -/
def mayContinueName (c : Char) : Bool := c.isAlphanum || c == '_' || !isAscii c

/-- The words that may touch the number before them, by their letters. -/
def adjacentWords : List (List Char) :=
  [['a', 'n', 'd'], ['e', 'l', 's', 'e'], ['f', 'o', 'r'], ['i', 'f'], ['i', 'n'], ['i', 's'],
    ['o', 'r'], ['n', 'o', 't']]

/-- Whether a literal may end before a text. -/
def endsBefore (rest : List Char) : Bool :=
  match rest with
  | [] => true
  | c :: _ => !mayContinueName c || adjacentWords.any (·.isPrefixOf rest)

/-- Check that a literal ends where its digits do. -/
def finish (rest : List Char) : Option (List Char) :=
  if endsBefore rest then some rest else none

/-- Skip digits among which single underscores may stand; fails on an underscore before no digit. -/
def skipDigits (isDigit : Char → Bool) : List Char → Option (List Char)
  | '_' :: c :: rest => if isDigit c then skipDigits isDigit rest else none
  | ['_'] => none
  | c :: rest => if isDigit c then skipDigits isDigit rest else some (c :: rest)
  | [] => some []

/-- The digits of a literal with a base letter: at least one, each after at most one underscore. -/
def skipBased (isDigit : Char → Bool) (cs : List Char) : Option (List Char) := do
  let digits := match cs with
    | '_' :: rest => rest
    | rest => rest
  match digits with
  | c :: _ =>
    if isDigit c then
      let rest ← skipDigits isDigit digits
      match rest with
      | d :: _ => if d.isDigit then none else finish rest
      | [] => some []
    else none
  | [] => none

/-- An imaginary unit, or the end of the literal. -/
def skipImaginary : List Char → Option (List Char)
  | c :: rest => if c == 'j' || c == 'J' then finish rest else finish (c :: rest)
  | [] => some []

/-- Whether a decimal digit heads a text. -/
def startsWithDigit : List Char → Bool
  | c :: _ => c.isDigit
  | [] => false

/-- An exponent if there is one, then an imaginary unit or the end. -/
def skipExponent (cs : List Char) : Option (List Char) :=
  match cs with
  | e :: rest =>
    if e == 'e' || e == 'E' then
      match rest with
      | sign :: more =>
        if sign == '+' || sign == '-' then
          if startsWithDigit more then skipDigits Char.isDigit more >>= skipImaginary else none
        else if sign.isDigit then skipDigits Char.isDigit rest >>= skipImaginary
        else finish cs
      | [] => finish cs
    else skipImaginary cs
  | [] => some []

/-- The digits after a point, then the rest of a literal. -/
def skipFraction (cs : List Char) : Option (List Char) :=
  if startsWithDigit cs then skipDigits Char.isDigit cs >>= skipExponent else skipExponent cs

/-- What may follow the digits before a point. -/
def skipTail (cs : List Char) : Option (List Char) :=
  match cs with
  | '.' :: rest => skipFraction rest
  | cs => skipExponent cs

/-- Skip zeros among which single underscores may stand. -/
def skipZeros : List Char → Option (List Char)
  | '_' :: '0' :: rest => skipZeros rest
  | '_' :: c :: rest => if c.isDigit then some (c :: rest) else none
  | ['_'] => none
  | '0' :: rest => skipZeros rest
  | cs => some cs

/-- A literal that starts with a zero and has no base letter. Other digits may follow the zeros only
before a point, an exponent or an imaginary unit. -/
def skipLeadingZero (cs : List Char) : Option (List Char) := do
  let afterZeros ← skipZeros cs
  if startsWithDigit afterZeros then
    let rest ← skipDigits Char.isDigit afterZeros
    match rest with
    | c :: _ => if c == '.' || c == 'e' || c == 'E' || c == 'j' || c == 'J' then skipTail rest else none
    | [] => none
  else skipTail afterZeros

/-- Whether a character is a hexadecimal digit. -/
def isHexDigit (c : Char) : Bool :=
  c.isDigit || ('a' ≤ c && c ≤ 'f') || ('A' ≤ c && c ≤ 'F')

/-- Longest decimal integer literal that is accepted, counted in digits. -/
def maximalDigits : Nat := 4300

/-- Whether a literal is a decimal integer of too many digits. -/
def isTooLong (spelling : List Char) : Bool :=
  let digits := spelling.filter (· != '_')
  digits.all Char.isDigit && maximalDigits < digits.length

/-- What follows the literal at the head of a text, which starts with a digit, or with a point
before a digit. -/
def skip (cs : List Char) : Option (List Char) :=
  match cs with
  | '.' :: rest => skipFraction rest
  | '0' :: c :: rest =>
    if c == 'x' || c == 'X' then skipBased isHexDigit rest
    else if c == 'o' || c == 'O' then skipBased (fun d => '0' ≤ d && d ≤ '7') rest
    else if c == 'b' || c == 'B' then skipBased (fun d => d == '0' || d == '1') rest
    else skipLeadingZero (c :: rest)
  | '0' :: [] => some []
  | cs => skipDigits Char.isDigit cs >>= skipTail

/-- The literal at the head of a text and what follows it. -/
def read (cs : List Char) : Option (String × List Char) := do
  let rest ← skip cs
  let spelling := cs.take (cs.length - rest.length)
  if isTooLong spelling then none else some (String.ofList spelling, rest)

end Registrar.Source.Number
