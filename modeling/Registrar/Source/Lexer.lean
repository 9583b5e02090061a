import Registrar.Source.Number
import Registrar.Source.Token
import Registrar.Text.Blank
import Registrar.Text.Compatibility

/-!
# Reading tokens

The tokens of a text whose line ends are newlines and which ends with one. Indentation is counted
twice, with tabs going to multiples of eight and with tabs as one column; both counts have to tell
the same story about which lines are nested deeper. Inside brackets line ends mean nothing.
-/

namespace Registrar.Source

namespace Lexer

/-- Deepest nesting of indented blocks, the outermost level counted. -/
def maximalIndents : Nat := 100

/-- Deepest nesting of brackets. -/
def maximalBrackets : Nat := 200

/-- What the reading of tokens remembers: the open blocks by their two column counts, innermost
first, the open brackets, innermost first, and the current line. -/
structure Layout where
  indents : List (Nat × Nat)
  brackets : List Char
  line : Nat

/-- The layout at the start of a text. -/
def Layout.initial : Layout := ⟨[], [], 1⟩

/-- The innermost indentation. -/
def Layout.current (layout : Layout) : Nat × Nat := layout.indents.headD (0, 0)

/-- Indentation counted at the head of a line. -/
structure Margin where
  column : Nat
  tabless : Nat
  /-- The column at the first continued line break, zero for none. -/
  continued : Nat
  lineBreaks : Nat

/-- Count the indentation of a line. A line break hidden by a backslash may stand in it, but not at
the end of the text. -/
def readMargin (margin : Margin) : List Char → Option (Margin × List Char)
  | ' ' :: rest =>
    readMargin { margin with column := margin.column + 1, tabless := margin.tabless + 1 } rest
  | '\t' :: rest =>
    readMargin { margin with
      column := (margin.column / 8 + 1) * 8
      tabless := margin.tabless + 1 } rest
  | '\x0c' :: rest => readMargin { margin with column := 0, tabless := 0 } rest
  | '\\' :: '\n' :: c :: rest =>
    readMargin { margin with
      continued := if margin.continued == 0 then margin.column else margin.continued
      lineBreaks := margin.lineBreaks + 1 } (c :: rest)
  | '\\' :: _ => none
  | rest => some (margin, rest)

/-- Close blocks deeper than a column; the number closed and the blocks that stay. -/
def closeBlocks (column : Nat) : List (Nat × Nat) → Nat × List (Nat × Nat)
  | [] => (0, [])
  | indent :: indents =>
    if column < indent.1 then
      let (closed, rest) := closeBlocks column indents
      (closed + 1, rest)
    else (0, indent :: indents)

/-- The tokens a line's indentation stands for, and the blocks open after it. -/
def indentation (margin : Margin) (layout : Layout) : Option (List Token × Layout) :=
  let column := if margin.continued == 0 then margin.column else margin.continued
  let tabless := if margin.continued == 0 then margin.tabless else margin.continued
  let (top, topTabless) := layout.current
  if column == top then
    if tabless == topTabless then some ([], layout) else none
  else if top < column then
    if maximalIndents ≤ layout.indents.length + 1 || tabless ≤ topTabless then none
    else some ([.indent], { layout with indents := (column, tabless) :: layout.indents })
  else
    let (closed, indents) := closeBlocks column layout.indents
    let layout := { layout with indents }
    if layout.current == (column, tabless) then some (List.replicate closed .dedent, layout)
    else none

/-- Drop a comment if one heads the text. -/
def skipComment : List Char → List Char
  | '#' :: rest => rest.dropWhile (· != '\n')
  | rest => rest

/-- Blanks between tokens. -/
def isGap (c : Char) : Bool := c == ' ' || c == '\t' || c == '\x0c'

/-- The text up to the end of a string literal and what follows it. A backslash takes the next
character with it. A literal in single marks ends before the line does. -/
def readQuoted (isTriple : Bool) (mark : Char) : List Char → Option (List Char × List Char)
  | [] => none
  | '\\' :: c :: rest => do
    let (body, rest) ← readQuoted isTriple mark rest
    return ('\\' :: c :: body, rest)
  | c :: rest =>
    if c == mark && !isTriple then some ([], rest)
    else if c == mark && [mark, mark].isPrefixOf rest then some ([], rest.drop 2)
    else if c == '\n' && !isTriple then none
    else do
      let (body, rest) ← readQuoted isTriple mark rest
      return (c :: body, rest)

/-- Read a string literal from its opening quote on. -/
def readString (mark : Char) (rest : List Char) : Option (List Char × List Char) :=
  match rest with
  | c :: d :: rest' =>
    if c == mark && d == mark then readQuoted true mark rest' else readQuoted false mark rest
  | rest => readQuoted false mark rest

/-- Letters in front of a string literal. -/
structure Letters where
  b : Bool
  r : Bool
  u : Bool
  f : Bool

/-- Note one letter in front of a string literal, if it can join those before it. -/
def Letters.add? (letters : Letters) (c : Char) : Option Letters :=
  let ⟨b, r, u, f⟩ := letters
  if !(b || u || f) && (c == 'b' || c == 'B') then some { letters with b := true }
  else if !(b || u || r || f) && (c == 'u' || c == 'U') then some { letters with u := true }
  else if !(r || u) && (c == 'r' || c == 'R') then some { letters with r := true }
  else if !(f || b || u) && (c == 'f' || c == 'F') then some { letters with f := true }
  else none

/-- The letters and quote that open a string literal, and what follows them; none if the text does
not start with one. -/
def readLetters (letters : Letters) : List Char → Option (Letters × Char × List Char)
  | [] => none
  | c :: rest =>
    if c == '"' || c == '\'' then some (letters, c, rest)
    else match letters.add? c with
      | some letters => readLetters letters rest
      | none => none

/-- Operators and delimiters of three characters. -/
def tripleSymbols : List (List Char) :=
  [['*', '*', '='], ['/', '/', '='], ['>', '>', '='], ['<', '<', '='], ['.', '.', '.']]

/-- Operators and delimiters of two characters. -/
def doubleSymbols : List (List Char) :=
  [['*', '*'], ['/', '/'], ['>', '>'], ['<', '<'], ['=', '='], ['!', '='], ['<', '='], ['>', '='],
    ['-', '>'], [':', '='], ['+', '='], ['-', '='], ['*', '='], ['/', '='], ['%', '='], ['&', '='],
    ['|', '='], ['^', '='], ['@', '=']]

/-- Operators and delimiters of one character. -/
def singleSymbols : List Char :=
  ['(', ')', '[', ']', '\x7b', '\x7d', ':', ',', ';', '+', '-', '*', '/', '|', '&', '<', '>', '=',
    '.', '%', '~', '^', '@']

/-- The operator or delimiter at the head of a text and what follows it. -/
def readSymbol (cs : List Char) : Option (List Char × List Char) :=
  if tripleSymbols.contains (cs.take 3) then some (cs.take 3, cs.drop 3)
  else if doubleSymbols.contains (cs.take 2) then some (cs.take 2, cs.drop 2)
  else match cs with
    | c :: rest => if singleSymbols.contains c then some ([c], rest) else none
    | [] => none

/-- The bracket that closes another. -/
def closing? : Char → Option Char
  | '(' => some ')'
  | '[' => some ']'
  | '\x7b' => some '\x7d'
  | _ => none

/-- Follow the brackets through one symbol; fails on a closing bracket that closes nothing. -/
def Layout.follow (layout : Layout) (symbol : List Char) : Option Layout :=
  match symbol with
  | [c] =>
    if (closing? c).isSome then
      if maximalBrackets ≤ layout.brackets.length then none
      else some { layout with brackets := c :: layout.brackets }
    else if c == ')' || c == ']' || c == '\x7d' then
      match layout.brackets with
      | opening :: brackets =>
        if closing? opening == some c then some { layout with brackets } else none
      | [] => none
    else some layout
  | _ => some layout

/-- A name as a token: a reserved word, or an identifier by its composed spelling. -/
def nameToken (letters : List Char) : Option Token :=
  let spelling := String.ofList letters
  if keywords.contains spelling then some (.keyword spelling)
  else if letters.all isAscii then some (.name spelling)
  else if isIdentifierChars letters then
    some (.name (String.ofList (Compatibility.composeText letters)))
  else none

/-- Read one token from a text that starts with neither a blank nor a line end. -/
def readToken (cs : List Char) : Option (Token × List Char) :=
  match readLetters ⟨false, false, false, false⟩ cs with
  | some (letters, mark, rest) => do
    let (body, rest) ← readString mark rest
    return (.string ⟨letters.b, letters.r, letters.f, body⟩, rest)
  | none =>
    match cs with
    | [] => none
    | c :: rest =>
      if c.isDigit || (c == '.' && Number.startsWithDigit rest) then
        (Number.read cs).map fun (spelling, rest) => (.number spelling, rest)
      else if Number.mayContinueName c then do
        let token ← nameToken (cs.takeWhile Number.mayContinueName)
        return (token, cs.dropWhile Number.mayContinueName)
      else (readSymbol cs).map fun (symbol, rest) => (.symbol (String.ofList symbol), rest)

/-- The lines a token spans beyond its first. -/
def lineBreaks : Token → Nat
  | .string literal => literal.body.count '\n'
  | _ => 0

/-- The brackets after a token. -/
def Layout.after (layout : Layout) : Token → Option Layout
  | .symbol text => layout.follow text.toList
  | _ => some layout

/-- Read the tokens of the rest of a text; `atStart` holds at the start of a line. -/
def readTokens : (fuel : Nat) → (atStart : Bool) → Layout → List Char → Option (List Lexeme)
  | 0, _, _, _ => none
  | fuel + 1, true, layout, cs => do
    let (margin, rest) ← readMargin ⟨0, 0, 0, 0⟩ cs
    let layout := { layout with line := layout.line + margin.lineBreaks }
    match skipComment rest with
    | '\n' :: rest => readTokens fuel true { layout with line := layout.line + 1 } rest
    | rest =>
      if layout.brackets.isEmpty then
        let (tokens, layout) ← indentation margin layout
        let lexemes ← readTokens fuel false layout rest
        return tokens.map (⟨·, layout.line⟩) ++ lexemes
      else readTokens fuel false layout rest
  | fuel + 1, false, layout, cs =>
    match skipComment (cs.dropWhile isGap) with
    | [] => if layout.brackets.isEmpty then some [⟨.finish, layout.line⟩] else none
    | '\n' :: rest =>
      let next := { layout with line := layout.line + 1 }
      if layout.brackets.isEmpty then do
        let lexemes ← readTokens fuel true next rest
        return ⟨.newline, layout.line⟩ :: lexemes
      else readTokens fuel true next rest
    | '\\' :: rest =>
      match rest with
      | '\n' :: c :: rest =>
        readTokens fuel false { layout with line := layout.line + 1 } (c :: rest)
      | _ => none
    | cs => do
      let (token, rest) ← readToken cs
      let next ← layout.after token
      let lexemes ← readTokens fuel false { next with line := next.line + lineBreaks token } rest
      return ⟨token, layout.line⟩ :: lexemes

/-- A text with a newline at its end. -/
def endLine (cs : List Char) : List Char :=
  if cs.getLast? == some '\n' then cs else cs ++ ['\n']

end Lexer

/-- The tokens of a text, if it can be read. -/
def tokens? (cs : List Char) : Option (List Lexeme) :=
  let cs := Lexer.endLine (unifyLineEnds cs)
  Lexer.readTokens (2 * cs.length + 2) true .initial cs

end Registrar.Source
