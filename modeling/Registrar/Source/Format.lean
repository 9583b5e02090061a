import Registrar.Source.Escape
import Registrar.Source.Syntax

/-!
# Formatted string literals

The pieces of a formatted literal: text, in which doubled braces stand for braces, and replacement
fields. A field holds an expression without backslashes and comments, perhaps an equals sign that
shows the expression's text, a conversion and a format specification, which may hold fields once
more.
-/

namespace Registrar.Source.Format

/-- Where the reading of a field's expression stands: the string literal it is in, by its mark and
whether that is tripled, the open brackets, and the characters to take unseen. -/
structure Scan where
  quote : Option (Char × Bool)
  brackets : List Char
  pending : Nat

/-- Whether a bracket closes another. -/
def matchesBracket (opening closing : Char) : Bool :=
  (opening == '(' && closing == ')') || (opening == '[' && closing == ']')
    || (opening == '\x7b' && closing == '\x7d')

/-- Deepest nesting of brackets in a field. -/
def maximalBrackets : Nat := 200

/-- What one character means to a field's expression. -/
inductive Advance
  /-- The expression ends before the character. -/
  | ends
  /-- The character cannot stand there. -/
  | fails
  /-- The character belongs to the expression. -/
  | goes (next : Scan)

/-- What a character means, `rest` being what follows it. -/
def Scan.step (scan : Scan) (c : Char) (rest : List Char) : Advance :=
  if scan.pending != 0 then .goes { scan with pending := scan.pending - 1 }
  else if c == '\\' then .fails
  else match scan.quote with
    | some (mark, isTriple) =>
      if c != mark then .goes scan
      else if !isTriple then .goes { scan with quote := none }
      else if [mark, mark].isPrefixOf rest then .goes { scan with quote := none, pending := 2 }
      else .goes scan
    | none =>
      if c == '\'' || c == '"' then
        if [c, c].isPrefixOf rest then .goes { scan with quote := some (c, true), pending := 2 }
        else .goes { scan with quote := some (c, false) }
      else if c == '(' || c == '[' || c == '\x7b' then
        if maximalBrackets ≤ scan.brackets.length then .fails
        else .goes { scan with brackets := c :: scan.brackets }
      else if c == '#' then .fails
      else if scan.brackets.isEmpty && ['!', ':', '\x7d', '=', '>', '<'].contains c then
        if rest.head? == some '=' && ['!', '=', '<', '>'].contains c then
          .goes { scan with pending := 1 }
        else if c == '<' || c == '>' then .goes scan
        else .ends
      else if c == ')' || c == ']' || c == '\x7d' then
        match scan.brackets with
        | opening :: brackets =>
          if matchesBracket opening c then .goes { scan with brackets } else .fails
        | [] => .fails
      else .goes scan

/-- The text of a field's expression and what follows it, which is never empty. -/
def splitExpression (scan : Scan) : List Char → Option (List Char × List Char)
  | [] => none
  | c :: rest =>
    match scan.step c rest with
    | .ends => some ([], c :: rest)
    | .fails => none
    | .goes next => (splitExpression next rest).map fun (text, rest) => (c :: text, rest)

/-- What ends a piece of text: a doubled brace, after which text goes on, or a brace that opens or
closes a field, or the end of the literal. -/
def endAtBrace (depth : Nat) (brace : Char) (rest : List Char) :
    Option (List Char × Bool × List Char) :=
  if depth == 0 && rest.head? == some brace then some ([brace], true, rest.drop 1)
  else if depth == 0 && brace == '\x7d' then none
  else some ([], false, brace :: rest)

/-- Whether a character is a brace. -/
def isBrace (c : Char) : Bool := c == '\x7b' || c == '\x7d'

/-- Where the reading of text stands. -/
inductive TextMode
  | plain
  /-- After a backslash. -/
  | escaped
  /-- After the letter that introduces a character's name. -/
  | beforeName
  /-- In a character's name. -/
  | inName
  deriving DecidableEq

/-- The mode after a character that does not end the text; none is an error. -/
def TextMode.step (isRaw : Bool) (mode : TextMode) (c : Char) : Option TextMode :=
  match mode with
  | .plain => some (if c == '\\' && !isRaw then .escaped else .plain)
  | .escaped => some (if c == 'N' then .beforeName else .plain)
  | .beforeName => if c == '\x7b' then some .inName else none
  | .inName => some (if c == '\x7d' then .plain else .inName)

/-- A piece of text as written, whether more text follows a doubled brace, and the rest. In a literal
that is not raw, a character's name in braces belongs to the text. -/
def splitText (isRaw : Bool) (depth : Nat) (mode : TextMode) :
    List Char → Option (List Char × Bool × List Char)
  | [] => if mode == .plain || mode == .escaped then some ([], false, []) else none
  | c :: rest =>
    if (mode == .plain || mode == .escaped) && isBrace c then endAtBrace depth c rest
    else do
      let mode ← mode.step isRaw c
      let (text, again, rest) ← splitText isRaw depth mode rest
      return (c :: text, again, rest)

/-- Join neighbouring pieces of text and drop empty ones. -/
def mergeText : List FormatPart → List FormatPart
  | [] => []
  | .literal points :: parts =>
    match mergeText parts with
    | .literal more :: parts => .literal (points ++ more) :: parts
    | parts => if points.isEmpty then parts else .literal points :: parts
  | part :: parts => part :: mergeText parts

/-- Blanks that do not make an expression. -/
def isFieldBlank (c : Char) : Bool := c == ' ' || c == '\t' || c == '\n' || c == '\x0c'

/-- Blanks after an equals sign that shows the expression's text. -/
def isShownBlank (c : Char) : Bool := isFieldBlank c || c == '\x0b' || c == '\r'

/-- The text an equals sign shows, and what follows it. -/
def splitShown (text : List Char) : List Char → Option (List Char) × List Char
  | '=' :: rest =>
    (some (text ++ '=' :: rest.takeWhile isShownBlank), rest.dropWhile isShownBlank)
  | rest => (none, rest)

/-- The conversion after an exclamation mark, and what follows it. -/
def splitConversion : List Char → Option (Option Char × List Char)
  | '!' :: c :: rest =>
    if c == 's' || c == 'r' || c == 'a' then
      match rest with
      | ':' :: _ => some (some c, rest)
      | '\x7d' :: _ => some (some c, rest)
      | _ => none
    else none
  | '!' :: [] => none
  | rest => some (none, rest)

/-- The pieces of a literal's body, or of a format specification up to the brace that closes its
field. `expression` reads the text of an expression. -/
def readParts (expression : List Char → Option Expr) (isRaw : Bool) :
    (fuel : Nat) → (depth : Nat) → List Char → Option (List FormatPart × List Char)
  | 0, _, _ => none
  | fuel + 1, depth, cs => do
    let (text, again, rest) ← splitText isRaw depth .plain cs
    let points ← Escape.decodeText isRaw text
    if again then
      let (parts, rest) ← readParts expression isRaw fuel depth rest
      return (.literal points :: parts, rest)
    else match rest with
      | '\x7b' :: rest => do
        if 2 ≤ depth then none
        let (text, rest) ← splitExpression ⟨none, [], 0⟩ rest
        if text.all isFieldBlank then none
        let value ← expression text
        let (shown, rest) := splitShown text rest
        let (conversion, rest) ← splitConversion rest
        let (spec, rest) ← match rest with
          | ':' :: rest => do
            let (parts, rest) ← readParts expression isRaw fuel (depth + 1) rest
            pure (some (mergeText parts), rest)
          | rest => pure (none, rest)
        let conversion :=
          if shown.isSome && spec.isNone && conversion.isNone then some 'r' else conversion
        match rest with
        | '\x7d' :: rest =>
          let (parts, rest) ← readParts expression isRaw fuel depth rest
          let shownPoints := (shown.getD []).map Char.toNat
          return (.literal points :: .literal shownPoints :: .field value conversion spec :: parts,
            rest)
        | _ => none
      | rest => some ([.literal points], rest)

/-- The pieces of the body of one formatted literal. -/
def read (expression : List Char → Option Expr) (isRaw : Bool) (body : List Char) :
    Option (List FormatPart) := do
  let (parts, rest) ← readParts expression isRaw (body.length + 1) 0 body
  if rest.isEmpty then some parts else none

end Registrar.Source.Format
