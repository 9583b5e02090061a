import Registrar.Text.Quoted

/-!
# JSON text

Writing a string as a JSON literal in ASCII, and reading a JSON document. The reader also takes the
three names of numbers that are not finite, and keeps of a number only that it is one.
-/

namespace Registrar.Json

/-- Four-digit escapes of a character, two of them outside the basic plane. -/
def unicodeEscape (n : Nat) : List Char :=
  if n < 0x10000 then '\\' :: 'u' :: hexDigits 4 n
  else
    let high := 0xD800 + (n - 0x10000) / 0x400
    let low := 0xDC00 + (n - 0x10000) % 0x400
    '\\' :: 'u' :: hexDigits 4 high ++ '\\' :: 'u' :: hexDigits 4 low

/-- One character inside a JSON string. -/
def escapeChar (c : Char) : List Char :=
  match c with
  | '"' => ['\\', '"']
  | '\\' => ['\\', '\\']
  | '\n' => ['\\', 'n']
  | '\r' => ['\\', 'r']
  | '\t' => ['\\', 't']
  | '\x08' => ['\\', 'b']
  | '\x0c' => ['\\', 'f']
  | c => if 32 ≤ c.toNat && c.toNat < 127 then [c] else unicodeEscape c.toNat

/-- The JSON literal of a text, in ASCII. -/
def literalChars (text : List Char) : List Char :=
  '"' :: text.flatMap escapeChar ++ ['"']

/-- The JSON literal of a string, in ASCII. -/
def literal (s : String) : String := String.ofList (literalChars s.toList)

/-- A JSON document. A string that is not a sequence of characters, because it escapes half of a
surrogate pair, is kept as `none`. -/
inductive Document
  | null
  | bool (value : Bool)
  | number
  | string (value : Option String)
  | array (elements : List Document)
  | object (members : List (Option String × Document))
  deriving Inhabited

/-- White space between tokens. -/
def isSpace (c : Char) : Bool := c == ' ' || c == '\t' || c == '\n' || c == '\r'

/-- Skip white space. -/
def skipSpace (cs : List Char) : List Char := cs.dropWhile isSpace

/-- Value of a hexadecimal digit of either case. -/
def hexValue? (c : Char) : Option Nat :=
  if c.isDigit then some (c.toNat - 48)
  else if 'a' ≤ c && c ≤ 'f' then some (c.toNat - 87)
  else if 'A' ≤ c && c ≤ 'F' then some (c.toNat - 55)
  else none

/-- Four hexadecimal digits. -/
def readHex4 : List Char → Option (Nat × List Char)
  | a :: b :: c :: d :: rest => do
    let a ← hexValue? a
    let b ← hexValue? b
    let c ← hexValue? c
    let d ← hexValue? d
    return (((a * 16 + b) * 16 + c) * 16 + d, rest)
  | _ => none

/-- Whether a code point is the first half of a surrogate pair. -/
def isHighSurrogate (n : Nat) : Bool := 0xD800 ≤ n && n < 0xDC00

/-- Whether a code point is the second half of a surrogate pair. -/
def isLowSurrogate (n : Nat) : Bool := 0xDC00 ≤ n && n < 0xE000

/-- Code points as a string, with surrogate pairs joined; none if half a pair remains. -/
def joinSurrogates : List Nat → Option (List Char)
  | [] => some []
  | high :: low :: rest =>
    if isHighSurrogate high && isLowSurrogate low then do
      let tail ← joinSurrogates rest
      return Char.ofNat (0x10000 + (high - 0xD800) * 0x400 + (low - 0xDC00)) :: tail
    else if isHighSurrogate high || isLowSurrogate high then none
    else do
      let tail ← joinSurrogates (low :: rest)
      return Char.ofNat high :: tail
  | [point] =>
    if isHighSurrogate point || isLowSurrogate point then none else some [Char.ofNat point]

/-- The code points of a string, after its opening quote, and what follows the closing one. -/
def readStringPoints : (fuel : Nat) → List Char → Option (List Nat × List Char)
  | 0, _ => none
  | _, [] => none
  | _, '"' :: rest => some ([], rest)
  | fuel + 1, '\\' :: 'u' :: rest => do
    let (point, rest) ← readHex4 rest
    let (points, rest) ← readStringPoints fuel rest
    return (point :: points, rest)
  | fuel + 1, '\\' :: c :: rest => do
    let point ← match c with
      | '"' => some 34
      | '\\' => some 92
      | '/' => some 47
      | 'b' => some 8
      | 'f' => some 12
      | 'n' => some 10
      | 'r' => some 13
      | 't' => some 9
      | _ => none
    let (points, rest) ← readStringPoints fuel rest
    return (point :: points, rest)
  | fuel + 1, c :: rest => do
    if c.toNat < 32 then none
    let (points, rest) ← readStringPoints fuel rest
    return (c.toNat :: points, rest)

/-- Digits, at least one. -/
def readDigits (cs : List Char) : Option (List Char) :=
  match cs with
  | c :: rest => if c.isDigit then some (rest.dropWhile Char.isDigit) else none
  | [] => none

/-- Skip a fraction if one follows. -/
def skipFraction : List Char → List Char
  | '.' :: rest => (readDigits rest).getD ('.' :: rest)
  | cs => cs

/-- Skip an exponent if one follows. -/
def skipExponent : List Char → List Char
  | c :: rest =>
    if c == 'e' || c == 'E' then
      let unsigned := match rest with
        | '+' :: more => more
        | '-' :: more => more
        | more => more
      (readDigits unsigned).getD (c :: rest)
    else c :: rest
  | [] => []

/-- Skip the number at the head of a text. -/
def readNumber (cs : List Char) : Option (List Char) :=
  let unsigned := match cs with
    | '-' :: rest => rest
    | rest => rest
  match unsigned with
  | '0' :: rest => some (skipExponent (skipFraction rest))
  | unsigned => (readDigits unsigned).map fun rest => skipExponent (skipFraction rest)

/-- Drop an expected word from the head of a text. -/
def expectWord (word : String) (cs : List Char) : Option (List Char) :=
  if word.toList.isPrefixOf cs then some (cs.drop word.length) else none

mutual

/-- A value at the head of a text. -/
def readValue : (fuel : Nat) → List Char → Option (Document × List Char)
  | 0, _ => none
  | fuel + 1, cs =>
    match cs with
    | '"' :: rest => do
      let (points, rest) ← readStringPoints (rest.length + 1) rest
      return (.string ((joinSurrogates points).map String.ofList), rest)
    | '[' :: rest =>
      match skipSpace rest with
      | ']' :: rest => some (.array [], rest)
      | rest => do
        let (elements, rest) ← readElements fuel rest
        return (.array elements, rest)
    | '\x7b' :: rest =>
      match skipSpace rest with
      | '\x7d' :: rest => some (.object [], rest)
      | rest => do
        let (members, rest) ← readMembers fuel rest
        return (.object members, rest)
    | cs =>
      ((expectWord "null" cs).map fun rest => (Document.null, rest))
        <|> ((expectWord "true" cs).map fun rest => (Document.bool true, rest))
        <|> ((expectWord "false" cs).map fun rest => (Document.bool false, rest))
        <|> ((expectWord "NaN" cs <|> expectWord "Infinity" cs <|> expectWord "-Infinity" cs
          <|> readNumber cs).map fun rest => (Document.number, rest))

/-- The elements of an array up to its closing bracket. -/
def readElements : (fuel : Nat) → List Char → Option (List Document × List Char)
  | 0, _ => none
  | fuel + 1, cs => do
    let (element, rest) ← readValue fuel cs
    match skipSpace rest with
    | ']' :: rest => return ([element], rest)
    | ',' :: rest =>
      let (elements, rest) ← readElements fuel (skipSpace rest)
      return (element :: elements, rest)
    | _ => none

/-- The members of an object up to its closing brace. -/
def readMembers : (fuel : Nat) → List Char → Option (List (Option String × Document) × List Char)
  | 0, _ => none
  | fuel + 1, cs =>
    match cs with
    | '"' :: rest => do
      let (points, rest) ← readStringPoints (rest.length + 1) rest
      let key := (joinSurrogates points).map String.ofList
      match skipSpace rest with
      | ':' :: rest =>
        let (value, rest) ← readValue fuel (skipSpace rest)
        match skipSpace rest with
        | '\x7d' :: rest => return ([(key, value)], rest)
        | ',' :: rest =>
          let (members, rest) ← readMembers fuel (skipSpace rest)
          return ((key, value) :: members, rest)
        | _ => none
      | _ => none
    | _ => none

end

/-- Read a whole text as one JSON document. -/
def parse? (s : String) : Option Document := do
  let cs := skipSpace s.toList
  let (document, rest) ← readValue (2 * cs.length + 1) cs
  if (skipSpace rest).isEmpty then some document else none

end Registrar.Json
