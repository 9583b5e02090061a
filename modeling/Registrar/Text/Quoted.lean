import Registrar.Text.Printable

/-!
# Quoted text

The quoted form messages show: single quotes unless only double quotes avoid an escape, short
escapes for the usual controls, and hexadecimal escapes of two, four or eight digits for every
other character that cannot be printed.
-/

namespace Registrar

/-- A lower-case hexadecimal digit. -/
def hexDigit (n : Nat) : Char :=
  if n < 10 then Char.ofNat (48 + n) else Char.ofNat (87 + n)

/-- The low `count` hexadecimal digits of a number. -/
def hexDigits : (count : Nat) → Nat → List Char
  | 0, _ => []
  | count + 1, n => hexDigits count (n / 16) ++ [hexDigit (n % 16)]

namespace Quoted

/-- The quote that encloses a text. -/
def mark (text : List Char) : Char :=
  if text.contains '\'' && !text.contains '"' then '"' else '\''

/-- Escape of a character that is not printed as itself. -/
def numericEscape (n : Nat) : List Char :=
  if n < 0x100 then '\\' :: 'x' :: hexDigits 2 n
  else if n < 0x10000 then '\\' :: 'u' :: hexDigits 4 n
  else '\\' :: 'U' :: hexDigits 8 n

/-- One character between quotes `mark`, where `shown` tells what is printed as itself. -/
def escape (shown : Char → Bool) (mark c : Char) : List Char :=
  if c == mark || c == '\\' then ['\\', c]
  else if c == '\t' then ['\\', 't']
  else if c == '\n' then ['\\', 'n']
  else if c == '\r' then ['\\', 'r']
  else if shown c then [c]
  else numericEscape c.toNat

/-- A text in quotes. -/
def enclose (shown : Char → Bool) (text : List Char) : List Char :=
  let quote := mark text
  quote :: text.flatMap (escape shown quote) ++ [quote]

end Quoted

/-- The quoted form of a string. -/
def quoted (s : String) : String := String.ofList (Quoted.enclose isPrintable s.toList)

/-- The quoted form of a sequence of octets, given as the characters of their values. -/
def quotedBytes (octets : String) : String :=
  String.ofList ('b' :: Quoted.enclose (fun c => isAscii c && isPrintable c) octets.toList)

end Registrar
