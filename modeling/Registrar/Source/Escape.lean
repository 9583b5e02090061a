import Registrar.Source.Number
import Registrar.Text.Json

/-!
# Escapes in string literals

The code points a text literal stands for and the octets a bytes literal stands for. A backslash
before a character that makes no escape stands for itself. Text escapes can name any code point, half
a surrogate pair included; characters named by their Unicode name are not taken.
-/

namespace Registrar.Source.Escape

/-- Value of an octal digit. -/
def octalValue? (c : Char) : Option Nat :=
  if '0' ≤ c && c ≤ '7' then some (c.toNat - 48) else none

/-- Escapes of one character. -/
def simple? : Char → Option Nat
  | '\\' => some 92
  | '\'' => some 39
  | '"' => some 34
  | 'a' => some 7
  | 'b' => some 8
  | 'f' => some 12
  | 'n' => some 10
  | 'r' => some 13
  | 't' => some 9
  | 'v' => some 11
  | _ => none

/-- What is being read: plain characters, the digits of an escape, or a character's escape. -/
inductive Mode
  | plain
  /-- After a backslash. -/
  | escaped
  /-- In an octal escape that may take `left` more digits. -/
  | octal (left value : Nat)
  /-- In a hexadecimal escape that needs `left` more digits. -/
  | hex (left value : Nat)

/-- Largest code point. -/
def maximalPoint : Nat := 0x10FFFF

/-- How many hexadecimal digits follow an escape letter. -/
def hexLength? (isBytes : Bool) (c : Char) : Option Nat :=
  if c == 'x' then some 2
  else if isBytes then none
  else if c == 'u' then some 4
  else if c == 'U' then some 8
  else none

/-- Decode the characters of a literal. An octal escape in a bytes literal keeps its low eight bits. -/
def decodeFrom (isBytes : Bool) : Mode → List Char → Option (List Nat)
  | .plain, [] => some []
  | .escaped, [] => some [92]
  | .octal _ value, [] => some [value]
  | .hex .., [] => none
  | .plain, c :: rest =>
    if c == '\\' then decodeFrom isBytes .escaped rest
    else do
      let points ← decodeFrom isBytes .plain rest
      return c.toNat :: points
  | .escaped, c :: rest =>
    if c == '\n' then decodeFrom isBytes .plain rest
    else match simple? c, octalValue? c, hexLength? isBytes c with
      | some point, _, _ => do
        let points ← decodeFrom isBytes .plain rest
        return point :: points
      | none, some digit, _ => decodeFrom isBytes (.octal 2 digit) rest
      | none, none, some length => decodeFrom isBytes (.hex length 0) rest
      | none, none, none =>
        if c == 'N' && !isBytes then none
        else do
          let points ← decodeFrom isBytes .plain rest
          return 92 :: c.toNat :: points
  | .octal left value, c :: rest =>
    let point := if isBytes then value % 256 else value
    match left, octalValue? c with
    | left + 1, some digit => decodeFrom isBytes (.octal left (value * 8 + digit)) rest
    | _, _ =>
      if c == '\\' then do
        let points ← decodeFrom isBytes .escaped rest
        return point :: points
      else do
        let points ← decodeFrom isBytes .plain rest
        return point :: c.toNat :: points
  | .hex left value, c :: rest => do
    let digit ← Json.hexValue? c
    let value := value * 16 + digit
    if left ≤ 1 then
      if maximalPoint < value then none
      else
        let points ← decodeFrom isBytes .plain rest
        return value :: points
    else decodeFrom isBytes (.hex (left - 1) value) rest

/-- The code points of a text literal's body. -/
def decodeText (isRaw : Bool) (body : List Char) : Option (List Nat) :=
  if isRaw then some (body.map Char.toNat) else decodeFrom false .plain body

/-- The octets of a bytes literal's body, which is ASCII. -/
def decodeBytes (isRaw : Bool) (body : List Char) : Option (List Nat) :=
  if !body.all isAscii then none
  else if isRaw then some (body.map Char.toNat)
  else decodeFrom true .plain body

end Registrar.Source.Escape
