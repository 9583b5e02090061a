/-!
# Tokens of Python modules

The tokens a module is read as. Indentation and the ends of logical lines are tokens; comments and
blank lines are not.
-/

namespace Registrar.Source

/-- A string literal as written: what its letters say, and the text between its quotes. -/
structure StringLiteral where
  isBytes : Bool
  isRaw : Bool
  isFormat : Bool
  body : List Char
  deriving DecidableEq

/-- A token. -/
inductive Token
  | name (id : String)
  | keyword (word : String)
  | number (spelling : String)
  | string (literal : StringLiteral)
  | symbol (text : String)
  | newline
  | indent
  | dedent
  | finish
  deriving DecidableEq

/-- A token with the line it starts on, counted from one. -/
structure Lexeme where
  token : Token
  line : Nat
  deriving DecidableEq

/-- The reserved words. -/
def keywords : List String :=
  ["False", "None", "True", "and", "as", "assert", "async", "await", "break", "class", "continue",
    "def", "del", "elif", "else", "except", "finally", "for", "from", "global", "if", "import",
    "in", "is", "lambda", "nonlocal", "not", "or", "pass", "raise", "return", "try", "while",
    "with", "yield"]

end Registrar.Source
