import Registrar.Text.Word

/-!
# Dotted module names

The names of modules that are accepted as the source of the runtime primitives: words with points
between them, each starting with an ASCII letter or an underscore. A newline at the end is not seen.
-/

namespace Registrar.RuntimeName

/-- Whether a text is the rest of a dotted name; `fresh` holds at the start of a word. -/
def isDotted (fresh : Bool) : List Char → Bool
  | [] => !fresh
  | c :: cs =>
    if fresh then (isAscii c && (c.isAlpha || c == '_')) && isDotted false cs
    else if c == '.' then isDotted true cs
    else isWordChar c && isDotted false cs

/-- The usual module of the runtime primitives. -/
def usual : String := "uiwire"

/-- Whether a text is accepted. -/
def accepts (name : String) : Bool :=
  let letters := name.toList
  isDotted true letters
    || (letters.getLast? == some '\n' && isDotted true letters.dropLast)

end Registrar.RuntimeName
