import Registrar.Source.Parser.Module
import Registrar.Text.Blank

/-!
# Canonical source

Generated source in one spelling: no white space at the end of a line, at most two blank lines in a
row, no blank lines at either end, and one newline at the end.
-/

namespace Registrar.Canonical

/-- Shorten every run of newlines to three; `run` is the length of the current run. -/
def limitRuns (run : Nat) : List Char → List Char
  | [] => []
  | c :: cs =>
    if c == '\n' then
      if run < 3 then c :: limitRuns (run + 1) cs else limitRuns (run + 1) cs
    else c :: limitRuns 0 cs

/-- A text without the newlines at its ends. -/
def trimNewlines (text : List Char) : List Char :=
  dropEndWhile (· == '\n') (text.dropWhile (· == '\n'))

/-- The canonical spelling of a text. -/
def normalize (text : List Char) : List Char :=
  trimNewlines (limitRuns 0 (joinChars ['\n'] ((lines text).map trimEnd))) ++ ['\n']

/-- The canonical spelling of a module; a text that is no module has none. -/
def ofSource? (source : String) : Option String :=
  (Source.parseModule? source.toList).map fun _ => String.ofList (normalize source.toList)

end Registrar.Canonical
