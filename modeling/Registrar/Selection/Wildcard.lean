/-!
# Wildcards

Patterns for one name: a star for any characters, a question mark for one, and sets of characters in
square brackets, which an exclamation mark complements. A range that runs backwards is empty.
-/

namespace Registrar

/-- A piece of a wildcard pattern. -/
inductive Wildcard
  /-- Any characters. -/
  | star
  /-- Any one character. -/
  | any
  /-- One character. -/
  | literal (c : Char)
  /-- One character of some ranges, or of none of them. -/
  | set (complemented : Bool) (ranges : List (Char × Char))
  deriving DecidableEq

namespace Wildcard

/-- A character inside square brackets, or the dash that makes a range of its neighbours. -/
inductive Member
  | char (c : Char)
  | dash
  deriving DecidableEq

/-- Where the set opened by a bracket ends: the characters of the set and what follows it. A bracket
that would close an empty set belongs to the set. -/
def splitSet (cs : List Char) : Option (List Char × List Char) :=
  let head := match cs with
    | '!' :: ']' :: _ => 2
    | '!' :: _ => 1
    | ']' :: _ => 1
    | _ => 0
  let rest := cs.drop head
  match rest.dropWhile (· != ']') with
  | _ :: after => some (cs.take head ++ rest.takeWhile (· != ']'), after)
  | [] => none

/-- Cut a set at the dashes that make ranges. The first `skip` characters are no such dash, nor are the
two after one that is. -/
def chunks (skip : Nat) (chunk : List Char) : List Char → List (List Char)
  | [] => if chunk.isEmpty then [] else [chunk.reverse]
  | c :: cs =>
    if skip == 0 && c == '-' then chunk.reverse :: chunks 2 [] cs
    else chunks (skip - 1) (c :: chunk) cs

/-- Give a dash at the end of a set to the chunk before it. -/
def closeDash (endsInDash : Bool) (parts : List (List Char)) : List (List Char) :=
  if endsInDash then parts.dropLast ++ [parts.getLastD [] ++ ['-']] else parts

/-- Whether a range between two chunks runs backwards. -/
def isBackward (left right : List Char) : Bool :=
  match left.getLast?, right.head? with
  | some low, some high => high < low
  | _, _ => false

/-- Drop the ranges that run backwards, from the last one on. -/
def dropBackward : List (List Char) → List (List Char)
  | [] => []
  | left :: rest =>
    match dropBackward rest with
    | [] => [left]
    | right :: rest =>
      if isBackward left right then (left.dropLast ++ right.drop 1) :: rest
      else left :: right :: rest

/-- The members of a set, with a dash between any two chunks. -/
def members (parts : List (List Char)) : List Member :=
  match parts with
  | [] => []
  | first :: rest =>
    first.map .char ++ rest.flatMap fun part => .dash :: part.map .char

/-- The ranges that the members of a set make. -/
def ranges : List Member → List (Char × Char)
  | [] => []
  | .char low :: .dash :: .char high :: rest => (low, high) :: ranges rest
  | .char c :: rest => (c, c) :: ranges rest
  | .dash :: rest => ('-', '-') :: ranges rest

/-- The chunks of a set's characters. -/
def chunked (set : List Char) : List (List Char) :=
  let skip := if set.head? == some '!' then 2 else 1
  let parts := chunks skip [] set
  let count := parts.flatten.length + (parts.length - 1)
  closeDash (count < set.length) parts

/-- The piece that a set's characters stand for. -/
def ofSet (set : List Char) : Wildcard :=
  match dropBackward (chunked set) with
  | ('!' :: first) :: rest => .set true (ranges (members (first :: rest)))
  | parts => .set false (ranges (members parts))

/-- The pieces of a pattern; `skip` characters have been read as part of a set. -/
def pieces (skip : Nat) : List Char → List Wildcard
  | [] => []
  | c :: cs =>
    if skip != 0 then pieces (skip - 1) cs
    else if c == '*' then .star :: pieces 0 cs
    else if c == '?' then .any :: pieces 0 cs
    else if c == '[' then
      match splitSet cs with
      | some (inside, _) => ofSet inside :: pieces (inside.length + 1) cs
      | none => .literal '[' :: pieces 0 cs
    else .literal c :: pieces 0 cs

/-- Whether a piece other than a star admits a character. -/
def admits (c : Char) : Wildcard → Bool
  | .star | .any => true
  | .literal d => c == d
  | .set complemented ranges =>
    ranges.any (fun (low, high) => low ≤ c && c ≤ high) != complemented

/-- Whether some rest of a list, the list itself included, satisfies a predicate. -/
def anySuffix {α : Type} (p : List α → Bool) : List α → Bool
  | [] => p []
  | a :: as => p (a :: as) || anySuffix p as

/-- Whether pieces match a name. -/
def accepts : List Wildcard → List Char → Bool
  | [], cs => cs.isEmpty
  | .star :: rest, cs => anySuffix (accepts rest) cs
  | piece :: rest, cs =>
    match cs with
    | [] => false
    | c :: cs => piece.admits c && accepts rest cs

end Wildcard

/-- Whether a character starts a wildcard. -/
def isWildcardChar (c : Char) : Bool := c == '*' || c == '?' || c == '['

/-- Whether a pattern has wildcards. -/
def hasWildcard (pattern : String) : Bool := pattern.toList.any isWildcardChar

/-- Whether a pattern with wildcards matches a name. -/
def wildcardMatches (pattern name : String) : Bool :=
  Wildcard.accepts (Wildcard.pieces 0 pattern.toList) name.toList

/-- Whether a name is hidden. -/
def isHidden (name : String) : Bool := name.toList.head? == some '.'

end Registrar
