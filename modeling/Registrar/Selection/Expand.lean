import Registrar.Files.Resolve
import Registrar.Selection.Patterns

/-!
# Expanded selections

The files of a tree that a selection selects. A pattern is expanded part by part from the root: parts
with wildcards range over the names of a directory, a double star over everything below one that is
not hidden, and a slash at the end keeps directories only. Each pattern's matches are sorted as they
are spelled; links are resolved, and of several spellings of a file the first counts.
-/

namespace Registrar

namespace Expansion

/-- Cut a pattern before its last part; slashes between the two belong to neither, but a head of
slashes only is kept. -/
def splitLast (pattern : List Char) : List Char × List Char :=
  let reversed := pattern.reverse
  let last := (reversed.takeWhile (· != '/')).reverse
  let head := reversed.dropWhile (· != '/')
  let trimmed := head.dropWhile (· == '/')
  ((if trimmed.isEmpty then head else trimmed).reverse, last)

/-- A name below a directory, both as text. -/
def below (directory name : String) : String :=
  if directory == "" || directory.toList.getLast? == some '/' then directory ++ name
  else directory ++ "/" ++ name

/-- The names in a directory, perhaps only those of directories. -/
def names (tree : FileNode) (directoriesOnly : Bool) (directory : String) : List String :=
  let all := tree.list (Path.split directory)
  if directoriesOnly then
    all.filter fun name => tree.isDirectoryAt (Path.split (below directory name))
  else all

/-- The names in a directory that a part with wildcards matches. -/
def matching (tree : FileNode) (directoriesOnly : Bool) (part directory : String) : List String :=
  (names tree directoriesOnly directory).filter fun name =>
    (isHidden part || !isHidden name) && wildcardMatches part name

/-- Everything below a directory that is not hidden, by its names from there; `depth` bounds the
nesting. -/
def descendants (tree : FileNode) (directoriesOnly : Bool) : (depth : Nat) → String → List String
  | 0, _ => []
  | depth + 1, directory =>
    ((names tree directoriesOnly directory).filter fun name => !isHidden name).flatMap fun name =>
      name :: (descendants tree directoriesOnly depth (below directory name)).map (below name)

/-- How deep a path can lead in a tree: links are followed a bounded number of times. -/
def depthBound (tree : FileNode) : Nat := (FileNode.maximalLinks + 1) * (tree.size + 1)

/-- What the last part of a pattern adds to a directory that the parts before it match. -/
def inDirectory (tree : FileNode) (directoriesOnly : Bool) (part directory : String) :
    List String :=
  if part == Segments.spanning then
    (if tree.isDirectoryAt (Path.split directory) then [""] else [])
      ++ descendants tree directoriesOnly (depthBound tree) directory
  else if hasWildcard part then matching tree directoriesOnly part directory
  else if part == "" then if tree.isDirectoryAt (Path.split directory) then [""] else []
  else if tree.entryExists (Path.split (below directory part)) then [part] else []

/-- The paths that match an absolute pattern, as they are spelled. -/
def spellings (tree : FileNode) : (fuel : Nat) → (directoriesOnly : Bool) → String → List String
  | 0, _, _ => []
  | fuel + 1, directoriesOnly, pattern =>
    let (head, last) := splitLast pattern.toList
    let directory := String.ofList head
    let part := String.ofList last
    if !hasWildcard pattern then
      let found :=
        if part == "" then tree.isDirectoryAt (Path.split directory)
        else tree.entryExists (Path.split pattern)
      if found then [pattern] else []
    else
      let directories :=
        if directory != pattern && hasWildcard directory then spellings tree fuel true directory
        else [directory]
      directories.flatMap fun directory =>
        (inDirectory tree directoriesOnly part directory).map (below directory)

/-- Whether the directory before the first part with wildcards has a null character in its name, so
that it cannot be listed. -/
def isUnlistable (pattern : String) : Bool :=
  let literal := pattern.toList.takeWhile fun c => !isWildcardChar c
  hasWildcard pattern && (splitLast literal).1.contains '\x00'

/-- The paths that match an absolute pattern, sorted as they are spelled. -/
def sortedSpellings (tree : FileNode) (pattern : String) : List String :=
  (spellings tree (pattern.length + 1) false pattern).mergeSort (· ≤ ·)

end Expansion

namespace Selection

/-- The paths that match a pattern, resolved. -/
def expandPattern (selection : Selection) (tree : FileNode) (working : List String)
    (pattern : String) : Except ResolveError (List Path) :=
  let pattern := selection.anchor pattern
  if Expansion.isUnlistable pattern then .error .nullCharacter
  else (Expansion.sortedSpellings tree pattern).mapM fun spelling =>
    (Path.ofString spelling).resolve tree working

/-- The paths that match some patterns, resolved, each where it is met first. -/
def expandPatterns (selection : Selection) (tree : FileNode) (working patterns : List String) :
    Except ResolveError (List Path) := do
  let found ← patterns.mapM (selection.expandPattern tree working)
  return found.flatten.eraseDups

/-- The files that a selection selects. -/
def expand (selection : Selection) (tree : FileNode) (working : List String) :
    Except ResolveError (List Path) := do
  let excluded ← selection.expandPatterns tree working selection.excludes
  let included ← selection.expandPatterns tree working selection.includes
  return included.filter fun path =>
    !excluded.contains path && some path != selection.output && tree.isFileAt path.names

end Selection

end Registrar
