import Registrar.Files.Locate

/-!
# Resolved paths

The path of a place without links: every link on the way is replaced by its target, double points are
carried out, and what does not exist is kept as written. Links that lead in a circle have no such path.
-/

namespace Registrar

/-- A way followed as far as it goes: the names it leads to, and whether it met a circle of links. -/
structure Trail where
  names : List String
  isCircular : Bool
  deriving DecidableEq

namespace FileNode

/-- Follow the pieces of a path; `onLink` resolves the target of the link at a place. -/
def trailWith (tree : FileNode) (onLink : List String → List String → Trail) (here : List String) :
    List String → Trail
  | [] => ⟨here, false⟩
  | piece :: rest =>
    if !Path.isNamed piece then trailWith tree onLink here rest
    else if piece == ".." then trailWith tree onLink here.dropLast rest
    else
      let place := here ++ [piece]
      match tree.get? place with
      | some (.link target) =>
        let start := if Path.isAbsoluteText target then [] else here
        match onLink place (start ++ Path.split target) with
        | ⟨names, true⟩ => ⟨names ++ rest, true⟩
        | ⟨names, false⟩ => trailWith tree onLink names rest
      | _ => trailWith tree onLink place rest

/-- Follow the pieces of a path. `pending` holds the links being resolved: to meet one of them again is
a circle, so no more links are pending than the tree has. -/
def trail (tree : FileNode) : (depth : Nat) → (pending : List (List String)) → List String → Trail
  | 0, _, pieces => ⟨pieces, true⟩
  | depth + 1, pending, pieces =>
    trailWith tree (fun place target =>
      if pending.contains place then ⟨place, true⟩
      else trail tree depth (place :: pending) target) [] pieces

end FileNode

/-- Why a path cannot be resolved. -/
inductive ResolveError
  /-- Links lead in a circle. -/
  | circular
  /-- A name holds a null character, which no file's name does. -/
  | nullCharacter
  deriving DecidableEq

namespace Path

/-- A path without links; a relative one starts at the working directory, given by its names. -/
def resolve (tree : FileNode) (working : List String) (path : Path) : Except ResolveError Path :=
  if path.names.any (·.toList.contains '\x00') then .error .nullCharacter
  else
    let pieces := if path.isAbsolute then path.names else working ++ path.names
    let names := normalize (tree.trail (tree.size + 2) [] pieces).names
    match tree.status names with
    | .error .tooManyLinks => .error .circular
    | _ => .ok ⟨.slash, names⟩

end Path

end Registrar
