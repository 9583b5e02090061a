import Registrar.Files.Resolve
import Registrar.Proofs.Files.Tree

/-! # Skeletons of trees

A skeleton is a tree without the octets in its files. Trees of one skeleton look
alike to everything that does not read a file: paths lead to the same places and
resolve alike, and directories list the same names.
-/

namespace Registrar.FileNode

mutual

/-- A tree with all its files empty. -/
def skeleton : FileNode → FileNode
  | .file _ => .file .empty
  | .link target => .link target
  | .directory entries => .directory (skeletonEntries entries)

def skeletonEntries : List (String × FileNode) → List (String × FileNode)
  | [] => []
  | (name, node) :: entries => (name, node.skeleton) :: skeletonEntries entries

end

variable {tree other : FileNode} {names : List String}

theorem kind_skeleton (tree : FileNode) : tree.skeleton.kind = tree.kind := by
  cases tree <;> rfl

theorem names_skeletonEntries (entries : List (String × FileNode)) :
    (skeletonEntries entries).map (·.1) = entries.map (·.1) := by
  induction entries with
  | nil => rfl
  | cons entry entries ih => simp only [skeletonEntries, List.map_cons, ih]

theorem lookup_skeletonEntries (entries : List (String × FileNode)) (name : String) :
    (skeletonEntries entries).lookup name = (entries.lookup name).map skeleton := by
  induction entries with
  | nil => rfl
  | cons entry entries ih =>
    obtain ⟨key, node⟩ := entry
    simp only [skeletonEntries, lookup_cons, ih]
    split <;> rfl

theorem get?_skeleton (tree : FileNode) (names : List String) :
    tree.skeleton.get? names = (tree.get? names).map skeleton := by
  induction names generalizing tree with
  | nil => rfl
  | cons name names ih =>
    cases tree with
    | directory entries =>
      change ((skeletonEntries entries).lookup name).bind _ =
        ((entries.lookup name).bind _).map skeleton
      rw [lookup_skeletonEntries]
      cases entries.lookup name with
      | none => rfl
      | some child => exact ih child
    | _ => rfl

theorem skeletonEntries_setEntry {entries : List (String × FileNode)} {name : String}
    {node child : FileNode} (hchild : entries.lookup name = some child)
    (h : node.skeleton = child.skeleton) :
    skeletonEntries (setEntry name node entries) = skeletonEntries entries := by
  induction entries with
  | nil => cases hchild
  | cons entry entries ih =>
    obtain ⟨key, value⟩ := entry
    rw [lookup_cons] at hchild
    by_cases hkey : key = name
    · subst key
      rw [if_pos rfl] at hchild
      cases hchild
      simp [setEntry, skeletonEntries, h]
    · rw [if_neg (Ne.symm hkey)] at hchild
      simp [setEntry, skeletonEntries, hkey, ih hchild]

/-- Other octets in a file make no other skeleton. -/
theorem skeleton_put {content octets : ByteArray} (h : tree.get? names = some (.file content)) :
    (tree.put (.file octets) names).skeleton = tree.skeleton := by
  induction names generalizing tree with
  | nil =>
    cases h
    rfl
  | cons name names ih =>
    cases tree with
    | directory entries =>
      change (entries.lookup name).bind (get? · names) = _ at h
      obtain ⟨child, hchild, hfile⟩ := Option.bind_eq_some_iff.mp h
      change directory (skeletonEntries (setEntry name _ entries)) = _
      rw [skeletonEntries_setEntry hchild]
      · rfl
      · rw [hchild]
        exact ih hfile
    | _ => cases h

mutual

theorem size_skeleton : ∀ tree : FileNode, tree.skeleton.size = tree.size
  | .file _ | .link _ => rfl
  | .directory entries => congrArg (· + 1) (sizeEntries_skeletonEntries entries)

theorem sizeEntries_skeletonEntries :
    ∀ entries : List (String × FileNode), sizeEntries (skeletonEntries entries) = sizeEntries entries
  | [] => rfl
  | (_, node) :: entries => by
    simp only [skeletonEntries, sizeEntries, size_skeleton node, sizeEntries_skeletonEntries entries]

end

/-! ## Trees with the same kinds -/

theorem followUntil_congr (h : ∀ names, tree.kind? names = other.kind? names)
    (onLink : List String → String → List String → Except FileError Place) (followLast : Bool)
    (here pieces : List String) :
    tree.followUntil onLink followLast here pieces =
      other.followUntil onLink followLast here pieces := by
  induction pieces generalizing here with
  | nil => rfl
  | cons piece pieces ih =>
    unfold followUntil
    rw [ih here, ih here.dropLast, ih (here ++ [piece])]
    have hkind := h (here ++ [piece])
    unfold kind? at hkind
    cases htree : tree.get? (here ++ [piece]) with
    | none =>
      cases hother : other.get? (here ++ [piece]) with
      | none => rfl
      | some node =>
        rw [htree, hother] at hkind
        cases hkind
    | some node =>
      cases hother : other.get? (here ++ [piece]) with
      | none =>
        rw [htree, hother] at hkind
        cases hkind
      | some node' =>
        rw [htree, hother] at hkind
        cases node <;> cases node' <;> cases hkind <;> rfl

theorem follow_congr (h : ∀ names, tree.kind? names = other.kind? names) (followLast : Bool)
    (links : Nat) (here pieces : List String) :
    tree.follow followLast links here pieces = other.follow followLast links here pieces := by
  induction links generalizing here pieces with
  | zero => exact followUntil_congr h _ followLast here pieces
  | succ links ih =>
    unfold follow
    rw [followUntil_congr h]
    congr 1
    funext here target rest
    exact ih _ _

/-- Paths lead to the same places in trees with the same kinds. -/
theorem locate_congr (h : ∀ names, tree.kind? names = other.kind? names) (followLast : Bool)
    (pieces : List String) : tree.locate followLast pieces = other.locate followLast pieces :=
  follow_congr h followLast maximalLinks [] pieces

/-- The link at a place. -/
def linkAt? (tree : FileNode) (names : List String) : Option String :=
  match tree.kind? names with
  | some (.link target) => some target
  | _ => none

theorem trailWith_congr (h : ∀ names, tree.linkAt? names = other.linkAt? names)
    (onLink : List String → List String → Trail) (here pieces : List String) :
    tree.trailWith onLink here pieces = other.trailWith onLink here pieces := by
  induction pieces generalizing here with
  | nil => rfl
  | cons piece pieces ih =>
    unfold trailWith
    simp only [ih]
    have hlink := h (here ++ [piece])
    unfold linkAt? kind? at hlink
    cases htree : tree.get? (here ++ [piece]) with
    | none =>
      cases hother : other.get? (here ++ [piece]) with
      | none => rfl
      | some node =>
        rw [htree, hother] at hlink
        cases node <;> simp_all [kind]
    | some node =>
      cases hother : other.get? (here ++ [piece]) with
      | none =>
        rw [htree, hother] at hlink
        cases node <;> simp_all [kind]
      | some node' =>
        rw [htree, hother] at hlink
        cases node <;> cases node' <;> simp_all [kind]

/-- Trails hang on the links of a tree only. -/
theorem trail_congr (h : ∀ names, tree.linkAt? names = other.linkAt? names) (depth : Nat)
    (pending : List (List String)) (pieces : List String) :
    tree.trail depth pending pieces = other.trail depth pending pieces := by
  induction depth generalizing pending pieces with
  | zero => rfl
  | succ depth ih =>
    unfold trail
    rw [trailWith_congr h]
    congr 1
    funext place target
    rw [ih]

/-! ## Trees of one skeleton -/

section SameSkeleton

variable (h : tree.skeleton = other.skeleton)
include h

theorem kind?_of_skeleton (names : List String) : tree.kind? names = other.kind? names := by
  have hkind (tree : FileNode) : tree.skeleton.kind? names = tree.kind? names := by
    unfold kind?
    rw [get?_skeleton, Option.map_map]
    congr 1
    exact funext kind_skeleton
  rw [← hkind tree, ← hkind other, h]

theorem size_of_skeleton : tree.size = other.size := by
  rw [← size_skeleton tree, ← size_skeleton other, h]

/-- What stands at a place has the same skeleton. -/
theorem get?_of_skeleton (names : List String) :
    (tree.get? names).map skeleton = (other.get? names).map skeleton := by
  rw [← get?_skeleton, ← get?_skeleton, h]

theorem locate_of_skeleton (followLast : Bool) (pieces : List String) :
    tree.locate followLast pieces = other.locate followLast pieces :=
  locate_congr (kind?_of_skeleton h) followLast pieces

/-- A path leads to nodes of one skeleton, or to nothing for the same reason. -/
theorem status_of_skeleton (pieces : List String) :
    (∃ error, tree.status pieces = .error error ∧ other.status pieces = .error error) ∨
      ∃ node node', tree.status pieces = .ok node ∧ other.status pieces = .ok node' ∧
        node.skeleton = node'.skeleton := by
  unfold status
  rw [locate_of_skeleton h]
  cases other.locate true pieces with
  | error error => exact .inl ⟨error, rfl, rfl⟩
  | ok place =>
    cases place with
    | missing directory name => exact .inl ⟨.notFound, rfl, rfl⟩
    | existing names =>
      have hget := get?_of_skeleton h names
      dsimp only
      cases htree : tree.get? names with
      | none =>
        cases hother : other.get? names with
        | none => exact .inl ⟨.notFound, rfl, rfl⟩
        | some node =>
          rw [htree, hother] at hget
          cases hget
      | some node =>
        cases hother : other.get? names with
        | none =>
          rw [htree, hother] at hget
          cases hget
        | some node' =>
          rw [htree, hother] at hget
          exact .inr ⟨node, node', rfl, rfl, Option.some.inj hget⟩

theorem entryExists_of_skeleton (pieces : List String) :
    tree.entryExists pieces = other.entryExists pieces := by
  unfold entryExists
  rw [locate_of_skeleton h]

theorem isDirectoryAt_of_skeleton (pieces : List String) :
    tree.isDirectoryAt pieces = other.isDirectoryAt pieces := by
  unfold isDirectoryAt
  rcases status_of_skeleton h pieces with ⟨error, ht, ho⟩ | ⟨node, node', ht, ho, hs⟩
  · rw [ht, ho]
  · rw [ht, ho]
    cases node <;> cases node' <;> first | rfl | cases hs

theorem isFileAt_of_skeleton (pieces : List String) :
    tree.isFileAt pieces = other.isFileAt pieces := by
  unfold isFileAt
  rcases status_of_skeleton h pieces with ⟨error, ht, ho⟩ | ⟨node, node', ht, ho, hs⟩
  · rw [ht, ho]
  · rw [ht, ho]
    cases node <;> cases node' <;> first | rfl | cases hs

theorem list_of_skeleton (pieces : List String) : tree.list pieces = other.list pieces := by
  unfold list
  rcases status_of_skeleton h pieces with ⟨error, ht, ho⟩ | ⟨node, node', ht, ho, hs⟩
  · rw [ht, ho]
  · rw [ht, ho]
    cases node with
    | directory entries =>
      cases node' with
      | directory entries' =>
        change entries.map (·.1) = entries'.map (·.1)
        rw [← names_skeletonEntries entries, ← names_skeletonEntries entries', directory.inj hs]
      | _ => cases hs
    | _ =>
      cases node' with
      | directory entries' => cases hs
      | _ => rfl

theorem trail_of_skeleton (depth : Nat) (pending : List (List String)) (pieces : List String) :
    tree.trail depth pending pieces = other.trail depth pending pieces := by
  refine trail_congr (fun names => ?_) depth pending pieces
  unfold linkAt?
  rw [kind?_of_skeleton h]

end SameSkeleton

end Registrar.FileNode
