import Registrar.Proofs.Files.Resolving
import Registrar.Selection.Expand

/-! # Expansion and the octets in files

A selection expands to the same files in trees of one skeleton: no file is read on
the way. Each of these files is one, and is not the generated module.
-/

namespace Registrar

variable {tree other : FileNode}

namespace Expansion

section SameSkeleton

variable (h : tree.skeleton = other.skeleton)
include h

theorem names_of_skeleton (directoriesOnly : Bool) (directory : String) :
    names tree directoriesOnly directory = names other directoriesOnly directory := by
  unfold names
  simp only [FileNode.list_of_skeleton h, FileNode.isDirectoryAt_of_skeleton h]

theorem descendants_of_skeleton (directoriesOnly : Bool) (depth : Nat) (directory : String) :
    descendants tree directoriesOnly depth directory =
      descendants other directoriesOnly depth directory := by
  induction depth generalizing directory with
  | zero => rfl
  | succ depth ih =>
    unfold descendants
    simp only [names_of_skeleton h, ih]

theorem inDirectory_of_skeleton (directoriesOnly : Bool) (part directory : String) :
    inDirectory tree directoriesOnly part directory =
      inDirectory other directoriesOnly part directory := by
  unfold inDirectory matching depthBound
  simp only [FileNode.isDirectoryAt_of_skeleton h, FileNode.entryExists_of_skeleton h,
    FileNode.size_of_skeleton h, names_of_skeleton h, descendants_of_skeleton h]

theorem spellings_of_skeleton (fuel : Nat) (directoriesOnly : Bool) (pattern : String) :
    spellings tree fuel directoriesOnly pattern = spellings other fuel directoriesOnly pattern := by
  induction fuel generalizing directoriesOnly pattern with
  | zero => rfl
  | succ fuel ih =>
    unfold spellings
    simp only [FileNode.isDirectoryAt_of_skeleton h, FileNode.entryExists_of_skeleton h, ih,
      inDirectory_of_skeleton h]

theorem sortedSpellings_of_skeleton (pattern : String) :
    sortedSpellings tree pattern = sortedSpellings other pattern := by
  unfold sortedSpellings
  rw [spellings_of_skeleton h]

end SameSkeleton

end Expansion

namespace Selection

variable {selection : Selection} {working patterns : List String} {paths : List Path} {path : Path}

/-- A pattern that nothing matches selects nothing. -/
theorem expand_of_unmatched (pattern : String) (hincludes : selection.includes = [pattern])
    (hexcludes : selection.excludes = [])
    (hlistable : Expansion.isUnlistable (selection.anchor pattern) = false)
    (hspellings : Expansion.spellings tree ((selection.anchor pattern).length + 1) false
      (selection.anchor pattern) = []) : selection.expand tree working = .ok [] := by
  have hpattern : selection.expandPattern tree working pattern = .ok [] := by
    unfold expandPattern Expansion.sortedSpellings
    dsimp only
    rw [if_neg (by rw [hlistable]; exact Bool.false_ne_true), hspellings, List.mergeSort_nil]
    rfl
  have hincluded : selection.expandPatterns tree working [pattern] = .ok [] := by
    unfold expandPatterns
    rw [List.mapM_cons, hpattern]
    rfl
  unfold expand
  rw [hincludes, hexcludes, hincluded]
  rfl

/-- Trees of one skeleton have the same files selected. -/
theorem expand_of_skeleton (h : tree.skeleton = other.skeleton) (selection : Selection)
    (working : List String) : selection.expand tree working = selection.expand other working := by
  have hpattern : selection.expandPattern tree working = selection.expandPattern other working := by
    funext pattern
    unfold expandPattern
    simp only [Expansion.sortedSpellings_of_skeleton h, Path.resolve_of_skeleton h]
  have hpatterns (patterns : List String) :
      selection.expandPatterns tree working patterns =
        selection.expandPatterns other working patterns := by
    unfold expandPatterns
    rw [hpattern]
  unfold expand
  simp only [hpatterns, FileNode.isFileAt_of_skeleton h]

theorem mapM_eq_ok {α β ε : Type} {f : α → Except ε β} {g : α → β} {inputs : List α}
    (h : ∀ input ∈ inputs, f input = .ok (g input)) : inputs.mapM f = .ok (inputs.map g) := by
  induction inputs with
  | nil => rfl
  | cons input inputs ih =>
    rw [List.forall_mem_cons] at h
    rw [List.mapM_cons, h.1, ih h.2]
    rfl

theorem mem_of_mapM {α β ε : Type} {f : α → Except ε β} {inputs : List α} {outputs : List β}
    (h : inputs.mapM f = .ok outputs) {output : β} (houtput : output ∈ outputs) :
    ∃ input ∈ inputs, f input = .ok output := by
  induction inputs generalizing outputs with
  | nil =>
    cases h
    cases houtput
  | cons input inputs ih =>
    rw [List.mapM_cons] at h
    cases hfirst : f input with
    | error error =>
      rw [hfirst] at h
      cases h
    | ok first =>
      rw [hfirst] at h
      cases hrest : inputs.mapM f with
      | error error =>
        rw [hrest] at h
        cases h
      | ok rest =>
        rw [hrest] at h
        cases h
        rcases List.mem_cons.mp houtput with rfl | hmem
        · exact ⟨input, by simp, hfirst⟩
        · obtain ⟨found, hfound, houtput⟩ := ih hrest hmem
          exact ⟨found, List.mem_cons_of_mem _ hfound, houtput⟩

/-- Every expanded path is a resolved match of a pattern. -/
theorem mem_expandPatterns (h : selection.expandPatterns tree working patterns = .ok paths)
    (hpath : path ∈ paths) :
    ∃ pattern ∈ patterns, ∃ spelling ∈ Expansion.sortedSpellings tree (selection.anchor pattern),
      (Path.ofString spelling).resolve tree working = .ok path := by
  unfold expandPatterns at h
  cases hfound : patterns.mapM (selection.expandPattern tree working) with
  | error error =>
    rw [hfound] at h
    cases h
  | ok found =>
    rw [hfound] at h
    cases h
    obtain ⟨group, hgroup, hmem⟩ := List.mem_flatten.mp (List.mem_eraseDups.mp hpath)
    obtain ⟨pattern, hpattern, hexpand⟩ := mem_of_mapM hfound hgroup
    refine ⟨pattern, hpattern, ?_⟩
    unfold expandPattern at hexpand
    dsimp only at hexpand
    split at hexpand
    · cases hexpand
    · exact mem_of_mapM hexpand hmem

/-- The files a selection expands to are matches of include patterns and of no exclude
pattern, and none is the generated module. -/
theorem mem_expand (h : selection.expand tree working = .ok paths) :
    ∃ excluded included, selection.expandPatterns tree working selection.excludes = .ok excluded ∧
      selection.expandPatterns tree working selection.includes = .ok included ∧
      ∀ path, path ∈ paths ↔ path ∈ included ∧ path ∉ excluded ∧ some path ≠ selection.output ∧
        tree.isFileAt path.names = true := by
  unfold expand at h
  cases hexcluded : selection.expandPatterns tree working selection.excludes with
  | error error =>
    rw [hexcluded] at h
    cases h
  | ok excluded =>
    rw [hexcluded] at h
    cases hincluded : selection.expandPatterns tree working selection.includes with
    | error error =>
      rw [hincluded] at h
      cases h
    | ok included =>
      rw [hincluded] at h
      cases h
      refine ⟨excluded, included, rfl, rfl, fun path => ?_⟩
      simp [List.mem_filter, and_assoc]

end Selection

end Registrar
