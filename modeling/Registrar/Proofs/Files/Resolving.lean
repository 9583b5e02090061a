import Registrar.Proofs.Files.Writing

/-! # Resolved paths

A path that meets no circle of links resolves to settled names, and does so still
in a tree that has grown. Of the octets in files a resolved path tells nothing.
-/

namespace Registrar

/-- The pieces of a path from the root of a tree. -/
def Path.pieces (working : List String) (path : Path) : List String :=
  if path.isAbsolute then path.names else working ++ path.names

namespace FileNode

/-- A path meets no circle of links. -/
def Straight (tree : FileNode) (pieces : List String) : Prop :=
  (tree.trail (tree.size + 2) [] pieces).isCircular = false

variable {tree other : FileNode} {here pieces names working : List String} {path resolved : Path}

theorem Settled.trailWith (onLink : List String → List String → Trail)
    (h : tree.Settled (here ++ pieces)) :
    tree.trailWith onLink here pieces = ⟨here ++ pieces, false⟩ := by
  induction pieces generalizing here with
  | nil => rw [List.append_nil]; rfl
  | cons piece pieces ih =>
    obtain ⟨⟨hnamed, hup⟩, hlink⟩ := h here piece ⟨pieces, by simp⟩
    have hrest : tree.trailWith onLink (here ++ [piece]) pieces = ⟨here ++ piece :: pieces, false⟩ := by
      rw [ih (by simpa using h)]
      simp
    unfold FileNode.trailWith
    rw [if_neg (by simp [hnamed]), if_neg (by simpa using hup)]
    dsimp only
    split
    next target htarget =>
      rw [linkAt?_of_get? htarget] at hlink
      cases hlink
    next => exact hrest

theorem Settled.straight (h : tree.Settled names) : tree.Straight names := by
  have htrail : tree.trail (tree.size + 2) [] ([] ++ names) = ⟨[] ++ names, false⟩ :=
    Settled.trailWith _ h
  unfold Straight
  rw [List.nil_append] at htrail
  rw [htrail]

theorem Straight.trail (h : tree.Straight pieces) :
    ∃ names, tree.trail (tree.size + 2) [] pieces = ⟨names, false⟩ := by
  unfold Straight at h
  rcases htrail : tree.trail (tree.size + 2) [] pieces with ⟨names, isCircular⟩
  rw [htrail] at h
  cases h
  exact ⟨names, rfl⟩

theorem Straight.grows (h : tree.Straight pieces) (hgrows : tree.Grows other) :
    other.Straight pieces := by
  obtain ⟨names, htrail⟩ := h.trail
  rw [trail_congr fun names => (hgrows.links names).symm] at htrail
  unfold Straight
  rw [trail_mono (Nat.add_le_add_right hgrows.size 2) htrail]

end FileNode

namespace Path

variable {tree other : FileNode} {working : List String} {path resolved : Path}

/-- The names a path has once it is resolved. -/
def destination (tree : FileNode) (working : List String) (path : Path) : List String :=
  normalize (tree.trail (tree.size + 2) [] (path.pieces working)).names

theorem any_null_eq_false {names : List String} :
    names.any (·.toList.contains '\x00') = false ↔ ∀ name ∈ names, '\x00' ∉ name.toList := by
  simp

theorem mem_normalize {names : List String} {name : String} (h : name ∈ normalize names) :
    FileNode.IsName name ∧ name ∈ names := by
  have hfold (names done : List String) (hmem : name ∈ names.foldl (fun (done : List String) name =>
      if name == ".." then done.drop 1
      else if isNamed name then name :: done
      else done) done) : name ∈ done ∨ FileNode.IsName name ∧ name ∈ names := by
    induction names generalizing done with
    | nil => exact .inl hmem
    | cons first names ih =>
      rcases ih _ hmem with hdone | ⟨hname, hrest⟩
      · dsimp only at hdone
        split at hdone
        next => exact .inl (List.mem_of_mem_drop hdone)
        next hup =>
          split at hdone
          next hnamed =>
            rcases List.mem_cons.mp hdone with rfl | hdone
            · exact .inr ⟨⟨hnamed, by simpa using hup⟩, List.mem_cons_self⟩
            · exact .inl hdone
          next => exact .inl hdone
      · exact .inr ⟨hname, List.mem_cons_of_mem _ hrest⟩
  rcases hfold names [] (List.mem_reverse.mp h) with hnil | hname
  · cases hnil
  · exact hname

theorem resolve_eq (tree : FileNode) (working : List String) (path : Path) :
    path.resolve tree working =
      if path.names.any (·.toList.contains '\x00') then .error .nullCharacter
      else match tree.status (path.destination tree working) with
        | .error .tooManyLinks => .error .circular
        | _ => .ok ⟨.slash, path.destination tree working⟩ := rfl

theorem resolve_eq_ok_iff :
    path.resolve tree working = .ok resolved ↔
      path.names.any (·.toList.contains '\x00') = false ∧
      tree.status (path.destination tree working) ≠ .error .tooManyLinks ∧
      resolved = ⟨.slash, path.destination tree working⟩ := by
  rw [resolve_eq]
  split
  next hnull => exact ⟨nofun, fun h => absurd (h.1.symm.trans hnull) Bool.false_ne_true⟩
  next hnull =>
    rw [Bool.not_eq_true] at hnull
    split
    next hmany => exact ⟨nofun, fun h => absurd hmany h.2.1⟩
    next hmany =>
      refine ⟨fun h => ⟨hnull, hmany, (Except.ok.inj h).symm⟩, fun h => ?_⟩
      rw [h.2.2]

/-- Trees of one skeleton resolve paths alike. -/
theorem resolve_of_skeleton (h : tree.skeleton = other.skeleton) (working : List String)
    (path : Path) : path.resolve tree working = path.resolve other working := by
  have hdestination : path.destination tree working = path.destination other working := by
    unfold destination
    rw [FileNode.size_of_skeleton h, FileNode.trail_of_skeleton h]
  rw [resolve_eq, resolve_eq, hdestination]
  rcases FileNode.status_of_skeleton h (path.destination other working) with
    ⟨error, htree, hother⟩ | ⟨node, node', htree, hother, -⟩ <;> rw [htree, hother]

/-- A resolved path has settled names, to which the path leads. -/
theorem settled_of_resolve (hstraight : tree.Straight (path.pieces working))
    (h : path.resolve tree working = .ok resolved) :
    resolved.root = .slash ∧ tree.Settled resolved.names ∧
      tree.Leads [] (path.pieces working) resolved.names := by
  obtain ⟨-, -, rfl⟩ := resolve_eq_ok_iff.mp h
  obtain ⟨names, htrail⟩ := hstraight.trail
  have hleads := FileNode.leads_of_trail htrail
  have hsettled := hleads.settled (FileNode.settled_nil tree)
  unfold destination
  rw [htrail, hsettled.normalize]
  exact ⟨rfl, hsettled, hleads⟩

/-- A resolved path resolves alike in a tree that has grown. -/
theorem resolve_of_grows (hgrows : tree.Grows other)
    (hstraight : tree.Straight (path.pieces working))
    (h : path.resolve tree working = .ok resolved) : path.resolve other working = .ok resolved := by
  obtain ⟨hroot, hsettled, hleads⟩ := settled_of_resolve hstraight h
  obtain ⟨hnull, -, hresolved⟩ := resolve_eq_ok_iff.mp h
  obtain ⟨names, htrail⟩ := hstraight.trail
  have htrail' : other.trail (other.size + 2) [] (path.pieces working) = ⟨names, false⟩ := by
    rw [FileNode.trail_congr hgrows.links]
    exact FileNode.trail_mono (Nat.add_le_add_right hgrows.size 2) htrail
  have hdestination : path.destination other working = path.destination tree working := by
    unfold destination
    rw [htrail, htrail']
  rw [resolve_eq_ok_iff, hdestination]
  refine ⟨hnull, ?_, hresolved⟩
  rw [hresolved] at hsettled
  exact (hsettled.congr hgrows.links).status

/-- A settled path resolves to its names. -/
theorem resolve_of_settled (habsolute : path.isAbsolute = true) (h : tree.Settled path.names)
    (hnull : path.names.any (·.toList.contains '\x00') = false) :
    path.resolve tree working = .ok ⟨.slash, path.names⟩ := by
  have hdestination : path.destination tree working = path.names := by
    have htrail : tree.trail (tree.size + 2) [] ([] ++ path.names) = ⟨[] ++ path.names, false⟩ :=
      FileNode.Settled.trailWith _ h
    rw [List.nil_append] at htrail
    unfold destination pieces
    rw [if_pos habsolute, htrail, h.normalize]
  rw [resolve_eq_ok_iff, hdestination]
  exact ⟨hnull, h.status, rfl⟩

end Path

end Registrar
