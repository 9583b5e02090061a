import Mathlib.Tactic.Common
import Registrar.Files.Tree

/-! # Nodes and their kinds

Where a path leads hangs on the kinds of the nodes on the way, not on the octets
in files. Putting a node without entries at a place changes the kind there and
nowhere else. A skeleton is a tree without the octets.
-/

namespace Registrar.FileNode

/-- What a node is, without what is in it. -/
inductive Kind
  | file
  | link (target : String)
  | directory
  deriving DecidableEq

def kind : FileNode → Kind
  | .file _ => .file
  | .link target => .link target
  | .directory _ => .directory

/-- The kind of what stands at a place. -/
def kind? (tree : FileNode) (names : List String) : Option Kind := (tree.get? names).map kind

variable {tree new : FileNode} {name : String} {names parent other : List String}

theorem get?_append (tree : FileNode) (names more : List String) :
    tree.get? (names ++ more) = (tree.get? names).bind (·.get? more) := by
  induction names generalizing tree with
  | nil => rfl
  | cons name names ih =>
    simp only [List.cons_append, get?]
    cases tree.entries.lookup name with
    | none => rfl
    | some child => exact ih child

theorem get?_of_entries (h : tree.entries = []) : tree.get? (name :: names) = none := by
  unfold get?
  rw [h]
  rfl

theorem entries_of_kind (h : tree.kind ≠ .directory) : tree.entries = [] := by
  cases tree with
  | directory entries => exact absurd rfl h
  | _ => rfl

/-- Nothing stands below what is no directory. -/
theorem get?_below (h : tree.kind? names ≠ some .directory) (more : List String) :
    tree.get? (names ++ name :: more) = none := by
  rw [get?_append]
  unfold kind? at h
  cases hnode : tree.get? names with
  | none => rfl
  | some node =>
    refine get?_of_entries (entries_of_kind fun hkind => h ?_)
    rw [hnode, Option.map_some, hkind]

/-- Above everything that exists there are directories. -/
theorem kind?_above {kind : Kind} (h : tree.kind? (names ++ name :: other) = some kind) :
    tree.kind? names = some .directory := by
  by_contra hkind
  unfold kind? at h
  rw [get?_below hkind] at h
  cases h

theorem kind?_front {kind : Kind} (h : tree.kind? (names ++ other) = some kind)
    (hempty : other = [] → kind = .directory) : tree.kind? names = some .directory := by
  cases other with
  | nil =>
    rw [List.append_nil] at h
    rw [h, hempty rfl]
  | cons name other => exact kind?_above h

theorem lookup_cons (key : String) (node : FileNode) (entries : List (String × FileNode))
    (other : String) :
    List.lookup other ((key, node) :: entries) =
      if other = key then some node else entries.lookup other := by
  rw [List.lookup_cons]
  by_cases h : other = key
  · rw [if_pos h, beq_iff_eq.mpr h]
  · rw [if_neg h, beq_eq_false_iff_ne.mpr h]

theorem isSome_lookup_iff {entries : List (String × FileNode)} :
    (entries.lookup name).isSome ↔ name ∈ entries.map (·.1) := by
  induction entries with
  | nil => simp
  | cons entry entries ih =>
    obtain ⟨key, node⟩ := entry
    rw [List.map_cons, List.mem_cons, ← ih, lookup_cons]
    split
    next heq => simp [heq]
    next hne => simp [hne]

theorem lookup_setEntry (entries : List (String × FileNode)) (name other : String)
    (node : FileNode) :
    (setEntry name node entries).lookup other =
      if other = name then some node else entries.lookup other := by
  induction entries with
  | nil => exact lookup_cons name node [] other
  | cons entry entries ih =>
    obtain ⟨key, value⟩ := entry
    by_cases hkey : key = name
    · subst key
      simp only [setEntry, beq_self_eq_true, if_true, lookup_cons]
      split <;> rfl
    · simp only [setEntry, beq_eq_false_iff_ne.mpr hkey, Bool.false_eq_true, if_false,
        lookup_cons, ih]
      by_cases hother : other = name
      · subst other
        rw [if_neg (Ne.symm hkey), if_pos rfl, if_pos rfl]
      · rw [if_neg hother, if_neg hother]

theorem get?_setEntry (entries : List (String × FileNode)) (node : FileNode)
    (other : String) (names : List String) :
    (directory (setEntry name node entries)).get? (other :: names) =
      if other = name then node.get? names else (directory entries).get? (other :: names) := by
  change ((setEntry name node entries).lookup other).bind _ = _
  rw [lookup_setEntry]
  split <;> rfl

/-! ## Sizes -/

theorem size_le_of_lookup {entries : List (String × FileNode)} {child : FileNode}
    (h : entries.lookup name = some child) : child.size ≤ sizeEntries entries := by
  induction entries with
  | nil => cases h
  | cons entry entries ih =>
    obtain ⟨key, node⟩ := entry
    rw [lookup_cons] at h
    rw [sizeEntries]
    split at h
    next =>
      cases h
      exact Nat.le_add_right _ _
    next => exact Nat.le_trans (ih h) (Nat.le_add_left _ _)

/-- A tree has more nodes than its places have names. -/
theorem length_lt_size {node : FileNode} (h : tree.get? names = some node) :
    names.length < tree.size := by
  induction names generalizing tree with
  | nil => cases tree <;> exact Nat.succ_pos _
  | cons name names ih =>
    cases tree with
    | directory entries =>
      obtain ⟨child, hchild, hnode⟩ := Option.bind_eq_some_iff.mp h
      have hlength := ih hnode
      have hsize : child.size ≤ sizeEntries entries := size_le_of_lookup hchild
      rw [List.length_cons, size]
      omega
    | _ => cases h

/-! ## Putting a node at a place -/

theorem get?_put_self (h : tree.kind? parent = some .directory) :
    (tree.put new (parent ++ [name])).get? (parent ++ [name]) = some new := by
  induction parent generalizing tree with
  | nil =>
    cases tree with
    | directory entries =>
      change (directory (setEntry name new entries)).get? [name] = _
      rw [get?_setEntry, if_pos rfl]
      rfl
    | _ => cases h
  | cons first parent ih =>
    cases tree with
    | directory entries =>
      change (directory (setEntry first _ entries)).get? (first :: (parent ++ [name])) = _
      rw [get?_setEntry, if_pos rfl]
      change ((entries.lookup first).bind (get? · parent)).map kind = _ at h
      cases hchild : entries.lookup first with
      | none =>
        rw [hchild] at h
        cases h
      | some child =>
        rw [hchild] at h
        exact ih h
    | _ => cases h

/-- Putting a node where nothing stands below leaves other places alone, but for the
directories above. -/
theorem get?_put_ne (hparent : tree.kind? parent = some .directory)
    (hplace : tree.kind? (parent ++ [name]) ≠ some .directory) (hnew : new.entries = [])
    (hother : ¬other <+: parent ++ [name]) :
    (tree.put new (parent ++ [name])).get? other = tree.get? other := by
  induction parent generalizing tree other with
  | nil =>
    cases other with
    | nil => exact absurd (List.nil_prefix) hother
    | cons first other =>
      cases tree with
      | directory entries =>
        change (directory (setEntry name new entries)).get? (first :: other) = _
        rw [get?_setEntry]
        split
        next heq =>
          subst first
          cases other with
          | nil => exact absurd (List.prefix_refl _) hother
          | cons second other =>
            rw [get?_of_entries hnew]
            exact (get?_below hplace other).symm
        next => rfl
      | _ => cases hparent
  | cons top parent ih =>
    cases other with
    | nil => exact absurd (List.nil_prefix) hother
    | cons first other =>
      cases tree with
      | directory entries =>
        change (directory (setEntry top _ entries)).get? (first :: other) = _
        rw [get?_setEntry]
        split
        next heq =>
          subst first
          change ((entries.lookup top).bind (get? · parent)).map kind = _ at hparent
          change ((entries.lookup top).bind (get? · (parent ++ [name]))).map kind ≠ _ at hplace
          change _ = (entries.lookup top).bind (get? · other)
          cases hchild : entries.lookup top with
          | none =>
            rw [hchild] at hparent
            cases hparent
          | some child =>
            rw [hchild] at hparent hplace
            refine ih hparent hplace fun hstart => hother ?_
            exact List.cons_prefix_cons.mpr ⟨rfl, hstart⟩
        next => rfl
      | _ => cases hparent

theorem kind?_put_above (hparent : tree.kind? parent = some .directory)
    (hother : other <+: parent) : (tree.put new (parent ++ [name])).kind? other = some .directory := by
  obtain ⟨rest, rfl⟩ := hother
  have hself : (tree.put new (other ++ rest ++ [name])).kind? (other ++ rest ++ [name]) =
      some new.kind := by
    unfold kind?
    rw [get?_put_self hparent]
    rfl
  rw [List.append_assoc] at hself ⊢
  cases rest with
  | nil => exact kind?_above hself
  | cons first rest => exact kind?_above hself

/-- Putting a node without entries where nothing stands below changes one kind. -/
theorem kind?_put (hparent : tree.kind? parent = some .directory)
    (hplace : tree.kind? (parent ++ [name]) ≠ some .directory) (hnew : new.entries = []) :
    (tree.put new (parent ++ [name])).kind? other =
      if other = parent ++ [name] then some new.kind else tree.kind? other := by
  split
  next heq =>
    subst other
    unfold kind?
    rw [get?_put_self hparent]
    rfl
  next hne =>
    by_cases hstart : other <+: parent ++ [name]
    · have habove : other <+: parent := by
        rcases List.prefix_concat_iff.mp hstart with heq | habove
        · exact absurd heq hne
        · exact habove
      rw [kind?_put_above hparent habove]
      obtain ⟨rest, rfl⟩ := habove
      cases rest with
      | nil => rw [List.append_nil] at hparent; exact hparent.symm
      | cons first rest => exact (kind?_above hparent).symm
    · unfold kind?
      rw [get?_put_ne hparent hplace hnew hstart]

end Registrar.FileNode
