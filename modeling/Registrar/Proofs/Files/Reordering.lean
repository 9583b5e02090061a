import Mathlib.Data.Option.Basic
import Registrar.Proofs.Files.Resolving

/-! # Reordered trees

The entries of a directory stand in no particular order. Trees that differ in these
orders only have the same kind of node at every place, so paths lead to the same
places in them and resolve alike; directories list the same names, in other orders.
-/

namespace Registrar

namespace FileNode

mutual

/-- The other tree is this one with the entries of its directories in any order. -/
def Reorders : FileNode → FileNode → Prop
  | .file content, other => other = .file content
  | .link target, other => other = .link target
  | .directory entries, other =>
    ∃ reordered others, ReordersEntries entries reordered ∧ reordered.Perm others ∧
      other = .directory others

/-- The same names in the same order, their nodes reordered. -/
def ReordersEntries : List (String × FileNode) → List (String × FileNode) → Prop
  | [], others => others = []
  | (name, node) :: entries, others =>
    ∃ reordered rest, node.Reorders reordered ∧ ReordersEntries entries rest ∧
      others = (name, reordered) :: rest

end

/-- No directory has two entries of one name. -/
def Distinct (tree : FileNode) : Prop :=
  ∀ place entries, tree.get? place = some (.directory entries) → (entries.map (·.1)).Nodup

variable {tree other : FileNode} {entries others : List (String × FileNode)} {names : List String}
  {name : String}

theorem Reorders.kind_eq (h : tree.Reorders other) : other.kind = tree.kind := by
  cases tree with
  | file content => rw [Reorders] at h; rw [h]
  | link target => rw [Reorders] at h; rw [h]
  | directory entries =>
    obtain ⟨reordered, others, -, -, rfl⟩ := h
    rfl

theorem names_of_reordersEntries (h : ReordersEntries entries others) :
    others.map (·.1) = entries.map (·.1) := by
  induction entries generalizing others with
  | nil =>
    rw [ReordersEntries] at h
    rw [h]
  | cons entry entries ih =>
    obtain ⟨name, node⟩ := entry
    obtain ⟨reordered, rest, -, hrest, rfl⟩ := h
    rw [List.map_cons, List.map_cons, ih hrest]

theorem lookup_of_reordersEntries (h : ReordersEntries entries others) (name : String) :
    Option.Rel Reorders (entries.lookup name) (others.lookup name) := by
  induction entries generalizing others with
  | nil =>
    rw [ReordersEntries] at h
    rw [h]
    exact .none
  | cons entry entries ih =>
    obtain ⟨key, node⟩ := entry
    obtain ⟨reordered, rest, hnode, hrest, rfl⟩ := h
    rw [lookup_cons, lookup_cons]
    split
    · exact .some hnode
    · exact ih hrest

/-- Of entries with distinct names the order does not matter. -/
theorem lookup_of_perm (h : entries.Perm others) (hdistinct : (entries.map (·.1)).Nodup)
    (name : String) : entries.lookup name = others.lookup name := by
  induction h with
  | nil => rfl
  | cons entry _ ih =>
    rw [lookup_cons, lookup_cons, ih (List.nodup_cons.mp hdistinct).2]
  | swap first second rest =>
    obtain ⟨key, node⟩ := first
    obtain ⟨key', node'⟩ := second
    have hne : key' ≠ key := fun heq =>
      (List.nodup_cons.mp hdistinct).1 (by rw [heq]; exact List.mem_cons_self)
    simp only [lookup_cons]
    split
    next heq => rw [if_neg (fun h => hne (heq.symm.trans h))]
    next => rfl
  | trans h _ ih ih' =>
    exact (ih hdistinct).trans (ih' ((h.map _).nodup_iff.mp hdistinct))

theorem Distinct.child (h : (directory entries).Distinct) {child : FileNode}
    (hchild : entries.lookup name = some child) : child.Distinct := by
  intro place below hplace
  refine h (name :: place) below ?_
  change (entries.lookup name).bind (get? · place) = _
  rw [hchild]
  exact hplace

/-- What stands at a place is reordered too. -/
theorem Reorders.get? (h : tree.Reorders other) (hdistinct : tree.Distinct)
    (names : List String) : Option.Rel Reorders (tree.get? names) (other.get? names) := by
  induction names generalizing tree other with
  | nil => exact .some h
  | cons name names ih =>
    cases tree with
    | directory entries =>
      obtain ⟨reordered, others, hentries, hperm, rfl⟩ := h
      have hnames : (reordered.map (·.1)).Nodup := by
        rw [names_of_reordersEntries hentries]
        exact hdistinct [] entries rfl
      have hlookup := lookup_of_reordersEntries hentries name
      rw [lookup_of_perm hperm hnames] at hlookup
      change Option.Rel _ ((entries.lookup name).bind (FileNode.get? · names))
        ((others.lookup name).bind (FileNode.get? · names))
      cases hchild : entries.lookup name with
      | none =>
        rw [hchild] at hlookup
        generalize others.lookup name = found at hlookup
        cases hlookup
        exact .none
      | some child =>
        rw [hchild] at hlookup
        generalize others.lookup name = found at hlookup
        cases hlookup with
        | some hnode => exact ih hnode (hdistinct.child hchild)
    | file content =>
      rw [Reorders] at h
      rw [h]
      exact .none
    | link target =>
      rw [Reorders] at h
      rw [h]
      exact .none

/-! ## Sizes -/

theorem sizeEntries_of_perm (h : entries.Perm others) : sizeEntries entries = sizeEntries others := by
  induction h with
  | nil => rfl
  | cons entry _ ih => rw [sizeEntries, sizeEntries, ih]
  | swap first second rest =>
    simp only [sizeEntries]
    omega
  | trans _ _ ih ih' => exact ih.trans ih'

mutual

theorem Reorders.size_eq : ∀ {tree other : FileNode}, tree.Reorders other → other.size = tree.size
  | .file _, _, h | .link _, _, h => by
    rw [Reorders] at h
    rw [h]
  | .directory _, _, h => by
    obtain ⟨reordered, others, hentries, hperm, rfl⟩ := h
    rw [size, size, ← sizeEntries_of_perm hperm, ReordersEntries.size_eq hentries]

theorem ReordersEntries.size_eq : ∀ {entries others : List (String × FileNode)},
    ReordersEntries entries others → sizeEntries others = sizeEntries entries
  | [], _, h => by
    rw [ReordersEntries] at h
    rw [h]
  | (_, _) :: _, _, h => by
    obtain ⟨reordered, rest, hnode, hrest, rfl⟩ := h
    rw [sizeEntries, sizeEntries, hnode.size_eq, ReordersEntries.size_eq hrest]

end

/-! ## Paths in reordered trees -/

section Reordered

variable (h : tree.Reorders other) (hdistinct : tree.Distinct)
include h hdistinct

theorem kind?_of_reorders (names : List String) : tree.kind? names = other.kind? names := by
  have hget := h.get? hdistinct names
  unfold kind?
  generalize tree.get? names = node at hget
  generalize other.get? names = reordered at hget
  cases hget with
  | none => rfl
  | some hnode => exact congrArg some hnode.kind_eq.symm

theorem locate_of_reorders (followLast : Bool) (pieces : List String) :
    tree.locate followLast pieces = other.locate followLast pieces :=
  locate_congr (kind?_of_reorders h hdistinct) followLast pieces

theorem trail_of_reorders (depth : Nat) (pending : List (List String)) (pieces : List String) :
    tree.trail depth pending pieces = other.trail depth pending pieces := by
  refine trail_congr (fun names => ?_) depth pending pieces
  unfold linkAt?
  rw [kind?_of_reorders h hdistinct]

/-- A path leads to reordered nodes, or to nothing for the same reason. -/
theorem status_of_reorders (pieces : List String) :
    (∃ error, tree.status pieces = .error error ∧ other.status pieces = .error error) ∨
      ∃ node node', tree.status pieces = .ok node ∧ other.status pieces = .ok node' ∧
        node.Reorders node' := by
  unfold status
  rw [locate_of_reorders h hdistinct]
  cases other.locate true pieces with
  | error error => exact .inl ⟨error, rfl, rfl⟩
  | ok place =>
    cases place with
    | missing directory name => exact .inl ⟨.notFound, rfl, rfl⟩
    | existing names =>
      have hget := h.get? hdistinct names
      dsimp only
      generalize tree.get? names = node at hget
      generalize other.get? names = reordered at hget
      cases hget with
      | none => exact .inl ⟨.notFound, rfl, rfl⟩
      | some hnode => exact .inr ⟨_, _, rfl, rfl, hnode⟩

theorem entryExists_of_reorders (pieces : List String) :
    tree.entryExists pieces = other.entryExists pieces := by
  unfold entryExists
  rw [locate_of_reorders h hdistinct]

theorem isDirectoryAt_of_reorders (pieces : List String) :
    tree.isDirectoryAt pieces = other.isDirectoryAt pieces := by
  unfold isDirectoryAt
  rcases status_of_reorders h hdistinct pieces with ⟨error, ht, ho⟩ | ⟨node, node', ht, ho, hnode⟩
  · rw [ht, ho]
  · have hkind := hnode.kind_eq
    rw [ht, ho]
    cases node <;> cases node' <;> first | rfl | cases hkind

theorem isFileAt_of_reorders (pieces : List String) :
    tree.isFileAt pieces = other.isFileAt pieces := by
  unfold isFileAt
  rcases status_of_reorders h hdistinct pieces with ⟨error, ht, ho⟩ | ⟨node, node', ht, ho, hnode⟩
  · rw [ht, ho]
  · have hkind := hnode.kind_eq
    rw [ht, ho]
    cases node <;> cases node' <;> first | rfl | cases hkind

/-- The same octets are read. -/
theorem read_of_reorders (pieces : List String) : tree.read pieces = other.read pieces := by
  unfold read
  rcases status_of_reorders h hdistinct pieces with ⟨error, ht, ho⟩ | ⟨node, node', ht, ho, hnode⟩
  · rw [ht, ho]
  · rw [ht, ho]
    cases node with
    | file content =>
      rw [Reorders] at hnode
      rw [hnode]
    | link target =>
      rw [Reorders] at hnode
      rw [hnode]
    | directory entries =>
      obtain ⟨reordered, others, -, -, rfl⟩ := hnode
      rfl

/-- The same names are listed, in another order. -/
theorem list_of_reorders (pieces : List String) :
    (tree.list pieces).Perm (other.list pieces) := by
  unfold list
  rcases status_of_reorders h hdistinct pieces with ⟨error, ht, ho⟩ | ⟨node, node', ht, ho, hnode⟩
  · rw [ht, ho]
  · rw [ht, ho]
    cases node with
    | file content =>
      rw [Reorders] at hnode
      rw [hnode]
    | link target =>
      rw [Reorders] at hnode
      rw [hnode]
    | directory entries =>
      obtain ⟨reordered, others, hentries, hperm, rfl⟩ := hnode
      dsimp only
      rw [← names_of_reordersEntries hentries]
      exact hperm.map _

end Reordered

end FileNode

/-- Paths resolve alike in reordered trees. -/
theorem Path.resolve_of_reorders {tree other : FileNode} (h : tree.Reorders other)
    (hdistinct : tree.Distinct) (working : List String) (path : Path) :
    path.resolve tree working = path.resolve other working := by
  have hdestination : path.destination tree working = path.destination other working := by
    unfold destination
    rw [h.size_eq, FileNode.trail_of_reorders h hdistinct]
  rw [resolve_eq, resolve_eq, hdestination]
  rcases FileNode.status_of_reorders h hdistinct (path.destination other working) with
    ⟨error, ht, ho⟩ | ⟨node, node', ht, ho, -⟩
  · rw [ht, ho]
  · rw [ht, ho]

end Registrar
