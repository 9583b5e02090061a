import Registrar.Proofs.Files.Resolving
import Registrar.Proofs.Files.Spelling

/-! # Trees without links

In a tree without links a path without double points leads where its names say. A
piece that is no name adds nothing, except that after it there must be a directory.
-/

namespace Registrar

open Registrar.Path (isNamed spelled)

/-- A name that a file can have. -/
structure IsFileName (name : String) : Prop where
  isName : FileNode.IsName name
  slash : '/' ∉ name.toList
  null : '\x00' ∉ name.toList

instance (name : String) : Decidable (IsFileName name) :=
  decidable_of_iff ((isNamed name = true ∧ name ≠ "..") ∧ '/' ∉ name.toList ∧ '\x00' ∉ name.toList)
    ⟨fun h => ⟨h.1, h.2.1, h.2.2⟩, fun h => ⟨h.isName, h.slash, h.null⟩⟩

namespace FileNode

/-- A tree without links, in which every name is one that a file can have. -/
structure Linkless (tree : FileNode) : Prop where
  root : tree.kind? [] = some .directory
  names : ∀ above name kind, tree.kind? (above ++ [name]) = some kind → IsFileName name
  unlinked : ∀ names target, tree.kind? names ≠ some (.link target)

variable {tree : FileNode} {here pieces front names : List String} {last : String} {kind : Kind}
  {followLast : Bool} {onLink : List String → String → List String → Except FileError Place}

theorem follows_of_directory (hup : ".." ∉ pieces)
    (h : tree.kind? (here ++ pieces.filter isNamed) = some .directory) :
    tree.Follows onLink followLast here pieces (.existing (here ++ pieces.filter isNamed)) := by
  induction pieces generalizing here with
  | nil =>
    rw [List.filter_nil, List.append_nil]
    exact .done here
  | cons piece pieces ih =>
    rw [List.mem_cons, not_or] at hup
    by_cases hnamed : isNamed piece = true
    · rw [List.filter_cons_of_pos hnamed, List.append_cons] at h ⊢
      exact .enter ⟨hnamed, Ne.symm hup.1⟩ (kind?_front h fun _ => rfl) (ih hup.2 h)
    · rw [List.filter_cons_of_neg hnamed] at h ⊢
      exact .skip (by simpa using hnamed) (ih hup.2 h)

/-- A path that ends in a name leads to what stands there, be it a file. -/
theorem follows_of_named (hup : ".." ∉ front) (hlast : IsName last)
    (h : tree.kind? (here ++ front.filter isNamed ++ [last]) = some kind)
    (hkind : ∀ target, kind ≠ .link target) :
    tree.Follows onLink followLast here (front ++ [last])
      (.existing (here ++ front.filter isNamed ++ [last])) := by
  induction front generalizing here with
  | nil =>
    rw [List.filter_nil, List.append_nil] at h ⊢
    cases kind with
    | directory => exact .enter hlast h (.done _)
    | file => exact .file hlast h
    | link target => exact absurd rfl (hkind target)
  | cons piece front ih =>
    rw [List.mem_cons, not_or] at hup
    by_cases hnamed : isNamed piece = true
    · rw [List.filter_cons_of_pos hnamed, List.append_cons here piece] at h ⊢
      have habove := h
      rw [List.append_assoc] at habove
      exact .enter ⟨hnamed, Ne.symm hup.1⟩ (kind?_front habove (by simp)) (ih hup.2 h)
    · rw [List.filter_cons_of_neg hnamed] at h ⊢
      exact .skip (by simpa using hnamed) (ih hup.2 h)

/-- What a path leads to is a directory, or the path ends in a name. -/
theorem Follows.eq_existing (hunlinked : ∀ names target, tree.kind? names ≠ some (.link target))
    {place : Place} (h : tree.Follows onLink followLast here pieces place)
    (hexisting : place = .existing names) (hup : ".." ∉ pieces)
    (hhere : tree.kind? here = some .directory) :
    names = here ++ pieces.filter isNamed ∧ (tree.kind? names = some .directory ∨
      ∃ front last, pieces = front ++ [last] ∧ isNamed last = true ∧
        tree.kind? names = some .file) := by
  have hcons {rest : List String} {piece : String}
      (h : tree.kind? names = some .directory ∨ ∃ front last, rest = front ++ [last] ∧
        isNamed last = true ∧ tree.kind? names = some .file) :
      tree.kind? names = some .directory ∨ ∃ front last, piece :: rest = front ++ [last] ∧
        isNamed last = true ∧ tree.kind? names = some .file := by
    refine h.imp_right ?_
    rintro ⟨front, last, rfl, hlast, hfile⟩
    exact ⟨piece :: front, last, rfl, hlast, hfile⟩
  induction h with
  | done here =>
    cases hexisting
    exact ⟨by simp, .inl hhere⟩
  | skip hpiece _ ih =>
    rw [List.filter_cons_of_neg (by simp [hpiece])]
    exact (ih hexisting (List.not_mem_of_not_mem_cons hup) hhere).imp_right hcons
  | up _ _ => exact absurd List.mem_cons_self hup
  | enter hname hkind _ ih =>
    rw [List.filter_cons_of_pos hname.1, List.append_cons]
    exact (ih hexisting (List.not_mem_of_not_mem_cons hup) hkind).imp_right hcons
  | missing _ _ => cases hexisting
  | file hname hkind =>
    cases hexisting
    rw [List.filter_cons_of_pos hname.1]
    exact ⟨rfl, .inr ⟨[], _, rfl, hname.1, hkind⟩⟩
  | lastLink _ hkind _ => exact absurd hkind (hunlinked _ _)
  | link _ hkind _ _ => exact absurd hkind (hunlinked _ _)

/-! ## Deciding whether there are links -/

mutual

def isLinkless : FileNode → Bool
  | .file _ => true
  | .link _ => false
  | .directory entries => areLinkless entries

def areLinkless : List (String × FileNode) → Bool
  | [] => true
  | (name, node) :: entries => decide (IsFileName name) && isLinkless node && areLinkless entries

end

theorem isLinkless_of_lookup {entries : List (String × FileNode)} {name : String} {node : FileNode}
    (h : areLinkless entries = true) (hnode : entries.lookup name = some node) :
    IsFileName name ∧ node.isLinkless = true := by
  induction entries with
  | nil => cases hnode
  | cons entry entries ih =>
    obtain ⟨key, child⟩ := entry
    rw [areLinkless, Bool.and_eq_true, Bool.and_eq_true, decide_eq_true_iff] at h
    rw [lookup_cons] at hnode
    split at hnode
    next heq =>
      cases hnode
      rw [heq]
      exact h.1
    next => exact ih h.2 hnode

theorem isLinkless_of_get? {node : FileNode} (h : tree.isLinkless = true)
    (hnode : tree.get? names = some node) :
    (∀ name ∈ names, IsFileName name) ∧ node.isLinkless = true := by
  induction names generalizing tree with
  | nil =>
    cases hnode
    exact ⟨nofun, h⟩
  | cons name names ih =>
    cases tree with
    | directory entries =>
      obtain ⟨child, hchild, hnode⟩ := Option.bind_eq_some_iff.mp hnode
      obtain ⟨hname, hlinkless⟩ := isLinkless_of_lookup h hchild
      obtain ⟨hnames, hnode⟩ := ih hlinkless hnode
      exact ⟨List.forall_mem_cons.mpr ⟨hname, hnames⟩, hnode⟩
    | _ => cases hnode

theorem linkless_of_isLinkless (hroot : tree.kind? [] = some .directory)
    (h : tree.isLinkless = true) : tree.Linkless := by
  refine ⟨hroot, fun above name kind hkind => ?_, fun names target hkind => ?_⟩
  · obtain ⟨node, hnode, -⟩ := Option.map_eq_some_iff.mp hkind
    exact (isLinkless_of_get? h hnode).1 name (by simp)
  · obtain ⟨node, hnode, hlink⟩ := Option.map_eq_some_iff.mp hkind
    have hlinkless := (isLinkless_of_get? h hnode).2
    cases node with
    | link target => cases hlinkless
    | _ => cases hlink

/-! ## Where paths lead -/

section Linkless

variable (h : tree.Linkless)
include h

/-- A path leads to a directory, or ends in a name and leads to a file. -/
theorem Linkless.locate (followLast : Bool) (hup : ".." ∉ pieces) :
    tree.locate followLast pieces = .ok (.existing names) ↔
      names = pieces.filter isNamed ∧ (tree.kind? names = some .directory ∨
        ∃ front last, pieces = front ++ [last] ∧ isNamed last = true ∧
          tree.kind? names = some .file) := by
  constructor
  · exact fun hlocate =>
      (follows_of_followUntil hlocate).eq_existing h.unlinked rfl hup h.root
  · rintro ⟨rfl, hdirectory | ⟨front, last, rfl, hlast, hfile⟩⟩
    · exact (follows_of_directory hup hdirectory).followUntil
    · rw [List.mem_append, not_or, List.mem_singleton] at hup
      rw [List.filter_append, List.filter_cons_of_pos hlast, List.filter_nil] at hfile ⊢
      exact (follows_of_named hup.1 ⟨hlast, Ne.symm hup.2⟩ hfile (by simp)).followUntil

theorem Linkless.status (hup : ".." ∉ pieces) {node : FileNode} :
    tree.status pieces = .ok node ↔ tree.get? (pieces.filter isNamed) = some node ∧
      (node.kind = .directory ∨
        ∃ front last, pieces = front ++ [last] ∧ isNamed last = true ∧ node.kind = .file) := by
  have hkind (names : List String) (kind : Kind) (hnode : tree.get? names = some node) :
      tree.kind? names = some kind ↔ node.kind = kind := by
    unfold FileNode.kind?
    rw [hnode, Option.map_some, Option.some.injEq]
  constructor
  · intro hstatus
    unfold FileNode.status at hstatus
    split at hstatus
    next => cases hstatus
    next => cases hstatus
    next names hlocate =>
      obtain ⟨rfl, hplace⟩ := (h.locate true hup).mp hlocate
      split at hstatus
      next found hfound =>
        cases hstatus
        simp only [hkind _ _ hfound] at hplace
        exact ⟨hfound, hplace⟩
      next => cases hstatus
  · rintro ⟨hnode, hplace⟩
    simp only [← hkind _ _ hnode] at hplace
    unfold FileNode.status
    rw [(h.locate true hup).mpr ⟨rfl, hplace⟩]
    dsimp only
    rw [hnode]

theorem Linkless.isDirectoryAt (hup : ".." ∉ pieces) :
    tree.isDirectoryAt pieces = true ↔
      tree.kind? (pieces.filter isNamed) = some .directory := by
  unfold FileNode.isDirectoryAt FileNode.kind?
  constructor
  · intro hdirectory
    cases hstatus : tree.status pieces with
    | error error =>
      rw [hstatus] at hdirectory
      cases hdirectory
    | ok node =>
      rw [hstatus] at hdirectory
      rw [((h.status hup).mp hstatus).1]
      cases node with
      | directory entries => rfl
      | _ => cases hdirectory
  · intro hkind
    obtain ⟨node, hnode, hdirectory⟩ := Option.map_eq_some_iff.mp hkind
    rw [(h.status hup).mpr ⟨hnode, .inl hdirectory⟩]
    cases node with
    | directory entries => rfl
    | _ => cases hdirectory

theorem Linkless.kind_cases (hkind : tree.kind? names = some kind) :
    kind = .directory ∨ kind = .file := by
  cases kind with
  | directory => exact .inl rfl
  | file => exact .inr rfl
  | link target => exact absurd hkind (h.unlinked names target)

theorem Linkless.entryExists (hup : ".." ∉ pieces) :
    tree.entryExists pieces = true ↔
      tree.kind? (pieces.filter isNamed) = some .directory ∨
        ∃ front last, pieces = front ++ [last] ∧ isNamed last = true ∧
          tree.kind? (pieces.filter isNamed) = some .file := by
  unfold FileNode.entryExists
  constructor
  · intro hexists
    split at hexists
    next names hlocate =>
      obtain ⟨rfl, hplace⟩ := (h.locate false hup).mp hlocate
      exact hplace
    next => cases hexists
  · intro hplace
    rw [(h.locate false hup).mpr ⟨rfl, hplace⟩]

/-- A directory lists what stands in it. -/
theorem Linkless.mem_list (hup : ".." ∉ pieces) {name : String} :
    name ∈ tree.list pieces ↔ (tree.kind? (pieces.filter isNamed ++ [name])).isSome := by
  unfold FileNode.list FileNode.kind?
  rw [get?_append, Option.isSome_map]
  cases hnode : tree.get? (pieces.filter isNamed) with
  | none =>
    have hstatus (entries : List (String × FileNode)) :
        tree.status pieces ≠ .ok (.directory entries) := by
      intro hstatus
      rw [((h.status hup).mp hstatus).1] at hnode
      cases hnode
    split
    next entries hdirectory => exact absurd hdirectory (hstatus entries)
    next => simp
  | some node =>
    cases node with
    | directory entries =>
      rw [(h.status hup).mpr ⟨hnode, .inl rfl⟩]
      dsimp only
      rw [← isSome_lookup_iff]
      change _ ↔ ((entries.lookup name).bind (get? · [])).isSome = true
      cases entries.lookup name <;> simp [FileNode.get?]
    | _ =>
      split
      next entries hdirectory =>
        rw [((h.status hup).mp hdirectory).1] at hnode
        cases hnode
      next =>
        rw [Option.bind_some, get?_of_entries rfl]
        simp

theorem Linkless.settled (hnames : ∀ name ∈ names, IsName name) : tree.Settled names := by
  rintro above name ⟨rest, rfl⟩
  refine ⟨hnames name (by simp), linkAt?_of_not_link (h.unlinked _)⟩

/-- The names of what stands in a tree are ones that files can have. -/
theorem Linkless.isFileName (hkind : (tree.kind? names).isSome) :
    ∀ name ∈ names, IsFileName name := by
  intro name hname
  obtain ⟨above, rest, rfl⟩ := List.append_of_mem hname
  obtain ⟨kind, hkind⟩ := Option.isSome_iff_exists.mp hkind
  cases rest with
  | nil => exact h.names above name kind hkind
  | cons first rest =>
    rw [List.append_cons] at hkind
    exact h.names above name .directory (kind?_above hkind)

theorem Linkless.up_not_mem (hkind : (tree.kind? names).isSome) : ".." ∉ names :=
  fun hup => (h.isFileName hkind _ hup).isName.2 rfl

theorem Linkless.isFileAt (hkind : tree.kind? names = some .file) :
    tree.isFileAt names = true := by
  have hnames := h.isFileName (by rw [hkind]; rfl)
  have hfilter : names.filter isNamed = names :=
    List.filter_eq_self.mpr fun name hname => (hnames name hname).isName.1
  obtain ⟨node, hnode, hfile⟩ := Option.map_eq_some_iff.mp hkind
  have hstatus : tree.status names = .ok node := by
    refine (h.status (h.up_not_mem (by rw [hkind]; rfl))).mpr ⟨by rw [hfilter, hnode], .inr ?_⟩
    rcases List.eq_nil_or_concat names with rfl | ⟨front, last, rfl⟩
    · rw [h.root] at hkind
      cases hkind
    · rw [List.concat_eq_append] at hnames ⊢
      exact ⟨front, last, rfl, (hnames last (by simp)).isName.1, hfile⟩
  unfold FileNode.isFileAt
  rw [hstatus]
  cases node with
  | file content => rfl
  | _ => cases hfile

/-- The absolute path of what stands in a tree resolves to itself. -/
theorem Linkless.resolve {path : Path} (habsolute : path.isAbsolute = true)
    (hkind : (tree.kind? path.names).isSome) (working : List String) :
    path.resolve tree working = .ok ⟨.slash, path.names⟩ := by
  have hnames := h.isFileName hkind
  exact Path.resolve_of_settled habsolute (h.settled fun name hname => (hnames name hname).isName)
    (Path.any_null_eq_false.mpr fun name hname => (hnames name hname).null)

end Linkless

end FileNode

end Registrar
