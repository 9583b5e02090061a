import Registrar.Proofs.Files.Linkless
import Registrar.Proofs.Files.Reordering

/-! # Well-formed trees

A tree as a file system holds it: its names are ones that files can have, each once in
its directory, and its links lead in no circle. All places of a tree can be listed, so
a tree whose links lead over no other links is seen to be well-formed.
-/

namespace Registrar.FileNode

/-- A tree in which every name is one that a file can have and stands once in its
directory, and in which links lead in no circle. -/
structure WellFormed (tree : FileNode) : Prop where
  names : ∀ above name kind, tree.kind? (above ++ [name]) = some kind → IsFileName name
  distinct : tree.Distinct
  straight : ∀ pieces, tree.Straight pieces

mutual

/-- Where something stands in a tree. -/
def places : FileNode → List (List String)
  | .directory entries => [] :: placesEntries entries
  | .file _ | .link _ => [[]]

def placesEntries : List (String × FileNode) → List (List String)
  | [] => []
  | (name, node) :: entries => node.places.map (name :: ·) ++ placesEntries entries

end

variable {tree node : FileNode} {names here pieces : List String}

theorem mem_placesEntries {entries : List (String × FileNode)} {name : String}
    (hlookup : entries.lookup name = some node) (hnames : names ∈ node.places) :
    name :: names ∈ placesEntries entries := by
  induction entries with
  | nil => cases hlookup
  | cons entry entries ih =>
    obtain ⟨key, child⟩ := entry
    rw [placesEntries, List.mem_append]
    rw [lookup_cons] at hlookup
    split at hlookup
    next heq =>
      cases hlookup
      rw [← heq]
      exact .inl (List.mem_map_of_mem hnames)
    next => exact .inr (ih hlookup)

theorem mem_places (h : tree.get? names = some node) : names ∈ tree.places := by
  induction names generalizing tree with
  | nil => cases tree <;> exact List.mem_cons_self
  | cons name names ih =>
    cases tree with
    | directory entries =>
      obtain ⟨child, hchild, hnode⟩ := Option.bind_eq_some_iff.mp h
      exact List.mem_cons_of_mem _ (mem_placesEntries hchild (ih hnode))
    | _ => cases h

/-- A way over links that lead in no circle is none itself. -/
theorem isCircular_trailWith {onLink : List String → List String → Trail}
    (honLink : ∀ above name target, tree.linkAt? (above ++ [name]) = some target →
      (onLink (above ++ [name])
        ((if Path.isAbsoluteText target then [] else above) ++ Path.split target)).isCircular = false)
    (here pieces : List String) : (tree.trailWith onLink here pieces).isCircular = false := by
  induction pieces generalizing here with
  | nil => rfl
  | cons piece pieces ih =>
    unfold trailWith
    split
    · exact ih here
    split
    · exact ih here.dropLast
    dsimp only
    split
    next target hlink =>
      have htarget := honLink here piece target (linkAt?_of_get? hlink)
      split
      next names hcircular =>
        rw [hcircular] at htarget
        cases htarget
      next names _ => exact ih names
    next => exact ih _

/-- Links that lead over no other links lead in no circle. -/
theorem straight_of_direct
    (h : ∀ above name target, tree.linkAt? (above ++ [name]) = some target →
      (tree.trail 1 [] ((if Path.isAbsoluteText target then [] else above) ++
        Path.split target)).isCircular = false) (pieces : List String) : tree.Straight pieces := by
  refine isCircular_trailWith (fun above name target hlink => ?_) [] pieces
  have hdirect := h above name target hlink
  generalize (if Path.isAbsoluteText target then [] else above) ++ Path.split target = way
    at hdirect ⊢
  cases htrail : tree.trail 1 [] way with
  | mk names isCircular =>
    rw [htrail] at hdirect
    cases hdirect
    rw [if_neg (by simp)]
    have hlonger : tree.trail (tree.size + 1) [above ++ [name]] way = ⟨names, false⟩ :=
      trailWith_mono (fun place target names hstopped => by simp [trail] at hstopped) htrail
    rw [hlonger]

/-- A tree is seen to be well-formed at its places, if its links lead over no other links. -/
theorem wellFormed_of_places
    (hnames : ∀ place ∈ tree.places, ∀ name ∈ place, IsFileName name)
    (hdistinct : ∀ place ∈ tree.places,
      (((tree.get? place).elim [] entries).map (·.1)).Nodup)
    (hlinks : ∀ place ∈ tree.places, ∀ target ∈ tree.linkAt? place,
      (tree.trail 1 [] ((if Path.isAbsoluteText target then [] else place.dropLast) ++
        Path.split target)).isCircular = false) : tree.WellFormed where
  names above name kind hkind := by
    obtain ⟨node, hnode, -⟩ := Option.map_eq_some_iff.mp hkind
    exact hnames _ (mem_places hnode) name (by simp)
  distinct place entries hdirectory := by
    have hplace := hdistinct place (mem_places hdirectory)
    rw [hdirectory] at hplace
    exact hplace
  straight := straight_of_direct fun above name target hlink => by
    cases hnode : tree.get? (above ++ [name]) with
    | none =>
      unfold linkAt? kind? at hlink
      rw [hnode] at hlink
      cases hlink
    | some node =>
      have hplace := hlinks _ (mem_places hnode) target hlink
      rwa [List.dropLast_concat] at hplace

end Registrar.FileNode
