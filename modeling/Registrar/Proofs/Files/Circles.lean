import Mathlib.Data.Nat.Find
import Registrar.Proofs.Files.Following
import Registrar.Proofs.Files.Resolving
import Registrar.Proofs.Files.WellFormed

/-! # No circles on a way that is followed

A path that an operation can follow meets no circle of links, so that resolving it gives the names it
leads to. The links on such a way have ranks: the least number of links nested in one another that its
target is followed over. A link that is resolved while others are has a smaller rank than any of
these, hence is none of them, and there are no more of them than the tree has places.
-/

namespace Registrar.FileNode

mutual

theorem length_places : ∀ tree : FileNode, tree.places.length = tree.size
  | .file _ | .link _ => rfl
  | .directory entries => by
    rw [places, size, List.length_cons, length_placesEntries entries]

theorem length_placesEntries : ∀ entries : List (String × FileNode),
    (placesEntries entries).length = sizeEntries entries
  | [] => rfl
  | (_, node) :: entries => by
    rw [placesEntries, sizeEntries, List.length_append, List.length_map, length_places node,
      length_placesEntries entries]

end

/-- A trail over at most so many links nested in one another; that a link is met again is not looked
at. -/
def nestedTrail (tree : FileNode) : Nat → List String → Trail
  | 0, pieces => ⟨pieces, true⟩
  | depth + 1, pieces => tree.trailWith (fun _ target => nestedTrail tree depth target) [] pieces

/-- The target of a link cannot be followed over fewer nested links. -/
def RanksFrom (tree : FileNode) (rank : Nat) (place : List String) : Prop :=
  ∀ depth < rank, ∀ names, tree.nestedTrail depth (tree.targetPieces place) ≠ ⟨names, false⟩

variable {tree : FileNode} {here pieces names last : List String} {place : Place}
  {onLink onLink' : List String → List String → Trail}

theorem nestedTrail_mono {depth depth' : Nat} (hdepth : depth ≤ depth')
    (h : tree.nestedTrail depth pieces = ⟨names, false⟩) :
    tree.nestedTrail depth' pieces = ⟨names, false⟩ := by
  induction depth generalizing depth' pieces names with
  | zero => cases h
  | succ depth ih =>
    obtain ⟨depth', rfl⟩ : ∃ n, depth' = n + 1 := ⟨depth' - 1, by omega⟩
    exact trailWith_mono (fun _ _ _ => ih (by omega)) h

/-- A way that has arrived at settled names goes on from there. -/
theorem trailWith_settled (onLink : List String → List String → Trail)
    (h : tree.Settled (here ++ names)) :
    tree.trailWith onLink here (names ++ pieces) = tree.trailWith onLink (here ++ names) pieces := by
  induction names generalizing here with
  | nil => rw [List.append_nil, List.nil_append]
  | cons name names ih =>
    obtain ⟨⟨hnamed, hup⟩, hlink⟩ := h here name ⟨names, by simp⟩
    rw [List.cons_append, trailWith, if_neg (by simp [hnamed]), if_neg (by simpa using hup)]
    dsimp only
    split
    next target htarget =>
      rw [linkAt?_of_get? htarget] at hlink
      cases hlink
    next =>
      rw [ih (by simpa using h), List.append_assoc, List.singleton_append]

/-- From the root, a way that starts at settled names is followed over one level more. -/
theorem nestedTrail_settled {depth : Nat} (h : tree.Settled here) (pieces : List String) :
    tree.nestedTrail (depth + 1) (here ++ pieces) =
      tree.trailWith (fun _ => tree.nestedTrail depth) here pieces :=
  trailWith_settled _ h

theorem trailWith_enter {piece : String} (hname : IsName piece)
    (hlink : tree.linkAt? (here ++ [piece]) = none) :
    tree.trailWith onLink here (piece :: pieces) = tree.trailWith onLink (here ++ [piece]) pieces := by
  rw [trailWith, if_neg (by simp [hname.1]), if_neg (by simpa using hname.2)]
  dsimp only
  split
  next target htarget =>
    rw [linkAt?_of_get? htarget] at hlink
    cases hlink
  next => rfl

theorem trailWith_jump {piece target : String} {middle : List String} (hname : IsName piece)
    (hlink : tree.linkAt? (here ++ [piece]) = some target)
    (hmiddle : onLink (here ++ [piece]) ((if Path.isAbsoluteText target then [] else here) ++
      Path.split target) = ⟨middle, false⟩) :
    tree.trailWith onLink here (piece :: pieces) = tree.trailWith onLink middle pieces := by
  rw [trailWith, if_neg (by simp [hname.1]), if_neg (by simpa using hname.2)]
  dsimp only
  rw [get?_of_linkAt? hlink]
  dsimp only
  rw [hmiddle]

/-- What leads somewhere is followed there over some number of nested links. -/
theorem exists_nestedTrail (h : tree.Leads here pieces last) (hhere : tree.Settled here) :
    ∃ depth, tree.trailWith (fun _ => tree.nestedTrail depth) here pieces = ⟨last, false⟩ := by
  induction h with
  | done here => exact ⟨0, rfl⟩
  | skip hpiece _ ih =>
    obtain ⟨depth, htrail⟩ := ih hhere
    refine ⟨depth, ?_⟩
    rw [trailWith, if_pos (by simp [hpiece]), htrail]
  | up _ ih =>
    obtain ⟨depth, htrail⟩ := ih (hhere.above (List.dropLast_prefix _))
    exact ⟨depth, htrail⟩
  | enter hname hlink _ ih =>
    obtain ⟨depth, htrail⟩ := ih (hhere.enter hname hlink)
    exact ⟨depth, by rw [trailWith_enter hname hlink, htrail]⟩
  | @jump here rest middle last piece target hname hlink htarget _ ihtarget ihrest =>
    have hstart : tree.Settled (if Path.isAbsoluteText target then [] else here) := by
      split
      · exact settled_nil tree
      · exact hhere
    obtain ⟨first, hfirst⟩ := ihtarget hstart
    obtain ⟨second, hsecond⟩ := ihrest (htarget.settled hstart)
    have hmiddle := (nestedTrail_settled hstart (Path.split target)).trans hfirst
    refine ⟨max (first + 1) second, ?_⟩
    rw [trailWith_jump hname hlink (nestedTrail_mono (Nat.le_max_left _ _) hmiddle)]
    exact trailWith_mono (fun _ _ _ => nestedTrail_mono (Nat.le_max_right _ _)) hsecond

/-- Links that are resolved one in another, each with a rank no smaller than those within it, are
never met again, so a trail that ends over nested links ends without circles. -/
theorem trail_of_nestedTrail {depth rank : Nat} {pending : List (List String)}
    (hnodup : pending.Nodup) (hplaces : ∀ place ∈ pending, place ∈ tree.places)
    (hranks : ∀ place ∈ pending, tree.RanksFrom rank place)
    (hdepth : tree.size < depth + pending.length)
    (h : tree.nestedTrail rank pieces = ⟨names, false⟩) :
    tree.trail depth pending pieces = ⟨names, false⟩ := by
  induction rank using Nat.strongRecOn generalizing depth pending pieces names with
  | ind rank ih =>
  have hpending : pending.length ≤ tree.size := by
    rw [← length_places]
    exact hnodup.length_le_of_subset hplaces
  obtain ⟨depth, rfl⟩ : ∃ n, depth = n + 1 := ⟨depth - 1, by omega⟩
  cases rank with
  | zero => cases h
  | succ rank =>
    refine trailWith_transfer (fun place names hlink hnames => ?_) h
    -- The least number of nested links that the target of this link is followed over.
    have hsome : ∃ depth, ∃ names, tree.nestedTrail depth (tree.targetPieces place) = ⟨names, false⟩ :=
      ⟨rank, names, hnames⟩
    classical
    obtain ⟨found, hfound⟩ := Nat.find_spec hsome
    have hle : Nat.find hsome ≤ rank := Nat.find_min' hsome ⟨names, hnames⟩
    have hleast : tree.RanksFrom (Nat.find hsome) place := fun depth hless names hdepth =>
      Nat.find_min hsome hless ⟨names, hdepth⟩
    have hfresh : place ∉ pending := fun hmem =>
      hranks place hmem (Nat.find hsome) (by omega) found hfound
    obtain ⟨target, htarget⟩ := Option.isSome_iff_exists.mp hlink
    have hfoundnames : found = names := by
      have hmono := nestedTrail_mono hle hfound
      rw [hnames] at hmono
      exact (Trail.mk.inj hmono).1.symm
    rw [if_neg (by simpa using hfresh), ← hfoundnames]
    refine ih (Nat.find hsome) (by omega) (List.nodup_cons.mpr ⟨hfresh, hnodup⟩) ?_ ?_
      (by rw [List.length_cons]; omega) hfound
    · exact List.forall_mem_cons.mpr ⟨mem_places (get?_of_linkAt? htarget), hplaces⟩
    · exact List.forall_mem_cons.mpr ⟨hleast, fun other hother depth hless =>
        hranks other hother depth (by omega)⟩

/-- What leads somewhere meets no circle of links. -/
theorem straight_of_leads (h : tree.Leads [] pieces last) : tree.Straight pieces := by
  obtain ⟨depth, hnested⟩ := exists_nestedTrail h (settled_nil tree)
  replace hnested : tree.nestedTrail (depth + 1) pieces = ⟨last, false⟩ := hnested
  have htrail : tree.trail (tree.size + 2) [] pieces = ⟨last, false⟩ :=
    trail_of_nestedTrail List.nodup_nil (by simp) (by simp) (by simp) hnested
  rw [Straight, htrail]

/-- A path that an operation can follow meets no circle of links, nor did it before the tree grew. -/
theorem Grows.straight_of_locate {other : FileNode} (hgrows : tree.Grows other)
    (h : other.locate true pieces = .ok place) : tree.Straight pieces :=
  straight_of_leads ((leads_of_follow h).congr fun names => (hgrows.links names).symm)

end Registrar.FileNode
