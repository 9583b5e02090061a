import Registrar.Proofs.Files.WellFormed
import Registrar.Proofs.Selection.Expansion
import Registrar.Proofs.Selection.Globbing

/-! # Spellings that lead somewhere

What a pattern finds in a tree is spelled by names that are in the tree, by literal
parts that were looked up, and by what stands before the first wildcard. No name in
a tree has a null character, so every path found can be resolved, as long as the
directory the search starts in can be listed and no links lead in a circle.
-/

namespace Registrar

open Registrar.Path (spelled isNamed)

/-- No name holds a null character. -/
def FreeOfNull (names : List String) : Prop := ∀ name ∈ names, '\x00' ∉ name.toList

namespace FileNode

variable {tree : FileNode} {here pieces names : List String} {place : Place}

section Named

variable (hnames : ∀ above name kind, tree.kind? (above ++ [name]) = some kind → IsFileName name)
include hnames

/-- A path that leads to something is spelled without null characters. -/
theorem Follows.freeOfNull {onLink : List String → String → List String → Except FileError Place}
    {followLast : Bool}
    (honLink : ∀ here target rest names, onLink here target rest = .ok (.existing names) →
      FreeOfNull rest)
    (h : tree.Follows onLink followLast here pieces place) (hplace : place = .existing names) :
    FreeOfNull pieces := by
  induction h with
  | done here => exact List.forall_mem_nil _
  | @skip here rest piece place hpiece _ ih =>
    have hnull : '\x00' ∉ piece.toList := by
      rcases piece_cases piece with hunnamed | rfl | hname
      · simp only [isNamed, Bool.and_eq_false_iff, bne_eq_false_iff_eq] at hunnamed
        rcases hunnamed with rfl | rfl <;> decide
      · decide
      · rw [hname.1] at hpiece
        cases hpiece
    exact List.forall_mem_cons.mpr ⟨hnull, ih hplace⟩
  | up _ ih => exact List.forall_mem_cons.mpr ⟨by decide, ih hplace⟩
  | enter _ hkind _ ih =>
    exact List.forall_mem_cons.mpr ⟨(hnames _ _ _ hkind).null, ih hplace⟩
  | missing _ _ => cases hplace
  | file _ hkind => exact List.forall_mem_cons.mpr ⟨(hnames _ _ _ hkind).null, List.forall_mem_nil _⟩
  | lastLink _ hkind _ =>
    exact List.forall_mem_cons.mpr ⟨(hnames _ _ _ hkind).null, List.forall_mem_nil _⟩
  | link _ hkind _ hlink =>
    rw [hplace] at hlink
    exact List.forall_mem_cons.mpr ⟨(hnames _ _ _ hkind).null, honLink _ _ _ _ hlink⟩

theorem freeOfNull_of_follow {followLast : Bool} {links : Nat}
    (h : tree.follow followLast links here pieces = .ok (.existing names)) : FreeOfNull pieces := by
  induction links generalizing here pieces names with
  | zero =>
    unfold follow at h
    exact (follows_of_followUntil h).freeOfNull hnames (fun _ _ _ _ hlink => by cases hlink) rfl
  | succ links ih =>
    unfold follow at h
    refine (follows_of_followUntil h).freeOfNull hnames (fun here target rest names hlink => ?_) rfl
    have hpieces := ih hlink
    exact fun name hname => hpieces name (List.mem_append_right _ hname)

theorem freeOfNull_of_entryExists (h : tree.entryExists pieces = true) : FreeOfNull pieces := by
  unfold entryExists at h
  split at h
  next names hlocate => exact freeOfNull_of_follow hnames hlocate
  next => cases h

theorem freeOfNull_of_isDirectoryAt (h : tree.isDirectoryAt pieces = true) :
    FreeOfNull pieces := by
  unfold isDirectoryAt status at h
  cases hlocate : tree.locate true pieces with
  | error error =>
    rw [hlocate] at h
    cases h
  | ok place =>
    cases place with
    | missing directory name =>
      rw [hlocate] at h
      cases h
    | existing names => exact freeOfNull_of_follow hnames hlocate

theorem isFileName_of_mem_list {name : String} (h : name ∈ tree.list pieces) : IsFileName name := by
  unfold list at h
  split at h
  next entries hstatus =>
    unfold status at hstatus
    split at hstatus
    next => cases hstatus
    next => cases hstatus
    next place _ =>
      split at hstatus
      next node hnode =>
        cases hstatus
        obtain ⟨child, hchild⟩ := Option.isSome_iff_exists.mp (isSome_lookup_iff.mpr h)
        refine hnames place name child.kind ?_
        unfold kind?
        rw [get?_append, hnode, Option.bind_some]
        change ((entries.lookup name).bind (get? · [])).map kind = _
        rw [hchild]
        rfl
      next => cases hstatus
  next => cases h

end Named

end FileNode

/-- A path resolves to where it leads when no links on it lead in a circle. -/
theorem Path.resolve_of_straight {tree : FileNode} {working : List String} {path : Path}
    (hstraight : tree.Straight (path.pieces working)) (hnull : FreeOfNull path.names) :
    path.resolve tree working = .ok ⟨.slash, path.destination tree working⟩ := by
  obtain ⟨names, htrail⟩ := hstraight.trail
  have hsettled : tree.Settled names :=
    (FileNode.leads_of_trail htrail).settled (FileNode.settled_nil tree)
  have hdestination : path.destination tree working = names := by
    unfold destination
    rw [htrail]
    exact hsettled.normalize
  refine resolve_eq_ok_iff.mpr ⟨any_null_eq_false.mpr hnull, ?_, rfl⟩
  rw [hdestination]
  exact hsettled.status

namespace Expansion

variable {tree : FileNode} {directoriesOnly : Bool} {directory part pattern found : String}

theorem freeOfNull_below (hdirectory : FreeOfNull (spelled directory))
    (hfound : FreeOfNull (spelled found)) : FreeOfNull (spelled (below directory found)) := by
  rw [spelled_below]
  exact fun name hname => (List.mem_append.mp hname).elim (hdirectory name) (hfound name)

theorem freeOfNull_of_isFileName (h : IsFileName found) : FreeOfNull (spelled found) := by
  rw [Path.spelled_name h.slash h.isName.1]
  exact List.forall_mem_singleton.mpr h.null

theorem freeOfNull_of_split (h : FreeOfNull (Path.split found)) : FreeOfNull (spelled found) :=
  fun name hname => h name (List.mem_filter.mp hname).1

/-! ## Where a search starts -/

theorem splitLast_prefix (letters : List Char) : (splitLast letters).1 <+: letters := by
  unfold splitLast
  dsimp only
  have hdrop : letters.reverse.dropWhile (· != '/') <:+ letters.reverse := List.dropWhile_suffix _
  rw [← List.reverse_suffix, List.reverse_reverse]
  split
  · exact hdrop
  · exact (List.dropWhile_suffix _).trans hdrop

/-- The search for the directories of a pattern starts where that for the pattern does. -/
theorem isUnlistable_headOf (hwildcard : hasWildcard (headOf pattern) = true) :
    isUnlistable (headOf pattern) = isUnlistable pattern := by
  obtain ⟨rest, hrest⟩ := splitLast_prefix pattern.toList
  have hhead : (headOf pattern).toList = (splitLast pattern.toList).1 := String.toList_ofList
  rw [← hhead] at hrest
  have hliteral : (headOf pattern).toList.takeWhile (fun c => !isWildcardChar c) =
      pattern.toList.takeWhile fun c => !isWildcardChar c := by
    rw [← hrest, List.takeWhile_append, if_neg]
    intro hlength
    have hall := List.takeWhile_eq_self_iff.mp ((List.takeWhile_prefix _).eq_of_length hlength)
    unfold hasWildcard at hwildcard
    obtain ⟨c, hc, hcwild⟩ := List.any_eq_true.mp hwildcard
    simpa [hcwild] using hall c hc
  have hpattern : hasWildcard pattern = true := by
    unfold hasWildcard at hwildcard ⊢
    rw [← hrest, List.any_append, hwildcard, Bool.true_or]
  unfold isUnlistable
  dsimp only
  rw [hwildcard, hpattern, hliteral]

theorem wildcard_not_mem_front {front last : List Char} (hlast : '/' ∉ last)
    (h : (splitLast (front ++ '/' :: last)).1.any isWildcardChar = false) :
    ∀ c ∈ front, isWildcardChar c = false := by
  intro c hc
  rw [splitLast_append_slash hlast, List.any_eq_false] at h
  dsimp only at h
  split at h
  next => simpa using h c (List.mem_append_left _ hc)
  next =>
    rw [← List.mem_reverse, ← List.takeWhile_append_dropWhile (l := front.reverse) (p := (· == '/')),
      List.mem_append] at hc
    rcases hc with hslash | hrest
    · have heq : (c == '/') = true := List.mem_takeWhile_imp (p := (· == '/')) hslash
      rw [eq_of_beq heq]
      decide
    · simpa using h c (List.mem_reverse.mpr hrest)

/-- A search that starts in the directory of its pattern lists it. -/
theorem null_not_mem_headOf (hlistable : isUnlistable pattern = false)
    (hwildcard : hasWildcard pattern = true) (hhead : hasWildcard (headOf pattern) = false) :
    '\x00' ∉ (headOf pattern).toList := by
  have htoList : (headOf pattern).toList = (splitLast pattern.toList).1 := String.toList_ofList
  unfold isUnlistable at hlistable
  dsimp only at hlistable
  rw [hwildcard, Bool.true_and] at hlistable
  unfold hasWildcard at hhead
  rw [htoList] at hhead ⊢
  suffices hsplit : (splitLast (pattern.toList.takeWhile fun c => !isWildcardChar c)).1 =
      (splitLast pattern.toList).1 by
    rw [hsplit] at hlistable
    simpa using hlistable
  generalize pattern.toList = letters at hhead ⊢
  by_cases hslash : '/' ∈ letters
  · obtain ⟨front, last, rfl, hlast⟩ := exists_last_slash hslash
    have hstart := List.takeWhile_prefix (fun c => !isWildcardChar c) (l := last)
    have hfront := wildcard_not_mem_front hlast hhead
    rw [List.takeWhile_append_of_pos (by simpa using hfront), List.takeWhile_cons_of_pos (by decide),
      splitLast_append_slash hlast, splitLast_append_slash fun hmem => hlast (hstart.subset hmem)]
  · have hstart := List.takeWhile_prefix (fun c => !isWildcardChar c) (l := letters)
    rw [splitLast_of_not_mem hslash, splitLast_of_not_mem fun hmem => hslash (hstart.subset hmem)]

/-! ## What is found -/

section Named

variable (hnames : ∀ above name kind, tree.kind? (above ++ [name]) = some kind → IsFileName name)
include hnames

theorem isFileName_of_mem_names (h : found ∈ names tree directoriesOnly directory) :
    IsFileName found := by
  unfold names at h
  dsimp only at h
  split at h
  · exact FileNode.isFileName_of_mem_list hnames (List.mem_filter.mp h).1
  · exact FileNode.isFileName_of_mem_list hnames h

theorem freeOfNull_of_mem_descendants {depth : Nat}
    (h : found ∈ descendants tree directoriesOnly depth directory) : FreeOfNull (spelled found) := by
  induction depth generalizing directory found with
  | zero => cases h
  | succ depth ih =>
    unfold descendants at h
    obtain ⟨name, hname, hfound⟩ := List.mem_flatMap.mp h
    have hlisted := freeOfNull_of_isFileName
      (isFileName_of_mem_names hnames (List.mem_filter.mp hname).1)
    rcases List.mem_cons.mp hfound with rfl | hbelow
    · exact hlisted
    · obtain ⟨rest, hrest, rfl⟩ := List.mem_map.mp hbelow
      exact freeOfNull_below hlisted (ih hrest)

theorem freeOfNull_of_mem_inDirectory (h : found ∈ inDirectory tree directoriesOnly part directory) :
    FreeOfNull (spelled found) := by
  have hempty (b : Bool) (h : found ∈ if b then [""] else []) : FreeOfNull (spelled found) := by
    cases b with
    | true =>
      rw [List.mem_singleton.mp h]
      exact List.forall_mem_nil _
    | false => cases h
  unfold inDirectory at h
  split at h
  · rcases List.mem_append.mp h with hself | hbelow
    · exact hempty _ hself
    · exact freeOfNull_of_mem_descendants hnames hbelow
  · split at h
    · exact freeOfNull_of_isFileName (isFileName_of_mem_names hnames (List.mem_filter.mp h).1)
    · split at h
      · exact hempty _ h
      · split at h
        next hexists =>
          rw [List.mem_singleton.mp h]
          have hspelled := freeOfNull_of_split (FileNode.freeOfNull_of_entryExists hnames hexists)
          rw [spelled_below] at hspelled
          exact fun name hname => hspelled name (List.mem_append_right _ hname)
        next => cases h

/-- What a pattern finds is spelled without null characters if its search can start. -/
theorem freeOfNull_of_mem_spellings {fuel : Nat} (hlistable : isUnlistable pattern = false)
    (h : found ∈ spellings tree fuel directoriesOnly pattern) : FreeOfNull (spelled found) := by
  induction fuel generalizing directoriesOnly pattern found with
  | zero => cases h
  | succ fuel ih =>
    cases hwildcard : hasWildcard pattern with
    | true =>
      obtain ⟨directory, hdirectory, more, hmore, rfl⟩ := (mem_spellings_wildcard hwildcard).mp h
      refine freeOfNull_below ?_ (freeOfNull_of_mem_inDirectory hnames hmore)
      unfold heads at hdirectory
      split at hdirectory
      next hhead => exact ih ((isUnlistable_headOf hhead).trans hlistable) hdirectory
      next hhead =>
        rw [List.mem_singleton.mp hdirectory]
        have hnull := null_not_mem_headOf hlistable hwildcard (by simpa using hhead)
        exact fun name hname hc => hnull (Path.mem_of_mem_spelled hname hc)
    | false =>
      obtain ⟨rfl, hfound⟩ := (mem_spellings_literal hwildcard).mp h
      split at hfound
      next hlast =>
        rw [spelled_pattern, eq_of_beq hlast]
        have hhead := freeOfNull_of_split (FileNode.freeOfNull_of_isDirectoryAt hnames hfound)
        exact fun name hname => (List.mem_append.mp hname).elim (hhead name) nofun
      next => exact freeOfNull_of_split (FileNode.freeOfNull_of_entryExists hnames hfound)

end Named

end Expansion

namespace Selection

variable {tree : FileNode} {selection : Selection} {pattern : String}

/-- The path that a spelling resolves to. -/
def place (tree : FileNode) (working : List String) (spelling : String) : Path :=
  ⟨.slash, (Path.ofString spelling).destination tree working⟩

theorem resolve_of_mem_spellings (hwell : tree.WellFormed)
    (hlistable : Expansion.isUnlistable (selection.anchor pattern) = false) (working : List String)
    {spelling : String} (h : spelling ∈ Expansion.sortedSpellings tree (selection.anchor pattern)) :
    (Path.ofString spelling).resolve tree working = .ok (place tree working spelling) := by
  unfold Expansion.sortedSpellings at h
  rw [List.mem_mergeSort] at h
  exact Path.resolve_of_straight (hwell.straight _)
    (Expansion.freeOfNull_of_mem_spellings hwell.names hlistable h)

/-- A pattern whose search can start expands to all that it finds. -/
theorem expandPattern_of_listable (hwell : tree.WellFormed)
    (hlistable : Expansion.isUnlistable (selection.anchor pattern) = false) (working : List String) :
    selection.expandPattern tree working pattern =
      .ok ((Expansion.sortedSpellings tree (selection.anchor pattern)).map (place tree working)) := by
  unfold expandPattern
  dsimp only
  rw [if_neg (by simp [hlistable])]
  exact mapM_eq_ok fun spelling hspelling => resolve_of_mem_spellings hwell hlistable working hspelling

end Selection

end Registrar
