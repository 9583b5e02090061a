import Registrar.Proofs.Files.Linkless
import Registrar.Proofs.Selection.Cutting
import Registrar.Proofs.Selection.Segments

/-! # What patterns expand to

In a tree without links a pattern without double points expands to the directories
whose names its parts match, and to the files whose names they match with a name
left for the last part, which must be a name itself.
-/

namespace Registrar.Expansion

open Registrar.Path (spelled isNamed)
open FileNode (Kind Linkless)
open Segments (accepts)

variable {tree : FileNode} {directoriesOnly : Bool} {directory part name : String}
  {added place : List String} {kind : Kind}

theorem partMatches_of_wildcard (h : hasWildcard part = true) :
    Segments.partMatches part name =
      ((isHidden part || !isHidden name) && wildcardMatches part name) := by
  unfold Segments.partMatches
  rw [h]
  cases isHidden part <;> cases isHidden name <;> rfl

theorem isNamed_of_wildcard (h : hasWildcard part = true) : isNamed part = true := by
  unfold isNamed
  rw [Bool.and_eq_true, bne_iff_ne, bne_iff_ne]
  constructor
  · rintro rfl
    cases h
  · rintro rfl
    cases h

theorem length_le_depthBound {above : List String} (hkind : tree.kind? (above ++ added) = some kind) :
    added.length ≤ depthBound tree := by
  obtain ⟨node, hnode, -⟩ := Option.map_eq_some_iff.mp hkind
  have hlength := FileNode.length_lt_size hnode
  rw [List.length_append] at hlength
  have hbound : tree.size + 1 ≤ depthBound tree :=
    Nat.le_mul_of_pos_left _ (Nat.succ_pos FileNode.maximalLinks)
  omega

section Linkless

variable (h : tree.Linkless)
include h

theorem spelled_of_kind? {above : List String} (hkind : tree.kind? (above ++ [name]) = some kind) :
    spelled name = [name] :=
  have hname := h.names above name kind hkind
  Path.spelled_name hname.slash hname.isName.1

theorem spelled_below_of_kind? (hkind : tree.kind? (spelled directory ++ [name]) = some kind) :
    spelled (below directory name) = spelled directory ++ [name] := by
  rw [spelled_below, spelled_of_kind? h hkind]

theorem up_not_mem_below (hkind : tree.kind? (spelled directory ++ [name]) = some kind) :
    ".." ∉ spelled (below directory name) := by
  rw [spelled_below_of_kind? h hkind]
  apply h.up_not_mem
  rw [hkind]
  rfl

theorem isDirectoryAt_split (hup : ".." ∉ spelled directory) :
    tree.isDirectoryAt (Path.split directory) = true ↔
      tree.kind? (spelled directory) = some .directory :=
  h.isDirectoryAt (mt Path.mem_split_up.mp hup)

/-- What exists under a text is a directory, or the text ends in the name of a file. -/
theorem entryExists_split {text last : String} {front : List String}
    (hsplit : Path.split text = front ++ [last]) (hup : ".." ∉ spelled text) :
    tree.entryExists (Path.split text) = true ↔
      ∃ kind, tree.kind? (spelled text) = some kind ∧
        (kind = .directory ∨ isNamed last = true) := by
  rw [h.entryExists (mt Path.mem_split_up.mp hup)]
  change (tree.kind? (spelled text) = _ ∨ ∃ front last, _ ∧ _ ∧
    tree.kind? (spelled text) = _) ↔ _
  constructor
  · rintro (hdirectory | ⟨front', last', heq, hlast, hfile⟩)
    · exact ⟨.directory, hdirectory, .inl rfl⟩
    · rw [hsplit] at heq
      obtain ⟨-, heq⟩ := List.append_inj' heq rfl
      cases heq
      exact ⟨.file, hfile, .inr hlast⟩
  · rintro ⟨kind, hkind, hor⟩
    rcases h.kind_cases hkind with rfl | rfl
    · exact .inl hkind
    · exact .inr ⟨front, last, hsplit, hor.resolve_left (by simp), hkind⟩

theorem mem_names (hup : ".." ∉ spelled directory) :
    name ∈ names tree directoriesOnly directory ↔
      ∃ kind, tree.kind? (spelled directory ++ [name]) = some kind ∧
        (directoriesOnly = true → kind = .directory) := by
  have hlist : name ∈ tree.list (Path.split directory) ↔
      (tree.kind? (spelled directory ++ [name])).isSome :=
    h.mem_list (mt Path.mem_split_up.mp hup)
  have hbelow {kind : Kind} (hkind : tree.kind? (spelled directory ++ [name]) = some kind) :
      tree.isDirectoryAt (Path.split (below directory name)) = true ↔ kind = .directory := by
    rw [isDirectoryAt_split h (up_not_mem_below h hkind), spelled_below_of_kind? h hkind, hkind,
      Option.some.injEq]
  unfold Expansion.names
  cases directoriesOnly with
  | false => simp [hlist, Option.isSome_iff_exists]
  | true =>
    dsimp only
    rw [if_pos rfl, List.mem_filter, hlist, Option.isSome_iff_exists]
    constructor
    · rintro ⟨⟨kind, hkind⟩, hdirectory⟩
      exact ⟨kind, hkind, fun _ => (hbelow hkind).mp hdirectory⟩
    · rintro ⟨kind, hkind, hdirectory⟩
      exact ⟨⟨kind, hkind⟩, (hbelow hkind).mpr (hdirectory rfl)⟩

/-- Below a directory is what stands in it, and what is below that. -/
theorem exists_descendants_succ {depth : Nat} (hup : ".." ∉ spelled directory) :
    (∃ found ∈ descendants tree directoriesOnly (depth + 1) directory, spelled found = added) ↔
      ∃ name ∈ Expansion.names tree directoriesOnly directory, isHidden name = false ∧
        ∃ rest, added = name :: rest ∧ (rest = [] ∨
          ∃ found ∈ descendants tree directoriesOnly depth (below directory name),
            spelled found = rest) := by
  have hspelled {name : String} (hname : name ∈ Expansion.names tree directoriesOnly directory) :
      spelled name = [name] := by
    obtain ⟨_, hkind, -⟩ := (mem_names h hup).mp hname
    exact spelled_of_kind? h hkind
  have hbelow {name : String} (hname : name ∈ Expansion.names tree directoriesOnly directory)
      (found : String) : spelled (below name found) = name :: spelled found := by
    rw [spelled_below, hspelled hname]
    rfl
  rw [descendants]
  simp only [List.mem_flatMap, List.mem_filter, Bool.not_eq_true', List.mem_cons, List.mem_map]
  constructor
  · rintro ⟨_, ⟨name, ⟨hname, hvisible⟩, rfl | ⟨found, hfound, rfl⟩⟩, rfl⟩
    · exact ⟨_, hname, hvisible, [], hspelled hname, .inl rfl⟩
    · exact ⟨name, hname, hvisible, spelled found, hbelow hname found, .inr ⟨found, hfound, rfl⟩⟩
  · rintro ⟨name, hname, hvisible, _, rfl, rfl | ⟨found, hfound, rfl⟩⟩
    · exact ⟨name, ⟨name, ⟨hname, hvisible⟩, .inl rfl⟩, hspelled hname⟩
    · exact ⟨below name found, ⟨name, ⟨hname, hvisible⟩, .inr ⟨found, hfound, rfl⟩⟩,
        hbelow hname found⟩

/-- What is found below a directory is what is not hidden on the way to it. -/
theorem mem_descendants {depth : Nat} (hup : ".." ∉ spelled directory) :
    (∃ found ∈ descendants tree directoriesOnly depth directory, spelled found = added) ↔
      added ≠ [] ∧ added.length ≤ depth ∧ (∀ name ∈ added, isHidden name = false) ∧
        ∃ kind, tree.kind? (spelled directory ++ added) = some kind ∧
          (directoriesOnly = true → kind = .directory) := by
  induction depth generalizing directory added with
  | zero =>
    constructor
    · rintro ⟨_, hfound, -⟩
      cases hfound
    · rintro ⟨hne, hlength, -⟩
      exact absurd (List.length_eq_zero_iff.mp (Nat.le_zero.mp hlength)) hne
  | succ depth ih =>
    rw [exists_descendants_succ h hup]
    constructor
    · rintro ⟨name, hname, hvisible, rest, rfl, hrest⟩
      obtain ⟨kind, hkind, hdirectory⟩ := (mem_names h hup).mp hname
      rcases hrest with rfl | hrest
      · exact ⟨by simp, by simp, by simpa using hvisible, kind, hkind, hdirectory⟩
      · obtain ⟨-, hlength, hvisibles, kind', hkind', hdirectory'⟩ :=
          (ih (up_not_mem_below h hkind)).mp hrest
        rw [spelled_below_of_kind? h hkind, List.append_assoc] at hkind'
        exact ⟨by simp, by simpa using hlength,
          List.forall_mem_cons.mpr ⟨hvisible, hvisibles⟩, kind', hkind', hdirectory'⟩
    · rintro ⟨hne, hlength, hvisible, kind, hkind, hdirectory⟩
      cases added with
      | nil => exact absurd rfl hne
      | cons name rest =>
        rw [List.forall_mem_cons] at hvisible
        rw [List.append_cons] at hkind
        cases rest with
        | nil =>
          rw [List.append_nil] at hkind
          exact ⟨name, (mem_names h hup).mpr ⟨kind, hkind, hdirectory⟩, hvisible.1, [], rfl, .inl rfl⟩
        | cons second rest =>
          have habove := FileNode.kind?_above hkind
          rw [← spelled_below_of_kind? h habove] at hkind
          exact ⟨name, (mem_names h hup).mpr ⟨.directory, habove, fun _ => rfl⟩, hvisible.1,
            second :: rest, rfl, .inr ((ih (up_not_mem_below h habove)).mpr
              ⟨List.cons_ne_nil _ _, by simpa using hlength, hvisible.2, kind, hkind, hdirectory⟩)⟩

/-! ### The last part of a pattern, by its kind -/

theorem mem_spanning (hup : ".." ∉ spelled directory) :
    (∃ found ∈ inDirectory tree directoriesOnly Segments.spanning directory, spelled found = added) ↔
      (∀ name ∈ added, isHidden name = false) ∧
        ∃ kind, tree.kind? (spelled directory ++ added) = some kind ∧
          (added = [] ∨ directoriesOnly = true → kind = .directory) := by
  have hhere := isDirectoryAt_split h hup
  unfold inDirectory
  rw [if_pos (by rfl)]
  simp only [List.mem_append, or_and_right, exists_or, mem_descendants h hup,
    List.mem_ite_nil_right, List.mem_singleton]
  constructor
  · rintro (⟨found, ⟨hdirectory, rfl⟩, rfl⟩ | ⟨hne, -, hvisible, kind, hkind, hdirectory⟩)
    · refine ⟨by simp, .directory, ?_, fun _ => rfl⟩
      rw [Path.spelled_empty, List.append_nil]
      exact hhere.mp hdirectory
    · exact ⟨hvisible, kind, hkind, fun hor => hdirectory (hor.resolve_left hne)⟩
  · rintro ⟨hvisible, kind, hkind, hdirectory⟩
    by_cases hne : added = []
    · subst added
      rw [List.append_nil, hdirectory (.inl rfl)] at hkind
      exact .inl ⟨"", ⟨hhere.mpr hkind, rfl⟩, rfl⟩
    · exact .inr ⟨hne, length_le_depthBound hkind, hvisible, kind, hkind,
        fun hd => hdirectory (.inr hd)⟩

theorem mem_matching (hwildcard : hasWildcard part = true) (hup : ".." ∉ spelled directory) :
    (∃ found ∈ matching tree directoriesOnly part directory, spelled found = added) ↔
      ∃ name, added = [name] ∧ Segments.partMatches part name = true ∧
        ∃ kind, tree.kind? (spelled directory ++ [name]) = some kind ∧
          (directoriesOnly = true → kind = .directory) := by
  unfold matching
  simp only [List.mem_filter, mem_names h hup, ← partMatches_of_wildcard hwildcard]
  constructor
  · rintro ⟨name, ⟨⟨kind, hkind, hdirectory⟩, hmatch⟩, rfl⟩
    exact ⟨name, spelled_of_kind? h hkind, hmatch, kind, hkind, hdirectory⟩
  · rintro ⟨name, rfl, hmatch, kind, hkind, hdirectory⟩
    exact ⟨name, ⟨⟨kind, hkind, hdirectory⟩, hmatch⟩, spelled_of_kind? h hkind⟩

/-- A part without wildcards adds itself; one that is no name stands for the directory. -/
theorem mem_literal (hup : ".." ∉ spelled directory) (hpart : part ≠ "..")
    (hslash : '/' ∉ part.toList) {found : String} :
    (found ∈ if part == "" then if tree.isDirectoryAt (Path.split directory) then [""] else []
      else if tree.entryExists (Path.split (below directory part)) then [part] else []) ↔
      found = part ∧ ∃ kind, tree.kind? (spelled directory ++ spelled part) = some kind ∧
        (spelled part = [] → kind = .directory) := by
  split
  next hempty =>
    obtain rfl := eq_of_beq hempty
    rw [List.mem_ite_nil_right, List.mem_singleton, isDirectoryAt_split h hup, Path.spelled_empty,
      List.append_nil]
    simp [and_comm]
  next =>
    obtain ⟨front, hsplit, -⟩ := split_below directory hslash
    have hspelled := Path.spelled_of_not_mem hslash
    have hup' : ".." ∉ spelled (below directory part) := by
      rw [spelled_below, hspelled, List.mem_append, not_or]
      refine ⟨hup, fun hmem => hpart ?_⟩
      split at hmem
      · exact (List.mem_singleton.mp hmem).symm
      · cases hmem
    rw [List.mem_ite_nil_right, List.mem_singleton, entryExists_split h hsplit hup', spelled_below,
      and_comm, hspelled]
    cases isNamed part <;> simp

/-- The last part of a pattern adds to a directory the names it matches, if any; what it adds
nothing to is a directory. -/
theorem mem_inDirectory (hup : ".." ∉ spelled directory) (hpart : part ≠ "..")
    (hslash : '/' ∉ part.toList) :
    (∃ found ∈ inDirectory tree directoriesOnly part directory, spelled found = added) ↔
      accepts ([part].filter isNamed) added = true ∧
        ∃ kind, tree.kind? (spelled directory ++ added) = some kind ∧
          (added = [] ∨ directoriesOnly = true ∧ hasWildcard part = true →
            kind = .directory) := by
  by_cases hspanning : part = Segments.spanning
  · subst part
    have hfilter : [Segments.spanning].filter isNamed = [Segments.spanning] := by decide
    have hwildcard : hasWildcard Segments.spanning = true := by decide
    rw [mem_spanning h hup, hfilter, Segments.accepts_lone_spanning, hwildcard]
    simp only [and_true]
  · unfold inDirectory
    rw [if_neg (by simpa using hspanning)]
    by_cases hwildcard : hasWildcard part = true
    · rw [if_pos hwildcard, mem_matching h hwildcard hup,
        List.filter_cons_of_pos (isNamed_of_wildcard hwildcard), List.filter_nil,
        Segments.accepts_lone_part hspanning]
      constructor
      · rintro ⟨name, rfl, hmatch, kind, hkind, hdirectory⟩
        exact ⟨⟨name, rfl, hmatch⟩, kind, hkind, fun hor =>
          hdirectory (hor.resolve_left (List.cons_ne_nil _ _)).1⟩
      · rintro ⟨⟨name, rfl, hmatch⟩, kind, hkind, hdirectory⟩
        exact ⟨name, rfl, hmatch, kind, hkind, fun hd => hdirectory (.inr ⟨hd, hwildcard⟩)⟩
    · rw [if_neg hwildcard]
      rw [Bool.not_eq_true] at hwildcard
      have hspelled : spelled part = [part].filter isNamed := by
        unfold spelled
        rw [Path.split_of_not_mem hslash]
      rw [← hspelled, Segments.accepts_literal (hasWildcard_of_mem_spelled hwildcard), hwildcard]
      simp only [mem_literal h hup hpart hslash, Bool.false_eq_true, and_false, or_false]
      constructor
      · rintro ⟨found, ⟨rfl, kind, hkind, hdirectory⟩, rfl⟩
        exact ⟨rfl, kind, hkind, hdirectory⟩
      · rintro ⟨rfl, kind, hkind, hdirectory⟩
        exact ⟨part, ⟨rfl, kind, hkind, hdirectory⟩, rfl⟩

end Linkless

/-! ## Whole patterns -/

/-- The directory before the last part of a pattern, and that part. -/
def headOf (pattern : String) : String := String.ofList (splitLast pattern.toList).1

def lastOf (pattern : String) : String := String.ofList (splitLast pattern.toList).2

/-- A text whose last piece is a name. -/
def EndsInName (pattern : String) : Prop := isNamed (lastOf pattern) = true

variable {pattern found : String} {fuel : Nat}

theorem cut (pattern : String) : Cut pattern (headOf pattern) (lastOf pattern) := by
  have hcut := cut_splitLast pattern.toList
  rwa [String.ofList_toList] at hcut

theorem spelled_pattern (pattern : String) :
    spelled pattern = spelled (headOf pattern) ++ [lastOf pattern].filter isNamed := by
  obtain ⟨front, hpieces, hfront⟩ := (cut pattern).pieces
  rw [← hfront, ← List.filter_append, ← hpieces]
  rfl

theorem filter_lastOf (hname : EndsInName pattern) :
    [lastOf pattern].filter isNamed = [lastOf pattern] :=
  List.filter_cons_of_pos hname

theorem up_not_mem (hup : ".." ∉ spelled pattern) :
    ".." ∉ spelled (headOf pattern) ∧ lastOf pattern ≠ ".." := by
  rw [spelled_pattern, List.mem_append, not_or] at hup
  refine ⟨hup.1, fun hlast => hup.2 ?_⟩
  rw [hlast]
  exact List.mem_singleton_self _

theorem spellings_succ (tree : FileNode) (fuel : Nat) (directoriesOnly : Bool) (pattern : String) :
    spellings tree (fuel + 1) directoriesOnly pattern =
      if !hasWildcard pattern then
        if (if lastOf pattern == "" then tree.isDirectoryAt (Path.split (headOf pattern))
          else tree.entryExists (Path.split pattern)) then [pattern] else []
      else
        (if headOf pattern != pattern && hasWildcard (headOf pattern) then
            spellings tree fuel true (headOf pattern)
          else [headOf pattern]).flatMap fun directory =>
            (inDirectory tree directoriesOnly (lastOf pattern) directory).map (below directory) := by
  rw [spellings]
  unfold headOf lastOf
  rcases splitLast pattern.toList with ⟨head, last⟩
  rfl

/-- The directories that the part of a pattern before the last one stands for. -/
def heads (tree : FileNode) (fuel : Nat) (pattern : String) : List String :=
  if hasWildcard (headOf pattern) then spellings tree fuel true (headOf pattern)
  else [headOf pattern]

theorem mem_spellings_wildcard (hwildcard : hasWildcard pattern = true) :
    found ∈ spellings tree (fuel + 1) directoriesOnly pattern ↔
      ∃ directory ∈ heads tree fuel pattern,
        ∃ more ∈ inDirectory tree directoriesOnly (lastOf pattern) directory,
          below directory more = found := by
  have hdirectories : (headOf pattern != pattern && hasWildcard (headOf pattern)) =
      hasWildcard (headOf pattern) := by
    cases hhead : hasWildcard (headOf pattern) with
    | false => rw [Bool.and_false]
    | true =>
      have hshorter := (cut pattern).shorter hhead
      rw [Bool.and_true, bne_iff_ne]
      intro heq
      rw [heq] at hshorter
      exact Nat.lt_irrefl _ hshorter
  unfold heads
  rw [spellings_succ, hdirectories, if_neg (by simp [hwildcard])]
  simp only [List.mem_flatMap, List.mem_map]

theorem mem_spellings_literal (hwildcard : hasWildcard pattern = false) :
    found ∈ spellings tree (fuel + 1) directoriesOnly pattern ↔
      found = pattern ∧ (if lastOf pattern == "" then tree.isDirectoryAt (Path.split (headOf pattern))
        else tree.entryExists (Path.split pattern)) = true := by
  rw [spellings_succ, if_pos (by simp [hwildcard])]
  generalize (if lastOf pattern == "" then tree.isDirectoryAt (Path.split (headOf pattern))
    else tree.entryExists (Path.split pattern)) = stands
  cases stands <;> simp

theorem isAbsoluteText_of_mem_spellings (habsolute : Path.isAbsoluteText pattern = true)
    (hfound : found ∈ spellings tree fuel directoriesOnly pattern) :
    Path.isAbsoluteText found = true := by
  induction fuel generalizing directoriesOnly pattern found with
  | zero => cases hfound
  | succ fuel ih =>
    by_cases hwildcard : hasWildcard pattern = true
    · obtain ⟨directory, hdirectory, more, -, rfl⟩ := (mem_spellings_wildcard hwildcard).mp hfound
      have hhead := (cut pattern).absolute habsolute
      refine isAbsoluteText_below ?_ more
      unfold heads at hdirectory
      split at hdirectory
      · exact ih hhead hdirectory
      · rw [List.mem_singleton.mp hdirectory]
        exact hhead
    · rw [((mem_spellings_literal (by simpa using hwildcard)).mp hfound).1]
      exact habsolute

/-- A path is taken by a pattern as its two halves are, by the head and by the last part. -/
theorem accepts_fills_iff :
    accepts (spelled pattern) place = true ∧
        (kind = .directory ∨ EndsInName pattern ∧ Segments.Fills (spelled pattern) place) ↔
      ∃ before after, place = before ++ after ∧
        accepts (spelled (headOf pattern)) before = true ∧
          accepts ([lastOf pattern].filter isNamed) after = true ∧
            (after = [] → kind = .directory) := by
  constructor
  · rintro ⟨hmatch, hdirectory | ⟨hname, front, part, before, after, hpattern, hplace, hne, hbefore,
      hafter⟩⟩
    · rw [spelled_pattern] at hmatch
      obtain ⟨before, after, hplace, hbefore, hafter⟩ := Segments.accepts_append.mp hmatch
      exact ⟨before, after, hplace, hbefore, hafter, fun _ => hdirectory⟩
    · rw [spelled_pattern, filter_lastOf hname] at hpattern
      obtain ⟨rfl, hpart⟩ := List.append_inj' hpattern rfl
      cases hpart
      rw [filter_lastOf hname]
      exact ⟨before, after, hplace, hbefore, hafter, fun hnil => absurd hnil hne⟩
  · rintro ⟨before, after, rfl, hbefore, hafter, hempty⟩
    rw [spelled_pattern]
    refine ⟨Segments.accepts_append.mpr ⟨before, after, rfl, hbefore, hafter⟩, ?_⟩
    by_cases hnil : after = []
    · exact .inl (hempty hnil)
    · have hname : EndsInName pattern := by
        by_contra hunnamed
        rw [List.filter_cons_of_neg hunnamed, List.filter_nil, accepts, List.isEmpty_iff] at hafter
        exact hnil hafter
      rw [filter_lastOf hname] at hafter ⊢
      exact .inr ⟨hname, _, _, before, after, rfl, rfl, hnil, hbefore, hafter⟩

/-- The heads stand for the directories that their parts match, if their expansion does. -/
theorem exists_heads {above : List String}
    (hsearch : hasWildcard (headOf pattern) = true →
      ((∃ found ∈ spellings tree fuel true (headOf pattern), spelled found = above) ↔
        accepts (spelled (headOf pattern)) above = true)) :
    (∃ directory ∈ heads tree fuel pattern, spelled directory = above) ↔
      accepts (spelled (headOf pattern)) above = true := by
  unfold heads
  split
  next hwildcard => exact hsearch hwildcard
  next hliteral =>
    rw [Segments.accepts_literal (hasWildcard_of_mem_spelled (by simpa using hliteral))]
    simp [eq_comm]

section Linkless

variable (h : tree.Linkless)
include h

/-- A pattern without wildcards stands for itself, if that exists. -/
theorem exists_literal (hup : ".." ∉ spelled pattern) :
    (if lastOf pattern == "" then tree.isDirectoryAt (Path.split (headOf pattern))
      else tree.entryExists (Path.split pattern)) = true ↔
        ∃ kind, tree.kind? (spelled pattern) = some kind ∧
          (kind = .directory ∨ EndsInName pattern) := by
  split
  next hempty =>
    have hlast := eq_of_beq hempty
    have hspelled : spelled pattern = spelled (headOf pattern) := by
      rw [spelled_pattern, hlast]
      exact List.append_nil _
    have hunnamed : ¬EndsInName pattern := by
      unfold EndsInName
      rw [hlast]
      decide
    rw [isDirectoryAt_split h (up_not_mem hup).1, ← hspelled]
    simp [hunnamed]
  next =>
    obtain ⟨front, hpieces, -⟩ := (cut pattern).pieces
    exact entryExists_split h hpieces hup

theorem up_not_mem_heads (hup : ".." ∉ spelled (headOf pattern))
    (hsome : ∀ found ∈ spellings tree fuel true (headOf pattern),
      (tree.kind? (spelled found)).isSome) :
    ∀ directory ∈ heads tree fuel pattern, ".." ∉ spelled directory := by
  intro directory hdirectory
  unfold heads at hdirectory
  split at hdirectory
  · exact h.up_not_mem (hsome directory hdirectory)
  · rw [List.mem_singleton.mp hdirectory]
    exact hup

theorem isSome_of_mem_spellings (hup : ".." ∉ spelled pattern)
    (hfound : found ∈ spellings tree fuel directoriesOnly pattern) :
    (tree.kind? (spelled found)).isSome := by
  induction fuel generalizing directoriesOnly pattern found with
  | zero => cases hfound
  | succ fuel ih =>
    cases hwildcard : hasWildcard pattern with
    | false =>
      obtain ⟨rfl, hexists⟩ := (mem_spellings_literal hwildcard).mp hfound
      obtain ⟨kind, hkind, -⟩ := (exists_literal h hup).mp hexists
      rw [hkind]
      rfl
    | true =>
      obtain ⟨hhead, hlast⟩ := up_not_mem hup
      obtain ⟨directory, hdirectory, more, hmore, rfl⟩ :=
        (mem_spellings_wildcard hwildcard).mp hfound
      have hup' := up_not_mem_heads h hhead (fun _ => ih hhead) directory hdirectory
      obtain ⟨-, kind, hkind, -⟩ :=
        (mem_inDirectory h hup' hlast (cut pattern).slash).mp ⟨more, hmore, rfl⟩
      rw [spelled_below, hkind]
      rfl

/-- A pattern expands to the directories that its parts match, and to the files that they
match with a name for the last part. -/
theorem exists_spelling (hfuel : pattern.length < fuel) (hup : ".." ∉ spelled pattern)
    (hkind : tree.kind? place = some kind) (hd : directoriesOnly = true → kind = .directory) :
    (∃ found ∈ spellings tree fuel directoriesOnly pattern, spelled found = place) ↔
      accepts (spelled pattern) place = true ∧
        (kind = .directory ∨ EndsInName pattern ∧ Segments.Fills (spelled pattern) place) := by
  induction fuel generalizing directoriesOnly pattern place kind with
  | zero => omega
  | succ fuel ih =>
    cases hwildcard : hasWildcard pattern with
    | false =>
      have hliteral := hasWildcard_of_mem_spelled hwildcard
      simp only [mem_spellings_literal hwildcard, exists_literal h hup]
      rw [Segments.accepts_literal hliteral]
      constructor
      · rintro ⟨found, ⟨rfl, kind', hkind', hor⟩, rfl⟩
        rw [hkind] at hkind'
        cases hkind'
        refine ⟨rfl, hor.imp_right fun hname => ⟨hname, ?_⟩⟩
        rw [spelled_pattern] at hliteral ⊢
        exact Segments.fills_literal hliteral (filter_lastOf hname)
      · rintro ⟨rfl, hor⟩
        exact ⟨pattern, ⟨rfl, kind, hkind, hor.imp_right And.left⟩, rfl⟩
    | true =>
      obtain ⟨hhead, hlast⟩ := up_not_mem hup
      have hheads {above : List String} (habove : tree.kind? above = some .directory) :
          (∃ directory ∈ heads tree fuel pattern, spelled directory = above) ↔
            accepts (spelled (headOf pattern)) above = true := by
        refine exists_heads fun hwild => ?_
        have hshorter := (cut pattern).shorter hwild
        rw [ih (by omega) hhead habove fun _ => rfl]
        exact and_iff_left (.inl rfl)
      have hupper : ∀ directory ∈ heads tree fuel pattern, ".." ∉ spelled directory :=
        up_not_mem_heads h hhead fun _ => isSome_of_mem_spellings h hhead
      rw [accepts_fills_iff]
      simp only [mem_spellings_wildcard hwildcard]
      constructor
      · rintro ⟨_, ⟨directory, hdirectory, more, hmore, rfl⟩, rfl⟩
        obtain ⟨hmatch, kind', hkind', hempty⟩ := (mem_inDirectory h (hupper directory hdirectory)
          hlast (cut pattern).slash).mp ⟨more, hmore, rfl⟩
        rw [spelled_below] at hkind ⊢
        rw [hkind] at hkind'
        cases hkind'
        have habove := FileNode.kind?_front hkind fun hnil => hempty (.inl hnil)
        exact ⟨_, _, rfl, (hheads habove).mp ⟨directory, hdirectory, rfl⟩, hmatch,
          fun hnil => hempty (.inl hnil)⟩
      · rintro ⟨before, after, rfl, hbefore, hafter, hempty⟩
        obtain ⟨directory, hdirectory, rfl⟩ := (hheads (FileNode.kind?_front hkind hempty)).mpr hbefore
        obtain ⟨more, hmore, rfl⟩ := (mem_inDirectory h (hupper directory hdirectory) hlast
          (cut pattern).slash).mpr ⟨hafter, kind, hkind, fun hor =>
            hor.elim hempty fun hboth => hd hboth.1⟩
        exact ⟨_, ⟨directory, hdirectory, more, hmore, rfl⟩, spelled_below directory more⟩

end Linkless

end Registrar.Expansion
