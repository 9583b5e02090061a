import Mathlib.Data.List.Perm.Basic
import Mathlib.Data.String.Basic
import Registrar.Proofs.Project.Work
import Registrar.Proofs.Selection.Spellings

/-! # The canonical order of selected files

A selected file is ranked by the first include pattern that finds it and, within the
pattern, by the least of its spellings found. A selection expands to the selected
files in the order of their ranks. Neither the files nor their ranks hang on the
order in which directories list their entries, and so the expansion does not either.
-/

namespace Registrar

namespace Expansion

/-! ## Listing orders -/

section Reordered

variable {tree other : FileNode} (h : tree.Reorders other) (hdistinct : tree.Distinct)
include h hdistinct

theorem names_perm (directoriesOnly : Bool) (directory : String) :
    (names tree directoriesOnly directory).Perm (names other directoriesOnly directory) := by
  unfold names
  dsimp only
  split
  · simp only [FileNode.isDirectoryAt_of_reorders h hdistinct]
    exact (FileNode.list_of_reorders h hdistinct _).filter _
  · exact FileNode.list_of_reorders h hdistinct _

theorem descendants_perm (directoriesOnly : Bool) (depth : Nat) (directory : String) :
    (descendants tree directoriesOnly depth directory).Perm
      (descendants other directoriesOnly depth directory) := by
  induction depth generalizing directory with
  | zero => exact .refl _
  | succ depth ih =>
    refine ((names_perm h hdistinct directoriesOnly directory).filter _).flatMap fun name _ => ?_
    exact ((ih _).map _).cons _

theorem inDirectory_perm (directoriesOnly : Bool) (part directory : String) :
    (inDirectory tree directoriesOnly part directory).Perm
      (inDirectory other directoriesOnly part directory) := by
  unfold inDirectory matching depthBound
  rw [FileNode.isDirectoryAt_of_reorders h hdistinct, FileNode.entryExists_of_reorders h hdistinct,
    h.size_eq]
  split
  · exact (descendants_perm h hdistinct _ _ _).append_left _
  · split
    · exact (names_perm h hdistinct _ _).filter _
    · exact .refl _

theorem spellings_perm (fuel : Nat) (directoriesOnly : Bool) (pattern : String) :
    (spellings tree fuel directoriesOnly pattern).Perm
      (spellings other fuel directoriesOnly pattern) := by
  induction fuel generalizing directoriesOnly pattern with
  | zero => exact .refl _
  | succ fuel ih =>
    rw [spellings_succ, spellings_succ]
    split
    · rw [FileNode.isDirectoryAt_of_reorders h hdistinct,
        FileNode.entryExists_of_reorders h hdistinct]
    · refine List.Perm.flatMap ?_ fun directory _ =>
        (inDirectory_perm h hdistinct _ _ _).map _
      split
      · exact ih true _
      · exact .refl _

end Reordered

theorem pairwise_sortedSpellings (tree : FileNode) (pattern : String) :
    (sortedSpellings tree pattern).Pairwise (· ≤ ·) := by
  have htrans (a b c : String) (hab : decide (a ≤ b) = true) (hbc : decide (b ≤ c) = true) :
      decide (a ≤ c) = true :=
    decide_eq_true (String.le_trans (of_decide_eq_true hab) (of_decide_eq_true hbc))
  have htotal (a b : String) : (decide (a ≤ b) || decide (b ≤ a)) = true := by
    simpa only [Bool.or_eq_true, decide_eq_true_iff] using String.le_total a b
  have hsorted : (sortedSpellings tree pattern).Pairwise fun a b => decide (a ≤ b) = true :=
    List.pairwise_mergeSort htrans htotal _
  exact hsorted.imp of_decide_eq_true

/-- Sorting forgets the order in which directories list their entries. -/
theorem sortedSpellings_of_reorders {tree other : FileNode} (h : tree.Reorders other)
    (hdistinct : tree.Distinct) (pattern : String) :
    sortedSpellings tree pattern = sortedSpellings other pattern := by
  refine List.Perm.eq_of_pairwise (fun _ _ _ _ => String.le_antisymm)
    (pairwise_sortedSpellings tree pattern) (pairwise_sortedSpellings other pattern) ?_
  exact (List.mergeSort_perm _ _).trans
    ((spellings_perm h hdistinct _ _ _).trans (List.mergeSort_perm _ _).symm)

end Expansion

namespace Selection

variable {tree other : FileNode} {selection : Selection} {working patterns : List String}
  {pattern spelling : String} {path : Path} {paths : List Path}

/-- A selection expands alike in reordered trees. -/
theorem expand_of_reorders (h : tree.Reorders other) (hdistinct : tree.Distinct)
    (selection : Selection) (working : List String) :
    selection.expand tree working = selection.expand other working := by
  have hpattern : selection.expandPattern tree working = selection.expandPattern other working := by
    funext pattern
    unfold expandPattern
    simp only [Expansion.sortedSpellings_of_reorders h hdistinct,
      Path.resolve_of_reorders h hdistinct]
  have hpatterns (patterns : List String) :
      selection.expandPatterns tree working patterns =
        selection.expandPatterns other working patterns := by
    unfold expandPatterns
    rw [hpattern]
  unfold expand
  simp only [hpatterns, FileNode.isFileAt_of_reorders h hdistinct]

/-! ## Ranks -/

/-- A pattern finds a path as it is spelled. -/
def Finds (selection : Selection) (tree : FileNode) (working : List String)
    (pattern spelling : String) (path : Path) : Prop :=
  spelling ∈ Expansion.spellings tree ((selection.anchor pattern).length + 1) false
      (selection.anchor pattern) ∧
    (Path.ofString spelling).resolve tree working = .ok path

/-- Some pattern finds a path. -/
def FoundBy (selection : Selection) (tree : FileNode) (working patterns : List String)
    (path : Path) : Prop :=
  ∃ pattern ∈ patterns, ∃ spelling, selection.Finds tree working pattern spelling path

/-- The first include pattern that finds a path, by its index, and the least spelling of
the path that it finds. -/
structure Ranks (selection : Selection) (tree : FileNode) (working : List String) (path : Path)
    (index : Nat) (spelling : String) : Prop where
  found : ∃ pattern, selection.includes[index]? = some pattern ∧
    selection.Finds tree working pattern spelling path ∧
      ∀ other, selection.Finds tree working pattern other path → spelling ≤ other
  first : ∀ earlier pattern, earlier < index → selection.includes[earlier]? = some pattern →
    ∀ other, ¬selection.Finds tree working pattern other path

/-- The selected files, each once, in the order of their ranks. -/
structure IsCanonical (selection : Selection) (tree : FileNode) (working : List String)
    (paths : List Path) : Prop where
  nodup : paths.Nodup
  isFileAt : ∀ path ∈ paths, tree.isFileAt path.names = true
  mem_iff : ∀ path, tree.isFileAt path.names = true →
    (path ∈ paths ↔ selection.FoundBy tree working selection.includes path ∧
      ¬selection.FoundBy tree working selection.excludes path ∧ some path ≠ selection.output)
  ordered : paths.Pairwise fun path later => ∃ index spelling index' spelling',
    selection.Ranks tree working path index spelling ∧
      selection.Ranks tree working later index' spelling' ∧
        (index < index' ∨ index = index' ∧ spelling < spelling')

/-! ## The order in which paths are met -/

section Sorted

variable {α β : Type} {r : α → α → Prop} {f : α → β} {sorted : List α}

theorem exists_least (hrefl : ∀ a, r a a) (h : sorted.Pairwise r) {b : β} (hb : b ∈ sorted.map f) :
    ∃ a ∈ sorted, f a = b ∧ ∀ a' ∈ sorted, f a' = b → r a a' := by
  induction sorted with
  | nil => cases hb
  | cons first rest ih =>
    obtain ⟨hfirst, hrest⟩ := List.pairwise_cons.mp h
    by_cases heq : f first = b
    · refine ⟨first, List.mem_cons_self, heq, ?_⟩
      exact List.forall_mem_cons.mpr ⟨fun _ => hrefl first, fun a ha _ => hfirst a ha⟩
    · rw [List.map_cons, List.mem_cons] at hb
      obtain ⟨a, ha, hfa, hleast⟩ := ih hrest (hb.resolve_left (Ne.symm heq))
      refine ⟨a, List.mem_cons_of_mem _ ha, hfa, ?_⟩
      exact List.forall_mem_cons.mpr ⟨fun hfirst => absurd hfirst heq, hleast⟩

/-- Of values met in order, each where it is met first, the earlier has a source before all
sources of the later. -/
theorem pairwise_eraseDups [BEq β] [LawfulBEq β] (h : sorted.Pairwise r) :
    (sorted.map f).eraseDups.Pairwise fun b b' => b ≠ b' ∧
      ∃ a ∈ sorted, f a = b ∧ ∀ a' ∈ sorted, f a' = b' → r a a' := by
  induction hlength : sorted.length using Nat.strong_induction_on generalizing sorted with
  | h length ih =>
  cases sorted with
  | nil => exact .nil
  | cons first rest =>
    obtain ⟨hfirst, hrest⟩ := List.pairwise_cons.mp h
    have hfilter : (rest.map f).filter (fun b => !b == f first) =
        (rest.filter fun a => !f a == f first).map f := List.filter_map
    have hmem {b : β} (hb : b ∈ ((rest.filter fun a => !f a == f first).map f).eraseDups) :
        b ≠ f first := by
      obtain ⟨a, ha, rfl⟩ := List.mem_map.mp (List.mem_eraseDups.mp hb)
      simpa using (List.mem_filter.mp ha).2
    rw [List.map_cons, List.eraseDups_cons, hfilter, List.pairwise_cons]
    constructor
    · intro b hb
      refine ⟨(hmem hb).symm, first, List.mem_cons_self, rfl, ?_⟩
      exact List.forall_mem_cons.mpr ⟨fun heq => absurd heq.symm (hmem hb), fun a ha _ => hfirst a ha⟩
    · have hshort : (rest.filter fun a => !f a == f first).length < length := by
        rw [← hlength]
        exact Nat.lt_succ_of_le (List.length_filter_le _ _)
      refine (ih _ hshort (hrest.filter _) rfl).imp_of_mem ?_
      rintro b b' - hb' ⟨hne, a, ha, rfl, hleast⟩
      refine ⟨hne, a, List.mem_cons_of_mem _ (List.mem_filter.mp ha).1, rfl, ?_⟩
      refine List.forall_mem_cons.mpr ⟨fun heq => absurd heq.symm (hmem hb'), fun a' ha' heq => ?_⟩
      exact hleast a' (List.mem_filter.mpr ⟨ha', by simpa [heq] using hmem hb'⟩) heq

end Sorted

/-- What the include patterns find, with the index of the pattern. -/
def candidates (selection : Selection) (tree : FileNode) : List (Nat × String) :=
  selection.includes.zipIdx.flatMap fun indexed =>
    (Expansion.sortedSpellings tree (selection.anchor indexed.1)).map (indexed.2, ·)

/-- The order of ranks. -/
def rankLe (a b : Nat × String) : Prop := a.1 < b.1 ∨ a.1 = b.1 ∧ a.2 ≤ b.2

theorem rankLe_trans {a b c : Nat × String} (hab : rankLe a b) (hbc : rankLe b c) : rankLe a c := by
  rcases hab with hab | ⟨hab, hab'⟩
  · rcases hbc with hbc | ⟨hbc, -⟩
    · exact .inl (hab.trans hbc)
    · exact .inl (hbc ▸ hab)
  · rcases hbc with hbc | ⟨hbc, hbc'⟩
    · exact .inl (hab ▸ hbc)
    · exact .inr ⟨hab.trans hbc, String.le_trans hab' hbc'⟩

theorem pairwise_candidates (selection : Selection) (tree : FileNode) :
    (selection.candidates tree).Pairwise rankLe := by
  unfold candidates
  rw [List.pairwise_flatMap]
  constructor
  · rintro ⟨pattern, index⟩ -
    rw [List.pairwise_map]
    exact (Expansion.pairwise_sortedSpellings tree _).imp fun hle => .inr ⟨rfl, hle⟩
  · have hindices : (selection.includes.zipIdx.map Prod.snd).Pairwise (· < ·) := by
      rw [List.zipIdx_map_snd]
      exact List.pairwise_lt_range' 1
    refine (List.pairwise_map.mp hindices).imp fun hlt => ?_
    intro a ha b hb
    obtain ⟨_, -, rfl⟩ := List.mem_map.mp ha
    obtain ⟨_, -, rfl⟩ := List.mem_map.mp hb
    exact .inl hlt

theorem mem_candidates {index : Nat} : (index, spelling) ∈ selection.candidates tree ↔
    ∃ pattern, selection.includes[index]? = some pattern ∧
      spelling ∈ Expansion.spellings tree ((selection.anchor pattern).length + 1) false
        (selection.anchor pattern) := by
  unfold candidates Expansion.sortedSpellings
  simp only [List.mem_flatMap, List.mem_map, List.mem_mergeSort, Prod.mk.injEq, Prod.exists,
    List.mem_zipIdx_iff_getElem?]
  constructor
  · rintro ⟨pattern, _, hpattern, _, hspelling, rfl, rfl⟩
    exact ⟨pattern, hpattern, hspelling⟩
  · rintro ⟨pattern, hpattern, hspelling⟩
    exact ⟨pattern, index, hpattern, spelling, hspelling, rfl, rfl⟩

/-! ## Expansion -/

/-- The patterns whose searches can start. -/
def Listable (selection : Selection) (patterns : List String) : Prop :=
  ∀ pattern ∈ patterns, Expansion.isUnlistable (selection.anchor pattern) = false

section WellFormed

variable (hwell : tree.WellFormed)
include hwell

theorem finds_iff (hlistable : Expansion.isUnlistable (selection.anchor pattern) = false) :
    selection.Finds tree working pattern spelling path ↔
      spelling ∈ Expansion.spellings tree ((selection.anchor pattern).length + 1) false
        (selection.anchor pattern) ∧ place tree working spelling = path := by
  unfold Finds
  refine and_congr_right fun hspelling => ?_
  rw [resolve_of_mem_spellings hwell hlistable working (List.mem_mergeSort.mpr hspelling),
    Except.ok.injEq]

theorem expandPatterns_of_listable (hlistable : selection.Listable patterns)
    (working : List String) :
    selection.expandPatterns tree working patterns =
      .ok ((patterns.flatMap fun pattern =>
        Expansion.sortedSpellings tree (selection.anchor pattern)).map
          (place tree working)).eraseDups := by
  unfold expandPatterns
  rw [mapM_eq_ok fun pattern hpattern => expandPattern_of_listable hwell (hlistable pattern hpattern)
    working, List.map_flatMap, List.flatMap_def]
  rfl

theorem foundBy_iff (hlistable : selection.Listable patterns) (working : List String) :
    selection.FoundBy tree working patterns path ↔
      path ∈ ((patterns.flatMap fun pattern =>
        Expansion.sortedSpellings tree (selection.anchor pattern)).map
          (place tree working)).eraseDups := by
  simp only [List.mem_eraseDups, List.mem_map, List.mem_flatMap]
  unfold Expansion.sortedSpellings
  simp only [List.mem_mergeSort]
  constructor
  · rintro ⟨pattern, hpattern, spelling, hfinds⟩
    obtain ⟨hspelling, hplace⟩ := (finds_iff hwell (hlistable pattern hpattern)).mp hfinds
    exact ⟨spelling, ⟨pattern, hpattern, hspelling⟩, hplace⟩
  · rintro ⟨spelling, ⟨pattern, hpattern, hspelling⟩, hplace⟩
    exact ⟨pattern, hpattern, spelling,
      (finds_iff hwell (hlistable pattern hpattern)).mpr ⟨hspelling, hplace⟩⟩

/-- The least candidate for a path is its rank. -/
theorem ranks_of_least (hlistable : selection.Listable selection.includes)
    {candidate : Nat × String} (hcandidate : candidate ∈ selection.candidates tree)
    (hplace : place tree working candidate.2 = path)
    (hleast : ∀ other ∈ selection.candidates tree, place tree working other.2 = path →
      rankLe candidate other) :
    selection.Ranks tree working path candidate.1 candidate.2 := by
  obtain ⟨index, spelling⟩ := candidate
  obtain ⟨pattern, hpattern, hspelling⟩ := mem_candidates.mp hcandidate
  have hfinds {index : Nat} {pattern other : String}
      (hpattern : selection.includes[index]? = some pattern)
      (hother : selection.Finds tree working pattern other path) :
      (index, other) ∈ selection.candidates tree ∧ place tree working other = path := by
    have hmem := List.mem_of_getElem? hpattern
    obtain ⟨hspelling, hplace⟩ := (finds_iff hwell (hlistable pattern hmem)).mp hother
    exact ⟨mem_candidates.mpr ⟨pattern, hpattern, hspelling⟩, hplace⟩
  constructor
  · refine ⟨pattern, hpattern, ?_, fun other hother => ?_⟩
    · have hmem := List.mem_of_getElem? hpattern
      exact (finds_iff hwell (hlistable pattern hmem)).mpr ⟨hspelling, hplace⟩
    · obtain ⟨hmem, hplace⟩ := hfinds hpattern hother
      rcases hleast _ hmem hplace with hlt | ⟨-, hle⟩
      · exact absurd hlt (Nat.lt_irrefl index)
      · exact hle
  · intro earlier pattern hlt hpattern other hother
    obtain ⟨hmem, hplace⟩ := hfinds hpattern hother
    rcases hleast _ hmem hplace with hafter | ⟨heq, -⟩
    · exact absurd hlt (Nat.lt_asymm hafter)
    · exact absurd hlt (heq ▸ Nat.lt_irrefl _)

/-- Patterns whose searches can start expand to the selected files in canonical order. -/
theorem expand_of_listable (hincludes : selection.Listable selection.includes)
    (hexcludes : selection.Listable selection.excludes) (working : List String) :
    ∃ paths, selection.expand tree working = .ok paths ∧
      selection.IsCanonical tree working paths := by
  have hmap : (selection.includes.flatMap fun pattern =>
      Expansion.sortedSpellings tree (selection.anchor pattern)) =
        (selection.candidates tree).map Prod.snd := by
    unfold candidates
    conv_lhs => rw [← List.zipIdx_map_fst 0 selection.includes]
    rw [List.flatMap_map, List.map_flatMap]
    simp only [List.map_map, Function.comp_def, List.map_id']
  let included := ((selection.candidates tree).map fun candidate =>
    place tree working candidate.2).eraseDups
  have hincluded : selection.expandPatterns tree working selection.includes = .ok included := by
    rw [expandPatterns_of_listable hwell hincludes, hmap, List.map_map]
    rfl
  have hfound (path : Path) :
      path ∈ included ↔ selection.FoundBy tree working selection.includes path := by
    rw [foundBy_iff hwell hincludes, hmap, List.map_map]
    rfl
  have hpairwise := pairwise_eraseDups (f := fun candidate => place tree working candidate.2)
    (pairwise_candidates selection tree)
  refine ⟨_, by
    unfold expand
    rw [expandPatterns_of_listable hwell hexcludes, hincluded]
    rfl, ?_, ?_, ?_, ?_⟩
  · exact List.Pairwise.filter _ (hpairwise.imp And.left)
  · intro path hpath
    have hfile := (List.mem_filter.mp hpath).2
    rw [Bool.and_eq_true] at hfile
    exact hfile.2
  · intro path hfile
    rw [List.mem_filter, foundBy_iff hwell hexcludes, hfound]
    simp [hfile]
  · refine List.Pairwise.filter _ (hpairwise.imp_of_mem ?_)
    rintro path later hpath hlater ⟨hne, before, hbefore, hplace, hall⟩
    have hrefl (candidate : Nat × String) : rankLe candidate candidate :=
      .inr ⟨rfl, String.le_refl _⟩
    have hsorted := pairwise_candidates selection tree
    obtain ⟨least, hmem, hleast, hmin⟩ :=
      exists_least hrefl hsorted (List.mem_eraseDups.mp hpath)
    obtain ⟨least', hmem', hleast', hmin'⟩ :=
      exists_least hrefl hsorted (List.mem_eraseDups.mp hlater)
    have hle : rankLe least least' :=
      rankLe_trans (hmin before hbefore hplace) (hall least' hmem' hleast')
    refine ⟨_, _, _, _, ranks_of_least hwell hincludes hmem hleast hmin,
      ranks_of_least hwell hincludes hmem' hleast' hmin', ?_⟩
    rcases hle with hlt | ⟨heq, hle⟩
    · exact .inl hlt
    · refine .inr ⟨heq, lt_of_le_of_ne hle fun hspelling => hne ?_⟩
      rw [← hleast, ← hleast', hspelling]

theorem expandPatterns_of_unlistable (hunlistable : ¬selection.Listable patterns)
    (working : List String) :
    selection.expandPatterns tree working patterns = .error .nullCharacter := by
  have hpatterns : patterns.mapM (selection.expandPattern tree working) = .error .nullCharacter := by
    induction patterns with
    | nil => exact absurd (List.forall_mem_nil _) hunlistable
    | cons pattern patterns ih =>
      rw [List.mapM_cons]
      cases hpattern : Expansion.isUnlistable (selection.anchor pattern) with
      | true =>
        unfold expandPattern
        dsimp only
        rw [if_pos hpattern]
        rfl
      | false =>
        have hrest : ¬selection.Listable patterns := fun hlistable =>
          hunlistable (List.forall_mem_cons.mpr ⟨hpattern, hlistable⟩)
        rw [expandPattern_of_listable hwell hpattern, ih hrest]
        rfl
  unfold expandPatterns
  rw [hpatterns]
  rfl

theorem expand_of_unlistable
    (hunlistable : ¬(selection.Listable selection.includes ∧ selection.Listable selection.excludes))
    (working : List String) : selection.expand tree working = .error .nullCharacter := by
  unfold expand
  by_cases hexcludes : selection.Listable selection.excludes
  · have hincludes : ¬selection.Listable selection.includes := fun hincludes =>
      hunlistable ⟨hincludes, hexcludes⟩
    rw [expandPatterns_of_listable hwell hexcludes, expandPatterns_of_unlistable hwell hincludes]
    rfl
  · rw [expandPatterns_of_unlistable hwell hexcludes]
    rfl

end WellFormed

end Selection

/-! ## Rendering reordered trees -/

theorem Analysis.exports_of_reorders {tree other : FileNode} (h : tree.Reorders other)
    (hdistinct : tree.Distinct) (selection : Selection) (working : List String) :
    exports selection tree working = exports selection other working := by
  have hscan (path : Path) : scanFile .usual tree path = scanFile .usual other path := by
    unfold scanFile textAt?
    rw [FileNode.read_of_reorders h hdistinct]
  unfold exports
  simp only [Selection.expand_of_reorders h hdistinct, hscan]

theorem Project.rendering_of_reorders {tree other : FileNode} (h : tree.Reorders other)
    (hdistinct : tree.Distinct) (project : Project) (working : List String) :
    project.rendering tree working = project.rendering other working := by
  unfold rendering moduleText
  simp only [Analysis.exports_of_reorders h hdistinct, Path.resolve_of_reorders h hdistinct]

namespace Selection

variable {tree : FileNode}

/-- A selection expands to the selected files in canonical order, unless a directory it
starts in cannot be listed. The files, and the module rendered from them, are the same
in whatever order directories list their entries. -/
theorem expand_isCanonical (hwell : tree.WellFormed) (selection : Selection)
    (working : List String) :
    (selection.Listable selection.includes ∧ selection.Listable selection.excludes →
      ∃ paths, selection.expand tree working = .ok paths ∧
        selection.IsCanonical tree working paths) ∧
    (¬(selection.Listable selection.includes ∧ selection.Listable selection.excludes) →
      selection.expand tree working = .error .nullCharacter) ∧
    ∀ other, tree.Reorders other →
      selection.expand other working = selection.expand tree working ∧
      ∀ (project : Project) (events events' : List Event),
        (project.render ⟨other, working, events⟩).1 =
          (project.render ⟨tree, working, events'⟩).1 := by
  refine ⟨fun hlistable => expand_of_listable hwell hlistable.1 hlistable.2 working,
    fun hunlistable => expand_of_unlistable hwell hunlistable working, fun other hother => ?_⟩
  refine ⟨(expand_of_reorders hother hwell.distinct selection working).symm, ?_⟩
  intro project events events'
  obtain ⟨_, hrender⟩ := project.reads_render ⟨tree, working, events'⟩
  obtain ⟨_, hother'⟩ := project.reads_render ⟨other, working, events⟩
  rw [hrender, hother', project.rendering_of_reorders hother hwell.distinct]

/-- A link and its target are two spellings of one file, found in either listing order. -/
theorem linked_isCanonical :
    let tree : FileNode :=
      .directory [("src", .directory [("b.py", .file .empty), ("a.py", .link "b.py")])]
    let other : FileNode :=
      .directory [("src", .directory [("a.py", .link "b.py"), ("b.py", .file .empty)])]
    let selection : Selection := ⟨["src/a.py", "src/b.py"], ["src/c*"], ⟨.slash, []⟩, none⟩
    tree.WellFormed ∧ tree.Reorders other ∧
      selection.IsCanonical tree [] [⟨.slash, ["src", "b.py"]⟩] ∧
      selection.expand other [] = .ok [⟨.slash, ["src", "b.py"]⟩] := by
  intro tree other selection
  have hwell : tree.WellFormed := FileNode.wellFormed_of_places (by decide +kernel)
    (by decide +kernel) (by decide +kernel)
  have hreorders : tree.Reorders other :=
    ⟨_, _, ⟨_, _, ⟨_, _, ⟨_, _, rfl, ⟨_, _, rfl, rfl, rfl⟩, rfl⟩, .swap _ _ _, rfl⟩, rfl, rfl⟩,
      .refl _, rfl⟩
  have hlistable : selection.Listable selection.includes ∧ selection.Listable selection.excludes := by
    unfold Listable
    decide +kernel
  have hexpand : selection.expand tree [] = .ok [⟨.slash, ["src", "b.py"]⟩] := by decide +kernel
  obtain ⟨hcanonical, -, hothers⟩ := expand_isCanonical hwell selection []
  obtain ⟨paths, hpaths, hordered⟩ := hcanonical hlistable
  rw [hexpand] at hpaths
  cases hpaths
  exact ⟨hwell, hreorders, hordered, (hothers other hreorders).1.trans hexpand⟩

end Selection

end Registrar
