import Registrar.Proofs.Project.Settings
import Registrar.Proofs.Selection.Globbing

/-! # Watched files and scanned files

A change to a file is to be followed by a generation when the file would be scanned.
Scanning walks the tree and watching compares parts of paths, and in a tree without
links both select the same files, as long as the patterns name what they match: no
double points, one slash to start with, a name at the end, and a name left for it.
-/

namespace Registrar

open Registrar.Path (spelled isNamed)
open Expansion (EndsInName)
open FileNode (Linkless)

namespace Selection

variable {selection : Selection} {tree : FileNode} {pattern : String} {patterns names working : List String}

/-- A pattern that matches a path by its parts only if it expands to it: it starts at one
root, goes nowhere up, can be listed, and has a name of the path left for its last part. -/
structure Names (selection : Selection) (pattern : String) (names : List String) : Prop where
  root : Path.rootOf (selection.anchor pattern).toList = .slash
  up : ".." ∉ spelled (selection.anchor pattern)
  listable : Expansion.isUnlistable (selection.anchor pattern) = false
  last : Segments.accepts (spelled (selection.anchor pattern)) names = true →
    EndsInName (selection.anchor pattern) ∧
      Segments.Fills (spelled (selection.anchor pattern)) names

theorem Names.patternMatches (h : selection.Names pattern names) :
    selection.patternMatches ⟨.slash, names⟩ pattern =
      Segments.accepts (spelled (selection.anchor pattern)) names := by
  unfold Selection.patternMatches Path.ofString Path.parts
  rw [h.root]
  dsimp only
  rw [Segments.accepts_cons]
  rfl

theorem Names.isAbsoluteText (h : selection.Names pattern names) :
    Path.isAbsoluteText (selection.anchor pattern) = true := by
  rw [← Path.isAbsolute_ofString]
  unfold Path.ofString Path.isAbsolute
  rw [h.root]
  rfl

/-- The paths that a pattern expands to in a tree without links. -/
def found (selection : Selection) (tree : FileNode) (pattern : String) : List Path :=
  (Expansion.sortedSpellings tree (selection.anchor pattern)).map
    fun spelling => ⟨.slash, spelled spelling⟩

section Linkless

variable (h : tree.Linkless)
include h

theorem expandPattern_eq_ok (hnames : selection.Names pattern names) (working : List String) :
    selection.expandPattern tree working pattern = .ok (selection.found tree pattern) := by
  unfold expandPattern
  dsimp only
  rw [if_neg (by simp [hnames.listable])]
  refine mapM_eq_ok fun spelling hspelling => ?_
  have hfound := List.mem_mergeSort.mp hspelling
  have habsolute := Expansion.isAbsoluteText_of_mem_spellings hnames.isAbsoluteText hfound
  have hsome := Expansion.isSome_of_mem_spellings h hnames.up hfound
  exact h.resolve ((Path.isAbsolute_ofString spelling).trans habsolute) hsome working

/-- A pattern that names a file expands to it just when it matches it. -/
theorem mem_found (hnames : selection.Names pattern names)
    (hfile : tree.kind? names = some .file) :
    ⟨.slash, names⟩ ∈ selection.found tree pattern ↔
      selection.patternMatches ⟨.slash, names⟩ pattern = true := by
  have hspelling : (∃ found ∈ Expansion.spellings tree ((selection.anchor pattern).length + 1) false
      (selection.anchor pattern), spelled found = names) ↔ _ :=
    Expansion.exists_spelling h (Nat.lt_succ_self _) hnames.up hfile nofun
  rw [hnames.patternMatches]
  unfold found Expansion.sortedSpellings
  rw [List.mem_map]
  simp only [List.mem_mergeSort, Path.mk.injEq, true_and]
  rw [hspelling]
  constructor
  · exact And.left
  · exact fun hmatch => ⟨hmatch, .inr (hnames.last hmatch)⟩

theorem exists_expandPatterns (hnames : ∀ pattern ∈ patterns, selection.Names pattern names)
    (hfile : tree.kind? names = some .file) (working : List String) :
    ∃ paths, selection.expandPatterns tree working patterns = .ok paths ∧
      (⟨.slash, names⟩ ∈ paths ↔
        patterns.any (selection.patternMatches ⟨.slash, names⟩) = true) := by
  have hfound : patterns.mapM (selection.expandPattern tree working) =
      .ok (patterns.map (selection.found tree)) :=
    mapM_eq_ok fun pattern hpattern => expandPattern_eq_ok h (hnames pattern hpattern) working
  refine ⟨(patterns.map (selection.found tree)).flatten.eraseDups, ?_, ?_⟩
  · unfold expandPatterns
    rw [hfound]
    rfl
  · rw [List.mem_eraseDups, List.mem_flatten, List.any_eq_true]
    constructor
    · rintro ⟨_, hmap, hmem⟩
      obtain ⟨pattern, hpattern, rfl⟩ := List.mem_map.mp hmap
      exact ⟨pattern, hpattern, (mem_found h (hnames pattern hpattern) hfile).mp hmem⟩
    · rintro ⟨pattern, hpattern, hmatch⟩
      exact ⟨_, List.mem_map_of_mem hpattern,
        (mem_found h (hnames pattern hpattern) hfile).mpr hmatch⟩

/-- A file is among those that a selection expands to when it is selected by its parts. -/
theorem exists_expand
    (hnames : ∀ pattern ∈ selection.includes ++ selection.excludes, selection.Names pattern names)
    (hfile : tree.kind? names = some .file) (working : List String) :
    ∃ paths, selection.expand tree working = .ok paths ∧
      (⟨.slash, names⟩ ∈ paths ↔ selection.selects ⟨.slash, names⟩ = true) := by
  obtain ⟨excluded, hexcluded, hexcludes⟩ := exists_expandPatterns h
    (fun pattern hpattern => hnames pattern (List.mem_append_right _ hpattern)) hfile working
  obtain ⟨included, hincluded, hincludes⟩ := exists_expandPatterns h
    (fun pattern hpattern => hnames pattern (List.mem_append_left _ hpattern)) hfile working
  refine ⟨included.filter fun path => !excluded.contains path && some path != selection.output &&
    tree.isFileAt path.names, ?_, ?_⟩
  · unfold expand
    rw [hexcluded, hincluded]
    rfl
  · unfold selects
    rw [List.mem_filter, h.isFileAt hfile, Bool.and_true, Bool.and_eq_true, Bool.and_eq_true,
      Bool.and_eq_true, ← hincludes, Bool.not_eq_true', Bool.not_eq_true', ← Bool.not_eq_true,
      ← Bool.not_eq_true, ← hexcludes, List.contains_iff_mem]
    tauto

end Linkless

end Selection

namespace Settings

variable {settings : Settings} {world built : World} {project : Project} {names : List String}

/-- Whether a change to a path is to be followed by a generation, in a tree. -/
def watches (settings : Settings) (path : Path) (tree : FileNode) (working : List String) :
    Except ProjectError Bool := do
  let root ← (settings.projectRoot.resolve tree working).mapError .unresolved
  let anchor ← (settings.projectRoot.resolve tree working).mapError .unresolved
  let output ← ((root.join settings.outputPath).resolve tree working).mapError .unresolved
  let resolved ← ((anchor.join path).resolve tree working).mapError .unresolved
  let selection : Selection := {
    includes := settings.includes
    excludes := settings.excludes
    root := anchor
    output := some output }
  return selection.selects resolved

theorem watches_eq_ok {tree : FileNode} {working : List String} {root output path resolved : Path}
    (hroot : settings.projectRoot.resolve tree working = .ok root)
    (houtput : (root.join settings.outputPath).resolve tree working = .ok output)
    (hpath : (root.join path).resolve tree working = .ok resolved) :
    settings.watches path tree working =
      .ok (Selection.selects ⟨settings.includes, settings.excludes, root, some output⟩ resolved) := by
  unfold watches
  rw [hroot]
  change (((root.join settings.outputPath).resolve tree working).mapError
    ProjectError.unresolved >>= _) = _
  rw [houtput]
  change (((root.join path).resolve tree working).mapError ProjectError.unresolved >>= _) = _
  rw [hpath]
  rfl

theorem reads_shouldRegenerate (settings : Settings) (path : Path) :
    Work.Reads (settings.shouldRegenerate path) (settings.watches path) := by
  refine (((Work.reads_resolve settings.projectRoot).bind fun root =>
    Work.reads_pure (root.join settings.outputPath)).bind fun output =>
      ((Work.reads_resolve settings.projectRoot).bind fun anchor =>
        ((Work.reads_resolve output).map some).bind fun resolved =>
          Work.reads_pure (Selection.mk settings.includes settings.excludes anchor resolved)).bind
        fun selection => (Work.reads_resolve (selection.root.join path)).map
          selection.selects).congr fun tree working => ?_
  unfold watches
  cases settings.projectRoot.resolve tree working with
  | error error => rfl
  | ok root =>
    change (((root.join settings.outputPath).resolve tree working).mapError ProjectError.unresolved
      |>.map some) >>= _ >>= _ = (((root.join settings.outputPath).resolve tree working).mapError
        ProjectError.unresolved >>= _)
    cases (root.join settings.outputPath).resolve tree working with
    | error error => rfl
    | ok output =>
      change Except.map _ (((root.join path).resolve tree working).mapError ProjectError.unresolved) =
        (((root.join path).resolve tree working).mapError ProjectError.unresolved >>= _)
      cases (root.join path).resolve tree working <;> rfl

/-- The root of the selection is the one the output hangs on: a resolved path is resolved. -/
theorem anchor_eq_root {tree : FileNode} {working : List String} {root anchor output : Path}
    (hlinkless : tree.Linkless)
    (h : Project.Resolved settings tree working project root anchor output) : anchor = root := by
  obtain ⟨-, -, hroot⟩ := Path.resolve_eq_ok_iff.mp h.root_eq
  have hsettled : tree.Settled root.names := by
    rw [hroot]
    exact hlinkless.settled fun name hname => (Path.mem_normalize hname).1
  have hslash : root.root = .slash := by rw [hroot]
  have habsolute : root.isAbsolute = true := by
    unfold Path.isAbsolute
    rw [hslash]
    rfl
  have hagain : root.resolve tree working = .ok ⟨.slash, root.names⟩ :=
    Path.resolve_of_settled habsolute hsettled (Path.resolve_eq_ok_iff.mp h.anchor_eq).1
  rw [h.anchor_eq] at hagain
  rw [Except.ok.inj hagain, ← hslash]

/-- In a tree without links the watch filter and the scan agree on every file that the
patterns name. -/
theorem shouldRegenerate_iff_mem_files (hlinkless : world.tree.Linkless)
    (hproject : settings.project world = (.ok project, built))
    (hfile : world.tree.kind? names = some .file)
    (hnames : ∀ pattern ∈ settings.includes ++ settings.excludes,
      project.selection.Names pattern names) :
    ∃ selected paths, (settings.shouldRegenerate ⟨.slash, names⟩ world).1 = .ok selected ∧
      (project.selection.files built).1 = .ok paths ∧
      (selected = true ↔ ⟨.slash, names⟩ ∈ paths) := by
  obtain ⟨hdescribed, htree, hworking⟩ := (Project.reads_described settings).ok hproject
  obtain ⟨root, anchor, output, hresolved⟩ := Project.described_eq_ok_iff.mp hdescribed
  obtain rfl := anchor_eq_root hlinkless hresolved
  have hpath : (anchor.join ⟨.slash, names⟩).resolve world.tree world.working =
      .ok ⟨.slash, names⟩ := by
    have hsome : (world.tree.kind? names).isSome := by
      rw [hfile]
      rfl
    exact hlinkless.resolve rfl hsome world.working
  obtain ⟨hroot, -, houtput, rfl⟩ := hresolved
  let selection : Selection := ⟨settings.includes, settings.excludes, anchor, some output⟩
  have hselection : ∀ pattern ∈ selection.includes ++ selection.excludes,
      selection.Names pattern names := hnames
  obtain ⟨paths, hexpand, hmem⟩ :=
    Selection.exists_expand hlinkless hselection hfile world.working
  obtain ⟨_, hwatched⟩ := (reads_shouldRegenerate settings ⟨.slash, names⟩).apply world
    (watches_eq_ok hroot houtput hpath)
  rw [← htree, ← hworking] at hexpand
  obtain ⟨_, hfiles⟩ :=
    (Analysis.reads_files selection).apply built (by rw [hexpand]; rfl)
  refine ⟨_, paths, ?_, ?_, hmem.symm⟩
  · rw [hwatched]
  · rw [hfiles]

/-- A source below the root is watched, so it is scanned. -/
theorem source_mem_files :
    let settings : Settings :=
      ⟨["src/**/*.py"], [], ⟨.slash, []⟩, ⟨.slash, ["gen.py"]⟩, RuntimeName.usual⟩
    let world : World := ⟨.directory [("src", .directory [("a.py", .file .empty)])], [], []⟩
    ∃ project built paths, settings.project world = (.ok project, built) ∧
      (project.selection.files built).1 = .ok paths ∧ ⟨.slash, ["src", "a.py"]⟩ ∈ paths := by
  intro settings world
  let output : Path := ⟨.slash, ["gen.py"]⟩
  let selection : Selection := ⟨["src/**/*.py"], [], ⟨.slash, []⟩, some output⟩
  have hproject : settings.project world = (.ok ⟨selection, output, RuntimeName.usual⟩, world) := rfl
  have hnames : selection.Names "src/**/*.py" ["src", "a.py"] := by
    have hspelled : spelled (selection.anchor "src/**/*.py") = ["src", "**"] ++ ["*.py"] := by
      decide
    refine ⟨by decide, by decide, by decide, fun _ => ⟨?_, ?_⟩⟩
    · unfold EndsInName
      decide
    · rw [hspelled]
      exact ⟨_, _, ["src"], ["a.py"], rfl, rfl, List.cons_ne_nil _ _, by decide,
        by decide⟩
  obtain ⟨selected, paths, hselected, hpaths, hiff⟩ := shouldRegenerate_iff_mem_files
    (FileNode.linkless_of_isLinkless rfl (by decide)) hproject rfl
    (fun pattern hpattern => by rwa [List.mem_singleton.mp hpattern])
  have htrue : (settings.shouldRegenerate ⟨.slash, ["src", "a.py"]⟩ world).1 = .ok true := by
    have hselects : selection.selects ⟨.slash, ["src", "a.py"]⟩ = true := by decide
    change Except.ok (selection.selects ⟨.slash, ["src", "a.py"]⟩) = _
    rw [hselects]
  rw [htrue] at hselected
  cases hselected
  exact ⟨_, _, paths, hproject, hpaths, hiff.mp rfl⟩

end Settings

end Registrar
