import Registrar.Proofs.Project.Generation
import Registrar.Proofs.Selection.Expansion

/-! # After a generation

Once a generation has succeeded, the container module is what a rendering of the
tree gives. By the time files are scanned the module stands at its place, so that
writing it changes the octets of one file only. No selected file is that one: both
are resolved, unless a path met a circle of links.
-/

namespace Registrar

namespace FileNode

/-- A path leads to a file with some octets. -/
structure Holds (tree : FileNode) (pieces place : List String) (content : ByteArray) : Prop where
  located : tree.locate true pieces = .ok (.existing place)
  octets : tree.get? place = some (.file content)

variable {tree other written : FileNode} {pieces place parent : List String} {name : String}
  {content : ByteArray} {path : Path}

theorem Holds.status (h : tree.Holds pieces place content) :
    tree.status pieces = .ok (.file content) := by
  unfold FileNode.status
  rw [h.located]
  dsimp only
  rw [h.octets]

theorem Holds.textAt {text : String} (h : tree.Holds path.names place content)
    (htext : Work.decode? content = some text) : Work.textAt path tree = .ok (some text) := by
  unfold Work.textAt FileNode.read
  rw [h.status]
  dsimp only
  rw [htext]

theorem status_eq_ok {node : FileNode} (h : tree.status pieces = .ok node) :
    ∃ place, tree.locate true pieces = .ok (.existing place) ∧ tree.get? place = some node := by
  unfold FileNode.status at h
  split at h
  next => cases h
  next => cases h
  next place hlocate =>
    split at h
    next found hfound =>
      cases h
      exact ⟨place, hlocate, hfound⟩
    next => cases h

/-- What exists and can be read as a text is a file. -/
theorem holds_of_textAt {current : Option String} (hroot : tree.kind? [] = some .directory)
    (hexists : tree.pathExists path.names = true) (htext : Work.textAt path tree = .ok current) :
    ∃ place content, tree.Holds path.names place content := by
  unfold FileNode.pathExists at hexists
  unfold Work.textAt FileNode.read at htext
  cases hstatus : tree.status path.names with
  | error error =>
    rw [hstatus] at hexists
    cases hexists
  | ok node =>
    obtain ⟨place, hlocate, hnode⟩ := status_eq_ok hstatus
    rw [hstatus] at htext
    cases node with
    | file content => exact ⟨place, content, hlocate, hnode⟩
    | directory entries => cases htext
    | link target =>
      obtain ⟨kind, hkind, hlink⟩ := fits_of_locate hroot hlocate
      unfold FileNode.kind? at hkind
      rw [hnode] at hkind
      exact absurd (Option.some.inj hkind).symm (hlink rfl target)

end FileNode

namespace Work

variable {path : Path} {text : String} {tree made written : FileNode} {place : List String}
  {content : ByteArray}

section Root

variable (hroot : tree.kind? [] = some .directory) (h : Writes path text tree made written)
include hroot h

theorem Writes.grows : tree.Grows written := by
  have hmade : tree.Grows made := by
    have hgrows := FileNode.grows_of_makeDirectories hroot path.names.dropLast.reverse
    rwa [h.directories] at hgrows
  obtain ⟨_, _, _, hwritten⟩ := FileNode.written_of_write (hmade.kinds _ _ hroot) h.file
  exact hmade.trans hwritten.grows

theorem Writes.holds : ∃ place, written.Holds path.names place text.toUTF8 := by
  have hmade : made.kind? [] = some .directory := by
    have hgrows := FileNode.grows_of_makeDirectories hroot path.names.dropLast.reverse
    rw [h.directories] at hgrows
    exact hgrows.kinds _ _ hroot
  obtain ⟨_, _, _, hwritten⟩ := FileNode.written_of_write hmade h.file
  exact ⟨_, hwritten.locate, hwritten.get?⟩

/-- Writing a file that was there changes its octets and nothing else. -/
theorem Writes.replaces (hholds : tree.Holds path.names place content) :
    written.skeleton = tree.skeleton ∧ written.Holds path.names place text.toUTF8 ∧
      ∀ names octets, names ≠ place → tree.get? names = some (.file octets) →
        written.get? names = some (.file octets) := by
  have hmade : made = tree := by
    have hmake := FileNode.makeDirectories_of_exists hholds.located
    rwa [h.directories] at hmake
  subst made
  obtain ⟨_, parent, name, hwritten⟩ := FileNode.written_of_write hroot h.file
  have hplace : place = parent ++ [name] := by
    have hlocated := hwritten.located
    rw [hholds.located] at hlocated
    cases hlocated
    exact hwritten.names
  subst place
  have hfile : tree.kind? (parent ++ [name]) = some .file := by
    unfold FileNode.kind?
    rw [hholds.octets]
    rfl
  exact ⟨hwritten.skeleton hfile, ⟨hwritten.locate, hwritten.get?⟩,
    fun _ _ => hwritten.get?_other⟩

end Root

end Work

namespace Selection

/-- No match of an include pattern meets a circle of links. -/
def Straight (selection : Selection) (tree : FileNode) (working : List String) : Prop :=
  ∀ pattern ∈ selection.includes,
    ∀ spelling ∈ Expansion.sortedSpellings tree (selection.anchor pattern),
      tree.Straight ((Path.ofString spelling).pieces working)

variable {selection : Selection} {tree other : FileNode} {working : List String} {paths : List Path}
  {path : Path}

theorem isFileAt_of_mem_expand (hexpand : selection.expand tree working = .ok paths)
    (hpath : path ∈ paths) :
    tree.isFileAt path.names = true ∧ some path ≠ selection.output ∧ path.root = .slash := by
  obtain ⟨_, included, -, hincluded, hmem⟩ := mem_expand hexpand
  obtain ⟨hmatch, -, houtput, hfile⟩ := (hmem path).mp hpath
  obtain ⟨_, -, _, -, hresolve⟩ := mem_expandPatterns hincluded hmatch
  obtain ⟨-, -, hresolved⟩ := Path.resolve_eq_ok_iff.mp hresolve
  exact ⟨hfile, houtput, by rw [hresolved]⟩

/-- Without circles of links there is no link left on a selected path. -/
theorem Straight.settled (h : selection.Straight tree working)
    (hexpand : selection.expand tree working = .ok paths) (hpath : path ∈ paths) :
    tree.Settled path.names := by
  obtain ⟨_, included, -, hincluded, hmem⟩ := mem_expand hexpand
  obtain ⟨pattern, hpattern, spelling, hspelling, hresolve⟩ :=
    mem_expandPatterns hincluded ((hmem path).mp hpath).1
  exact (Path.settled_of_resolve (h pattern hpattern spelling hspelling) hresolve).2.1

end Selection

variable {tree middle written : FileNode} {working place : List String}

/-- Selected files elsewhere are scanned alike when one file changes its octets. -/
theorem Analysis.exports_of_elsewhere {selection : Selection}
    (hskeleton : written.skeleton = tree.skeleton)
    (hother : ∀ names octets, names ≠ place → tree.get? names = some (.file octets) →
      written.get? names = some (.file octets))
    (helsewhere : ∀ paths, selection.expand tree working = .ok paths → ∀ path ∈ paths,
      tree.isFileAt path.names = true ∧ tree.locate true path.names ≠ .ok (.existing place)) :
    exports selection written working = exports selection tree working := by
  unfold exports
  rw [Selection.expand_of_skeleton hskeleton]
  cases hexpand : selection.expand tree working with
  | error error => rfl
  | ok paths =>
    have hscan (path : Path) (hpath : path ∈ paths) :
        scanFile .usual written path = scanFile .usual tree path := by
      obtain ⟨hfile, hne⟩ := helsewhere paths hexpand path hpath
      have hread : written.read path.names = tree.read path.names := by
        unfold FileNode.isFileAt at hfile
        cases hstatus : tree.status path.names with
        | error error =>
          rw [hstatus] at hfile
          cases hfile
        | ok node =>
          rw [hstatus] at hfile
          obtain ⟨names, hlocate, hnode⟩ := FileNode.status_eq_ok hstatus
          have hnames : names ≠ place := by
            rintro rfl
            exact hne hlocate
          cases node with
          | file octets =>
            have hholds : written.Holds path.names names octets :=
              ⟨(FileNode.locate_of_skeleton hskeleton true _).trans hlocate,
                hother _ _ hnames hnode⟩
            unfold FileNode.read
            rw [hstatus, hholds.status]
          | _ => cases hfile
      unfold scanFile textAt?
      rw [hread]
    have hscans : paths.map (fun path => (path, (scanFile .usual written path).2)) =
        paths.map fun path => (path, (scanFile .usual tree path).2) :=
      List.map_congr_left fun path hpath => by rw [hscan path hpath]
    change Except.ok (FileExports.number 0 _) = Except.ok (FileExports.number 0 _)
    rw [hscans]

namespace Project

variable {project : Project} {wrote changed : Bool} {text : String} {world after : World}
  {result : GenerationResult} {output : Path}

theorem moduleText_of_skeleton (hskeleton : written.skeleton = tree.skeleton)
    (files : List FileExports) (working : List String) :
    project.moduleText files written working = project.moduleText files tree working := by
  unfold moduleText
  rw [Path.resolve_of_skeleton hskeleton]

theorem decode?_of_moduleText {files : List FileExports}
    (h : project.moduleText files tree working = .ok text) :
    Work.decode? text.toUTF8 = some text := by
  unfold moduleText at h
  split at h
  next => cases h
  next =>
    cases houtput : project.output.resolve tree working with
    | error error =>
      rw [houtput] at h
      cases h
    | ok output =>
      rw [houtput] at h
      change (Catalogue.render project.runtimeModule output.parent.names files).2.mapError
        ProjectError.catalogue = .ok text at h
      cases hrender : (Catalogue.render project.runtimeModule output.parent.names files).2 with
      | error error =>
        rw [hrender] at h
        cases h
      | ok rendered =>
        rw [hrender] at h
        cases h
        exact Catalogue.decode?_of_render hrender

section Root

variable (hroot : tree.kind? [] = some .directory)
include hroot

theorem Placed.grows (h : project.Placed tree wrote middle) : tree.Grows middle := by
  cases h with
  | there => exact FileNode.Grows.refl tree
  | written _ _ _ _ hwrites => exact hwrites.grows hroot

theorem Updated.grows (h : project.Updated text tree changed middle) : tree.Grows middle := by
  cases h with
  | same => exact FileNode.Grows.refl tree
  | written _ _ _ _ _ hwrites => exact hwrites.grows hroot

/-- When files are scanned, the container module stands at its place. -/
theorem Placed.holds (h : project.Placed tree wrote middle)
    (hupdated : project.Updated text middle changed written) :
    ∃ place content, middle.Holds project.output.names place content := by
  cases h with
  | there hexists =>
    cases hupdated with
    | same htext => exact FileNode.holds_of_textAt hroot hexists htext
    | written _ _ _ htext => exact FileNode.holds_of_textAt hroot hexists htext
  | written _ _ _ _ hwrites =>
    obtain ⟨place, hholds⟩ := hwrites.holds hroot
    exact ⟨place, _, hholds⟩

end Root

/-- The module that a selection leaves out is the one that is written. -/
structure LeavesOut (project : Project) (tree : FileNode) (output : Path) : Prop where
  selected : project.selection.output = some output
  slash : output.root = .slash
  leads : tree.Leads [] project.output.names output.names

/-- A selected path that was resolved only halfway, on a circle of links, does not lead to
the container module. -/
def SelectsApart (project : Project) (tree : FileNode) (working : List String) : Prop :=
  ∀ paths, project.selection.expand tree working = .ok paths → ∀ path ∈ paths,
    ¬tree.Settled path.names →
      tree.locate true path.names ≠ tree.locate true project.output.names

/-- Without circles of links no selected path was resolved only halfway. -/
theorem selectsApart_of_straight (h : project.selection.Straight tree working) :
    project.SelectsApart tree working :=
  fun _ hexpand _ hpath hunsettled => absurd (h.settled hexpand hpath) hunsettled

/-- No selected path leads to the container module. -/
theorem LeavesOut.elsewhere {paths : List Path} {path : Path} {content : ByteArray}
    (houtput : project.LeavesOut tree output) (hapart : project.SelectsApart tree working)
    (hholds : tree.Holds project.output.names place content)
    (hexpand : project.selection.expand tree working = .ok paths) (hpath : path ∈ paths) :
    tree.locate true path.names ≠ .ok (.existing place) := by
  obtain ⟨-, hne, hslash⟩ := Selection.isFileAt_of_mem_expand hexpand hpath
  intro hlocate
  by_cases hsettled : tree.Settled path.names
  · refine hne ?_
    have hplace : place = output.names :=
      (FileNode.leads_of_follow hholds.located).unique houtput.leads
    have hnames : path.names = output.names := (hsettled.locate hlocate).symm.trans hplace
    obtain ⟨root, names⟩ := path
    obtain ⟨root', names'⟩ := output
    cases hslash
    cases houtput.slash
    cases hnames
    exact houtput.selected.symm
  · exact hapart paths hexpand path hpath hsettled (hlocate.trans hholds.located.symm)

/-- After a generation the container module is current. -/
theorem current_of_generate (hroot : world.tree.kind? [] = some .directory)
    (hgenerate : project.generate world = (.ok result, after))
    (houtput : project.LeavesOut after.tree output)
    (hapart : project.SelectsApart after.tree after.working) :
    project.Current after.tree after.working := by
  obtain ⟨wrote, middle, files, text, changed, hplaced, hfiles, htext, hupdated, hworking, -⟩ :=
    generate_eq_ok hgenerate
  have hroot' : middle.kind? [] = some .directory := (hplaced.grows hroot).kinds _ _ hroot
  obtain ⟨place, content, hholds⟩ := hplaced.holds hroot hupdated
  rw [hworking] at hapart ⊢
  refine ⟨text, ?_, ?_⟩
  · unfold rendering
    cases hupdated with
    | same =>
      rw [hfiles]
      exact htext
    | written _ _ _ _ _ hwrites =>
      obtain ⟨hskeleton, hheld, hother⟩ := hwrites.replaces hroot' hholds
      rw [Analysis.exports_of_elsewhere hskeleton hother, hfiles]
      · exact (moduleText_of_skeleton hskeleton files _).trans htext
      · intro paths hexpand path hpath
        refine ⟨(Selection.isFileAt_of_mem_expand hexpand hpath).1, ?_⟩
        rw [← Selection.expand_of_skeleton hskeleton] at hexpand
        rw [← FileNode.locate_of_skeleton hskeleton]
        exact houtput.elsewhere hapart hheld hexpand hpath
  · cases hupdated with
    | same hsame => exact hsame
    | written _ _ _ _ _ hwrites =>
      exact (hwrites.replaces hroot' hholds).2.1.textAt (decode?_of_moduleText htext)

/-- A generation adds to a tree. -/
theorem grows_of_generate (hroot : world.tree.kind? [] = some .directory)
    (hgenerate : project.generate world = (.ok result, after)) :
    world.tree.Grows after.tree ∧ after.working = world.working := by
  obtain ⟨_, _, _, _, _, hplaced, -, -, hupdated, hworking, -⟩ := generate_eq_ok hgenerate
  have hgrows := hplaced.grows hroot
  exact ⟨hgrows.trans (hupdated.grows (hgrows.kinds _ _ hroot)), hworking⟩

end Project

end Registrar
