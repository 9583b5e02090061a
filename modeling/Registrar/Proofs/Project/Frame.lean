import Registrar.Proofs.Files.Touching
import Registrar.Proofs.Project.Aftermath

/-! # What a generation touches

Whatever comes of a generation, it touches the container module and the directories above it only.
It says that it changed the module exactly if the octets of the module are others than before. When
the module cannot be generated, the one that was there is kept, and where none was there may now be
the empty one.
-/

namespace Registrar

namespace Work

variable {α β : Type} {pieces : List String}

/-- Work that touches only the file a path leads to and the directories above it, however it ends. -/
def Within (pieces : List String) (work : Work α) : Prop :=
  ∀ world : World, world.tree.kind? [] = some .directory →
    world.tree.Grows (work world).2.tree ∧ world.tree.TouchesOnly pieces (work world).2.tree

theorem within_of_tree {work : Work α} (h : ∀ world, (work world).2.tree = world.tree) :
    Within pieces work := by
  intro world _
  rw [h world]
  exact ⟨.refl _, .refl _ _⟩

theorem Reads.tree {work : Work α} {value : FileNode → List String → Except ProjectError α}
    (h : Reads work value) (world : World) : (work world).2.tree = world.tree := by
  obtain ⟨events, hwork⟩ := h world
  rw [hwork]

theorem Reads.within {work : Work α} {value : FileNode → List String → Except ProjectError α}
    (h : Reads work value) : Within pieces work :=
  within_of_tree h.tree

theorem Within.bind {work : Work α} {next : α → Work β} (h : Within pieces work)
    (hnext : ∀ value, Within pieces (next value)) : Within pieces (work >>= next) := by
  intro world hroot
  obtain ⟨hgrows, htouches⟩ := h world hroot
  rw [bind_apply]
  rcases hwork : work world with ⟨error | value, middle⟩
  · rw [hwork] at hgrows htouches
    exact ⟨hgrows, htouches⟩
  · rw [hwork] at hgrows htouches
    obtain ⟨hgrows', htouches'⟩ := hnext value middle (hgrows.kinds _ _ hroot)
    exact ⟨hgrows.trans hgrows', htouches.trans htouches' hgrows'⟩

/-- Writing a text ends where making the directories or writing the file does. -/
theorem writeText_apply (path : Path) (text : String) (world : World) :
    writeText path text world =
      match world.tree.makeDirectories path.names.dropLast.reverse with
      | (made, .error error) => (.error (.file error), { world with tree := made })
      | (made, .ok ()) =>
        match made.write path.names text.toUTF8 with
        | .error error => (.error (.file error), { world with tree := made })
        | .ok written => (.ok (), { world with tree := written }) := by
  unfold writeText
  rw [bind_apply]
  let making := world.tree.makeDirectories path.names.dropLast.reverse
  change (do
    modify fun world : World => { world with tree := making.1 }
    ofFiles making.2
    let tree ← ofFiles (making.1.write path.names text.toUTF8)
    modify fun world : World => { world with tree } : Work Unit) world =
      match making with
      | (made, .error error) => (.error (.file error), { world with tree := made })
      | (made, .ok ()) => _
  rcases making with ⟨made, error | _⟩
  · rfl
  · dsimp only
    cases made.write path.names text.toUTF8 <;> rfl

theorem within_writeText (path : Path) (text : String) :
    Within path.names (writeText path text) := by
  intro world hroot
  have hgrows := FileNode.grows_of_makeDirectories hroot path.names.dropLast.reverse
  have hreversed : path.names.dropLast.reverse.reverse <+: path.names.dropLast :=
    List.reverse_reverse _ ▸ List.prefix_rfl
  have htouches := FileNode.touchesOnly_of_makeDirectories hroot _ hreversed
  rw [writeText_apply]
  revert hgrows htouches
  rcases world.tree.makeDirectories path.names.dropLast.reverse with ⟨made, error | _⟩
  · exact fun hgrows htouches => ⟨hgrows, htouches⟩
  · intro hgrows htouches
    dsimp only
    cases hwrite : made.write path.names text.toUTF8 with
    | error error => exact ⟨hgrows, htouches⟩
    | ok written =>
      obtain ⟨_, _, _, hwritten⟩ := FileNode.written_of_write (hgrows.kinds _ _ hroot) hwrite
      exact ⟨hgrows.trans hwritten.grows, htouches.trans hwritten.touchesOnly hwritten.grows⟩

/-- Writing fails with errors of files only. -/
theorem writeText_ne_catalogue (path : Path) (text : String) (world : World)
    (error : CatalogueError) : (writeText path text world).1 ≠ .error (.catalogue error) := by
  rw [writeText_apply]
  rcases world.tree.makeDirectories path.names.dropLast.reverse with ⟨made, failure | _⟩
  · exact nofun
  · dsimp only
    cases made.write path.names text.toUTF8 <;> exact nofun

theorem bind_eq_error_iff {work : Work α} {next : α → Work β} {world after : World}
    {error : ProjectError} :
    (work >>= next) world = (.error error, after) ↔
      work world = (.error error, after) ∨
        ∃ value middle, work world = (.ok value, middle) ∧
          next value middle = (.error error, after) := by
  rw [bind_apply]
  rcases work world with ⟨failure | value, middle⟩
  · exact ⟨fun h => .inl (by cases h; rfl), fun h => by
      rcases h with h | ⟨_, _, h, _⟩
      · cases h; rfl
      · cases h⟩
  · exact ⟨fun h => .inr ⟨value, middle, rfl, h⟩, fun h => by
      rcases h with h | ⟨_, _, h, hnext⟩
      · cases h
      · cases h; exact hnext⟩

theorem Reads.error {work : Work α} {value : FileNode → List String → Except ProjectError α}
    {world after : World} {error : ProjectError} (h : Reads work value)
    (hwork : work world = (.error error, after)) :
    value world.tree world.working = .error error ∧ after.tree = world.tree := by
  obtain ⟨events, hreads⟩ := h world
  rw [hreads] at hwork
  obtain ⟨hvalue, rfl⟩ := Prod.mk.inj hwork
  exact ⟨hvalue, rfl⟩

theorem textAt_ne_catalogue (path : Path) (tree : FileNode) (error : CatalogueError) :
    textAt path tree ≠ .error (.catalogue error) := by
  unfold textAt
  split
  · exact nofun
  · exact nofun
  · split <;> exact nofun

/-- A file whose text can be read has octets, which decode to the text. -/
theorem read_of_textAt {path : Path} {tree : FileNode} {text : String}
    (h : textAt path tree = .ok (some text)) :
    ∃ octets, tree.read path.names = .ok octets ∧ decode? octets = some text := by
  unfold textAt at h
  split at h
  next => cases h
  next => cases h
  next octets hread =>
    split at h
    next found hfound =>
      cases h
      exact ⟨octets, hread, hfound⟩
    next => cases h

end Work

theorem FileNode.Holds.read {tree : FileNode} {pieces place : List String} {content : ByteArray}
    (h : tree.Holds pieces place content) : tree.read pieces = .ok content := by
  unfold FileNode.read
  rw [h.status]

theorem FileNode.read_of_not_exists {tree : FileNode} {pieces : List String} {content : ByteArray}
    (h : tree.pathExists pieces = false) : tree.read pieces ≠ .ok content := by
  unfold FileNode.pathExists at h
  unfold FileNode.read
  cases hstatus : tree.status pieces with
  | error error => exact nofun
  | ok node =>
    rw [hstatus] at h
    cases h

namespace Project

variable {project : Project} {world after : World} {result : GenerationResult}
  {tree middle written : FileNode} {text : String} {octets : ByteArray} {error : CatalogueError}

/-- A placeholder is the module of no files, written where nothing is. -/
theorem writePlaceholder_apply (project : Project) (world : World) :
    project.writePlaceholder world =
      if world.tree.pathExists project.output.names then (.ok false, world)
      else (Work.report .placeholder >>= fun _ => project.renderFiles [] >>= fun text =>
        Work.writeText project.output text >>= fun _ => pure true) world := by
  unfold writePlaceholder
  rw [Work.bind_apply]
  change (if world.tree.pathExists project.output.names then (pure false : Work Bool) else _)
    world = _
  split <;> rfl

theorem within_writePlaceholder (project : Project) :
    Work.Within project.output.names project.writePlaceholder := by
  intro world hroot
  rw [writePlaceholder_apply]
  split
  · exact ⟨.refl _, .refl _ _⟩
  · exact ((Work.reads_report _).within.bind fun _ => (project.reads_renderFiles []).within.bind
      fun text => (Work.within_writeText project.output text).bind fun _ =>
        (Work.reads_pure true).within) world hroot

theorem within_writeIfChanged (project : Project) (text : String) :
    Work.Within project.output.names (project.writeIfChanged text) := by
  refine (Work.reads_readText? project.output).within.bind fun current => ?_
  split
  · exact ((Work.reads_report _).bind fun _ => Work.reads_pure false).within
  · exact (Work.within_writeText project.output text).bind fun _ => (Work.reads_pure true).within

theorem within_generate (project : Project) :
    Work.Within project.output.names project.generate :=
  (Work.reads_report _).within.bind fun _ => project.within_writePlaceholder.bind fun _ =>
    (Analysis.reads_run project.selection).within.bind fun files =>
      (project.reads_renderFiles files).within.bind fun text =>
        (project.within_writeIfChanged text).bind fun _ =>
          ((Work.reads_report _).bind fun _ => Work.reads_pure _).within

/-! ## What is said of the change -/

theorem read_of_writes (hroot : tree.kind? [] = some .directory) {made : FileNode}
    (h : Work.Writes project.output text tree made written) :
    written.read project.output.names = .ok text.toUTF8 := by
  obtain ⟨_, hholds⟩ := h.holds hroot
  exact hholds.read

/-- Octets that are read back as a module's text are kept; a module is written over others. -/
theorem Updated.read {changed : Bool} {files : List FileExports} {working : List String}
    (hroot : tree.kind? [] = some .directory)
    (htext : project.moduleText files tree working = .ok text)
    (h : project.Updated text tree changed written) :
    ∃ octets, written.read project.output.names = .ok octets ∧
      (changed = true ↔ tree.read project.output.names ≠ .ok octets) := by
  cases h with
  | same hsame =>
    obtain ⟨octets, hread, -⟩ := Work.read_of_textAt hsame
    exact ⟨octets, hread, iff_of_false Bool.false_ne_true fun hne => hne hread⟩
  | written current made _ hcurrent hother hwrites =>
    refine ⟨text.toUTF8, read_of_writes hroot hwrites, iff_of_true rfl fun hread => hother ?_⟩
    have hdecoded := decode?_of_moduleText htext
    unfold Work.textAt at hcurrent
    rw [hread] at hcurrent
    dsimp only at hcurrent
    rw [hdecoded] at hcurrent
    exact (Except.ok.inj hcurrent).symm

theorem changed_iff_read_ne (hroot : world.tree.kind? [] = some .directory)
    (hgenerate : project.generate world = (.ok result, after)) :
    ∃ octets, after.tree.read project.output.names = .ok octets ∧
      (result.changed = true ↔ world.tree.read project.output.names ≠ .ok octets) := by
  obtain ⟨wrote, middle, files, text, changed, hplaced, -, htext, hupdated, -, hchanged⟩ :=
    generate_eq_ok hgenerate
  obtain ⟨octets, hread, hiff⟩ := hupdated.read ((hplaced.grows hroot).kinds _ _ hroot) htext
  refine ⟨octets, hread, ?_⟩
  rw [hchanged]
  cases hplaced with
  | there => rw [Bool.or_false, hiff]
  | written _ _ _ hmissing => simpa using FileNode.read_of_not_exists hmissing

/-! ## Failures of the rendering -/

/-- What is written before the analysis is the module of no files. -/
theorem placeholder_of_writePlaceholder {wrote : Bool} (hroot : world.tree.kind? [] = some .directory)
    (h : project.writePlaceholder world = (.ok wrote, after)) :
    after.tree = world.tree ∨ world.tree.pathExists project.output.names = false ∧
      ∃ text, project.moduleText [] world.tree world.working = .ok text ∧
        after.tree.read project.output.names = .ok text.toUTF8 := by
  obtain ⟨-, -, rfl⟩ | ⟨-, hmissing, -, text, made, htext, hwrites⟩ := writePlaceholder_eq_ok h
  · exact .inl rfl
  · exact .inr ⟨hmissing, text, htext, read_of_writes hroot hwrites⟩

theorem tree_of_writePlaceholder_error
    (h : project.writePlaceholder world = (.error (.catalogue error), after)) :
    after.tree = world.tree := by
  rw [writePlaceholder_apply] at h
  split at h
  next => cases h
  next =>
    rcases Work.bind_eq_error_iff.mp h with h | ⟨_, first, hreport, h⟩
    · cases h
    · cases hreport
      rcases Work.bind_eq_error_iff.mp h with h | ⟨text, second, -, h⟩
      · exact ((project.reads_renderFiles []).error h).2
      · rcases Work.bind_eq_error_iff.mp h with h | ⟨_, _, -, h⟩
        · exact absurd (congrArg Prod.fst h) (Work.writeText_ne_catalogue _ _ _ _)
        · cases h

theorem writeIfChanged_ne_catalogue (project : Project) (text : String) (world : World) :
    (project.writeIfChanged text world).1 ≠ .error (.catalogue error) := by
  intro h
  obtain ⟨after, h⟩ : ∃ after, project.writeIfChanged text world = (.error (.catalogue error), after) :=
    ⟨_, Prod.ext h rfl⟩
  rcases Work.bind_eq_error_iff.mp h with h | ⟨current, _, -, h⟩
  · exact Work.textAt_ne_catalogue _ _ _ ((Work.reads_readText? project.output).error h).1
  · split at h
    next => cases h
    next =>
      rcases Work.bind_eq_error_iff.mp h with h | ⟨_, _, -, h⟩
      · exact Work.writeText_ne_catalogue _ _ _ _ (congrArg Prod.fst h)
      · cases h

theorem exports_ne_catalogue (selection : Selection) (tree : FileNode) (working : List String) :
    Analysis.exports selection tree working ≠ .error (.catalogue error) := by
  unfold Analysis.exports
  cases selection.expand tree working <;> exact nofun

/-- When the module cannot be generated, nothing has changed, or the empty module is where none
was. -/
theorem tree_of_generate_error (hroot : world.tree.kind? [] = some .directory)
    (h : project.generate world = (.error (.catalogue error), after)) :
    after.tree = world.tree ∨ world.tree.pathExists project.output.names = false ∧
      ∃ text, project.moduleText [] world.tree world.working = .ok text ∧
        after.tree.read project.output.names = .ok text.toUTF8 := by
  rcases Work.bind_eq_error_iff.mp h with h | ⟨_, first, hreport, h⟩
  · cases h
  have hworld : first.tree = world.tree ∧ first.working = world.working := by
    cases hreport
    exact ⟨rfl, rfl⟩
  rw [← hworld.1] at hroot
  rw [← hworld.1, ← hworld.2]
  rcases Work.bind_eq_error_iff.mp h with h | ⟨wrote, second, hplaced, h⟩
  · exact .inl (tree_of_writePlaceholder_error h)
  have hsecond := placeholder_of_writePlaceholder hroot hplaced
  rcases Work.bind_eq_error_iff.mp h with h | ⟨files, third, hfiles, h⟩
  · exact absurd ((Analysis.reads_run project.selection).error h).1 (exports_ne_catalogue _ _ _)
  have hthird := ((Analysis.reads_run project.selection).ok hfiles).2.1
  rcases Work.bind_eq_error_iff.mp h with h | ⟨text, fourth, -, h⟩
  · rw [((project.reads_renderFiles files).error h).2, hthird]
    exact hsecond
  rcases Work.bind_eq_error_iff.mp h with h | ⟨_, _, -, h⟩
  · exact absurd (congrArg Prod.fst h) (project.writeIfChanged_ne_catalogue _ _)
  rcases Work.bind_eq_error_iff.mp h with h | ⟨_, _, -, h⟩ <;> cases h

theorem generate_touchesOnly (project : Project) (world : World)
    (hroot : world.tree.kind? [] = some .directory) :
    world.tree.TouchesOnly project.output.names (project.generate world).2.tree ∧
    (∀ result after, project.generate world = (.ok result, after) →
      ∃ octets, after.tree.read project.output.names = .ok octets ∧
        (result.changed = true ↔ world.tree.read project.output.names ≠ .ok octets)) ∧
    ∀ error after, project.generate world = (.error (.catalogue error), after) →
      after.tree = world.tree ∨ world.tree.pathExists project.output.names = false ∧
        ∃ text, (project.placeholder world).1 = .ok text ∧
          after.tree.read project.output.names = .ok text.toUTF8 := by
  refine ⟨(project.within_generate world hroot).2, fun result after hgenerate =>
    changed_iff_read_ne hroot hgenerate, fun error after hgenerate => ?_⟩
  rcases tree_of_generate_error hroot hgenerate with htree | ⟨hmissing, text, htext, hread⟩
  · exact .inl htree
  · obtain ⟨events, hplaceholder⟩ := (project.reads_renderFiles []).apply world htext
    exact .inr ⟨hmissing, text, congrArg Prod.fst hplaceholder, hread⟩

/-- The module is there, and cannot be generated. -/
theorem unnamed_touchesOnly :
    let project : Project := ⟨⟨[], [], ⟨.slash, []⟩, some ⟨.slash, ["gen.py"]⟩⟩, ⟨.slash, ["gen.py"]⟩, ""⟩
    let world : World := ⟨.directory [("gen.py", .file "x = 1\r\n".toUTF8)], [], []⟩
    world.tree.kind? [] = some .directory ∧
      world.tree.TouchesOnly ["gen.py"] (project.generate world).2.tree ∧
      ∃ after, project.generate world = (.error (.catalogue (.runtimeName "")), after) ∧
        after.tree = world.tree := by
  intro project world
  have hexists : world.tree.pathExists project.output.names = true := rfl
  have hfailed : ∃ after,
      project.generate world = (.error (.catalogue (.runtimeName "")), after) := ⟨_, rfl⟩
  obtain ⟨after, hfailed⟩ := hfailed
  obtain ⟨htouches, -, hkept⟩ := generate_touchesOnly project world rfl
  refine ⟨rfl, htouches, after, hfailed, (hkept _ _ hfailed).resolve_right fun hmissing => ?_⟩
  rw [hexists] at hmissing
  cases hmissing.1

end Project

end Registrar
