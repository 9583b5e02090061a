import Registrar.Proofs.Project.Frame

/-! # Why a command fails

The failures of a check and of a generation, each with its error: the empty module cannot be put where
there is none, the module cannot be rendered, the one that is there cannot be read, or the new one
cannot be written. A command fails with an error exactly for one of these.
-/

namespace Registrar

open CommandLine (Command)

theorem except_bind_eq_error_iff {ε α β : Type} {value : Except ε α} {next : α → Except ε β} {error : ε} :
    value >>= next = .error error ↔
      value = .error error ∨ ∃ result, value = .ok result ∧ next result = .error error := by
  cases value with
  | error failure =>
    exact ⟨fun h => .inl (by cases h; rfl), fun h => h.elim (fun h => by cases h; rfl) nofun⟩
  | ok result =>
    exact ⟨fun h => .inr ⟨result, rfl, h⟩, fun h => h.elim nofun fun ⟨_, h, hnext⟩ => by
      cases h; exact hnext⟩

namespace Work

variable {α β : Type} {work : Work α} {world : World} {error : ProjectError}

theorem bind_fails_iff {next : α → Work β} :
    ((work >>= next) world).1 = .error error ↔ (work world).1 = .error error ∨
      ∃ value after, work world = (.ok value, after) ∧ (next value after).1 = .error error := by
  rw [bind_apply]
  rcases work world with ⟨failure | value, after⟩
  · exact ⟨fun h => .inl (by cases h; rfl), fun h => h.elim (fun h => by cases h; rfl) nofun⟩
  · exact ⟨fun h => .inr ⟨value, after, rfl, h⟩, fun h => h.elim nofun fun ⟨_, _, h, hnext⟩ => by
      cases h; exact hnext⟩

/-- Work that reads fails, or what follows it does; on the events so far neither depends. -/
theorem Reads.bind_fails_iff {value : FileNode → List String → Except ProjectError α}
    {next : α → Work β} {fails : α → Prop} (h : Reads work value)
    (hnext : ∀ result events,
      (next result { world with events }).1 = .error error ↔ fails result) :
    ((work >>= next) world).1 = .error error ↔ value world.tree world.working = .error error ∨
      ∃ result, value world.tree world.working = .ok result ∧ fails result := by
  obtain ⟨events, hwork⟩ := h world
  rw [Work.bind_fails_iff, hwork]
  refine or_congr Iff.rfl ⟨fun ⟨result, after, h, hfails⟩ => ?_, fun ⟨result, h, hfails⟩ => ?_⟩
  · obtain ⟨hvalue, rfl⟩ := Prod.mk.inj h
    exact ⟨result, hvalue, (hnext result events).mp hfails⟩
  · exact ⟨result, _, Prod.ext h rfl, (hnext result events).mpr hfails⟩

theorem bind_fails_iff_of_ok {next : α → Work β}
    (hnext : ∀ value after, ∃ result, (next value after).1 = .ok result) :
    ((work >>= next) world).1 = .error error ↔ (work world).1 = .error error := by
  refine bind_fails_iff.trans ⟨fun h => h.resolve_right ?_, .inl⟩
  rintro ⟨value, after, -, h⟩
  obtain ⟨result, hresult⟩ := hnext value after
  rw [hresult] at h
  cases h

theorem Reads.fails_iff {value : FileNode → List String → Except ProjectError α} (h : Reads work value) :
    (work world).1 = .error error ↔ value world.tree world.working = .error error := by
  obtain ⟨events, hwork⟩ := h world
  rw [hwork]

/-- A text cannot be written: a directory above its file cannot be made, or the file not written. -/
inductive Unwritable (path : Path) (text : String) (tree : FileNode) : ProjectError → Prop
  | directories {made : FileNode} {error : FileError} :
      tree.makeDirectories path.names.dropLast.reverse = (made, .error error) →
      Unwritable path text tree (.file error)
  | file {made : FileNode} {error : FileError} :
      tree.makeDirectories path.names.dropLast.reverse = (made, .ok ()) →
      made.write path.names text.toUTF8 = .error error → Unwritable path text tree (.file error)

theorem writeText_fails_iff {path : Path} {text : String} :
    (writeText path text world).1 = .error error ↔ Unwritable path text world.tree error := by
  rw [writeText_apply]
  rcases hmake : world.tree.makeDirectories path.names.dropLast.reverse with ⟨made, failure | _⟩
  · refine ⟨fun h => ?_, fun h => ?_⟩
    · cases h
      exact .directories hmake
    · cases h with
      | directories h => cases hmake.symm.trans h; rfl
      | file h => cases hmake.symm.trans h
  · dsimp only
    cases hwrite : made.write path.names text.toUTF8 with
    | error failure =>
      refine ⟨fun h => ?_, fun h => ?_⟩
      · cases h
        exact .file hmake hwrite
      · cases h with
        | directories h => cases hmake.symm.trans h
        | file h h' => cases hmake.symm.trans h; cases hwrite.symm.trans h'; rfl
    | ok written =>
      refine ⟨nofun, fun h => ?_⟩
      cases h with
      | directories h => cases hmake.symm.trans h
      | file h h' => cases hmake.symm.trans h; cases hwrite.symm.trans h'

theorem writeText_of_writes {path : Path} {text : String} {made written : FileNode} (world : World)
    (h : Writes path text world.tree made written) :
    writeText path text world = (.ok (), { world with tree := written }) := by
  rw [writeText_apply, h.directories]
  dsimp only
  rw [h.file]

end Work

namespace Analysis

theorem exports_eq_error_iff {selection : Selection} {tree : FileNode} {working : List String}
    {error : ProjectError} :
    exports selection tree working = .error error ↔
      ∃ failure, selection.expand tree working = .error failure ∧ error = .unresolved failure := by
  unfold exports
  cases selection.expand tree working with
  | error failure =>
    exact ⟨fun h => ⟨failure, rfl, by cases h; rfl⟩, fun ⟨_, h, herror⟩ => by cases h; rw [herror]; rfl⟩
  | ok paths => exact ⟨nofun, nofun⟩

end Analysis

namespace Project

variable {project : Project} {world after : World} {tree scanned : FileNode} {working : List String}
  {command : Command} {error : ProjectError} {text : String}

/-- The tree in which a command scans files: a generation puts the empty module where there is none
before. -/
inductive Examines (project : Project) (tree : FileNode) (working : List String) :
    Command → FileNode → Prop
  | check : Examines project tree working .check tree
  | there : tree.pathExists project.output.names = true → Examines project tree working .generate tree
  | placed {text : String} {made written : FileNode} :
      tree.pathExists project.output.names = false → project.moduleText [] tree working = .ok text →
      Work.Writes project.output text tree made written →
      Examines project tree working .generate written

/-- Why a command fails. -/
inductive Fails (project : Project) (tree : FileNode) (working : List String) :
    Command → ProjectError → Prop
  /-- The empty module cannot be rendered. -/
  | unplanned {error : ProjectError} :
      tree.pathExists project.output.names = false →
      project.moduleText [] tree working = .error error → Fails project tree working .generate error
  /-- The empty module cannot be written. -/
  | unplaced {text : String} {error : ProjectError} :
      tree.pathExists project.output.names = false →
      project.moduleText [] tree working = .ok text →
      Work.Unwritable project.output text tree error → Fails project tree working .generate error
  /-- The module cannot be rendered. -/
  | unrendered {command : Command} {scanned : FileNode} {error : ProjectError} :
      Examines project tree working command scanned →
      project.rendering scanned working = .error error → Fails project tree working command error
  /-- The module that is there cannot be read. -/
  | unread {command : Command} {scanned : FileNode} {text : String} {error : ProjectError} :
      Examines project tree working command scanned → project.rendering scanned working = .ok text →
      Work.textAt project.output scanned = .error error → Fails project tree working command error
  /-- The module cannot be written. -/
  | unwritten {scanned : FileNode} {text : String} {current : Option String} {error : ProjectError} :
      Examines project tree working .generate scanned → project.rendering scanned working = .ok text →
      Work.textAt project.output scanned = .ok current → current ≠ some text →
      Work.Unwritable project.output text scanned error → Fails project tree working .generate error

theorem rendering_eq_error_iff :
    project.rendering tree working = .error error ↔
      Analysis.exports project.selection tree working = .error error ∨
        ∃ files, Analysis.exports project.selection tree working = .ok files ∧
          project.moduleText files tree working = .error error :=
  except_bind_eq_error_iff

theorem comparison_eq_error_iff :
    project.comparison tree working = .error error ↔ project.rendering tree working = .error error ∨
      ∃ text, project.rendering tree working = .ok text ∧
        Work.textAt project.output tree = .error error := by
  refine except_bind_eq_error_iff.trans (or_congr Iff.rfl (exists_congr fun text => and_congr Iff.rfl ?_))
  exact except_bind_eq_error_iff.trans ⟨fun h => h.resolve_right fun ⟨_, _, h⟩ => (nomatch h), .inl⟩

/-! ## Placing the empty module -/

theorem writePlaceholder_fails_iff :
    (project.writePlaceholder world).1 = .error error ↔
      world.tree.pathExists project.output.names = false ∧
        (project.moduleText [] world.tree world.working = .error error ∨
          ∃ text, project.moduleText [] world.tree world.working = .ok text ∧
            Work.Unwritable project.output text world.tree error) := by
  rw [writePlaceholder_apply]
  cases world.tree.pathExists project.output.names with
  | true => exact ⟨nofun, nofun⟩
  | false =>
    rw [if_neg Bool.false_ne_true, and_iff_right rfl]
    change ((project.renderFiles [] >>= fun text => Work.writeText project.output text >>= fun _ =>
      pure true) { world with events := world.events ++ [.placeholder] }).1 = _ ↔ _
    refine (project.reads_renderFiles []).bind_fails_iff fun text events => ?_
    exact (Work.bind_fails_iff_of_ok fun _ _ => ⟨true, rfl⟩).trans Work.writeText_fails_iff

theorem examines_of_writePlaceholder {wrote : Bool}
    (h : project.writePlaceholder world = (.ok wrote, after)) :
    project.Examines world.tree world.working .generate after.tree ∧
      after.working = world.working := by
  obtain ⟨-, hexists, rfl⟩ | ⟨-, hmissing, hworking, text, made, htext, hwrites⟩ :=
    writePlaceholder_eq_ok h
  · exact ⟨.there hexists, rfl⟩
  · exact ⟨.placed hmissing htext hwrites, hworking⟩

theorem Examines.writePlaceholder (world : World)
    (h : project.Examines world.tree world.working .generate scanned) :
    ∃ wrote events,
      project.writePlaceholder world = (.ok wrote, { world with tree := scanned, events }) := by
  rw [writePlaceholder_apply]
  cases h with
  | there hexists => exact ⟨false, world.events, by rw [if_pos hexists]⟩
  | @placed text made _ hmissing htext hwrites =>
    rw [hmissing, if_neg Bool.false_ne_true]
    let reported : World := { world with events := world.events ++ [.placeholder] }
    obtain ⟨events, hrender⟩ := (project.reads_renderFiles []).apply reported htext
    have hwrite := Work.writeText_of_writes { reported with events } hwrites
    refine ⟨true, events, ?_⟩
    rw [Work.bind_of_ok (show Work.report .placeholder world = (.ok (), reported) from rfl),
      Work.bind_of_ok hrender, Work.bind_of_ok hwrite]
    rfl

/-! ## Commands -/

/-- What a generation does with a rendered module. -/
def conclude (project : Project) (wrote : Bool) (files : List FileExports) (text : String) :
    Work GenerationResult := do
  let changed ← project.writeIfChanged text
  Work.report (.generated project.output (FileExports.count files) files.length)
  return ⟨project.output, files, changed || wrote⟩

/-- What a generation does once there is a module. -/
def finish (project : Project) (wrote : Bool) : Work GenerationResult := do
  let files ← Analysis.run project.selection
  let text ← project.renderFiles files
  project.conclude wrote files text

theorem generate_apply (project : Project) (world : World) :
    project.generate world = (project.writePlaceholder >>= project.finish)
      { world with events := world.events ++ [.generating project.output] } :=
  rfl

/-- The module cannot be brought up to a text: the one that is there cannot be read, or the new one
cannot be written. -/
def Unsettled (project : Project) (tree : FileNode) (text : String) (error : ProjectError) : Prop :=
  Work.textAt project.output tree = .error error ∨
    ∃ current, Work.textAt project.output tree = .ok current ∧ current ≠ some text ∧
      Work.Unwritable project.output text tree error

theorem writeIfChanged_fails_iff :
    (project.writeIfChanged text world).1 = .error error ↔
      project.Unsettled world.tree text error := by
  refine (Work.reads_readText? project.output).bind_fails_iff fun current events => ?_
  split
  next hsame => exact iff_of_false nofun fun h => h.1 (eq_of_beq hsame)
  next hother =>
    rw [and_iff_right (by simpa using hother)]
    exact (Work.bind_fails_iff_of_ok fun _ _ => ⟨true, rfl⟩).trans Work.writeText_fails_iff

theorem conclude_fails_iff {wrote : Bool} {files : List FileExports} :
    (project.conclude wrote files text world).1 = .error error ↔
      project.Unsettled world.tree text error :=
  (Work.bind_fails_iff_of_ok fun _ _ => ⟨_, rfl⟩).trans writeIfChanged_fails_iff

theorem finish_fails_iff {wrote : Bool} :
    (project.finish wrote world).1 = .error error ↔
      project.rendering world.tree world.working = .error error ∨
        ∃ text, project.rendering world.tree world.working = .ok text ∧
          project.Unsettled world.tree text error := by
  have hrendered (files : List FileExports) (events : List Event) :
      ((project.renderFiles files >>= project.conclude wrote files) { world with events }).1 =
        .error error ↔ project.moduleText files world.tree world.working = .error error ∨
          ∃ text, project.moduleText files world.tree world.working = .ok text ∧
            project.Unsettled world.tree text error :=
    (project.reads_renderFiles files).bind_fails_iff fun _ _ => conclude_fails_iff
  refine ((Analysis.reads_run project.selection).bind_fails_iff hrendered).trans ?_
  unfold rendering
  cases Analysis.exports project.selection world.tree world.working with
  | error failure =>
    constructor
    · rintro (h | ⟨_, h, -⟩) <;> cases h
      exact .inl rfl
    · rintro (h | ⟨_, h, -⟩) <;> cases h
      exact .inl rfl
  | ok files =>
    refine ⟨fun h => ?_, fun h => .inr ⟨files, rfl, h⟩⟩
    obtain h | ⟨_, h, hfails⟩ := h
    · cases h
    · cases h
      exact hfails

theorem generate_fails_iff :
    (project.generate world).1 = .error error ↔
      project.Fails world.tree world.working .generate error := by
  rw [generate_apply, Work.bind_fails_iff, writePlaceholder_fails_iff]
  constructor
  · rintro (⟨hmissing, hmodule | ⟨text, htext, hwrite⟩⟩ | ⟨wrote, after, hplaced, h⟩)
    · exact .unplanned hmissing hmodule
    · exact .unplaced hmissing htext hwrite
    obtain ⟨hexamines, hworking⟩ := examines_of_writePlaceholder hplaced
    rw [finish_fails_iff, hworking] at h
    obtain h | ⟨text, htext, h | ⟨current, hcurrent, hother, hwrite⟩⟩ := h
    · exact .unrendered hexamines h
    · exact .unread hexamines htext h
    · exact .unwritten hexamines htext hcurrent hother hwrite
  · -- Once a module is placed, the generation goes on in the tree that is examined.
    have hfinish {scanned : FileNode}
        (hexamines : project.Examines world.tree world.working .generate scanned)
        (hfails : project.rendering scanned world.working = .error error ∨
          ∃ text, project.rendering scanned world.working = .ok text ∧
            project.Unsettled scanned text error) :
        ∃ wrote after, project.writePlaceholder
            { world with events := world.events ++ [.generating project.output] } = (.ok wrote, after) ∧
          (project.finish wrote after).1 = .error error := by
      obtain ⟨wrote, events, hplaced⟩ := Examines.writePlaceholder
        { world with events := world.events ++ [.generating project.output] } hexamines
      exact ⟨wrote, _, hplaced, finish_fails_iff.mpr hfails⟩
    intro h
    cases h with
    | unplanned hmissing hmodule => exact .inl ⟨hmissing, .inl hmodule⟩
    | unplaced hmissing htext hwrite => exact .inl ⟨hmissing, .inr ⟨_, htext, hwrite⟩⟩
    | unrendered hexamines h => exact .inr (hfinish hexamines (.inl h))
    | unread hexamines htext h => exact .inr (hfinish hexamines (.inr ⟨_, htext, .inl h⟩))
    | unwritten hexamines htext hcurrent hother hwrite =>
      exact .inr (hfinish hexamines (.inr ⟨_, htext, .inr ⟨_, hcurrent, hother, hwrite⟩⟩))

theorem isCurrent_fails_iff :
    (project.isCurrent world).1 = .error error ↔
      project.Fails world.tree world.working .check error := by
  rw [project.reads_isCurrent.fails_iff, comparison_eq_error_iff]
  constructor
  · rintro (h | ⟨text, htext, h⟩)
    · exact .unrendered .check h
    · exact .unread .check htext h
  · intro h
    cases h with
    | unrendered hexamines h => cases hexamines; exact .inl h
    | unread hexamines htext h => cases hexamines; exact .inr ⟨_, htext, h⟩

theorem runCommand_fails_iff :
    (CommandLine.runCommand command project world).1 = .error error ↔
      project.Fails world.tree world.working command error := by
  cases command with
  | check =>
    rw [← isCurrent_fails_iff]
    exact Work.bind_fails_iff_of_ok fun current _ => by cases current <;> exact ⟨_, rfl⟩
  | generate =>
    rw [← generate_fails_iff]
    exact Work.bind_fails_iff_of_ok fun _ _ => ⟨_, rfl⟩

end Project

end Registrar
