import Mathlib.Tactic.Common
import Registrar.CommandLine.Program

/-! # Work that reads

Rendering a project and comparing its module read the tree of files and report
events, but change nothing. What comes of such work hangs on the tree and on the
working directory, and is said here apart from the events.
-/

namespace Registrar

namespace Work

variable {α β : Type}

theorem bind_apply (work : Work α) (next : α → Work β) (world : World) :
    (work >>= next) world =
      match work world with
      | (.ok value, after) => next value after
      | (.error error, after) => (.error error, after) := by
  change (match work world with
    | (result, after) => ExceptT.bindCont next result after) = _
  rcases work world with ⟨_ | _, _⟩ <;> rfl

/-- Work that comes to what a function of the tree and the working directory says, and
changes neither. -/
def Reads (work : Work α) (value : FileNode → List String → Except ProjectError α) : Prop :=
  ∀ world, ∃ events,
    work world = (value world.tree world.working, { world with events := events })

variable {work : Work α} {value : FileNode → List String → Except ProjectError α}

theorem reads_pure (result : α) : Reads (pure result : Work α) fun _ _ => .ok result :=
  fun world => ⟨world.events, rfl⟩

theorem reads_throw (error : ProjectError) : Reads (throw error : Work α) fun _ _ => .error error :=
  fun world => ⟨world.events, rfl⟩

theorem reads_throw_bind (error : ProjectError) (next : β → Work α) :
    Reads ((throw error : Work β) >>= next) fun _ _ => .error error :=
  fun world => ⟨world.events, rfl⟩

theorem Reads.bind {next : α → Work β}
    {continued : α → FileNode → List String → Except ProjectError β} (h : Reads work value)
    (hnext : ∀ result, Reads (next result) (continued result)) :
    Reads (work >>= next) fun tree working =>
      value tree working >>= fun result => continued result tree working := by
  intro world
  obtain ⟨events, hwork⟩ := h world
  rw [bind_apply, hwork]
  dsimp only
  cases value world.tree world.working with
  | error error => exact ⟨events, rfl⟩
  | ok result => exact hnext result { world with events := events }

theorem Reads.congr {value' : FileNode → List String → Except ProjectError α} (h : Reads work value)
    (hvalue : ∀ tree working, value tree working = value' tree working) : Reads work value' := by
  intro world
  rw [← hvalue]
  exact h world

theorem Reads.map (f : α → β) (h : Reads work value) :
    Reads (f <$> work) fun tree working => (value tree working).map f := by
  rw [map_eq_pure_bind]
  refine (h.bind fun result => reads_pure (f result)).congr fun tree working => ?_
  cases value tree working <;> rfl

theorem reads_report (event : Event) : Reads (report event) fun _ _ => .ok () :=
  fun world => ⟨world.events ++ [event], rfl⟩

theorem reads_reportAll (events : List Event) : Reads (reportAll events) fun _ _ => .ok () :=
  fun world => ⟨world.events ++ events, rfl⟩

/-- What looks at the tree first reads it. -/
theorem Reads.get {next : World → Work α}
    (h : ∀ world, ∃ events,
      next world world = (value world.tree world.working, { world with events := events })) :
    Reads (MonadState.get >>= next) value := h

theorem reads_resolve (path : Path) :
    Reads (resolve path) fun tree working =>
      (path.resolve tree working).mapError .unresolved := by
  refine Reads.get fun world => ⟨world.events, ?_⟩
  cases path.resolve world.tree world.working <;> rfl

/-- The text of the file at a path, or none if there is no file. -/
def textAt (path : Path) (tree : FileNode) : Except ProjectError (Option String) :=
  match tree.read path.names with
  | .error .notFound => .ok none
  | .error error => .error (.file error)
  | .ok content =>
    match decode? content with
    | some text => .ok (some text)
    | none => .error .undecodable

theorem reads_readText? (path : Path) : Reads (readText? path) fun tree _ => textAt path tree := by
  refine Reads.get fun world => ⟨world.events, ?_⟩
  have hread : readText path world =
      ((match world.tree.read path.names with
        | .error error => .error (.file error)
        | .ok content =>
          match decode? content with
          | some text => .ok text
          | none => .error .undecodable), world) := by
    unfold readText
    rw [bind_apply]
    change ((ofFiles (world.tree.read path.names) >>= fun content => _) : Work String) world = _
    rw [bind_apply]
    cases world.tree.read path.names with
    | error error => rfl
    | ok content =>
      change (match decode? content with
        | some text => (pure text : Work String)
        | none => throw ProjectError.undecodable) world = _
      dsimp only
      cases decode? content <;> rfl
  have hsome : (some <$> readText path : Work (Option String)) world =
      match readText path world with
      | (.ok text, after) => (.ok (some text), after)
      | (.error error, after) => (.error error, after) := by
    rw [map_eq_pure_bind, bind_apply]
    rcases readText path world with ⟨_ | _, _⟩ <;> rfl
  unfold textAt
  cases hcontent : world.tree.read path.names with
  | error error =>
    rw [hcontent] at hread
    cases error with
    | notFound => rfl
    | _ => dsimp only; rw [hsome, hread]
  | ok content =>
    rw [hcontent] at hread
    dsimp only at hread ⊢
    rw [hsome, hread]
    cases decode? content <;> rfl

end Work

namespace Analysis

/-- The exports of the selected files in a tree. -/
def exports (selection : Selection) (tree : FileNode) (working : List String) :
    Except ProjectError (List FileExports) := do
  let paths ← (selection.expand tree working).mapError .unresolved
  return FileExports.number 0 (paths.map fun path => (path, (scanFile .usual tree path).2))

theorem reads_files (selection : Selection) :
    Work.Reads selection.files fun tree working =>
      (selection.expand tree working).mapError .unresolved := by
  refine Work.Reads.get fun world => ⟨world.events, ?_⟩
  cases selection.expand world.tree world.working <;> rfl

theorem reads_scanFiles (entryPoints : EntryPoints) (paths : List Path) :
    Work.Reads (scanFiles entryPoints paths) fun tree _ =>
      .ok (paths.map fun path => (path, (scanFile entryPoints tree path).2)) := by
  refine Work.Reads.get fun world => ?_
  have hmap : (paths.map fun path => (path, scanFile entryPoints world.tree path)).map
      (fun scan => (scan.1, scan.2.2)) =
      paths.map fun path => (path, (scanFile entryPoints world.tree path).2) :=
    List.map_map
  rw [← hmap]
  exact ((Work.reads_reportAll _).bind fun _ => Work.reads_pure _) world

theorem reads_run (selection : Selection) : Work.Reads (run selection) (exports selection) :=
  (reads_files selection).bind fun _ => (Work.reads_report _).bind fun _ =>
    (reads_scanFiles _ _).bind fun _ => Work.reads_pure _

end Analysis

namespace Project

variable (project : Project)

/-- The container module for some exports, in a tree. -/
def moduleText (files : List FileExports) (tree : FileNode) (working : List String) :
    Except ProjectError String := do
  if !RuntimeName.accepts project.runtimeModule then
    throw (.catalogue (.runtimeName project.runtimeModule))
  let output ← (project.output.resolve tree working).mapError .unresolved
  (Catalogue.render project.runtimeModule output.parent.names files).2.mapError .catalogue

theorem moduleText_of_resolve {project : Project} {tree : FileNode} {working : List String}
    {output : Path} (haccepts : RuntimeName.accepts project.runtimeModule = true)
    (houtput : project.output.resolve tree working = .ok output) (files : List FileExports) :
    project.moduleText files tree working =
      (Catalogue.render project.runtimeModule output.parent.names files).2.mapError
        .catalogue := by
  unfold moduleText
  rw [if_neg (by rw [haccepts]; exact Bool.false_ne_true), houtput]
  rfl

theorem reads_renderFiles (files : List FileExports) :
    Work.Reads (project.renderFiles files) (project.moduleText files) := by
  unfold renderFiles moduleText
  by_cases haccepts : (!RuntimeName.accepts project.runtimeModule) = true
  · simp only [if_pos haccepts]
    exact Work.reads_throw_bind _ _
  · simp only [if_neg haccepts]
    refine (Work.reads_resolve project.output).bind fun output => ?_
    rcases Catalogue.render project.runtimeModule output.parent.names files with
      ⟨events, error | text⟩
    · exact (Work.reads_reportAll events).bind fun _ => Work.reads_throw _
    · exact (Work.reads_reportAll events).bind fun _ => Work.reads_pure _

/-- The container module for a tree. -/
def rendering (tree : FileNode) (working : List String) : Except ProjectError String := do
  let files ← Analysis.exports project.selection tree working
  project.moduleText files tree working

/-- Where no file is selected, the rendering is that of no files. -/
theorem rendering_of_expand_nil {project : Project} {tree : FileNode} {working : List String}
    {output : Path} {text : String} (hexpand : project.selection.expand tree working = .ok [])
    (haccepts : RuntimeName.accepts project.runtimeModule = true)
    (houtput : project.output.resolve tree working = .ok output)
    (hrender : (Catalogue.render project.runtimeModule output.parent.names []).2 = .ok text) :
    project.rendering tree working = .ok text := by
  unfold rendering Analysis.exports
  rw [hexpand]
  refine (moduleText_of_resolve haccepts houtput []).trans ?_
  rw [hrender]
  rfl

theorem reads_render : Work.Reads project.render project.rendering :=
  (Analysis.reads_run project.selection).bind fun files => project.reads_renderFiles files

/-- Whether the container module in a tree is what a rendering gives. -/
def comparison (tree : FileNode) (working : List String) : Except ProjectError Bool := do
  let expected ← project.rendering tree working
  let current ← Work.textAt project.output tree
  return current == some expected

theorem reads_isCurrent : Work.Reads project.isCurrent project.comparison :=
  project.reads_render.bind fun _ => (Work.reads_readText? project.output).bind fun _ =>
    Work.reads_pure _

end Project

end Registrar
