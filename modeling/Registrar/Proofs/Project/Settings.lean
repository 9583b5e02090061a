import Registrar.Proofs.Project.Aftermath

/-! # Projects of settings

The project that settings describe is known from the paths that were resolved for
it. It is the same in a tree that has grown, unless one of these paths is on a
circle of links.
-/

namespace Registrar

namespace Project

variable {project : Project}

/-- The project that settings describe, in a tree. -/
def described (settings : Settings) (tree : FileNode) (working : List String) :
    Except ProjectError Project := do
  let root ← (settings.projectRoot.resolve tree working).mapError .unresolved
  let output := root.join settings.outputPath
  let anchor ← (root.resolve tree working).mapError .unresolved
  let resolved ← (output.resolve tree working).mapError .unresolved
  return {
    selection := {
      includes := settings.includes
      excludes := settings.excludes
      root := anchor
      output := some resolved }
    output
    runtimeModule := settings.runtimeModule }

theorem reads_described (settings : Settings) :
    Work.Reads settings.project (described settings) := by
  refine ((Work.reads_resolve settings.projectRoot).bind fun root =>
    ((Work.reads_resolve root).bind fun anchor =>
      ((Work.reads_resolve (root.join settings.outputPath)).map some).bind fun resolved =>
        Work.reads_pure (Selection.mk settings.includes settings.excludes anchor resolved)).bind
      fun selection => Work.reads_pure (Project.mk selection (root.join settings.outputPath)
        settings.runtimeModule)).congr fun tree working => ?_
  unfold described
  cases settings.projectRoot.resolve tree working with
  | error error => rfl
  | ok root =>
    change ((root.resolve tree working).mapError ProjectError.unresolved >>= _ >>= _) =
      ((root.resolve tree working).mapError ProjectError.unresolved >>= _)
    cases root.resolve tree working with
    | error error => rfl
    | ok anchor =>
      change (((root.join settings.outputPath).resolve tree working).mapError
        ProjectError.unresolved >>= _ >>= _ >>= _) = (((root.join settings.outputPath).resolve tree
          working).mapError ProjectError.unresolved >>= _)
      cases (root.join settings.outputPath).resolve tree working <;> rfl

variable {settings : Settings} {tree other : FileNode} {working : List String}

/-- A project of some settings, by the paths that were resolved for it. -/
structure Resolved (settings : Settings) (tree : FileNode) (working : List String)
    (project : Project) (root anchor output : Path) : Prop where
  root_eq : settings.projectRoot.resolve tree working = .ok root
  anchor_eq : root.resolve tree working = .ok anchor
  output_eq : project.output.resolve tree working = .ok output
  project_eq : project = ⟨⟨settings.includes, settings.excludes, anchor, some output⟩,
    root.join settings.outputPath, settings.runtimeModule⟩

theorem described_eq_ok_iff :
    described settings tree working = .ok project ↔
      ∃ root anchor output, Resolved settings tree working project root anchor output := by
  constructor
  · intro h
    unfold described at h
    cases hroot : settings.projectRoot.resolve tree working with
    | error error =>
      rw [hroot] at h
      cases h
    | ok root =>
      rw [hroot] at h
      change ((root.resolve tree working).mapError ProjectError.unresolved >>= _) = _ at h
      cases hanchor : root.resolve tree working with
      | error error =>
        rw [hanchor] at h
        cases h
      | ok anchor =>
        rw [hanchor] at h
        change (((root.join settings.outputPath).resolve tree working).mapError
          ProjectError.unresolved >>= _) = _ at h
        cases houtput : (root.join settings.outputPath).resolve tree working with
        | error error =>
          rw [houtput] at h
          cases h
        | ok output =>
          rw [houtput] at h
          cases h
          exact ⟨root, anchor, output, hroot, hanchor, houtput, rfl⟩
  · rintro ⟨root, anchor, output, hroot, hanchor, houtput, rfl⟩
    unfold described
    rw [hroot]
    change ((root.resolve tree working).mapError ProjectError.unresolved >>= _) = _
    rw [hanchor]
    change (((root.join settings.outputPath).resolve tree working).mapError
      ProjectError.unresolved >>= _) = _
    rw [houtput]
    rfl

/-- Neither the root nor the container module of a project is on a circle of links. -/
structure Straight (project : Project) (settings : Settings) (tree : FileNode)
    (working : List String) : Prop where
  root : tree.Straight (settings.projectRoot.pieces working)
  output : tree.Straight (project.output.pieces working)

/-- Settings describe the same project in a tree that has grown. -/
theorem Resolved.grows {root anchor output : Path}
    (h : Resolved settings tree working project root anchor output)
    (hstraight : project.Straight settings tree working) (hgrows : tree.Grows other) :
    Resolved settings other working project root anchor output := by
  obtain ⟨hslash, hsettled, -⟩ := Path.settled_of_resolve hstraight.root h.root_eq
  have hpieces : root.pieces working = root.names := by
    unfold Path.pieces Path.isAbsolute
    rw [hslash]
    rfl
  refine ⟨Path.resolve_of_grows hgrows hstraight.root h.root_eq, Path.resolve_of_grows hgrows ?_ h.anchor_eq,
    Path.resolve_of_grows hgrows hstraight.output h.output_eq, h.project_eq⟩
  rw [hpieces]
  exact hsettled.straight

theorem Resolved.pieces_output {root anchor output : Path}
    (h : Resolved settings tree working project root anchor output) :
    project.output.pieces working = project.output.names := by
  obtain ⟨-, -, hroot⟩ := Path.resolve_eq_ok_iff.mp h.root_eq
  have habsolute : project.output.isAbsolute = true := by
    rw [h.project_eq, hroot]
    unfold Path.join
    split
    next habsolute => exact habsolute
    next => rfl
  unfold Path.pieces
  rw [if_pos habsolute]

/-- The module a project is to write is the one that its selection leaves out, if its path meets no
circle of links. -/
theorem Resolved.leavesOut_of_straight {root anchor output : Path}
    (h : Resolved settings tree working project root anchor output)
    (hstraight : tree.Straight project.output.names) : project.LeavesOut tree output := by
  rw [← h.pieces_output] at hstraight
  obtain ⟨hslash, -, hleads⟩ := Path.settled_of_resolve hstraight h.output_eq
  rw [h.pieces_output] at hleads
  refine ⟨?_, hslash, hleads⟩
  rw [h.project_eq]

theorem Resolved.leavesOut {root anchor output : Path}
    (h : Resolved settings tree working project root anchor output)
    (hstraight : project.Straight settings tree working) : project.LeavesOut tree output :=
  h.leavesOut_of_straight (h.pieces_output ▸ hstraight.output)

end Project

end Registrar
