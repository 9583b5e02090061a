import Registrar.Proofs.Files.Resolving
import Registrar.Proofs.Project.Text
import Registrar.Proofs.Project.Work

/-! # Generating the container module

What a generation does to the tree: it puts an empty module where there is none,
renders the files as they are then, and writes the module if it is another. It
leaves the tree as it is exactly when the module is already what a rendering gives.
-/

namespace Registrar

namespace Work

variable {α β : Type} {work : Work α} {world after : World}

theorem bind_of_ok {next : α → Work β} {value : α} (h : work world = (.ok value, after)) :
    (work >>= next) world = next value after := by
  rw [bind_apply, h]

theorem bind_eq_ok_iff {next : α → Work β} {result : β} :
    (work >>= next) world = (.ok result, after) ↔
      ∃ value middle, work world = (.ok value, middle) ∧ next value middle = (.ok result, after) := by
  rw [bind_apply]
  rcases work world with ⟨error | value, middle⟩
  · exact ⟨nofun, fun ⟨_, _, h, _⟩ => nomatch h⟩
  · exact ⟨fun h => ⟨value, middle, rfl, h⟩, fun ⟨_, _, h, hnext⟩ => by cases h; exact hnext⟩

theorem Reads.ok {value : FileNode → List String → Except ProjectError α} {result : α}
    (h : Reads work value) (hwork : work world = (.ok result, after)) :
    value world.tree world.working = .ok result ∧ after.tree = world.tree ∧
      after.working = world.working := by
  obtain ⟨events, hreads⟩ := h world
  rw [hreads] at hwork
  obtain ⟨hvalue, rfl⟩ := Prod.mk.inj hwork
  exact ⟨hvalue, rfl, rfl⟩

theorem Reads.apply {value : FileNode → List String → Except ProjectError α} {result : α}
    (h : Reads work value) (world : World) (hvalue : value world.tree world.working = .ok result) :
    ∃ events, work world = (.ok result, { world with events := events }) := by
  obtain ⟨events, hreads⟩ := h world
  exact ⟨events, by rw [hreads, hvalue]⟩

/-- A text was written at a path: the directories above it were made, then the file. -/
structure Writes (path : Path) (text : String) (tree made written : FileNode) : Prop where
  directories : tree.makeDirectories path.names.dropLast.reverse = (made, .ok ())
  file : made.write path.names text.toUTF8 = .ok written

theorem writes_of_writeText {path : Path} {text : String}
    (h : writeText path text world = (.ok (), after)) :
    (∃ made, Writes path text world.tree made after.tree) ∧ after.working = world.working := by
  unfold writeText at h
  rw [bind_apply] at h
  let making := world.tree.makeDirectories path.names.dropLast.reverse
  change (do
    modify fun world : World => { world with tree := making.1 }
    ofFiles making.2
    let tree ← ofFiles (making.1.write path.names text.toUTF8)
    modify fun world : World => { world with tree } : Work Unit) world = _ at h
  cases hmade : making.2 with
  | error error =>
    rw [hmade] at h
    cases h
  | ok made =>
    rw [hmade] at h
    cases hwrite : making.1.write path.names text.toUTF8 with
    | error error =>
      rw [hwrite] at h
      cases h
    | ok written =>
      rw [hwrite] at h
      cases h
      exact ⟨⟨making.1, Prod.ext rfl hmade, hwrite⟩, rfl⟩

end Work

namespace Project

variable {project : Project} {world after : World} {result : GenerationResult}
  {tree middle : FileNode} {text : String}

/-- A container module stands at its path before the analysis: it was there, or an
empty one was written. -/
inductive Placed (project : Project) (tree : FileNode) : Bool → FileNode → Prop
  | there : tree.pathExists project.output.names = true → Placed project tree false tree
  | written (text : String) (made written : FileNode) :
      tree.pathExists project.output.names = false →
      Work.Writes project.output text tree made written → Placed project tree true written

theorem Placed.unwritten (h : project.Placed tree false middle) : middle = tree := by
  cases h
  rfl

theorem writePlaceholder_eq_ok {wrote : Bool} (h : project.writePlaceholder world = (.ok wrote, after)) :
    wrote = false ∧ world.tree.pathExists project.output.names = true ∧ after = world ∨
      wrote = true ∧ world.tree.pathExists project.output.names = false ∧
        after.working = world.working ∧
        ∃ text made, project.moduleText [] world.tree world.working = .ok text ∧
          Work.Writes project.output text world.tree made after.tree := by
  unfold writePlaceholder at h
  rw [Work.bind_apply] at h
  change (if world.tree.pathExists project.output.names then (pure false : Work Bool) else do
    Work.report .placeholder
    let text ← project.placeholder
    Work.writeText project.output text
    return true) world = _ at h
  split at h
  next hexists =>
    cases h
    exact .inl ⟨rfl, hexists, rfl⟩
  next hmissing =>
    obtain ⟨_, first, hreport, h⟩ := Work.bind_eq_ok_iff.mp h
    obtain ⟨text, second, htext, h⟩ := Work.bind_eq_ok_iff.mp h
    obtain ⟨_, third, hwrite, h⟩ := Work.bind_eq_ok_iff.mp h
    cases h
    cases hreport
    obtain ⟨htext, htree, hworking⟩ := (project.reads_renderFiles []).ok htext
    obtain ⟨⟨made, hwrites⟩, hworking'⟩ := Work.writes_of_writeText hwrite
    rw [htree] at hwrites
    exact .inr ⟨rfl, by simpa using hmissing, hworking'.trans hworking, text, made, htext, hwrites⟩

theorem placed_of_writePlaceholder {wrote : Bool}
    (h : project.writePlaceholder world = (.ok wrote, after)) :
    project.Placed world.tree wrote after.tree ∧ after.working = world.working := by
  obtain ⟨rfl, hexists, rfl⟩ | ⟨rfl, hmissing, hworking, text, made, -, hwrites⟩ :=
    writePlaceholder_eq_ok h
  · exact ⟨.there hexists, rfl⟩
  · exact ⟨.written text made after.tree hmissing hwrites, hworking⟩

/-- The container module is brought up to date: it was, or was written. -/
inductive Updated (project : Project) (text : String) (tree : FileNode) : Bool → FileNode → Prop
  | same : Work.textAt project.output tree = .ok (some text) → Updated project text tree false tree
  | written (current : Option String) (made written : FileNode) :
      Work.textAt project.output tree = .ok current → current ≠ some text →
      Work.Writes project.output text tree made written → Updated project text tree true written

theorem Updated.unwritten (h : project.Updated text tree false middle) :
    Work.textAt project.output tree = .ok (some text) := by
  cases h with
  | same htext => exact htext

theorem updated_of_writeIfChanged {changed : Bool}
    (h : project.writeIfChanged text world = (.ok changed, after)) :
    project.Updated text world.tree changed after.tree ∧ after.working = world.working := by
  unfold writeIfChanged at h
  obtain ⟨current, middle, hcurrent, h⟩ := Work.bind_eq_ok_iff.mp h
  obtain ⟨htext, htree, hworking⟩ := (Work.reads_readText? project.output).ok hcurrent
  split at h
  next hsame =>
    rw [eq_of_beq hsame] at htext
    cases h
    change project.Updated text world.tree false middle.tree ∧ _
    rw [htree]
    exact ⟨.same htext, hworking⟩
  next hother =>
    obtain ⟨_, third, hwrite, h⟩ := Work.bind_eq_ok_iff.mp h
    cases h
    obtain ⟨⟨made, hwrites⟩, hworking'⟩ := Work.writes_of_writeText hwrite
    rw [htree] at hwrites
    exact ⟨.written current made after.tree htext (by simpa using hother) hwrites,
      hworking'.trans hworking⟩

/-- A generation that succeeds, by the placeholder it starts with. -/
theorem generate_steps (h : project.generate world = (.ok result, after)) :
    ∃ wrote middle files text changed,
      project.writePlaceholder { world with events := world.events ++ [.generating project.output] } =
        (.ok wrote, middle) ∧
      Analysis.exports project.selection middle.tree world.working = .ok files ∧
      project.moduleText files middle.tree world.working = .ok text ∧
      project.Updated text middle.tree changed after.tree ∧
      after.working = world.working ∧ result.changed = (changed || wrote) := by
  unfold generate at h
  obtain ⟨_, first, hreport, h⟩ := Work.bind_eq_ok_iff.mp h
  obtain ⟨wrote, second, hplaced, h⟩ := Work.bind_eq_ok_iff.mp h
  obtain ⟨files, third, hfiles, h⟩ := Work.bind_eq_ok_iff.mp h
  obtain ⟨text, fourth, htext, h⟩ := Work.bind_eq_ok_iff.mp h
  obtain ⟨changed, fifth, hupdated, h⟩ := Work.bind_eq_ok_iff.mp h
  obtain ⟨_, last, hreport', h⟩ := Work.bind_eq_ok_iff.mp h
  cases hreport
  cases hreport'
  cases h
  have hworking₂ := (placed_of_writePlaceholder hplaced).2
  obtain ⟨hfiles, htree₃, hworking₃⟩ := (Analysis.reads_run project.selection).ok hfiles
  obtain ⟨htext, htree₄, hworking₄⟩ := (project.reads_renderFiles files).ok htext
  obtain ⟨hupdated, hworking₅⟩ := updated_of_writeIfChanged hupdated
  change second.working = world.working at hworking₂
  rw [htree₄, htree₃] at hupdated
  rw [hworking₂] at hfiles
  rw [htree₃, hworking₃, hworking₂] at htext
  exact ⟨wrote, second, files, text, changed, hplaced, hfiles, htext, hupdated,
    by rw [← hworking₂, ← hworking₃, ← hworking₄]; exact hworking₅, rfl⟩

/-- A generation that succeeds: what it placed, analyzed, rendered and updated. -/
theorem generate_eq_ok (h : project.generate world = (.ok result, after)) :
    ∃ wrote middle files text changed, project.Placed world.tree wrote middle ∧
      Analysis.exports project.selection middle world.working = .ok files ∧
      project.moduleText files middle world.working = .ok text ∧
      project.Updated text middle changed after.tree ∧
      after.working = world.working ∧ result.changed = (changed || wrote) := by
  obtain ⟨wrote, middle, files, text, changed, hplaced, hrest⟩ := generate_steps h
  exact ⟨wrote, middle.tree, files, text, changed, (placed_of_writePlaceholder hplaced).1, hrest⟩

/-- The container module in a tree is what a rendering gives. -/
def Current (project : Project) (tree : FileNode) (working : List String) : Prop :=
  ∃ text, project.rendering tree working = .ok text ∧
    Work.textAt project.output tree = .ok (some text)

theorem pathExists_of_textAt {path : Path} {tree : FileNode} {text : String}
    (h : Work.textAt path tree = .ok (some text)) : tree.pathExists path.names = true := by
  unfold Work.textAt FileNode.read at h
  unfold FileNode.pathExists
  cases hstatus : tree.status path.names with
  | ok node => rfl
  | error error =>
    rw [hstatus] at h
    cases error <;> cases h

theorem writeIfChanged_of_same (project : Project) (world : World)
    (htext : Work.textAt project.output world.tree = .ok (some text)) :
    ∃ events, project.writeIfChanged text world = (.ok false, { world with events := events }) := by
  obtain ⟨events, hread⟩ := (Work.reads_readText? project.output).apply world htext
  refine ⟨events ++ [.upToDate project.output], ?_⟩
  unfold writeIfChanged
  rw [Work.bind_of_ok hread, if_pos (by simp)]
  rfl

/-- A current module is left alone by a generation. -/
theorem Current.generate (h : project.Current world.tree world.working) :
    ∃ result events, project.generate world = (.ok result, { world with events := events }) ∧
      result.changed = false := by
  obtain ⟨text, hrendering, htext⟩ := h
  unfold rendering at hrendering
  cases hfiles : Analysis.exports project.selection world.tree world.working with
  | error error =>
    rw [hfiles] at hrendering
    cases hrendering
  | ok files =>
    rw [hfiles] at hrendering
    have hmodule : project.moduleText files world.tree world.working = .ok text := hrendering
    let reported : World := { world with events := world.events ++ [.generating project.output] }
    have hplaced : project.writePlaceholder reported = (.ok false, reported) := by
      unfold writePlaceholder
      rw [Work.bind_apply]
      change (if world.tree.pathExists project.output.names then (pure false : Work Bool) else _)
        reported = _
      rw [if_pos (pathExists_of_textAt htext)]
      rfl
    obtain ⟨ran, hrun⟩ := (Analysis.reads_run project.selection).apply reported hfiles
    let scanned : World := { reported with events := ran }
    obtain ⟨rendered, hrender⟩ := (project.reads_renderFiles files).apply scanned hmodule
    obtain ⟨events, hupdated⟩ := project.writeIfChanged_of_same { scanned with events := rendered } htext
    refine ⟨⟨project.output, files, false⟩, events ++ [.generated project.output
      (FileExports.count files) files.length], ?_, rfl⟩
    unfold Project.generate
    rw [Work.bind_of_ok (show Work.report (.generating project.output) world = (.ok (), reported) from
      rfl), Work.bind_of_ok hplaced, Work.bind_of_ok hrun, Work.bind_of_ok hrender,
      Work.bind_of_ok hupdated]
    rfl

end Project

end Registrar
