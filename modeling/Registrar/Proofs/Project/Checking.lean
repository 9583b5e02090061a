import Registrar.Proofs.Catalogue.Imports
import Registrar.Proofs.Project.Settings

/-! # Checking and generating

To check a project is to ask whether a generation would change its module, and
changes nothing itself. A generation that succeeds leaves a project that passes the
check, and that a further generation leaves alone, unless a path meets a circle of
links on the way: such a path is resolved only halfway, and may lead to the
container module under another name.
-/

namespace Registrar

open CommandLine (Report)

theorem CommandLine.tell_apply (work : Work Report) (world : World) :
    tell work world =
      match work world with
      | (.ok report, after) => (.ok report, after)
      | (.error error, after) =>
        match errorLine? error with
        | some line => (.ok ⟨1, "", line⟩, after)
        | none => (.error error, after) := by
  simp only [tell, tryCatch, tryCatchThe, MonadExceptOf.tryCatch, ExceptT.tryCatch, ExceptT.mk, bind,
    StateT.bind]
  rcases work world with ⟨error | report, after⟩
  · dsimp only
    cases errorLine? error <;> rfl
  · rfl

namespace Project

variable {project : Project} {world after : World}

theorem comparison_eq_true {tree : FileNode} {working : List String} :
    project.comparison tree working = .ok true ↔ project.Current tree working := by
  unfold comparison Current
  cases project.rendering tree working with
  | error error => exact ⟨nofun, fun ⟨_, h, _⟩ => nomatch h⟩
  | ok expected =>
    cases Work.textAt project.output tree with
    | error error => exact ⟨nofun, fun ⟨_, _, h⟩ => nomatch h⟩
    | ok current =>
      change Except.ok (current == some expected) = Except.ok true ↔
        ∃ text, Except.ok expected = Except.ok text ∧ Except.ok current = Except.ok (some text)
      rw [Except.ok.injEq, beq_iff_eq]
      constructor
      · rintro rfl
        exact ⟨expected, rfl, rfl⟩
      · rintro ⟨text, hexpected, hcurrent⟩
        cases hexpected
        exact Except.ok.inj hcurrent

/-- A check passes just when the project is current, and changes no file. -/
theorem runCommand_check (project : Project) (world : World) :
    ((∃ report after, CommandLine.tell (CommandLine.runCommand .check project) world =
        (.ok report, after) ∧ report.status = 0) ↔ project.Current world.tree world.working) ∧
      (CommandLine.tell (CommandLine.runCommand .check project) world).2.tree = world.tree := by
  obtain ⟨events, hcurrent⟩ := project.reads_isCurrent world
  have hrun : CommandLine.runCommand .check project world =
      match project.isCurrent world with
      | (.ok true, after) => (.ok ⟨0, "", ""⟩, after)
      | (.ok false, after) => (.ok ⟨1, "", project.output.toString
          ++ " is out of sync. Run: uiwire generate\n"⟩, after)
      | (.error error, after) => (.error error, after) := by
    unfold CommandLine.runCommand
    dsimp only
    rw [Work.bind_apply]
    rcases project.isCurrent world with ⟨error | current, after⟩
    · rfl
    · cases current <;> rfl
  rw [CommandLine.tell_apply, hrun, hcurrent, ← comparison_eq_true]
  cases project.comparison world.tree world.working with
  | error error =>
    dsimp only
    cases CommandLine.errorLine? error with
    | none => exact ⟨⟨fun ⟨_, _, h, _⟩ => (nomatch h), nofun⟩, rfl⟩
    | some line =>
      refine ⟨⟨fun ⟨_, _, h, hstatus⟩ => ?_, nofun⟩, rfl⟩
      cases h
      cases hstatus
  | ok current =>
    cases current with
    | true => exact ⟨⟨fun _ => rfl, fun _ => ⟨_, _, rfl, rfl⟩⟩, rfl⟩
    | false =>
      refine ⟨⟨fun ⟨_, _, h, hstatus⟩ => ?_, nofun⟩, rfl⟩
      cases h
      cases hstatus

/-- A generation that changes nothing is one of a current project. -/
theorem generate_unchanged (project : Project) (world : World) :
    (∃ result after, project.generate world = (.ok result, after) ∧ result.changed = false) ↔
      project.Current world.tree world.working := by
  constructor
  · rintro ⟨result, after, hgenerate, hchanged⟩
    obtain ⟨wrote, middle, files, text, changed, hplaced, hfiles, htext, hupdated, -, hresult⟩ :=
      generate_eq_ok hgenerate
    rw [hchanged, eq_comm, Bool.or_eq_false_iff] at hresult
    obtain ⟨rfl, rfl⟩ := hresult
    cases hplaced.unwritten
    refine ⟨text, ?_, hupdated.unwritten⟩
    unfold rendering
    rw [hfiles]
    exact htext
  · intro hcurrent
    obtain ⟨result, events, hgenerate, hchanged⟩ := Current.generate hcurrent
    exact ⟨result, _, hgenerate, hchanged⟩

end Project

namespace Settings

/-- A check of the project that settings describe. -/
def check (settings : Settings) : Work Report := do
  let project ← settings.project
  CommandLine.tell (CommandLine.runCommand .check project)

/-- A generation of the project that settings describe. -/
def generate (settings : Settings) : Work GenerationResult := do
  let project ← settings.project
  project.generate

/-- The program, told to check, does the check. -/
theorem run_check {arguments : List String} {environment : List (String × String)}
    {options : CommandLine.Options} {settings : Settings}
    (harguments : CommandLine.read arguments = .run .check options)
    (hsettings : Settings.read options.explicit environment = .ok settings) :
    CommandLine.run arguments environment = .done <$> settings.check := by
  unfold CommandLine.run check
  rw [harguments]
  dsimp only
  rw [hsettings]
  dsimp only
  rw [map_eq_pure_bind, bind_assoc]
  simp only [map_eq_pure_bind]

/-- A check ends with status 0. -/
def Passes (settings : Settings) (world : World) : Prop :=
  ∃ report after, settings.check world = (.ok report, after) ∧ report.status = 0

/-- A generation succeeds and changes nothing. -/
def Keeps (settings : Settings) (world : World) : Prop :=
  ∃ result after, settings.generate world = (.ok result, after) ∧ result.changed = false

variable {settings : Settings} {world built after : World} {project : Project}
  {result : GenerationResult}

/-- A check passes when a generation would change nothing, and only then; it changes no file. -/
theorem passes_iff_keeps (settings : Settings) (world : World) :
    (settings.Passes world ↔ settings.Keeps world) ∧
      (settings.check world).2.tree = world.tree := by
  obtain ⟨events, hproject⟩ := Project.reads_described settings world
  unfold Passes Keeps check generate
  rw [Work.bind_apply, Work.bind_apply, hproject]
  cases Project.described settings world.tree world.working with
  | error error => exact ⟨⟨fun ⟨_, _, h, _⟩ => (nomatch h), fun ⟨_, _, h, _⟩ => (nomatch h)⟩, rfl⟩
  | ok project =>
    obtain ⟨hpasses, htree⟩ := project.runCommand_check { world with events }
    exact ⟨hpasses.trans (project.generate_unchanged { world with events }).symm, htree⟩

/-- After a generation the project is current, and settings describe it again. -/
theorem current_of_generate (hroot : world.tree.kind? [] = some .directory)
    (hproject : settings.project world = (.ok project, built))
    (hgenerate : project.generate built = (.ok result, after))
    (hstraight : project.Straight settings world.tree world.working)
    (hapart : project.SelectsApart after.tree after.working) :
    project.Current after.tree after.working ∧
      Project.described settings after.tree after.working = .ok project := by
  obtain ⟨hdescribed, htree, hworking⟩ := (Project.reads_described settings).ok hproject
  obtain ⟨root, anchor, output, hresolved⟩ := Project.described_eq_ok_iff.mp hdescribed
  rw [← htree] at hroot
  obtain ⟨hgrows, hworking'⟩ := Project.grows_of_generate hroot hgenerate
  rw [htree] at hgrows
  have hagain := hresolved.grows hstraight hgrows
  have hstraight' : project.Straight settings after.tree world.working :=
    ⟨hstraight.root.grows hgrows, hstraight.output.grows hgrows⟩
  refine ⟨Project.current_of_generate hroot hgenerate (hagain.leavesOut hstraight') hapart, ?_⟩
  rw [hworking', hworking]
  exact Project.described_eq_ok_iff.mpr ⟨root, anchor, output, hagain⟩

/-- A check passes just when a generation would change nothing, and changes no file. A
generation that succeeds leaves a module that is read back as it is rendered, a project
that a further generation leaves alone, and settings that pass the check. -/
theorem generate_settles (settings : Settings) (world : World)
    (hroot : world.tree.kind? [] = some .directory) :
    ((settings.Passes world ↔ settings.Keeps world) ∧
      (settings.check world).2.tree = world.tree) ∧
    ∀ project built result after, settings.project world = (.ok project, built) →
      project.generate built = (.ok result, after) →
      project.Straight settings world.tree world.working →
      project.SelectsApart after.tree after.working →
      (∃ text, (project.render after).1 = .ok text ∧
        (Work.readText? project.output after).1 = .ok (some text)) ∧
      (∃ again last, project.generate after = (.ok again, last) ∧ again.changed = false ∧
        last.tree = after.tree) ∧
      settings.Passes after ∧ (settings.check after).2.tree = after.tree := by
  refine ⟨passes_iff_keeps settings world, ?_⟩
  intro project built result after hproject hgenerate hstraight hapart
  obtain ⟨hcurrent, hdescribed⟩ :=
    current_of_generate hroot hproject hgenerate hstraight hapart
  obtain ⟨again, events, hagain, hunchanged⟩ := hcurrent.generate
  obtain ⟨hpasses, htree⟩ := passes_iff_keeps settings after
  have hkeeps : settings.Keeps after := by
    obtain ⟨described, hdescribes⟩ := (Project.reads_described settings).apply after hdescribed
    obtain ⟨result, last, hresult, hchanged⟩ :=
      (project.generate_unchanged { after with events := described }).mpr hcurrent
    refine ⟨result, last, ?_, hchanged⟩
    unfold generate
    rw [Work.bind_of_ok hdescribes]
    exact hresult
  refine ⟨?_, ⟨again, _, hagain, hunchanged, rfl⟩, hpasses.mpr hkeeps, htree⟩
  obtain ⟨text, hrendering, htext⟩ := hcurrent
  obtain ⟨_, hrender⟩ := project.reads_render.apply after hrendering
  obtain ⟨_, hread⟩ := (Work.reads_readText? project.output).apply after htext
  refine ⟨text, ?_, ?_⟩
  · rw [hrender]
  · rw [hread]

/-- In a tree without files a first generation writes the module of no registrations, and
what it leaves passes the check. -/
theorem empty_settles :
    let settings : Settings :=
      ⟨["/gen.py"], [], ⟨.slash, []⟩, ⟨.slash, ["gen.py"]⟩, RuntimeName.usual⟩
    ∃ result after, settings.generate ⟨.empty, [], []⟩ = (.ok result, after) ∧
      result.changed = true ∧ settings.Passes after := by
  intro settings
  let output : Path := ⟨.slash, ["gen.py"]⟩
  let selection : Selection := ⟨["/gen.py"], [], ⟨.slash, []⟩, some output⟩
  let project : Project := ⟨selection, output, RuntimeName.usual⟩
  let world : World := ⟨.empty, [], []⟩
  have hproject : settings.project world = (.ok project, world) := rfl
  obtain ⟨text, hrender⟩ := Catalogue.render_nil output.parent.names
  have hmodule (tree : FileNode) (houtput : output.resolve tree [] = .ok output) :
      project.moduleText [] tree [] = .ok text := by
    rw [Project.moduleText_of_resolve (by decide) houtput]
    change Except.mapError _ (Catalogue.render RuntimeName.usual output.parent.names []).2 = _
    rw [hrender]
    rfl
  let tree : FileNode := .directory [("gen.py", .file text.toUTF8)]
  have hexpand : selection.expand tree [] = .ok [] := by
    have hanchor : selection.anchor "/gen.py" = "/gen.py" := if_pos (by decide)
    have hspellings : Expansion.sortedSpellings tree "/gen.py" = ["/gen.py"] :=
      List.mergeSort_singleton "/gen.py"
    have hpattern : selection.expandPattern tree [] "/gen.py" = .ok [output] := by
      unfold Selection.expandPattern
      dsimp only
      rw [hanchor, if_neg (by decide), hspellings]
      rfl
    have hincluded : selection.expandPatterns tree [] selection.includes = .ok [output] := by
      unfold Selection.expandPatterns
      rw [show selection.includes = ["/gen.py"] from rfl, List.mapM_cons, hpattern]
      rfl
    unfold Selection.expand
    rw [hincluded]
    rfl
  have hexports : Analysis.exports selection tree [] = .ok [] := by
    unfold Analysis.exports
    rw [hexpand]
    rfl
  let reported : World := ⟨.empty, [], [.generating output]⟩
  obtain ⟨placed, hplaced⟩ : ∃ events,
      project.writePlaceholder reported = (.ok true, ⟨tree, [], events⟩) := by
    obtain ⟨events, hrendered⟩ := (project.reads_renderFiles []).apply
      { reported with events := [.generating output, .placeholder] } (hmodule .empty rfl)
    refine ⟨events, ?_⟩
    change (Work.report .placeholder >>= fun _ => project.renderFiles [] >>= fun text =>
      Work.writeText output text >>= fun _ => pure true) reported = _
    rw [Work.bind_of_ok (show Work.report .placeholder reported =
      (.ok (), { reported with events := [.generating output, .placeholder] }) from rfl),
      Work.bind_of_ok hrendered]
    rfl
  obtain ⟨scanned, hscanned⟩ :=
    (Analysis.reads_run selection).apply ⟨tree, [], placed⟩ hexports
  obtain ⟨rendered, hrendered⟩ :=
    (project.reads_renderFiles []).apply ⟨tree, [], scanned⟩ (hmodule tree rfl)
  have hheld : tree.Holds output.names ["gen.py"] text.toUTF8 := ⟨rfl, rfl⟩
  obtain ⟨updated, hupdated⟩ := project.writeIfChanged_of_same ⟨tree, [], rendered⟩
    (hheld.textAt (Project.decode?_of_moduleText (hmodule tree rfl)))
  let result : GenerationResult := ⟨output, [], true⟩
  let after : World := ⟨tree, [], updated ++ [.generated output 0 0]⟩
  have hgenerate : project.generate world = (.ok result, after) := by
    unfold Project.generate
    rw [Work.bind_of_ok (show Work.report (.generating output) world = (.ok (), reported) from rfl),
      Work.bind_of_ok hplaced, Work.bind_of_ok hscanned, Work.bind_of_ok hrendered,
      Work.bind_of_ok hupdated]
    rfl
  have hapart : project.SelectsApart tree [] := by
    intro paths hpaths path hpath
    rw [show project.selection.expand tree [] = .ok [] from hexpand] at hpaths
    cases hpaths
    cases hpath
  obtain ⟨-, -, hpasses, -⟩ := (generate_settles settings world rfl).2 project world result after
    hproject hgenerate ⟨rfl, rfl⟩ hapart
  refine ⟨result, after, ?_, rfl, hpasses⟩
  unfold generate
  rw [Work.bind_of_ok hproject]
  exact hgenerate

end Settings

end Registrar
