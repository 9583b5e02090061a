import Registrar.Proofs.Catalogue.Valid
import Registrar.Proofs.Files.Circles
import Registrar.Proofs.Project.Checking
import Registrar.Proofs.Project.Failing

/-! # What the program tells

A failure that the program knows ends it with status 1 and a line about it. Four others leave it: a
list in the environment that is no JSON document, a path of the settings that cannot be resolved, a
pattern whose directory cannot be listed or a match of which cannot be resolved, and a container module
that is no text. There are no more, whatever the arguments, the environment and the tree.
-/

namespace Registrar

namespace Catalogue

variable {runtimeModule : String} {directory : List String} {files : List FileExports}
  {error : CatalogueError}

/-- A rendering fails for the name of the runtime module, for a file that cannot be imported, or
because what is rendered is no module. -/
theorem render_eq_error (hnames : ∀ file ∈ files, file.path.names ≠ [])
    (h : (render runtimeModule directory files).2 = .error error) :
    error = .runtimeName runtimeModule ∨ IsUnimportable directory files error ∨
      error = .malformed := by
  unfold render at h
  split at h
  next => cases h; exact .inl rfl
  next =>
    obtain ⟨contributing, hcontributing⟩ | ⟨failure, hcontributing, hunimportable⟩ :=
      contributions_ok_or_error hnames directory
    · rw [hcontributing] at h
      dsimp only at h
      split at h
      next => cases h
      next => cases h; exact .inr (.inr rfl)
    · rw [hcontributing] at h
      cases h
      exact .inr (.inl hunimportable)

end Catalogue

namespace CommandLine

variable {error : ProjectError} {line : String}

/-- An error is told. -/
def IsTold (error : ProjectError) : Prop := ∃ line, errorLine? error = some line

theorem isTold_file (error : FileError) : IsTold (.file error) := ⟨_, rfl⟩

theorem isTold_of_render {runtimeModule : String} {directory : List String}
    {files : List FileExports} {error : CatalogueError}
    (hnames : ∀ file ∈ files, file.path.names ≠ [])
    (h : (Catalogue.render runtimeModule directory files).2 = .error error) :
    IsTold (.catalogue error) := by
  obtain rfl | ⟨_, _, _, _, rfl, _⟩ | rfl := Catalogue.render_eq_error hnames h <;> exact ⟨_, rfl⟩

theorem ne_empty_of_errorLine? (h : errorLine? error = some line) : line ≠ "" := by
  have hstart (rest : String) : "uiwire: " ++ rest ≠ "" := by simp
  rintro rfl
  rcases error with failure | _ | failure | failure
  · exact absurd (Option.some.inj h) (by simp)
  · cases h
  · cases h
  · cases failure with
    | noFileName path => cases h
    | _ => exact absurd (Option.some.inj h) (by simp)

theorem tell_result (work : Work Report) (world : World) :
    (tell work world).1 =
      match (work world).1 with
      | .ok report => .ok report
      | .error error => (errorLine? error).elim (.error error) fun line => .ok ⟨1, "", line⟩ := by
  rw [tell_apply]
  rcases work world with ⟨error | report, after⟩
  · dsimp only
    cases errorLine? error <;> rfl
  · rfl

/-- A report is of a success, or says what is wrong. -/
def Report.Says (report : Report) : Prop :=
  report.status = 0 ∧ report.errors = "" ∨ report.status = 1 ∧ report.errors ≠ ""

theorem says_of_runCommand {command : Command} {project : Project} {world : World} {report : Report}
    (h : (runCommand command project world).1 = .ok report) : report.Says := by
  obtain ⟨after, h⟩ : ∃ after, runCommand command project world = (.ok report, after) :=
    ⟨_, Prod.ext h rfl⟩
  cases command with
  | check =>
    obtain ⟨current, middle, -, h⟩ := Work.bind_eq_ok_iff.mp h
    cases current with
    | true => cases h; exact .inl ⟨rfl, rfl⟩
    | false =>
      cases h
      exact .inr ⟨rfl, by simp⟩
  | generate =>
    obtain ⟨result, middle, -, h⟩ := Work.bind_eq_ok_iff.mp h
    cases h
    exact .inl ⟨rfl, rfl⟩

end CommandLine

open CommandLine (Command IsTold errorLine?)

namespace Analysis

variable {selection : Selection} {tree : FileNode} {working : List String} {files : List FileExports}

theorem names_ne_nil_of_exports (hroot : tree.kind? [] = some .directory)
    (h : exports selection tree working = .ok files) : ∀ file ∈ files, file.path.names ≠ [] := by
  obtain ⟨events, hrun⟩ := (reads_run selection).apply ⟨tree, working, []⟩ h
  refine names_ne_nil_of_run ?_ hrun
  cases tree with
  | directory entries => exact ⟨entries, rfl⟩
  | _ => cases hroot

end Analysis

namespace Project

variable {project : Project} {settings : Settings} {command : Command} {tree scanned : FileNode}
  {working : List String} {files : List FileExports} {output : Path} {error : ProjectError}

theorem Examines.grows (hroot : tree.kind? [] = some .directory)
    (h : project.Examines tree working command scanned) : tree.Grows scanned := by
  cases h with
  | check => exact .refl tree
  | there => exact .refl tree
  | placed _ _ hwrites => exact hwrites.grows hroot

/-- Where files are scanned, the path of the module can still be resolved. -/
theorem Examines.resolve_output (hroot : tree.kind? [] = some .directory)
    (hdescribed : described settings tree working = .ok project)
    (h : project.Examines tree working command scanned) :
    ∃ output, project.output.resolve scanned working = .ok output := by
  obtain ⟨root, anchor, output, hresolved⟩ := described_eq_ok_iff.mp hdescribed
  refine ⟨output, ?_⟩
  have hgrows := h.grows hroot
  cases h with
  | check => exact hresolved.output_eq
  | there => exact hresolved.output_eq
  | placed _ _ hwrites =>
    obtain ⟨_, hholds⟩ := hwrites.holds hroot
    refine Path.resolve_of_grows hgrows ?_ hresolved.output_eq
    rw [hresolved.pieces_output]
    exact hgrows.straight_of_locate hholds.located

theorem isTold_of_moduleText (houtput : project.output.resolve tree working = .ok output)
    (hnames : ∀ file ∈ files, file.path.names ≠ [])
    (h : project.moduleText files tree working = .error error) : IsTold error := by
  by_cases haccepts : RuntimeName.accepts project.runtimeModule = true
  · rw [moduleText_of_resolve haccepts houtput] at h
    cases hrender : (Catalogue.render project.runtimeModule output.parent.names files).2 with
    | ok text => rw [hrender] at h; cases h
    | error failure =>
      rw [hrender] at h
      cases h
      exact CommandLine.isTold_of_render hnames hrender
  · unfold moduleText at h
    rw [if_pos (by simpa using haccepts)] at h
    cases h
    exact ⟨_, rfl⟩

/-- What leaves a command. -/
inductive Escapes (project : Project) (command : Command) (tree : FileNode) (working : List String) :
    ProjectError → Prop
  /-- The directory of a pattern cannot be listed, or a match not resolved. -/
  | unresolved {scanned : FileNode} {failure : ResolveError} :
      project.Examines tree working command scanned →
      project.selection.expand scanned working = .error failure →
      Escapes project command tree working (.unresolved failure)
  /-- The module can be rendered, but the one that is there is no text. -/
  | undecodable {text : String} {octets : ByteArray} :
      project.rendering tree working = .ok text →
      tree.read project.output.names = .ok octets → Work.decode? octets = none →
      Escapes project command tree working .undecodable

theorem isTold_of_unwritable {path : Path} {text : String} (h : Work.Unwritable path text tree error) :
    IsTold error := by
  cases h <;> exact CommandLine.isTold_file _

theorem textAt_eq_error {path : Path} (h : Work.textAt path tree = .error error) :
    IsTold error ∨ error = .undecodable ∧
      ∃ octets, tree.read path.names = .ok octets ∧ Work.decode? octets = none := by
  unfold Work.textAt at h
  split at h
  next => cases h
  next => cases h; exact .inl (CommandLine.isTold_file _)
  next octets hread =>
    split at h
    next => cases h
    next hdecode => cases h; exact .inr ⟨rfl, octets, hread, hdecode⟩

theorem examines_of_pathExists (h : tree.pathExists project.output.names = true) :
    project.Examines tree working command tree := by
  cases command with
  | check => exact .check
  | generate => exact .there h

/-- A failure is told, or it is one of those that leave a command. -/
theorem Fails.told_or_escapes (hroot : tree.kind? [] = some .directory)
    (hdescribed : described settings tree working = .ok project)
    (h : project.Fails tree working command error) :
    IsTold error ∨ project.Escapes command tree working error := by
  obtain ⟨_, _, output, hresolved⟩ := described_eq_ok_iff.mp hdescribed
  cases h with
  | unplanned _ hmodule =>
    exact .inl (isTold_of_moduleText hresolved.output_eq (List.forall_mem_nil _) hmodule)
  | unplaced _ _ hwrite => exact .inl (isTold_of_unwritable hwrite)
  | unwritten _ _ _ _ hwrite => exact .inl (isTold_of_unwritable hwrite)
  | unrendered hexamines h =>
    obtain h | ⟨files, hfiles, hmodule⟩ := rendering_eq_error_iff.mp h
    · obtain ⟨failure, hexpand, rfl⟩ := Analysis.exports_eq_error_iff.mp h
      exact .inr (.unresolved hexamines hexpand)
    · obtain ⟨_, houtput⟩ := hexamines.resolve_output hroot hdescribed
      have hroot' := (hexamines.grows hroot).kinds _ _ hroot
      exact .inl (isTold_of_moduleText houtput (Analysis.names_ne_nil_of_exports hroot' hfiles) hmodule)
  | unread hexamines hrendering h =>
    refine (textAt_eq_error h).imp_right ?_
    rintro ⟨rfl, octets, hread, hdecode⟩
    cases hexamines with
    | check => exact .undecodable hrendering hread hdecode
    | there => exact .undecodable hrendering hread hdecode
    | placed _ htext hwrites =>
      -- What was just written can be read.
      rw [read_of_writes hroot hwrites] at hread
      cases hread
      rw [decode?_of_moduleText htext] at hdecode
      cases hdecode

theorem Escapes.fails (h : project.Escapes command tree working error) :
    project.Fails tree working command error ∧ errorLine? error = none := by
  cases h with
  | unresolved hexamines hexpand =>
    exact ⟨.unrendered hexamines (rendering_eq_error_iff.mpr
      (.inl (Analysis.exports_eq_error_iff.mpr ⟨_, hexpand, rfl⟩))), rfl⟩
  | undecodable hrendering hread hdecode =>
    have hexists : tree.pathExists project.output.names = true := by
      cases hmissing : tree.pathExists project.output.names with
      | true => rfl
      | false => exact absurd hread (FileNode.read_of_not_exists hmissing)
    refine ⟨.unread (examines_of_pathExists hexists) hrendering ?_, rfl⟩
    unfold Work.textAt
    rw [hread]
    dsimp only
    rw [hdecode]

end Project

/-! ## Settings -/

namespace Settings

open Json (Document)

variable {explicit : List (String × Document)} {environment : List (String × String)}
  {field : SettingsField}

/-- The environment gives a list that is no JSON document. -/
def IsUndecodable (environment : List (String × String)) (field : SettingsField) : Prop :=
  isList field = true ∧
    ∃ text, variableText? environment field = some text ∧ Json.parse? text = none

theorem value?_of_isUndecodable (h : IsUndecodable environment field) :
    value? explicit environment field = .error .undecodable := by
  obtain ⟨hlist, text, htext, hparse⟩ := h
  unfold value? environmentValue?
  rw [htext]
  dsimp only
  rw [if_pos hlist, hparse]
  rfl

theorem exists_value? (explicit : List (String × Document)) (h : ¬IsUndecodable environment field) :
    ∃ value, value? explicit environment field = .ok value := by
  unfold value? environmentValue?
  cases htext : variableText? environment field with
  | none => exact ⟨_, rfl⟩
  | some text =>
    dsimp only
    split
    next hlist =>
      cases hparse : Json.parse? text with
      | none => exact absurd ⟨hlist, text, htext, hparse⟩ h
      | some value => cases value <;> exact ⟨_, rfl⟩
    next => exact ⟨_, rfl⟩

/-- Settings cannot be decoded exactly for a list in the environment. -/
theorem read_eq_undecodable_iff (explicit : List (String × Document)) :
    read explicit environment = .error .undecodable ↔ ∃ field, IsUndecodable environment field := by
  have hvalue (field : SettingsField) (hlist : isList field = false) :=
    exists_value? explicit (show ¬IsUndecodable environment field from
      fun h => Bool.false_ne_true (hlist.symm.trans h.1))
  unfold read
  dsimp only
  by_cases hincludes : IsUndecodable environment .includes
  · rw [value?_of_isUndecodable hincludes]
    exact iff_of_true rfl ⟨_, hincludes⟩
  obtain ⟨includes, hincludes'⟩ := exists_value? explicit hincludes
  by_cases hexcludes : IsUndecodable environment .excludes
  · rw [hincludes', value?_of_isUndecodable hexcludes]
    exact iff_of_true rfl ⟨_, hexcludes⟩
  obtain ⟨excludes, hexcludes'⟩ := exists_value? explicit hexcludes
  obtain ⟨projectRoot, hprojectRoot⟩ := hvalue .projectRoot rfl
  obtain ⟨outputPath, houtputPath⟩ := hvalue .outputPath rfl
  obtain ⟨runtimeModule, hruntimeModule⟩ := hvalue .runtimeModule rfl
  rw [hincludes', hexcludes', hprojectRoot, houtputPath, hruntimeModule]
  refine iff_of_false (fun h => ?_) ?_
  · dsimp only [bind, Except.bind] at h
    split at h <;> cases h
  · rintro ⟨field, hfield⟩
    cases field with
    | includes => exact hincludes hfield
    | excludes => exact hexcludes hfield
    | _ => cases hfield.1

/-- What leaves a command of the project that settings describe. -/
inductive Escapes (settings : Settings) (command : Command) (tree : FileNode)
    (working : List String) : ProjectError → Prop
  /-- A path of the settings cannot be resolved. -/
  | undescribed {error : ProjectError} :
      Project.described settings tree working = .error error →
      Escapes settings command tree working error
  /-- The command does not tell a failure. -/
  | failed {project : Project} {error : ProjectError} :
      Project.described settings tree working = .ok project →
      project.Escapes command tree working error → Escapes settings command tree working error

end Settings

namespace CommandLine

variable {command : Command} {project : Project} {settings : Settings} {options : Options}
  {arguments : List String} {environment : List (String × String)} {world : World}
  {error : ProjectError}

theorem tell_of_fails (world : World) (h : project.Fails world.tree world.working command error) :
    (tell (runCommand command project) world).1 =
      (errorLine? error).elim (.error error) fun line => .ok ⟨1, "", line⟩ := by
  rw [tell_result, Project.runCommand_fails_iff.mpr h]

/-- What a command ends with says what is wrong, if anything is. -/
theorem says_of_tell {report : Report}
    (h : (tell (runCommand command project) world).1 = .ok report) : report.Says := by
  rw [tell_result] at h
  cases hrun : (runCommand command project world).1 with
  | ok done =>
    rw [hrun] at h
    cases h
    exact says_of_runCommand hrun
  | error error =>
    rw [hrun] at h
    dsimp only at h
    cases hline : errorLine? error with
    | none => rw [hline] at h; cases h
    | some line =>
      rw [hline] at h
      cases h
      exact .inr ⟨rfl, ne_empty_of_errorLine? hline⟩

/-- Without failures a command ends with status 0, or it is a check of a module that is out of date. -/
theorem tell_of_not_fails (world : World)
    (h : ∀ error, ¬project.Fails world.tree world.working command error) :
    ∃ report, (tell (runCommand command project) world).1 = .ok report ∧
      (report.status = 0 ↔ (command = .check → project.Current world.tree world.working)) := by
  cases hrun : (runCommand command project world).1 with
  | error error => exact absurd (Project.runCommand_fails_iff.mp hrun) (h error)
  | ok report =>
    have htell : (tell (runCommand command project) world).1 = .ok report := by
      rw [tell_result, hrun]
    refine ⟨report, htell, ?_⟩
    cases command with
    | generate =>
      obtain ⟨result, _, -, hreport⟩ := Work.bind_eq_ok_iff.mp
        (Prod.ext hrun rfl : runCommand .generate project world = (.ok report, _))
      cases hreport
      exact iff_of_true rfl nofun
    | check =>
      rw [← (project.runCommand_check world).1]
      constructor
      · exact fun hstatus _ => ⟨report, _, Prod.ext htell rfl, hstatus⟩
      · intro h
        obtain ⟨_, _, htell', hstatus⟩ := h rfl
        rw [htell'] at htell
        cases htell
        exact hstatus

theorem tell_eq_error_iff (world : World) (hroot : world.tree.kind? [] = some .directory)
    (hdescribed : Project.described settings world.tree world.working = .ok project) :
    (tell (runCommand command project) world).1 = .error error ↔
      project.Escapes command world.tree world.working error := by
  constructor
  · intro h
    cases hrun : (runCommand command project world).1 with
    | ok done => rw [tell_result, hrun] at h; cases h
    | error failure =>
      have hfails := Project.runCommand_fails_iff.mp hrun
      rw [tell_of_fails world hfails] at h
      obtain ⟨line, hline⟩ | hescapes := hfails.told_or_escapes hroot hdescribed
      · rw [hline] at h
        cases h
      · rw [hescapes.fails.2] at h
        cases h
        exact hescapes
  · intro h
    rw [tell_of_fails world h.fails.1, h.fails.2]
    rfl

/-- With arguments and settings that can be read, a command is done for the project described. -/
theorem run_result (harguments : read arguments = .run command options)
    (hsettings : Settings.read options.explicit environment = .ok settings) (world : World) :
    ∃ events, (run arguments environment world).1 =
      (Project.described settings world.tree world.working >>= fun project =>
        (tell (runCommand command project) { world with events }).1.map .done) := by
  obtain ⟨events, hproject⟩ := Project.reads_described settings world
  refine ⟨events, ?_⟩
  unfold run
  rw [harguments]
  dsimp only
  rw [hsettings]
  dsimp only
  rw [Work.bind_apply, hproject]
  cases Project.described settings world.tree world.working with
  | error error => rfl
  | ok project =>
    dsimp only
    rw [map_eq_pure_bind, Work.bind_apply]
    change _ = Except.map Ending.done (tell (runCommand command project) { world with events }).1
    rcases tell (runCommand command project) { world with events } with ⟨error | report, after⟩ <;> rfl

theorem run_of_described (harguments : read arguments = .run command options)
    (hsettings : Settings.read options.explicit environment = .ok settings)
    (hdescribed : Project.described settings world.tree world.working = .ok project) :
    ∃ events, (run arguments environment world).1 =
      (tell (runCommand command project) { world with events }).1.map .done := by
  obtain ⟨events, hrun⟩ := run_result harguments hsettings world
  rw [hdescribed] at hrun
  exact ⟨events, hrun⟩

/-- How the program ends when there are no settings. -/
def endingOf : SettingsError → Ending
  | .undecodable => .undecodableSettings
  | .invalid _ => .done ⟨1, "", "Invalid settings:\n"⟩

theorem run_of_error {failure : SettingsError} (harguments : read arguments = .run command options)
    (hsettings : Settings.read options.explicit environment = .error failure) (world : World) :
    (run arguments environment world).1 = .ok (endingOf failure) := by
  unfold run
  rw [harguments]
  dsimp only
  rw [hsettings]
  cases failure <;> rfl

theorem run_eq_error_iff (harguments : read arguments = .run command options)
    (hsettings : Settings.read options.explicit environment = .ok settings)
    (hroot : world.tree.kind? [] = some .directory) :
    (run arguments environment world).1 = .error error ↔
      settings.Escapes command world.tree world.working error := by
  obtain ⟨events, hrun⟩ := run_result harguments hsettings world
  rw [hrun, except_bind_eq_error_iff]
  have htell {project : Project}
      (hdescribed : Project.described settings world.tree world.working = .ok project) :
      (tell (runCommand command project) { world with events }).1.map Ending.done = .error error ↔
        project.Escapes command world.tree world.working error := by
    rw [← tell_eq_error_iff { world with events } hroot hdescribed]
    cases (tell (runCommand command project) { world with events }).1 with
    | error failure => exact ⟨fun h => by cases h; rfl, fun h => by cases h; rfl⟩
    | ok report => exact ⟨nofun, nofun⟩
  constructor
  · rintro (h | ⟨project, hdescribed, h⟩)
    · exact .undescribed h
    · exact .failed hdescribed ((htell hdescribed).mp h)
  · intro h
    cases h with
    | undescribed h => exact .inl h
    | failed hdescribed h => exact .inr ⟨_, hdescribed, (htell hdescribed).mpr h⟩

/-- What is done with settings is reported, and the report says what is wrong, if anything is. -/
theorem exists_report (harguments : read arguments = .run command options)
    (hsettings : Settings.read options.explicit environment = .ok settings) {ending : Ending}
    (h : (run arguments environment world).1 = .ok ending) :
    ∃ report, ending = .done report ∧ report.Says := by
  cases hdescribed : Project.described settings world.tree world.working with
  | error error =>
    obtain ⟨events, hrun⟩ := run_result harguments hsettings world
    rw [hrun, hdescribed] at h
    cases h
  | ok project =>
    obtain ⟨events, hrun⟩ := run_of_described harguments hsettings hdescribed
    rw [hrun] at h
    cases htell : (tell (runCommand command project) { world with events }).1 with
    | error error => rw [htell] at h; cases h
    | ok report =>
      rw [htell] at h
      cases h
      exact ⟨report, rfl, says_of_tell htell⟩

/-- A tree in which the container module is an octet that no text has. -/
def blurred : World :=
  ⟨.directory [("src", .directory [("container_gen.py", .file ⟨#[0x80]⟩)])], [], []⟩

end CommandLine

end Registrar
