import Registrar.Proofs.Catalogue.Relocating
import Registrar.Proofs.Catalogue.Scanned
import Registrar.Proofs.Files.Circles
import Registrar.Proofs.Project.Frame
import Registrar.Proofs.Project.Settings

/-! # The octets of the container module

After a generation the file of the container module decodes to what a rendering gives, but its octets
need not be those of this text: octets that were there before are kept if they decode to it, and all
line ends decode to newlines. The octets are exact unless the file was the text with carriage
returns. Projects that scan the same files below their roots have the same text rendered, so that
their modules have the same octets where both are exact.
-/

namespace Registrar

/-! ## Octets that decode to a text -/

theorem not_mem_unifyLineEnds (text : List Char) : '\r' ∉ unifyLineEnds text := by
  induction text using unifyLineEnds.induct with
  | case1 => simp [unifyLineEnds]
  | case2 text ih => simpa [unifyLineEnds] using ih
  | case3 text hnewline ih =>
    rw [unifyLineEnds]
    · simpa using ih
    · exact hnewline
  | case4 c text hnewline hreturn ih =>
    rw [unifyLineEnds]
    · rw [List.mem_cons, not_or]
      exact ⟨Ne.symm hreturn, ih⟩
    · exact hnewline
    · exact hreturn

theorem unifyLineEnds_append {front : List Char} (h : '\r' ∉ front) (back : List Char) :
    unifyLineEnds (front ++ back) = front ++ unifyLineEnds back := by
  induction front with
  | nil => rfl
  | cons c front ih =>
    rw [List.mem_cons, not_or] at h
    rw [List.cons_append, unifyLineEnds]
    · rw [ih h.2, List.cons_append]
    · exact fun _ hreturn _ => h.1 hreturn.symm
    · exact fun hreturn => h.1 hreturn.symm

namespace Work

variable {octets : ByteArray} {text : String}

theorem decode?_eq_some_iff :
    decode? octets = some text ↔
      ∃ spelled : String, octets = spelled.toUTF8 ∧ unifyLineEnds spelled.toList = text.toList := by
  constructor
  · intro h
    obtain ⟨spelled, hspelled, rfl⟩ := Option.map_eq_some_iff.mp h
    unfold String.fromUTF8? at hspelled
    split at hspelled
    next hvalid =>
      cases hspelled
      exact ⟨String.fromUTF8 octets hvalid, rfl, by rw [String.toList_ofList]⟩
    next => cases hspelled
  · rintro ⟨spelled, rfl, htext⟩
    rw [decode?, fromUTF8?_toUTF8, Option.map_some, htext, String.ofList_toList]

/-- Octets are exactly a text that they decode to unless they have a carriage return. -/
theorem eq_toUTF8_iff (h : decode? octets = some text) :
    octets = text.toUTF8 ↔ ¬∃ spelled : String, octets = spelled.toUTF8 ∧ '\r' ∈ spelled.toList := by
  obtain ⟨spelled, rfl, htext⟩ := decode?_eq_some_iff.mp h
  have hplain : '\r' ∉ text.toList := htext ▸ not_mem_unifyLineEnds _
  constructor
  · rintro hexact ⟨other, hother, hreturn⟩
    obtain rfl : text = other := String.toByteArray_inj.mp (hexact.symm.trans hother)
    exact hplain hreturn
  · intro hnone
    have hspelled : '\r' ∉ spelled.toList := fun hreturn => hnone ⟨spelled, rfl, hreturn⟩
    rw [unifyLineEnds_of_not_mem hspelled] at htext
    rw [String.toList_inj.mp htext]

/-- A file is a text with carriage returns, which are not there when it is read. -/
def Respells (path : Path) (tree : FileNode) (text : String) : Prop :=
  ∃ spelled : String, tree.read path.names = .ok spelled.toUTF8 ∧ '\r' ∈ spelled.toList ∧
    unifyLineEnds spelled.toList = text.toList

/-- What respells a text is read as the text. -/
theorem Respells.textAt {path : Path} {tree : FileNode} (h : Respells path tree text) :
    Work.textAt path tree = .ok (some text) := by
  obtain ⟨spelled, hread, -, htext⟩ := h
  unfold Work.textAt
  rw [hread]
  dsimp only
  rw [decode?_eq_some_iff.mpr ⟨spelled, rfl, htext⟩]

end Work

namespace Project

variable {project : Project} {settings : Settings} {world after : World} {result : GenerationResult}
  {tree : FileNode} {working : List String} {text : String}

/-! ## One generation -/

/-- A generation of the module that some settings describe. Of the selected paths that were resolved
only halfway, on a circle of links, none leads to the module. -/
structure Generated (settings : Settings) (world : World) (project : Project)
    (result : GenerationResult) (after : World) : Prop where
  root : world.tree.kind? [] = some .directory
  described : described settings world.tree world.working = .ok project
  generated : project.generate world = (.ok result, after)
  apart : project.SelectsApart after.tree after.working

/-- The module that is left out of a selection is the one that stands at its path at the end. -/
theorem Resolved.leavesOut_of_locate {root anchor output : Path} {last : FileNode} {place : Place}
    (h : Resolved settings tree working project root anchor output) (hgrows : tree.Grows last)
    (hlocate : last.locate true project.output.names = .ok place) :
    project.LeavesOut last output := by
  obtain ⟨hselected, hslash, hbefore⟩ := h.leavesOut_of_straight (hgrows.straight_of_locate hlocate)
  exact ⟨hselected, hslash, hbefore.congr hgrows.links⟩

theorem Generated.current (h : Generated settings world project result after) :
    project.Current after.tree after.working := by
  obtain ⟨root, anchor, output, hresolved⟩ := described_eq_ok_iff.mp h.described
  obtain ⟨octets, hread, -⟩ := changed_iff_read_ne h.root h.generated
  have hgrows := (grows_of_generate h.root h.generated).1
  have hlocate : ∃ place, after.tree.locate true project.output.names = .ok place := by
    unfold FileNode.read FileNode.status at hread
    cases hplace : after.tree.locate true project.output.names with
    | ok place => exact ⟨place, rfl⟩
    | error error =>
      rw [hplace] at hread
      cases hread
  obtain ⟨place, hlocate⟩ := hlocate
  exact current_of_generate h.root h.generated (hresolved.leavesOut_of_locate hgrows hlocate) h.apart

/-- Octets that were not there before are those of a text that was rendered. -/
theorem exists_text_of_read_ne {octets : ByteArray} (hroot : world.tree.kind? [] = some .directory)
    (hgenerate : project.generate world = (.ok result, after))
    (hread : after.tree.read project.output.names = .ok octets)
    (hother : world.tree.read project.output.names ≠ .ok octets) :
    ∃ text, Work.decode? text.toUTF8 = some text ∧ octets = text.toUTF8 := by
  obtain ⟨wrote, middle, files, text, changed, hplaced, -, htext, hupdated, -⟩ :=
    generate_steps hgenerate
  have hmiddle := (placed_of_writePlaceholder hplaced).1.grows hroot
  have hstart := placeholder_of_writePlaceholder (by exact hroot) hplaced
  generalize after.tree = last at hread hupdated
  generalize middle.tree = middle at *
  cases hupdated with
  | written _ _ _ _ _ hwrites =>
    rw [read_of_writes (hmiddle.kinds _ _ hroot) hwrites] at hread
    exact ⟨text, decode?_of_moduleText htext, (Except.ok.inj hread).symm⟩
  | same =>
    obtain hsame | ⟨-, placed, hmodule, hheld⟩ := hstart
    · rw [hsame] at hread
      exact absurd hread hother
    · rw [hheld] at hread
      exact ⟨placed, decode?_of_moduleText hmodule, (Except.ok.inj hread).symm⟩

/-- A file that is read as the text at the end is left as it is. -/
theorem tree_of_textAt (hroot : world.tree.kind? [] = some .directory)
    (hgenerate : project.generate world = (.ok result, after))
    (hbefore : Work.textAt project.output world.tree = .ok (some text))
    (hafter : Work.textAt project.output after.tree = .ok (some text)) : after.tree = world.tree := by
  obtain ⟨wrote, middle, files, rendered, changed, hplaced, -, hmodule, hupdated, -⟩ :=
    generate_eq_ok hgenerate
  generalize after.tree = last at hafter hupdated ⊢
  generalize world.tree = tree at *
  cases hplaced with
  | written _ _ _ hmissing =>
    rw [pathExists_of_textAt hbefore] at hmissing
    cases hmissing
  | there =>
    cases hupdated with
    | same => rfl
    | written current _ _ hcurrent hother hwrites =>
      obtain ⟨octets, hread, hdecode⟩ := Work.read_of_textAt hafter
      rw [read_of_writes hroot hwrites] at hread
      obtain rfl := Except.ok.inj hread
      have hrendered : rendered = text :=
        Option.some.inj ((decode?_of_moduleText hmodule).symm.trans hdecode)
      rw [hbefore, Except.ok.injEq] at hcurrent
      exact absurd (hcurrent.symm.trans (congrArg some hrendered.symm)) hother

/-- After a generation the octets of the module are exactly those of its text unless they were the
text with carriage returns before. -/
theorem Generated.octets (h : Generated settings world project result after)
    (htext : Work.textAt project.output after.tree = .ok (some text)) :
    ∃ octets, after.tree.read project.output.names = .ok octets ∧ Work.decode? octets = some text ∧
      (octets = text.toUTF8 ↔ ¬Work.Respells project.output world.tree text) := by
  obtain ⟨octets, hread, hdecode⟩ := Work.read_of_textAt htext
  refine ⟨octets, hread, hdecode, ?_⟩
  by_cases hbefore : world.tree.read project.output.names = .ok octets
  · rw [Work.eq_toUTF8_iff hdecode, not_iff_not]
    constructor
    · rintro ⟨spelled, rfl, hreturn⟩
      obtain ⟨other, hother, hunified⟩ := Work.decode?_eq_some_iff.mp hdecode
      obtain rfl : spelled = other := String.toByteArray_inj.mp hother
      exact ⟨spelled, hbefore, hreturn, hunified⟩
    · rintro ⟨spelled, hspelled, hreturn, -⟩
      exact ⟨spelled, Except.ok.inj (hbefore.symm.trans hspelled), hreturn⟩
  · obtain ⟨rendered, hrendered, rfl⟩ := exists_text_of_read_ne h.root h.generated hread hbefore
    obtain rfl : text = rendered := Option.some.inj (hdecode.symm.trans hrendered)
    refine iff_of_true rfl fun hrespells => hbefore ?_
    rw [← tree_of_textAt h.root h.generated hrespells.textAt htext]
    exact hread

/-! ## Projects that scan the same files -/

/-- The registrations in the octets of a file. -/
def registrationsIn (octets : ByteArray) : List Registration :=
  match (Work.decode? octets).bind (Registration.scanSource? .usual) with
  | some scan => scan.registrations
  | none => []

/-- What a project scans, and where its module stands: places below a root, and octets. -/
structure Scans (project : Project) (world : World) (root place : List String)
    (files : List (List String × ByteArray)) : Prop where
  output : project.output.resolve world.tree world.working = .ok ⟨.slash, root ++ place⟩
  selected : project.selection.expand world.tree world.working =
    .ok (files.map fun file => ⟨.slash, root ++ file.1⟩)
  octets : ∀ file ∈ files, world.tree.read (root ++ file.1) = .ok file.2

/-- Two projects scan the same octets at the same places below their roots, and put their modules at
the same place for the same runtime. -/
def ScansAlike (project : Project) (world : World) (other : Project) (elsewhere : World) : Prop :=
  project.runtimeModule = other.runtimeModule ∧
    ∃ root root' place files, (root = [] ↔ root' = []) ∧ place ≠ [] ∧ (∀ file ∈ files, file.1 ≠ []) ∧
      project.Scans world root place files ∧ other.Scans elsewhere root' place files

variable {place : List String} {files : List (List String × ByteArray)} {elsewhere : World}
  {other : Project}

theorem scanFile_of_read {path : Path} {octets : ByteArray}
    (h : tree.read path.names = .ok octets) :
    (Analysis.scanFile .usual tree path).2 = registrationsIn octets := by
  unfold Analysis.scanFile Analysis.textAt? registrationsIn
  rw [h]
  dsimp only
  cases Work.decode? octets with
  | none => rfl
  | some source =>
    rw [Option.bind_some]
    dsimp only
    cases Registration.scanSource? .usual source <;> rfl

theorem isName_of_resolve {path resolved : Path}
    (h : path.resolve tree working = .ok resolved) : ∀ name ∈ resolved.names, FileNode.IsName name := by
  obtain ⟨-, -, rfl⟩ := Path.resolve_eq_ok_iff.mp h
  exact fun name hname => (Path.mem_normalize hname).1

theorem Scans.isName {root : List String} (h : project.Scans world root place files) :
    (∀ name ∈ root ++ place, FileNode.IsName name) ∧
      ∀ file ∈ files, ∀ name ∈ file.1, FileNode.IsName name := by
  refine ⟨isName_of_resolve h.output, fun file hfile name hname => ?_⟩
  exact Analysis.isName_of_mem_expand h.selected (List.mem_map_of_mem hfile) name
    (List.mem_append_right root hname)

theorem accepts_of_rendering (h : project.rendering tree working = .ok text) :
    RuntimeName.accepts project.runtimeModule = true := by
  unfold Project.rendering at h
  cases hfiles : Analysis.exports project.selection tree working with
  | error error =>
    rw [hfiles] at h
    cases h
  | ok files =>
    rw [hfiles] at h
    change project.moduleText files tree working = .ok text at h
    unfold moduleText at h
    split at h
    next => cases h
    next haccepts => simpa using haccepts

/-- The module of a project, by what it scans. -/
theorem Scans.rendering {root : List String} (h : project.Scans world root place files)
    (hplace : place ≠ []) (haccepts : RuntimeName.accepts project.runtimeModule = true) :
    project.rendering world.tree world.working =
      (Catalogue.render project.runtimeModule (root ++ place.dropLast) (FileExports.number 0
        ((files.map fun file => (file.1, registrationsIn file.2)).map (FileExports.below root)))).2.mapError
          .catalogue := by
  have hscans : (files.map fun file => (⟨.slash, root ++ file.1⟩ : Path)).map
      (fun path => (path, (Analysis.scanFile .usual world.tree path).2)) =
      (files.map fun file => (file.1, registrationsIn file.2)).map (FileExports.below root) := by
    rw [List.map_map, List.map_map]
    refine List.map_congr_left fun file hfile => ?_
    rw [Function.comp_apply, Function.comp_apply, scanFile_of_read (h.octets file hfile)]
    rfl
  have hexports : Analysis.exports project.selection world.tree world.working =
      .ok (FileExports.number 0
        ((files.map fun file => (file.1, registrationsIn file.2)).map (FileExports.below root))) := by
    unfold Analysis.exports
    rw [h.selected, ← hscans]
    rfl
  unfold Project.rendering
  rw [hexports]
  refine (moduleText_of_resolve haccepts h.output _).trans ?_
  rw [Path.parent, List.dropLast_append_of_ne_nil hplace]

/-- Projects that scan the same files have the same text rendered. -/
theorem ScansAlike.rendering (h : project.ScansAlike world other elsewhere)
    (htext : project.rendering world.tree world.working = .ok text) :
    other.rendering elsewhere.tree elsewhere.working = .ok text := by
  obtain ⟨hruntime, root, root', place, files, hempty, hplace, hfiles, hscans, hscans'⟩ := h
  obtain ⟨hnames, hbelow⟩ := hscans.isName
  have hroot := (List.forall_mem_append.mp hnames).1
  have hroot' := (List.forall_mem_append.mp hscans'.isName.1).1
  have hdirectory : ∀ name ∈ place.dropLast, FileNode.IsName name := fun name hname =>
    (List.forall_mem_append.mp hnames).2 name (List.mem_of_mem_dropLast hname)
  have haccepts := accepts_of_rendering htext
  rw [hscans.rendering hplace haccepts] at htext
  rw [hscans'.rendering hplace (hruntime ▸ haccepts), ← hruntime]
  cases hrender : (Catalogue.render project.runtimeModule (root ++ place.dropLast)
      (FileExports.number 0 ((files.map fun file => (file.1, registrationsIn file.2)).map
        (FileExports.below root)))).2 with
  | error error =>
    rw [hrender] at htext
    cases htext
  | ok rendered =>
    rw [hrender] at htext
    cases htext
    rw [Catalogue.render_relocated hroot hroot' hempty hdirectory ?_ hrender]
    · rfl
    · rintro scan hscan
      obtain ⟨file, hfile, rfl⟩ := List.mem_map.mp hscan
      exact ⟨hfiles file hfile, hbelow file hfile⟩

/-- After a generation the file of the container module decodes to the text that a rendering gives. Its
octets are exactly those of the text unless the file was the text with carriage returns before. Projects
that scan the same files have the same text, so that their modules have the same octets, unless one
was there with carriage returns. -/
theorem generate_octets (h : Generated settings world project result after) :
    ∃ text octets, (project.render after).1 = .ok text ∧
      after.tree.read project.output.names = .ok octets ∧ Work.decode? octets = some text ∧
      (octets = text.toUTF8 ↔ ¬Work.Respells project.output world.tree text) ∧
      ∀ settings' world' other result' elsewhere, Generated settings' world' other result' elsewhere →
        project.ScansAlike after other elsewhere → (other.render elsewhere).1 = .ok text ∧
          (¬Work.Respells project.output world.tree text →
            ¬Work.Respells other.output world'.tree text →
            elsewhere.tree.read other.output.names = .ok octets) := by
  obtain ⟨text, hrendering, htext⟩ := h.current
  obtain ⟨octets, hread, hdecode, hexact⟩ := h.octets htext
  have hrender {project : Project} {world : World}
      (h : project.rendering world.tree world.working = .ok text) :
      (project.render world).1 = .ok text := by
    obtain ⟨_, happly⟩ := project.reads_render.apply world h
    rw [happly]
  refine ⟨text, octets, hrender hrendering, hread, hdecode, hexact, ?_⟩
  intro settings' world' other result' elsewhere h' halike
  have hrendering' := halike.rendering hrendering
  refine ⟨hrender hrendering', fun hplain hplain' => ?_⟩
  obtain ⟨text', hsame, htext'⟩ := h'.current
  obtain rfl : text = text' := Except.ok.inj (hrendering'.symm.trans hsame)
  obtain ⟨octets', hread', -, hexact'⟩ := h'.octets htext'
  rw [hread', hexact.mpr hplain, hexact'.mpr hplain']

/-! ## A module with carriage returns -/

theorem newline_mem_of_render {runtimeModule : String} {directory : List String}
    {files : List FileExports} (h : (Catalogue.render runtimeModule directory files).2 = .ok text) :
    '\n' ∈ text.toList := by
  unfold Catalogue.render at h
  split at h
  · cases h
  · split at h
    · cases h
    · dsimp only at h
      split at h
      next source hsource =>
        cases h
        obtain ⟨_, -, rfl⟩ := Option.map_eq_some_iff.mp hsource
        simp [Canonical.normalize]
      next => cases h

/-- Every rendered text can be written with a carriage return that is not there when it is read. -/
theorem exists_respelling {runtimeModule : String} {directory : List String}
    {files : List FileExports} (h : (Catalogue.render runtimeModule directory files).2 = .ok text) :
    ∃ spelled : String, '\r' ∈ spelled.toList ∧ unifyLineEnds spelled.toList = text.toList := by
  obtain ⟨spelled, -, hspelled⟩ := Work.decode?_eq_some_iff.mp (Catalogue.decode?_of_render h)
  have hplain : '\r' ∉ text.toList := hspelled ▸ not_mem_unifyLineEnds _
  obtain ⟨front, back, htext⟩ := List.append_of_mem (newline_mem_of_render h)
  rw [htext, List.mem_append, not_or, List.mem_cons, not_or] at hplain
  refine ⟨.ofList (front ++ '\r' :: '\n' :: back), by simp, ?_⟩
  rw [String.toList_ofList, unifyLineEnds_append hplain.1, unifyLineEnds,
    unifyLineEnds_of_not_mem hplain.2.2, htext]

/-- A project in a directory that has nothing but its module. -/
def solitarySettings (name : String) : Settings :=
  ⟨["/x"], [], ⟨.slash, [name]⟩, ⟨.relative, ["gen.py"]⟩, RuntimeName.usual⟩

def solitary (name : String) : Project :=
  ⟨⟨["/x"], [], ⟨.slash, [name]⟩, some ⟨.slash, [name, "gen.py"]⟩⟩, ⟨.slash, [name, "gen.py"]⟩,
    RuntimeName.usual⟩

def solitaryWorld (name : String) (octets : ByteArray) : World :=
  ⟨.directory [(name, .directory [("gen.py", .file octets)])], [], []⟩

/-- Nothing is scanned in a project that has nothing but its module. -/
theorem expand_solitary {name : String} (octets : ByteArray) (hname : name = "p" ∨ name = "q") :
    (solitary name).selection.expand (solitaryWorld name octets).tree [] = .ok [] := by
  have hanchor : (solitary name).selection.anchor "/x" = "/x" := if_pos (by decide)
  refine Selection.expand_of_unmatched "/x" rfl rfl ?_ ?_
  · rw [hanchor]
    decide
  · rw [hanchor]
    rcases hname with rfl | rfl <;> rfl

theorem solitary_generated {name : String} {octets : ByteArray} (hname : name = "p" ∨ name = "q")
    (hrender : (Catalogue.render RuntimeName.usual [name] []).2 = .ok text)
    (hdecode : Work.decode? octets = some text) :
    ∃ result after, Generated (solitarySettings name) (solitaryWorld name octets) (solitary name)
      result after ∧ after.tree = (solitaryWorld name octets).tree ∧ after.working = [] := by
  have hexpand := expand_solitary octets hname
  obtain ⟨hdescribed, houtput, hheld⟩ :
      described (solitarySettings name) (solitaryWorld name octets).tree [] = .ok (solitary name) ∧
      (solitary name).output.resolve (solitaryWorld name octets).tree [] = .ok (solitary name).output ∧
      (solitaryWorld name octets).tree.Holds (solitary name).output.names [name, "gen.py"] octets := by
    rcases hname with rfl | rfl <;> exact ⟨rfl, rfl, rfl, rfl⟩
  have hcurrent : (solitary name).Current (solitaryWorld name octets).tree
      (solitaryWorld name octets).working := by
    refine ⟨text, ?_, hheld.textAt hdecode⟩
    exact rendering_of_expand_nil hexpand (show RuntimeName.accepts RuntimeName.usual = true by decide)
      houtput hrender
  obtain ⟨result, events, hgenerate, -⟩ := Current.generate hcurrent
  refine ⟨result, _, ⟨rfl, hdescribed, hgenerate, ?_⟩, rfl, rfl⟩
  intro paths hpaths path hpath
  change (solitary name).selection.expand (solitaryWorld name octets).tree [] = .ok paths at hpaths
  rw [hexpand] at hpaths
  cases hpaths
  cases hpath

/-- Two projects scan the same files, and have the same text rendered, but the octets of their modules
differ: one was there with a carriage return. -/
theorem solitary_octets : ∃ text octets first after second elsewhere,
    Generated (solitarySettings "p") (solitaryWorld "p" octets) (solitary "p") first after ∧
    Generated (solitarySettings "q") (solitaryWorld "q" text.toUTF8) (solitary "q") second elsewhere ∧
    (solitary "p").ScansAlike after (solitary "q") elsewhere ∧
    ((solitary "p").render after).1 = .ok text ∧ ((solitary "q").render elsewhere).1 = .ok text ∧
    after.tree.read ["p", "gen.py"] = .ok octets ∧
    elsewhere.tree.read ["q", "gen.py"] = .ok text.toUTF8 ∧ octets ≠ text.toUTF8 := by
  obtain ⟨text, hrender⟩ := Catalogue.render_nil ["p"]
  have hrender' : (Catalogue.render RuntimeName.usual ["q"] []).2 = .ok text := hrender
  obtain ⟨spelled, hreturn, hspelled⟩ := exists_respelling hrender
  have hdecode := Work.decode?_eq_some_iff.mpr ⟨spelled, rfl, hspelled⟩
  obtain ⟨first, after, hfirst, htree, hworking⟩ := solitary_generated (.inl rfl) hrender hdecode
  obtain ⟨second, elsewhere, hsecond, htree', hworking'⟩ :=
    solitary_generated (.inr rfl) hrender' (Catalogue.decode?_of_render hrender')
  have halike : (solitary "p").ScansAlike after (solitary "q") elsewhere := by
    refine ⟨rfl, ["p"], ["q"], ["gen.py"], [], by simp, by simp, nofun, ?_, ?_⟩
    · exact ⟨by rw [htree, hworking]; rfl, by rw [htree, hworking]; exact expand_solitary _ (.inl rfl),
        nofun⟩
    · exact ⟨by rw [htree', hworking']; rfl,
        by rw [htree', hworking']; exact expand_solitary _ (.inr rfl), nofun⟩
  obtain ⟨text', octets, hrendered, hread, hread', hexact, hothers⟩ := generate_octets hfirst
  obtain ⟨hrendered', -⟩ := hothers _ _ _ _ _ hsecond halike
  have hheld : after.tree.read ["p", "gen.py"] = .ok spelled.toUTF8 := by
    rw [htree]
    rfl
  obtain rfl : spelled.toUTF8 = octets := Except.ok.inj (hheld.symm.trans hread)
  obtain rfl : text = text' := Option.some.inj (hdecode.symm.trans hread')
  refine ⟨text, _, first, after, second, elsewhere, hfirst, hsecond, halike, hrendered, hrendered', hheld,
    by rw [htree']; rfl, fun heq => hexact.mp heq ⟨spelled, rfl, hreturn, hspelled⟩⟩

end Project

end Registrar
