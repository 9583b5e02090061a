import Registrar.Proofs.Catalogue.Contributing

/-! # The module of a project that is moved

A generated module does not show where its project stands. References lead from the module to the
files by steps below the root of the project, and a path is shown nowhere else than in the aliases of
exports without a name. The one such alias that the directory of the project gives is that of a
package at the root, and no module can be imported from there by its name, so that it is left out.
-/

namespace Registrar

namespace Catalogue

/-! ## What the text shows -/

/-- An export as the text of a module shows it: without its path, and without an alias under which
nothing is imported. -/
def shown (reference : Reference) (entry : Export) : Export :=
  { entry with
    path := ⟨.slash, []⟩
    «alias» := if entry.name.isNone && reference.names.isEmpty then "" else entry.alias }

/-- A contribution as the text of a module shows it. -/
def Contribution.shown (contribution : Contribution) : Contribution :=
  ⟨⟨⟨.slash, []⟩, contribution.file.exports.map (Catalogue.shown contribution.reference)⟩,
    contribution.reference⟩

variable {reference : Reference} {entry : Export} {contribution : Contribution}
  {contributing : List Contribution}

theorem dependencyType_shown (reference : Reference) (entry : Export) :
    dependencyType (shown reference entry) = dependencyType entry := by
  unfold dependencyType shown
  cases entry.name <;> rfl

theorem moduleExports_shown (contribution : Contribution) :
    contribution.shown.file.moduleExports =
      contribution.file.moduleExports.map (shown contribution.reference) :=
  List.filter_map

theorem namedExports_shown (contribution : Contribution) :
    contribution.shown.file.namedExports =
      contribution.file.namedExports.map (shown contribution.reference) :=
  List.filter_map

/-- An alias that something is imported under is shown. -/
theorem alias_shown (h : entry.name.isSome ∨ reference.names ≠ []) :
    (shown reference entry).alias = entry.alias := by
  have hshown : (entry.name.isNone && reference.names.isEmpty) = false := by
    rcases h with hname | hnames
    · simp [Option.isSome_iff_ne_none.mp hname]
    · simp [hnames]
  rw [shown, hshown]
  rfl

theorem typeImports_shown (contribution : Contribution) :
    typeImports contribution.shown = typeImports contribution := by
  have hnamed : contribution.shown.file.namedExports.map (fun entry =>
      entry.name.getD "" ++ " as " ++ entry.alias) =
      contribution.file.namedExports.map fun entry => entry.name.getD "" ++ " as " ++ entry.alias := by
    rw [namedExports_shown, List.map_map]
    refine List.map_congr_left fun entry hentry => ?_
    rw [Function.comp_apply, alias_shown (.inl (List.mem_filter.mp hentry).2)]
    rfl
  have hmodule (last : String) (hlast : contribution.reference.names.getLast? = some last) :
      contribution.shown.file.moduleExports.map (·.alias) =
        contribution.file.moduleExports.map (·.alias) := by
    rw [moduleExports_shown, List.map_map]
    refine List.map_congr_left fun entry _ => alias_shown (.inr ?_)
    rintro hnames
    rw [hnames] at hlast
    cases hlast
  unfold typeImports
  rw [show contribution.shown.reference = contribution.reference from rfl]
  dsimp only
  congr 1
  · cases hlast : contribution.reference.names.getLast? with
    | none =>
      cases contribution.shown.file.moduleExports <;> cases contribution.file.moduleExports <;> rfl
    | some last =>
      have haliases := hmodule last hlast
      cases hshown : contribution.shown.file.moduleExports <;>
        cases hexports : contribution.file.moduleExports <;> simp_all
  · cases hshown : contribution.shown.file.namedExports <;>
      cases hexports : contribution.file.namedExports <;> simp_all

theorem importedNames_shown (contributing : List Contribution) :
    importedNames (contributing.map Contribution.shown) = importedNames contributing := by
  simp only [importedNames, List.flatMap_map, moduleExports_shown, List.map_map]
  rfl

/-- The table shows keys and the types of dependencies, and nothing else of the exports. -/
theorem entries_congr {exports others : List Export}
    (h : exports.map (fun entry => (entry.key, dependencyType entry)) =
      others.map fun entry => (entry.key, dependencyType entry)) : entries exports = entries others := by
  have hentries (exports : List Export) : entries exports =
      (exports.map fun entry => (entry.key, dependencyType entry)).foldl
        (fun entries entry => entries.filter (·.key != entry.1) ++ [⟨entry.1, entry.2⟩]) [] := by
    rw [List.foldl_map]
    rfl
  rw [hentries, hentries, h]

theorem entries_shown (contributing : List Contribution) :
    entries ((contributing.map Contribution.shown).flatMap (·.file.exports)) =
      entries (contributing.flatMap (·.file.exports)) := by
  refine entries_congr ?_
  simp only [List.flatMap_map, List.map_flatMap]
  refine List.flatMap_congr fun contribution _ => ?_
  rw [Contribution.shown, List.map_map]
  exact List.map_congr_left fun entry _ => by rw [Function.comp_apply, dependencyType_shown]; rfl

theorem text_shown (runtimeModule : String) (contributing : List Contribution) :
    text runtimeModule (contributing.map Contribution.shown) = text runtimeModule contributing := by
  have himports : importsBlock runtimeModule (contributing.map Contribution.shown) =
      importsBlock runtimeModule contributing := by
    unfold importsBlock
    simp only [importedNames_shown, List.flatMap_map, typeImports_shown]
  have hreferences : (contributing.map Contribution.shown).map (·.reference) =
      contributing.map (·.reference) := by
    rw [List.map_map]
    rfl
  unfold text
  rw [entries_shown, himports, hreferences, List.length_map]

end Catalogue

/-! ## References and aliases below another root -/

namespace Path

variable {root root' front directory : List String} {last : String}

theorem normalize_concat (hfront : ∀ name ∈ front, FileNode.IsName name) (last : String) :
    normalize (front ++ [last]) =
      if last == ".." then front.dropLast else if isNamed last then front ++ [last] else front := by
  have hreversed := congrArg List.reverse (FileNode.normalize_of_isName hfront)
  unfold normalize at hreversed ⊢
  rw [List.reverse_reverse] at hreversed
  rw [List.foldl_append, hreversed, List.foldl_cons, List.foldl_nil]
  split
  · simp
  · split <;> simp

theorem dropCommon_dropLast (hroot : root ≠ []) (directory : List String) :
    (dropCommon root.dropLast (root ++ directory)).1 = [] ∧
      (dropCommon root.dropLast (root ++ directory)).2.length = directory.length + 1 := by
  obtain ⟨above, last, rfl⟩ := List.eq_nil_or_concat root |>.resolve_left hroot
  have hdropped := dropCommon_append above [] (last :: directory)
  rw [List.append_nil] at hdropped
  rw [List.concat_eq_append, List.dropLast_concat, List.append_assoc, List.singleton_append, hdropped]
  exact ⟨rfl, rfl⟩

/-- The way from a directory to a file is the same below another root. -/
theorem relativeNames_relocated (hroot : ∀ name ∈ root, FileNode.IsName name)
    (hroot' : ∀ name ∈ root', FileNode.IsName name) (hempty : root = [] ↔ root' = [])
    (hfront : ∀ name ∈ front, FileNode.IsName name)
    (hdirectory : ∀ name ∈ directory, FileNode.IsName name) (last : String) :
    relativeNames (root ++ (front ++ [last])) (root ++ directory) =
      relativeNames (root' ++ (front ++ [last])) (root' ++ directory) := by
  have hstart (root : List String) (hroot : ∀ name ∈ root, FileNode.IsName name) :
      normalize (root ++ directory) = root ++ directory :=
    FileNode.normalize_of_isName (List.forall_mem_append.mpr ⟨hroot, hdirectory⟩)
  have hpath (root : List String) (hroot : ∀ name ∈ root, FileNode.IsName name) :=
    normalize_concat (List.forall_mem_append.mpr ⟨hroot, hfront⟩) last
  have hnames (path start : List String) : relativeNames path start =
      (dropCommon (normalize path) (normalize start)).2.map (fun _ => "..") ++
        (dropCommon (normalize path) (normalize start)).1 := rfl
  rw [hnames, hnames, hstart root hroot, hstart root' hroot', ← List.append_assoc,
    ← List.append_assoc, hpath root hroot, hpath root' hroot']
  by_cases hup : (last == "..") = true
  · rw [if_pos hup, if_pos hup]
    -- A name that goes up leads above the root if nothing is before it.
    rcases front.eq_nil_or_concat with rfl | ⟨above, name, rfl⟩
    · rw [List.append_nil, List.append_nil]
      by_cases hnil : root = []
      · rw [hnil, hempty.mp hnil]
      · obtain ⟨hdown, hup⟩ := dropCommon_dropLast hnil directory
        obtain ⟨hdown', hup'⟩ := dropCommon_dropLast (mt hempty.mpr hnil) directory
        simp only [hdown, hdown', List.map_const', hup, hup']
    · simp only [List.concat_eq_append, ← List.append_assoc, List.dropLast_concat]
      simp only [dropCommon_append]
  · rw [if_neg hup, if_neg hup]
    split
    · simp only [List.append_assoc, dropCommon_append]
    · simp only [dropCommon_append]

end Path

namespace Reference

variable {root root' front directory : List String} {file : String} {reference : Reference}

theorem ofPath_relocated (hroot : ∀ name ∈ root, FileNode.IsName name)
    (hroot' : ∀ name ∈ root', FileNode.IsName name) (hempty : root = [] ↔ root' = [])
    (hfront : ∀ name ∈ front, FileNode.IsName name)
    (hdirectory : ∀ name ∈ directory, FileNode.IsName name) (file : String) :
    ofPath ⟨.slash, root ++ (front ++ [file])⟩ (root ++ directory) =
      ofPath ⟨.slash, root' ++ (front ++ [file])⟩ (root' ++ directory) := by
  have hpath (root : List String) (start : List String) :
      ofPath ⟨.slash, root ++ (front ++ [file])⟩ start =
        ofNames (Path.relativeNames (root ++ (front ++ [(Path.splitSuffix file).1])) start) := by
    have hnames : (Path.mk .slash (root ++ (front ++ [file]))).names = (root ++ front) ++ [file] := by simp
    rw [ofPath_of_names hnames, List.append_assoc]
  rw [hpath, hpath, Path.relativeNames_relocated hroot hroot' hempty hfront hdirectory]

/-- A package at the root of a project is referred to without a name. -/
theorem names_of_package (hroot : ∀ name ∈ root, FileNode.IsName name)
    (hdirectory : ∀ name ∈ directory, FileNode.IsName name)
    (hstem : (Path.splitSuffix file).1 = "__init__")
    (h : ofPath ⟨.slash, root ++ [file]⟩ (root ++ directory) = .ok reference) :
    reference.names = [] := by
  rw [ofPath_of_names (show (Path.mk .slash (root ++ [file])).names = root ++ [file] from rfl), hstem,
    Path.relativeNames_append hroot (by simp [FileNode.IsName, Path.isNamed]) hdirectory] at h
  have hdown : (Path.dropCommon ["__init__"] directory).1 = ["__init__"] ∨
      (Path.dropCommon ["__init__"] directory).1 = [] := by
    cases directory with
    | nil => exact .inl rfl
    | cons name directory =>
      unfold Path.dropCommon
      split
      · exact .inr rfl
      · exact .inl rfl
  have hup : ∀ name ∈ (Path.dropCommon ["__init__"] directory).1, name ≠ ".." := by
    rcases hdown with hdown | hdown <;> simp [hdown]
  obtain ⟨rfl, -⟩ := ofNames_eq_ok hup h
  rcases hdown with hdown | hdown <;> simp [hdown]

end Reference

namespace Export

variable {root root' front : List String} {file : String} {path path' : Path} {reference : Reference}

/-- The directory of a project names none of its modules but a package at its root. -/
theorem moduleName_relocated (h : (Path.splitSuffix file).1 ≠ "__init__" ∨ front ≠ []) :
    moduleName ⟨.slash, root ++ (front ++ [file])⟩ = moduleName ⟨.slash, root' ++ (front ++ [file])⟩ := by
  have hstem (root : List String) :
      Path.stem ⟨.slash, root ++ (front ++ [file])⟩ = (Path.splitSuffix file).1 := by
    simp [Path.stem, Path.name]
  unfold moduleName
  rw [hstem, hstem]
  split
  next hpackage =>
    obtain ⟨above, name, rfl⟩ := front.eq_nil_or_concat.resolve_left
      (h.resolve_left (not_not_intro (eq_of_beq hpackage)))
    simp [Path.parent, Path.name, List.dropLast_append_of_ne_nil]
  next => rfl

theorem isEmpty_ofRegistrations (path : Path) (start : Nat) (registrations : List Registration) :
    (ofRegistrations path start registrations).isEmpty = registrations.isEmpty := by
  cases registrations <;> simp [ofRegistrations]

theorem shown_ofRegistrations (path' : Path) (start : Nat) (registrations : List Registration)
    (h : moduleName path = moduleName path' ∨ reference.names = []) :
    (ofRegistrations path start registrations).map (Catalogue.shown reference) =
      (ofRegistrations path' start registrations).map (Catalogue.shown reference) := by
  have hshown (name : Option String) (i : Nat) (key : String) (kind : ItemKind) :
      Catalogue.shown reference ⟨path, name, aliasOf name path i, key, kind⟩ =
        Catalogue.shown reference ⟨path', name, aliasOf name path' i, key, kind⟩ := by
    cases name with
    | some name => simp [Catalogue.shown, aliasOf]
    | none =>
      rcases h with hmodule | hnames
      · simp [Catalogue.shown, aliasOf, hmodule]
      · simp [Catalogue.shown, hnames]
  refine List.ext_getElem (by simp [ofRegistrations]) fun i hi hi' => ?_
  simp [ofRegistrations, hshown]

end Export

/-- What is registered in a file, which is given by its names below a root. -/
def FileExports.below (root : List String) (scan : List String × List Registration) :
    Path × List Registration :=
  (⟨.slash, root ++ scan.1⟩, scan.2)

namespace Catalogue

variable {root root' directory : List String} {scans : List (List String × List Registration)}
  {contributing : List Contribution} {runtimeModule text : String}

theorem contributions_cons_of_empty {file : FileExports} (h : file.exports.isEmpty = true)
    (directory : List String) (files : List FileExports) :
    contributions directory (file :: files) = contributions directory files := by
  unfold contributions
  rw [List.filter_cons_of_neg (by simp [h])]

theorem contributions_cons_eq_ok_iff {file : FileExports} (h : file.exports.isEmpty = false)
    {files : List FileExports} :
    contributions directory (file :: files) = .ok contributing ↔
      ∃ reference rest, Reference.ofPath file.path directory = .ok reference ∧
        contributions directory files = .ok rest ∧ contributing = ⟨file, reference⟩ :: rest := by
  unfold contributions
  rw [List.filter_cons_of_pos (by simp [h]), List.mapM_cons]
  cases Reference.ofPath file.path directory with
  | error failure =>
    refine iff_of_false ?_ ?_
    · cases failure <;> rintro ⟨⟩
    · rintro ⟨_, _, ⟨⟩, _⟩
  | ok reference =>
    change (contributions directory files >>= fun rest => .ok (⟨file, reference⟩ :: rest)) = _ ↔
      ∃ found rest, Except.ok reference = Except.ok found ∧ contributions directory files = .ok rest ∧
        contributing = ⟨file, found⟩ :: rest
    cases contributions directory files with
    | error error =>
      refine iff_of_false ?_ ?_
      · rintro ⟨⟩
      · rintro ⟨_, _, _, ⟨⟩, _⟩
    | ok rest =>
      constructor
      · rintro ⟨⟩
        exact ⟨reference, rest, rfl, rfl, rfl⟩
      · rintro ⟨_, _, ⟨⟩, ⟨⟩, rfl⟩
        rfl

/-- The contributions of a project that is moved are shown as before. -/
theorem contributions_relocated (hroot : ∀ name ∈ root, FileNode.IsName name)
    (hroot' : ∀ name ∈ root', FileNode.IsName name) (hempty : root = [] ↔ root' = [])
    (hdirectory : ∀ name ∈ directory, FileNode.IsName name)
    (hscans : ∀ scan ∈ scans, scan.1 ≠ [] ∧ ∀ name ∈ scan.1, FileNode.IsName name) {start : Nat}
    (h : contributions (root ++ directory)
      (FileExports.number start (scans.map (FileExports.below root))) = .ok contributing) :
    ∃ others, contributions (root' ++ directory)
        (FileExports.number start (scans.map (FileExports.below root'))) = .ok others ∧
      others.map Contribution.shown = contributing.map Contribution.shown := by
  induction scans generalizing start contributing with
  | nil => exact ⟨contributing, h, rfl⟩
  | cons scan scans ih =>
    obtain ⟨names, registrations⟩ := scan
    obtain ⟨⟨hnonempty, hnames⟩, hrest⟩ := List.forall_mem_cons.mp hscans
    obtain ⟨front, file, hconcat⟩ := names.eq_nil_or_concat.resolve_left hnonempty
    obtain rfl : names = front ++ [file] := hconcat.trans (List.concat_eq_append ..)
    have hfront := (List.forall_mem_append.mp hnames).1
    rw [List.map_cons, FileExports.below, FileExports.number] at h ⊢
    dsimp only at h ⊢
    cases hregistrations : registrations.isEmpty with
    | true =>
      rw [contributions_cons_of_empty ((Export.isEmpty_ofRegistrations ..).trans hregistrations)] at h ⊢
      exact ih hrest h
    | false =>
      obtain ⟨reference, rest, hreference, hothers, rfl⟩ :=
        (contributions_cons_eq_ok_iff ((Export.isEmpty_ofRegistrations ..).trans hregistrations)).mp h
      obtain ⟨others, hrelocated, hshown⟩ := ih hrest hothers
      dsimp only at hreference
      have hreference' := hreference
      rw [Reference.ofPath_relocated hroot hroot' hempty hfront hdirectory] at hreference'
      refine ⟨_, (contributions_cons_eq_ok_iff ((Export.isEmpty_ofRegistrations ..).trans hregistrations)).mpr
        ⟨reference, others, hreference', hrelocated, rfl⟩, ?_⟩
      rw [List.map_cons, List.map_cons, hshown, Contribution.shown, Contribution.shown]
      dsimp only
      rw [Export.shown_ofRegistrations ⟨.slash, root ++ (front ++ [file])⟩]
      by_cases hpackage : (Path.splitSuffix file).1 = "__init__" ∧ front = []
      · obtain ⟨hstem, rfl⟩ := hpackage
        exact .inr (Reference.names_of_package hroot hdirectory hstem hreference)
      · exact .inl (Export.moduleName_relocated (Decidable.not_and_iff_not_or_not.mp hpackage))

/-- A project that is moved has its module rendered as before. -/
theorem render_relocated (hroot : ∀ name ∈ root, FileNode.IsName name)
    (hroot' : ∀ name ∈ root', FileNode.IsName name) (hempty : root = [] ↔ root' = [])
    (hdirectory : ∀ name ∈ directory, FileNode.IsName name)
    (hscans : ∀ scan ∈ scans, scan.1 ≠ [] ∧ ∀ name ∈ scan.1, FileNode.IsName name)
    (h : (render runtimeModule (root ++ directory)
      (FileExports.number 0 (scans.map (FileExports.below root)))).2 = .ok text) :
    (render runtimeModule (root' ++ directory)
      (FileExports.number 0 (scans.map (FileExports.below root')))).2 = .ok text := by
  unfold render at h ⊢
  split at h
  · cases h
  next haccepts =>
    rw [if_neg haccepts]
    split at h
    · cases h
    next contributing hcontributing =>
      obtain ⟨others, hothers, hshown⟩ :=
        contributions_relocated hroot hroot' hempty hdirectory hscans hcontributing
      rw [hothers]
      dsimp only at h ⊢
      rw [← text_shown, hshown, text_shown]
      exact h

end Catalogue

end Registrar
