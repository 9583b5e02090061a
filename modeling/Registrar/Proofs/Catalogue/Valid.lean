import Registrar.Proofs.Catalogue.Imports
import Registrar.Proofs.Catalogue.Scanned

/-! # When a module is generated

The files of an analysis are imported by identifiers, and aliases are no reserved words. A text is
therefore rendered for all accepted names of the runtime module, whatever the files register, as long
as no symbol is spelled like a reserved word.
-/

namespace Registrar.Catalogue

open Source

/-! ## Names that are free -/

theorem underscore_notMem_keyword : ∀ word ∈ keywords, '_' ∉ word.toList := by
  decide

/-- No alias is a reserved word. -/
theorem alias_notMem_keywords (name : Option String) (path : Path) (index : Nat) :
    Export.aliasOf name path index ∉ keywords := by
  intro hmem
  have hnone := underscore_notMem_keyword _ hmem
  rw [Export.toList_aliasOf] at hnone
  exact hnone (by simp)

variable {files : List FileExports} {directory : List String} {contributing : List Contribution}

/-- The imports of a file are free of reserved words where its symbols and its reference are. -/
theorem free_of_mem_imports {contribution : Contribution} (hfile : contribution.file.IsScanned)
    (hreference : ∀ name ∈ contribution.reference.names, name ∉ keywords)
    (hsymbols : ∀ entry ∈ contribution.file.exports, ∀ name, entry.name = some name →
      name ∉ keywords) :
    ∀ entry ∈ moduleImport contribution ++ namedImport contribution, ∀ name ∈ entry.names,
      name ∉ keywords := by
  have halias : ∀ entry ∈ contribution.file.exports, entry.alias ∉ keywords := by
    intro entry hentry
    obtain ⟨index, halias⟩ := hfile.aliases entry hentry
    rw [halias]
    exact alias_notMem_keywords _ _ _
  refine List.forall_mem_append.mpr ⟨?_, ?_⟩
  · unfold moduleImport
    split
    · next first more last hexports hlast =>
      have hfirst : first ∈ contribution.file.moduleExports := hexports ▸ List.mem_cons_self
      have hmem := (List.mem_filter.mp hfirst).1
      have hlastFree := hreference last (List.mem_of_getLast? hlast)
      refine List.forall_mem_singleton.mpr (List.forall_mem_append.mpr
        ⟨fun name hname => hreference name (List.mem_of_mem_dropLast hname), ?_⟩)
      simpa [TypeImport.bindings] using ⟨hlastFree, halias first hmem⟩
    · exact List.forall_mem_nil _
  · have hbinding : ∀ entry ∈ contribution.file.namedExports,
        ∀ name ∈ [(exportBinding entry).1, (exportBinding entry).2], name ∉ keywords := by
      intro entry hentry
      obtain ⟨hmem, hname⟩ := List.mem_filter.mp hentry
      obtain ⟨name, hname⟩ := Option.isSome_iff_exists.mp hname
      have hsymbol := hsymbols entry hmem name hname
      simpa [exportBinding, hname] using ⟨hsymbol, halias entry hmem⟩
    unfold namedImport
    split
    · exact List.forall_mem_nil _
    · next first more hexports =>
      rw [hexports] at hbinding
      refine List.forall_mem_singleton.mpr (List.forall_mem_append.mpr ⟨hreference, ?_⟩)
      change ∀ name ∈ ((first :: more).map exportBinding).flatMap _, _
      rw [List.flatMap_map]
      exact List.forall_mem_flatMap.mpr hbinding

/-! ## References of all files -/

theorem mapM_ok_or_error {α β ε : Type} (f : α → Except ε β) (inputs : List α) :
    (∃ outputs, inputs.mapM f = .ok outputs) ∨
      ∃ input ∈ inputs, ∃ error, f input = .error error ∧ inputs.mapM f = .error error := by
  induction inputs with
  | nil => exact .inl ⟨[], rfl⟩
  | cons input inputs ih =>
    rw [List.mapM_cons]
    cases hfirst : f input with
    | error error => exact .inr ⟨input, List.mem_cons_self, error, hfirst, rfl⟩
    | ok output =>
      rcases ih with ⟨outputs, hrest⟩ | ⟨found, hmem, error, hfound, hrest⟩
      · rw [hrest]
        exact .inl ⟨output :: outputs, rfl⟩
      · rw [hrest]
        exact .inr ⟨found, List.mem_cons_of_mem input hmem, error, hfound, rfl⟩

/-- Some file with exports cannot be imported because of parts of its name that are no identifiers. -/
def IsUnimportable (directory : List String) (files : List FileExports) (error : CatalogueError) :
    Prop :=
  ∃ file ∈ files, file.exports ≠ [] ∧ ∃ names, error = .notImportable file.path names ∧ names ≠ [] ∧
    ∀ name ∈ names, name ∈ Reference.partsOf file.path directory ∧ isIdentifier name = false

theorem contributions_ok_or_error (hnames : ∀ file ∈ files, file.path.names ≠ [])
    (directory : List String) :
    (∃ contributing, contributions directory files = .ok contributing) ∨
      ∃ error, contributions directory files = .error error ∧ IsUnimportable directory files error := by
  refine (mapM_ok_or_error _ _).imp_right ?_
  rintro ⟨file, hfile, error, herror, hall⟩
  obtain ⟨hmem, hexports⟩ := List.mem_filter.mp hfile
  rw [Reference.ofPath_eq (hnames file hmem)] at herror
  refine ⟨error, hall, file, hmem, by simpa using hexports, ?_⟩
  by_cases hparts : (Reference.partsOf file.path directory).all isIdentifier = true
  · rw [if_pos hparts] at herror
    cases herror
  · rw [if_neg hparts] at herror
    cases herror
    refine ⟨_, rfl, fun hnil => hparts (List.all_eq_true.mpr fun name hname => ?_),
      fun name hname => ?_⟩
    · simpa using List.filter_eq_nil_iff.mp hnil name hname
    · simpa using List.mem_filter.mp hname

/-! ## Rendering what an analysis found -/

end Registrar.Catalogue

namespace Registrar

open Source

/-- A word of the name of a runtime module: an identifier that is not reserved and starts with an
ASCII character, which is then a letter or an underscore. -/
structure RuntimeName.IsFree (word : String) : Prop where
  identifier : isIdentifier word = true
  free : word ∉ keywords
  starts : word.toList.head?.all isAscii = true

/-- A free word of word characters, as some characters of identifiers are not. -/
structure RuntimeName.IsPlain (word : String) : Prop extends IsFree word where
  letters : word.toList.all isWordChar = true

theorem RuntimeName.accepts_of_isPlain {name : String} (h : ∀ word ∈ words name, IsPlain word) :
    accepts name = true := by
  have hdotted : isDotted true name.toList = true := by
    rw [(isDotted_eq name.toList).1, List.all_eq_true]
    intro part hpart
    have hplain := h _ (List.mem_map_of_mem (f := String.ofList) hpart)
    have hidentifier := hplain.identifier
    have hstarts := hplain.starts
    have hletters := hplain.letters
    rw [isIdentifier_ofList] at hidentifier
    rw [String.toList_ofList] at hstarts hletters
    cases part with
    | nil => cases hidentifier
    | cons c more =>
      have hascii : isAscii c = true := hstarts
      have hstart := (Bool.and_eq_true_iff.mp hidentifier).1
      unfold isIdentifierStart at hstart
      rw [if_pos hascii] at hstart
      have hmore : more.all isWordChar = true :=
        (Bool.and_eq_true_iff.mp hletters).2
      exact Bool.and_eq_true_iff.mpr ⟨Bool.and_eq_true_iff.mpr ⟨hascii, hstart⟩, hmore⟩
  exact Bool.or_eq_true_iff.mpr (.inl hdotted)

variable {selection : Selection} {world after : World} {files : List FileExports}

theorem Analysis.names_ne_nil_of_run (hroot : ∃ entries, world.tree = .directory entries)
    (h : run selection world = (.ok files, after)) : ∀ file ∈ files, file.path.names ≠ [] := by
  obtain ⟨-, ⟨paths, hpaths, rfl⟩, -, -⟩ := aliases_distinct [] h
  obtain ⟨entries, hroot⟩ := hroot
  intro file hfile hnil
  obtain ⟨scan, hscan, first, rfl⟩ := FileExports.exists_of_mem_number hfile
  obtain ⟨path, hpath, rfl⟩ := List.mem_map.mp hscan
  obtain ⟨excluded, included, -, -, hmem⟩ := Selection.mem_expand hpaths
  obtain ⟨-, -, -, hisFile⟩ := (hmem path).mp hpath
  dsimp only at hnil
  rw [hnil, hroot] at hisFile
  cases hisFile

namespace Catalogue

variable {directory : List String} {contributing : List Contribution}

/-- What is rendered once no reserved word is imported. -/
theorem render_of_free {runtimeModule : String}
    (hrun : Analysis.run selection world = (.ok files, after))
    (hcontributing : contributions directory files = .ok contributing)
    (hruntime : ∀ word ∈ RuntimeName.words runtimeModule, RuntimeName.IsPlain word)
    (hfree : ∀ entry ∈ allTypeImports contributing, ∀ name ∈ entry.names, name ∉ keywords) :
    (render runtimeModule directory files).2 = .ok (text runtimeModule contributing ++ "\n") ∧
      parseModule? (text runtimeModule contributing ++ "\n").toList =
        some (program (RuntimeName.words runtimeModule) contributing) := by
  have hnamed := isNamed_of_run hrun hcontributing
  exact render_of_named (RuntimeName.accepts_of_isPlain hruntime) hcontributing
    (fun word hword => ⟨(hruntime word hword).identifier, (hruntime word hword).free⟩)
    fun entry hentry => ⟨hnamed entry hentry, hfree entry hentry⟩

/-- What is rendered of an analysis is a module, if the runtime module, the files and their symbols have
names that can be spelled; a file that cannot be imported is an error. -/
theorem render_valid (hroot : ∃ entries, world.tree = .directory entries)
    (hrun : Analysis.run selection world = (.ok files, after)) (runtimeModule : String)
    (directory : List String) :
    ((∀ word ∈ RuntimeName.words runtimeModule, RuntimeName.IsPlain word) →
      (∀ file ∈ files, file.exports ≠ [] → ∀ part ∈ Reference.partsOf file.path directory,
        isIdentifier part = true ∧ part ∉ keywords) →
      (∀ entry ∈ files.flatMap (·.exports), ∀ name, entry.name = some name → name ∉ keywords) →
      ∃ source found, (render runtimeModule directory files).2 = .ok source ∧
        parseModule? source.toList = some found) ∧
    ((∃ file ∈ files, file.exports ≠ [] ∧ ∃ part ∈ Reference.partsOf file.path directory,
        isIdentifier part = false) →
      ∃ error, (render runtimeModule directory files).2 = .error error ∧
        (error = .runtimeName runtimeModule ∨ IsUnimportable directory files error)) := by
  have hnames := Analysis.names_ne_nil_of_run hroot hrun
  have hscanned := Analysis.isScanned_of_run hrun
  refine ⟨fun hruntime hparts hsymbols => ?_, fun hinvalid => ?_⟩
  · obtain ⟨contributing, hcontributing⟩ | ⟨error, -, file, hfile, hexports, names, -, hne, hinvalid⟩ :=
      contributions_ok_or_error hnames directory
    · have hfree : ∀ entry ∈ allTypeImports contributing, ∀ name ∈ entry.names, name ∉ keywords := by
        intro entry hentry
        obtain ⟨contribution, hmem, hentry⟩ := List.mem_flatMap.mp hentry
        obtain ⟨hfile, hexports, hreference⟩ := contributes_of_mem hcontributing hmem
        refine free_of_mem_imports (hscanned _ hfile) (fun name hname => ?_) (fun entry hentry =>
          hsymbols entry (List.mem_flatMap.mpr ⟨_, hfile, hentry⟩)) entry hentry
        rw [(Reference.ofPath_names hreference).2.1] at hname
        exact (hparts _ hfile hexports name hname).2
      exact ⟨_, _, render_of_free hrun hcontributing hruntime hfree⟩
    · obtain ⟨name, hname⟩ := List.exists_mem_of_ne_nil names hne
      obtain ⟨hpart, hidentifier⟩ := hinvalid name hname
      rw [(hparts file hfile hexports name hpart).1] at hidentifier
      cases hidentifier
  · unfold render
    split
    · exact ⟨_, rfl, .inl rfl⟩
    · obtain ⟨contributing, hcontributing⟩ | ⟨error, herror, hunimportable⟩ :=
        contributions_ok_or_error hnames directory
      · obtain ⟨file, hfile, hexports, part, hpart, hidentifier⟩ := hinvalid
        obtain ⟨contribution, -, -, hreference⟩ := exists_contribution hcontributing hfile hexports
        obtain ⟨-, hnames, -, hidentifiers⟩ := Reference.ofPath_names hreference
        rw [hidentifiers part (hnames ▸ hpart)] at hidentifier
        cases hidentifier
      · rw [herror]
        exact ⟨error, rfl, .inr hunimportable⟩

/-! ## Names that cannot be spelled -/

/-- A file whose symbol is composed to a reserved word, and one that is no module. -/
def misnamed : World :=
  ⟨.directory [("a.py", .file "ªs = register_hook(\"k\")\n".toUTF8),
    ("a-b.py", .file "register_config('c')\n".toUTF8)], [], []⟩

/-- The selection of one of the files. -/
def misnamedSelection (pattern : String) : Selection :=
  ⟨[pattern], [], ⟨.slash, []⟩, some ⟨.slash, ["gen.py"]⟩⟩

/-- The file with the symbol as it is found. -/
def reservedFiles : List FileExports :=
  FileExports.number 0 [(⟨.slash, ["a.py"]⟩, [⟨some "as", "k", .hook⟩])]

/-- The file that is no module as it is found. -/
def dashedFiles : List FileExports :=
  FileExports.number 0 [(⟨.slash, ["a-b.py"]⟩, [⟨none, "c", .config⟩])]

/-- A symbol is read in its composed spelling. -/
theorem parseModule?_misnamed : parseModule? "ªs = register_hook(\"k\")\n".toList =
    some [.assign [.name "as"] (.call 1 (.name "register_hook") [literalExpr "k"] [])] := by
  have hname : readName "ªs" = "as" := by
    refine String.toList_injective ?_
    rw [toList_readName]
    exact Compatibility.composeText_ordinal (List.all_eq_true.mp (by decide))
  have hword : Lexer.nameToken "ªs".toList = some (.name "as") := by
    rw [nameToken_of_isIdentifier (by decide +kernel), wordToken, if_neg (by decide), hname]
  have htokens : tokensOf [.word "ªs", .gap, .sign "=", .gap, .word "register_hook", .sign "(",
      .literal "k", .sign ")"] = some [.name "as", .symbol "=", .name "register_hook", .symbol "(",
        literalToken "k", .symbol ")"] := by
    rw [tokensOf, Piece.tokens?, hword]
    rfl
  have hread : Lexer.readLines (.plain 1) [⟨0, [.word "ªs", .gap, .sign "=", .gap, .word "register_hook",
      .sign "(", .literal "k", .sign ")"]⟩] = some ([⟨.name "as", 1⟩, ⟨.symbol "=", 1⟩,
        ⟨.name "register_hook", 1⟩, ⟨.symbol "(", 1⟩, ⟨literalToken "k", 1⟩, ⟨.symbol ")", 1⟩,
        ⟨.newline, 1⟩], .plain 2) := by
    rw [Lexer.readLines, Lexer.readLine, htokens]
    rfl
  have hspells (depth : Nat) : Spells (Parser.unrolled (depth + 10)) .finish .initial _
      [some [.assign [.name "as"] (.call 1 (.name "register_hook") [literalExpr "k"] [])]] (.plain 2) :=
    spells_one hread (by simp [Parser.endsStatement]) fun next rest _ =>
      Parser.statement_assign [⟨.symbol "(", 1⟩, ⟨literalToken "k", 1⟩, ⟨.symbol ")", 1⟩] _ _ _
        (by decide) rfl rfl
  exact parseModule?_of_spells (by decide +kernel) (by decide +kernel) (hspells _)

/-- What is found of one file by a pattern of its own. -/
theorem run_misnamed {pattern name : String} (source : String) {registrations : List Registration}
    (hpattern : (misnamedSelection pattern).expandPattern misnamed.tree misnamed.working pattern =
      .ok [⟨.slash, [name]⟩])
    (hname : name ≠ "gen.py") (hfile : misnamed.tree.isFileAt [name] = true)
    (htext : Analysis.textAt? misnamed.tree ⟨.slash, [name]⟩ = some source)
    (hscan : (Registration.scanSource? .usual source).map (·.registrations) = some registrations) :
    ∃ after, Analysis.run (misnamedSelection pattern) misnamed =
      (.ok (FileExports.number 0 [(⟨.slash, [name]⟩, registrations)]), after) := by
  have hexpand : (misnamedSelection pattern).expand misnamed.tree misnamed.working =
      .ok [⟨.slash, [name]⟩] := by
    unfold Selection.expand Selection.expandPatterns
    rw [show (misnamedSelection pattern).includes = [pattern] from rfl, List.mapM_cons, hpattern]
    change Except.ok (List.filter _ [(⟨.slash, [name]⟩ : Path)]) = _
    simp [misnamedSelection, hname, hfile]
  have hexports : Analysis.exports (misnamedSelection pattern) misnamed.tree misnamed.working =
      .ok (FileExports.number 0 [(⟨.slash, [name]⟩, registrations)]) := by
    unfold Analysis.exports
    rw [hexpand, ← Analysis.scanFile_of_textAt? source htext hscan]
    rfl
  obtain ⟨events, hrun⟩ := (Analysis.reads_run _).apply misnamed hexports
  exact ⟨_, hrun⟩

theorem run_reserved : ∃ after,
    Analysis.run (misnamedSelection "/a.py") misnamed = (.ok reservedFiles, after) := by
  have hpattern : (misnamedSelection "/a.py").expandPattern misnamed.tree misnamed.working "/a.py" =
      .ok [⟨.slash, ["a.py"]⟩] :=
    Analysis.expandPattern_eq_singleton (by decide +kernel) (by decide +kernel) (by decide +kernel) rfl
  refine run_misnamed "ªs = register_hook(\"k\")\n" hpattern (by decide) (by decide +kernel)
    (Work.decode?_toUTF8 (by decide)) ?_
  unfold Registration.scanSource?
  rw [parseModule?_misnamed]
  decide +kernel

theorem run_dashed : ∃ after,
    Analysis.run (misnamedSelection "/a-b.py") misnamed = (.ok dashedFiles, after) := by
  have hpattern : (misnamedSelection "/a-b.py").expandPattern misnamed.tree misnamed.working
      "/a-b.py" = .ok [⟨.slash, ["a-b.py"]⟩] :=
    Analysis.expandPattern_eq_singleton (by decide +kernel) (by decide +kernel) (by decide +kernel) rfl
  exact run_misnamed "register_config('c')\n" hpattern (by decide) (by decide +kernel)
    (Work.decode?_toUTF8 (by decide)) (by decide +kernel)

/-- The files of the pair are generated, and the dashed one is an error. -/
theorem pair_valid :
    (∃ after, Analysis.run Analysis.pairSelection Analysis.pair =
      (.ok (FileExports.number 0 Analysis.pairScans), after)) ∧
    (∃ after, Analysis.run (misnamedSelection "/a-b.py") misnamed = (.ok dashedFiles, after)) ∧
    (∃ source found, (render RuntimeName.usual [] (FileExports.number 0 Analysis.pairScans)).2 =
      .ok source ∧ parseModule? source.toList = some found) ∧
    ∃ error, (render RuntimeName.usual [] dashedFiles).2 = .error error ∧
      (error = .runtimeName RuntimeName.usual ∨ IsUnimportable [] dashedFiles error) := by
  obtain ⟨after, hpair⟩ := Analysis.run_pair
  obtain ⟨last, hdashed⟩ := run_dashed
  obtain ⟨hvalid, -⟩ := render_valid ⟨_, rfl⟩ hpair RuntimeName.usual []
  obtain ⟨-, hinvalid⟩ := render_valid ⟨_, rfl⟩ hdashed RuntimeName.usual []
  refine ⟨⟨after, hpair⟩, ⟨last, hdashed⟩, hvalid ?_ ?_ ?_, hinvalid ?_⟩
  · intro word hword
    obtain rfl : word = "uiwire" := by
      have hwords : RuntimeName.words RuntimeName.usual = ["uiwire"] := by decide +kernel
      rwa [hwords, List.mem_singleton] at hword
    exact ⟨⟨by decide +kernel, by decide, by decide⟩, by decide +kernel⟩
  · decide +kernel
  · decide +kernel
  · exact ⟨_, List.mem_singleton_self _, by decide +kernel, "a-b", by decide +kernel, by decide +kernel⟩

/-- A runtime module is rejected whose name is an identifier, and a symbol that is composed to a
reserved word is rendered to a text that is no module. -/
theorem misnamed_invalid :
    ((∃ after, Analysis.run Analysis.pairSelection Analysis.pair =
        (.ok (FileExports.number 0 Analysis.pairScans), after)) ∧
      RuntimeName.words "a·b" = ["a·b"] ∧ RuntimeName.IsFree "a·b" ∧
      (∀ file ∈ FileExports.number 0 Analysis.pairScans, ∀ part ∈ Reference.partsOf file.path [],
        isIdentifier part = true ∧ part ∉ keywords) ∧
      (render "a·b" [] (FileExports.number 0 Analysis.pairScans)).2 = .error (.runtimeName "a·b")) ∧
    (∃ after, Analysis.run (misnamedSelection "/a.py") misnamed = (.ok reservedFiles, after)) ∧
      RuntimeName.words RuntimeName.usual = ["uiwire"] ∧ RuntimeName.IsFree "uiwire" ∧
      (∀ file ∈ reservedFiles, ∀ part ∈ Reference.partsOf file.path [],
        isIdentifier part = true ∧ part ∉ keywords) ∧
      (render RuntimeName.usual [] reservedFiles).2 = .error .malformed := by
  refine ⟨⟨Analysis.run_pair, by decide +kernel, ⟨by decide +kernel, by decide, by decide⟩,
    by decide +kernel, rfl⟩, run_reserved, by decide +kernel,
    ⟨by decide +kernel, by decide, by decide⟩, by decide +kernel, ?_⟩
  obtain ⟨after, hrun⟩ := run_reserved
  have hcontributing : contributions [] reservedFiles =
      .ok [⟨reservedFiles.head (by decide +kernel), ⟨1, ["a"]⟩⟩] := by decide +kernel
  rw [render_of_contributions (by decide +kernel) hcontributing (isNamed_of_run hrun hcontributing)]
  have hnone : program? (RuntimeName.words RuntimeName.usual)
      [⟨reservedFiles.head (by decide +kernel), ⟨1, ["a"]⟩⟩] = none := by
    rw [Option.eq_none_iff_forall_ne_some]
    intro found hfound
    obtain ⟨⟨-, hfree⟩, -⟩ := program?_eq_some_iff.mp hfound
    exact absurd hfree (by decide +kernel)
  have hmeaning : meaning? (RuntimeName.words RuntimeName.usual)
      [⟨reservedFiles.head (by decide +kernel), ⟨1, ["a"]⟩⟩] = none := by
    unfold meaning?
    rw [hnone]
    exact ite_self _
  rw [hmeaning]

end Catalogue

end Registrar
