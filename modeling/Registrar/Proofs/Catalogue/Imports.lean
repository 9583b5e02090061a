import Registrar.Proofs.Catalogue.Meaning

/-! # The statements of a generated module

What a generated text is read as, statement by statement: a name is read in its composed spelling,
and there is no module where a reserved word is imported or imported from.
-/

namespace Registrar.Catalogue

open Source

/-! ## Statements of imports -/

theorem mapM_eq_some_iff {α β : Type} {f : α → Option β} {g : α → β} {p : α → Prop}
    (h : ∀ a b, f a = some b ↔ p a ∧ b = g a) {as : List α} {bs : List β} :
    as.mapM f = some bs ↔ (∀ a ∈ as, p a) ∧ bs = as.map g := by
  induction as generalizing bs with
  | nil => simp [eq_comm]
  | cons a as ih =>
    rw [List.mapM_cons, List.forall_mem_cons, List.map_cons]
    simp only [Option.bind_eq_bind, Option.bind_eq_some_iff, Option.pure_def, Option.some.injEq]
    constructor
    · rintro ⟨b, hb, more, hmore, rfl⟩
      obtain ⟨ha, rfl⟩ := (h a b).mp hb
      obtain ⟨has, rfl⟩ := ih.mp hmore
      exact ⟨⟨ha, has⟩, rfl⟩
    · rintro ⟨⟨ha, has⟩, rfl⟩
      exact ⟨g a, (h a _).mpr ⟨ha, rfl⟩, as.map g, ih.mpr ⟨has, rfl⟩, rfl⟩

theorem name?_wordToken_eq_some_iff (name read : String) :
    (wordToken name).name? = some read ↔ name ∉ keywords ∧ read = readName name := by
  rw [name?_wordToken]
  split
  · next hmem => simp [List.contains_iff_mem.mp hmem]
  · next hmem =>
    rw [Option.some.injEq, eq_comm]
    exact ⟨fun h => ⟨fun hname => hmem (List.contains_iff_mem.mpr hname), h⟩, And.right⟩

/-- The name of a module that some names are read as; none if there are no names. -/
def readModule (path : List String) : Option String :=
  if path.isEmpty then none else some (".".intercalate (path.map readName))

/-- A statement that imports from names is read unless one of them is a reserved word. -/
theorem importOf_eq_some_iff {level : Nat} {path : List String} {imported? : Option (List ImportedName)}
    {statement : Stmt} :
    Parser.importOf level (path.map wordToken) imported? = some statement ↔
      (∀ name ∈ path, name ∉ keywords) ∧ ∃ imported, imported? = some imported ∧
        statement = .importFrom level (readModule path) imported := by
  have hnames (read : List String) : (path.map wordToken).mapM Token.name? = some read ↔
      (∀ name ∈ path, name ∉ keywords) ∧ read = path.map readName := by
    rw [List.mapM_map]
    exact mapM_eq_some_iff fun name read => name?_wordToken_eq_some_iff name read
  unfold Parser.importOf readModule
  simp only [Option.bind_eq_bind, Option.bind_eq_some_iff, hnames, Option.pure_def,
    Option.some.injEq]
  constructor
  · rintro ⟨read, ⟨hpath, rfl⟩, imported, himported, rfl⟩
    exact ⟨hpath, imported, himported, by rw [List.isEmpty_map]⟩
  · rintro ⟨hpath, imported, himported, rfl⟩
    exact ⟨_, ⟨hpath, rfl⟩, imported, himported, by rw [List.isEmpty_map]⟩

namespace TypeImport

/-- The names that an import is spelled with. -/
def names (entry : TypeImport) : List String :=
  entry.path ++ entry.bindings.flatMap fun binding => [binding.1, binding.2]

/-- A name that is imported, with what it is bound to, as it is read. -/
def readBinding (binding : String × String) : ImportedName :=
  ⟨readName binding.1, some (readName binding.2)⟩

/-- The statement that an import is read as. -/
def statement (entry : TypeImport) : Stmt :=
  .importFrom entry.level (readModule entry.path) (entry.bindings.map readBinding)

theorem bindingOf_eq_some_iff (binding : String × String) (imported : ImportedName) :
    Parser.bindingOf (bindingWords binding) = some imported ↔
      (binding.1 ∉ keywords ∧ binding.2 ∉ keywords) ∧ imported = readBinding binding := by
  unfold Parser.bindingOf bindingWords readBinding
  simp only [Option.bind_eq_bind, Option.bind_eq_some_iff, name?_wordToken_eq_some_iff,
    Option.pure_def, Option.some.injEq]
  constructor
  · rintro ⟨name, ⟨hname, rfl⟩, bound, ⟨hbound, rfl⟩, rfl⟩
    exact ⟨⟨hname, hbound⟩, rfl⟩
  · rintro ⟨⟨hname, hbound⟩, rfl⟩
    exact ⟨_, ⟨hname, rfl⟩, _, ⟨hbound, rfl⟩, rfl⟩

/-- An import is read unless a reserved word is among its names. -/
theorem statement?_eq_some_iff (entry : TypeImport) (found : Stmt) :
    entry.statement? = some found ↔
      (∀ name ∈ entry.names, name ∉ keywords) ∧ found = entry.statement := by
  have hbindings (imported : List ImportedName) :
      (entry.bindings.map bindingWords).mapM Parser.bindingOf = some imported ↔
        (∀ binding ∈ entry.bindings, binding.1 ∉ keywords ∧ binding.2 ∉ keywords) ∧
          imported = entry.bindings.map readBinding := by
    rw [List.mapM_map]
    exact mapM_eq_some_iff bindingOf_eq_some_iff
  have hnames : (∀ name ∈ entry.names, name ∉ keywords) ↔ (∀ name ∈ entry.path, name ∉ keywords) ∧
      ∀ binding ∈ entry.bindings, binding.1 ∉ keywords ∧ binding.2 ∉ keywords := by
    simp only [names, List.forall_mem_append, List.forall_mem_flatMap, List.forall_mem_cons,
      List.not_mem_nil, false_imp_iff, implies_true, and_true]
  unfold TypeImport.statement? statement
  rw [importOf_eq_some_iff, hnames]
  simp only [hbindings]
  constructor
  · rintro ⟨hpath, imported, ⟨hbound, rfl⟩, rfl⟩
    exact ⟨⟨hpath, hbound⟩, rfl⟩
  · rintro ⟨⟨hpath, hbound⟩, rfl⟩
    exact ⟨hpath, _, ⟨hbound, rfl⟩, rfl⟩

end TypeImport

/-! ## The module -/

/-- The statements of a generated module. -/
def program (path : List String) (contributing : List Contribution) : Source.Module :=
  let table := entries (contributing.flatMap (·.file.exports))
  let imports := allTypeImports contributing
  [proseStatement (summaryBody table.length contributing.length),
    importStatement "__future__" ["annotations"], importStatement "typing" (typingNames imports),
    .importFrom 0 (readModule path) ((importedNames contributing).map (⟨·, none⟩))]
    ++ (if imports.isEmpty then []
      else [.conditional (.name "TYPE_CHECKING") (imports.map TypeImport.statement) []])
    ++ bodyStatements (dictionaryLine path contributing) contributing

variable {path : List String} {contributing : List Contribution}

theorem typesStatements?_eq_some_iff {imports : List TypeImport} {types : List Stmt} :
    typesStatements? imports = some types ↔
      (∀ entry ∈ imports, ∀ name ∈ entry.names, name ∉ keywords) ∧
        types = if imports.isEmpty then []
          else [.conditional (.name "TYPE_CHECKING") (imports.map TypeImport.statement) []] := by
  unfold typesStatements? typesStatement?
  by_cases h : imports = []
  · subst h
    simp [eq_comm]
  · have hempty : imports.isEmpty = false := by simpa using h
    rw [hempty]
    simp only [Bool.false_eq_true, if_false, Option.map_map, Option.map_eq_some_iff,
      mapM_eq_some_iff TypeImport.statement?_eq_some_iff]
    constructor
    · rintro ⟨statements, ⟨hnames, rfl⟩, rfl⟩
      exact ⟨hnames, rfl⟩
    · rintro ⟨hnames, rfl⟩
      exact ⟨_, ⟨hnames, rfl⟩, rfl⟩

/-- A module is generated unless a reserved word is imported or imported from. -/
theorem program?_eq_some_iff {found : Source.Module} :
    program? path contributing = some found ↔
      ((∀ name ∈ path, name ∉ keywords) ∧
        ∀ entry ∈ allTypeImports contributing, ∀ name ∈ entry.names, name ∉ keywords) ∧
      found = program path contributing := by
  unfold program? program runtimeStatement?
  simp only [Option.bind_eq_bind, Option.bind_eq_some_iff, importOf_eq_some_iff,
    typesStatements?_eq_some_iff, Option.pure_def, Option.some.injEq]
  constructor
  · rintro ⟨runtime, ⟨hpath, imported, rfl, rfl⟩, types, ⟨himports, rfl⟩, rfl⟩
    exact ⟨⟨hpath, himports⟩, rfl⟩
  · rintro ⟨⟨hpath, himports⟩, rfl⟩
    exact ⟨_, ⟨hpath, _, rfl, rfl⟩, _, ⟨himports, rfl⟩, rfl⟩

variable {runtimeModule : String} {directory : List String} {files : List FileExports}

/-- What is rendered once no reserved word is imported or imported from. -/
theorem render_of_named (haccepts : RuntimeName.accepts runtimeModule = true)
    (hcontributing : contributions directory files = .ok contributing)
    (hpath : ∀ word ∈ RuntimeName.words runtimeModule, isIdentifier word = true ∧ word ∉ keywords)
    (himports : ∀ entry ∈ allTypeImports contributing,
      entry.IsNamed ∧ ∀ name ∈ entry.names, name ∉ keywords) :
    (render runtimeModule directory files).2 = .ok (text runtimeModule contributing ++ "\n") ∧
      parseModule? (text runtimeModule contributing ++ "\n").toList =
        some (program (RuntimeName.words runtimeModule) contributing) := by
  have hwords : ∀ word ∈ RuntimeName.words runtimeModule, isIdentifier word = true :=
    fun word hword => (hpath word hword).1
  have hnamed : ∀ entry ∈ allTypeImports contributing, entry.IsNamed :=
    fun entry hentry => (himports entry hentry).1
  have hprogram : program? (RuntimeName.words runtimeModule) contributing =
      some (program (RuntimeName.words runtimeModule) contributing) :=
    program?_eq_some_iff.mpr ⟨⟨fun word hword => (hpath word hword).2,
      fun entry hentry => (himports entry hentry).2⟩, rfl⟩
  have hmeaning : meaning? (RuntimeName.words runtimeModule) contributing =
      some (program (RuntimeName.words runtimeModule) contributing) := by
    unfold meaning?
    rw [if_pos (List.all_eq_true.mpr hwords), hprogram]
  refine ⟨?_, (parseModule?_text_newline hwords hnamed).trans hprogram⟩
  rw [render_of_contributions haccepts hcontributing hnamed, hmeaning]

/-- With the usual runtime module, what is imported alone decides whether there is a module. -/
theorem exists_render_usual (hcontributing : contributions directory files = .ok contributing)
    (himports : ∀ entry ∈ allTypeImports contributing,
      entry.IsNamed ∧ ∀ name ∈ entry.names, name ∉ keywords) :
    ∃ text, (render RuntimeName.usual directory files).2 = .ok text := by
  have hpath : ∀ word ∈ RuntimeName.words RuntimeName.usual,
      isIdentifier word = true ∧ word ∉ keywords := by
    rw [RuntimeName.words_usual]
    decide +kernel
  exact ⟨_, (render_of_named (by decide +kernel) hcontributing hpath himports).1⟩

/-- The module of no registrations renders, whatever directory it is for. -/
theorem render_nil (directory : List String) :
    ∃ text, (render RuntimeName.usual directory []).2 = .ok text :=
  exists_render_usual rfl nofun

end Registrar.Catalogue
