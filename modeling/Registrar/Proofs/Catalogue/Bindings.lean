import Registrar.Proofs.Catalogue.Latest
import Registrar.Proofs.Catalogue.Valid

/-! # What a generated module binds

The names that statements bind, and where a generated module binds those that its types are written
with. The aliases it binds for the type checker keep their numbers in the spelling they are read in;
nothing else that it binds ends in a digit, so each of them is bound once.
-/

namespace Registrar

namespace Source

/-! ## Names that statements bind

A target inside an expression is left to the expression: these are the names that a statement binds by
its own form, in the scope it stands in.
-/

mutual

/-- The names that a target binds. -/
def Expr.targetNames : Expr → List String
  | .name id => [id]
  | .list elements | .tuple elements => targetNamesOf elements
  | .starred value => value.targetNames
  | _ => []

/-- The names that some targets bind. -/
def Expr.targetNamesOf : List Expr → List String
  | [] => []
  | target :: targets => target.targetNames ++ targetNamesOf targets

end

mutual

/-- The names that a pattern captures. -/
def Pattern.captures : Pattern → List String
  | .value _ | .singleton _ => []
  | .sequence patterns | .either patterns => capturesOf patterns
  | .mapping entries rest => capturesOfEntries entries ++ rest.toList
  | .object _ patterns keywords => capturesOf patterns ++ capturesOfKeywords keywords
  | .star name => name.toList
  | .bind none name => name.toList
  | .bind (some pattern) name => pattern.captures ++ name.toList

/-- The names that some patterns capture. -/
def Pattern.capturesOf : List Pattern → List String
  | [] => []
  | pattern :: patterns => pattern.captures ++ capturesOf patterns

/-- The names that the values of a mapping capture. -/
def Pattern.capturesOfEntries : List (Expr × Pattern) → List String
  | [] => []
  | (_, pattern) :: entries => pattern.captures ++ capturesOfEntries entries

/-- The names that the attributes of an object capture. -/
def Pattern.capturesOfKeywords : List (String × Pattern) → List String
  | [] => []
  | (_, pattern) :: keywords => pattern.captures ++ capturesOfKeywords keywords

end

/-- The name that an import from a module binds. -/
def ImportedName.bound (imported : ImportedName) : String := imported.binding.getD imported.name

/-- The name that the import of a module binds: the first of its own unless it is given another. -/
def ImportedName.boundModule (imported : ImportedName) : String :=
  imported.binding.getD (String.ofList (imported.name.toList.takeWhile (· != '.')))

mutual

/-- The names that a statement binds. -/
def Stmt.bound : Stmt → List String
  | .functionDef _ name _ _ _ _ | .classDef name _ _ _ _ => [name]
  | .assign targets _ => Expr.targetNamesOf targets
  | .augAssign target _ _ | .annAssign target _ (some _) => target.targetNames
  | .forLoop _ target _ body orelse => target.targetNames ++ boundOf body ++ boundOf orelse
  | .whileLoop _ body orelse | .conditional _ body orelse => boundOf body ++ boundOf orelse
  | .withItems _ items body =>
    items.flatMap (fun item => Expr.targetNamesOf item.2.toList) ++ boundOf body
  | .matchCases _ cases => boundOfCases cases
  | .tryExcept _ body handlers orelse finalbody =>
    boundOf body ++ boundOfHandlers handlers ++ boundOf orelse ++ boundOf finalbody
  | .importModules names => names.map ImportedName.boundModule
  | .importFrom _ _ names => names.map ImportedName.bound
  | _ => []

/-- The names that some statements bind. -/
def Stmt.boundOf : List Stmt → List String
  | [] => []
  | statement :: statements => statement.bound ++ boundOf statements

/-- The names that some cases bind. -/
def Stmt.boundOfCases : List Case → List String
  | [] => []
  | .mk pattern _ body :: cases => pattern.captures ++ boundOf body ++ boundOfCases cases

/-- The names that some handlers bind. -/
def Stmt.boundOfHandlers : List Handler → List String
  | [] => []
  | .mk _ name body :: handlers => name.toList ++ boundOf body ++ boundOfHandlers handlers

end


theorem Stmt.boundOf_eq_flatMap (statements : List Stmt) :
    boundOf statements = statements.flatMap bound := by
  induction statements with
  | nil => rfl
  | cons statement statements ih => rw [boundOf, ih, List.flatMap_cons]

end Source

namespace Export

/-- Whether a name ends in a digit. -/
def endsInDigit (name : String) : Bool := name.toList.getLast?.any Char.isDigit

variable (name : Option String) (path : Path) (index : Nat)

/-- An alias keeps its number where it is read. -/
theorem toList_readName_aliasOf : (Source.readName (aliasOf name path index)).toList =
    Compatibility.composeText (identifierOf (name.getD (moduleName path))).toList ++
      '_' :: index.repr.toList := by
  rw [Source.toList_readName, toList_aliasOf]
  refine Compatibility.composeText_append (fun c hc => ?_) _
  rcases List.mem_cons.mp hc with rfl | hc
  · decide
  · exact isAscii_of_isDigit (isDigit_of_mem_repr hc)

theorem number?_readName : number? (Source.readName (aliasOf name path index)) = some index :=
  number?_of_toList (toList_readName_aliasOf name path index)

theorem endsInDigit_readName : endsInDigit (Source.readName (aliasOf name path index)) = true := by
  have hne : index.repr.toList ≠ [] := by
    rw [Nat.toList_repr]
    exact Nat.toDigits_ne_nil
  obtain ⟨front, last, hlast⟩ := List.eq_nil_or_concat' _ |>.resolve_left hne
  have hdigit : last.isDigit = true := isDigit_of_mem_repr (n := index) (by rw [hlast]; simp)
  rw [endsInDigit, toList_readName_aliasOf, hlast, ← List.cons_append, ← List.append_assoc,
    List.getLast?_concat]
  exact hdigit

end Export

namespace Catalogue

open Source

variable {contribution : Contribution} {contributing : List Contribution}

/-! ## Names that the module binds -/

/-- The statements below the condition of the type checker. -/
def checkedStatements : Source.Module → List Stmt
  | .conditional (.name id) block _ :: statements =>
    if id = "TYPE_CHECKING" then block ++ checkedStatements statements
    else checkedStatements statements
  | _ :: statements => checkedStatements statements
  | [] => []

/-- The names that a generated module binds behind its imports. -/
def bodyNames : List String :=
  ["ContainerDependencies", "container", "register_component", "register_hook",
    "register_function", "register_config", "CONTRIBUTING_MODULES", "init_container",
    "ContainerInitializer", "__all__"]

/-- The exports of a file that are imported for the type checker. -/
def checkedExports (contribution : Contribution) : List Export :=
  (if contribution.reference.names = [] then [] else contribution.file.moduleExports.take 1) ++
    contribution.file.namedExports

/-- The names that are bound for the type checker. -/
def checkedNames (contributing : List Contribution) : List String :=
  (contributing.flatMap checkedExports).map fun entry => readName entry.alias

theorem bound_statement (entry : TypeImport) :
    entry.statement.bound = entry.bindings.map fun binding => readName binding.2 := by
  rw [TypeImport.statement, Stmt.bound, List.map_map]
  rfl

theorem flatMap_bound_imports (contribution : Contribution) :
    (moduleImport contribution ++ namedImport contribution).flatMap (·.statement.bound) =
      (checkedExports contribution).map fun entry => readName entry.alias := by
  have hmodule : (moduleImport contribution).flatMap (·.statement.bound) =
      ((if contribution.reference.names = [] then [] else contribution.file.moduleExports.take 1).map
        fun entry => readName entry.alias) := by
    unfold moduleImport
    cases hexports : contribution.file.moduleExports with
    | nil => simp
    | cons first more =>
      cases hlast : contribution.reference.names.getLast? with
      | none => simp [List.getLast?_eq_none_iff.mp hlast]
      | some last =>
        have hne : contribution.reference.names ≠ [] := List.ne_nil_of_mem (List.mem_of_getLast? hlast)
        simp [hne, bound_statement, TypeImport.bindings]
  have hnamed : (namedImport contribution).flatMap (·.statement.bound) =
      contribution.file.namedExports.map fun entry => readName entry.alias := by
    unfold namedImport
    cases contribution.file.namedExports with
    | nil => rfl
    | cons first more =>
      simp [bound_statement, TypeImport.bindings, exportBinding]
  rw [List.flatMap_append, hmodule, hnamed, checkedExports, List.map_append]

theorem boundOf_imports (contributing : List Contribution) :
    Stmt.boundOf ((allTypeImports contributing).map TypeImport.statement) = checkedNames contributing := by
  rw [Stmt.boundOf_eq_flatMap, List.flatMap_map, allTypeImports, List.flatMap_assoc, checkedNames,
    List.map_flatMap]
  exact congrArg (contributing.flatMap ·) (funext flatMap_bound_imports)

theorem bound_bodyStatements (line : Nat) (contributing : List Contribution) :
    (bodyStatements line contributing).flatMap Stmt.bound = bodyNames := rfl

/-- The names that a generated module binds. -/
theorem boundOf_program (path : List String) (contributing : List Contribution) :
    Stmt.boundOf (program path contributing) =
      "annotations" :: typingNames (allTypeImports contributing) ++ importedNames contributing ++
        checkedNames contributing ++ bodyNames := by
  have hnames (names : List String) :
      (names.map fun name => (⟨name, none⟩ : ImportedName)).map ImportedName.bound = names := by
    rw [List.map_map]
    exact List.map_id names
  have hfront (level : Nat) (module : Option String) (names : List String) :
      (Stmt.importFrom level module (names.map (⟨·, none⟩))).bound = names := hnames names
  have hchecked : Stmt.boundOf (if (allTypeImports contributing).isEmpty then []
      else [.conditional (.name "TYPE_CHECKING")
        ((allTypeImports contributing).map TypeImport.statement) []]) = checkedNames contributing := by
    rw [← boundOf_imports]
    split
    · next hempty => rw [List.isEmpty_iff.mp hempty]; rfl
    · simp [Stmt.boundOf, Stmt.bound]
  rw [Stmt.boundOf_eq_flatMap] at hchecked ⊢
  rw [program]
  simp only [List.flatMap_append, bound_bodyStatements, hchecked, List.flatMap_cons,
    List.flatMap_nil, hfront, importStatement]
  simp [proseStatement, Stmt.bound]

theorem checkedStatements_append (front more : List Stmt) :
    checkedStatements (front ++ more) = checkedStatements front ++ checkedStatements more := by
  fun_induction checkedStatements front with
  | case1 block orelse statements ih => simp [checkedStatements, ih]
  | case2 id block orelse statements hid ih => simp [checkedStatements, ih, hid]
  | case3 statement statements hstatement ih =>
    rw [List.cons_append, checkedStatements, ih]
    exact hstatement
  | case4 => rfl

/-- What the type checker sees of a generated module is the imports of its exports. -/
theorem checkedStatements_program (path : List String) (contributing : List Contribution) :
    checkedStatements (program path contributing) =
      (allTypeImports contributing).map TypeImport.statement := by
  rw [program, checkedStatements_append, checkedStatements_append]
  split
  · next hempty => rw [List.isEmpty_iff.mp hempty]; rfl
  · change (allTypeImports contributing).map TypeImport.statement ++ [] ++ [] = _
    rw [List.append_nil, List.append_nil]

/-! ## Names that are bound once -/

theorem checkedExports_subperm (contribution : Contribution) :
    (checkedExports contribution).Subperm contribution.file.exports := by
  have hmodule : (if contribution.reference.names = [] then []
      else contribution.file.moduleExports.take 1).Sublist contribution.file.moduleExports := by
    split
    · exact List.nil_sublist _
    · exact List.take_sublist 1 _
  have hperm : (contribution.file.moduleExports ++ contribution.file.namedExports).Perm
      contribution.file.exports := by
    have hsplit := List.filter_append_perm (fun entry : Export => entry.name.isNone)
      contribution.file.exports
    simpa [FileExports.moduleExports, FileExports.namedExports] using hsplit
  exact (hmodule.append_right _).subperm.trans hperm.subperm

theorem flatMap_checkedExports_subperm (contributing : List Contribution) :
    (contributing.flatMap checkedExports).Subperm (contributing.flatMap (·.file.exports)) := by
  induction contributing with
  | nil => exact List.Subperm.refl _
  | cons contribution contributing ih =>
    rw [List.flatMap_cons, List.flatMap_cons]
    exact (checkedExports_subperm contribution).append ih

variable {selection : Selection} {world after : World} {files : List FileExports}

/-- The names that aliases are read as bear the numbers of the exports. -/
theorem map_number?_readName (hrun : Analysis.run selection world = (.ok files, after)) :
    (files.flatMap (·.exports)).map (fun entry => Export.number? (readName entry.alias)) =
      (List.range (files.flatMap (·.exports)).length).map some := by
  obtain ⟨-, ⟨paths, -, hfiles⟩, -, -⟩ := Analysis.aliases_distinct [] hrun
  have hnumbers := FileExports.map_number?_number 0
    (paths.map fun path => (path, (Analysis.scanFile .usual world.tree path).2))
  rw [← hfiles, ← List.range_eq_range'] at hnumbers
  rw [← hnumbers]
  refine List.map_congr_left fun entry hentry => ?_
  obtain ⟨file, hfile, hentry⟩ := List.mem_flatMap.mp hentry
  obtain ⟨index, halias⟩ := (Analysis.isScanned_of_run hrun file hfile).aliases entry hentry
  rw [halias, Export.number?_readName, Export.number?_aliasOf]

/-- No two names are bound alike for the type checker. -/
theorem nodup_checkedNames {directory : List String}
    (hrun : Analysis.run selection world = (.ok files, after))
    (hcontributing : contributions directory files = .ok contributing) :
    (checkedNames contributing).Nodup := by
  obtain ⟨numbered, hperm, hsublist⟩ := flatMap_checkedExports_subperm contributing
  have hnames := hperm.map fun entry => Export.number? (readName entry.alias)
  have hnumbers := hsublist.map fun entry => Export.number? (readName entry.alias)
  rw [flatMap_contributions hcontributing, map_number?_readName hrun] at hnumbers
  have hmap : (contributing.flatMap checkedExports).map (fun entry =>
      Export.number? (readName entry.alias)) = (checkedNames contributing).map Export.number? := by
    rw [checkedNames, List.map_map]
    rfl
  rw [hmap] at hnames
  have hnodup : ((List.range (files.flatMap (·.exports)).length).map some).Nodup :=
    List.nodup_range.map fun _ _ => Option.some.inj
  exact (hnames.nodup_iff.mp (hnodup.sublist hnumbers)).of_map _

/-- What is bound for the type checker ends in a digit. -/
theorem endsInDigit_of_mem_checkedNames {directory : List String}
    (hrun : Analysis.run selection world = (.ok files, after))
    (hcontributing : contributions directory files = .ok contributing) {name : String}
    (hname : name ∈ checkedNames contributing) : Export.endsInDigit name = true := by
  obtain ⟨entry, hentry, rfl⟩ := List.mem_map.mp hname
  have hentry := (flatMap_checkedExports_subperm contributing).subset hentry
  rw [flatMap_contributions hcontributing] at hentry
  obtain ⟨file, hfile, hentry⟩ := List.mem_flatMap.mp hentry
  obtain ⟨index, halias⟩ := (Analysis.isScanned_of_run hrun file hfile).aliases entry hentry
  rw [halias]
  exact Export.endsInDigit_readName _ _ _

/-- Nothing else that the module binds does. -/
theorem endsInDigit_eq_false (contributing : List Contribution) : ∀ name ∈
    "annotations" :: typingNames (allTypeImports contributing) ++ importedNames contributing ++ bodyNames,
      Export.endsInDigit name = false := by
  have hfixed : ∀ name ∈ "annotations" :: ["TYPE_CHECKING", "TypedDict"] ++
      (runtimeNames ++ ["ConfigItem", "ComponentItem", "FunctionItem"]) ++ bodyNames,
        Export.endsInDigit name = false := by decide
  have htyping : typingNames (allTypeImports contributing) ⊆ ["TYPE_CHECKING", "TypedDict"] := by
    unfold typingNames
    split <;> simp
  intro name hname
  refine hfixed name ?_
  rcases List.mem_append.mp hname with hname | hname
  · rcases List.mem_append.mp hname with hname | hname
    · exact List.mem_append_left _ (List.mem_append_left _ (List.cons_subset_cons _ htyping hname))
    · exact List.mem_append_left _ (List.mem_append_right _ (mem_importedNames hname))
  · exact List.mem_append_right _ hname

/-- A name that is bound for the type checker is bound once. -/
theorem count_boundOf_program {directory : List String} (path : List String)
    (hrun : Analysis.run selection world = (.ok files, after))
    (hcontributing : contributions directory files = .ok contributing) {name : String}
    (hname : name ∈ checkedNames contributing) :
    (Stmt.boundOf (program path contributing)).count name = 1 := by
  have hother : name ∉ "annotations" :: typingNames (allTypeImports contributing) ++
      importedNames contributing ++ bodyNames := fun hmem => by
    have hdigit := endsInDigit_of_mem_checkedNames hrun hcontributing hname
    rw [endsInDigit_eq_false contributing name hmem] at hdigit
    cases hdigit
  rw [List.mem_append, not_or] at hother
  rw [boundOf_program, List.count_append, List.count_append, List.count_eq_zero.mpr hother.1,
    List.count_eq_zero.mpr hother.2,
    List.count_eq_one_of_mem (nodup_checkedNames hrun hcontributing) hname]

/-! ## Annotations -/

/-- The name below which the items of an export are annotated. -/
def annotatedName (entry : Export) : String :=
  if entry.name.isNone then itemClass entry.kind else entry.alias

theorem dependencyType_eq (entry : Export) :
    dependencyType entry = "ExtractedContainerItem[" ++ annotatedName entry ++ "]" := by
  unfold dependencyType annotatedName
  cases entry.name <;> rfl

/-- An annotation is read as the subscript of two names. -/
theorem parseModule?_annotation {name : String} (hname : isIdentifier name = true)
    (hfree : name ∉ keywords) :
    parseModule? ("ExtractedContainerItem[" ++ name ++ "]").toList =
      some [.evaluate (.subscript (.name "ExtractedContainerItem") (.name (readName name)))] := by
  have hword : Lexer.nameToken name.toList = some (.name (readName name)) := by
    rw [nameToken_of_isIdentifier hname, wordToken, if_neg (by simpa using hfree)]
  have htokens : tokensOf [.word "ExtractedContainerItem", .sign "[", .word name, .sign "]"] =
      some [.name "ExtractedContainerItem", .symbol "[", .name (readName name), .symbol "]"] := by
    simp [tokensOf, Piece.tokens?, hword]
    rfl
  have hread : Lexer.readLines (.plain 1)
      [⟨0, [.word "ExtractedContainerItem", .sign "[", .word name, .sign "]"]⟩] =
        some ([⟨.name "ExtractedContainerItem", 1⟩, ⟨.symbol "[", 1⟩, ⟨.name (readName name), 1⟩,
          ⟨.symbol "]", 1⟩, ⟨.newline, 1⟩], .plain 2) := by
    rw [Lexer.readLines, Lexer.readLine, htokens]
    rfl
  have hspelled : (Line.mk 0
      [.word "ExtractedContainerItem", .sign "[", .word name, .sign "]"]).isSpelled = true := by
    have hopening (next : Char) : (Piece.sign "[").endsBefore next = true := by
      simp [Piece.endsBefore, Piece.signEndsBefore, Lexer.singleSymbols, Lexer.doubleSymbols]
    have hend : keepApart '\n' [.word name, .sign "]"] = true := by
      rw [keepApart, endsBefore_word (isWordText_of_isIdentifier hname) (by decide)]
      rfl
    refine Line.isSpelled_of_keepApart rfl ?_
    rw [keepApart, keepApart, hopening, hend]
    rfl
  have hspells (depth : Nat) : Spells (Parser.unrolled (depth + 10)) .finish .initial _
      [some [.evaluate (.subscript (.name "ExtractedContainerItem") (.name (readName name)))]]
        (.plain 2) :=
    spells_one hread (by simp [Parser.endsStatement]) fun _ _ _ => rfl
  refine parseModule?_of_spells ?_ (List.forall_mem_singleton.mpr hspelled) (hspells _)
  have hbracket : "]".toList = [']'] := rfl
  rw [String.toList_append, String.toList_append, hbracket, Lexer.endLine, if_neg]
  · simp [spellLines, Line.letters, spell, Piece.letters]
  · rw [List.getLast?_concat]
    decide

/-! ## Closed modules -/

/-- A module binds what the types of the exports of some files need. -/
structure BindsTypes (path directory : List String) (files : List FileExports)
    (body : Source.Module) : Prop where
  /-- The alias of a symbol is bound once, which is for the type checker, to the symbol in the module
  that its file is imported as. -/
  named : ∀ file ∈ files, ∀ entry ∈ file.exports, ∀ name, entry.name = some name →
    (Stmt.boundOf body).count (readName entry.alias) = 1 ∧
      ∃ reference names, Reference.ofPath file.path directory = .ok reference ∧
        .importFrom reference.level (readModule reference.names) names ∈ checkedStatements body ∧
          ⟨readName name, some (readName entry.alias)⟩ ∈ names
  /-- The classes of items are imported from the runtime. -/
  classes : ∃ names : List String, .importFrom 0 (readModule path) (names.map (⟨·, none⟩)) ∈ body ∧
    "ExtractedContainerItem" ∈ names ∧
      ∀ entry ∈ files.flatMap (·.exports), entry.name = none → itemClass entry.kind ∈ names
  table : ∃ line, dictionaryStatement line (entries (files.flatMap (·.exports))) ∈ body
  /-- The type of a row is the subscript of two names that are bound, and its literal stands for it
  exactly if it keeps to the basic plane. -/
  annotations : ∀ row ∈ entries (files.flatMap (·.exports)),
    ∃ entry ∈ files.flatMap (·.exports), row = entryOf entry ∧
      parseModule? row.type.toList = some [.evaluate (.subscript (.name "ExtractedContainerItem")
        (.name (readName (annotatedName entry))))] ∧
      "ExtractedContainerItem" ∈ Stmt.boundOf body ∧
      readName (annotatedName entry) ∈ Stmt.boundOf body ∧
      (Escape.pointsOf row.type = row.type.toList.map Char.toNat ↔ IsBasic row.type)
  /-- What is bound for the type checker is bound once in the module. -/
  apart : ∀ name ∈ Stmt.boundOf (checkedStatements body), (Stmt.boundOf body).count name = 1

theorem mem_checkedExports {entry : Export} (h : entry ∈ contribution.file.exports)
    (hname : entry.name.isSome = true) : entry ∈ checkedExports contribution :=
  List.mem_append_right _ (List.mem_filter.mpr ⟨h, hname⟩)

theorem itemClass_mem_importedNames (hmem : contribution ∈ contributing) {entry : Export}
    (h : entry ∈ contribution.file.exports) (hname : entry.name = none) :
    itemClass entry.kind ∈ importedNames contributing := by
  unfold importedNames
  rw [List.mem_mergeSort, List.mem_eraseDups]
  refine List.mem_append_right _ (List.mem_flatMap.mpr ⟨contribution, hmem, ?_⟩)
  refine List.mem_map.mpr ⟨entry, List.mem_filter.mpr ⟨h, ?_⟩, rfl⟩
  rw [hname]
  rfl

/-- The import of a symbol is seen by the type checker. -/
theorem mem_checkedStatements (path : List String) (hmem : contribution ∈ contributing) {entry : Export}
    (h : entry ∈ contribution.file.exports) {name : String} (hname : entry.name = some name) :
    ∃ names, .importFrom contribution.reference.level (readModule contribution.reference.names) names ∈
        checkedStatements (program path contributing) ∧
      ⟨readName name, some (readName entry.alias)⟩ ∈ names := by
  have hnamed : entry ∈ contribution.file.namedExports :=
    List.mem_filter.mpr ⟨h, by rw [hname]; rfl⟩
  have hbinding : TypeImport.readBinding (exportBinding entry) =
      ⟨readName name, some (readName entry.alias)⟩ := by
    rw [TypeImport.readBinding, exportBinding, hname, Option.getD_some]
  rw [checkedStatements_program, ← hbinding]
  cases hexports : contribution.file.namedExports with
  | nil =>
    rw [hexports] at hnamed
    cases hnamed
  | cons first more =>
    rw [hexports] at hnamed
    let found : TypeImport := ⟨contribution.reference.level, contribution.reference.names,
      exportBinding first, more.map exportBinding⟩
    have hfound : found ∈ namedImport contribution := by
      rw [namedImport, hexports]
      exact List.mem_singleton_self found
    refine ⟨_, List.mem_map.mpr ⟨found, List.mem_flatMap.mpr ⟨contribution, hmem,
      List.mem_append_right _ hfound⟩, rfl⟩, ?_⟩
    exact List.mem_map_of_mem (List.mem_map_of_mem (f := exportBinding) hnamed)

theorem annotatedName_eq (entry : Export) :
    (entry.name = none ∧ annotatedName entry = itemClass entry.kind) ∨
      (entry.name.isSome = true ∧ annotatedName entry = entry.alias) := by
  unfold annotatedName
  cases entry.name <;> simp

/-- The classes of items are names that are read as they stand. -/
theorem itemClass_spec (kind : ItemKind) : isIdentifier (itemClass kind) = true ∧
    itemClass kind ∉ keywords ∧ readName (itemClass kind) = itemClass kind := by
  cases kind <;> decide

/-- The items of a scanned export are annotated below an identifier that is no reserved word. -/
theorem annotatedName_spec {file : FileExports} (hfile : file.IsScanned) {entry : Export}
    (h : entry ∈ file.exports) :
    isIdentifier (annotatedName entry) = true ∧ annotatedName entry ∉ keywords := by
  obtain ⟨-, hannotated⟩ | ⟨hname, hannotated⟩ := annotatedName_eq entry
  · obtain ⟨hidentifier, hfree, -⟩ := itemClass_spec entry.kind
    rw [hannotated]
    exact ⟨hidentifier, hfree⟩
  · obtain ⟨name, hname⟩ := Option.isSome_iff_exists.mp hname
    obtain ⟨index, halias⟩ := hfile.aliases entry h
    have hsymbol := Export.isIdentifier_identifierOf (hfile.symbols entry h name hname)
    rw [hannotated, halias, hname]
    exact ⟨Export.isIdentifier_aliasOf index hsymbol, alias_notMem_keywords _ _ _⟩

theorem bindsTypes_program {directory : List String} (path : List String)
    (hrun : Analysis.run selection world = (.ok files, after))
    (hcontributing : contributions directory files = .ok contributing) :
    BindsTypes path directory files (program path contributing) := by
  have hexports := flatMap_contributions hcontributing
  have hchecked : Stmt.boundOf (checkedStatements (program path contributing)) =
      checkedNames contributing := by
    rw [checkedStatements_program, boundOf_imports]
  have hextracted : "ExtractedContainerItem" ∈ importedNames contributing := by
    unfold importedNames
    rw [List.mem_mergeSort, List.mem_eraseDups]
    exact List.mem_append_left _ (by decide)
  have himported : importedNames contributing ⊆ Stmt.boundOf (program path contributing) := by
    intro name hname
    rw [boundOf_program]
    exact List.mem_append_left _ (List.mem_append_left _ (List.mem_append_right _ hname))
  have hbound {contribution : Contribution} (hmem : contribution ∈ contributing) {entry : Export}
      (hentry : entry ∈ contribution.file.exports) (hname : entry.name.isSome = true) :
      readName entry.alias ∈ checkedNames contributing :=
    List.mem_map.mpr ⟨entry, List.mem_flatMap.mpr ⟨contribution, hmem,
      mem_checkedExports hentry hname⟩, rfl⟩
  have hbody : bodyStatements (dictionaryLine path contributing) contributing ⊆
      program path contributing := fun statement hstatement => List.mem_append_right _ hstatement
  exact {
    named := by
      intro file hfile entry hentry name hname
      obtain ⟨contribution, hmem, rfl, hreference⟩ :=
        exists_contribution hcontributing hfile (List.ne_nil_of_mem hentry)
      obtain ⟨names, hnames, hbinding⟩ := mem_checkedStatements path hmem hentry hname
      have hsome : entry.name.isSome = true := by rw [hname]; rfl
      exact ⟨count_boundOf_program path hrun hcontributing (hbound hmem hentry hsome),
        contribution.reference, names, hreference, hnames, hbinding⟩
    classes := by
      refine ⟨importedNames contributing, ?_, hextracted, fun entry hentry hname => ?_⟩
      · exact List.mem_append_left _ (List.mem_append_left _ (by simp))
      · rw [← hexports] at hentry
        obtain ⟨contribution, hmem, hentry⟩ := List.mem_flatMap.mp hentry
        exact itemClass_mem_importedNames hmem hentry hname
    table := by
      rw [← hexports]
      exact ⟨dictionaryLine path contributing, hbody (by simp [bodyStatements])⟩
    annotations := by
      intro row hrow
      obtain ⟨entry, ⟨front, back, hlast, -⟩, rfl⟩ := mem_entries_iff.mp hrow
      have hentry : entry ∈ files.flatMap (·.exports) := by
        rw [hlast]
        exact List.mem_append_right _ List.mem_cons_self
      obtain ⟨contribution, hmem, hfile⟩ := List.mem_flatMap.mp (hexports ▸ hentry)
      have hscanned := Analysis.isScanned_of_run hrun _ (contributes_of_mem hcontributing hmem).1
      obtain ⟨hidentifier, hfree⟩ := annotatedName_spec hscanned hfile
      refine ⟨entry, hentry, rfl, ?_, himported hextracted, ?_, Escape.flatMap_units_eq_iff _⟩
      · dsimp only
        rw [dependencyType_eq]
        exact parseModule?_annotation hidentifier hfree
      · obtain ⟨hname, hannotated⟩ | ⟨hname, hannotated⟩ := annotatedName_eq entry
        · rw [hannotated, (itemClass_spec entry.kind).2.2]
          exact himported (itemClass_mem_importedNames hmem hfile hname)
        · rw [hannotated, boundOf_program]
          exact List.mem_append_left _ (List.mem_append_right _ (hbound hmem hfile hname))
    apart := fun name hname =>
      count_boundOf_program path hrun hcontributing (hchecked ▸ hname) }

/-- What is rendered of an analysis is a module that binds what its types need. -/
theorem render_bindsTypes {runtimeModule source : String} {directory : List String}
    (hrun : Analysis.run selection world = (.ok files, after))
    (h : (render runtimeModule directory files).2 = .ok source) :
    ∃ body, parseModule? source.toList = some body ∧
      BindsTypes (RuntimeName.words runtimeModule) directory files body := by
  obtain ⟨contributing, hcontributing, -⟩ := render_eq_ok h
  obtain ⟨body, hprogram, hparsed⟩ :=
    parseModule?_of_render h hcontributing (isNamed_of_run hrun hcontributing)
  obtain ⟨-, rfl⟩ := program?_eq_some_iff.mp hprogram
  exact ⟨_, hparsed, bindsTypes_program _ hrun hcontributing⟩

/-- A symbol and a module, each with its own alias. -/
theorem pair_bindsTypes :
    ∃ after source body,
      Analysis.run Analysis.pairSelection Analysis.pair =
        (.ok (FileExports.number 0 Analysis.pairScans), after) ∧
      (render RuntimeName.usual [] (FileExports.number 0 Analysis.pairScans)).2 = .ok source ∧
      parseModule? source.toList = some body ∧
      BindsTypes ["uiwire"] [] (FileExports.number 0 Analysis.pairScans) body := by
  obtain ⟨after, hrun⟩ := Analysis.run_pair
  have hcontributing : contributions [] (FileExports.number 0 Analysis.pairScans) =
      .ok ((FileExports.number 0 Analysis.pairScans).zipWith Contribution.mk
        [⟨1, ["a"]⟩, ⟨1, ["b"]⟩]) := by decide +kernel
  have hwords : RuntimeName.words RuntimeName.usual = ["uiwire"] := by decide +kernel
  have hplain : ∀ word ∈ RuntimeName.words RuntimeName.usual, RuntimeName.IsPlain word := by
    rw [hwords]
    exact List.forall_mem_singleton.mpr ⟨⟨by decide, by decide, by decide⟩, by decide⟩
  obtain ⟨hrender, -⟩ := render_of_free hrun hcontributing hplain (by decide +kernel)
  obtain ⟨body, hparsed, hbinds⟩ := render_bindsTypes hrun hrender
  rw [hwords] at hbinds
  exact ⟨after, _, body, hrun, hrender, hparsed, hbinds⟩

end Catalogue

end Registrar
