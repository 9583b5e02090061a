import Registrar.Proofs.Catalogue.Naming
import Registrar.Proofs.Catalogue.Sections
import Registrar.Proofs.Source.Reading

/-! # The lines of the generated module

The text of a generated module, line by line, with the words, signs and literals that each line is
spelled out of.
-/

namespace Registrar.Catalogue

open Source

/-! ## Imports -/

/-- Names with points between them. -/
def dottedPieces : List String → List Piece
  | [] => []
  | name :: names => .word name :: names.flatMap fun name => [.dots 1, .word name]

/-- An import up to the names it imports. -/
def importPieces (level : Nat) (path : List String) : List Piece :=
  [.word "from", .gap, .dots level] ++ dottedPieces path ++ [.gap, .word "import", .gap]

/-- An import that a type checker sees: names of a module, and what they are bound to. -/
structure TypeImport where
  level : Nat
  path : List String
  first : String × String
  more : List (String × String)

namespace TypeImport

/-- The names that are imported, with what they are bound to. -/
def bindings (entry : TypeImport) : List (String × String) := entry.first :: entry.more

/-- A name and what it is bound to. -/
def bindingPieces (binding : String × String) : List Piece :=
  [.word binding.1, .gap, .word "as", .gap, .word binding.2]

/-- The line of an import. -/
def line (entry : TypeImport) : Line :=
  ⟨4, importPieces entry.level entry.path ++ bindingPieces entry.first ++
    entry.more.flatMap fun binding => [.sign ",", .gap] ++ bindingPieces binding⟩

/-- The text of an import. -/
def text (entry : TypeImport) : String :=
  "from " ++ Reference.textOf entry.level entry.path ++ " import " ++
    ", ".intercalate (entry.bindings.map fun binding => binding.1 ++ " as " ++ binding.2)

end TypeImport

/-- The import of a file's module, if something is exported by it. -/
def moduleImport (contribution : Contribution) : List TypeImport :=
  match contribution.file.moduleExports, contribution.reference.names.getLast? with
  | first :: _, some last =>
    [⟨contribution.reference.level, contribution.reference.names.dropLast, (last, first.alias), []⟩]
  | _, _ => []

/-- The name of an export and what it is bound to. -/
def exportBinding (entry : Export) : String × String := (entry.name.getD "", entry.alias)

/-- The import of a file's exports, if there are any with names. -/
def namedImport (contribution : Contribution) : List TypeImport :=
  match contribution.file.namedExports with
  | [] => []
  | first :: more =>
    [⟨contribution.reference.level, contribution.reference.names, exportBinding first,
      more.map exportBinding⟩]

/-- The imports that a type checker sees. -/
def allTypeImports (contributing : List Contribution) : List TypeImport :=
  contributing.flatMap fun contribution => moduleImport contribution ++ namedImport contribution

theorem typeImports_eq (contribution : Contribution) :
    typeImports contribution =
      (moduleImport contribution ++ namedImport contribution).map TypeImport.text := by
  unfold typeImports moduleImport namedImport
  cases contribution.file.moduleExports <;> cases contribution.file.namedExports <;>
    cases h : contribution.reference.names.getLast? <;>
      simp [TypeImport.text, TypeImport.bindings, Reference.parent, Reference.module, exportBinding, h,
        Function.comp_def, String.append_assoc]

theorem flatMap_typeImports (contributing : List Contribution) :
    contributing.flatMap typeImports = (allTypeImports contributing).map TypeImport.text := by
  unfold allTypeImports
  rw [List.map_flatMap]
  exact List.flatMap_congr fun contribution _ => typeImports_eq contribution

theorem spell_append (pieces more : List Piece) :
    spell (pieces ++ more) = spell pieces ++ spell more := List.flatMap_append

/-- Joined texts: each but the first one has the separator before it. -/
theorem toList_intercalate_cons (separator first : String) (more : List String) :
    (separator.intercalate (first :: more)).toList =
      first.toList ++ more.flatMap fun text => separator.toList ++ text.toList := by
  rw [String.toList_intercalate]
  induction more generalizing first with
  | nil => simp
  | cons next more ih => simp [List.intercalate_cons_cons] at ih ⊢; simp [ih]

theorem spell_dottedPieces (names : List String) :
    spell (dottedPieces names) = (".".intercalate names).toList := by
  cases names with
  | nil => rfl
  | cons name names =>
    rw [toList_intercalate_cons, dottedPieces, spell_cons, spell, List.flatMap_assoc]
    have hpoint : ".".toList = ['.'] := by decide
    simp [Piece.letters, hpoint]

theorem spell_importPieces (level : Nat) (path : List String) :
    spell (importPieces level path) =
      ("from " ++ Reference.textOf level path ++ " import ").toList := by
  have hfrom : "from ".toList = "from".toList ++ [' '] := by decide
  have himport : " import ".toList = ' ' :: "import".toList ++ [' '] := by decide
  simp only [importPieces, spell_append, spell_dottedPieces, Reference.textOf, String.toList_append,
    String.toList_ofList, hfrom, himport]
  simp [spell, Piece.letters]

theorem TypeImport.letters_line (entry : TypeImport) :
    entry.line.letters = ("    " ++ entry.text).toList := by
  have hindent : "    ".toList = List.replicate 4 ' ' := by decide
  have has : " as ".toList = ' ' :: "as".toList ++ [' '] := by decide
  have hcomma : ", ".toList = ",".toList ++ [' '] := by decide
  have hbinding (binding : String × String) : spell (bindingPieces binding) =
      (binding.1 ++ " as " ++ binding.2).toList := by
    simp [bindingPieces, spell, Piece.letters, has]
  have hmore : spell (entry.more.flatMap fun binding => [.sign ",", .gap] ++ bindingPieces binding) =
      (entry.more.map fun binding => binding.1 ++ " as " ++ binding.2).flatMap fun text =>
        ", ".toList ++ text.toList := by
    rw [List.flatMap_map, spell, List.flatMap_assoc]
    refine List.flatMap_congr fun binding _ => ?_
    rw [← hbinding, hcomma]
    simp [spell, Piece.letters]
  unfold Line.letters line text bindings
  rw [spell_append, spell_append, spell_importPieces, hbinding, hmore, List.map_cons]
  simp only [String.toList_append, toList_intercalate_cons, hindent, List.append_assoc]

/-! ## The blocks of the module -/

/-- A line without anything on it. -/
def blankLine : Line := ⟨0, []⟩

/-- The lines of the docstring between its marks. -/
def summary (registered contributing : Nat) : String :=
  "\n".intercalate
    ["Generated uiwire container module.",
      "",
      "Generated by: uiwire._internal.codegen.renderer.ContainerModuleRenderer.render",
      "uiwire version used for generation: 0.1.0",
      "",
      "Do not edit by hand: run ``uiwire generate`` to refresh it.",
      "",
      "Generation summary:",
      "- registered dependencies: " ++ toString registered,
      "- contributing modules: " ++ toString contributing]

/-- What stands between the marks of the docstring. -/
def summaryBody (registered contributing : Nat) : List Char :=
  '\n' :: (summary registered contributing).toList ++ ['\n']

/-- The docstring, which is one token over several lines. -/
def summaryLine (registered contributing : Nat) : Line :=
  ⟨0, [.prose (summaryBody registered contributing)]⟩

/-- A plain import of one or more names. -/
def plainImport (path : String) (first : String) (more : List String) : Line :=
  ⟨0, importPieces 0 [path] ++ .word first :: more.flatMap fun name => [.sign ",", .gap, .word name]⟩

/-- An item of a list that stands on a line of its own. -/
def itemLine (indent : Nat) (pieces : List Piece) : Line := ⟨indent, pieces ++ [.sign ","]⟩

/-- The import from the runtime module. -/
def runtimeLines (path : List String) (names : List String) : List Line :=
  [⟨0, importPieces 0 path ++ [.sign "("]⟩] ++ names.map (fun name => itemLine 4 [.word name])
    ++ [⟨0, [.sign ")"]⟩]

/-- The imports that a type checker sees, below their condition. -/
def typeLines (imports : List TypeImport) : List Line :=
  if imports.isEmpty then []
  else blankLine :: ⟨0, [.word "if", .gap, .word "TYPE_CHECKING", .sign ":"]⟩
    :: imports.map TypeImport.line

/-- The names that the module takes from the typing module. -/
def typingLine (imports : List TypeImport) : Line :=
  if imports.isEmpty then plainImport "typing" "TypedDict" []
  else plainImport "typing" "TYPE_CHECKING" ["TypedDict"]

/-- The lines of the table of dependencies. -/
def tableLines (table : List Entry) : List Line :=
  if table.isEmpty then [itemLine 4 [.sign "\x7b", .sign "\x7d"]]
  else [⟨4, [.sign "\x7b"]⟩]
    ++ table.map (fun entry => itemLine 8 [.literal entry.key, .sign ":", .gap, .literal entry.type])
    ++ [itemLine 4 [.sign "\x7d"]]

/-- What is said of the table. -/
def tableNote : String :=
  "Dependency keys registered in ``container`` mapped to the types dependents consume."

/-- The lines of the typed dictionary. -/
def dictionaryLines (table : List Entry) : List Line :=
  [⟨0, [.word "ContainerDependencies", .gap, .sign "=", .gap, .word "TypedDict", .sign "("]⟩,
    itemLine 4 [.literal "ContainerDependencies"]]
    ++ tableLines table
    ++ [itemLine 4 [.word "total", .sign "=", .word "False"], ⟨0, [.sign ")"]⟩]
    ++ [⟨0, [.prose tableNote.toList]⟩]

/-- A binding of what a call gives. -/
def callLine (target callee argument : String) : Line :=
  ⟨0, [.word target, .gap, .sign "=", .gap, .word callee, .sign "(", .word argument, .sign ")"]⟩

/-- The lines of the container and its entry points. -/
def containerLines : List Line :=
  [⟨0, [.word "container", .sign ":", .gap, .word "Container", .sign "[",
      .word "ContainerDependencies", .sign "]", .gap, .sign "=", .gap, .word "Container", .sign "(",
      .sign ")"]⟩,
    blankLine,
    callLine "register_component" "register_component_factory" "container",
    callLine "register_hook" "register_hook_factory" "container",
    callLine "register_function" "register_function_factory" "container",
    callLine "register_config" "register_config_factory" "container"]

/-- The lines of the list of contributing modules. -/
def moduleListLines (references : List Reference) : List Line :=
  [⟨0, [.word "CONTRIBUTING_MODULES", .sign ":", .gap, .word "tuple", .sign "[", .word "str",
      .sign ",", .gap, .dots 3, .sign "]", .gap, .sign "=", .gap, .sign "("]⟩]
    ++ references.map (fun reference => itemLine 4 [.literal reference.module])
    ++ [⟨0, [.sign ")"]⟩]

/-- The public names of the module. -/
def publicNames : List String :=
  ["CONTRIBUTING_MODULES", "ContainerDependencies", "ContainerInitializer", "container",
    "init_container", "register_component", "register_config", "register_function",
    "register_hook"]

/-- The lines of the bootstrap and the list of public names. -/
def bootstrapLines : List Line :=
  [blankLine, blankLine,
    ⟨0, [.word "async", .gap, .word "def", .gap, .word "init_container", .sign "(", .sign ")", .gap,
      .sign "->", .gap, .word "None", .sign ":"]⟩,
    ⟨4, [.prose "Import every module registering items into ``container``.".toList]⟩,
    ⟨4, [.word "await", .gap, .word "initialize_modules", .sign "(", .word "container", .sign ",",
      .gap, .word "CONTRIBUTING_MODULES", .sign ",", .gap, .word "package", .sign "=",
      .word "__package__", .sign ")"]⟩,
    blankLine, blankLine,
    callLine "ContainerInitializer" "container_initializer_factory" "init_container",
    blankLine,
    ⟨0, [.word "__all__", .gap, .sign "=", .gap, .sign "["]⟩]
    ++ publicNames.map (fun name => itemLine 4 [.literal name]) ++ [⟨0, [.sign "]"]⟩]

/-- The lines of the imports; the path is that of the runtime module. -/
def importsLines (path : List String) (contributing : List Contribution) : List Line :=
  [plainImport "__future__" "annotations" [], blankLine,
    typingLine (allTypeImports contributing), blankLine]
    ++ runtimeLines path (importedNames contributing) ++ typeLines (allTypeImports contributing)

/-- The lines of a generated module. -/
def moduleLines (path : List String) (contributing : List Contribution) : List Line :=
  let table := entries (contributing.flatMap (·.file.exports))
  [summaryLine table.length contributing.length, blankLine]
    ++ importsLines path contributing ++ [blankLine]
    ++ dictionaryLines table ++ [blankLine]
    ++ containerLines ++ [blankLine]
    ++ moduleListLines (contributing.map (·.reference)) ++ bootstrapLines

/-! ## The text is spelled out -/

theorem spellLines_append (lines more : List Line) :
    spellLines (lines ++ more) = spellLines lines ++ spellLines more := List.flatMap_append

theorem toList_docstring (registered contributing : Nat) :
    (docstring registered contributing).toList ++ ['\n'] =
      spellLines [summaryLine registered contributing] := by
  have hmarks : "\"\"\"".toList = ['"', '"', '"'] := by decide
  have hnewline : "\n".toList = ['\n'] := by decide
  unfold docstring summaryLine summaryBody summary
  simp only [String.toList_intercalate, List.map_cons, List.map_nil, List.intercalate_cons_cons,
    List.intercalate_singleton, hmarks, hnewline, spellLines, Line.letters, spell, Piece.letters,
    List.flatMap_cons, List.flatMap_nil, List.append_assoc, List.cons_append, List.nil_append,
    List.append_nil, List.replicate_zero]

/-- The letters of a line that holds an item. -/
theorem letters_itemLine (indent : Nat) (pieces : List Piece) :
    (itemLine indent pieces).letters = List.replicate indent ' ' ++ spell pieces ++ [','] := by
  have hcomma : ",".toList = [','] := by decide
  simp [itemLine, Line.letters, spell, Piece.letters, hcomma]

/-- Indented texts are lines. -/
theorem toList_indented_map {ι : Type} {indent : String} {texts : ι → String} {line : ι → Line}
    (items : List ι) (h : ∀ item, (line item).letters = indent.toList ++ (texts item).toList) :
    (indented indent (items.map texts)).toList = spellLines (items.map line) := by
  unfold spellLines
  rw [toList_indented, List.flatMap_map, List.flatMap_map]
  exact List.flatMap_congr fun item _ => by rw [h]

/-- Indented texts that each have a comma behind them are items on lines of their own. -/
theorem toList_indented_items {ι : Type} (indent : Nat) (texts : ι → String)
    (pieces : ι → List Piece) (items : List ι)
    (h : ∀ item, spell (pieces item) = (texts item).toList) :
    (indented (String.ofList (List.replicate indent ' '))
        (items.map fun item => texts item ++ ",")).toList =
      spellLines (items.map fun item => itemLine indent (pieces item)) := by
  have hcomma : ",".toList = [','] := by decide
  refine toList_indented_map items fun item => ?_
  rw [letters_itemLine, h, String.toList_append, String.toList_ofList, hcomma, List.append_assoc]

theorem toList_table (table : List Entry) :
    (if table.isEmpty then "    \x7b\x7d,\n"
      else "    \x7b\n" ++ indented "        " (table.map fun entry =>
        Json.literal entry.key ++ ": " ++ Json.literal entry.type ++ ",") ++ "    \x7d,\n").toList =
      spellLines (tableLines table) := by
  have hempty : "    \x7b\x7d,\n".toList = spellLines [itemLine 4 [.sign "\x7b", .sign "\x7d"]] := by
    decide
  have hopening : "    \x7b\n".toList = spellLines [⟨4, [.sign "\x7b"]⟩] := by decide
  have hclosing : "    \x7d,\n".toList = spellLines [itemLine 4 [.sign "\x7d"]] := by decide
  have hcolon : ": ".toList = ":".toList ++ [' '] := by decide
  have hitems := toList_indented_items 8 (fun entry => Json.literal entry.key ++ ": " ++ Json.literal entry.type) (fun entry : Entry =>
      [.literal entry.key, .sign ":", .gap, .literal entry.type]) table
    fun entry => by simp [spell, Piece.letters, hcolon]
  unfold tableLines
  split
  · exact hempty
  · rw [String.toList_append, String.toList_append, hopening, hclosing, spellLines_append,
      spellLines_append, ← hitems]
    rfl

theorem toList_dictionary (table : List Entry) :
    (dependenciesBlock table).toList ++ ['\n'] = spellLines (dictionaryLines table) := by
  have hopening : "ContainerDependencies = TypedDict(\n    \"ContainerDependencies\",\n".toList =
      spellLines [⟨0, [.word "ContainerDependencies", .gap, .sign "=", .gap, .word "TypedDict",
        .sign "("]⟩, itemLine 4 [.literal "ContainerDependencies"]] := by
    decide
  have hclosing : "    total=False,\n)\n".toList = spellLines
      [itemLine 4 [.word "total", .sign "=", .word "False"], ⟨0, [.sign ")"]⟩] := by
    decide
  have hnote :
      "\"\"\"Dependency keys registered in ``container`` mapped to the types dependents".toList ++
        (" consume.\"\"\"".toList ++ ['\n']) = spellLines [⟨0, [.prose tableNote.toList]⟩] := by
    decide
  unfold dependenciesBlock dictionaryLines
  rw [String.toList_append, String.toList_append, String.toList_append, String.toList_append,
    toList_table, hopening, hclosing, List.append_assoc _ _ ['\n'], List.append_assoc _ _ (_ ++ _),
    hnote, spellLines_append, spellLines_append, spellLines_append]

/-- The letters of a literal; for the kernel a literal is made of its letters, but to take
it apart again is slow. -/
theorem toList_of_eq {text : String} {letters : List Char} (h : text = String.ofList letters) :
    text.toList = letters := by
  rw [h, String.toList_ofList]

set_option maxRecDepth 20000 in
theorem toList_container : containerBlock.toList ++ ['\n'] = spellLines containerLines := by
  unfold containerBlock
  rw [String.toList_intercalate]
  simp only [spellLines, containerLines, callLine, blankLine, List.flatMap_cons, List.flatMap_nil,
    Line.letters, spell, Piece.letters, List.map_cons, List.map_nil]
  simp (disch := exact rfl) only [toList_of_eq]
  decide

set_option maxRecDepth 20000 in
theorem toList_bootstrap :
    ("\n".intercalate
      [")", "", "", "async def init_container() -> None:",
        "    \"\"\"Import every module registering items into ``container``.\"\"\"",
        "    await initialize_modules(container, CONTRIBUTING_MODULES, package=__package__)",
        "", "", "ContainerInitializer = container_initializer_factory(init_container)", "",
        "__all__ = [", "    \"CONTRIBUTING_MODULES\",", "    \"ContainerDependencies\",",
        "    \"ContainerInitializer\",", "    \"container\",", "    \"init_container\",",
        "    \"register_component\",", "    \"register_config\",", "    \"register_function\",",
        "    \"register_hook\",", "]"]).toList ++ ['\n'] =
      spellLines ([⟨0, [.sign ")"]⟩] ++ bootstrapLines) := by
  rw [String.toList_intercalate]
  simp only [spellLines, bootstrapLines, callLine, blankLine, itemLine, publicNames,
    List.flatMap_cons, List.flatMap_nil, Line.letters, spell, Piece.letters, List.map_cons,
    List.map_nil, List.cons_append, List.nil_append, Json.literal, Json.literalChars, String.toList_ofList]
  simp (disch := exact rfl) only [toList_of_eq]
  decide

theorem toList_initializer (references : List Reference) :
    (initializerBlock references).toList ++ ['\n'] =
      spellLines (moduleListLines references ++ bootstrapLines) := by
  have hopening : "CONTRIBUTING_MODULES: tuple[str, ...] = (\n".toList =
      spellLines [⟨0, [.word "CONTRIBUTING_MODULES", .sign ":", .gap, .word "tuple", .sign "[",
        .word "str", .sign ",", .gap, .dots 3, .sign "]", .gap, .sign "=", .gap, .sign "("]⟩] := by
    decide
  have hitems : (indented "    " (references.map fun reference =>
      Json.literal reference.module ++ ",")).toList =
        spellLines (references.map fun reference => itemLine 4 [.literal reference.module]) :=
    toList_indented_items 4 _ _ references fun reference => by simp [spell, Piece.letters]
  unfold initializerBlock moduleListLines
  rw [String.toList_append, String.toList_append, List.append_assoc, toList_bootstrap, hopening,
    hitems]
  simp only [spellLines_append, List.append_assoc]

/-- The import of the future annotations. -/
theorem toList_future : "from __future__ import annotations\n\nfrom typing import ".toList =
    spellLines [plainImport "__future__" "annotations" [], blankLine] ++
      spell (importPieces 0 ["typing"]) := by
  decide

theorem toList_typing (imports : List TypeImport) :
    spell (importPieces 0 ["typing"]) ++
      (if (imports.map TypeImport.text).isEmpty then "TypedDict"
        else "TYPE_CHECKING, TypedDict").toList =
      (typingLine imports).letters := by
  have hplain : (typingLine []).letters =
      spell (importPieces 0 ["typing"]) ++ "TypedDict".toList := by decide
  have hchecking : (plainImport "typing" "TYPE_CHECKING" ["TypedDict"]).letters =
      spell (importPieces 0 ["typing"]) ++ "TYPE_CHECKING, TypedDict".toList := by decide
  cases imports with
  | nil => exact hplain.symm
  | cons first more => exact hchecking.symm

theorem toList_runtime (path : List String) (names : List String) :
    ("from ".toList ++ ((".".intercalate path).toList ++ (" import (\n".toList ++
      ((indented "    " (names.map (· ++ ","))).toList ++ ")\n".toList)))) =
      spellLines (runtimeLines path names) := by
  have hopening : " import (\n".toList = " import ".toList ++ ['(', '\n'] := by decide
  have hclosing : ")\n".toList = spellLines [⟨0, [.sign ")"]⟩] := by decide
  have hopen : "(".toList = ['('] := by decide
  have hnames : (indented "    " (names.map (· ++ ","))).toList =
      spellLines (names.map fun name => itemLine 4 [.word name]) :=
    toList_indented_items 4 _ _ names fun name => by simp [spell, Piece.letters]
  have hfirst : spellLines [⟨0, importPieces 0 path ++ [.sign "("]⟩] =
      "from ".toList ++ ((".".intercalate path).toList ++ (" import ".toList ++ ['(', '\n'])) := by
    simp only [spellLines, List.flatMap_cons, List.flatMap_nil, Line.letters, spell_append,
      spell_importPieces, Reference.textOf, String.toList_append]
    simp [spell, Piece.letters, hopen]
  rw [hopening, hnames, hclosing]
  unfold runtimeLines
  rw [spellLines_append, spellLines_append, hfirst]
  simp only [List.append_assoc]

theorem toList_types (imports : List TypeImport) :
    (if (imports.map TypeImport.text).isEmpty then ""
      else "\nif TYPE_CHECKING:\n" ++ indented "    " (imports.map TypeImport.text)).toList =
      spellLines (typeLines imports) := by
  have hcondition : "\nif TYPE_CHECKING:\n".toList = spellLines
      [blankLine, ⟨0, [.word "if", .gap, .word "TYPE_CHECKING", .sign ":"]⟩] := by decide
  cases imports with
  | nil => rfl
  | cons first more =>
    rw [List.map_cons, List.isEmpty_cons, if_neg Bool.false_ne_true, String.toList_append,
      hcondition, ← List.map_cons, toList_indented_map (first :: more) fun entry => by
        rw [TypeImport.letters_line, String.toList_append]]
    exact (spellLines_append [_, _] _).symm

/-- A text that ends with a line to be seen loses no more than the newline behind it. -/
theorem trimEnd_append_newline {front : List Char} {c : Char} (hc : isBlank c = false) :
    trimEnd (front ++ [c] ++ ['\n']) = front ++ [c] := by
  have hnewline : isBlank '\n' = true := by decide
  simp [trimEnd, dropEndWhile, hc, hnewline]

/-- The imports end in a bracket or in a name. -/
theorem last_importsLines (path : List String) {contributing : List Contribution}
    (hlast : ∀ entry ∈ allTypeImports contributing, ∃ front c, entry.text.toList = front ++ [c] ∧
      isBlank c = false) :
    ∃ front c, spellLines (importsLines path contributing) = front ++ [c] ++ ['\n'] ∧
      isBlank c = false := by
  have hlines (lines : List Line) {last : Line} (front : List Char) {c : Char}
      (hletters : last.letters = front ++ [c]) (hc : isBlank c = false) :
      ∃ front c, spellLines (lines ++ [last]) = front ++ [c] ++ ['\n'] ∧ isBlank c = false :=
    ⟨spellLines lines ++ front, c, by simp [spellLines, hletters], hc⟩
  unfold importsLines
  by_cases h : allTypeImports contributing = []
  · have hclosing : (Line.mk 0 [.sign ")"]).letters = [] ++ [')'] := by decide
    rw [h, show typeLines [] = [] from rfl, List.append_nil, runtimeLines, ← List.append_assoc]
    exact hlines _ _ hclosing (by decide)
  · obtain ⟨front, entry, himports⟩ := List.eq_nil_or_concat' _ |>.resolve_left h
    obtain ⟨start, c, htext, hc⟩ := hlast entry (by simp [himports])
    have htypes : typeLines (front ++ [entry]) =
        (blankLine :: ⟨0, [.word "if", .gap, .word "TYPE_CHECKING", .sign ":"]⟩ ::
          front.map TypeImport.line) ++ [entry.line] := by
      simp [typeLines]
    rw [himports, htypes, ← List.append_assoc]
    refine hlines _ ("    ".toList ++ start) ?_ hc
    rw [TypeImport.letters_line, String.toList_append, htext, List.append_assoc]

theorem toList_imports {runtimeModule : String} {path : List String}
    {contributing : List Contribution} (hpath : ".".intercalate path = runtimeModule)
    (hlast : ∀ entry ∈ allTypeImports contributing, ∃ front c, entry.text.toList = front ++ [c] ∧
      isBlank c = false) :
    (importsBlock runtimeModule contributing).toList ++ ['\n'] =
      spellLines (importsLines path contributing) := by
  have hopening : "\n\nfrom ".toList = '\n' :: spellLines [blankLine] ++ "from ".toList := by
    decide
  have htyping (imports : List TypeImport) :
      spellLines [plainImport "__future__" "annotations" [], blankLine, typingLine imports, blankLine] =
        spellLines [plainImport "__future__" "annotations" [], blankLine] ++
          ((typingLine imports).letters ++ '\n' :: spellLines [blankLine]) := by
    simp [spellLines]
  obtain ⟨front, c, hspelled, hc⟩ := last_importsLines path hlast
  rw [hspelled]
  unfold importsBlock withoutTrail
  rw [String.toList_ofList, flatMap_typeImports]
  refine congrArg (· ++ ['\n']) ?_
  rw [← trimEnd_append_newline hc, ← hspelled]
  refine congrArg trimEnd ?_
  unfold importsLines
  rw [spellLines_append, spellLines_append, ← toList_types, ← toList_runtime, hpath]
  rw [htyping, ← toList_typing]
  simp only [String.toList_append, toList_future, hopening, List.append_assoc, List.cons_append]

/-- The text of a module is that of its lines, but for the newline at the end. -/
theorem toList_text_eq {runtimeModule : String} {path : List String}
    {contributing : List Contribution} (hpath : ".".intercalate path = runtimeModule)
    (hlast : ∀ entry ∈ allTypeImports contributing, ∃ front c, entry.text.toList = front ++ [c] ∧
      isBlank c = false) :
    (text runtimeModule contributing).toList ++ ['\n'] =
      spellLines (moduleLines path contributing) := by
  have hbreak : "\n\n".toList = ['\n'] ++ spellLines [blankLine] := by decide
  have hfirst (registered contributing : Nat) :
      spellLines [summaryLine registered contributing, blankLine] =
        (docstring registered contributing).toList ++ ['\n'] ++ spellLines [blankLine] := by
    rw [toList_docstring, ← spellLines_append]
    rfl
  unfold text moduleLines
  dsimp only
  simp only [String.toList_intercalate, List.map_cons, List.map_nil, List.intercalate_cons_cons,
    List.intercalate_singleton, hbreak]
  rw [List.append_assoc _ (moduleListLines _) bootstrapLines]
  simp only [spellLines_append _ (_ ++ _), ← toList_initializer]
  simp only [spellLines_append, hfirst, ← toList_imports hpath hlast, ← toList_dictionary,
    ← toList_container, List.append_assoc]

end Registrar.Catalogue
