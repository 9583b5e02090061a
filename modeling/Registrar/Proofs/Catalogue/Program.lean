import Registrar.Proofs.Catalogue.Apart
import Registrar.Proofs.Source.Names
import Registrar.Proofs.Source.Sentences

/-! # What the generated module says

The statements of a generated module, read block by block off its lines. An import whose names are
reserved words is read by no rule, and then neither is the module; everything else is always read.
-/

namespace Registrar.Catalogue

open Source Source.Lexer

variable {rules : Parser.Rules} {final : Token} {depth : Nat}

/-! ## Statements -/

/-- What a generated literal is read as. -/
def literalExpr (text : String) : Expr := .constant (.text (text.toList.flatMap Escape.units))

/-- A text between triple marks as a statement. -/
def proseStatement (body : List Char) : Stmt := .evaluate (.constant (.text (body.map Char.toNat)))

/-- An import from a module without points before its name. -/
def importStatement (module : String) (names : List String) : Stmt :=
  .importFrom 0 (some module) (names.map (⟨·, none⟩))

/-- The import from the runtime module, unless a reserved word is on its path. -/
def runtimeStatement? (path : List String) (names : List String) : Option Stmt :=
  Parser.importOf 0 (path.map wordToken) (some (names.map (⟨·, none⟩)))

/-- The words of a binding. -/
def bindingWords (binding : String × String) : Token × Token :=
  (wordToken binding.1, wordToken binding.2)

/-- An import that a type checker sees, unless a reserved word is among its names. -/
def TypeImport.statement? (entry : TypeImport) : Option Stmt :=
  Parser.importOf entry.level (entry.path.map wordToken)
    ((entry.bindings.map bindingWords).mapM Parser.bindingOf)

/-- The imports that a type checker sees, below their condition. -/
def typesStatement? (imports : List TypeImport) : Option Stmt :=
  (imports.mapM TypeImport.statement?).map fun statements =>
    .conditional (.name "TYPE_CHECKING") statements []

/-- The names that the module takes from the typing module. -/
def typingNames (imports : List TypeImport) : List String :=
  if imports.isEmpty then ["TypedDict"] else ["TYPE_CHECKING", "TypedDict"]

/-- The table of dependencies as a dictionary. -/
def tableExpr (table : List Entry) : Expr :=
  .dict (table.map fun entry => (some (literalExpr entry.key), literalExpr entry.type))

/-- The binding of the typed dictionary. -/
def dictionaryStatement (line : Nat) (table : List Entry) : Stmt :=
  .assign [.name "ContainerDependencies"]
    (.call line (.name "TypedDict") [literalExpr "ContainerDependencies", tableExpr table]
      [(some "total", .constant (.bool false))])

/-- A binding of what a call gives. -/
def callStatement (line : Nat) (target callee argument : String) : Stmt :=
  .assign [.name target] (.call line (.name callee) [.name argument] [])

/-- The container and its entry points. -/
def containerStatements (line : Nat) : List Stmt :=
  [.annAssign (.name "container")
      (.subscript (.name "Container") (.name "ContainerDependencies"))
      (some (.call line (.name "Container") [] [])),
    callStatement (line + 2) "register_component" "register_component_factory" "container",
    callStatement (line + 3) "register_hook" "register_hook_factory" "container",
    callStatement (line + 4) "register_function" "register_function_factory" "container",
    callStatement (line + 5) "register_config" "register_config_factory" "container"]

/-- The list of contributing modules. -/
def moduleListStatement (references : List Reference) : Stmt :=
  .annAssign (.name "CONTRIBUTING_MODULES")
    (.subscript (.name "tuple") (.tuple [.name "str", .constant .ellipsis]))
    (some (.tuple (references.map fun reference => literalExpr reference.module)))

/-- The function that imports the contributing modules. -/
def bootstrapStatement (line : Nat) : Stmt :=
  .functionDef true "init_container" (.mk [] [] none [] none) [] (some (.constant .none))
    [proseStatement "Import every module registering items into ``container``.".toList,
      .evaluate (.await (.call line (.name "initialize_modules")
        [.name "container", .name "CONTRIBUTING_MODULES"]
        [(some "package", .name "__package__")]))]

/-- The list of public names. -/
def publicStatement : Stmt := .assign [.name "__all__"] (.list (publicNames.map literalExpr))

/-! ## Lines of fixed text -/

/-- Lines that are read as one sentence. -/
theorem spells_one {layout next : Layout} {lines : List Line} {first : Lexeme}
    {more : List Lexeme} {value : List Stmt}
    (hread : readLines layout lines = some (first :: more, next))
    (hopens : first.token ≠ final ∧ Parser.endsStatement first.token)
    (h : ∀ next rest, Parser.endsStatement next.token →
      Parser.statement rules (first :: more ++ next :: rest) = some (value, next :: rest)) :
    Spells rules final layout lines [some value] next :=
  .sentence hread ⟨⟨first, more, rfl, hopens⟩, h⟩

theorem spells_future (n : Nat) :
    Spells (Parser.unrolled (depth + 10)) .finish (.plain n)
      [plainImport "__future__" "annotations" []]
      [some [importStatement "__future__" ["annotations"]]] (.plain (n + 1)) :=
  spells_one rfl (by simp [Parser.endsStatement]) fun _ _ _ => rfl

theorem spells_typing (imports : List TypeImport) (n : Nat) :
    Spells (Parser.unrolled (depth + 10)) .finish (.plain n) [typingLine imports]
      [some [importStatement "typing" (typingNames imports)]] (.plain (n + 1)) := by
  unfold typingLine typingNames
  split
  · exact spells_one rfl (by simp [Parser.endsStatement]) fun _ _ _ => rfl
  · exact spells_one rfl (by simp [Parser.endsStatement]) fun _ _ _ => rfl

variable (depth) in
/-- A binding of what a call gives, on a line of its own. -/
theorem spells_callLine (target callee argument : String) (n : Nat)
    (htarget : nameToken target.toList = some (.name target))
    (hcallee : nameToken callee.toList = some (.name callee))
    (hargument : nameToken argument.toList = some (.name argument)) (hmatch : target ≠ "match") :
    Spells (Parser.unrolled (depth + 10)) .finish (.plain n) [callLine target callee argument]
      [some [callStatement n target callee argument]] (.plain (n + 1)) := by
  have htokens : tokensOf (callLine target callee argument).pieces = some
      [.name target, .symbol "=", .name callee, .symbol "(", .name argument, .symbol ")"] := by
    simp [callLine, tokensOf, Piece.tokens?, htarget, hcallee, hargument]
  have hread : readLines (.plain n) [callLine target callee argument] = some
      ([⟨.name target, n⟩, ⟨.symbol "=", n⟩, ⟨.name callee, n⟩, ⟨.symbol "(", n⟩,
        ⟨.name argument, n⟩, ⟨.symbol ")", n⟩, ⟨.newline, n⟩], .plain (n + 1)) := by
    rw [readLines, readLine, htokens]
    rfl
  refine spells_one hread (by simp [Parser.endsStatement]) fun next rest _ => ?_
  exact Parser.statement_assign [⟨.symbol "(", n⟩, ⟨.name argument, n⟩, ⟨.symbol ")", n⟩] _ _ _ hmatch rfl rfl

variable (depth) in
theorem spells_container (n : Nat) :
    Spells (Parser.unrolled (depth + 10)) .finish (.plain n) containerLines
      ((containerStatements n).map fun statement => some [statement]) (.plain (n + 6)) := by
  have hcontainer : Spells (Parser.unrolled (depth + 10)) .finish (.plain n)
      [⟨0, [.word "container", .sign ":", .gap, .word "Container", .sign "[",
        .word "ContainerDependencies", .sign "]", .gap, .sign "=", .gap, .word "Container",
        .sign "(", .sign ")"]⟩] [some [.annAssign (.name "container")
          (.subscript (.name "Container") (.name "ContainerDependencies"))
          (some (.call n (.name "Container") [] []))]] (.plain (n + 1)) :=
    spells_one rfl (by simp [Parser.endsStatement]) fun _ _ _ => rfl
  exact hcontainer.append ((Spells.blank _).append ((spells_callLine _ _ _ _ (n + 2) rfl rfl rfl (by decide)).append
    ((spells_callLine _ _ _ _ (n + 3) rfl rfl rfl (by decide)).append
      ((spells_callLine _ _ _ _ (n + 4) rfl rfl rfl (by decide)).append
        (spells_callLine _ _ _ _ (n + 5) rfl rfl rfl (by decide))))))

/-! ## Texts between triple marks -/

theorem decodeFrom_prose {body : List Char} (h : '\\' ∉ body) :
    Escape.decodeFrom false .plain body = some (body.map Char.toNat) := by
  induction body with
  | nil => rfl
  | cons c body ih =>
    rw [Escape.decodeFrom_plain (List.ne_of_not_mem_cons h).symm,
      ih (List.not_mem_of_not_mem_cons h)]
    rfl

variable (final) (depth) in
/-- A text between triple marks is a sentence, over as many lines as it has. -/
theorem spells_prose (body : List Char) (indents : List (Nat × Nat)) {n : Nat} (indent : Nat)
    (hopen : (Layout.mk indents [] n).open indent = some ([], ⟨indents, [], n⟩))
    (h : '\\' ∉ body) (hfinal : .string ⟨false, false, false, body⟩ ≠ final) :
    Spells (Parser.unrolled (depth + 1)) final ⟨indents, [], n⟩ [⟨indent, [.prose body]⟩]
      [some [proseStatement body]] ⟨indents, [], n + body.count '\n' + 1⟩ := by
  have hread : readLines ⟨indents, [], n⟩ [⟨indent, [.prose body]⟩] = some
      ([⟨.string ⟨false, false, false, body⟩, n⟩, ⟨.newline, n + body.count '\n'⟩],
        ⟨indents, [], n + body.count '\n' + 1⟩) := by
    rw [readLines, readLine]
    simp only [tokensOf, Piece.tokens?, Option.bind_eq_bind, Option.bind_some, hopen]
    rfl
  exact spells_one hread ⟨hfinal, by simp [Parser.endsStatement]⟩ fun next rest _ =>
    Parser.statement_string (decodeFrom_prose h)

/-! ## Imports -/

/-- The tokens of names with points between them. -/
def dottedTokens : List String → List Token
  | [] => []
  | name :: names => wordToken name :: names.flatMap fun name => [.symbol ".", wordToken name]

/-- The tokens of an import up to the names it imports. -/
def importTokens (level : Nat) (path : List String) : List Token :=
  [.keyword "from"] ++ Piece.dotTokens level ++ dottedTokens path ++ [.keyword "import"]

theorem isWord_wordToken (name : String) : Parser.IsWord (wordToken name) := by
  unfold wordToken Parser.IsWord
  split
  · exact .inr ⟨_, rfl⟩
  · exact .inl ⟨_, rfl⟩

theorem pass_wordToken (layout : Layout) (name : String) :
    layout.pass (wordToken name) = some layout := by
  unfold wordToken
  split <;> rfl

theorem tokensOf_word {name : String} (h : isIdentifier name = true) :
    tokensOf [.word name] = some [wordToken name] := by
  simp [tokensOf, Piece.tokens?, nameToken_of_isIdentifier h]

theorem tokensOf_dottedPieces {path : List String} (hpath : ∀ name ∈ path, isIdentifier name = true) :
    tokensOf (dottedPieces path) = some (dottedTokens path) := by
  cases path with
  | nil => rfl
  | cons name path =>
    obtain ⟨hname, hpath⟩ := List.forall_mem_cons.mp hpath
    have hmore := tokensOf_flatMap path (fun name => [.dots 1, .word name]) (fun name => [.symbol ".", wordToken name]) fun name hmem => by
        simp [tokensOf, Piece.tokens?, nameToken_of_isIdentifier (hpath name hmem), Piece.dotTokens]
    rw [dottedPieces, ← List.singleton_append, tokensOf_append, tokensOf_word hname, hmore]
    rfl

theorem tokensOf_importPieces {level : Nat} {path : List String}
    (hpath : ∀ name ∈ path, isIdentifier name = true) :
    tokensOf (importPieces level path) = some (importTokens level path) := by
  have hfrom : tokensOf [.word "from", .gap, .dots level] =
      some ([.keyword "from"] ++ Piece.dotTokens level) := by
    have hword : (Piece.word "from").tokens? = some [.keyword "from"] := by decide
    rw [tokensOf, hword]
    simp [tokensOf, Piece.tokens?]
  have himport : tokensOf [.gap, .word "import", .gap] = some [.keyword "import"] := by decide
  unfold importPieces importTokens
  rw [tokensOf_append, tokensOf_append, hfrom, tokensOf_dottedPieces hpath, himport]
  rfl

theorem map_dottedTokens (path : List String) (n : Nat) :
    (dottedTokens path).map (⟨·, n⟩ : Token → Lexeme) =
      Parser.dottedLexemes n (path.map wordToken) := by
  cases path with
  | nil => rfl
  | cons name path => simp [dottedTokens, Parser.dottedLexemes, List.map_flatMap, List.flatMap_map]

theorem map_importTokens (level : Nat) (path : List String) (n : Nat) (imported : List Lexeme) :
    (importTokens level path).map (⟨·, n⟩) ++ imported =
      Parser.importLexemes level n (path.map wordToken) imported := by
  unfold importTokens Parser.importLexemes
  rw [List.map_append, List.map_append, List.map_append, map_dottedTokens]
  simp

theorem pass_dottedTokens (layout : Layout) (path : List String) :
    ∀ token ∈ dottedTokens path, layout.pass token = some layout := by
  cases path with
  | nil => exact List.forall_mem_nil _
  | cons name path =>
    refine List.forall_mem_cons.mpr ⟨pass_wordToken layout name, fun token htoken => ?_⟩
    obtain ⟨name, -, hname⟩ := List.mem_flatMap.mp htoken
    rcases List.mem_cons.mp hname with rfl | hname
    · rfl
    · rw [List.mem_singleton.mp hname]
      exact pass_wordToken layout name

theorem pass_importTokens (layout : Layout) (level : Nat) (path : List String) :
    ∀ token ∈ importTokens level path, layout.pass token = some layout := by
  unfold importTokens
  simp only [List.forall_mem_append, List.forall_mem_singleton]
  exact ⟨⟨⟨rfl, pass_dots level⟩, pass_dottedTokens layout path⟩, rfl⟩

/-- The tokens of a name that is bound to another. -/
def bindingTokens (binding : String × String) : List Token :=
  [wordToken binding.1, .keyword "as", wordToken binding.2]

theorem tokensOf_bindingPieces {binding : String × String}
    (h : isIdentifier binding.1 = true ∧ isIdentifier binding.2 = true) :
    tokensOf (TypeImport.bindingPieces binding) = some (bindingTokens binding) := by
  have has : (Piece.word "as").tokens? = some [.keyword "as"] := by decide
  simp only [TypeImport.bindingPieces, tokensOf, has, bindingTokens]
  simp [Piece.tokens?, nameToken_of_isIdentifier h.1, nameToken_of_isIdentifier h.2]

/-- The tokens of bindings with commas between them. -/
def bindingsTokens (first : String × String) (more : List (String × String)) : List Token :=
  bindingTokens first ++ more.flatMap fun binding => .symbol "," :: bindingTokens binding

theorem tokensOf_bindings {first : String × String} {more : List (String × String)}
    (h : ∀ binding ∈ first :: more, isIdentifier binding.1 = true ∧ isIdentifier binding.2 = true) :
    tokensOf (TypeImport.bindingPieces first ++
        more.flatMap fun binding => [.sign ",", .gap] ++ TypeImport.bindingPieces binding) =
      some (bindingsTokens first more) := by
  obtain ⟨hfirst, hmore⟩ := List.forall_mem_cons.mp h
  have hothers := tokensOf_flatMap _ (fun binding => [.sign ",", .gap] ++ TypeImport.bindingPieces binding) _ fun binding hmem => by
      rw [tokensOf_append, tokensOf_bindingPieces (hmore binding hmem)]
      rfl
  rw [tokensOf_append, tokensOf_bindingPieces hfirst, hothers]
  rfl

theorem pass_bindingsTokens (layout : Layout) (first : String × String)
    (more : List (String × String)) :
    ∀ token ∈ bindingsTokens first more, layout.pass token = some layout := by
  have hbinding (binding : String × String) :
      ∀ token ∈ bindingTokens binding, layout.pass token = some layout := by
    simp [bindingTokens, pass_wordToken]
    rfl
  refine List.forall_mem_append.mpr ⟨hbinding first, fun token htoken => ?_⟩
  obtain ⟨binding, -, hmem⟩ := List.mem_flatMap.mp htoken
  rcases List.mem_cons.mp hmem with rfl | hmem
  · rfl
  · exact hbinding binding token hmem

theorem map_bindingsTokens (first : String × String) (more : List (String × String)) (n : Nat) :
    (bindingsTokens first more).map (⟨·, n⟩ : Token → Lexeme) =
      Parser.bindingLexemes n (bindingWords first) ++ (more.map bindingWords).flatMap fun binding =>
        ⟨.symbol ",", n⟩ :: Parser.bindingLexemes n binding := by
  simp [bindingsTokens, bindingTokens, bindingWords, Parser.bindingLexemes, List.map_flatMap,
    List.flatMap_map]

variable (rules) (final) in
/-- An import on a line of its own is a sentence. -/
theorem isSentence_import (level : Nat) {n : Nat} (path : List String) {imported : List Lexeme}
    {imported? : Option (List ImportedName)} (finish : Nat) (hfinal : .keyword "from" ≠ final)
    (hlevel : level = 0 → path ≠ [])
    (himported : Parser.Yields Parser.importedNames imported imported? (· = .newline)) :
    Parser.IsSentence rules final
      (Parser.importLexemes level n (path.map wordToken) (imported ++ [⟨.newline, finish⟩]))
      ((Parser.importOf level (path.map wordToken) imported?).map ([·])) := by
  refine ⟨⟨⟨.keyword "from", n⟩, _, rfl, hfinal, by simp [Parser.endsStatement]⟩,
    fun next rest _ => ?_⟩
  have hregroup : Parser.importLexemes level n (path.map wordToken) (imported ++ [⟨.newline, finish⟩]) ++
      next :: rest = Parser.importLexemes level n (path.map wordToken) imported ++
        ⟨.newline, finish⟩ :: next :: rest := by
    simp [Parser.importLexemes]
  rw [hregroup, Parser.statement_import (fun h => by simpa using hlevel h)
    (List.forall_mem_map.mpr fun name _ => isWord_wordToken name) himported, Option.map_map]
  rfl

/-- A line that a type checker sees is an import. -/
theorem TypeImport.IsNamed.spells {entry : TypeImport} (h : entry.IsNamed)
    (hfinal : .keyword "from" ≠ final) (n : Nat) :
    Spells rules final (.inner n) [entry.line] [entry.statement?.map ([·])] (.inner (n + 1)) := by
  have htokens : tokensOf entry.line.pieces =
      some (importTokens entry.level entry.path ++ bindingsTokens entry.first entry.more) := by
    unfold TypeImport.line
    rw [List.append_assoc, tokensOf_append, tokensOf_importPieces h.path, tokensOf_bindings h.bindings]
    rfl
  have hread := readLine_of_pass [(4, 4)] 4 (n := n) (by
      simp [TypeImport.line, importPieces]) rfl htokens (List.forall_mem_append.mpr ⟨pass_importTokens _ _ _, pass_bindingsTokens _ _ _⟩)
  rw [List.map_append, map_bindingsTokens, List.append_assoc, map_importTokens] at hread
  have hsentence := isSentence_import rules _ _ entry.path (n := n) n hfinal (fun hlevel => absurd hlevel h.isRelative) (Parser.yields_bindings n (bindingWords entry.first) (entry.more.map bindingWords) (isWord_wordToken _))
  refine .sentence ?_ hsentence
  rw [readLines_singleton (show readLine (.inner n) entry.line = _ from hread), List.append_assoc]
  rfl

/-- Items in brackets, each with a comma behind it. -/
theorem readLines_itemLines {ι : Type} (pieces : ι → List Piece) (tokens : ι → List Token)
    {bracket : Char} {brackets : List Char} {indent : Nat} {items : List ι}
    (htokens : ∀ item ∈ items, tokensOf (pieces item) = some (tokens item))
    (hpass : ∀ item ∈ items, ∀ layout : Layout, ∀ token ∈ tokens item,
      layout.pass token = some layout) (n : Nat) :
    ∃ numbered : List (ι × Nat), numbered.map Prod.fst = items ∧
      readLines ⟨[], bracket :: brackets, n⟩ (items.map fun item => itemLine indent (pieces item)) =
        some (numbered.flatMap fun item =>
            (tokens item.1).map (⟨·, item.2⟩) ++ [⟨.symbol ",", item.2⟩],
          ⟨[], bracket :: brackets, n + items.length⟩) := by
  refine readLines_items (fun item n =>
    (tokens item).map (⟨·, n⟩) ++ [⟨.symbol ",", n⟩]) (fun item hmem n => ?_) n
  have hcomma : tokensOf [.sign ","] = some [.symbol ","] := rfl
  have hitem : tokensOf (pieces item ++ [.sign ","]) = some (tokens item ++ [.symbol ","]) := by
    rw [tokensOf_append, htokens item hmem, hcomma]
    rfl
  have hread := readLine_inside [] brackets bracket indent (n := n) (by simp) hitem (List.forall_mem_append.mpr ⟨hpass item hmem _, List.forall_mem_singleton.mpr rfl⟩)
  rwa [List.map_append] at hread

/-- The import from the runtime module is a sentence. -/
theorem spells_runtimeLines {path names : List String} (hpath : ∀ name ∈ path, isIdentifier name = true)
    (hne : path ≠ []) (hnames : ∀ name ∈ names, nameToken name.toList = some (.name name))
    (hsome : names ≠ []) (n : Nat) :
    Spells rules .finish (.plain n) (runtimeLines path names)
      [(runtimeStatement? path names).map ([·])] (.plain (n + names.length + 2)) := by
  obtain ⟨numbered, hnumbered, hitems⟩ := readLines_itemLines (fun name => [.word name]) (fun name => [.name name]) (fun name hmem => by simp [tokensOf, Piece.tokens?, hnames name hmem]) (fun name _ layout => List.forall_mem_singleton.mpr rfl) (n + 1)
  have hopening : tokensOf (importPieces 0 path ++ [.sign "("]) =
      some (importTokens 0 path ++ [.symbol "("]) := by
    rw [tokensOf_append, tokensOf_importPieces hpath]
    rfl
  have hentered : (Layout.plain n).enter (importTokens 0 path ++ [.symbol "("]) =
      some ((importTokens 0 path).map (⟨·, n⟩) ++ [⟨.symbol "(", n⟩], ⟨[], ['('], n⟩) := by
    rw [enter_append, enter_of_pass (pass_importTokens _ 0 path)]
    rfl
  have hfirst : readLine (.plain n) ⟨0, importPieces 0 path ++ [.sign "("]⟩ =
      some ((importTokens 0 path).map (⟨·, n⟩) ++ [⟨.symbol "(", n⟩], ⟨[], ['('], n + 1⟩) := by
    have hpieces : (importPieces 0 path ++ [Piece.sign "("]).isEmpty = false := by simp [importPieces]
    have hopen : (Layout.plain n).open 0 = some ([], .plain n) := rfl
    rw [readLine, hpieces, hopening, hopen]
    simp only [Bool.false_eq_true, if_false, Option.bind_eq_bind, Option.bind_some, hentered]
    simp [Layout.close, Layout.nextLine]
  have hlast (m : Nat) : readLines ⟨[], ['('], m⟩ [Line.mk 0 [.sign ")"]] =
      some ([⟨.symbol ")", m⟩, ⟨.newline, m⟩], .plain (m + 1)) := rfl
  have hsentence := isSentence_import rules .finish 0 _ (n := n) (n + 1 + names.length) (by simp) (fun _ => hne) (Parser.yields_bracketedNames numbered n (n + 1 + names.length) (by rintro rfl; exact hsome hnumbered.symm) (· = .newline))
  have hvalue : numbered.map (fun name => (⟨name.1, none⟩ : ImportedName)) =
      names.map (⟨·, none⟩) := by
    rw [← hnumbered, List.map_map]
    rfl
  rw [hvalue] at hsentence
  refine .sentence ?_ hsentence
  unfold runtimeLines
  rw [readLines_trans (readLines_trans (readLines_singleton hfirst) hitems) (hlast _),
    ← map_importTokens]
  simp only [List.append_assoc, List.cons_append, List.nil_append, List.map_cons, List.map_nil]
  rw [show n + names.length + 2 = n + 1 + names.length + 1 by omega]

/-- The line of a condition that type checkers see as true. -/
def conditionLine : Line := ⟨0, [.word "if", .gap, .word "TYPE_CHECKING", .sign ":"]⟩

variable (rules) (final) in
theorem spells_imports {imports : List TypeImport} (h : ∀ entry ∈ imports, entry.IsNamed)
    (hfinal : .keyword "from" ≠ final) (n : Nat) :
    Spells rules final (.inner n) (imports.map TypeImport.line)
      (imports.map fun entry => entry.statement?.map ([·])) (.inner (n + imports.length)) := by
  induction imports generalizing n with
  | nil => exact ⟨[], rfl, rfl, List.forall_mem_nil _⟩
  | cons entry imports ih =>
    obtain ⟨hentry, himports⟩ := List.forall_mem_cons.mp h
    have hall := (hentry.spells hfinal n).append (ih himports (n + 1))
    rw [Nat.add_assoc, Nat.add_comm 1] at hall
    exact hall

/-- Statements that are one each make as many. -/
theorem mapM_flatten {ι α : Type} (items : List ι) (f : ι → Option α) :
    ((items.map fun item => (f item).map ([·])).mapM id).map List.flatten = items.mapM f := by
  induction items with
  | nil => rfl
  | cons item items ih =>
    rw [List.map_cons, List.mapM_cons, List.mapM_cons, ← ih]
    cases f item with
    | none => rfl
    | some value => cases (items.map fun item => (f item).map ([·])).mapM id <;> rfl

/-- The imports that a type checker sees are a sentence. -/
theorem isSentence_types {imports : List TypeImport} (hne : imports ≠ [])
    (h : ∀ entry ∈ imports, entry.IsNamed) (n : Nat) :
    ∃ lexemes, readLines (.plain n) (conditionLine :: imports.map TypeImport.line) =
        some (lexemes, .inner (n + 1 + imports.length)) ∧
      ∀ dedent, Parser.IsSentence (Parser.unrolled (depth + 1)) .finish
        (lexemes ++ [⟨.dedent, dedent⟩]) ((typesStatement? imports).map ([·])) := by
  obtain ⟨first, more, rfl⟩ := List.exists_cons_of_ne_nil hne
  have hfirst : first.line.pieces ≠ [] := by simp [TypeImport.line, importPieces]
  obtain ⟨sentences, hread, hvalues, hsentences⟩ := Spells.indented hfirst rfl
    (spells_imports (Parser.unrolled depth) .dedent h (by simp) (n + 1))
  have hcondition : readLines (.plain n) [conditionLine] =
      some ([⟨.keyword "if", n⟩, ⟨.name "TYPE_CHECKING", n⟩, ⟨.symbol ":", n⟩, ⟨.newline, n⟩],
        .plain (n + 1)) := rfl
  refine ⟨_, readLines_trans hcondition hread, fun dedent => ⟨⟨⟨.keyword "if", n⟩, _, rfl, by simp,
    by simp [Parser.endsStatement]⟩, fun next rest hnext => ?_⟩⟩
  have hstatement := Parser.statement_if rest n "TYPE_CHECKING" (n + 1) dedent (by rintro rfl; cases hvalues) hsentences (fun sentence hmem hempty => ?_) hnext
  · have hmap : sentences.mapM Prod.snd =
        ((first :: more).map fun entry => entry.statement?.map ([·])).mapM id := by
      rw [← hvalues, List.mapM_map, Function.id_comp]
    rw [hmap] at hstatement
    unfold typesStatement?
    rw [← mapM_flatten]
    simp only [List.cons_append, List.append_assoc, List.nil_append] at hstatement ⊢
    rw [hstatement]
    cases ((first :: more).map fun entry => entry.statement?.map ([·])).mapM id <;> rfl
  · have hmem : sentence.2 ∈ (first :: more).map fun entry => entry.statement?.map ([·]) :=
      hvalues ▸ List.mem_map_of_mem hmem
    obtain ⟨entry, -, hentry⟩ := List.mem_map.mp hmem
    rw [hempty] at hentry
    cases hstatement : entry.statement? <;> simp [hstatement] at hentry

/-! ## The table of dependencies -/

/-- The token of a literal as a token of a line. -/
def literalLexemes (text : String) (n : Nat) : List Lexeme := [⟨literalToken text, n⟩]

variable (depth) in
theorem isPhrase_literal (text : String) (n : Nat) :
    Parser.IsPhrase (Parser.unrolled (depth + 1)) (literalLexemes text n) (literalExpr text) :=
  Parser.isPhrase_string n (Escape.decodeFrom_escapes text.toList)

/-- The tokens of a table that is opened on one line and closed on another, with its entries on
lines of their own. -/
def tableLexemes (numbered : List (Entry × Nat)) (start finish : Nat) : List Lexeme :=
  ⟨.symbol "\x7b", start⟩ :: ((numbered.flatMap fun entry =>
    Parser.itemLexemes (fun entry : Entry × Nat => literalLexemes entry.1.key entry.2)
      (fun entry => literalLexemes entry.1.type entry.2) Prod.snd entry ++ [⟨.symbol ",", entry.2⟩]) ++
    [⟨.symbol "\x7d", finish⟩])

variable (depth) in
theorem isPhrase_table (numbered : List (Entry × Nat)) (start finish : Nat) :
    Parser.IsPhrase (Parser.unrolled (depth + 2)) (tableLexemes numbered start finish)
      (tableExpr (numbered.map Prod.fst)) := by
  have hphrase := Parser.isPhrase_dict Prod.snd Prod.snd (depth + 1) numbered start finish (fun entry : Entry × Nat => isPhrase_literal _ entry.1.key entry.2) (fun entry => isPhrase_literal _ entry.1.type entry.2)
  unfold tableExpr
  rw [List.map_map]
  exact hphrase

theorem readLines_tableLines (table : List Entry) (n : Nat) :
    ∃ numbered start finish, numbered.map Prod.fst = table ∧
      readLines ⟨[], ['('], n⟩ (tableLines table) =
        some (tableLexemes numbered start finish ++ [⟨.symbol ",", finish⟩],
          ⟨[], ['('], finish + 1⟩) ∧ finish + 1 = n + (tableLines table).length := by
  unfold tableLines
  split
  · next h =>
    obtain rfl := List.isEmpty_iff.mp h
    exact ⟨[], n, n, rfl, rfl, rfl⟩
  · have htokens (entry : Entry) : tokensOf
        [.literal entry.key, .sign ":", .gap, .literal entry.type] =
          some [literalToken entry.key, .symbol ":", literalToken entry.type] := rfl
    have hpass (entry : Entry) (layout : Layout) :
        ∀ token ∈ [literalToken entry.key, .symbol ":", literalToken entry.type],
          layout.pass token = some layout := by
      have hcolon : layout.pass (.symbol ":") = some layout := rfl
      simp [pass_literal, hcolon]
    obtain ⟨numbered, hnumbered, hitems⟩ := readLines_itemLines _ _ (ι := Entry) (fun entry _ => htokens entry) (fun entry _ => hpass entry) (n + 1)
    have hopening : readLines ⟨[], ['('], n⟩ [⟨4, [.sign "\x7b"]⟩] =
        some ([⟨.symbol "\x7b", n⟩], ⟨[], ['\x7b', '('], n + 1⟩) := rfl
    have hclosing (m : Nat) : readLines ⟨[], ['\x7b', '('], m⟩ [itemLine 4 [.sign "\x7d"]] =
        some ([⟨.symbol "\x7d", m⟩, ⟨.symbol ",", m⟩], ⟨[], ['('], m + 1⟩) := rfl
    refine ⟨numbered, n, n + 1 + table.length, hnumbered, ?_, by simp; omega⟩
    rw [readLines_trans (readLines_trans hopening hitems) (hclosing _)]
    simp [tableLexemes, Parser.itemLexemes, literalLexemes]

/-- The arguments of the typed dictionary with their tokens and the lines their commas are on. -/
def dictionaryArguments (numbered : List (Entry × Nat)) (n start finish : Nat) :
    List (List Lexeme × Parser.Argument × Nat) :=
  [(literalLexemes "ContainerDependencies" (n + 1),
      .positional (literalExpr "ContainerDependencies"), n + 1),
    (tableLexemes numbered start finish, .positional (tableExpr (numbered.map Prod.fst)), finish),
    ([⟨.name "total", finish + 1⟩, ⟨.symbol "=", finish + 1⟩, ⟨.keyword "False", finish + 1⟩],
      .keyword "total" (.constant (.bool false)), finish + 1)]

variable (depth) in
/-- The typed dictionary is bound to what the call with its table gives. -/
theorem statement_dictionary (numbered : List (Entry × Nat)) (n start finish : Nat)
    (rest : List Lexeme) :
    Parser.statement (Parser.unrolled (depth + 10)) (⟨.name "ContainerDependencies", n⟩ ::
      ⟨.symbol "=", n⟩ :: (⟨.name "TypedDict", n⟩ :: (⟨.symbol "(", n⟩ ::
        ((dictionaryArguments numbered n start finish).flatMap fun argument =>
          argument.1 ++ [⟨.symbol ",", argument.2.2⟩]) ++ [⟨.symbol ")", finish + 2⟩]) ++
            ⟨.newline, finish + 2⟩ :: rest)) =
      some ([dictionaryStatement n (numbered.map Prod.fst)], rest) := by
  have hname := (isPhrase_literal (depth + 8) "ContainerDependencies" (n + 1))
  have htable := (isPhrase_table (depth + 7) numbered start finish)
  have htotal : Parser.Yields (Parser.argument (Parser.unrolled (depth + 9)))
      [⟨.name "total", finish + 1⟩, ⟨.symbol "=", finish + 1⟩, ⟨.keyword "False", finish + 1⟩]
      (some (.keyword "total" (.constant (.bool false)))) (· = .symbol ",") := by
    intro next rest hnext
    have hvalue : (Parser.unrolled (depth + 9)).expression
        (⟨.keyword "False", finish + 1⟩ :: next :: rest) =
          some (.constant (.bool false), next :: rest) :=
      Parser.expression_of_atom rfl rfl (by rw [hnext]; rfl)
    simp [Parser.argument, hvalue]
  have hitem : ∀ argument ∈ dictionaryArguments numbered n start finish,
      Parser.Yields (Parser.argument (Parser.unrolled (depth + 9))) argument.1 (some argument.2.1)
        (· = .symbol ",") :=
    List.forall_mem_cons.mpr ⟨fun next rest hnext => hname.argument next rest (by rw [hnext]; rfl),
      List.forall_mem_cons.mpr
        ⟨fun next rest hnext => htable.argument next rest (by rw [hnext]; rfl),
          List.forall_mem_singleton.mpr htotal⟩⟩
  have hstarts : ∀ argument ∈ dictionaryArguments numbered n start finish,
      ∃ ahead after, argument.1 = ahead :: after ∧ Parser.startsArgument ahead.token = true :=
    List.forall_mem_cons.mpr ⟨⟨_, _, rfl, rfl⟩, List.forall_mem_cons.mpr
      ⟨⟨_, _, rfl, rfl⟩, List.forall_mem_singleton.mpr ⟨_, _, rfl, rfl⟩⟩⟩
  have harguments := Parser.callArguments_trailing (⟨.newline, finish + 2⟩ :: rest) (fun argument => argument.2.2) (dictionaryArguments numbered n start finish) (finish + 2) (List.cons_ne_nil _ _) hstarts hitem
  have hcall := Parser.expression_call "TypedDict" n n (((dictionaryArguments numbered n start finish).flatMap fun argument =>
      argument.1 ++ [⟨.symbol ",", argument.2.2⟩]) ++ [⟨.symbol ")", finish + 2⟩]) (by
        rw [List.append_assoc, List.singleton_append, harguments]
        rfl) rfl
  exact Parser.statement_assign _ _ _ _ (by decide) rfl hcall

variable (depth) in
/-- The lines of the typed dictionary are a sentence and a note. -/
theorem spells_dictionaryLines (table : List Entry) (n : Nat) :
    Spells (Parser.unrolled (depth + 10)) .finish (.plain n) (dictionaryLines table)
      [some [dictionaryStatement n table], some [proseStatement tableNote.toList]]
      (.plain (n + (dictionaryLines table).length)) := by
  obtain ⟨numbered, start, finish, hnumbered, htable, hlength⟩ := readLines_tableLines table (n + 2)
  have hopening : readLines (.plain n) [⟨0, [.word "ContainerDependencies", .gap, .sign "=", .gap,
      .word "TypedDict", .sign "("]⟩] = some ([⟨.name "ContainerDependencies", n⟩, ⟨.symbol "=", n⟩,
        ⟨.name "TypedDict", n⟩, ⟨.symbol "(", n⟩], ⟨[], ['('], n + 1⟩) := rfl
  have hname : readLines ⟨[], ['('], n + 1⟩ [itemLine 4 [.literal "ContainerDependencies"]] =
      some (literalLexemes "ContainerDependencies" (n + 1) ++ [⟨.symbol ",", n + 1⟩],
        ⟨[], ['('], n + 2⟩) :=
    readLines_singleton (readLine_inside _ _ _ _ (by simp) rfl (List.forall_mem_cons.mpr ⟨pass_literal _ _, List.forall_mem_singleton.mpr rfl⟩))
  have hclosing : readLines ⟨[], ['('], finish + 1⟩
      [itemLine 4 [.word "total", .sign "=", .word "False"], ⟨0, [.sign ")"]⟩] =
        some ([⟨.name "total", finish + 1⟩, ⟨.symbol "=", finish + 1⟩,
          ⟨.keyword "False", finish + 1⟩, ⟨.symbol ",", finish + 1⟩, ⟨.symbol ")", finish + 2⟩,
          ⟨.newline, finish + 2⟩], .plain (finish + 3)) := rfl
  have hread := readLines_trans (readLines_trans (readLines_trans hopening hname) htable) hclosing
  have hsentence : Spells (Parser.unrolled (depth + 10)) .finish (.plain n) _
      [some [dictionaryStatement n table]] (.plain (finish + 3)) :=
    spells_one hread (by simp [Parser.endsStatement]) fun next rest _ => by
      have hstatement := statement_dictionary depth numbered n start finish (next :: rest)
      rw [hnumbered] at hstatement
      rw [← hstatement]
      refine congrArg (Parser.statement _) ?_
      simp [dictionaryArguments]
  have hnote := spells_prose .finish (depth + 9) tableNote.toList [] 0 (n := finish + 3) rfl (by decide) (by simp)
  have hcount : tableNote.toList.count '\n' = 0 := by decide
  rw [hcount] at hnote
  have hall := hsentence.append hnote
  have hend : finish + 3 + 0 + 1 = n + (dictionaryLines table).length := by
    simp [dictionaryLines]
    omega
  rw [hend] at hall
  exact hall

/-! ## The contributing modules and the bootstrap -/

/-- Literals on lines of their own. -/
theorem readLines_literals {ι : Type} (text : ι → String) (items : List ι) (bracket : Char) (n : Nat) :
    ∃ numbered : List (ι × Nat), numbered.map Prod.fst = items ∧
      readLines ⟨[], [bracket], n⟩ (items.map fun item => itemLine 4 [.literal (text item)]) =
        some (numbered.flatMap fun item =>
            literalLexemes (text item.1) item.2 ++ [⟨.symbol ",", item.2⟩],
          ⟨[], [bracket], n + items.length⟩) :=
  readLines_itemLines _ _ (ι := ι) (fun _ _ => rfl) (fun _ _ layout => List.forall_mem_singleton.mpr (pass_literal layout _)) n

variable (depth) in
/-- The list of contributing modules is a sentence. -/
theorem spells_moduleListLines (references : List Reference) (n : Nat) :
    Spells (Parser.unrolled (depth + 10)) .finish (.plain n) (moduleListLines references)
      [some [moduleListStatement references]] (.plain (n + references.length + 2)) := by
  obtain ⟨numbered, hnumbered, hitems⟩ := readLines_literals Reference.module references '(' (n + 1)
  have hopening : readLines (.plain n) [⟨0, [.word "CONTRIBUTING_MODULES", .sign ":", .gap,
      .word "tuple", .sign "[", .word "str", .sign ",", .gap, .dots 3, .sign "]", .gap, .sign "=",
      .gap, .sign "("]⟩] = some ([⟨.name "CONTRIBUTING_MODULES", n⟩, ⟨.symbol ":", n⟩,
        ⟨.name "tuple", n⟩, ⟨.symbol "[", n⟩, ⟨.name "str", n⟩, ⟨.symbol ",", n⟩,
        ⟨.symbol "...", n⟩, ⟨.symbol "]", n⟩, ⟨.symbol "=", n⟩, ⟨.symbol "(", n⟩],
        ⟨[], ['('], n + 1⟩) := rfl
  have hclosing : readLines ⟨[], ['('], n + 1 + references.length⟩ [⟨0, [.sign ")"]⟩] =
      some ([⟨.symbol ")", n + 1 + references.length⟩, ⟨.newline, n + 1 + references.length⟩],
        .plain (n + 1 + references.length + 1)) := rfl
  have htuple := Parser.isPhrase_tuple Prod.snd numbered n (n + 1 + references.length) (fun reference : Reference × Nat => isPhrase_literal (depth + 8) reference.1.module reference.2)
  have hread := readLines_trans (readLines_trans hopening hitems) hclosing
  rw [show n + 1 + references.length + 1 = n + references.length + 2 by omega] at hread
  refine spells_one hread (by simp [Parser.endsStatement]) fun next rest _ => ?_
  have hhint (first : Lexeme) (after : List Lexeme) : Parser.expression (Parser.unrolled (depth + 9))
      ([⟨.name "tuple", n⟩, ⟨.symbol "[", n⟩, ⟨.name "str", n⟩, ⟨.symbol ",", n⟩,
        ⟨.symbol "...", n⟩, ⟨.symbol "]", n⟩] ++ ⟨.symbol "=", n⟩ :: first :: after) =
      some (.subscript (.name "tuple") (.tuple [.name "str", .constant .ellipsis]),
        ⟨.symbol "=", n⟩ :: first :: after) := rfl
  have hvalue := htuple.yields ⟨.newline, n + 1 + references.length⟩ (next :: rest) rfl
  have hstatement := Parser.statement_annotated n "CONTRIBUTING_MODULES" n (by decide) rfl (hhint _ _) hvalue
  have hreferences : references.map (fun reference => literalExpr reference.module) =
      numbered.map fun reference => literalExpr reference.1.module := by
    rw [← hnumbered, List.map_map]
    rfl
  unfold moduleListStatement
  rw [hreferences, ← hstatement]
  refine congrArg (Parser.statement _) ?_
  simp

/-- The lines of the function that imports the contributing modules. -/
def bootstrapBody : List Line :=
  [⟨4, [.prose "Import every module registering items into ``container``.".toList]⟩,
    ⟨4, [.word "await", .gap, .word "initialize_modules", .sign "(", .word "container", .sign ",",
      .gap, .word "CONTRIBUTING_MODULES", .sign ",", .gap, .word "package", .sign "=",
      .word "__package__", .sign ")"]⟩]

set_option maxRecDepth 2000 in
theorem spells_bootstrapBody (n : Nat) :
    Spells (Parser.unrolled (depth + 9)) .dedent (.inner n) bootstrapBody
      [some [proseStatement "Import every module registering items into ``container``.".toList],
        some [.evaluate (.await (.call (n + 1) (.name "initialize_modules")
          [.name "container", .name "CONTRIBUTING_MODULES"]
          [(some "package", .name "__package__")]))]] (.inner (n + 2)) := by
  have hnote := spells_prose .dedent (depth + 8) ("Import every module registering items into ``container``.".toList) [(4, 4)] 4 (n := n) rfl (by decide) (by simp)
  have hcount : "Import every module registering items into ``container``.".toList.count '\n' = 0 := by
    decide
  rw [hcount] at hnote
  have hawait : Spells (Parser.unrolled (depth + 9)) .dedent (.inner (n + 1))
      [⟨4, [.word "await", .gap, .word "initialize_modules", .sign "(", .word "container",
        .sign ",", .gap, .word "CONTRIBUTING_MODULES", .sign ",", .gap, .word "package", .sign "=",
        .word "__package__", .sign ")"]⟩]
      [some [.evaluate (.await (.call (n + 1) (.name "initialize_modules")
        [.name "container", .name "CONTRIBUTING_MODULES"]
        [(some "package", .name "__package__")]))]] (.inner (n + 2)) :=
    spells_one rfl (by simp [Parser.endsStatement]) fun _ _ _ => rfl
  exact hnote.append hawait

/-- The line that the function starts with. -/
def bootstrapLine : Line :=
  ⟨0, [.word "async", .gap, .word "def", .gap, .word "init_container", .sign "(", .sign ")", .gap,
    .sign "->", .gap, .word "None", .sign ":"]⟩

theorem isSentence_bootstrap (n : Nat) :
    ∃ lexemes, readLines (.plain n) (bootstrapLine :: bootstrapBody) =
        some (lexemes, .inner (n + 3)) ∧
      ∀ dedent, Parser.IsSentence (Parser.unrolled (depth + 10)) .finish
        (lexemes ++ [⟨.dedent, dedent⟩]) (some [bootstrapStatement (n + 2)]) := by
  obtain ⟨sentences, hread, hvalues, hsentences⟩ := Spells.indented (by simp) rfl
    (spells_bootstrapBody (n + 1))
  have hopening : readLines (.plain n) [bootstrapLine] = some ([⟨.keyword "async", n⟩,
      ⟨.keyword "def", n⟩, ⟨.name "init_container", n⟩, ⟨.symbol "(", n⟩, ⟨.symbol ")", n⟩,
      ⟨.symbol "->", n⟩, ⟨.keyword "None", n⟩, ⟨.symbol ":", n⟩, ⟨.newline, n⟩],
      .plain (n + 1)) := rfl
  refine ⟨_, readLines_trans hopening hread, fun dedent => ⟨⟨⟨.keyword "async", n⟩, _, rfl, by simp,
    by simp [Parser.endsStatement]⟩, fun next rest _ => ?_⟩⟩
  have hmap : sentences.mapM Prod.snd = (sentences.map Prod.snd).mapM id := by
    rw [List.mapM_map, Function.id_comp]
  have hstatement := Parser.statement_asyncDef (next :: rest) n "init_container" (n + 1) dedent (by rintro rfl; cases hvalues) hsentences fun sentence hmem hempty => by
      have hmem : sentence.2 ∈ sentences.map Prod.snd := List.mem_map_of_mem hmem
      rw [hvalues, hempty] at hmem
      simp at hmem
  rw [hmap, hvalues] at hstatement
  simp only [List.cons_append, List.append_assoc, List.nil_append] at hstatement ⊢
  rw [hstatement]
  rfl

/-- The bootstrap and the list of public names are sentences. -/
theorem spells_bootstrapLines (n : Nat) :
    Spells (Parser.unrolled (depth + 10)) .finish (.plain n) bootstrapLines
      [some [bootstrapStatement (n + 4)],
        some [callStatement (n + 7) "ContainerInitializer" "container_initializer_factory"
          "init_container"], some [publicStatement]] (.plain (n + 20)) := by
  obtain ⟨numbered, hnumbered, hitems⟩ := readLines_literals id publicNames '[' (n + 10)
  obtain ⟨lexemes, hread, hfunction⟩ := isSentence_bootstrap (n + 2)
  have hopening : readLines (.plain (n + 9)) [⟨0, [.word "__all__", .gap, .sign "=", .gap,
      .sign "["]⟩] = some ([⟨.name "__all__", n + 9⟩, ⟨.symbol "=", n + 9⟩, ⟨.symbol "[", n + 9⟩],
        ⟨[], ['['], n + 10⟩) := rfl
  have hclosing : readLines ⟨[], ['['], n + 10 + 9⟩ [⟨0, [.sign "]"]⟩] =
      some ([⟨.symbol "]", n + 19⟩, ⟨.newline, n + 19⟩], .plain (n + 20)) := rfl
  have hlist := Parser.isPhrase_list Prod.snd numbered (n + 9) (n + 19) (fun name : String × Nat =>
      isPhrase_literal (depth + 8) name.1 name.2)
  have hpublic : Spells (Parser.unrolled (depth + 10)) .finish (.plain (n + 9)) _
      [some [publicStatement]] (.plain (n + 20)) :=
    spells_one (readLines_trans (readLines_trans hopening hitems) hclosing)
      (by simp [Parser.endsStatement]) fun next rest _ => by
        have hstatement := Parser.statement_assign _ (n + 9) "__all__" (n + 9) (by decide) rfl (hlist.yields ⟨.newline, n + 19⟩ (next :: rest) rfl)
        have hnames : publicNames.map literalExpr = numbered.map fun name => literalExpr name.1 := by
          rw [← hnumbered, List.map_map]
          rfl
        unfold publicStatement
        rw [hnames, ← hstatement]
        refine congrArg (Parser.statement _) ?_
        simp
  have hcall := spells_callLine depth "ContainerInitializer" "container_initializer_factory" "init_container" (n + 7) rfl rfl rfl (by decide)
  have hrest := hcall.append ((Spells.blank _).append hpublic)
  have hall := Spells.block 2 (by simp [callLine]) rfl hread (hfunction _) hrest
  exact (Spells.blank _).append ((Spells.blank _).append hall)

/-! ## The whole module -/

/-- The lines below the imports. -/
def bodyLines (contributing : List Contribution) : List Line :=
  dictionaryLines (entries (contributing.flatMap (·.file.exports))) ++ ([blankLine] ++
    (containerLines ++ ([blankLine] ++
      (moduleListLines (contributing.map (·.reference)) ++ bootstrapLines))))

/-- What stands below the imports starts at the left margin. -/
theorem exists_bodyLines (contributing : List Contribution) :
    ∃ line more, bodyLines contributing = line :: more ∧ line.pieces ≠ [] ∧ line.indent = 0 :=
  ⟨⟨0, [.word "ContainerDependencies", .gap, .sign "=", .gap, .word "TypedDict", .sign "("]⟩, _, rfl,
    by simp, rfl⟩

/-- The statements below the imports, which start on a line. -/
def bodyStatements (line : Nat) (contributing : List Contribution) : List Stmt :=
  let table := entries (contributing.flatMap (·.file.exports))
  let container := line + (dictionaryLines table).length + 1
  let bootstrap := container + 7 + contributing.length + 2
  [dictionaryStatement line table, proseStatement tableNote.toList]
    ++ containerStatements container
    ++ [moduleListStatement (contributing.map (·.reference)), bootstrapStatement (bootstrap + 4),
      callStatement (bootstrap + 7) "ContainerInitializer" "container_initializer_factory"
        "init_container", publicStatement]

theorem spells_bodyLines (contributing : List Contribution) (n : Nat) :
    ∃ m, Spells (Parser.unrolled (depth + 10)) .finish (.plain n) (bodyLines contributing)
      ((bodyStatements n contributing).map fun statement => some [statement]) (.plain m) := by
  have hdictionary := spells_dictionaryLines depth (entries (contributing.flatMap (·.file.exports))) n
  have hcontainer := spells_container depth (n + (dictionaryLines
    (entries (contributing.flatMap (·.file.exports)))).length + 1)
  have hlist := spells_moduleListLines depth (contributing.map (·.reference)) (n + (dictionaryLines (entries (contributing.flatMap (·.file.exports)))).length + 1 + 7)
  rw [List.length_map] at hlist
  exact ⟨_, hdictionary.append ((Spells.blank _).append (hcontainer.append ((Spells.blank _).append
    (hlist.append (spells_bootstrapLines _)))))⟩

/-- The statements of the type imports, if there are any. -/
def typesStatements? (imports : List TypeImport) : Option (List Stmt) :=
  if imports.isEmpty then some [] else (typesStatement? imports).map ([·])

/-- The line on which the typed dictionary starts. -/
def dictionaryLine (path : List String) (contributing : List Contribution) : Nat :=
  let table := entries (contributing.flatMap (·.file.exports))
  (summaryBody table.length contributing.length).count '\n' + (importsLines path contributing).length + 4

/-- The statements of a generated module, unless a reserved word is imported. -/
def program? (path : List String) (contributing : List Contribution) : Option Source.Module := do
  let table := entries (contributing.flatMap (·.file.exports))
  let imports := allTypeImports contributing
  let runtime ← runtimeStatement? path (importedNames contributing)
  let types ← typesStatements? imports
  return [proseStatement (summaryBody table.length contributing.length),
      importStatement "__future__" ["annotations"], importStatement "typing" (typingNames imports),
      runtime] ++ types ++ bodyStatements (dictionaryLine path contributing) contributing

theorem nameToken_importedNames {contributing : List Contribution} {name : String}
    (h : name ∈ importedNames contributing) : nameToken name.toList = some (.name name) := by
  have hall : ∀ name ∈ runtimeNames ++ ["ConfigItem", "ComponentItem", "FunctionItem"],
      nameToken name.toList = some (.name name) := by decide
  exact hall name (mem_importedNames h)

theorem importedNames_ne_nil (contributing : List Contribution) : importedNames contributing ≠ [] := by
  have hmem : "Container" ∈ importedNames contributing := by
    unfold importedNames
    rw [List.mem_mergeSort, List.mem_eraseDups]
    exact List.mem_append_left _ (by decide)
  exact List.ne_nil_of_mem hmem

/-- The lines before the import from the runtime module. -/
def frontLines (contributing : List Contribution) : List Line :=
  [summaryLine (entries (contributing.flatMap (·.file.exports))).length contributing.length, blankLine,
    plainImport "__future__" "annotations" [], blankLine,
    typingLine (allTypeImports contributing), blankLine]

/-- The line of the import from the runtime module. -/
def frontEnd (contributing : List Contribution) : Nat :=
  (summaryBody (entries (contributing.flatMap (·.file.exports))).length contributing.length).count
    '\n' + 7

/-- What the lines before the import from the runtime module are read as. -/
def frontValues (contributing : List Contribution) : List (Option (List Stmt)) :=
  [some [proseStatement (summaryBody (entries (contributing.flatMap (·.file.exports))).length
      contributing.length)], some [importStatement "__future__" ["annotations"]],
    some [importStatement "typing" (typingNames (allTypeImports contributing))]]

theorem spells_frontLines (contributing : List Contribution) :
    Spells (Parser.unrolled (depth + 10)) .finish .initial (frontLines contributing)
      (frontValues contributing) (.plain (frontEnd contributing)) := by
  have hprose := isProse_summaryBody (entries (contributing.flatMap (·.file.exports))).length
    contributing.length
  unfold frontLines frontValues frontEnd summaryLine
  generalize summaryBody _ contributing.length = body at hprose ⊢
  have hbackslash : '\\' ∉ body := fun hmem => absurd (hprose _ hmem) (by decide)
  have hsummary : Spells (Parser.unrolled (depth + 10)) .finish .initial [⟨0, [.prose body]⟩]
      [some [proseStatement body]] (.plain (1 + body.count '\n' + 1)) :=
    spells_prose _ _ _ _ _ rfl hbackslash (by simp)
  have hall := (hsummary.append (.blank _)).append ((spells_future _).append ((Spells.blank _).append
    ((spells_typing (allTypeImports contributing) _).append (.blank _))))
  have hend : body.count '\n' + 7 = 1 + body.count '\n' + 1 + 1 + 1 + 1 + 1 + 1 := by omega
  rw [hend]
  exact hall

/-- The lines up to the import from the runtime module. -/
def headLines (path : List String) (contributing : List Contribution) : List Line :=
  frontLines contributing ++ runtimeLines path (importedNames contributing)

/-- The line below the import from the runtime module. -/
def headEnd (contributing : List Contribution) : Nat :=
  frontEnd contributing + (importedNames contributing).length + 2

/-- What the lines up to the import from the runtime module are read as. -/
def headValues (path : List String) (contributing : List Contribution) :
    List (Option (List Stmt)) :=
  frontValues contributing ++ [(runtimeStatement? path (importedNames contributing)).map ([·])]

variable (depth) in
theorem spells_headLines {path : List String} (hpath : ∀ name ∈ path, isIdentifier name = true)
    (hne : path ≠ []) (contributing : List Contribution) :
    Spells (Parser.unrolled (depth + 10)) .finish .initial (headLines path contributing)
      (headValues path contributing) (.plain (headEnd contributing)) :=
  (spells_frontLines contributing).append (spells_runtimeLines hpath hne
    (fun _ => nameToken_importedNames) (importedNames_ne_nil contributing) _)

/-- Sentences that are read one by one make their statements in order. -/
theorem flatten_append (values more : List (Option (List Stmt))) :
    ((values ++ more).mapM id).map List.flatten =
      (((values.mapM id).map List.flatten).bind fun statements =>
        ((more.mapM id).map List.flatten).map (statements ++ ·)) := by
  rw [List.mapM_append]
  cases values.mapM id with
  | none => rfl
  | some values => cases more.mapM id <;> simp

theorem flatten_some (statements : List Stmt) :
    ((statements.map fun statement => some [statement]).mapM id).map List.flatten =
      some statements := by
  induction statements with
  | nil => rfl
  | cons statement statements ih =>
    rw [List.map_cons, ← List.singleton_append, flatten_append, ih]
    rfl

theorem flatten_program (path : List String) (contributing : List Contribution)
    (types : List (Option (List Stmt)))
    (h : (types.mapM id).map List.flatten = typesStatements? (allTypeImports contributing)) :
    ((headValues path contributing ++ (types ++ (bodyStatements (dictionaryLine path contributing)
      contributing).map fun statement => some [statement])).mapM id).map List.flatten =
      program? path contributing := by
  rw [flatten_append, flatten_append, h, flatten_some]
  unfold program? headValues
  dsimp only
  cases runtimeStatement? path (importedNames contributing) with
  | none => rfl
  | some runtime => cases typesStatements? (allTypeImports contributing) <;> rfl

theorem dictionaryLine_eq (path : List String) (contributing : List Contribution) :
    dictionaryLine path contributing =
      headEnd contributing + (typeLines (allTypeImports contributing)).length + 1 := by
  simp [dictionaryLine, importsLines, runtimeLines, headEnd, frontEnd]
  omega

/-- The lines of a module are read as its statements. -/
theorem spells_moduleLines {path : List String} (hpath : ∀ name ∈ path, isIdentifier name = true)
    (hne : path ≠ []) {contributing : List Contribution}
    (himports : ∀ entry ∈ allTypeImports contributing, entry.IsNamed) :
    ∃ values m, Spells (Parser.unrolled (depth + 10)) .finish .initial
        (moduleLines path contributing) values (.plain m) ∧
      (values.mapM id).map List.flatten = program? path contributing := by
  obtain ⟨m, hbody⟩ := spells_bodyLines contributing
    (dictionaryLine path contributing)
  have hhead := spells_headLines depth hpath hne contributing
  rw [dictionaryLine_eq] at hbody
  by_cases h : allTypeImports contributing = []
  · have hlines : moduleLines path contributing =
        headLines path contributing ++ ([blankLine] ++ bodyLines contributing) := by
      simp [moduleLines, importsLines, headLines, frontLines, bodyLines, h, typeLines]
    have hend : headEnd contributing + (typeLines (allTypeImports contributing)).length + 1 =
        headEnd contributing + 1 := by
      simp [h, typeLines]
    rw [hend] at hbody
    refine ⟨_, m, hlines ▸ hhead.append ((Spells.blank _).append hbody), ?_⟩
    rw [← flatten_program path contributing [] (by rw [h]; rfl), dictionaryLine_eq, hend]
  · obtain ⟨lexemes, hread, htypes⟩ := isSentence_types h himports
      (headEnd contributing + 1)
    have hempty : (allTypeImports contributing).isEmpty = false := by simpa using h
    have hlines : moduleLines path contributing = headLines path contributing ++ ([blankLine] ++
        (conditionLine :: (allTypeImports contributing).map TypeImport.line ++
          (List.replicate 1 blankLine ++ bodyLines contributing))) := by
      simp [moduleLines, importsLines, headLines, frontLines, bodyLines, hempty, typeLines,
        conditionLine]
    have hend : headEnd contributing + (typeLines (allTypeImports contributing)).length + 1 =
        headEnd contributing + 1 + 1 + (allTypeImports contributing).length + 1 := by
      simp [typeLines, hempty]
      omega
    rw [hend] at hbody
    obtain ⟨line, more, hbodyLines, hpieces, hindent⟩ := exists_bodyLines contributing
    rw [hbodyLines] at hbody hlines
    have hall := Spells.block _ hpieces hindent hread (htypes _) hbody
    refine ⟨_, m, hlines ▸ hhead.append ((Spells.blank _).append hall), ?_⟩
    have htypesValue : ([(typesStatement? (allTypeImports contributing)).map ([·])].mapM id).map
        List.flatten = typesStatements? (allTypeImports contributing) := by
      unfold typesStatements?
      rw [hempty]
      cases typesStatement? (allTypeImports contributing) <;> rfl
    rw [← flatten_program path contributing _ htypesValue, dictionaryLine_eq, hend]
    rfl

end Registrar.Catalogue
