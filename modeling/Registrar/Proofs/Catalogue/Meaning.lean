import Registrar.Proofs.Catalogue.Program
import Registrar.Proofs.Catalogue.Tidy

/-! # What a generated text is read as

A generated text is read as the module that its blocks make up, and so is its canonical form. It is
no module if the runtime module has a name that no import can spell, or if a reserved word is
imported.
-/

namespace Registrar

namespace RuntimeName

/-- The words of a dotted name. -/
def words (name : String) : List String := (ModuleName.parts name.toList).map String.ofList

theorem intercalate_words (name : String) : ".".intercalate (words name) = name := by
  have hparts : (words name).map String.toList = ModuleName.parts name.toList := by
    simp [words, Function.comp_def]
  have hletters := ModuleName.toList_dotted (words name)
  rw [hparts, ModuleName.ofParts_parts] at hletters
  exact String.toList_injective hletters

theorem words_ne_nil (name : String) : words name ≠ [] := by
  simpa [words] using ModuleName.parts_ne_nil name.toList

theorem words_usual : words usual = ["uiwire"] := by decide +kernel

/-- Whether letters are a word of an accepted name. -/
def isPart : List Char → Bool
  | [] => false
  | c :: more => (isAscii c && (c.isAlpha || c == '_')) && more.all isWordChar

/-- A name is dotted if each of its words is one. -/
theorem isDotted_eq (letters : List Char) :
    isDotted true letters = (ModuleName.parts letters).all isPart ∧
      isDotted false letters = (((ModuleName.parts letters).headD []).all isWordChar &&
        (ModuleName.parts letters).tail.all isPart) := by
  induction letters with
  | nil => decide
  | cons c letters ih =>
    obtain ⟨hfresh, hinside⟩ := ih
    obtain ⟨part, more, hparts⟩ := List.exists_cons_of_ne_nil (ModuleName.parts_ne_nil letters)
    rw [hparts] at hfresh hinside
    by_cases hpoint : c = '.'
    · subst hpoint
      have hnone : (isAscii '.' && ('.'.isAlpha || '.' == '_')) = false := by decide
      simp [isDotted, ModuleName.parts, hfresh, hparts, isPart]
    · simp [isDotted, ModuleName.parts, hinside, hparts, isPart, hpoint, Bool.and_assoc]

theorem mayContinueName_of_isWordChar {c : Char} (h : isWordChar c = true) :
    Source.Number.mayContinueName c = true := by
  unfold isWordChar at h
  unfold Source.Number.mayContinueName
  split at h <;> simp_all

theorem isWordText_of_isPart {part : List Char} (h : isPart part = true) :
    Catalogue.isWordText (String.ofList part) = true := by
  unfold isPart at h
  split at h
  · cases h
  · next c more =>
    obtain ⟨hfirst, hmore⟩ := Bool.and_eq_true_iff.mp h
    obtain ⟨hascii, hletter⟩ := Bool.and_eq_true_iff.mp hfirst
    have hstart : isIdentifierStart c = true := by
      unfold isIdentifierStart
      rw [if_pos hascii, hletter]
    obtain ⟨hc, hdigit⟩ := Catalogue.mayContinueName_of_isIdentifierStart hstart
    have hall : more.all Source.Number.mayContinueName = true := List.all_eq_true.mpr fun d hd =>
      mayContinueName_of_isWordChar (List.all_eq_true.mp hmore d hd)
    unfold Catalogue.isWordText
    rw [String.toList_ofList]
    simp [hc, hall, Source.Number.startsWithDigit, hdigit]

/-- The words of an accepted name are spelled as words, though they may be no identifiers. -/
theorem isWordText_words {name : String} (h : isDotted true name.toList = true) :
    ∀ word ∈ words name, Catalogue.isWordText word = true := by
  rw [(isDotted_eq name.toList).1, List.all_eq_true] at h
  exact List.forall_mem_map.mpr fun part hpart => isWordText_of_isPart (h part hpart)

/-- A name that is accepted is dotted, perhaps but for a newline at its end. -/
theorem accepts_cases {name : String} (h : accepts name = true) :
    isDotted true name.toList = true ∨
      ∃ base : String, name = base ++ "\n" ∧ isDotted true base.toList = true := by
  obtain hdotted | hnewline := Bool.or_eq_true_iff.mp h
  · exact .inl hdotted
  · obtain ⟨hlast, hdotted⟩ := Bool.and_eq_true_iff.mp hnewline
    obtain ⟨front, hfront⟩ := List.getLast?_eq_some_iff.mp (eq_of_beq hlast)
    rw [hfront, List.dropLast_concat] at hdotted
    refine .inr ⟨String.ofList front, String.toList_injective ?_, ?_⟩
    · rw [hfront, String.toList_append, String.toList_ofList]
      exact congrArg (front ++ ·) (show ['\n'] = "\n".toList by decide)
    · rwa [String.toList_ofList]

end RuntimeName

namespace Catalogue

open Source Source.Lexer

variable {path : List String} {contributing : List Contribution}

/-! ## Lines of the text -/

/-- The text of a module ends its last line with a bracket. -/
theorem endLine_text {runtimeModule : String} (hruntime : ".".intercalate path = runtimeModule)
    (himports : ∀ entry ∈ allTypeImports contributing, entry.IsNamed) :
    endLine (text runtimeModule contributing).toList = spellLines (moduleLines path contributing) := by
  have hlines := toList_text_eq hruntime fun entry hentry => (himports entry hentry).closed_text
  have hbracket : spellLines [⟨0, [.sign "]"]⟩] = [']'] ++ ['\n'] := by decide
  have hsplit : ∃ front, moduleLines path contributing = front ++ [⟨0, [.sign "]"]⟩] :=
    ⟨_, (List.append_assoc _ _ _).symm⟩
  obtain ⟨front, hfront⟩ := hsplit
  have hlast : (text runtimeModule contributing).toList = spellLines front ++ [']'] := by
    rw [hfront, spellLines_append, hbracket, ← List.append_assoc] at hlines
    exact List.append_cancel_right hlines
  rw [← hlines]
  unfold endLine
  rw [if_neg]
  rw [hlast, List.getLast?_concat]
  decide

/-- Characters that spell the lines of a module are read as it. -/
theorem parseModule?_of_moduleLines {letters : List Char}
    (hletters : endLine letters = spellLines (moduleLines path contributing))
    (hpath : ∀ name ∈ path, isIdentifier name = true) (hne : path ≠ [])
    (himports : ∀ entry ∈ allTypeImports contributing, entry.IsNamed) :
    parseModule? letters = program? path contributing := by
  obtain ⟨values, m, hspells, hvalues⟩ :=
    spells_moduleLines hpath hne himports
  rw [← hvalues]
  exact parseModule?_of_spells hletters
    (isSpelled_moduleLines (fun name hname => isWordText_of_isIdentifier (hpath name hname)) himports)
    hspells

/-! ## Names that no import can spell -/

theorem isIdentifier_of_isAscii {word : String} (h : isWordText word = true)
    (hascii : word.toList.all isAscii = true) : isIdentifier word = true := by
  simp only [isWordText, Bool.and_eq_true, Bool.not_eq_true'] at h
  obtain ⟨⟨hletters, hne⟩, hdigit⟩ := h
  exact isIdentifierChars_of_isAscii (by simpa using hne) hletters hdigit hascii

theorem tokensOf_eq_none {piece : Piece} {pieces : List Piece} (hmem : piece ∈ pieces)
    (h : piece.tokens? = none) : tokensOf pieces = none := by
  induction pieces with
  | nil => exact absurd hmem List.not_mem_nil
  | cons first pieces ih =>
    rw [tokensOf]
    rcases List.mem_cons.mp hmem with rfl | hmem
    · rw [h]
      rfl
    · rw [ih hmem]
      cases first.tokens? <;> rfl

theorem mem_dottedPieces {name : String} (h : name ∈ path) : .word name ∈ dottedPieces path := by
  cases path with
  | nil => exact absurd h List.not_mem_nil
  | cons first path =>
    rcases List.mem_cons.mp h with rfl | h
    · exact List.mem_cons_self
    · exact List.mem_cons_of_mem _ (List.mem_flatMap.mpr ⟨name, h, by simp⟩)

/-- Names one of which is a word but no identifier are no tokens. -/
theorem tokensOf_dottedPieces_eq_none {name : String} (hpath : ∀ name ∈ path, isWordText name = true)
    (hmem : name ∈ path) (hname : isIdentifier name = false) {pieces : List Piece}
    (hpieces : dottedPieces path ⊆ pieces) : tokensOf pieces = none := by
  refine tokensOf_eq_none (hpieces (mem_dottedPieces hmem)) ?_
  have hword := nameToken_eq fun hascii => isIdentifier_of_isAscii (hpath name hmem) hascii
  rw [Piece.tokens?, hword, hname]
  rfl

/-- The lines below the opening of the import from the runtime module. -/
def restLines (contributing : List Contribution) : List Line :=
  (importedNames contributing).map (fun name => itemLine 4 [.word name]) ++ [⟨0, [.sign ")"]⟩]
    ++ typeLines (allTypeImports contributing) ++ [blankLine] ++ bodyLines contributing

theorem moduleLines_eq (path : List String) (contributing : List Contribution) :
    moduleLines path contributing = frontLines contributing ++
      (⟨0, importPieces 0 path ++ [.sign "("]⟩ :: restLines contributing) := by
  simp [moduleLines, importsLines, runtimeLines, frontLines, restLines, bodyLines]

/-- A text that imports from a name with a word that is no identifier is no module. -/
theorem parseModule?_of_word {letters : List Char} {name : String}
    (hletters : endLine letters = spellLines (moduleLines path contributing))
    (hpath : ∀ name ∈ path, isWordText name = true)
    (himports : ∀ entry ∈ allTypeImports contributing, entry.IsNamed)
    (hmem : name ∈ path) (hname : isIdentifier name = false) : parseModule? letters = none := by
  have hnone : readLines .initial (moduleLines path contributing) = none := by
    refine readLines_eq_none (⟨0, importPieces 0 path ++ [.sign "("]⟩) (by simp) (tokensOf_dottedPieces_eq_none hpath hmem hname ?_) ?_ _
    · intro piece hpiece
      simp [importPieces, hpiece]
    · rw [moduleLines_eq]
      simp
  unfold parseModule?
  rw [tokens?_eq_readLines hletters (isSpelled_moduleLines hpath himports), hnone]
  split <;> rfl

/-- The opening of the import from a module whose name ends in a newline. -/
def brokenOpening (path : List String) : List Line :=
  [⟨0, [.word "from", .gap, .dots 0] ++ dottedPieces path⟩, ⟨1, [.word "import", .gap, .sign "("]⟩]

theorem isSpelled_brokenOpening (hpath : ∀ name ∈ path, isWordText name = true) (hne : path ≠ []) :
    ∀ line ∈ brokenOpening path, line.isSpelled = true := by
  have hsecond : (Line.mk 1 [.word "import", .gap, .sign "("]).isSpelled = true := by decide
  have hfirst : keepApart '\n' ([.word "from", .gap, .dots 0] ++ dottedPieces path) = true := by
    have hword : (Piece.word "from").endsBefore ' ' = true :=
      endsBefore_word (by decide) (by decide)
    obtain ⟨name, more, rfl⟩ := List.exists_cons_of_ne_nil hne
    obtain ⟨c, rest, htext, hc, hdigit⟩ := head_of_isWordText (hpath name List.mem_cons_self)
    have hhead : (spell (dottedPieces (name :: more))).headD '\n' = c := by
      rw [dottedPieces, spell_cons, Piece.letters, htext]
      rfl
    rw [keepApart_append, keepApart_dottedPieces _ hpath (by decide), hhead, Bool.and_true]
    simp [keepApart, spell, Piece.letters, Piece.endsBefore] at hword ⊢
    exact ⟨hword, hc, hdigit⟩
  exact List.forall_mem_cons.mpr ⟨Line.isSpelled_of_keepApart rfl hfirst,
    List.forall_mem_singleton.mpr hsecond⟩

/-- The first line of the opening is read as an import without its second word. -/
theorem readLines_brokenOpening (hpath : ∀ name ∈ path, isIdentifier name = true) (n : Nat)
    {rest : List Line} {lexemes : List Lexeme} {last : Layout}
    (h : readLines (.plain n) (brokenOpening path ++ rest) = some (lexemes, last)) :
    ∃ others, lexemes = ⟨.keyword "from", n⟩ ::
      (Parser.dottedLexemes n (path.map wordToken) ++ ⟨.newline, n⟩ :: others) := by
  have htokens : tokensOf ([.word "from", .gap, .dots 0] ++ dottedPieces path) =
      some (.keyword "from" :: dottedTokens path) := by
    have hfrom : tokensOf [.word "from", .gap, .dots 0] = some [.keyword "from"] := by decide
    rw [tokensOf_append, hfrom, tokensOf_dottedPieces hpath]
    rfl
  have hline := readLine_of_pass [] 0 (n := n) (by simp) rfl htokens (List.forall_mem_cons.mpr ⟨rfl, pass_dottedTokens _ path⟩)
  unfold brokenOpening Layout.plain at h
  rw [List.cons_append, readLines, hline, List.map_cons, map_dottedTokens] at h
  simp only [Option.bind_eq_bind, Option.bind_some] at h
  obtain ⟨read, -, hread⟩ := Option.bind_eq_some_iff.mp h
  obtain ⟨rfl, -⟩ := Prod.mk.inj (Option.some.inj hread)
  exact ⟨read.1, by simp⟩

/-- A text that imports from a name with a newline at its end is no module. -/
theorem parseModule?_of_newline {letters : List Char}
    (hletters : endLine letters = spellLines (frontLines contributing ++
      (brokenOpening path ++ restLines contributing)))
    (hpath : ∀ name ∈ path, isWordText name = true) (hne : path ≠ [])
    (himports : ∀ entry ∈ allTypeImports contributing, entry.IsNamed) :
    parseModule? letters = none := by
  have hothers := isSpelled_moduleLines
    (List.forall_mem_nil _) himports
  rw [moduleLines_eq, List.forall_mem_append, List.forall_mem_cons] at hothers
  obtain ⟨hfront, -, hrest⟩ := hothers
  refine parseModule?_eq_none hletters ?_ (spells_frontLines
    contributing) fun lexemes last hread => ?_
  · exact List.forall_mem_append.mpr ⟨hfront, List.forall_mem_append.mpr
      ⟨isSpelled_brokenOpening hpath hne, hrest⟩⟩
  have hnames : ∀ name ∈ path, isIdentifier name = true := by
    intro name hmem
    rw [← Bool.not_eq_false]
    intro hname
    rw [readLines_eq_none (⟨0, [.word "from", .gap, .dots 0] ++ dottedPieces path⟩) (by simp) (tokensOf_dottedPieces_eq_none hpath hmem hname fun _ hpiece => by simp [hpiece]) (by simp [brokenOpening])] at hread
    cases hread
  obtain ⟨others, rfl⟩ := readLines_brokenOpening hnames _ hread
  refine ⟨_, _, rfl, by simp, by simp [Parser.endsStatement], fun rest => ?_⟩
  have hnone := Parser.statement_unfinishedImport (Parser.unrolled (2 * letters.length + 10)) (others ++ rest) (frontEnd contributing) (frontEnd contributing) (by simpa using hne) (List.forall_mem_map.mpr fun name _ => isWord_wordToken name)
  simpa using hnone

/-- The text for a name with a newline at its end breaks the line of its import. -/
theorem spellLines_brokenOpening {runtimeModule : String} {broken : List String}
    (hbroken : ".".intercalate broken = runtimeModule ++ "\n")
    (hpath : ".".intercalate path = runtimeModule) (contributing : List Contribution) :
    spellLines (moduleLines broken contributing) = spellLines (frontLines contributing ++
      (brokenOpening path ++ restLines contributing)) := by
  have hopening : spellLines [⟨0, importPieces 0 broken ++ [.sign "("]⟩] =
      spellLines (brokenOpening path) := by
    have hfrom : "from ".toList = "from".toList ++ [' '] := by decide
    have himport : " import ".toList = ' ' :: "import".toList ++ [' '] := by decide
    have hnewline : "\n".toList = ['\n'] := by decide
    simp only [spellLines, brokenOpening, List.flatMap_cons, List.flatMap_nil, Line.letters,
      spell_append, spell_importPieces, spell_dottedPieces, Reference.textOf, hbroken, hpath,
      String.toList_append, String.toList_ofList, hfrom, himport, hnewline]
    simp [spell, Piece.letters]
  rw [moduleLines_eq, ← List.singleton_append]
  simp only [spellLines_append, hopening]

/-! ## The whole text -/

/-- What a text is read as, given the words of the runtime module's name: no module if one of them is
no identifier. -/
def meaning? (words : List String) (contributing : List Contribution) : Option Source.Module :=
  if words.all isIdentifier then program? words contributing else none

/-- A text of accepted names is read as its blocks make up. -/
theorem parseModule?_text {runtimeModule : String} (haccepts : RuntimeName.accepts runtimeModule = true)
    (himports : ∀ entry ∈ allTypeImports contributing, entry.IsNamed) :
    parseModule? (text runtimeModule contributing).toList =
      meaning? (RuntimeName.words runtimeModule) contributing := by
  have hletters := endLine_text (RuntimeName.intercalate_words runtimeModule) himports
  unfold meaning?
  split
  · next hwords =>
    exact parseModule?_of_moduleLines hletters (List.all_eq_true.mp hwords)
      (RuntimeName.words_ne_nil runtimeModule) himports
  · next hwords =>
    obtain hdotted | ⟨base, hbase, hdotted⟩ := RuntimeName.accepts_cases haccepts
    · obtain ⟨word, hmem, hword⟩ : ∃ word ∈ RuntimeName.words runtimeModule,
          isIdentifier word = false := by simpa using hwords
      exact parseModule?_of_word hletters (RuntimeName.isWordText_words hdotted) himports hmem hword
    · rw [spellLines_brokenOpening ((RuntimeName.intercalate_words _).trans hbase)
        (RuntimeName.intercalate_words base)] at hletters
      exact parseModule?_of_newline hletters (RuntimeName.isWordText_words hdotted)
        (RuntimeName.words_ne_nil base) himports

/-- A text that is read as a module is canonical but for the newline at its end. -/
theorem ofSource?_text {runtimeModule : String} (haccepts : RuntimeName.accepts runtimeModule = true)
    (himports : ∀ entry ∈ allTypeImports contributing, entry.IsNamed) :
    Canonical.ofSource? (text runtimeModule contributing) =
      (meaning? (RuntimeName.words runtimeModule) contributing).map fun _ =>
        text runtimeModule contributing ++ "\n" := by
  unfold Canonical.ofSource?
  rw [parseModule?_text haccepts himports]
  unfold meaning?
  split
  · next hwords =>
    have htidy := tidy_moduleTexts (List.all_eq_true.mp hwords) himports
    have hnormal : String.ofList (Canonical.normalize (text runtimeModule contributing).toList) =
        text runtimeModule contributing ++ "\n" := by
      have hnewline : "\n".toList = ['\n'] := by decide
      apply String.toList_injective
      rw [toList_text_eq_join (RuntimeName.intercalate_words runtimeModule)
        (List.all_eq_true.mp hwords) himports, htidy.normalize_eq, String.toList_ofList,
        String.toList_append, hnewline, ← toList_text_eq_join
          (RuntimeName.intercalate_words runtimeModule) (List.all_eq_true.mp hwords) himports]
    rw [hnormal]
  · rw [Option.map_none, Option.map_none]

/-- The canonical text is read as the text is. -/
theorem parseModule?_text_newline {runtimeModule : String}
    (hwords : ∀ word ∈ RuntimeName.words runtimeModule, isIdentifier word = true)
    (himports : ∀ entry ∈ allTypeImports contributing, entry.IsNamed) :
    parseModule? (text runtimeModule contributing ++ "\n").toList =
      program? (RuntimeName.words runtimeModule) contributing := by
  refine parseModule?_of_moduleLines ?_ hwords (RuntimeName.words_ne_nil runtimeModule) himports
  have hnewline : "\n".toList = ['\n'] := by decide
  rw [← toList_text_eq (RuntimeName.intercalate_words runtimeModule) fun entry hentry =>
    (himports entry hentry).closed_text, String.toList_append, hnewline]
  unfold endLine
  rw [if_pos (by rw [List.getLast?_concat]; rfl)]

variable {runtimeModule source : String} {directory : List String} {files : List FileExports}

/-- What a rendering gives once the references are known. -/
theorem render_of_contributions (haccepts : RuntimeName.accepts runtimeModule = true)
    (hcontributing : contributions directory files = .ok contributing)
    (himports : ∀ entry ∈ allTypeImports contributing, entry.IsNamed) :
    (render runtimeModule directory files).2 =
      match meaning? (RuntimeName.words runtimeModule) contributing with
      | some _ => .ok (text runtimeModule contributing ++ "\n")
      | none => .error .malformed := by
  unfold render
  rw [haccepts, hcontributing]
  simp only [Bool.not_true, Bool.false_eq_true, if_false]
  rw [ofSource?_text haccepts himports]
  cases meaning? (RuntimeName.words runtimeModule) contributing <;> rfl

/-- The text that is rendered says what its blocks make up. -/
theorem parseModule?_of_render (h : (render runtimeModule directory files).2 = .ok source)
    (hcontributing : contributions directory files = .ok contributing)
    (himports : ∀ entry ∈ allTypeImports contributing, entry.IsNamed) :
    ∃ program, program? (RuntimeName.words runtimeModule) contributing = some program ∧
      parseModule? source.toList = some program := by
  have haccepts : RuntimeName.accepts runtimeModule = true := by
    rw [← Bool.not_eq_false]
    intro hrejected
    rw [render, hrejected, Bool.not_false, if_pos rfl] at h
    cases h
  rw [render_of_contributions haccepts hcontributing himports] at h
  unfold meaning? at h
  split at h
  · next program hmeaning =>
    split at hmeaning
    · next hwords =>
      obtain rfl := Except.ok.inj h
      exact ⟨program, hmeaning, (parseModule?_text_newline (List.all_eq_true.mp hwords) himports).trans
        hmeaning⟩
    · cases hmeaning
  · cases h

end Catalogue

end Registrar
