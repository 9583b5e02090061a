import Registrar.Proofs.Catalogue.Spelled

/-! # The pieces of the generated lines keep apart

Every line of a generated module is well spelled if its names are: no piece runs into the next one.
-/

namespace Registrar

namespace Source

theorem keepApart_append (next : Char) (pieces more : List Piece) :
    keepApart next (pieces ++ more) =
      (keepApart ((spell more).headD next) pieces && keepApart next more) := by
  induction pieces with
  | nil => simp [keepApart]
  | cons piece pieces ih =>
    have hhead : (spell (pieces ++ more)).headD next =
        (spell pieces).headD ((spell more).headD next) := by
      rw [Catalogue.spell_append]
      cases spell pieces <;> rfl
    rw [List.cons_append, keepApart, keepApart, ih, hhead, Bool.and_assoc]

/-- Items one behind the other keep apart if each ends before what the others start with. -/
theorem keepApart_flatMap {ι : Type} {items : List ι} (pieces : ι → List Piece) (next : Char)
    (ends : Char → Bool) (hnext : ends next = true)
    (hitem : ∀ item ∈ items, ∀ next, ends next = true → keepApart next (pieces item) = true ∧
      ends ((spell (pieces item)).headD next) = true) :
    keepApart next (items.flatMap pieces) = true ∧
      ends ((spell (items.flatMap pieces)).headD next) = true := by
  induction items with
  | nil => exact ⟨rfl, hnext⟩
  | cons item items ih =>
    obtain ⟨hfirst, hitems⟩ := List.forall_mem_cons.mp hitem
    obtain ⟨hmore, hhead⟩ := ih hitems
    obtain ⟨hpieces, hends⟩ := hfirst _ hhead
    rw [List.flatMap_cons, keepApart_append, hpieces, hmore, Catalogue.spell_append]
    refine ⟨rfl, ?_⟩
    cases hspell : spell (pieces item) <;> simpa [hspell] using hends

/-- Pieces that a line can start with. -/
def Piece.heads : Piece → Bool
  | gap | dots _ => false
  | _ => true

/-- A line is well spelled if it starts with a piece that can head it and its pieces keep apart. -/
theorem Line.isSpelled_of_keepApart {indent : Nat} {piece : Piece} {pieces : List Piece}
    (hheads : piece.heads = true) (h : keepApart '\n' (piece :: pieces) = true) :
    (Line.mk indent (piece :: pieces)).isSpelled = true := by
  obtain ⟨hpiece, -⟩ := Bool.and_eq_true_iff.mp h
  obtain ⟨c, more, hletters, hopens⟩ : ∃ c more, piece.letters = c :: more ∧
      Lexer.opensToken c = true := by
    cases piece with
    | gap => cases hheads
    | word text =>
      simp only [Piece.endsBefore, Piece.wordEndsBefore, Bool.and_eq_true, Bool.not_eq_true'] at hpiece
      obtain ⟨c, more, htext⟩ := List.exists_cons_of_ne_nil
        (show text.toList ≠ [] by simpa using hpiece.1.1.1.1.2)
      exact ⟨c, more, htext, Lexer.opensToken_of_mayContinueName
        (List.all_eq_true.mp hpiece.1.1.1.1.1 c (htext ▸ List.mem_cons_self))⟩
    | dots count => cases hheads
    | sign text =>
      obtain ⟨c, more, htext, hc, -⟩ := Lexer.head_of_signEndsBefore hpiece
      exact ⟨c, more, htext, Lexer.opensToken_of_mem c hc⟩
    | literal text =>
      exact ⟨'"', _, by rw [Piece.letters, Json.literal, Json.literalChars, String.toList_ofList]; rfl,
        by decide⟩
    | prose body => exact ⟨'"', _, rfl, by decide⟩
  unfold Line.isSpelled
  dsimp only
  rw [h, spell_cons, hletters]
  simpa [Lexer.opensToken] using hopens

end Source

namespace Catalogue

open Source

/-- Whether a text is spelled as a word. -/
def isWordText (text : String) : Bool :=
  text.toList.all Number.mayContinueName && !text.isEmpty && !Number.startsWithDigit text.toList

/-- Characters that end a word. -/
def endsWord (next : Char) : Bool := !Number.mayContinueName next && next != '"' && next != '\''

theorem endsBefore_word {text : String} {next : Char} (h : isWordText text = true)
    (hnext : endsWord next = true) : (Piece.word text).endsBefore next = true := by
  simp only [isWordText, endsWord, Bool.and_eq_true] at h hnext
  obtain ⟨⟨hletters, hne⟩, hdigit⟩ := h
  obtain ⟨⟨hname, hmark⟩, hquote⟩ := hnext
  have hempty : (!text.toList.isEmpty) = true := by simpa using hne
  simp only [Piece.endsBefore, Piece.wordEndsBefore, hletters, hempty, hdigit, hname, hmark, hquote,
    Bool.and_self]

theorem head_of_isWordText {text : String} (h : isWordText text = true) :
    ∃ c more, text.toList = c :: more ∧ c ≠ '.' ∧ c.isDigit = false := by
  simp only [isWordText, Bool.and_eq_true, Bool.not_eq_true'] at h
  obtain ⟨⟨hletters, hne⟩, hdigit⟩ := h
  obtain ⟨c, more, htext⟩ := List.exists_cons_of_ne_nil (show text.toList ≠ [] by simpa using hne)
  rw [htext] at hletters hdigit
  refine ⟨c, more, htext, ?_, hdigit⟩
  rintro rfl
  exact absurd (List.all_eq_true.mp hletters _ List.mem_cons_self) (by decide)

theorem mayContinueName_of_isIdentifierContinue {c : Char} (h : isIdentifierContinue c = true) :
    Number.mayContinueName c = true := by
  unfold isIdentifierContinue at h
  unfold Number.mayContinueName
  split at h <;> simp_all

/-- No letter is a digit. -/
theorem isDigit_of_isAlpha {c : Char} (h : c.isAlpha = true) : c.isDigit = false := by
  have hletter := isAlpha_iff.mp h
  rw [Bool.eq_false_iff, ne_eq, Char.isDigit_iff_toNat]
  simp
  omega

theorem mayContinueName_of_isIdentifierStart {c : Char} (h : isIdentifierStart c = true) :
    Number.mayContinueName c = true ∧ c.isDigit = false := by
  unfold isIdentifierStart at h
  unfold Number.mayContinueName
  split at h
  · obtain halpha | hmark := Bool.or_eq_true_iff.mp h
    · exact ⟨by simp [Char.isAlphanum, halpha], isDigit_of_isAlpha halpha⟩
    · obtain rfl := eq_of_beq hmark
      decide
  · next hwide =>
    refine ⟨by simp [hwide], ?_⟩
    simp only [isAscii, decide_eq_true_eq, Nat.not_lt] at hwide
    simp only [Char.isDigit, Bool.and_eq_false_iff, decide_eq_false_iff_not, ge_iff_le,
      UInt32.le_iff_toNat_le]
    right
    change ¬c.toNat ≤ 57
    omega

theorem isWordText_of_isIdentifier {text : String} (h : isIdentifier text = true) :
    isWordText text = true := by
  unfold isIdentifier isIdentifierChars at h
  unfold isWordText
  have hempty : text.isEmpty = text.toList.isEmpty := by
    rw [Bool.eq_iff_iff]; simp
  rw [hempty]
  cases htext : text.toList with
  | nil => rw [htext] at h; cases h
  | cons c more =>
    rw [htext] at h
    obtain ⟨hstart, hmore⟩ := Bool.and_eq_true_iff.mp h
    obtain ⟨hc, hdigit⟩ := mayContinueName_of_isIdentifierStart hstart
    have hall : more.all Number.mayContinueName = true := List.all_eq_true.mpr fun d hd =>
      mayContinueName_of_isIdentifierContinue (List.all_eq_true.mp hmore d hd)
    simp [hc, hall, Number.startsWithDigit, hdigit]

/-! ## Imports -/

theorem keepApart_dottedPieces {names : List String} (next : Char)
    (hnames : ∀ name ∈ names, isWordText name = true) (hnext : endsWord next = true) :
    keepApart next (dottedPieces names) = true := by
  cases names with
  | nil => rfl
  | cons name names =>
    obtain ⟨hname, hnames⟩ := List.forall_mem_cons.mp hnames
    obtain ⟨hmore, hhead⟩ := keepApart_flatMap (fun name => [.dots 1, .word name]) _ _ hnext fun name hmem next hends => by
        obtain ⟨c, more, htext, hc, hdigit⟩ := head_of_isWordText (hnames name hmem)
        have hword := endsBefore_word (hnames name hmem) hends
        refine ⟨?_, rfl⟩
        simp only [keepApart, spell, List.flatMap_nil, Bool.and_true, List.headD_nil, hword]
        simp [Piece.endsBefore, Piece.letters, htext, hc, hdigit]
    rw [dottedPieces, keepApart, hmore, endsBefore_word hname hhead, Bool.and_self]

theorem keepApart_importPieces (level : Nat) {path : List String} (next : Char)
    (hpath : ∀ name ∈ path, isWordText name = true) :
    keepApart next (importPieces level path) = true := by
  have hdotted := keepApart_dottedPieces ' ' hpath (by decide)
  have hhead : ∃ c more, spell (dottedPieces path ++ [.gap, .word "import", .gap]) = c :: more ∧
      c ≠ '.' ∧ c.isDigit = false := by
    cases path with
    | nil => exact ⟨' ', _, rfl, by decide⟩
    | cons name path =>
      obtain ⟨c, more, htext, h⟩ := head_of_isWordText (hpath name List.mem_cons_self)
      exact ⟨c, _, by rw [dottedPieces, List.cons_append, spell_cons, Piece.letters, htext]; rfl, h⟩
  obtain ⟨c, more, hspell, hc, hdigit⟩ := hhead
  have hword (text : String) (h : isWordText text = true) : (Piece.word text).endsBefore ' ' = true :=
    endsBefore_word h (by decide)
  have hdots : keepApart c [.word "from", .gap, .dots level] = true := by
    have hends : (Piece.dots level).endsBefore c = true := by simp [Piece.endsBefore, hc, hdigit]
    change ((Piece.word "from").endsBefore ' ' && (true && ((Piece.dots level).endsBefore c && true)))
      = true
    rw [hword "from" (by decide), hends]
    rfl
  have himport : keepApart next [.gap, .word "import", .gap] = true := by
    change (true && ((Piece.word "import").endsBefore ' ' && (true && true))) = true
    rw [hword "import" (by decide)]
    rfl
  unfold importPieces
  rw [List.append_assoc, keepApart_append, keepApart_append, hspell, himport]
  exact Bool.and_eq_true_iff.mpr ⟨hdots, Bool.and_eq_true_iff.mpr ⟨hdotted, rfl⟩⟩

/-- The names of an import are identifiers, and it is a relative one. -/
structure TypeImport.IsNamed (entry : TypeImport) : Prop where
  isRelative : entry.level ≠ 0
  path : ∀ name ∈ entry.path, isIdentifier name = true
  bindings : ∀ binding ∈ entry.bindings, isIdentifier binding.1 = true ∧
    isIdentifier binding.2 = true

theorem keepApart_bindingPieces {binding : String × String} {next : Char}
    (hname : isIdentifier binding.1 = true) (hbound : isIdentifier binding.2 = true)
    (hnext : endsWord next = true) :
    keepApart next (TypeImport.bindingPieces binding) = true := by
  change ((Piece.word binding.1).endsBefore ' ' && (true && ((Piece.word "as").endsBefore ' ' &&
    (true && ((Piece.word binding.2).endsBefore next && true))))) = true
  rw [endsBefore_word (isWordText_of_isIdentifier hname) (by decide),
    endsBefore_word (isWordText_of_isIdentifier hbound) hnext,
    endsBefore_word (by decide) (by decide)]
  rfl

theorem TypeImport.IsNamed.isSpelled {entry : TypeImport} (h : entry.IsNamed) :
    entry.line.isSpelled = true := by
  have hpath := keepApart_importPieces entry.level ((spell (bindingPieces entry.first ++
    entry.more.flatMap fun binding => [.sign ",", .gap] ++ bindingPieces binding)).headD '\n')
    fun name hname => isWordText_of_isIdentifier (h.path name hname)
  obtain ⟨⟨hname, hbound⟩, hbindings⟩ := List.forall_mem_cons.mp h.bindings
  obtain ⟨hmore, hhead⟩ := keepApart_flatMap (fun binding => [.sign ",", .gap] ++ bindingPieces binding) ('\n') endsWord (by decide)
    fun binding hmem next hends => by
      obtain ⟨hname, hbound⟩ := hbindings binding hmem
      refine ⟨?_, rfl⟩
      rw [keepApart_append, keepApart_bindingPieces hname hbound hends, Bool.and_true]
      rfl
  refine Line.isSpelled_of_keepApart rfl ?_
  change keepApart '\n' (importPieces entry.level entry.path ++ bindingPieces entry.first ++ _) = true
  rw [List.append_assoc, keepApart_append, hpath, keepApart_append,
    keepApart_bindingPieces hname hbound hhead, hmore]
  rfl

/-! ## All lines -/

theorem isSpelled_itemLine_word {name : String} (h : isWordText name = true) :
    (itemLine 4 [.word name]).isSpelled = true := by
  refine Line.isSpelled_of_keepApart rfl ?_
  change ((Piece.word name).endsBefore ',' && ((Piece.sign ",").endsBefore '\n' && true)) = true
  rw [endsBefore_word h (by decide)]
  decide

theorem isSpelled_itemLine_literal (indent : Nat) (text : String) :
    (itemLine indent [.literal text]).isSpelled = true :=
  Line.isSpelled_of_keepApart rfl rfl

theorem isSpelled_tableLines (table : List Entry) :
    ∀ line ∈ tableLines table, line.isSpelled = true := by
  have hopening : ∀ line ∈ [Line.mk 4 [.sign "\x7b"]], line.isSpelled = true := by decide
  have hclosing : ∀ line ∈ [itemLine 4 [.sign "\x7d"]], line.isSpelled = true := by decide
  unfold tableLines
  split
  · decide
  · refine List.forall_mem_append.mpr ⟨List.forall_mem_append.mpr ⟨hopening, ?_⟩, hclosing⟩
    exact List.forall_mem_map.mpr fun entry _ => Line.isSpelled_of_keepApart rfl rfl

/-- Characters that a docstring holds: they neither end it nor escape anything, and no line ends
but at a newline. -/
def isProse (c : Char) : Bool :=
  c != '"' && c != '\\' && (c == '\n' || 32 ≤ c.toNat) && (c == '\n' || !isLineBoundary c)

theorem isProse_repr (n : Nat) : ∀ c ∈ n.repr.toList, isProse c = true := by
  intro c hc
  rw [Nat.toList_repr] at hc
  have hdigit := Nat.isDigit_of_mem_toDigits (by decide) (by decide) hc
  have hrange : 48 ≤ c.toNat ∧ c.toNat ≤ 57 := by
    simpa [Char.isDigit, UInt32.le_iff_toNat_le] using hdigit
  have hne (d : Char) (hd : d.toNat < 48 ∨ 57 < d.toNat) : c ≠ d := by
    rintro rfl
    omega
  have hunbroken : isLineBoundary c = false := by
    simp [isLineBoundary]
    omega
  simp [isProse, hunbroken, hne '"' (by decide), hne '\\' (by decide)]
  omega

theorem isProse_intercalate {texts : List String} (h : ∀ text ∈ texts, ∀ c ∈ text.toList,
    isProse c = true) : ∀ c ∈ ("\n".intercalate texts).toList, isProse c = true := by
  have hnewline : ∀ c ∈ "\n".toList, isProse c = true := forall_mem_of_all (by decide)
  cases texts with
  | nil => exact fun c hc => by simp at hc
  | cons first more =>
    obtain ⟨hfirst, hmore⟩ := List.forall_mem_cons.mp h
    rw [toList_intercalate_cons]
    intro c hc
    rcases List.mem_append.mp hc with hc | hc
    · exact hfirst c hc
    · obtain ⟨text, htext, hc⟩ := List.mem_flatMap.mp hc
      rcases List.mem_append.mp hc with hc | hc
      · exact hnewline c hc
      · exact hmore text htext c hc

theorem isProse_summaryBody (registered contributing : Nat) :
    ∀ c ∈ summaryBody registered contributing, isProse c = true := by
  have hplain : ∀ text ∈ ["Generated uiwire container module.", "",
      "Generated by: uiwire._internal.codegen.renderer.ContainerModuleRenderer.render",
      "uiwire version used for generation: 0.1.0", "",
      "Do not edit by hand: run ``uiwire generate`` to refresh it.", "", "Generation summary:",
      "- registered dependencies: ", "- contributing modules: "],
      text.toList.all isProse = true := by decide
  have hcounted (label : String) (n : Nat) (h : ∀ c ∈ label.toList, isProse c = true) :
      ∀ c ∈ (label ++ toString n).toList, isProse c = true := by
    rw [String.toList_append]
    exact List.forall_mem_append.mpr ⟨h, isProse_repr n⟩
  have hsummary : ∀ c ∈ (summary registered contributing).toList, isProse c = true := by
    refine isProse_intercalate ?_
    simp only [List.all_eq_true] at hplain
    simp only [List.forall_mem_cons] at hplain ⊢
    obtain ⟨h1, h2, h3, h4, h5, h6, h7, h8, h9, h10, hnil⟩ := hplain
    exact ⟨h1, h2, h3, h4, h5, h6, h7, h8, hcounted _ _ h9, hcounted _ _ h10, hnil⟩
  refine List.forall_mem_cons.mpr ⟨by decide, List.forall_mem_append.mpr ⟨hsummary, ?_⟩⟩
  exact forall_mem_of_all (by decide)

theorem isSpelled_summaryLine (registered contributing : Nat) :
    (summaryLine registered contributing).isSpelled = true := by
  have hbody : (summaryBody registered contributing).all
      (fun c => c != '"' && c != '\\' && (c == '\n' || 32 ≤ c.toNat)) = true :=
    List.all_eq_true.mpr fun c hc =>
      (Bool.and_eq_true_iff.mp (isProse_summaryBody registered contributing c hc)).1
  exact Line.isSpelled_of_keepApart rfl (Bool.and_eq_true_iff.mpr ⟨hbody, rfl⟩)

theorem mem_importedNames {contributing : List Contribution} {name : String}
    (h : name ∈ importedNames contributing) :
    name ∈ runtimeNames ++ ["ConfigItem", "ComponentItem", "FunctionItem"] := by
  unfold importedNames at h
  rw [List.mem_mergeSort, List.mem_eraseDups, List.mem_append] at h
  rcases h with h | h
  · exact List.mem_append_left _ h
  · obtain ⟨contribution, -, h⟩ := List.mem_flatMap.mp h
    obtain ⟨entry, -, rfl⟩ := List.mem_map.mp h
    refine List.mem_append_right _ ?_
    cases entry.kind <;> decide

theorem isSpelled_importsLines {path : List String} {contributing : List Contribution}
    (hpath : ∀ name ∈ path, isWordText name = true)
    (himports : ∀ entry ∈ allTypeImports contributing, entry.IsNamed) :
    ∀ line ∈ importsLines path contributing, line.isSpelled = true := by
  have hopening : ∀ line ∈ [plainImport "__future__" "annotations" [], blankLine,
      typingLine (allTypeImports contributing), blankLine], line.isSpelled = true := by
    have hchecked : ∀ line ∈ [plainImport "__future__" "annotations" [], blankLine,
        plainImport "typing" "TypedDict" [], plainImport "typing" "TYPE_CHECKING" ["TypedDict"]],
        line.isSpelled = true := by decide
    simp only [List.forall_mem_cons] at hchecked ⊢
    obtain ⟨hfuture, hblank, htyping, hchecking, hnil⟩ := hchecked
    refine ⟨hfuture, hblank, ?_, hblank, hnil⟩
    unfold typingLine
    split
    · exact htyping
    · exact hchecking
  have himport : ∀ line ∈ [Line.mk 0 (importPieces 0 path ++ [.sign "("])],
      line.isSpelled = true := by
    refine List.forall_mem_singleton.mpr (Line.isSpelled_of_keepApart rfl ?_)
    change keepApart '\n' (importPieces 0 path ++ [.sign "("]) = true
    rw [keepApart_append, keepApart_importPieces _ _ hpath]
    decide
  have hnames : ∀ name ∈ runtimeNames ++ ["ConfigItem", "ComponentItem", "FunctionItem"],
      isWordText name = true := by decide
  have hclosing : ∀ line ∈ [Line.mk 0 [.sign ")"]], line.isSpelled = true := by decide
  have htypes : ∀ line ∈ typeLines (allTypeImports contributing), line.isSpelled = true := by
    have hcondition : (Line.mk 0 [.word "if", .gap, .word "TYPE_CHECKING", .sign ":"]).isSpelled =
        true := by decide
    unfold typeLines
    split
    · exact List.forall_mem_nil _
    · simp only [List.forall_mem_cons, List.forall_mem_map]
      exact ⟨by decide, hcondition, fun entry hentry => (himports entry hentry).isSpelled⟩
  unfold importsLines runtimeLines
  simp only [List.forall_mem_append, List.forall_mem_map]
  exact ⟨⟨hopening, ⟨himport, fun name hname =>
    isSpelled_itemLine_word (hnames name (mem_importedNames hname))⟩, hclosing⟩, htypes⟩

/-- Every line of a generated module is well spelled. -/
theorem isSpelled_moduleLines {path : List String} {contributing : List Contribution}
    (hpath : ∀ name ∈ path, isWordText name = true)
    (himports : ∀ entry ∈ allTypeImports contributing, entry.IsNamed) :
    ∀ line ∈ moduleLines path contributing, line.isSpelled = true := by
  have hblank : ∀ line ∈ [blankLine], line.isSpelled = true := by decide
  have hopening : ∀ line ∈ [Line.mk 0 [.word "ContainerDependencies", .gap, .sign "=", .gap,
      .word "TypedDict", .sign "("], itemLine 4 [.literal "ContainerDependencies"]],
      line.isSpelled = true := by decide
  have hclosing : ∀ line ∈ [itemLine 4 [.word "total", .sign "=", .word "False"],
      Line.mk 0 [.sign ")"]], line.isSpelled = true := by decide
  have hnote : ∀ line ∈ [Line.mk 0 [.prose tableNote.toList]], line.isSpelled = true := by
    decide
  have hcontainer : ∀ line ∈ containerLines, line.isSpelled = true := by decide
  have hlist : ∀ line ∈ [Line.mk 0 [.word "CONTRIBUTING_MODULES", .sign ":", .gap, .word "tuple",
      .sign "[", .word "str", .sign ",", .gap, .dots 3, .sign "]", .gap, .sign "=", .gap,
      .sign "("]], line.isSpelled = true := by decide
  have hend : ∀ line ∈ [Line.mk 0 [.sign ")"]], line.isSpelled = true := by decide
  have hbootstrap : ∀ line ∈ bootstrapLines, line.isSpelled = true := by decide
  unfold moduleLines dictionaryLines moduleListLines
  simp only [List.forall_mem_append, List.forall_mem_map]
  exact ⟨⟨⟨⟨⟨⟨⟨⟨List.forall_mem_cons.mpr ⟨isSpelled_summaryLine _ _, hblank⟩,
    isSpelled_importsLines hpath himports⟩, hblank⟩, ⟨⟨hopening, isSpelled_tableLines _⟩, hclosing⟩,
    hnote⟩, hblank⟩, hcontainer⟩, hblank⟩, ⟨hlist, fun reference _ =>
    isSpelled_itemLine_literal 4 _⟩, hend⟩, hbootstrap⟩

end Catalogue

end Registrar
