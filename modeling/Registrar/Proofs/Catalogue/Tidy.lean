import Registrar.Proofs.Catalogue.Apart
import Registrar.Proofs.Text.Tables

/-! # Generated text is canonical as it stands

No line of a generated text ends in white space and at most two blank lines stand in a row, so that
putting the text into canonical form adds the newline at its end and changes nothing else.
-/

namespace Registrar

variable {line : List Char} {block more : List (List Char)} {blanks : Nat}

/-! ## Tidy lines -/

/-- Lines as canonical text has them: at most two blank ones stand in a row, and none at the end;
`blanks` is how many stand right before them. -/
inductive Tidy : (blanks : Nat) → List (List Char) → Prop
  | last {blanks : Nat} {line : List Char} : IsLine line → Tidy blanks [line]
  | line {blanks : Nat} {line : List Char} {more : List (List Char)} :
    IsLine line → Tidy 0 more → Tidy blanks (line :: more)
  | blank {blanks : Nat} {more : List (List Char)} :
    blanks < 2 → Tidy (blanks + 1) more → Tidy blanks ([] :: more)

namespace Tidy

theorem ne_nil (h : Tidy blanks block) : block ≠ [] := by
  cases h <;> exact List.cons_ne_nil _ _

theorem append (h : Tidy blanks block) (hmore : Tidy 0 more) : Tidy blanks (block ++ more) := by
  induction h with
  | last hline => exact .line hline hmore
  | line hline _ ih => exact .line hline ih
  | blank hblanks _ ih => exact .blank hblanks ih

theorem of_lines (h : ∀ line ∈ block, IsLine line) (hne : block ≠ []) : Tidy blanks block := by
  induction block generalizing blanks with
  | nil => exact absurd rfl hne
  | cons line block ih =>
    obtain ⟨hline, hblock⟩ := List.forall_mem_cons.mp h
    by_cases hempty : block = []
    · exact hempty ▸ .last hline
    · exact .line hline (ih hblock hempty)

/-- Lines under a blank one. -/
theorem under (h : Tidy 1 block) : Tidy 0 ([] :: block) := .blank (by decide) h

theorem lines_eq (h : Tidy blanks block) : lines (joinChars ['\n'] block) = block := by
  unfold lines
  induction h with
  | last hline =>
    have hempty := linesFrom_append hline.unbroken [] []
    rw [List.append_nil, List.append_nil] at hempty
    rw [joinChars, hempty]
    simp [linesFrom, hline.ne_nil]
  | line hline hmore ih =>
    rw [joinChars_cons hmore.ne_nil, linesFrom_append hline.unbroken, linesFrom_newline, ih]
    simp
  | blank _ hmore ih =>
    rw [joinChars_cons hmore.ne_nil, List.nil_append, linesFrom_newline, ih]
    rfl

theorem map_trimEnd (h : Tidy blanks block) : block.map trimEnd = block := by
  induction h with
  | last hline => rw [List.map_singleton, hline.trimEnd_eq]
  | line hline _ ih => rw [List.map_cons, hline.trimEnd_eq, ih]
  | blank _ _ ih => rw [List.map_cons, ih]; rfl

/-- A run of newlines is one longer than the blank lines it makes. -/
theorem limitRuns_eq (h : Tidy blanks block) {run : Nat} (hrun : run ≤ blanks + 1) :
    Canonical.limitRuns run (joinChars ['\n'] block) = joinChars ['\n'] block := by
  induction h generalizing run with
  | last hline =>
    have hempty := Canonical.limitRuns_append_line hline run []
    rwa [List.append_nil, Canonical.limitRuns, List.append_nil] at hempty
  | line hline hmore ih =>
    rw [joinChars_cons hmore.ne_nil, Canonical.limitRuns_append_line hline, Canonical.limitRuns,
      if_pos (by decide), if_pos (by decide), ih (by decide)]
  | blank hblanks hmore ih =>
    rw [joinChars_cons hmore.ne_nil, List.nil_append, Canonical.limitRuns, if_pos (by decide),
      if_pos (by omega), ih (by omega)]

theorem last_eq (h : Tidy blanks block) :
    ∃ start c, joinChars ['\n'] block = start ++ [c] ∧ c ≠ '\n' := by
  induction h with
  | last hline =>
    obtain ⟨start, c, rfl, -⟩ := hline.closed
    exact ⟨start, c, rfl, hline.ne_newline c (by simp)⟩
  | line _ hmore ih =>
    obtain ⟨start, c, hjoin, hc⟩ := ih
    exact ⟨_, c, by rw [joinChars_cons hmore.ne_nil, hjoin, ← List.cons_append, ← List.append_assoc], hc⟩
  | blank _ hmore ih =>
    obtain ⟨start, c, hjoin, hc⟩ := ih
    exact ⟨_, c, by rw [joinChars_cons hmore.ne_nil, hjoin, ← List.cons_append, ← List.append_assoc], hc⟩

/-- After two blank lines there is a line to be seen. -/
theorem head_eq (h : Tidy 2 block) : ∃ c letters, joinChars ['\n'] block = c :: letters ∧ c ≠ '\n' := by
  have hhead {line : List Char} (hline : IsLine line) : ∃ c letters, line = c :: letters ∧ c ≠ '\n' := by
    obtain ⟨c, letters, rfl⟩ := List.exists_cons_of_ne_nil hline.ne_nil
    exact ⟨c, letters, rfl, hline.ne_newline c List.mem_cons_self⟩
  cases h with
  | last hline => exact hhead hline
  | line hline hmore =>
    obtain ⟨c, letters, rfl, hc⟩ := hhead hline
    exact ⟨c, _, joinChars_cons hmore.ne_nil, hc⟩
  | blank hblanks => exact absurd hblanks (by decide)

/-- Tidy lines are in canonical form but for the newline at the end. -/
theorem normalize_eq (h : Tidy 2 block) :
    Canonical.normalize (joinChars ['\n'] block) = joinChars ['\n'] block ++ ['\n'] := by
  unfold Canonical.normalize Canonical.trimNewlines dropEndWhile
  rw [h.lines_eq, h.map_trimEnd, h.limitRuns_eq (by decide)]
  refine congrArg (· ++ ['\n']) ?_
  obtain ⟨c, letters, hletters, hc⟩ := h.head_eq
  have hfront : (joinChars ['\n'] block).dropWhile (· == '\n') = joinChars ['\n'] block := by
    rw [hletters]
    exact List.dropWhile_cons_of_neg (by simpa using hc)
  obtain ⟨start, d, hstart, hd⟩ := h.last_eq
  rw [hfront, hstart, List.reverse_append]
  simp [hd]

end Tidy

/-! ## The texts of lines -/

/-- What stands in one piece before a line to be seen makes such a line with it. -/
theorem IsLine.prepend {front : List Char} (hfront : ∀ c ∈ front, isLineBoundary c = false)
    (h : IsLine line) : IsLine (front ++ line) := by
  obtain ⟨start, c, hline, hc⟩ := h.closed
  exact ⟨List.forall_mem_append.mpr ⟨hfront, h.unbroken⟩, front ++ start, c,
    by rw [hline, List.append_assoc], hc⟩

theorem IsLine.flatMap {ι : Type} {items : List ι} {text : ι → List Char} (h : IsLine line)
    (hitems : ∀ item ∈ items, IsLine (text item)) : IsLine (line ++ items.flatMap text) := by
  induction items generalizing line with
  | nil => rwa [List.flatMap_nil, List.append_nil]
  | cons item items ih =>
    obtain ⟨hitem, hitems⟩ := List.forall_mem_cons.mp hitems
    rw [List.flatMap_cons, ← List.append_assoc]
    exact ih (.prepend h.unbroken hitem) hitems

theorem Source.Line.isLine_letters {indent : Nat} {pieces : List Source.Piece}
    (h : IsLine (Source.spell pieces)) : IsLine (Source.Line.letters ⟨indent, pieces⟩) := by
  refine .prepend (fun c hc => ?_) h
  rw [List.eq_of_mem_replicate hc]
  decide

namespace Catalogue

open Source

theorem isLineBoundary_of_not_isBlank {c : Char} (h : isBlank c = false) : isLineBoundary c = false := by
  simp only [isBlank, isLineBoundary, Bool.or_eq_false_iff, Bool.and_eq_false_iff,
    decide_eq_false_iff_not, beq_eq_false_iff_ne, ne_eq] at h ⊢
  omega

/-- An identifier is a line to be seen. -/
theorem isLine_of_isIdentifier {text : String} (h : isIdentifier text = true) :
    IsLine text.toList := by
  have hblank := isBlank_of_isIdentifierChars h
  have hne : text.toList ≠ [] := by
    intro hempty
    rw [isIdentifier, hempty] at h
    cases h
  obtain ⟨start, c, htext⟩ := List.eq_nil_or_concat' _ |>.resolve_left hne
  exact ⟨fun c hc => isLineBoundary_of_not_isBlank (hblank c hc), start, c, htext,
    hblank c (htext ▸ List.mem_concat_self ..)⟩

/-! ## The lines of a generated module -/

theorem unbroken_textOf (level : Nat) {names : List String}
    (hnames : ∀ name ∈ names, isIdentifier name = true) :
    ∀ c ∈ (Reference.textOf level names).toList, isLineBoundary c = false := by
  have hpoint : ".".toList = ['.'] := by decide
  have hdotted : ∀ c ∈ (".".intercalate names).toList, isLineBoundary c = false := by
    cases names with
    | nil => exact forall_mem_of_all (by decide)
    | cons name names =>
      obtain ⟨hname, hnames⟩ := List.forall_mem_cons.mp hnames
      rw [toList_intercalate_cons]
      refine ((isLine_of_isIdentifier hname).flatMap fun name hmem => ?_).unbroken
      rw [hpoint]
      exact .prepend (forall_mem_of_all (by decide)) (isLine_of_isIdentifier (hnames name hmem))
  unfold Reference.textOf
  rw [String.toList_append, String.toList_ofList]
  refine List.forall_mem_append.mpr ⟨fun c hc => ?_, hdotted⟩
  rw [List.eq_of_mem_replicate hc]
  decide

theorem isLine_importPieces {level : Nat} {path : List String} {pieces : List Piece}
    (hpath : ∀ name ∈ path, isIdentifier name = true) (h : IsLine (spell pieces)) :
    IsLine (spell (importPieces level path ++ pieces)) := by
  have hfrom : ∀ c ∈ "from ".toList, isLineBoundary c = false :=
    forall_mem_of_all (by decide)
  have himport : ∀ c ∈ " import ".toList, isLineBoundary c = false :=
    forall_mem_of_all (by decide)
  rw [spell_append, spell_importPieces]
  refine .prepend ?_ h
  simp only [String.toList_append, List.forall_mem_append]
  exact ⟨⟨hfrom, unbroken_textOf level hpath⟩, himport⟩

theorem isLine_bindingPieces {binding : String × String} (hname : isIdentifier binding.1 = true)
    (hbound : isIdentifier binding.2 = true) : IsLine (spell (TypeImport.bindingPieces binding)) := by
  have has : ∀ c ∈ spell [.gap, .word "as", .gap], isLineBoundary c = false :=
    forall_mem_of_all (by decide)
  have hspell : spell (TypeImport.bindingPieces binding) =
      binding.1.toList ++ (spell [.gap, .word "as", .gap] ++ binding.2.toList) := by
    simp [TypeImport.bindingPieces, spell, Piece.letters]
  rw [hspell]
  exact .prepend (isLine_of_isIdentifier hname).unbroken
    (.prepend has (isLine_of_isIdentifier hbound))

theorem TypeImport.IsNamed.isLine {entry : TypeImport} (h : entry.IsNamed) :
    IsLine (spell entry.line.pieces) := by
  have hcomma : ∀ c ∈ spell [.sign ",", .gap], isLineBoundary c = false :=
    forall_mem_of_all (by decide)
  obtain ⟨⟨hname, hbound⟩, hbindings⟩ := List.forall_mem_cons.mp h.bindings
  unfold TypeImport.line
  rw [List.append_assoc]
  refine isLine_importPieces h.path ?_
  rw [spell_append]
  have hmore : spell (entry.more.flatMap fun binding => [.sign ",", .gap] ++ bindingPieces binding) =
      entry.more.flatMap fun binding => spell [.sign ",", .gap] ++ spell (bindingPieces binding) := by
    rw [spell, List.flatMap_assoc]
    exact List.flatMap_congr fun binding _ => spell_append ..
  rw [hmore]
  refine (isLine_bindingPieces hname hbound).flatMap fun binding hmem => ?_
  obtain ⟨hname, hbound⟩ := hbindings binding hmem
  exact .prepend hcomma (isLine_bindingPieces hname hbound)

theorem TypeImport.IsNamed.closed_text {entry : TypeImport} (h : entry.IsNamed) :
    ∃ front c, entry.text.toList = front ++ [c] ∧ isBlank c = false := by
  have hindent : "    ".toList = List.replicate 4 ' ' := by decide
  have hletters := entry.letters_line
  rw [String.toList_append, hindent] at hletters
  rw [← List.append_cancel_left hletters]
  exact h.isLine.closed

/-- An item that a comma ends. -/
theorem isLine_itemLine (indent : Nat) {pieces : List Piece}
    (h : ∀ c ∈ spell pieces, isLineBoundary c = false) : IsLine (itemLine indent pieces).letters := by
  refine Line.isLine_letters ?_
  rw [spell_append]
  exact .prepend h (isLine_of_check (by decide))

theorem isLine_tableLines (table : List Entry) :
    ∀ line ∈ (tableLines table).map Line.letters, IsLine line := by
  have hempty : IsLine (itemLine 4 [.sign "\x7b", .sign "\x7d"]).letters := isLine_of_check (by decide)
  have hopening : IsLine (Line.letters ⟨4, [.sign "\x7b"]⟩) := isLine_of_check (by decide)
  have hclosing : IsLine (itemLine 4 [.sign "\x7d"]).letters := isLine_of_check (by decide)
  have hcolon : ∀ c ∈ spell [.sign ":", .gap], isLineBoundary c = false :=
    forall_mem_of_all (by decide)
  have hentry (entry : Entry) :
      IsLine (itemLine 8 [.literal entry.key, .sign ":", .gap, .literal entry.type]).letters := by
    refine isLine_itemLine 8 ?_
    have hspell : spell [.literal entry.key, .sign ":", .gap, .literal entry.type] =
        (Json.literal entry.key).toList ++ (spell [.sign ":", .gap] ++
          (Json.literal entry.type).toList) := by
      simp [spell, Piece.letters]
    rw [hspell]
    simp only [List.forall_mem_append]
    exact ⟨unbroken_literal _, hcolon, unbroken_literal _⟩
  unfold tableLines
  split
  · exact List.forall_mem_singleton.mpr hempty
  · simp only [List.map_append, List.map_map, List.forall_mem_append, List.forall_mem_map,
      List.map_cons, List.map_nil, List.forall_mem_singleton, Function.comp_apply]
    exact ⟨⟨hopening, fun entry _ => hentry entry⟩, hclosing⟩

/-- The lines of the docstring, its marks included. -/
def summaryTexts (registered contributing : Nat) : List (List Char) :=
  ["\"\"\"", "Generated uiwire container module.", "",
    "Generated by: uiwire._internal.codegen.renderer.ContainerModuleRenderer.render",
    "uiwire version used for generation: 0.1.0", "",
    "Do not edit by hand: run ``uiwire generate`` to refresh it.", "", "Generation summary:",
    "- registered dependencies: " ++ toString registered,
    "- contributing modules: " ++ toString contributing, "\"\"\""].map String.toList

theorem isLine_label {label : String} (n : Nat)
    (h : label.toList.all (!isLineBoundary ·) = true) : IsLine (label ++ toString n).toList := by
  have hdigit : ∀ c ∈ (toString n).toList, isBlank c = false := by
    intro c hc
    rw [Nat.toString_eq_repr, Nat.toList_repr] at hc
    have hrange : 48 ≤ c.toNat ∧ c.toNat ≤ 57 := by
      simpa [Char.isDigit, UInt32.le_iff_toNat_le] using
        Nat.isDigit_of_mem_toDigits (by decide) (by decide) hc
    simp [isBlank]
    omega
  have hne : (toString n).toList ≠ [] := by
    rw [Nat.toString_eq_repr, Nat.toList_repr]
    exact Nat.toDigits_ne_nil
  obtain ⟨start, c, hstart⟩ := List.eq_nil_or_concat' _ |>.resolve_left hne
  rw [String.toList_append]
  refine .prepend (fun c hc => by simpa using List.all_eq_true.mp h c hc)
    ⟨fun c hc => isLineBoundary_of_not_isBlank (hdigit c hc), start, c, hstart, hdigit c ?_⟩
  rw [hstart]
  exact List.mem_append_right _ List.mem_cons_self

theorem tidy_summaryTexts (registered contributing : Nat) :
    Tidy 2 (summaryTexts registered contributing) := by
  have hline {text : String} (h : (text.toList.all (!isLineBoundary ·) &&
      text.toList.getLast?.any (!isBlank ·)) = true) : IsLine text.toList := isLine_of_check h
  have hempty : "".toList = [] := by decide
  unfold summaryTexts
  simp only [List.map_cons, List.map_nil, hempty]
  exact .line (hline (by decide)) <| .line (hline (by decide)) <| .under <|
    .line (hline (by decide)) <| .line (hline (by decide)) <| .under <|
    .line (hline (by decide)) <| .under <| .line (hline (by decide)) <|
    .line (isLine_label _ (by decide)) <| .line (isLine_label _ (by decide)) <|
    .last (hline (by decide))

theorem tidy_importsLines {path : List String} {contributing : List Contribution}
    (hpath : ∀ name ∈ path, isIdentifier name = true)
    (himports : ∀ entry ∈ allTypeImports contributing, entry.IsNamed) :
    Tidy 1 ((importsLines path contributing).map Line.letters) := by
  have hfuture : IsLine (plainImport "__future__" "annotations" []).letters :=
    isLine_of_check (by decide)
  have htyping : IsLine (typingLine (allTypeImports contributing)).letters := by
    unfold typingLine
    split
    · exact isLine_of_check (by decide)
    · exact isLine_of_check (by decide)
  have hopening : IsLine (Line.letters ⟨0, importPieces 0 path ++ [.sign "("]⟩) :=
    Line.isLine_letters (isLine_importPieces hpath (isLine_of_check (by decide)))
  have hnames : ∀ name ∈ importedNames contributing, IsLine (itemLine 4 [.word name]).letters := by
    have hall : ∀ name ∈ runtimeNames ++ ["ConfigItem", "ComponentItem", "FunctionItem"],
        isIdentifier name = true := by decide
    intro name hname
    refine isLine_itemLine 4 ?_
    rw [spell, List.flatMap_singleton]
    exact (isLine_of_isIdentifier (hall name (mem_importedNames hname))).unbroken
  have hclosing : IsLine (Line.letters ⟨0, [.sign ")"]⟩) := isLine_of_check (by decide)
  have hcondition : IsLine (Line.letters ⟨0, [.word "if", .gap, .word "TYPE_CHECKING", .sign ":"]⟩) :=
    isLine_of_check (by decide)
  have hruntime : Tidy 1 ((runtimeLines path (importedNames contributing)).map Line.letters) := by
    refine .of_lines ?_ (by simp [runtimeLines])
    simp only [runtimeLines, List.map_append, List.map_map, List.forall_mem_append,
      List.forall_mem_map, List.map_cons, List.map_nil, List.forall_mem_singleton, Function.comp_apply]
    exact ⟨⟨hopening, hnames⟩, hclosing⟩
  have hblank : blankLine.letters = [] := rfl
  have htypes : Tidy 1 ((runtimeLines path (importedNames contributing) ++
      typeLines (allTypeImports contributing)).map Line.letters) := by
    unfold typeLines
    split
    · rwa [List.append_nil]
    · next hne =>
      rw [List.map_append, List.map_cons, List.map_cons, hblank]
      refine hruntime.append (.under (.line hcondition (.of_lines ?_ (by simpa using hne))))
      simp only [List.map_map, List.forall_mem_map, Function.comp_apply]
      exact fun entry hentry => Line.isLine_letters (himports entry hentry).isLine
  unfold importsLines
  rw [List.append_assoc, List.map_append]
  simp only [List.map_cons, List.map_nil, hblank, List.cons_append, List.nil_append]
  exact .line hfuture (.under (.line htyping (.under htypes)))

theorem tidy_dictionaryLines (table : List Entry) : Tidy 1 ((dictionaryLines table).map Line.letters) := by
  have hopening : ∀ line ∈ [Line.mk 0 [.word "ContainerDependencies", .gap, .sign "=", .gap,
      .word "TypedDict", .sign "("], itemLine 4 [.literal "ContainerDependencies"]].map Line.letters,
      IsLine line := List.forall_mem_map.mpr <| by
    simp only [List.forall_mem_cons]
    exact ⟨isLine_of_check (by decide), isLine_of_check (by decide), nofun⟩
  have hclosing : ∀ line ∈ [itemLine 4 [.word "total", .sign "=", .word "False"],
      Line.mk 0 [.sign ")"]].map Line.letters, IsLine line := List.forall_mem_map.mpr <| by
    simp only [List.forall_mem_cons]
    exact ⟨isLine_of_check (by decide), isLine_of_check (by decide), nofun⟩
  have hnote : IsLine (Line.letters ⟨0, [.prose tableNote.toList]⟩) := isLine_of_check (by decide)
  refine .of_lines ?_ (by simp [dictionaryLines])
  unfold dictionaryLines
  rw [List.map_append, List.map_append, List.map_append]
  simp only [List.forall_mem_append]
  exact ⟨⟨⟨hopening, isLine_tableLines table⟩, hclosing⟩, List.forall_mem_singleton.mpr hnote⟩

theorem tidy_containerLines : Tidy 1 (containerLines.map Line.letters) := by
  have hblank : blankLine.letters = [] := rfl
  unfold containerLines
  simp only [List.map_cons, List.map_nil, hblank]
  exact .line (isLine_of_check (by decide)) <| .under <|
    .line (isLine_of_check (by decide)) <| .line (isLine_of_check (by decide)) <|
    .line (isLine_of_check (by decide)) <| .last (isLine_of_check (by decide))

theorem tidy_moduleListLines (references : List Reference) :
    Tidy 1 ((moduleListLines references).map Line.letters) := by
  have hopening : IsLine (Line.letters ⟨0, [.word "CONTRIBUTING_MODULES", .sign ":", .gap,
      .word "tuple", .sign "[", .word "str", .sign ",", .gap, .dots 3, .sign "]", .gap, .sign "=",
      .gap, .sign "("]⟩) := isLine_of_check (by decide)
  have hclosing : IsLine (Line.letters ⟨0, [.sign ")"]⟩) := isLine_of_check (by decide)
  have hreference (reference : Reference) : IsLine (itemLine 4 [.literal reference.module]).letters := by
    refine isLine_itemLine 4 ?_
    rw [spell, List.flatMap_singleton]
    exact unbroken_literal _
  refine .of_lines ?_ (by simp [moduleListLines])
  simp only [moduleListLines, List.map_append, List.map_map, List.forall_mem_append,
    List.forall_mem_map, List.map_cons, List.map_nil, List.forall_mem_singleton, Function.comp_apply]
  exact ⟨⟨hopening, fun reference _ => hreference reference⟩, hclosing⟩

theorem tidy_bootstrapLines : Tidy 0 (bootstrapLines.map Line.letters) := by
  have hblank : blankLine.letters = [] := rfl
  have hlist : ∀ line ∈ (Line.mk 0 [.word "__all__", .gap, .sign "=", .gap, .sign "["] ::
      (publicNames.map fun name => itemLine 4 [.literal name])).map Line.letters, IsLine line := by
    simp only [List.map_cons, List.map_map, List.forall_mem_cons, List.forall_mem_map,
      Function.comp_apply]
    refine ⟨isLine_of_check (by decide), fun name _ => isLine_itemLine 4 ?_⟩
    rw [spell, List.flatMap_singleton]
    exact unbroken_literal _
  unfold bootstrapLines
  simp only [List.map_append, List.map_cons, List.map_nil, hblank, List.cons_append, List.nil_append]
  refine .blank (by decide) <| .blank (by decide) <| .line (isLine_of_check (by decide)) <|
    .line (isLine_of_check (by decide)) <| .line (isLine_of_check (by decide)) <|
    .blank (by decide) <| .blank (by decide) <| .line (isLine_of_check (by decide)) <|
    .under ?_
  rw [← List.cons_append]
  exact Tidy.append (.of_lines hlist (List.cons_ne_nil _ _)) (.last (isLine_of_check (by decide)))

/-- The lines of a module, each a text of its own. -/
def moduleTexts (path : List String) (contributing : List Contribution) : List (List Char) :=
  let table := entries (contributing.flatMap (·.file.exports))
  summaryTexts table.length contributing.length ++ ((moduleLines path contributing).drop 1).map Line.letters

theorem tidy_moduleTexts {path : List String} {contributing : List Contribution}
    (hpath : ∀ name ∈ path, isIdentifier name = true)
    (himports : ∀ entry ∈ allTypeImports contributing, entry.IsNamed) :
    Tidy 2 (moduleTexts path contributing) := by
  unfold moduleTexts moduleLines
  dsimp only
  simp only [List.cons_append, List.nil_append, List.drop_succ_cons, List.drop_zero]
  simp only [List.map_cons, List.map_append, List.append_assoc, List.cons_append,
    List.nil_append]
  exact (tidy_summaryTexts _ _).append <| .under <| (tidy_importsLines hpath himports).append <|
    .under <| (tidy_dictionaryLines _).append <| .under <| tidy_containerLines.append <| .under <|
    (tidy_moduleListLines _).append tidy_bootstrapLines

theorem joinChars_newline (h : block ≠ []) :
    joinChars ['\n'] block ++ ['\n'] = block.flatMap (· ++ ['\n']) := by
  obtain ⟨front, last, rfl⟩ := List.eq_nil_or_concat' _ |>.resolve_left h
  rw [joinChars_concat]
  simp

/-- The text of a module is its lines with newlines between them. -/
theorem toList_text_eq_join {runtimeModule : String} {path : List String}
    {contributing : List Contribution} (hruntime : ".".intercalate path = runtimeModule)
    (hpath : ∀ name ∈ path, isIdentifier name = true)
    (himports : ∀ entry ∈ allTypeImports contributing, entry.IsNamed) :
    (text runtimeModule contributing).toList = joinChars ['\n'] (moduleTexts path contributing) := by
  have hsummary (registered contributing : Nat) :
      (docstring registered contributing).toList = joinChars ['\n'] (summaryTexts registered contributing) := by
    have hnewline : "\n".toList = ['\n'] := by decide
    unfold docstring summaryTexts
    rw [String.toList_intercalate, hnewline, joinChars_eq_intercalate]
  have hsplit : moduleLines path contributing =
      [summaryLine (entries (contributing.flatMap (·.file.exports))).length contributing.length] ++
        (moduleLines path contributing).drop 1 := rfl
  have hjoin := joinChars_newline (tidy_moduleTexts hpath himports).ne_nil
  suffices hclosed : _ ++ ['\n'] = _ ++ ['\n'] from List.append_cancel_right hclosed
  rw [toList_text_eq hruntime fun entry hentry => (himports entry hentry).closed_text, hjoin, hsplit, spellLines_append, ← toList_docstring, hsummary]
  unfold moduleTexts
  rw [List.flatMap_append, ← joinChars_newline (tidy_summaryTexts _ _).ne_nil, List.flatMap_map]
  rfl

end Catalogue

end Registrar
