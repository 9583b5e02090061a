import Registrar.Proofs.Source.Reading
import Registrar.Proofs.Source.Statements

/-! # Lines as sentences

Lines are read as sentences, one behind the other, and the sentences are what the text says as a
module. A block ends where a line stands further left again: its last token is one of the line that
follows, so a block is put before lines that are read already.
-/

namespace Registrar.Source

open Lexer

variable {rules : Parser.Rules} {final : Token} {layout next last : Layout}
  {lines more : List Line} {lexemes : List Lexeme} {value : Option (List Stmt)}
  {values moreValues : List (Option (List Stmt))}

/-- The layout of a line outside brackets and blocks. -/
def Lexer.Layout.plain (line : Nat) : Layout := ⟨[], [], line⟩

/-- The layout of a line in a block that is indented by four columns. -/
def Lexer.Layout.inner (line : Nat) : Layout := ⟨[(4, 4)], [], line⟩

/-- Lines that are read as sentences with some values, from one layout to the next. -/
def Spells (rules : Parser.Rules) (final : Token) (layout : Layout) (lines : List Line)
    (values : List (Option (List Stmt))) (next : Layout) : Prop :=
  ∃ sentences : List (List Lexeme × Option (List Stmt)),
    readLines layout lines = some (sentences.flatMap Prod.fst, next) ∧
      sentences.map Prod.snd = values ∧
        ∀ sentence ∈ sentences, Parser.IsSentence rules final sentence.1 sentence.2

theorem readLines_append (layout : Layout) (lines more : List Line) :
    readLines layout (lines ++ more) = (readLines layout lines).bind fun read =>
      (readLines read.2 more).map fun final => (read.1 ++ final.1, final.2) := by
  induction lines generalizing layout with
  | nil => cases h : readLines layout more <;> simp [readLines, h]
  | cons line lines ih =>
    rw [List.cons_append, readLines, readLines]
    cases readLine layout line with
    | none => rfl
    | some read =>
      simp only [Option.bind_eq_bind, Option.bind_some, ih]
      cases readLines read.2 lines with
      | none => rfl
      | some others => cases h : readLines others.2 more <;> simp [h]

theorem readLines_trans {others : List Lexeme} (h : readLines layout lines = some (lexemes, next))
    (hmore : readLines next more = some (others, last)) :
    readLines layout (lines ++ more) = some (lexemes ++ others, last) := by
  rw [readLines_append, h, Option.bind_some, hmore, Option.map_some]

theorem readLines_singleton {line : Line} (h : readLine layout line = some (lexemes, next)) :
    readLines layout [line] = some (lexemes, next) := by
  rw [readLines, h]
  simp [readLines]

namespace Spells

theorem append (h : Spells rules final layout lines values next)
    (hmore : Spells rules final next more moreValues last) :
    Spells rules final layout (lines ++ more) (values ++ moreValues) last := by
  obtain ⟨sentences, hread, rfl, hsentences⟩ := h
  obtain ⟨others, hothers, rfl, hmore⟩ := hmore
  refine ⟨sentences ++ others, ?_, List.map_append, List.forall_mem_append.mpr ⟨hsentences, hmore⟩⟩
  rw [readLines_trans hread hothers, List.flatMap_append]

/-- Blank lines say nothing. -/
theorem blank (layout : Layout) : Spells rules final layout [⟨0, []⟩] [] layout.nextLine :=
  ⟨[], rfl, rfl, List.forall_mem_nil _⟩

/-- Lines that are one sentence. -/
theorem sentence (hread : readLines layout lines = some (lexemes, next))
    (h : Parser.IsSentence rules final lexemes value) :
    Spells rules final layout lines [value] next :=
  ⟨[(lexemes, value)], by rw [hread, List.flatMap_singleton], rfl, List.forall_mem_singleton.mpr h⟩

end Spells

/-! ## Blocks -/

/-- What the indentation of a line stands for comes before everything else on it. -/
theorem readLines_of_open {line : Line} {opened : Layout} (opening : List Lexeme)
    (hne : line.pieces ≠ []) (hopen : layout.open line.indent = some (opening, opened))
    (hsame : opened.open line.indent = some ([], opened)) (rest : List Line) :
    readLines layout (line :: rest) = (readLines opened (line :: rest)).map fun read =>
      (opening ++ read.1, read.2) := by
  have hpieces : line.pieces.isEmpty = false := by simpa using hne
  rw [readLines, readLines, readLine, readLine, hpieces, hopen, hsame]
  cases tokensOf line.pieces with
  | none => rfl
  | some tokens =>
    cases hentered : opened.enter tokens with
    | none => simp [hentered]
    | some entered =>
      cases hrest : readLines entered.2.close.2 rest <;> simp [hentered, hrest]

/-- A line further left ends a block. -/
theorem readLines_dedent {line : Line} (hne : line.pieces ≠ []) (hindent : line.indent = 0)
    (n : Nat) (rest : List Line) :
    readLines (.inner n) (line :: rest) = (readLines (.plain n) (line :: rest)).map fun read =>
      (⟨.dedent, n⟩ :: read.1, read.2) :=
  readLines_of_open [⟨.dedent, n⟩] hne (by rw [hindent]; rfl) (by rw [hindent]; rfl) rest

/-- A line further right opens a block. -/
theorem readLines_indent {line : Line} (hne : line.pieces ≠ []) (hindent : line.indent = 4)
    (n : Nat) (rest : List Line) :
    readLines (.plain n) (line :: rest) = (readLines (.inner n) (line :: rest)).map fun read =>
      (⟨.indent, n⟩ :: read.1, read.2) :=
  readLines_of_open [⟨.indent, n⟩] hne (by rw [hindent]; rfl) (by rw [hindent]; rfl) rest

theorem readLines_blanks (count : Nat) (n : Nat) (rest : List Line) :
    readLines (.inner n) (List.replicate count ⟨0, []⟩ ++ rest) =
      readLines (.inner (n + count)) rest := by
  induction count generalizing n with
  | zero => rfl
  | succ count ih =>
    have hblank : readLine (.inner n) ⟨0, []⟩ = some ([], .inner (n + 1)) := rfl
    rw [List.replicate_succ, List.cons_append, readLines, hblank]
    simp only [Option.bind_eq_bind, Option.bind_some, ih, List.nil_append]
    rw [Nat.add_assoc, Nat.add_comm 1]
    cases readLines (.inner (n + (count + 1))) rest <;> rfl

/-- A block before a line further left: the block ends with the first token of that line. -/
theorem Spells.block {line : Line} {n m : Nat} (blanks : Nat) (hne : line.pieces ≠ [])
    (hindent : line.indent = 0)
    (hread : readLines (.plain n) lines = some (lexemes, .inner m))
    (h : Parser.IsSentence rules final (lexemes ++ [⟨.dedent, m + blanks⟩]) value)
    (hrest : Spells rules final (.plain (m + blanks)) (line :: more) values next) :
    Spells rules final (.plain n) (lines ++ (List.replicate blanks ⟨0, []⟩ ++ line :: more))
      (value :: values) next := by
  obtain ⟨sentences, hothers, rfl, hsentences⟩ := hrest
  refine ⟨(_, value) :: sentences, ?_, rfl, List.forall_mem_cons.mpr ⟨h, hsentences⟩⟩
  rw [readLines_append, hread, Option.bind_some, readLines_blanks,
    readLines_dedent hne hindent, hothers]
  simp

/-- The lines of a block that are sentences themselves. -/
theorem Spells.indented {line : Line} {n : Nat} (hne : line.pieces ≠ [])
    (hindent : line.indent = 4)
    (h : Spells rules final (.inner n) (line :: more) values next) :
    ∃ sentences : List (List Lexeme × Option (List Stmt)),
      readLines (.plain n) (line :: more) =
        some (⟨.indent, n⟩ :: sentences.flatMap Prod.fst, next) ∧
      sentences.map Prod.snd = values ∧
        ∀ sentence ∈ sentences, Parser.IsSentence rules final sentence.1 sentence.2 := by
  obtain ⟨sentences, hread, hvalues, hsentences⟩ := h
  refine ⟨sentences, ?_, hvalues, hsentences⟩
  rw [readLines_indent hne hindent, hread]
  rfl

/-! ## Lines of plain tokens -/

theorem tokensOf_append (pieces others : List Piece) :
    tokensOf (pieces ++ others) = (tokensOf pieces).bind fun tokens =>
      (tokensOf others).map (tokens ++ ·) := by
  induction pieces with
  | nil => cases h : tokensOf others <;> simp [tokensOf, h]
  | cons piece pieces ih =>
    rw [List.cons_append, tokensOf, tokensOf, ih]
    cases piece.tokens? with
    | none => rfl
    | some tokens =>
      cases tokensOf pieces with
      | none => rfl
      | some more => cases tokensOf others <;> simp

/-- Items whose tokens stand one behind the other. -/
theorem tokensOf_flatMap {ι : Type} (items : List ι) (pieces : ι → List Piece)
    (tokens : ι → List Token) (h : ∀ item ∈ items, tokensOf (pieces item) = some (tokens item)) :
    tokensOf (items.flatMap pieces) = some (items.flatMap tokens) := by
  induction items with
  | nil => rfl
  | cons item items ih =>
    obtain ⟨hitem, hitems⟩ := List.forall_mem_cons.mp h
    rw [List.flatMap_cons, tokensOf_append, hitem, ih hitems]
    rfl

/-- A line that its tokens leave in the layout they find, outside brackets. -/
theorem readLine_of_pass (indents : List (Nat × Nat)) {n : Nat} (indent : Nat) {pieces : List Piece}
    {tokens : List Token} (hne : pieces ≠ [])
    (hopen : (Layout.mk indents [] n).open indent = some ([], ⟨indents, [], n⟩))
    (htokens : tokensOf pieces = some tokens)
    (hpass : ∀ token ∈ tokens, (Layout.mk indents [] n).pass token = some ⟨indents, [], n⟩) :
    readLine ⟨indents, [], n⟩ ⟨indent, pieces⟩ =
      some (tokens.map (⟨·, n⟩) ++ [⟨.newline, n⟩], ⟨indents, [], n + 1⟩) := by
  have hpieces : pieces.isEmpty = false := by simpa using hne
  rw [readLine, hpieces, htokens, hopen]
  simp only [Bool.false_eq_true, if_false, Option.bind_eq_bind, Option.bind_some,
    enter_of_pass hpass]
  rfl

/-- A line that its tokens leave in the layout they find, inside brackets. -/
theorem readLine_inside (indents : List (Nat × Nat)) (brackets : List Char) (bracket : Char)
    {n : Nat} (indent : Nat) {pieces : List Piece} {tokens : List Token} (hne : pieces ≠ [])
    (htokens : tokensOf pieces = some tokens)
    (hpass : ∀ token ∈ tokens, (Layout.mk indents (bracket :: brackets) n).pass token =
      some ⟨indents, bracket :: brackets, n⟩) :
    readLine ⟨indents, bracket :: brackets, n⟩ ⟨indent, pieces⟩ =
      some (tokens.map (⟨·, n⟩), ⟨indents, bracket :: brackets, n + 1⟩) := by
  have hpieces : pieces.isEmpty = false := by simpa using hne
  have hopen : (Layout.mk indents (bracket :: brackets) n).open indent =
      some ([], ⟨indents, bracket :: brackets, n⟩) := rfl
  rw [readLine, hpieces, htokens, hopen]
  simp only [Bool.false_eq_true, if_false, Option.bind_eq_bind, Option.bind_some,
    enter_of_pass hpass, List.nil_append]
  exact congrArg (fun lexemes => some (lexemes, _)) (List.append_nil _)

/-- The token of a generated literal. -/
def literalToken (text : String) : Token :=
  .string ⟨false, false, false, text.toList.flatMap Json.escapeChar⟩

/-- A generated literal stands on one line. -/
theorem pass_literal (layout : Layout) (text : String) :
    layout.pass (literalToken text) = some layout := by
  have hnewline : '\n' ∉ text.toList.flatMap Json.escapeChar := by
    intro hmem
    obtain ⟨c, -, hc⟩ := List.mem_flatMap.mp hmem
    exact absurd (Catalogue.unbroken_escapeChar c _ hc) (by decide)
  simp [Layout.pass, literalToken, Layout.after, lineBreaks, List.count_eq_zero.mpr hnewline]

/-! ## Items on lines of their own -/

/-- Items that each stand on a line of their own, under the brackets that are open. -/
theorem readLines_items {ι : Type} {line : ι → Line} (itemLexemes : ι → Nat → List Lexeme)
    {brackets : List Char} {indents : List (Nat × Nat)} {items : List ι}
    (h : ∀ item ∈ items, ∀ n, readLine ⟨indents, brackets, n⟩ (line item) =
      some (itemLexemes item n, ⟨indents, brackets, n + 1⟩)) (n : Nat) :
    ∃ numbered : List (ι × Nat), numbered.map Prod.fst = items ∧
      readLines ⟨indents, brackets, n⟩ (items.map line) =
        some (numbered.flatMap fun item => itemLexemes item.1 item.2,
          ⟨indents, brackets, n + items.length⟩) := by
  induction items generalizing n with
  | nil => exact ⟨[], rfl, rfl⟩
  | cons item items ih =>
    obtain ⟨hitem, hitems⟩ := List.forall_mem_cons.mp h
    obtain ⟨numbered, hnumbered, hread⟩ := ih hitems (n + 1)
    refine ⟨(item, n) :: numbered, by rw [List.map_cons, hnumbered], ?_⟩
    rw [List.map_cons, readLines, hitem]
    simp only [Option.bind_eq_bind, Option.bind_some, hread, List.flatMap_cons, List.length_cons]
    rw [Nat.add_assoc, Nat.add_comm 1]
    rfl

/-! ## Texts as modules -/

/-- What a text says as a module is what its lines say as sentences. -/
theorem parseModule?_of_spells {text : List Char} {n : Nat}
    (htext : endLine text = spellLines lines)
    (hlines : ∀ line ∈ lines, line.isSpelled = true)
    (h : Spells (Parser.unrolled (2 * text.length + 10)) .finish .initial lines values (.plain n)) :
    parseModule? text = (values.mapM id).map List.flatten := by
  obtain ⟨sentences, hread, rfl, hsentences⟩ := h
  have hfinish : (Layout.plain n).finish = some [⟨.finish, n⟩] := rfl
  have htokens : tokens? text = some (sentences.flatMap Prod.fst ++ [⟨.finish, n⟩]) := by
    rw [tokens?_eq_readLines htext hlines, hread, Option.bind_some, hfinish]
    rfl
  have hmodule := Parser.statementsUntil_sentences [] n _ (show Parser.endsStatement .finish by simp [Parser.endsStatement]) hsentences
  have hcontains : text.contains '\x00' = false := by
    simpa using notMem_of_endLine htext hlines (c := '\x00') (by decide) (by decide)
  unfold parseModule?
  rw [hcontains, htokens]
  simp only [Bool.false_eq_true, if_false, Option.bind_eq_bind, Option.bind_some, Parser.module,
    StateT.run, hmodule]
  rw [List.mapM_map, Function.id_comp]
  cases sentences.mapM Prod.snd <;> rfl

/-- Lines are not read if some word on them is none. -/
theorem readLines_eq_none (line : Line) (hne : line.pieces ≠ []) (hline : tokensOf line.pieces = none)
    (hmem : line ∈ lines) (layout : Layout) : readLines layout lines = none := by
  induction lines generalizing layout with
  | nil => exact absurd hmem List.not_mem_nil
  | cons first lines ih =>
    rw [readLines]
    rcases List.mem_cons.mp hmem with rfl | hmem
    · have hpieces : line.pieces.isEmpty = false := by simpa using hne
      rw [readLine, hpieces, hline]
      rfl
    · cases readLine layout first with
      | none => rfl
      | some read => simp [ih hmem]

/-- A text is no module if behind some sentences there stands something that is read by no rule,
whatever follows. -/
theorem parseModule?_eq_none {text : List Char} {front back : List Line}
    (htext : endLine text = spellLines (front ++ back))
    (hlines : ∀ line ∈ front ++ back, line.isSpelled = true)
    (h : Spells (Parser.unrolled (2 * text.length + 10)) .finish .initial front values next)
    (hback : ∀ lexemes last, readLines next back = some (lexemes, last) → ∃ ahead after,
      lexemes = ahead :: after ∧ ahead.token ≠ .finish ∧ Parser.endsStatement ahead.token ∧
        ∀ rest, Parser.statement (Parser.unrolled (2 * text.length + 10)) (lexemes ++ rest) = none) :
    parseModule? text = none := by
  obtain ⟨sentences, hread, -, hsentences⟩ := h
  have htokens := tokens?_eq_readLines htext hlines
  rw [readLines_append, hread, Option.bind_some] at htokens
  unfold parseModule?
  split
  · rfl
  rw [htokens]
  cases hlexemes : readLines next back with
  | none => rfl
  | some read =>
    obtain ⟨lexemes, last⟩ := read
    obtain ⟨ahead, after, hahead, hfinal, hends, hstatement⟩ := hback lexemes last hlexemes
    simp only [Option.map_some, Option.bind_some]
    unfold Layout.finish
    split
    · cases last.open 0 with
      | none => rfl
      | some closing =>
        have hlast : Parser.IsSentence (Parser.unrolled (2 * text.length + 10)) .finish
            (lexemes ++ closing.1) none :=
          ⟨⟨ahead, after ++ closing.1, by rw [hahead]; rfl, hfinal, hends⟩, fun next rest _ => by
            rw [List.append_assoc, hstatement]
            rfl⟩
        have hmodule := Parser.statementsUntil_sentences [] closing.2.line (sentences ++ [(lexemes ++ closing.1, none)]) (show Parser.endsStatement .finish by simp [Parser.endsStatement]) (List.forall_mem_append.mpr ⟨hsentences, List.forall_mem_singleton.mpr hlast⟩)
        have hnone : (sentences ++ [(lexemes ++ closing.1, none)]).mapM Prod.snd = none := by
          rw [List.mapM_append]
          cases sentences.mapM Prod.snd <;> rfl
        rw [hnone, List.flatMap_append, List.flatMap_singleton] at hmodule
        simp only [List.append_assoc] at hmodule ⊢
        simp [Parser.module, StateT.run, hmodule]
    · rfl

end Registrar.Source
