import Registrar.Proofs.Source.Expressions
import Registrar.Proofs.Source.Pieces

/-! # Statements on tokens ahead

Assignments of phrases, imports by names that may turn out to be reserved words, and statements one
behind the other. An import with a reserved word in it is read by no rule.
-/

namespace Registrar.Source.Parser

variable {rules : Rules} {first second : Lexeme} {lexemes rest : List Lexeme} {value : Expr}
  {line : Nat}

/-! ## Imports -/

/-- Names with points between them as tokens. -/
def dottedLexemes (line : Nat) : List Token → List Lexeme
  | [] => []
  | token :: tokens => ⟨token, line⟩ :: tokens.flatMap fun token => [⟨.symbol ".", line⟩, ⟨token, line⟩]

theorem yields_identifier (token : Token) (ends : Token → Prop) :
    Yields identifier [⟨token, line⟩] token.name? ends := fun _ _ _ => identifier_cons

variable (line) in
/-- Names with points between them are read as one, unless a reserved word is among them. -/
theorem yields_dottedName (token : Token) (tokens : List Token) :
    Yields dottedName (dottedLexemes line (token :: tokens))
      (((token :: tokens).mapM Token.name?).map (".".intercalate ·)) (· ≠ .symbol ".") := by
  intro next rest hnext
  have hnames := yields_separated _ _ _ line (fun token => [⟨token, line⟩]) _ token tokens (fun _ h => h) (fun token => yields_identifier token _) next rest hnext
  have hsame : dottedLexemes line (token :: tokens) ++ next :: rest = [⟨token, line⟩] ++
      (tokens.flatMap fun token => ⟨.symbol ".", line⟩ :: [⟨token, line⟩]) ++ next :: rest := rfl
  unfold dottedName
  rw [bind_apply, hsame, hnames, List.mapM_cons]
  cases token.name? with
  | none => rfl
  | some name => cases tokens.mapM Token.name? <;> rfl

/-- A step that counts the points before a relative name. -/
def takesDots : Parser (Option Nat) := do
  if ← takesSymbol "." then return some 1
  else if ← takesSymbol "..." then return some 3
  else return none

/-- The points before a relative name add up to its level. -/
theorem collects_dots (hpoint : first.token ≠ .symbol ".") (hpoints : first.token ≠ .symbol "...") :
    ∀ count, ∃ dots : List Nat, (∀ start, dots.foldl (· + ·) start = start + count) ∧
      Collects takesDots ((Piece.dotTokens count).map (⟨·, line⟩) ++ first :: rest)
        (some (dots, first :: rest))
  | 0 => ⟨[], fun _ => rfl, .stop (by simp [takesDots, Piece.dotTokens, hpoint, hpoints])⟩
  | 1 => ⟨[1], fun _ => rfl, .next _ _ _ rfl (Nat.lt_succ_self _)
      (.stop (by simp [takesDots, hpoint, hpoints]))⟩
  | 2 => ⟨[1, 1], fun _ => rfl, .next _ _ _ rfl (Nat.lt_succ_self _) (.next _ _ _ rfl (Nat.lt_succ_self _)
      (.stop (by simp [takesDots, hpoint, hpoints])))⟩
  | count + 3 => by
    obtain ⟨dots, hsum, hdots⟩ := collects_dots hpoint hpoints count
    have htokens : Piece.dotTokens (count + 3) = .symbol "..." :: Piece.dotTokens count := by
      simp [Piece.dotTokens, List.replicate_succ]
    refine ⟨3 :: dots, fun start => ?_, ?_⟩
    · rw [List.foldl_cons, hsum]
      omega
    · rw [htokens]
      exact .next _ _ _ rfl (Nat.lt_succ_self _) hdots

/-- The statement an import by some names is, unless a reserved word is among them. -/
def importOf (level : Nat) (names : List Token) (imported? : Option (List ImportedName)) :
    Option Stmt := do
  let names ← names.mapM Token.name?
  let imported ← imported?
  return .importFrom level (if names.isEmpty then none else some (".".intercalate names)) imported

/-- The tokens of an import. -/
def importLexemes (level : Nat) (line : Nat) (names : List Token) (imported : List Lexeme) :
    List Lexeme :=
  ⟨.keyword "from", line⟩ :: ((Piece.dotTokens level).map (⟨·, line⟩) ++
    (dottedLexemes line names ++ ⟨.keyword "import", line⟩ :: imported))

/-- Names are names or reserved words. -/
def IsWord (token : Token) : Prop := (∃ id, token = .name id) ∨ ∃ word, token = .keyword word

/-- No names are imported where none is ahead. -/
theorem importedNames_eq_none (hname : first.token.name? = none) (hstar : first.token ≠ .symbol "*")
    (hopen : first.token ≠ .symbol "(") : importedNames (first :: rest) = none := by
  simp [importedNames, separated, hname, hstar, hopen]

variable (first) (line) in
/-- An import is read behind its points. -/
theorem importFrom_of_dots (level : Nat) (after : List Lexeme)
    (hpoint : first.token ≠ .symbol ".") (hpoints : first.token ≠ .symbol "...") :
    importFromStatement (⟨.keyword "from", line⟩ ::
        ((Piece.dotTokens level).map (⟨·, line⟩) ++ first :: after)) =
      (do
        let module ← whenAhead isName dottedName
        if level == 0 && module.isNone then failure
        word "import"
        let names ← importedNames
        return Stmt.importFrom level module names : Parser Stmt) (first :: after) := by
  obtain ⟨dots, hsum, hdots⟩ := collects_dots hpoint hpoints level
  have hread := hdots.collect
  unfold takesDots at hread
  unfold importFromStatement
  rw [bind_apply, word_cons, if_pos rfl, Option.bind_some, bind_apply, hread, Option.bind_some]
  simp only [hsum, Nat.zero_add]

variable (line) in
theorem yields_importFrom {level : Nat} {names : List Token} {imported : List Lexeme}
    {imported? : Option (List ImportedName)} {ends : Token → Prop}
    (hlevel : level = 0 → names ≠ []) (hnames : ∀ name ∈ names, IsWord name)
    (himported : Yields importedNames imported imported? ends) :
    Yields importFromStatement (importLexemes level line names imported)
      (importOf level names imported?) ends := by
  intro next rest hnext
  have hread := himported next rest hnext
  unfold importLexemes
  rw [List.cons_append, List.append_assoc, List.append_assoc, List.cons_append]
  cases names with
  | nil =>
    have hrelative : level ≠ 0 := fun h => hlevel h rfl
    rw [dottedLexemes, List.nil_append, importFrom_of_dots _ _ _ _ (by simp) (by simp)]
    cases imported? <;> simp [importOf, isName, hrelative, hread]
  | cons token tokens =>
    have hdotted := yields_dottedName line token tokens ⟨.keyword "import", line⟩ (imported ++ next :: rest) (by simp)
    rw [importOf, List.mapM_cons]
    rw [List.mapM_cons] at hdotted
    obtain ⟨⟨id, rfl⟩ | ⟨reserved, rfl⟩, -⟩ := List.forall_mem_cons.mp hnames
    · rw [dottedLexemes, List.cons_append] at hdotted ⊢
      rw [importFrom_of_dots _ _ _ _ (by simp) (by simp)]
      cases hmodule : tokens.mapM Token.name? with
      | none =>
        simp only [hmodule, Token.name?] at hdotted
        simp [isName, hdotted]
      | some module =>
        simp only [hmodule, Token.name?] at hdotted
        cases imported? <;> simp [isName, hdotted, hread, Token.name?]
    · rw [dottedLexemes, List.cons_append, importFrom_of_dots _ _ _ _ (by simp) (by simp)]
      have hnone : importedNames ((tokens.flatMap fun token =>
          [⟨.symbol ".", line⟩, ⟨token, line⟩]) ++ ⟨.keyword "import", line⟩ ::
            (imported ++ next :: rest)) = none := by
        cases tokens <;> exact importedNames_eq_none rfl (by simp) (by simp)
      by_cases hreserved : reserved = "import" <;> by_cases hrelative : level = 0 <;>
        simp [isName, hreserved, hrelative, hnone, Token.name?]

/-- The tokens of a name that is bound to another. -/
def bindingLexemes (line : Nat) (binding : Token × Token) : List Lexeme :=
  [⟨binding.1, line⟩, ⟨.keyword "as", line⟩, ⟨binding.2, line⟩]

/-- A name that is bound to another, unless either is a reserved word. -/
def bindingOf (binding : Token × Token) : Option ImportedName := do
  let name ← binding.1.name?
  let bound ← binding.2.name?
  return ⟨name, some bound⟩

variable (line) in
/-- Names that are bound to others are read one by one. -/
theorem yields_bindings (first : Token × Token) (more : List (Token × Token))
    (hfirst : IsWord first.1) :
    Yields importedNames (bindingLexemes line first ++ more.flatMap fun binding =>
        ⟨.symbol ",", line⟩ :: bindingLexemes line binding)
      ((first :: more).mapM bindingOf) (· = .newline) := by
  intro next rest hnext
  have hitems := yields_separated "," ((do
      let name ← identifier
      let binding ← asName
      return ⟨name, binding⟩ : Parser ImportedName)) (· = .newline) line (bindingLexemes line) bindingOf first more (by rintro _ rfl; simp) (by
      intro binding next rest hnext
      cases hname : binding.1.name? <;> cases hbound : binding.2.name? <;>
        simp [bindingLexemes, bindingOf, asName, hname, hbound]) next rest hnext
  have hplain : first.1 ≠ .symbol "*" ∧ first.1 ≠ .symbol "(" := by
    obtain ⟨id, h⟩ | ⟨word, h⟩ := hfirst <;> simp [h]
  rw [List.mapM_cons]
  unfold importedNames
  simp only [bindingLexemes, List.cons_append, List.nil_append] at hitems ⊢
  simp only [bind_apply, takesSymbol_cons, hplain, if_false, Option.bind_some, Bool.false_eq_true,
    hitems]
  cases bindingOf first <;> cases more.mapM bindingOf <;> rfl

/-- Names in brackets that each have a comma behind them. -/
theorem yields_bracketedNames (names : List (String × Nat)) (start finish : Nat) (hne : names ≠ [])
    (ends : Token → Prop) :
    Yields importedNames (⟨.symbol "(", start⟩ :: ((names.flatMap fun name =>
        [⟨.name name.1, name.2⟩] ++ [⟨.symbol ",", name.2⟩]) ++ [⟨.symbol ")", finish⟩]))
      (some (names.map fun name => ⟨name.1, none⟩)) ends := by
  intro next rest _
  have hitems := commaList_trailing (next :: rest) isName ((do
      let name ← identifier
      let binding ← asName
      return ⟨name, binding⟩ : Parser ImportedName)) (⟨.symbol ")", finish⟩) (fun name : String × Nat => [⟨.name name.1, name.2⟩]) Prod.snd (fun name => ⟨name.1, none⟩) hne rfl (fun name _ => ⟨_, _, rfl, rfl⟩) fun name _ next rest hnext => by
      simp [asName, hnext, Token.name?]
  unfold importedNames
  simp only [List.cons_append, List.append_assoc, List.nil_append] at hitems ⊢
  simp only [bind_apply, takesSymbol_cons, if_true, if_false, Option.bind_some, Bool.false_eq_true,
    hitems, Token.symbol.injEq, String.reduceEq, symbol_cons]
  rfl

/-! ## Simple statements -/

variable (rules) (lexemes) (rest) (line) in
/-- A simple statement on a line of its own. -/
theorem simpleStatements_of_one (value? : Option Stmt)
    (h : simpleStatement rules (lexemes ++ ⟨.newline, line⟩ :: rest) =
      value?.map (·, ⟨.newline, line⟩ :: rest)) :
    simpleStatements rules (lexemes ++ ⟨.newline, line⟩ :: rest) = value?.map ([·], rest) := by
  unfold simpleStatements
  rw [bind_apply, h]
  cases value? with
  | none => rfl
  | some value => simp [collect_of_stop]

/-- An import is a statement on a line of its own. -/
theorem statement_import {level : Nat} {names : List Token} {imported : List Lexeme}
    {imported? : Option (List ImportedName)} {finish : Nat}
    (hlevel : level = 0 → names ≠ []) (hnames : ∀ name ∈ names, IsWord name)
    (himported : Yields importedNames imported imported? (· = .newline)) :
    statement rules (importLexemes level line names imported ++ ⟨.newline, finish⟩ :: rest) =
      (importOf level names imported?).map ([·], rest) := by
  have hread := yields_importFrom line hlevel hnames himported ⟨.newline, finish⟩ rest rfl
  exact simpleStatements_of_one _ _ _ _ _ hread

variable (rules) (rest) (line) in
/-- An import needs its second word on the line of the first. -/
theorem statement_unfinishedImport {names : List Token} (finish : Nat) (hne : names ≠ [])
    (hnames : ∀ name ∈ names, IsWord name) :
    statement rules (⟨.keyword "from", line⟩ ::
      (dottedLexemes line names ++ ⟨.newline, finish⟩ :: rest)) = none := by
  have hread : importFromStatement (⟨.keyword "from", line⟩ ::
      (dottedLexemes line names ++ ⟨.newline, finish⟩ :: rest)) = none := by
    obtain ⟨token, tokens, rfl⟩ := List.exists_cons_of_ne_nil hne
    have hdotted := yields_dottedName line token tokens ⟨.newline, finish⟩ rest (by simp)
    have hdots := fun after => importFrom_of_dots (⟨token, line⟩) line 0 after
    rw [dottedLexemes, List.cons_append] at hdotted ⊢
    obtain ⟨⟨id, rfl⟩ | ⟨reserved, rfl⟩, -⟩ := List.forall_mem_cons.mp hnames
    · refine (hdots _ (by simp) (by simp)).trans ?_
      cases hmodule : (Token.name id :: tokens).mapM Token.name? with
      | none => simp [isName, hdotted, hmodule]
      | some module => simp [isName, hdotted, hmodule]
    · exact (hdots _ (by simp) (by simp)).trans (by simp [isName])
  have hnone : simpleStatements rules (⟨.keyword "from", line⟩ ::
      (dottedLexemes line names ++ ⟨.newline, finish⟩ :: rest)) = none := by
    unfold simpleStatements
    rw [bind_apply]
    have hone : simpleStatement rules (⟨.keyword "from", line⟩ ::
        (dottedLexemes line names ++ ⟨.newline, finish⟩ :: rest)) = none := hread
    rw [hone]
    rfl
  exact hnone

variable (rules) (lexemes) in
/-- One expression where several could stand. -/
theorem starExpressions_of_expression (hopens : opensAtom first.token = true)
    (h : rules.expression (first :: lexemes) = some (value, second :: rest))
    (hcomma : second.token ≠ .symbol ",") :
    starExpressions rules (first :: lexemes) = some (value, second :: rest) := by
  obtain ⟨-, -, -, -, -, hstar⟩ := opensAtom_ne hopens
  have hone := commaList_one (first :: lexemes) startsStarred (starredOrPlain rules) (by simpa [starredOrPlain, hstar] using h) hcomma
  simp [starExpressions, hone, asTuple]

variable (rules) in
theorem yieldOrExpressions_of_expression (hopens : opensAtom first.token = true)
    (h : rules.expression (first :: lexemes) = some (value, second :: rest))
    (hcomma : second.token ≠ .symbol ",") :
    yieldOrExpressions rules (first :: lexemes) = some (value, second :: rest) := by
  obtain ⟨-, -, -, -, hyield, -⟩ := opensAtom_ne hopens
  simp [yieldOrExpressions, hyield, starExpressions_of_expression _ _ hopens h hcomma]

/-- A statement that starts with a name is simple. -/
theorem statement_name {name : String} (hname : name ≠ "match") :
    statement rules (⟨.name name, line⟩ :: lexemes) =
      simpleStatements rules (⟨.name name, line⟩ :: lexemes) := by
  simp [statement, hname]

variable {depth finish : Nat}

variable (lexemes) (line) in
/-- A value behind a target and an equals sign. -/
theorem statement_assign (target : String) (equals : Nat) (htarget : target ≠ "match")
    (hopens : opensAtom first.token = true)
    (hvalue : expression (unrolled depth) (first :: lexemes ++ ⟨.newline, finish⟩ :: rest) =
      some (value, ⟨.newline, finish⟩ :: rest)) :
    statement (unrolled (depth + 1)) (⟨.name target, line⟩ :: ⟨.symbol "=", equals⟩ ::
      (first :: lexemes ++ ⟨.newline, finish⟩ :: rest)) =
        some ([.assign [.name target] value], rest) := by
  have hname := starExpressions_of_expression (unrolled (depth + 1)) (⟨.symbol "=", equals⟩ :: (first :: lexemes ++ ⟨.newline, finish⟩ :: rest)) rfl (expression_name _ _ target line rfl) (by simp)
  have hright := yieldOrExpressions_of_expression (unrolled (depth + 1)) hopens hvalue (by simp)
  rw [statement_name htarget]
  have hone := simpleStatements_of_one (unrolled (depth + 1)) (⟨.name target, line⟩ :: ⟨.symbol "=", equals⟩ :: first :: lexemes) rest finish (some (.assign [.name target] value)) (by
      have hvalues := (Collects.next
        (⟨.symbol "=", equals⟩ :: (first :: lexemes ++ ⟨.newline, finish⟩ :: rest))
        (do if ← takesSymbol "=" then some <$> yieldOrExpressions (unrolled (depth + 1))
            else return none) value
        (by simpa using hright) (by grind) (.stop (by simp; rfl))).collect
      simp only [List.cons_append] at hname hvalues ⊢
      simp [simpleStatement, expressionStatement, hname, hvalues, Expr.isAssignable, Expr.isTarget])
  exact hone

variable (line) in
/-- A value behind an annotated target. -/
theorem statement_annotated (target : String) {hint : List Lexeme} {type : Expr}
    (colon : Nat) {equals : Nat} (htarget : target ≠ "match") (hopens : opensAtom first.token = true)
    (hhint : expression (unrolled depth) (hint ++ ⟨.symbol "=", equals⟩ ::
      (first :: lexemes ++ ⟨.newline, finish⟩ :: rest)) = some (type, ⟨.symbol "=", equals⟩ ::
        (first :: lexemes ++ ⟨.newline, finish⟩ :: rest)))
    (hvalue : expression (unrolled depth) (first :: lexemes ++ ⟨.newline, finish⟩ :: rest) =
      some (value, ⟨.newline, finish⟩ :: rest)) :
    statement (unrolled (depth + 1)) (⟨.name target, line⟩ :: ⟨.symbol ":", colon⟩ ::
      (hint ++ ⟨.symbol "=", equals⟩ :: (first :: lexemes ++ ⟨.newline, finish⟩ :: rest))) =
        some ([.annAssign (.name target) type (some value)], rest) := by
  have hname := starExpressions_of_expression (unrolled (depth + 1)) (⟨.symbol ":", colon⟩ :: (hint ++ ⟨.symbol "=", equals⟩ ::
      (first :: lexemes ++ ⟨.newline, finish⟩ :: rest))) rfl (expression_name _ _ target line rfl) (by simp)
  have hright : yieldOrExpressions (unrolled (depth + 1))
      (first :: lexemes ++ ⟨.newline, finish⟩ :: rest) = some (value, ⟨.newline, finish⟩ :: rest) :=
    yieldOrExpressions_of_expression _ hopens hvalue (by simp)
  rw [statement_name htarget]
  have hone := simpleStatements_of_one (unrolled (depth + 1)) (⟨.name target, line⟩ :: ⟨.symbol ":", colon⟩ ::
      (hint ++ ⟨.symbol "=", equals⟩ :: first :: lexemes)) rest finish (some (.annAssign (.name target) type (some value))) (by
      have htype : (unrolled (depth + 1)).expression (hint ++ ⟨.symbol "=", equals⟩ ::
        (first :: lexemes ++ ⟨.newline, finish⟩ :: rest)) = _ := hhint
      simp only [List.cons_append, List.append_assoc] at hname hright htype ⊢
      simp [simpleStatement, expressionStatement, hname, htype, hright, Expr.isSingleTarget])
  simpa using hone

/-- A text on a line of its own. -/
theorem statement_string {body : List Char} {points : List Nat}
    (hpoints : Escape.decodeFrom false .plain body = some points) :
    statement (unrolled (depth + 1)) (⟨.string ⟨false, false, false, body⟩, line⟩ ::
      ⟨.newline, finish⟩ :: rest) = some ([.evaluate (.constant (.text points))], rest) := by
  have hvalue := starExpressions_of_expression (unrolled (depth + 1)) (⟨.newline, finish⟩ :: rest) rfl (expression_string line hpoints rfl) (by simp)
  have hone := simpleStatements_of_one (unrolled (depth + 1)) [⟨.string ⟨false, false, false, body⟩, line⟩] rest finish (some (.evaluate (.constant (.text points)))) (by simp [simpleStatement, expressionStatement, hvalue, augmentation?])
  simpa [statement] using hone

/-! ## Statements one behind the other -/

/-- Tokens that may stand behind a statement: no further branch of a conditional. -/
def endsStatement (token : Token) : Prop := token ≠ .keyword "elif" ∧ token ≠ .keyword "else"

/-- Tokens that the rules read as statements, unless a reserved word stands for a name in them. -/
structure IsSentence (rules : Rules) (final : Token) (lexemes : List Lexeme)
    (value? : Option (List Stmt)) : Prop where
  opens : ∃ ahead after, lexemes = ahead :: after ∧ ahead.token ≠ final ∧ endsStatement ahead.token
  yields : Yields (statement rules) lexemes value? endsStatement

variable (rest) in
/-- Sentences are read one by one up to the token that ends them. -/
theorem statementsUntil_sentences {final : Token} (ends : Nat)
    (sentences : List (List Lexeme × Option (List Stmt))) (hfinal : endsStatement final)
    (h : ∀ sentence ∈ sentences, IsSentence rules final sentence.1 sentence.2) :
    statementsUntil final rules ((sentences.flatMap Prod.fst) ++ ⟨final, ends⟩ :: rest) =
      (sentences.mapM Prod.snd).map fun statements => (statements.flatten, rest) := by
  have hcollects : Collects
      (do if (← peek) == final then return none else some <$> statement rules)
      ((sentences.flatMap Prod.fst) ++ ⟨final, ends⟩ :: rest)
      ((sentences.mapM Prod.snd).map (·, ⟨final, ends⟩ :: rest)) := by
    induction sentences with
    | nil => exact .stop (by simp)
    | cons sentence sentences ih =>
      obtain ⟨hsentence, hsentences⟩ := List.forall_mem_cons.mp h
      have hmore := ih hsentences
      obtain ⟨next, more, hnext, hends⟩ : ∃ next more,
          (sentences.flatMap Prod.fst) ++ ⟨final, ends⟩ :: rest = next :: more ∧
            endsStatement next.token := by
        cases sentences with
        | nil => exact ⟨_, _, rfl, hfinal⟩
        | cons other others =>
          obtain ⟨ahead, after, hahead, -, hends⟩ := (hsentences other List.mem_cons_self).opens
          exact ⟨ahead, _, by rw [List.flatMap_cons, hahead]; rfl, hends⟩
      obtain ⟨ahead, after, hahead, hne, -⟩ := hsentence.opens
      have hread := hsentence.yields next more hends
      rw [List.flatMap_cons, List.append_assoc, hnext, List.mapM_cons]
      rw [hnext] at hmore
      rw [hahead] at hread ⊢
      cases hvalue : sentence.2 with
      | none =>
        rw [hvalue] at hread
        exact .fail (by simpa [hne] using hread)
      | some statements =>
        rw [hvalue] at hread
        have hall := Collects.next (ahead :: after ++ next :: more)
          (do if (← peek) == final then return none else some <$> statement rules) statements
          (by simpa [hne] using hread) (by grind) hmore
        cases hothers : sentences.mapM Prod.snd <;> simpa [hothers] using hall
  unfold statementsUntil
  rw [bind_apply, hcollects.collect]
  cases sentences.mapM Prod.snd <;> simp

variable (rest) (line) in
/-- A block of sentences. -/
theorem block_sentences {sentences : List (List Lexeme × Option (List Stmt))} (start dedent : Nat)
    (hne : sentences ≠ [])
    (h : ∀ sentence ∈ sentences, IsSentence rules .dedent sentence.1 sentence.2)
    (hfilled : ∀ sentence ∈ sentences, sentence.2 ≠ some []) :
    block rules (⟨.newline, line⟩ :: ⟨.indent, start⟩ ::
      (sentences.flatMap Prod.fst ++ ⟨.dedent, dedent⟩ :: rest)) =
        (sentences.mapM Prod.snd).map fun statements => (statements.flatten, rest) := by
  have hbody := statementsUntil_sentences rest dedent _ (show endsStatement .dedent by simp [endsStatement]) h
  cases hstatements : sentences.mapM Prod.snd with
  | none => simp [block, hbody, hstatements]
  | some statements =>
    have hfull : ¬∀ part ∈ statements, part = [] := by
      obtain ⟨sentence, sentences, rfl⟩ := List.exists_cons_of_ne_nil hne
      rw [List.mapM_cons] at hstatements
      cases hvalue : sentence.2 with
      | none => simp [hvalue] at hstatements
      | some value =>
        cases hmore : sentences.mapM Prod.snd with
        | none => simp [hvalue, hmore] at hstatements
        | some more =>
          simp only [hvalue, hmore] at hstatements
          cases hstatements
          intro hall
          rw [hall value List.mem_cons_self] at hvalue
          exact hfilled sentence List.mem_cons_self hvalue
    simp [block, hbody, hstatements, hfull]

variable (rest) (line) in
/-- A block of sentences below a condition, which no other branch follows. -/
theorem statement_if (condition : String) {sentences : List (List Lexeme × Option (List Stmt))}
    {next : Lexeme} (start dedent : Nat) (hne : sentences ≠ [])
    (h : ∀ sentence ∈ sentences, IsSentence (unrolled depth) .dedent sentence.1 sentence.2)
    (hfilled : ∀ sentence ∈ sentences, sentence.2 ≠ some [])
    (hnext : endsStatement next.token) :
    statement (unrolled (depth + 1)) (⟨.keyword "if", line⟩ :: ⟨.name condition, line⟩ ::
      ⟨.symbol ":", line⟩ :: ⟨.newline, line⟩ :: ⟨.indent, start⟩ ::
        (sentences.flatMap Prod.fst ++ ⟨.dedent, dedent⟩ :: next :: rest)) =
      (sentences.mapM Prod.snd).map fun statements =>
        ([.conditional (.name condition) statements.flatten []], next :: rest) := by
  have hcondition : (unrolled (depth + 1)).expression _ = _ :=
    expression_name (⟨.symbol ":", line⟩) (⟨.newline, line⟩ :: ⟨.indent, start⟩ ::
        (sentences.flatMap Prod.fst ++ ⟨.dedent, dedent⟩ :: next :: rest)) condition line rfl
  have hblock : (unrolled (depth + 1)).block _ = _ :=
    block_sentences (next :: rest) line start dedent hne h hfilled
  obtain ⟨helif, helse⟩ := hnext
  cases hstatements : sentences.mapM Prod.snd with
  | none =>
    rw [hstatements] at hblock
    simp [statement, ifStatement, namedExpression, suite, hcondition, hblock]
  | some statements =>
    rw [hstatements] at hblock
    simp [statement, ifStatement, namedExpression, suite, optionalSuite, hcondition, hblock,
      collect_of_stop, helif, helse]

variable (rest) (line) in
/-- A function without parameters that gives nothing, with a block of sentences. -/
theorem statement_asyncDef (name : String) {sentences : List (List Lexeme × Option (List Stmt))}
    (start dedent : Nat) (hne : sentences ≠ [])
    (h : ∀ sentence ∈ sentences, IsSentence (unrolled depth) .dedent sentence.1 sentence.2)
    (hfilled : ∀ sentence ∈ sentences, sentence.2 ≠ some []) :
    statement (unrolled (depth + 1)) (⟨.keyword "async", line⟩ :: ⟨.keyword "def", line⟩ ::
      ⟨.name name, line⟩ :: ⟨.symbol "(", line⟩ :: ⟨.symbol ")", line⟩ :: ⟨.symbol "->", line⟩ ::
        ⟨.keyword "None", line⟩ :: ⟨.symbol ":", line⟩ :: ⟨.newline, line⟩ :: ⟨.indent, start⟩ ::
          (sentences.flatMap Prod.fst ++ ⟨.dedent, dedent⟩ :: rest)) =
      (sentences.mapM Prod.snd).map fun statements =>
        ([.functionDef true name (.mk [] [] none [] none) [] (some (.constant .none))
          statements.flatten], rest) := by
  have hreturns : (unrolled (depth + 1)).expression (⟨.keyword "None", line⟩ ::
      ⟨.symbol ":", line⟩ :: ⟨.newline, line⟩ :: ⟨.indent, start⟩ ::
        (sentences.flatMap Prod.fst ++ ⟨.dedent, dedent⟩ :: rest)) =
      some (.constant .none, ⟨.symbol ":", line⟩ :: ⟨.newline, line⟩ :: ⟨.indent, start⟩ ::
        (sentences.flatMap Prod.fst ++ ⟨.dedent, dedent⟩ :: rest)) :=
    expression_of_atom rfl rfl rfl
  have hblock : (unrolled (depth + 1)).block _ = _ :=
    block_sentences rest line start dedent hne h hfilled
  have hparameters (after : List Lexeme) :
      functionParameters (unrolled (depth + 1)) (⟨.symbol ")", line⟩ :: after) =
        some (.mk [] [] none [] none, ⟨.symbol ")", line⟩ :: after) := rfl
  cases hstatements : sentences.mapM Prod.snd with
  | none =>
    rw [hstatements] at hblock
    simp [statement, asyncStatement, functionStatement, hparameters, suite, hreturns, hblock,
      Token.name?]
  | some statements =>
    rw [hstatements] at hblock
    simp [statement, asyncStatement, functionStatement, hparameters, suite, hreturns, hblock,
      Token.name?]

end Registrar.Source.Parser
