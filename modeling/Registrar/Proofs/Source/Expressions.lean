import Registrar.Proofs.Source.Combinators
import Registrar.Source.Parser.Module

/-! # Expressions on tokens ahead

An atom with what is applied to it is an expression when a bracket, a comma or the end of the line
comes next: no rule in between takes anything. From this the displays that a generated module
holds are read: a tuple and a dictionary whose items each have a comma behind them.
-/

namespace Registrar.Source.Parser

variable {rules : Rules} {first second : Lexeme} {lexemes rest : List Lexeme} {value : Expr}

/-- Tokens behind which no expression goes on. -/
def closes : Token → Bool
  | .symbol text => [",", ")", "]", "\x7d", ":", "="].contains text
  | .newline => true
  | _ => false

/-- Tokens that open an atom, and nothing else that an expression can start with. -/
def opensAtom : Token → Bool
  | .name _ | .string _ => true
  | .symbol text => ["(", "[", "\x7b", "..."].contains text
  | .keyword text => ["None", "True", "False"].contains text
  | _ => false

theorem closes_cases {token : Token} (h : closes token = true) :
    token = .newline ∨ token = .symbol "," ∨ token = .symbol ")" ∨ token = .symbol "]" ∨
      token = .symbol "\x7d" ∨ token = .symbol ":" ∨ token = .symbol "=" := by
  unfold closes at h
  split at h
  · simpa using h
  · exact .inl rfl
  · cases h

theorem opensAtom_ne {token : Token} (h : opensAtom token = true) :
    sign? token = none ∧ token ≠ .keyword "await" ∧ token ≠ .keyword "not" ∧
      token ≠ .keyword "lambda" ∧ token ≠ .keyword "yield" ∧ token ≠ .symbol "*" := by
  unfold opensAtom at h
  split at h
  · simp [sign?]
  · simp [sign?]
  · simp only [List.contains_iff_mem, List.mem_cons, List.not_mem_nil, or_false] at h
    rcases h with rfl | rfl | rfl | rfl <;> simp [sign?]
  · simp only [List.contains_iff_mem, List.mem_cons, List.not_mem_nil, or_false] at h
    rcases h with rfl | rfl | rfl <;> simp [sign?]
  · cases h

theorem leftGrouped_of_stop {operator? : Token → Option BinaryOperator} {operand : Parser Expr}
    (h : operand lexemes = some (value, first :: rest)) (hstop : operator? first.token = none) :
    leftGrouped operator? operand lexemes = some (value, first :: rest) := by
  simp [leftGrouped, h, collect_of_stop, hstop]

theorem comparisonOperator_of_closes (h : closes first.token = true) :
    comparisonOperator (first :: rest) = some (none, first :: rest) := by
  obtain ⟨token, line⟩ := first
  rcases closes_cases h with h | h | h | h | h | h | h <;> obtain rfl := h <;>
    cases rest <;> rfl

/-- An atom with what is applied to it is an expression if what follows ends one. -/
theorem expression_of_primary (hopens : opensAtom first.token = true)
    (h : primary rules (first :: lexemes) = some (value, second :: rest))
    (hcloses : closes second.token = true) :
    expression rules (first :: lexemes) = some (value, second :: rest) := by
  obtain ⟨hsign, hawait, hnot, hlambda, -, -⟩ := opensAtom_ne hopens
  have hpower : second.token ≠ .symbol "**" := by
    rcases closes_cases hcloses with h | h | h | h | h | h | h <;> simp [h]
  have hfactor : factor rules (first :: lexemes) = some (value, second :: rest) := by
    simp [factor, power, collect_of_stop, hsign, hawait, h, hpower]
  have hbitOr : bitOr rules (first :: lexemes) = some (value, second :: rest) := by
    refine leftGrouped_of_stop (leftGrouped_of_stop (leftGrouped_of_stop (leftGrouped_of_stop
      (leftGrouped_of_stop (leftGrouped_of_stop hfactor ?_) ?_) ?_) ?_) ?_) ?_
    all_goals rcases closes_cases hcloses with h | h | h | h | h | h | h <;> simp [h]
  have hcomparison : comparison rules (first :: lexemes) = some (value, second :: rest) := by
    simp [comparison, hbitOr, collect_of_stop, comparisonOperator_of_closes hcloses]
  have hwords : second.token ≠ .keyword "and" ∧ second.token ≠ .keyword "or" ∧
      second.token ≠ .keyword "if" := by
    rcases closes_cases hcloses with h | h | h | h | h | h | h <;> simp [h]
  obtain ⟨hand, hor, hif⟩ := hwords
  have hinversion : inversion rules (first :: lexemes) = some (value, second :: rest) := by
    simp [inversion, hnot, collect_of_stop, hcomparison]
  have hdisjunction : disjunction rules (first :: lexemes) = some (value, second :: rest) := by
    simp [disjunction, conjunction, connected, hinversion, collect_of_stop, hand, hor]
  simp [expression, hlambda, hdisjunction, hif]

/-! ## Atoms -/

/-- Nothing is applied to an atom that ends an expression. -/
theorem primary_of_atom (h : atom rules (first :: lexemes) = some (value, second :: rest))
    (hcloses : closes second.token = true) :
    primary rules (first :: lexemes) = some (value, second :: rest) := by
  have htrailer : trailer rules first.line (second :: rest) = some (none, second :: rest) := by
    rcases closes_cases hcloses with h | h | h | h | h | h | h <;> simp [trailer, h]
  simp [primary, h, collect_of_stop, htrailer]

theorem expression_of_atom (hopens : opensAtom first.token = true)
    (h : atom rules (first :: lexemes) = some (value, second :: rest))
    (hcloses : closes second.token = true) :
    expression rules (first :: lexemes) = some (value, second :: rest) :=
  expression_of_primary hopens (primary_of_atom h hcloses) hcloses

variable (second) (rest) in
theorem expression_name (id : String) (line : Nat) (hcloses : closes second.token = true) :
    expression rules (⟨.name id, line⟩ :: second :: rest) = some (.name id, second :: rest) :=
  expression_of_atom rfl rfl hcloses

/-- A plain text literal stands for its code points. -/
theorem expression_string {body : List Char} {points : List Nat} (line : Nat)
    (hpoints : Escape.decodeFrom false .plain body = some points)
    (hcloses : closes second.token = true) :
    expression rules (⟨.string ⟨false, false, false, body⟩, line⟩ :: second :: rest) =
      some (.constant (.text points), second :: rest) := by
  refine expression_of_atom rfl ?_ hcloses
  have hone : stringLiterals (⟨.string ⟨false, false, false, body⟩, line⟩ :: second :: rest) =
      some ([⟨false, false, false, body⟩], second :: rest) := by
    refine (Collects.next _ _ _ rfl
      (Nat.lt_succ_self _) (.stop ?_)).collect
    rcases closes_cases hcloses with h | h | h | h | h | h | h <;> simp [h]
  have hjoin : joinLiterals rules.field [⟨false, false, false, body⟩] =
      some (.constant (.text points)) := by
    simp [joinLiterals, Escape.decodeText, hpoints]
  simp [atom, strings, hone, hjoin]

/-! ## Displays -/

/-- Tokens that open a literal or a bracket. -/
def opensPhrase : Token → Bool
  | .string _ => true
  | .symbol text => ["(", "[", "\x7b"].contains text
  | _ => false

theorem opensPhrase_cases {token : Token} (h : opensPhrase token = true) :
    (∃ literal, token = .string literal) ∨ token = .symbol "(" ∨ token = .symbol "[" ∨
      token = .symbol "\x7b" := by
  unfold opensPhrase at h
  split at h
  · exact .inl ⟨_, rfl⟩
  · simpa using h
  · cases h

/-- Tokens that the rules read as an expression, which starts with a literal or a bracket. -/
structure IsPhrase (rules : Rules) (lexemes : List Lexeme) (value : Expr) : Prop where
  opens : ∃ ahead after, lexemes = ahead :: after ∧ opensPhrase ahead.token = true
  yields : Yields rules.expression lexemes (some value) (closes · = true)

namespace IsPhrase

variable {key : Expr} {keyLexemes : List Lexeme}

/-- Two tokens are ahead where a phrase starts. -/
theorem ahead (h : IsPhrase rules lexemes value) (next : Lexeme) (rest : List Lexeme) :
    ∃ token line other after, lexemes ++ next :: rest = ⟨token, line⟩ :: other :: after ∧
      ((∃ literal, token = .string literal) ∨ token = .symbol "(" ∨ token = .symbol "[" ∨
        token = .symbol "\x7b") := by
  obtain ⟨⟨token, line⟩, after, rfl, hopens⟩ := h.opens
  cases after with
  | nil => exact ⟨token, line, next, rest, rfl, opensPhrase_cases hopens⟩
  | cons other after => exact ⟨token, line, other, _, rfl, opensPhrase_cases hopens⟩

/-- Where a phrase starts the rules look for nothing else. -/
theorem starts (h : IsPhrase rules lexemes value) :
    ∃ ahead after, lexemes = ahead :: after ∧ startsStarred ahead.token = true ∧
      startsArgument ahead.token = true ∧ startsDictItem ahead.token = true := by
  obtain ⟨⟨token, line⟩, after, rfl, hopens⟩ := h.opens
  refine ⟨_, _, rfl, ?_⟩
  obtain ⟨literal, rfl⟩ | rfl | rfl | rfl := opensPhrase_cases hopens <;>
    exact ⟨rfl, rfl, rfl⟩

theorem namedExpression (h : IsPhrase rules lexemes value) :
    Yields (namedExpression rules) lexemes (some value) (closes · = true) := by
  intro next rest hnext
  have hread := h.yields next rest hnext
  obtain ⟨token, line, other, after, hahead, hopens⟩ := h.ahead next rest
  rw [hahead] at hread ⊢
  obtain ⟨literal, rfl⟩ | rfl | rfl | rfl := hopens <;> exact hread

theorem starredOrNamed (h : IsPhrase rules lexemes value) :
    Yields (starredOrNamed rules) lexemes (some value) (closes · = true) := by
  intro next rest hnext
  have hread := h.namedExpression next rest hnext
  obtain ⟨token, line, other, after, hahead, hopens⟩ := h.ahead next rest
  rw [hahead] at hread ⊢
  obtain ⟨literal, rfl⟩ | rfl | rfl | rfl := hopens <;> exact hread

theorem argument (h : IsPhrase rules lexemes value) :
    Yields (argument rules) lexemes (some (.positional value)) (closes · = true) := by
  intro next rest hnext
  have hread := h.namedExpression next rest hnext
  obtain ⟨token, line, other, after, hahead, hopens⟩ := h.ahead next rest
  rw [hahead] at hread ⊢
  obtain ⟨literal, rfl⟩ | rfl | rfl | rfl := hopens <;> simp [Parser.argument, hread]

theorem dictItem (hkey : IsPhrase rules keyLexemes key) (h : IsPhrase rules lexemes value)
    (line : Nat) :
    Yields (dictItem rules) (keyLexemes ++ ⟨.symbol ":", line⟩ :: lexemes) (some (some key, value))
      (closes · = true) := by
  intro next rest hnext
  have hread := h.yields next rest hnext
  have hfirst := hkey.yields ⟨.symbol ":", line⟩ (lexemes ++ next :: rest) rfl
  obtain ⟨token, start, other, after, hahead, hopens⟩ :=
    hkey.ahead ⟨.symbol ":", line⟩ (lexemes ++ next :: rest)
  rw [List.append_assoc, List.cons_append, hahead]
  rw [hahead] at hfirst
  obtain ⟨literal, rfl⟩ | rfl | rfl | rfl := hopens <;> simp [Parser.dictItem, hfirst, hread]

end IsPhrase

variable {ι : Type} {keys values : ι → List Lexeme} {colon comma : ι → Nat} {key value : ι → Expr}

/-- The tokens of an item of a dictionary display. -/
def itemLexemes (keys values : ι → List Lexeme) (colon : ι → Nat) (i : ι) : List Lexeme :=
  keys i ++ ⟨.symbol ":", colon i⟩ :: values i

/-- No clause of a comprehension starts with a comma. -/
theorem clausesAhead_comma (line : Nat) (next : Lexeme) (rest : List Lexeme) :
    clausesAhead (⟨.symbol ",", line⟩ :: next :: rest) =
      some (false, ⟨.symbol ",", line⟩ :: next :: rest) := rfl

variable (rest) (colon) (comma) in
/-- The rest of a dictionary display whose items each have a comma behind them. -/
theorem dictRest_items (items : List ι) (line finish : Nat) (first : Option Expr × Expr)
    (hkeys : ∀ i, IsPhrase rules (keys i) (key i))
    (hvalues : ∀ i, IsPhrase rules (values i) (value i)) :
    dictRest rules first (⟨.symbol ",", line⟩ ::
      ((items.flatMap fun i => itemLexemes keys values colon i ++ [⟨.symbol ",", comma i⟩]) ++
        ⟨.symbol "\x7d", finish⟩ :: rest)) =
      some (.dict (first :: items.map fun i => (some (key i), value i)), rest) := by
  cases items with
  | nil => simp [dictRest, startsDictItem, startsExpression]
  | cons i items =>
    have hstarts (i : ι) : ∃ ahead after, itemLexemes keys values colon i = ahead :: after ∧
        startsDictItem ahead.token = true := by
      obtain ⟨ahead, after, hahead, -, -, hitem⟩ := (hkeys i).starts
      exact ⟨ahead, _, by rw [itemLexemes, hahead]; rfl, hitem⟩
    have hitems := commaList_trailing rest _ _ (⟨.symbol "\x7d", finish⟩) _ comma _ (List.cons_ne_nil i items) rfl (fun i _ => hstarts i) fun i _ next rest hnext =>
        (hkeys i).dictItem (hvalues i) (colon i) next rest (by rw [hnext]; rfl)
    obtain ⟨ahead, after, hahead, hopens⟩ := exists_start
      (List.cons_ne_nil i items) (⟨.symbol "\x7d", finish⟩ :: rest) fun i _ => hstarts i
    rw [hahead] at hitems ⊢
    simp [dictRest, hopens, hitems]

/-- A dictionary display whose items each have a comma behind them. -/
theorem curlyDisplay_items {items : List ι} (start : Nat) {finish : Nat} (hne : items ≠ [])
    (hkeys : ∀ i, IsPhrase rules (keys i) (key i))
    (hvalues : ∀ i, IsPhrase rules (values i) (value i)) :
    curlyDisplay rules (⟨.symbol "\x7b", start⟩ ::
      ((items.flatMap fun i => itemLexemes keys values colon i ++ [⟨.symbol ",", comma i⟩]) ++
        ⟨.symbol "\x7d", finish⟩ :: rest)) =
      some (.dict (items.map fun i => (some (key i), value i)), rest) := by
  obtain ⟨i, items, rfl⟩ := List.exists_cons_of_ne_nil hne
  have hmore := dictRest_items rest colon comma items (comma i) finish (some (key i), value i) hkeys hvalues
  rw [List.flatMap_cons, itemLexemes]
  simp only [List.append_assoc, List.cons_append, List.nil_append]
  obtain ⟨next, more, hnext⟩ := List.exists_cons_of_ne_nil (List.append_ne_nil_of_right_ne_nil
    (items.flatMap fun i => itemLexemes keys values colon i ++ [⟨.symbol ",", comma i⟩])
    (List.cons_ne_nil (⟨.symbol "\x7d", finish⟩ : Lexeme) rest))
  rw [hnext] at hmore ⊢
  have hkey := (hkeys i).yields ⟨.symbol ":", colon i⟩
    (values i ++ ⟨.symbol ",", comma i⟩ :: next :: more) rfl
  have hvalue := (hvalues i).yields ⟨.symbol ",", comma i⟩ (next :: more) rfl
  obtain ⟨token, line, other, after, hahead, hopens⟩ := (hkeys i).ahead ⟨.symbol ":", colon i⟩
    (values i ++ ⟨.symbol ",", comma i⟩ :: next :: more)
  rw [hahead] at hkey ⊢
  obtain ⟨literal, rfl⟩ | rfl | rfl | rfl := hopens <;>
    simp [curlyDisplay, hkey, hvalue, clausesAhead_comma, hmore]

variable (rest) (comma) in
/-- Elements between brackets that each have a comma behind them. -/
theorem elementsOrComprehension_elements {items : List ι} (finish : Nat) (kind : ComprehensionKind)
    (closing : String) (display : List Expr × Bool → Option Expr) {shown : Expr}
    (hne : items ≠ []) (hclosing : startsStarred (.symbol closing) = false)
    (hvalues : ∀ i, IsPhrase rules (values i) (value i))
    (hshown : display (items.map value, true) = some shown) :
    elementsOrComprehension rules closing kind display
      ((items.flatMap fun i => values i ++ [⟨.symbol ",", comma i⟩]) ++
        ⟨.symbol closing, finish⟩ :: rest) =
      some (shown, rest) := by
  obtain ⟨i, items, rfl⟩ := List.exists_cons_of_ne_nil hne
  obtain ⟨next, more, hnext⟩ := List.exists_cons_of_ne_nil (List.append_ne_nil_of_right_ne_nil
    (items.flatMap fun i => values i ++ [⟨.symbol ",", comma i⟩])
    (List.cons_ne_nil (⟨.symbol closing, finish⟩ : Lexeme) rest))
  have hfirst := (hvalues i).starredOrNamed ⟨.symbol ",", comma i⟩ (next :: more) rfl
  rw [List.flatMap_cons]
  simp only [List.append_assoc, List.cons_append, List.nil_append]
  rw [hnext]
  have hstarts (i : ι) : ∃ ahead after, values i = ahead :: after ∧
      startsStarred ahead.token = true := by
    obtain ⟨ahead, after, hahead, hitem, -⟩ := (hvalues i).starts
    exact ⟨ahead, after, hahead, hitem⟩
  by_cases h : items = []
  · subst h
    obtain ⟨rfl, rfl⟩ := List.cons.inj hnext
    rw [List.map_singleton] at hshown
    simp [elementsOrComprehension, hfirst, clausesAhead_comma, hclosing, hshown]
  · have hitems := commaList_trailing rest _ _ (⟨.symbol closing, finish⟩) _ comma _ h hclosing (fun i _ => hstarts i) fun i _ next rest hnext =>
        (hvalues i).starredOrNamed next rest (by rw [hnext]; rfl)
    obtain ⟨ahead, after, hahead, hopens⟩ :=
      exists_start h (⟨.symbol closing, finish⟩ :: rest) fun i _ => hstarts i
    obtain ⟨rfl, rfl⟩ := List.cons.inj (hnext.symm.trans hahead)
    rw [hnext] at hitems
    rw [List.map_cons] at hshown
    simp [elementsOrComprehension, hfirst, clausesAhead_comma, hopens, hitems, hshown]

variable (first) in
/-- A bracket before a phrase, which makes a tuple of elements with a comma behind the last. -/
theorem bracketed_of_opens {start : Nat} {more : List Lexeme} (hclose : first.token ≠ .symbol ")")
    (hyield : first.token ≠ .keyword "yield") :
    ∃ display : List Expr × Bool → Option Expr,
      (∀ elements, display (elements, true) = some (.tuple elements)) ∧
        bracketed rules (⟨.symbol "(", start⟩ :: first :: more) =
          elementsOrComprehension rules ")" .generator display (first :: more) := by
  unfold bracketed
  simp only [bind_apply, symbol_cons, if_true, Option.bind_some, takesSymbol_cons, hclose, if_false,
    Bool.false_eq_true, peek_cons, beq_iff_eq, hyield]
  exact ⟨_, fun elements => by rcases elements with _ | ⟨_, _ | _⟩ <;> rfl, rfl⟩

/-- A tuple display whose elements each have a comma behind them; without elements, an empty
bracket. -/
theorem bracketed_elements {items : List ι} (start : Nat) {finish : Nat}
    (hvalues : ∀ i, IsPhrase rules (values i) (value i)) :
    bracketed rules (⟨.symbol "(", start⟩ ::
      ((items.flatMap fun i => values i ++ [⟨.symbol ",", comma i⟩]) ++
        ⟨.symbol ")", finish⟩ :: rest)) =
      some (.tuple (items.map value), rest) := by
  by_cases hne : items = []
  · subst hne
    simp [bracketed]
  · have helements {display : List Expr × Bool → Option Expr}
        (hshown : display (items.map value, true) = some (.tuple (items.map value))) :=
      elementsOrComprehension_elements rest comma finish .generator ")" _ hne rfl hvalues hshown
    obtain ⟨i, items, rfl⟩ := List.exists_cons_of_ne_nil hne
    rw [List.flatMap_cons] at helements ⊢
    simp only [List.append_assoc, List.cons_append, List.nil_append] at helements ⊢
    obtain ⟨token, line, other, after, hahead, hopens⟩ := (hvalues i).ahead ⟨.symbol ",", comma i⟩ _
    have hopen : token ≠ .symbol ")" ∧ token ≠ .keyword "yield" := by
      obtain ⟨literal, rfl⟩ | rfl | rfl | rfl := hopens <;> simp
    obtain ⟨display, hdisplay, hbracketed⟩ := bracketed_of_opens (⟨token, line⟩) hopen.1 hopen.2
    rw [hahead, hbracketed, ← hahead]
    exact helements (hdisplay _)

/-- A list display whose elements each have a comma behind them. -/
theorem listDisplay_elements {items : List ι} (start : Nat) {finish : Nat}
    (hvalues : ∀ i, IsPhrase rules (values i) (value i)) :
    listDisplay rules (⟨.symbol "[", start⟩ ::
      ((items.flatMap fun i => values i ++ [⟨.symbol ",", comma i⟩]) ++
        ⟨.symbol "]", finish⟩ :: rest)) =
      some (.list (items.map value), rest) := by
  by_cases hne : items = []
  · subst hne
    simp [listDisplay]
  · have helements {display : List Expr × Bool → Option Expr}
        (hshown : display (items.map value, true) = some (.list (items.map value))) :=
      elementsOrComprehension_elements rest comma finish .list "]" _ hne rfl hvalues hshown
    obtain ⟨i, items, rfl⟩ := List.exists_cons_of_ne_nil hne
    rw [List.flatMap_cons] at helements ⊢
    simp only [List.append_assoc, List.cons_append, List.nil_append] at helements ⊢
    obtain ⟨token, line, other, after, hahead, hopens⟩ := (hvalues i).ahead ⟨.symbol ",", comma i⟩ _
    have hopen : token ≠ .symbol "]" := by
      obtain ⟨literal, rfl⟩ | rfl | rfl | rfl := hopens <;> simp
    rw [hahead] at helements ⊢
    simp [listDisplay, hopen, helements]

/-! ## Phrases one level up -/

variable {depth : Nat}

/-- An atom that starts with a literal or a bracket is a phrase of the rules one level up. -/
theorem isPhrase_of_atom {more : List Lexeme} {value : Expr}
    (hopens : opensPhrase first.token = true)
    (hatom : Yields (atom (unrolled depth)) (first :: more) (some value) (closes · = true)) :
    IsPhrase (unrolled (depth + 1)) (first :: more) value := by
  refine ⟨⟨first, more, rfl, hopens⟩, fun next rest hnext => ?_⟩
  refine expression_of_atom ?_ (hatom next rest hnext) hnext
  obtain ⟨literal, h⟩ | h | h | h := opensPhrase_cases hopens <;> rw [h] <;> rfl

theorem isPhrase_string {body : List Char} {points : List Nat} (line : Nat)
    (hpoints : Escape.decodeFrom false .plain body = some points) :
    IsPhrase (unrolled (depth + 1)) [⟨.string ⟨false, false, false, body⟩, line⟩]
      (.constant (.text points)) :=
  ⟨⟨_, [], rfl, rfl⟩, fun _ _ hnext => expression_string line hpoints hnext⟩

variable (colon) (comma) (depth) in
theorem isPhrase_dict (items : List ι) (start finish : Nat)
    (hkeys : ∀ i, IsPhrase (unrolled depth) (keys i) (key i))
    (hvalues : ∀ i, IsPhrase (unrolled depth) (values i) (value i)) :
    IsPhrase (unrolled (depth + 1)) (⟨.symbol "\x7b", start⟩ ::
        ((items.flatMap fun i => itemLexemes keys values colon i ++ [⟨.symbol ",", comma i⟩]) ++
          [⟨.symbol "\x7d", finish⟩]))
      (.dict (items.map fun i => (some (key i), value i))) := by
  refine isPhrase_of_atom rfl fun next rest _ => ?_
  rw [List.cons_append, List.append_assoc, List.singleton_append]
  cases items with
  | nil => rfl
  | cons i items => exact curlyDisplay_items start (List.cons_ne_nil _ _) hkeys hvalues

variable (comma) in
theorem isPhrase_tuple (items : List ι) (start finish : Nat)
    (hvalues : ∀ i, IsPhrase (unrolled depth) (values i) (value i)) :
    IsPhrase (unrolled (depth + 1)) (⟨.symbol "(", start⟩ ::
        ((items.flatMap fun i => values i ++ [⟨.symbol ",", comma i⟩]) ++
          [⟨.symbol ")", finish⟩]))
      (.tuple (items.map value)) := by
  refine isPhrase_of_atom rfl fun next rest _ => ?_
  rw [List.cons_append, List.append_assoc, List.singleton_append]
  exact bracketed_elements start hvalues

variable (comma) in
theorem isPhrase_list (items : List ι) (start finish : Nat)
    (hvalues : ∀ i, IsPhrase (unrolled depth) (values i) (value i)) :
    IsPhrase (unrolled (depth + 1)) (⟨.symbol "[", start⟩ ::
        ((items.flatMap fun i => values i ++ [⟨.symbol ",", comma i⟩]) ++
          [⟨.symbol "]", finish⟩]))
      (.list (items.map value)) := by
  refine isPhrase_of_atom rfl fun next rest _ => ?_
  rw [List.cons_append, List.append_assoc, List.singleton_append]
  exact listDisplay_elements start hvalues

/-! ## Calls -/

variable (rest) (comma) in
/-- Arguments that each have a comma behind them. -/
theorem callArguments_trailing {lexemes : ι → List Lexeme} {given : ι → Argument} (items : List ι)
    (finish : Nat) (hne : items ≠ [])
    (hstarts : ∀ i ∈ items, ∃ ahead after, lexemes i = ahead :: after ∧
      startsArgument ahead.token = true)
    (hitem : ∀ i ∈ items, Yields (argument rules) (lexemes i) (some (given i)) (· = .symbol ",")) :
    callArguments rules ((items.flatMap fun i => lexemes i ++ [⟨.symbol ",", comma i⟩]) ++
        ⟨.symbol ")", finish⟩ :: rest) =
      (arrangeArguments (items.map given) false false).map (·, rest) := by
  obtain ⟨i, items, rfl⟩ := List.exists_cons_of_ne_nil hne
  obtain ⟨hfirst, hitems⟩ := List.forall_mem_cons.mp hitem
  obtain ⟨⟨ahead, after, hahead, hopens⟩, hmore⟩ := List.forall_mem_cons.mp hstarts
  have hclose : ahead.token ≠ .symbol ")" := by
    intro h
    rw [h] at hopens
    cases hopens
  obtain ⟨next, more, hnext⟩ := List.exists_cons_of_ne_nil (List.append_ne_nil_of_right_ne_nil
    (items.flatMap fun i => lexemes i ++ [⟨.symbol ",", comma i⟩])
    (List.cons_ne_nil (⟨.symbol ")", finish⟩ : Lexeme) rest))
  -- What the arguments after the first one are read to.
  have hothers : (if startsArgument next.token then
      (commaList startsArgument (argument rules) (next :: more)).map fun read =>
        (some read.1.1, read.2)
      else some (none, next :: more)) =
      some ((if items = [] then none else some (items.map given)),
        ⟨.symbol ")", finish⟩ :: rest) := by
    by_cases h : items = []
    · subst h
      obtain ⟨rfl, rfl⟩ := List.cons.inj hnext
      rfl
    · have hread := commaList_trailing rest _ _ (⟨.symbol ")", finish⟩) _ comma _ h rfl hmore hitems
      obtain ⟨ahead, after, hahead, hopens⟩ :=
        exists_start h (⟨.symbol ")", finish⟩ :: rest) hmore
      obtain ⟨rfl, rfl⟩ := List.cons.inj (hnext.symm.trans hahead)
      rw [hnext] at hread
      rw [hread, if_pos hopens, if_neg h]
      rfl
  have hfirst := hfirst ⟨.symbol ",", comma i⟩ (next :: more) rfl
  rw [List.flatMap_cons]
  simp only [List.append_assoc, List.cons_append, List.nil_append]
  rw [hnext, hahead]
  rw [hahead] at hfirst
  simp only [List.cons_append] at hfirst ⊢
  cases hitem : given i <;> by_cases h : items = [] <;>
    simp [callArguments, hclose, hfirst, clausesAhead_comma, hothers, hitem, h, Function.comp_def]

/-- A name called with arguments. -/
theorem expression_call (callee : String) (start line : Nat) (given : List Lexeme)
    {read : List Expr × List (Option String × Expr)}
    (harguments : callArguments rules (given ++ second :: rest) = some (read, second :: rest))
    (hcloses : closes second.token = true) :
    expression rules (⟨.name callee, start⟩ :: ⟨.symbol "(", line⟩ :: (given ++ second :: rest)) =
      some (.call start (.name callee) read.1 read.2, second :: rest) := by
  refine expression_of_primary rfl ?_ hcloses
  have hstop : trailer rules start (second :: rest) = some (none, second :: rest) := by
    rcases closes_cases hcloses with h | h | h | h | h | h | h <;> simp [trailer, h]
  have hcall : trailer rules start (⟨.symbol "(", line⟩ :: (given ++ second :: rest)) =
      some (some (.call start · read.1 read.2), second :: rest) := by
    simp [trailer, harguments]
  have htrailers := (Collects.next _ _ _ hcall (by grind) (.stop hstop)).collect
  simp [primary, atom, htrailers]

end Registrar.Source.Parser
