import Registrar.Source.Parser.Statement

/-! # Parsers on tokens ahead

What the parsers of single tokens do to a list of tokens, and what repeated parsers make of items
that stand one behind the other. An item is read whatever follows it, as long as that ends the item;
it may also be one that no parser takes, and then none takes the items.
-/

namespace Registrar.Source

/-- The name that a token is. -/
def Token.name? : Token → Option String
  | .name id => some id
  | _ => none

namespace Parser

variable {α β ι : Type} {first second : Lexeme} {lexemes rest : List Lexeme}

/-! ## Single tokens -/

@[simp]
theorem bind_apply (parser : Parser α) (next : α → Parser β) (lexemes : List Lexeme) :
    (parser >>= next) lexemes = (parser lexemes).bind fun read => next read.1 read.2 := rfl

@[simp]
theorem pure_apply (value : α) (lexemes : List Lexeme) :
    (pure value : Parser α) lexemes = some (value, lexemes) := rfl

@[simp]
theorem map_apply (f : α → β) (parser : Parser α) (lexemes : List Lexeme) :
    (f <$> parser) lexemes = (parser lexemes).map fun read => (f read.1, read.2) := by
  change (parser lexemes).bind _ = _
  cases parser lexemes <;> rfl

@[simp]
theorem failure_apply (lexemes : List Lexeme) : (failure : Parser α) lexemes = none := rfl

@[simp]
theorem lift_apply (value? : Option α) (lexemes : List Lexeme) :
    (StateT.lift value? : Parser α) lexemes = value?.map (·, lexemes) := by
  cases value? <;> rfl

@[simp]
theorem peek_cons : peek (first :: rest) = some (first.token, first :: rest) := rfl

@[simp]
theorem peekTwo_cons : peekTwo (first :: second :: rest) =
    some ((first.token, second.token), first :: second :: rest) := rfl

@[simp]
theorem line_cons : line (first :: rest) = some (first.line, first :: rest) := rfl

@[simp]
theorem advance_cons : advance (first :: rest) = some ((), rest) := rfl

@[simp]
theorem takes_cons (token : Token) : takes token (first :: rest) =
    if first.token = token then some (true, rest) else some (false, first :: rest) := by
  simp only [takes, bind_apply, peek_cons, Option.bind_some, beq_iff_eq]
  split <;> rfl

@[simp]
theorem takesSymbol_cons (text : String) : takesSymbol text (first :: rest) =
    if first.token = .symbol text then some (true, rest) else some (false, first :: rest) :=
  takes_cons _

@[simp]
theorem takesWord_cons (text : String) : takesWord text (first :: rest) =
    if first.token = .keyword text then some (true, rest) else some (false, first :: rest) :=
  takes_cons _

@[simp]
theorem expect_cons (token : Token) : expect token (first :: rest) =
    if first.token = token then some ((), rest) else none := by
  simp only [expect, bind_apply, peek_cons, Option.bind_some, beq_iff_eq]
  split <;> rfl

@[simp]
theorem symbol_cons (text : String) : symbol text (first :: rest) =
    if first.token = .symbol text then some ((), rest) else none := expect_cons _

@[simp]
theorem word_cons (text : String) : word text (first :: rest) =
    if first.token = .keyword text then some ((), rest) else none := expect_cons _

@[simp]
theorem identifier_cons :
    identifier (first :: rest) = first.token.name?.map (·, rest) := by
  obtain ⟨token, line⟩ := first
  cases token <;> rfl

@[simp]
theorem whenAhead_cons (starts : Token → Bool) (item : Parser α) :
    whenAhead starts item (first :: rest) =
      if starts first.token then (item (first :: rest)).map fun read => (some read.1, read.2)
      else some (none, first :: rest) := by
  simp only [whenAhead, bind_apply, peek_cons, Option.bind_some]
  split
  · rw [bind_apply]
    cases item (first :: rest) <;> rfl
  · rfl

/-! ## Repeated parsers -/

/-- A parser reads some tokens to a value, or takes none of them, before any token that ends them. -/
def Yields (parser : Parser α) (lexemes : List Lexeme) (value? : Option α)
    (ends : Token → Prop) : Prop :=
  ∀ next rest, ends next.token → parser (lexemes ++ next :: rest) = value?.map (·, next :: rest)

/-- What a repeated step makes of some tokens, as long as it is repeated often enough. -/
def Collects (step : Parser (Option α)) (lexemes : List Lexeme)
    (result : Option (List α × List Lexeme)) : Prop :=
  ∀ fuel, lexemes.length < fuel → collectWith step fuel lexemes = result

namespace Collects

variable {step : Parser (Option α)} {item : α} {result : Option (List α × List Lexeme)}

theorem collect (h : Collects step lexemes result) : Parser.collect step lexemes = result :=
  h _ (Nat.lt_succ_self _)

theorem stop (h : step lexemes = some (none, rest)) : Collects step lexemes (some ([], rest)) := by
  intro fuel hfuel
  obtain ⟨fuel, rfl⟩ := Nat.exists_eq_add_of_lt hfuel
  rw [collectWith, bind_apply, h]
  rfl

theorem fail (h : step lexemes = none) : Collects step lexemes none := by
  intro fuel hfuel
  obtain ⟨fuel, rfl⟩ := Nat.exists_eq_add_of_lt hfuel
  rw [collectWith, bind_apply, h]
  rfl

variable (lexemes step item) in
/-- A step that takes something is followed by the others. -/
theorem next (h : step lexemes = some (some item, rest)) (hlength : rest.length < lexemes.length)
    (hrest : Collects step rest result) :
    Collects step lexemes (result.map fun read => (item :: read.1, read.2)) := by
  intro fuel hfuel
  obtain ⟨fuel, rfl⟩ := Nat.exists_eq_add_of_lt hfuel
  rw [collectWith, bind_apply, h]
  simp only [Option.bind_some, bind_apply]
  rw [hrest _ (by omega)]
  cases result <;> rfl

end Collects

theorem collect_of_stop {step : Parser (Option α)} (h : step lexemes = some (none, rest)) :
    collect step lexemes = some ([], rest) := (Collects.stop h).collect

/-- Behind an item comes the separator of the next one, or what comes behind all items. -/
theorem exists_ahead {separator : String} {line : Nat} {next : Lexeme} {ends : Token → Prop}
    (hnext : ends next.token) (lexemes : ι → List Lexeme) (more : List ι) (rest : List Lexeme) :
    ∃ ahead after, (more.flatMap fun i => ⟨.symbol separator, line⟩ :: lexemes i) ++ next :: rest =
      ahead :: after ∧ (ahead.token = .symbol separator ∨ ends ahead.token) := by
  cases more with
  | nil => exact ⟨_, _, rfl, .inr hnext⟩
  | cons i more => exact ⟨_, _, rfl, .inl rfl⟩

/-- Items with a separator between them are read one by one. -/
theorem yields_separated (separator : String) (item : Parser α) (ends : Token → Prop) (line : Nat)
    (lexemes : ι → List Lexeme) (value? : ι → Option α) (first : ι) (more : List ι)
    (hends : ∀ token, ends token → token ≠ .symbol separator)
    (hitem : ∀ i, Yields item (lexemes i) (value? i)
      fun token => token = .symbol separator ∨ ends token) :
    Yields (separated separator item)
      (lexemes first ++ more.flatMap fun i => ⟨.symbol separator, line⟩ :: lexemes i)
      ((value? first).bind fun value => (more.mapM value?).map (value :: ·)) ends := by
  intro next rest hnext
  have hcollects (more : List ι) : Collects
      (do if ← takesSymbol separator then return some (← item) else return none)
      ((more.flatMap fun i => ⟨.symbol separator, line⟩ :: lexemes i) ++ next :: rest)
      ((more.mapM value?).map (·, next :: rest)) := by
    induction more with
    | nil => exact .stop (by simp [hends _ hnext])
    | cons i more ih =>
      obtain ⟨ahead, after, hahead, hfollows⟩ := exists_ahead hnext lexemes more rest
      rw [List.flatMap_cons, List.append_assoc, List.cons_append, hahead]
      rw [hahead] at ih
      have hread := hitem i ahead after hfollows
      rw [List.mapM_cons]
      cases hvalue : value? i with
      | none =>
        rw [hvalue] at hread
        exact .fail (by simp [hread])
      | some value =>
        rw [hvalue] at hread
        have hnext := Collects.next (⟨.symbol separator, line⟩ :: (lexemes i ++ ahead :: after))
          (do if ← takesSymbol separator then return some (← item) else return none) value
          (by simp [hread]) (by grind) ih
        cases hmore : more.mapM value? <;> simpa [hmore] using hnext
  obtain ⟨ahead, after, hahead, hfollows⟩ := exists_ahead hnext lexemes more rest
  unfold separated
  rw [List.append_assoc, bind_apply, hahead, hitem first ahead after hfollows]
  cases value? first with
  | none => rfl
  | some value =>
    simp only [Option.map_some, Option.bind_some, bind_apply]
    rw [← hahead, (hcollects more).collect]
    cases more.mapM value? <;> rfl

/-- What items that each have a comma behind them start with. -/
theorem exists_start {starts : Token → Bool} {lexemes : ι → List Lexeme} {line : ι → Nat}
    {items : List ι} (hne : items ≠ []) (rest : List Lexeme)
    (hstarts : ∀ i ∈ items, ∃ ahead after, lexemes i = ahead :: after ∧ starts ahead.token = true) :
    ∃ ahead after, (items.flatMap fun i => lexemes i ++ [⟨.symbol ",", line i⟩]) ++ rest =
      ahead :: after ∧ starts ahead.token = true := by
  obtain ⟨i, items, rfl⟩ := List.exists_cons_of_ne_nil hne
  obtain ⟨ahead, after, hahead, hopens⟩ := hstarts i List.mem_cons_self
  exact ⟨ahead, _, by rw [List.flatMap_cons, hahead]; rfl, hopens⟩

variable (rest) in
/-- Items that each have a comma behind them. -/
theorem commaList_trailing (starts : Token → Bool) (item : Parser α) (next : Lexeme)
    (lexemes : ι → List Lexeme) (line : ι → Nat) (value : ι → α) {items : List ι}
    (hne : items ≠ []) (hlast : starts next.token = false)
    (hstarts : ∀ i ∈ items, ∃ ahead after, lexemes i = ahead :: after ∧ starts ahead.token = true)
    (hitem : ∀ i ∈ items, Yields item (lexemes i) (some (value i)) (· = .symbol ",")) :
    commaList starts item ((items.flatMap fun i => lexemes i ++ [⟨.symbol ",", line i⟩]) ++
      next :: rest) = some ((items.map value, true), next :: rest) := by
  have hwith (fuel : Nat) (hfuel : items.length ≤ fuel) : commaListWith starts item fuel
      ((items.flatMap fun i => lexemes i ++ [⟨.symbol ",", line i⟩]) ++ next :: rest) =
        some ((items.map value, true), next :: rest) := by
    induction items generalizing fuel with
    | nil => exact absurd rfl hne
    | cons i items ih =>
      obtain ⟨fuel, rfl⟩ := Nat.exists_eq_add_of_lt (Nat.lt_of_lt_of_le (Nat.succ_pos _) hfuel)
      obtain ⟨-, hstarts⟩ := List.forall_mem_cons.mp hstarts
      obtain ⟨hfirst, hitems⟩ := List.forall_mem_cons.mp hitem
      rw [List.flatMap_cons, List.append_assoc, List.append_assoc, commaListWith, bind_apply]
      rw [List.singleton_append, hfirst _ _ rfl]
      by_cases h : items = []
      · subst h
        simp [hlast]
      · have hmore := ih h hstarts hitems fuel (by simpa using hfuel)
        obtain ⟨ahead, after, hahead, hopens⟩ :=
          exists_start h (next :: rest) hstarts
        rw [hahead] at hmore ⊢
        simp [hopens, hmore]
  have hlength : ∀ items : List ι, items.length ≤
      (items.flatMap fun i => lexemes i ++ [⟨.symbol ",", line i⟩]).length := by
    intro items
    induction items with
    | nil => exact Nat.le_refl _
    | cons i items ih => simp at ih ⊢; omega
  refine hwith _ ?_
  have := hlength items
  simp only [List.length_append]
  omega

variable (lexemes) in
/-- An item that no comma follows. -/
theorem commaList_one (starts : Token → Bool) (item : Parser α) {value : α}
    (hitem : item lexemes = some (value, first :: rest)) (hfirst : first.token ≠ .symbol ",") :
    commaList starts item lexemes = some (([value], false), first :: rest) := by
  change commaListWith starts item (lexemes.length + 1) lexemes = _
  rw [commaListWith, bind_apply, hitem]
  simp [hfirst]

end Parser

end Registrar.Source
