import Registrar.Proofs.Parser.Compound
import Registrar.Proofs.Parser.Tokens
import Registrar.Source.Parser.Module

/-! # Modules of the same tokens

However deep the rules are unrolled, they do alike within a budget below the depth, since each of
them takes a token before it comes to its smaller self. A text weighs less than its rules are
unrolled, so texts of the same tokens are the same module but for positions, and the names that the
statements of a module bind are identifiers.
-/

namespace Registrar.Source

namespace Parser

variable {n : Nat}

theorem twins_refl {good : Token → Prop} {lexemes : List Lexeme}
    (h : ∀ lexeme ∈ lexemes, good lexeme.token) : Twins good lexemes lexemes :=
  List.forall₂_same.mpr fun lexeme hlexeme => ⟨rfl, h lexeme hlexeme⟩

/-- Without any tokens there is nothing to do alike. -/
theorem eats_zero {α β : Type} {good : Token → Prop} {R : α → β → Prop} {p : Parser α} {q : Parser β}
    (hp : p [] = none) (hq : q [] = none) : Eats good 0 R p q := by
  intro lexemes others htwins hn
  cases htwins with
  | nil =>
    rw [hp, hq]
    exact .none
  | @cons first _ rest _ _ _ =>
    have hpositive := first.token.weight_pos
    rw [weigh_cons] at hn
    omega

theorem rulesTwin_zero (depth depth' : Nat) :
    RulesTwin Token.IsSpelled 0 (unrolled (depth + 1)) (unrolled (depth' + 1)) where
  expression := eats_zero rfl rfl
  disjunction := eats_zero rfl rfl
  bitOr := eats_zero rfl rfl
  factor := eats_zero rfl rfl
  primary := eats_zero rfl rfl
  pattern := eats_zero rfl rfl
  block := eats_zero rfl rfl
  field text htext := by omega

/-! ## Fields -/

/-- The value of a field whose text leaves only the end of its line. -/
def closedValue (value : Expr) : List Lexeme → Option Expr
  | [⟨.newline, _⟩, ⟨.finish, _⟩] => some value
  | _ => none

theorem closedValue_eq (value : Expr) (rest : List Lexeme) :
    closedValue value rest =
      if rest.map (·.token) = [.newline, .finish] then some value else none := by
  unfold closedValue
  split
  · rfl
  · next hrest =>
    rw [if_neg]
    intro hmap
    obtain ⟨first, more, rfl, hfirst, hmore⟩ := List.map_eq_cons_iff.mp hmap
    obtain ⟨second, _, rfl, hsecond, hnil⟩ := List.map_eq_cons_iff.mp hmore
    obtain rfl := List.map_eq_nil_iff.mp hnil
    obtain ⟨_, line⟩ := first
    obtain ⟨_, other⟩ := second
    cases hfirst
    cases hsecond
    exact hrest line other rfl

theorem fieldText_eq (rules : Rules) (text : List Char) :
    fieldText rules text = (tokens? ('(' :: (text ++ [')']))).bind fun lexemes =>
      (starExpressions rules lexemes).bind fun read => closedValue read.1 read.2 := rfl

theorem Twins.map_token {good : Token → Prop} {lexemes others : List Lexeme}
    (h : Twins good lexemes others) : lexemes.map (·.token) = others.map (·.token) :=
  map_congr_of_forall₂ h fun _ _ hsame => hsame.1

/-- A field is read alike where its text weighs no more than the budget. -/
theorem rel_fieldText {r s : Rules} (h : RulesTwin Token.IsSpelled n r s) {text : List Char}
    (htext : 2 * text.length + 6 ≤ n) :
    Option.Rel (ExprTwin Token.IsSpelled) (fieldText r text) (fieldText s text) := by
  rw [fieldText_eq, fieldText_eq]
  cases htokens : tokens? ('(' :: (text ++ [')'])) with
  | none => exact .none
  | some lexemes =>
    have hweigh := weigh_bracketed htokens
    rw [List.length_append, List.length_singleton] at hweigh
    have htwins := twins_refl (tokens?_spec htokens).2
    apply rel_bind (eats_starExpressions h lexemes lexemes htwins (by omega))
    rintro ⟨e, rest⟩ ⟨f, others⟩ ⟨hef, hrest, -⟩
    rw [closedValue_eq, closedValue_eq, hrest.map_token]
    split
    · exact .some hef
    · exact .none

/-! ## Unrolled rules -/

theorem rulesTwin_unrolled {depth depth' : Nat} (h : n < depth) (h' : n < depth') :
    RulesTwin Token.IsSpelled n (unrolled depth) (unrolled depth') := by
  induction n generalizing depth depth' with
  | zero =>
    obtain ⟨depth, rfl⟩ := Nat.exists_eq_succ_of_ne_zero (Nat.ne_of_gt h)
    obtain ⟨depth', rfl⟩ := Nat.exists_eq_succ_of_ne_zero (Nat.ne_of_gt h')
    exact rulesTwin_zero depth depth'
  | succ n ih =>
    obtain ⟨depth, rfl⟩ := Nat.exists_eq_succ_of_ne_zero (Nat.ne_zero_of_lt h)
    obtain ⟨depth', rfl⟩ := Nat.exists_eq_succ_of_ne_zero (Nat.ne_zero_of_lt h')
    have hsmaller := ih (Nat.lt_of_succ_lt_succ h) (Nat.lt_of_succ_lt_succ h')
    exact {
      expression := eats_expression hsmaller
      disjunction := eats_disjunction hsmaller
      bitOr := eats_bitOr hsmaller
      factor := eats_factor hsmaller
      primary := eats_primary hsmaller
      pattern := eats_pattern hsmaller
      block := eats_block hsmaller
      field := fun text htext => rel_fieldText hsmaller (by omega) }

/-- Texts of the same tokens are the same statements but for positions. -/
theorem rel_module {lexemes others : List Lexeme} (h : Twins Token.IsSpelled lexemes others)
    {depth depth' : Nat} (hdepth : weigh lexemes < depth) (hdepth' : weigh lexemes < depth') :
    Option.Rel (fun a b => List.Forall₂ (StmtTwin Token.IsSpelled) a.1 b.1 ∧ a.2.isEmpty = b.2.isEmpty)
      (module (unrolled depth) lexemes) (module (unrolled depth') others) := by
  have hrules := rulesTwin_unrolled hdepth hdepth'
  apply rel_mono (eats_statementsUntil hrules .finish lexemes others h (Nat.le_refl _))
  rintro ⟨body, rest⟩ ⟨other, rest'⟩ ⟨hbody, hrest, -⟩
  refine ⟨hbody, ?_⟩
  cases hrest <;> rfl

end Parser

/-- What a module read from a text is, given the tokens of the text. -/
theorem parseModule?_eq (source : List Char) :
    parseModule? source = if source.contains '\x00' then none else
      (tokens? source).bind fun lexemes =>
        (Parser.module (Parser.unrolled (2 * source.length + 10)) lexemes).bind fun read =>
          if read.2.isEmpty then some read.1 else none := by
  unfold parseModule?
  split <;> rfl

/-- The names that the statements of a module bind are identifiers. -/
theorem named_of_parseModule? {source : List Char} {body : Module}
    (h : parseModule? source = some body) : ∀ statement ∈ body, statement.Named Token.IsSpelled := by
  rw [parseModule?_eq] at h
  split at h
  · cases h
  · obtain ⟨lexemes, htokens, h⟩ := Option.bind_eq_some_iff.mp h
    obtain ⟨⟨found, rest⟩, hread, h⟩ := Option.bind_eq_some_iff.mp h
    obtain ⟨hweigh, hspelled⟩ := tokens?_spec htokens
    have hdepth : Parser.weigh lexemes < 2 * source.length + 10 := by omega
    have hself := Parser.rel_module (Parser.twins_refl hspelled) hdepth hdepth
    rw [hread] at hself
    obtain ⟨hbody, -⟩ := Option.rel_some_some.mp hself
    split at h
    · obtain rfl := Option.some.inj h
      exact fun statement hstatement => (List.forall₂_same.mp hbody statement hstatement).named
    · cases h

end Registrar.Source
