import Registrar.Proofs.Parser.Primary

/-! # Expressions of the same tokens

Each level of binding strength is read alike if the level below it is.
-/

namespace Registrar.Source.Parser

variable {good : Token → Prop} {n : Nat} {r s : Rules}

/-! ## Powers and signs -/

theorem eats_power (h : RulesTwin good n r s) :
    Eats good (n + 1) (ExprTwin good) (power r) (power s) := by
  have hexponent (base base' : Expr) (hbase : ExprTwin good base base') :
      Alike good n (ExprTwin good)
        (do
          if ← takesSymbol "**" then
            let exponent ← r.factor
            return .binary base .power exponent
          else return base)
        (do
          if ← takesSymbol "**" then
            let exponent ← s.factor
            return .binary base' .power exponent
          else return base') := by
    apply alike_takesElse
    · apply h.factor.alike.bind
      intro e f hef
      apply alike_pure
      exact exprTwin_of_bare (by simp [Expr.bare, hbase.bare, hef.bare]) nofun
    · exact alike_pure hbase
  apply eats_takesElse
  · have hawait (e f : Expr) (hef : ExprTwin good e f) : ExprTwin good (.await e) (.await f) :=
      exprTwin_of_bare (by simp [Expr.bare, hef.bare]) nofun
    exact (((eats_primary h).mono n.le_succ).alike.map hawait).bind hexponent
  · exact (eats_primary h).spend hexponent

theorem alike_signs : Alike good n (List.Forall₂ (· = ·))
    (collect do
      match sign? (← peek) with
      | some operator => advance; return some operator
      | none => return none)
    (collect do
      match sign? (← peek) with
      | some operator => advance; return some operator
      | none => return none) := by
  apply alike_collect
  apply alike_peek.bind
  rintro t _ ⟨rfl, -⟩
  split
  · apply eats_advance.alike.bind
    rintro _ _ -
    exact alike_pure (.some rfl)
  · exact alike_pure .none

theorem eats_factor (h : RulesTwin good n r s) :
    Eats good (n + 1) (ExprTwin good) (factor r) (factor s) := by
  apply alike_signs.bind_eats
  intro signs others hsigns
  obtain rfl := List.forall₂_eq_eq_eq ▸ hsigns
  apply (eats_power h).bind
  intro e f hef
  apply alike_pure
  clear hsigns
  induction signs with
  | nil => exact hef
  | cons sign signs ih => exact exprTwin_of_bare (by simp [Expr.bare, ih.bare]) nofun

/-! ## Binary operators -/

theorem eats_leftGrouped {operator? : Token → Option BinaryOperator} {p q : Parser Expr}
    (h : Eats good n (ExprTwin good) p q) :
    Eats good n (ExprTwin good) (leftGrouped operator? p) (leftGrouped operator? q) := by
  apply h.bind
  intro e f hef
  refine (alike_collect (R := fun a b => a.1 = b.1 ∧ ExprTwin good a.2 b.2) ?_).bind ?_
  · apply alike_peek.bind
    rintro t _ ⟨rfl, -⟩
    split
    · apply eats_advance.alike.bind
      rintro _ _ -
      apply h.alike.bind
      intro right right' hright
      exact alike_pure (.some ⟨rfl, hright⟩)
    · exact alike_pure .none
  · intro rest others hrest
    apply alike_pure
    induction hrest generalizing e f with
    | nil => exact hef
    | @cons a b rest others hab _ ih =>
      apply ih
      refine exprTwin_of_bare ?_ nofun
      simp [Expr.bare, hef.bare, hab.1, hab.2.bare]

theorem eats_bitOr (h : RulesTwin good n r s) :
    Eats good (n + 1) (ExprTwin good) (bitOr r) (bitOr s) :=
  eats_leftGrouped (eats_leftGrouped (eats_leftGrouped (eats_leftGrouped (eats_leftGrouped
    (eats_leftGrouped (eats_factor h))))))

/-! ## Comparisons and connectives -/

theorem alike_comparisonOperator :
    Alike good n (· = ·) comparisonOperator comparisonOperator := by
  have htaken (operator : Comparison) :
      Alike good n (· = ·) (do advance; return some operator) (do advance; return some operator) :=
    eats_advance.alike.bind fun _ _ _ => alike_pure rfl
  apply alike_peekTwo.bind
  rintro ⟨t, u⟩ _ ⟨rfl, -⟩
  split
  all_goals first
    | exact htaken _
    | exact eats_advance.alike.bind fun _ _ _ => htaken _
    | exact alike_pure rfl

/-- Comparisons that are equal but for positions. -/
def ComparisonTwin (a b : Comparison × Expr) : Prop := a.1 = b.1 ∧ a.2.bare = b.2.bare

theorem bareComparisons_congr {rest others : List (Comparison × Expr)}
    (h : List.Forall₂ ComparisonTwin rest others) :
    bareComparisons rest = bareComparisons others := by
  induction h with
  | nil => rfl
  | @cons a b _ _ hab _ ih =>
    obtain ⟨operator, e⟩ := a
    obtain ⟨_, f⟩ := b
    obtain ⟨rfl, hef⟩ := hab
    rw [bareComparisons, bareComparisons, ih, show e.bare = f.bare from hef]

theorem eats_comparison (h : RulesTwin good n r s) :
    Eats good (n + 1) (ExprTwin good) (comparison r) (comparison s) := by
  apply (eats_bitOr h).bind
  intro e f hef
  refine (alike_collect (R := ComparisonTwin) ?_).bind ?_
  · apply alike_comparisonOperator.bind
    rintro operator _ rfl
    split
    · apply (eats_bitOr h).alike.bind
      intro right right' hright
      exact alike_pure (.some ⟨rfl, hright.bare⟩)
    · exact alike_pure .none
  · intro rest others hrest
    apply alike_pure
    cases hrest with
    | nil => exact hef
    | cons hab hmore =>
      have hcomparisons := bareComparisons_congr (.cons hab hmore)
      exact exprTwin_of_bare (by simp [Expr.bare, hef.bare, hcomparisons]) nofun

theorem eats_inversion (h : RulesTwin good n r s) :
    Eats good (n + 1) (ExprTwin good) (inversion r) (inversion s) := by
  refine (alike_collect (R := fun _ _ => True) ?_).bind_eats ?_
  · apply alike_takesElse
    · exact alike_pure (.some trivial)
    · exact alike_pure .none
  · intro negations others hnegations
    apply (eats_comparison h).bind
    intro e f hef
    apply alike_pure
    induction hnegations with
    | nil => exact hef
    | cons _ _ ih => exact exprTwin_of_bare (by simp [Expr.bare, ih.bare]) nofun

theorem eats_connected {connective : Connective} {text : String} {p q : Parser Expr}
    (h : Eats good n (ExprTwin good) p q) :
    Eats good n (ExprTwin good) (connected connective text p) (connected connective text q) := by
  apply h.bind
  intro e f hef
  refine (alike_collect (R := ExprTwin good) ?_).bind ?_
  · apply alike_takesElse
    · exact h.alike.map fun _ _ => .some
    · exact alike_pure .none
  · intro rest others hrest
    apply alike_pure
    cases hrest with
    | nil => exact hef
    | cons hab hmore =>
      have hoperands := bareExprs_congr (.cons hef (.cons hab hmore))
      exact exprTwin_of_bare (by simp [Expr.bare, hoperands]) nofun

theorem eats_disjunction (h : RulesTwin good n r s) :
    Eats good (n + 1) (ExprTwin good) (disjunction r) (disjunction s) :=
  eats_connected (eats_connected (eats_inversion h))

/-! ## Whole expressions -/

theorem eats_lambdaExpression (h : RulesTwin good n r s) :
    Eats good (n + 1) (ExprTwin good) (lambdaExpression r) (lambdaExpression s) := by
  apply (eats_expect _).spend
  rintro _ _ -
  apply ((alike_lambdaParameters h).mono n.le_succ).bind
  intro parameters parameters' hparameters
  apply (eats_expect _).alike.bind
  rintro _ _ -
  apply h.expression.alike.bind
  intro body body' hbody
  apply alike_pure
  exact exprTwin_of_bare (by simp [Expr.bare, hparameters, hbody.bare]) nofun

theorem eats_expression (h : RulesTwin good n r s) :
    Eats good (n + 1) (ExprTwin good) (expression r) (expression s) := by
  apply alike_peek.bind_eats
  rintro t _ ⟨rfl, -⟩
  apply Eats.ite Iff.rfl (eats_lambdaExpression h)
  apply (eats_disjunction h).spend
  intro body body' hbody
  apply alike_takesElse
  · apply ((eats_disjunction h).mono n.le_succ).alike.bind
    intro test test' htest
    apply (eats_expect _).alike.bind
    rintro _ _ -
    apply h.expression.alike.bind
    intro orelse orelse' horelse
    apply alike_pure
    exact exprTwin_of_bare (by simp [Expr.bare, hbody.bare, htest.bare, horelse.bare]) nofun
  · exact alike_pure hbody

end Registrar.Source.Parser
