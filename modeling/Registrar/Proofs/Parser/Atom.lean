import Registrar.Proofs.Parser.Literal

/-! # Atoms of the same tokens

Names, literals, displays, comprehensions and what is applied to them.
-/

namespace Registrar.Source

/-! ## Kinds of expressions -/

mutual

theorem Expr.isTarget_bare (e : Expr) : e.bare.isTarget = e.isTarget := by
  match e with
  | .list elements => exact areTargets_bare elements
  | .tuple elements => exact areTargets_bare elements
  | .name _ | .attribute .. | .subscript .. => rfl
  | .constant _ | .joined _ | .call .. | .set _ | .dict _ | .unary .. | .binary .. | .boolean ..
  | .compare .. | .conditional .. | .lambda .. | .comprehension .. | .dictComprehension ..
  | .await _ | .yield _ | .yieldFrom _ | .named .. | .starred _ | .slice .. => rfl

theorem areTargets_bare (es : List Expr) : areTargets (bareExprs es) = areTargets es := by
  match es with
  | [] => rfl
  | e :: rest =>
    have hrest := areTargets_bare rest
    have hplain := e.isTarget_bare
    match e with
    | .starred value => simp [bareExprs, Expr.bare, areTargets, value.isTarget_bare, hrest]
    | .list _ | .tuple _ | .name _ | .attribute .. | .subscript .. | .constant _ | .joined _
    | .call .. | .set _ | .dict _ | .unary .. | .binary .. | .boolean .. | .compare ..
    | .conditional .. | .lambda .. | .comprehension .. | .dictComprehension .. | .await _
    | .yield _ | .yieldFrom _ | .named .. | .slice .. =>
      exact congrArg₂ (· && ·) hplain hrest

end

theorem Expr.isAssignable_bare (e : Expr) : e.bare.isAssignable = e.isAssignable := by
  cases e with
  | starred value => exact value.isTarget_bare
  | _ => exact Expr.isTarget_bare _

theorem Expr.isSingleTarget_bare (e : Expr) : e.bare.isSingleTarget = e.isSingleTarget := by
  cases e <;> rfl

mutual

theorem Expr.isDeletable_bare (e : Expr) : e.bare.isDeletable = e.isDeletable := by
  match e with
  | .list elements => exact areDeletable_bare elements
  | .tuple elements => exact areDeletable_bare elements
  | .name _ | .attribute .. | .subscript .. => rfl
  | .constant _ | .joined _ | .call .. | .set _ | .dict _ | .unary .. | .binary .. | .boolean ..
  | .compare .. | .conditional .. | .lambda .. | .comprehension .. | .dictComprehension ..
  | .await _ | .yield _ | .yieldFrom _ | .named .. | .starred _ | .slice .. => rfl

theorem areDeletable_bare (es : List Expr) : areDeletable (bareExprs es) = areDeletable es := by
  match es with
  | [] => rfl
  | e :: rest => exact congrArg₂ (· && ·) e.isDeletable_bare (areDeletable_bare rest)

end

namespace Parser

theorem isStarred_bare (e : Expr) : isStarred e.bare = isStarred e := by
  cases e <;> rfl

variable {good : Token → Prop} {n : Nat} {r s : Rules}

/-! ## Elements -/

theorem eats_starred (h : RulesTwin good n r s) :
    Eats good (n + 1) (ExprTwin good) (starred r) (starred s) := by
  apply (eats_expect _).spend
  rintro _ _ -
  apply h.bitOr.alike.bind
  intro e f hef
  apply alike_pure
  exact exprTwin_of_bare (by simp [Expr.bare, hef.bare]) nofun

theorem eats_namedExpression (h : RulesTwin good n r s) :
    Eats good n (ExprTwin good) (namedExpression r) (namedExpression s) := by
  apply alike_peekTwo.bind_eats
  rintro ⟨t, u⟩ _ ⟨rfl, -⟩
  split
  · apply eats_advance.bind
    rintro _ _ -
    apply eats_advance.alike.bind
    rintro _ _ -
    apply h.expression.alike.bind
    intro e f hef
    apply alike_pure
    exact exprTwin_of_bare (by simp [Expr.bare, hef.bare]) nofun
  · exact h.expression

theorem eats_starredOrNamed (h : RulesTwin good n r s) :
    Eats good n (ExprTwin good) (starredOrNamed r) (starredOrNamed s) := by
  apply alike_peek.bind_eats
  rintro t _ ⟨rfl, -⟩
  exact Eats.ite Iff.rfl ((eats_starred h).mono n.le_succ) (eats_namedExpression h)

theorem eats_starredOrPlain (h : RulesTwin good n r s) :
    Eats good n (ExprTwin good) (starredOrPlain r) (starredOrPlain s) := by
  apply alike_peek.bind_eats
  rintro t _ ⟨rfl, -⟩
  exact Eats.ite Iff.rfl ((eats_starred h).mono n.le_succ) h.expression

theorem exprTwin_tuple {es fs : List Expr} (h : List.Forall₂ (ExprTwin good) es fs) :
    ExprTwin good (.tuple es) (.tuple fs) :=
  exprTwin_of_bare (by simp [Expr.bare, bareExprs_congr h]) nofun

theorem exprTwin_asTuple {a b : List Expr × Bool} (h : Listed (ExprTwin good) a b) :
    ExprTwin good (asTuple a) (asTuple b) := by
  obtain ⟨es, trailing⟩ := a
  obtain ⟨fs, _⟩ := b
  obtain ⟨hitems, rfl⟩ := h
  cases hitems with
  | nil => exact exprTwin_tuple .nil
  | cons hef hrest =>
    cases hrest with
    | cons hother hrest => exact exprTwin_tuple (.cons hef (.cons hother hrest))
    | nil =>
      cases trailing with
      | false => exact hef
      | true => exact exprTwin_tuple (.cons hef .nil)

theorem eats_starExpressions (h : RulesTwin good n r s) :
    Eats good n (ExprTwin good) (starExpressions r) (starExpressions s) :=
  (eats_commaList (eats_starredOrPlain h)).map fun _ _ => exprTwin_asTuple

theorem eats_yieldExpression (h : RulesTwin good n r s) :
    Eats good (n + 1) (ExprTwin good) (yieldExpression r) (yieldExpression s) := by
  apply (eats_expect _).spend
  rintro _ _ -
  apply alike_takesElse
  · apply h.expression.alike.bind
    intro e f hef
    apply alike_pure
    exact exprTwin_of_bare (by simp [Expr.bare, hef.bare]) nofun
  · apply (alike_whenAhead (eats_starExpressions h).alike).bind
    intro a b hab
    apply alike_pure
    exact exprTwin_of_bare (by simp [Expr.bare, bareOption_congr hab]) nofun

theorem eats_yieldOrExpressions (h : RulesTwin good n r s) :
    Eats good n (ExprTwin good) (yieldOrExpressions r) (yieldOrExpressions s) := by
  apply alike_peek.bind_eats
  rintro t _ ⟨rfl, -⟩
  exact Eats.ite Iff.rfl ((eats_yieldExpression h).mono n.le_succ) (eats_starExpressions h)

/-! ## Comprehensions -/

theorem ExprTwin.isAssignable_iff {e f : Expr} (h : ExprTwin good e f) :
    e.isAssignable ↔ f.isAssignable := by
  rw [← e.isAssignable_bare, h.bare, f.isAssignable_bare]

theorem eats_loopTarget (h : RulesTwin good n r s) :
    Eats good n (ExprTwin good) (loopTarget r) (loopTarget s) := by
  have hassignable (e f : Expr) (hef : ExprTwin good e f) :
      Alike good n (ExprTwin good) (if e.isAssignable then pure e else failure)
        (if f.isAssignable then pure f else failure) :=
    Alike.ite hef.isAssignable_iff (alike_pure hef) alike_failure
  apply eats_takesElse
  · have hstar (e f : Expr) (hef : ExprTwin good e f) : ExprTwin good (.starred e) (.starred f) :=
      exprTwin_of_bare (by simp [Expr.bare, hef.bare]) nofun
    exact ((h.primary.alike.map hstar).bind hassignable).mono (n.sub_le 1)
  · exact h.primary.bind hassignable

theorem eats_loopTargets (h : RulesTwin good n r s) :
    Eats good n (ExprTwin good) (loopTargets r) (loopTargets s) :=
  (eats_commaList (eats_loopTarget h)).map fun _ _ => exprTwin_asTuple

theorem alike_clausesAhead : Alike good n (· = ·) clausesAhead clausesAhead := by
  apply alike_peekTwo.bind
  rintro ⟨t, u⟩ _ ⟨rfl, -⟩
  split <;> exact alike_pure rfl

theorem eats_clause (h : RulesTwin good n r s) :
    Eats good (n + 1) (fun a b => a.bare = b.bare) (clause r) (clause s) := by
  apply (alike_takes _).bind_eats
  rintro isAsync _ rfl
  apply (eats_expect _).spend
  rintro _ _ -
  apply (eats_loopTargets h).alike.bind
  intro target target' htarget
  apply (eats_expect _).alike.bind
  rintro _ _ -
  apply h.disjunction.alike.bind
  intro iterable iterable' hiterable
  refine (alike_collect (R := ExprTwin good) ?_).bind ?_
  · apply alike_takesElse
    · exact h.disjunction.alike.map fun _ _ => .some
    · exact alike_pure .none
  · intro conditions conditions' hconditions
    apply alike_pure
    simp [Clause.bare, htarget.bare, hiterable.bare, bareExprs_congr hconditions]

theorem bareClauses_eq_map (clauses : List Clause) :
    bareClauses clauses = clauses.map Clause.bare := by
  induction clauses with
  | nil => rfl
  | cons clause clauses ih => rw [bareClauses, ih, List.map_cons]

theorem alike_clauses (h : RulesTwin good n r s) :
    Alike good (n + 1) (fun a b => bareClauses a = bareClauses b) (clauses r) (clauses s) := by
  have hstep : Alike good (n + 1) (Option.Rel fun a b => a.bare = b.bare)
      (do if ← clausesAhead then some <$> clause r else return none)
      (do if ← clausesAhead then some <$> clause s else return none) := by
    apply alike_clausesAhead.bind
    rintro ahead _ rfl
    apply Alike.ite Iff.rfl
    · exact (eats_clause h).alike.map fun _ _ hab => .some hab
    · exact alike_pure .none
  apply (alike_collect hstep).imp
  intro a b hab
  rw [bareClauses_eq_map, bareClauses_eq_map]
  exact map_congr_of_forall₂ hab fun _ _ h => h

/-! ## Displays -/

/-- Displays that make related expressions of related elements. -/
def Displays (good : Token → Prop) (display display' : List Expr × Bool → Option Expr) : Prop :=
  ∀ a b, Listed (ExprTwin good) a b → Option.Rel (ExprTwin good) (display a) (display' b)

theorem exprTwin_comprehension {kind : ComprehensionKind} {e f : Expr} {clauses others : List Clause}
    (helement : ExprTwin good e f) (hclauses : bareClauses clauses = bareClauses others) :
    ExprTwin good (.comprehension kind e clauses) (.comprehension kind f others) :=
  exprTwin_of_bare (by simp [Expr.bare, helement.bare, hclauses]) nofun

theorem ExprTwin.isStarred_iff {e f : Expr} (h : ExprTwin good e f) :
    isStarred e ↔ isStarred f := by
  rw [← isStarred_bare, h.bare, isStarred_bare]

theorem eats_elementsOrComprehension (h : RulesTwin good n r s) {closing : String}
    {kind : ComprehensionKind} {display display' : List Expr × Bool → Option Expr}
    (hdisplay : Displays good display display') :
    Eats good n (ExprTwin good) (elementsOrComprehension r closing kind display)
      (elementsOrComprehension s closing kind display') := by
  apply (eats_starredOrNamed h).bind
  intro first first' hfirst
  apply alike_clausesAhead.bind
  rintro ahead _ rfl
  apply Alike.ite Iff.rfl
  · apply Alike.ite hfirst.isStarred_iff
    · exact alike_failure_bind rfl rfl
    apply ((alike_clauses h).mono n.le_succ).bind
    intro clauses others hclauses
    apply (eats_expect _).alike.bind
    rintro _ _ -
    exact alike_pure (exprTwin_comprehension hfirst hclauses)
  · have hdone (a b : List Expr × Bool) (hab : Listed (ExprTwin good) a b) :
        Alike good n (ExprTwin good)
          (symbol closing >>= fun _ => StateT.lift (display (first :: a.1, a.2)))
          (symbol closing >>= fun _ => StateT.lift (display' (first' :: b.1, b.2))) :=
      (eats_expect _).alike.bind fun _ _ _ =>
        alike_lift (hdisplay _ _ ⟨.cons hfirst hab.1, hab.2⟩)
    apply alike_takesElse
    · apply alike_peek.bind
      rintro t _ ⟨rfl, -⟩
      apply Alike.ite Iff.rfl
      · apply (eats_commaList (eats_starredOrNamed h)).alike.bind
        intro a b hab
        exact hdone (a.1, true) (b.1, true) ⟨hab.1, rfl⟩
      · exact hdone ([], true) ([], true) ⟨.nil, rfl⟩
    · exact hdone ([], false) ([], false) ⟨.nil, rfl⟩

theorem eats_bracketed (h : RulesTwin good n r s) :
    Eats good (n + 1) (ExprTwin good) (bracketed r) (bracketed s) := by
  apply (eats_expect _).spend
  rintro _ _ -
  apply alike_takesElse
  · exact alike_pure (exprTwin_tuple .nil)
  apply alike_peek.bind
  rintro t _ ⟨rfl, -⟩
  apply Alike.ite Iff.rfl
  · apply ((eats_yieldExpression h).mono n.le_succ).alike.bind
    intro e f hef
    apply (eats_expect _).alike.bind
    rintro _ _ -
    exact alike_pure hef
  · apply (eats_elementsOrComprehension h ?_).alike
    rintro ⟨es, trailing⟩ ⟨fs, _⟩ ⟨hitems, rfl⟩
    dsimp only at hitems
    cases hitems with
    | nil => exact .some (exprTwin_tuple .nil)
    | @cons e f es fs hef hrest =>
      cases hrest with
      | cons hother hrest => exact .some (exprTwin_tuple (.cons hef (.cons hother hrest)))
      | nil =>
        cases trailing with
        | true => exact .some (exprTwin_tuple (.cons hef .nil))
        | false =>
          dsimp only
          by_cases hstar : isStarred e
          · rw [if_pos hstar, if_pos (hef.isStarred_iff.mp hstar)]
            exact .none
          · rw [if_neg hstar, if_neg (mt hef.isStarred_iff.mpr hstar)]
            exact .some hef

theorem exprTwin_list {es fs : List Expr} (h : List.Forall₂ (ExprTwin good) es fs) :
    ExprTwin good (.list es) (.list fs) :=
  exprTwin_of_bare (by simp [Expr.bare, bareExprs_congr h]) nofun

theorem eats_listDisplay (h : RulesTwin good n r s) :
    Eats good (n + 1) (ExprTwin good) (listDisplay r) (listDisplay s) := by
  apply (eats_expect _).spend
  rintro _ _ -
  apply alike_takesElse
  · exact alike_pure (exprTwin_list .nil)
  · exact (eats_elementsOrComprehension h fun _ _ hab => .some (exprTwin_list hab.1)).alike

/-- Items of a dictionary display that are equal but for positions. -/
def DictItemTwin (a b : Option Expr × Expr) : Prop :=
  bareOption a.1 = bareOption b.1 ∧ a.2.bare = b.2.bare

theorem bareItems_congr {items others : List (Option Expr × Expr)}
    (h : List.Forall₂ DictItemTwin items others) : bareItems items = bareItems others := by
  induction h with
  | nil => rfl
  | cons hab _ ih => rw [bareItems, bareItems, hab.1, hab.2, ih]

theorem eats_dictItem (h : RulesTwin good n r s) :
    Eats good n DictItemTwin (dictItem r) (dictItem s) := by
  apply eats_takesElse
  · apply (h.bitOr.mono (n.sub_le 1)).alike.bind
    intro e f hef
    exact alike_pure ⟨rfl, hef.bare⟩
  · apply h.expression.bind
    intro key key' hkey
    apply (eats_expect _).alike.bind
    rintro _ _ -
    apply h.expression.alike.bind
    intro value value' hvalue
    exact alike_pure ⟨congrArg some hkey.bare, hvalue.bare⟩

theorem alike_dictRest (h : RulesTwin good n r s) {first first' : Option Expr × Expr}
    (hfirst : DictItemTwin first first') :
    Alike good n (ExprTwin good) (dictRest r first) (dictRest s first') := by
  have hdone (a b : List (Option Expr × Expr)) (hab : List.Forall₂ DictItemTwin a b) :
      Alike good n (ExprTwin good)
        (symbol "\x7d" >>= fun _ => pure (.dict (first :: a)))
        (symbol "\x7d" >>= fun _ => pure (.dict (first' :: b))) := by
    apply (eats_expect _).alike.bind
    rintro _ _ -
    apply alike_pure
    exact exprTwin_of_bare (by simp [Expr.bare, bareItems_congr (.cons hfirst hab)]) nofun
  apply alike_takesElse
  · refine Alike.bind (Alike.map (alike_whenAhead (Alike.map (eats_commaList
      (eats_dictItem h)).alike (fun a b hab => hab.1))) ?_) hdone
    rintro _ _ (hab | _)
    · exact hab
    · exact .nil
  · exact (alike_pure .nil).bind hdone

theorem alike_setRest (h : RulesTwin good n r s) {first first' : Expr}
    (hfirst : ExprTwin good first first') :
    Alike good n (ExprTwin good) (setRest r first) (setRest s first') := by
  have hdone (a b : List Expr) (hab : List.Forall₂ (ExprTwin good) a b) :
      Alike good n (ExprTwin good)
        (symbol "\x7d" >>= fun _ => pure (.set (first :: a)))
        (symbol "\x7d" >>= fun _ => pure (.set (first' :: b))) := by
    apply (eats_expect _).alike.bind
    rintro _ _ -
    apply alike_pure
    exact exprTwin_of_bare (by simp [Expr.bare, bareExprs_congr (.cons hfirst hab)]) nofun
  apply alike_clausesAhead.bind
  rintro ahead _ rfl
  apply Alike.ite Iff.rfl
  · apply Alike.ite hfirst.isStarred_iff
    · exact alike_failure_bind rfl rfl
    apply ((alike_clauses h).mono n.le_succ).bind
    intro clauses others hclauses
    apply (eats_expect _).alike.bind
    rintro _ _ -
    exact alike_pure (exprTwin_comprehension hfirst hclauses)
  · apply alike_takesElse
    · refine Alike.bind (Alike.map (alike_whenAhead (Alike.map (eats_commaList
        (eats_starredOrNamed h)).alike (fun a b hab => hab.1))) ?_) hdone
      rintro _ _ (hab | _)
      · exact hab
      · exact .nil
    · exact (alike_pure .nil).bind hdone

theorem eats_curlyDisplay (h : RulesTwin good n r s) :
    Eats good (n + 1) (ExprTwin good) (curlyDisplay r) (curlyDisplay s) := by
  apply (eats_expect _).spend
  rintro _ _ -
  apply alike_peekTwo.bind
  rintro ⟨t, u⟩ _ ⟨rfl, -⟩
  split
  · apply eats_advance.alike.bind
    rintro _ _ -
    exact alike_pure (exprTwin_of_bare rfl nofun)
  · exact (eats_dictItem h).alike.bind fun _ _ => alike_dictRest h
  · exact ((eats_starred h).mono n.le_succ).alike.bind fun _ _ => alike_setRest h
  · exact (eats_namedExpression h).alike.bind fun _ _ => alike_setRest h
  · apply h.expression.alike.bind
    intro first first' hfirst
    apply alike_takesElse
    · apply h.expression.alike.bind
      intro value value' hvalue
      apply alike_clausesAhead.bind
      rintro ahead _ rfl
      apply Alike.ite Iff.rfl
      · apply ((alike_clauses h).mono n.le_succ).bind
        intro clauses others hclauses
        apply (eats_expect _).alike.bind
        rintro _ _ -
        apply alike_pure
        exact exprTwin_of_bare (by simp [Expr.bare, hfirst.bare, hvalue.bare, hclauses]) nofun
      · exact alike_dictRest h ⟨congrArg some hfirst.bare, hvalue.bare⟩
    · exact alike_setRest h hfirst

/-! ## Literals and atoms -/

/-- What is read of a string literal that weighs within the budget. -/
theorem alike_stringLiterals :
    Alike good (n + 1)
      (List.Forall₂ fun a b => a = b ∧ 2 * a.body.length + 4 ≤ n + 1)
      stringLiterals stringLiterals := by
  apply alike_collect
  intro lexemes others htwins hn
  cases htwins with
  | nil => exact .none
  | @cons first other rest rest' hfirst hrest =>
    obtain ⟨token, line⟩ := first
    obtain ⟨_, line'⟩ := other
    obtain ⟨htoken, hgood⟩ := hfirst
    dsimp only at htoken
    subst htoken
    rw [weigh_cons] at hn
    cases token with
    | string literal =>
      rw [Token.weight] at hn
      refine .some ⟨.some ⟨rfl, by omega⟩, hrest, ?_⟩
      rw [weigh_cons]
      exact Nat.le_add_left _ _
    | _ => exact .some ⟨.none, .cons ⟨rfl, hgood⟩ hrest, Nat.le_refl _⟩

theorem eatsAt_stringLiterals (literal : StringLiteral) :
    EatsAt good (n + 1)
      (List.Forall₂ fun a b => a = b ∧ 2 * a.body.length + 4 ≤ n + 1) (.string literal)
      stringLiterals stringLiterals := by
  intro line line' rest rest' htwins hn
  have hcons (line : Nat) (rest : List Lexeme) :
      stringLiterals (⟨.string literal, line⟩ :: rest) =
        ((literal :: ·) <$> stringLiterals) rest := rfl
  obtain _ | ⟨-, hrest⟩ := htwins
  rw [hcons, hcons, map_apply, map_apply]
  rw [weigh_cons, Token.weight] at hn ⊢
  apply rel_map (alike_stringLiterals (n := n) rest rest' hrest (by omega))
  rintro a b ⟨hab, hmore, hle⟩
  refine ⟨.cons ⟨rfl, by omega⟩ hab, hmore, ?_⟩
  dsimp only
  omega

theorem eatsAt_strings (h : RulesTwin good n r s) (literal : StringLiteral) :
    EatsAt good (n + 1) (ExprTwin good) (.string literal) (strings r) (strings s) := by
  apply (eatsAt_stringLiterals literal).bind
  intro literals others hliterals
  have hsame : literals = others := by
    simpa using map_congr_of_forall₂ (f := id) (g := id) hliterals fun _ _ h => h.1
  subst hsame
  have hweights (literal : StringLiteral) (hmem : literal ∈ literals) :
      2 * literal.body.length + 4 ≤ n + 1 := by
    have hself := List.forall₂_same.mp hliterals
    exact (hself literal hmem).2
  have hfield (text : List Char) (htext : text.length + 2 ≤ (n - 3) / 2) :
      Option.Rel (ExprTwin good) (r.field text) (s.field text) :=
    h.field text (by omega)
  apply alike_lift
  apply rel_joinLiterals hfield
  intro literal hmem
  have hweight := hweights literal hmem
  omega

theorem eats_atom (h : RulesTwin good n r s) :
    Eats good (n + 1) (ExprTwin good) (atom r) (atom s) := by
  have hname (id : String) (hgood : good (.name id)) : ExprTwin good (.name id) (.name id) :=
    ⟨rfl, fun other h => by cases h; exact hgood⟩
  have hconstant (value : Constant) : ExprTwin good (.constant value) (.constant value) :=
    exprTwin_of_bare rfl nofun
  apply eats_ahead
  intro token hgood
  split
  · exact (eats_advance.bind fun _ _ _ => alike_pure (hname _ hgood)).at _
  · exact (eats_advance.bind fun _ _ _ => alike_pure (hconstant _)).at _
  · exact eatsAt_strings h _
  · exact (eats_advance.bind fun _ _ _ => alike_pure (hconstant _)).at _
  · exact (eats_advance.bind fun _ _ _ => alike_pure (hconstant _)).at _
  · exact (eats_advance.bind fun _ _ _ => alike_pure (hconstant _)).at _
  · exact (eats_advance.bind fun _ _ _ => alike_pure (hconstant _)).at _
  · exact (eats_bracketed h).at _
  · exact (eats_listDisplay h).at _
  · exact (eats_curlyDisplay h).at _
  · exact eats_failure.at _

end Parser

end Registrar.Source
