import Registrar.Proofs.Parser.Atom

/-! # Attributes, calls and subscripts of the same tokens

What is applied to an atom is read alike, and a call does not depend on its line but for its
position.
-/

namespace Registrar.Source.Parser

variable {good : Token → Prop} {n : Nat} {r s : Rules}

/-! ## Arguments -/

/-- An argument without positions. -/
def Argument.bare : Argument → Argument
  | .positional value => .positional value.bare
  | .spread value => .spread value.bare
  | .keyword name value => .keyword name value.bare
  | .keywordSpread value => .keywordSpread value.bare

/-- Arguments by the way they are passed, without positions. -/
def bareArranged (arranged : List Expr × List (Option String × Expr)) :
    List Expr × List (Option String × Expr) :=
  (bareExprs arranged.1, bareKeywords arranged.2)

theorem eats_argument (h : RulesTwin good n r s) :
    Eats good n (fun a b => a.bare = b.bare) (argument r) (argument s) := by
  apply alike_peekTwo.bind_eats
  rintro ⟨t, u⟩ _ ⟨rfl, -⟩
  split
  · apply eats_advance.bind
    rintro _ _ -
    exact h.expression.alike.map fun e f hef => congrArg Argument.spread hef.bare
  · apply eats_advance.bind
    rintro _ _ -
    exact h.expression.alike.map fun e f hef => congrArg Argument.keywordSpread hef.bare
  · apply eats_advance.bind
    rintro _ _ -
    apply eats_advance.alike.bind
    rintro _ _ -
    exact h.expression.alike.map fun e f hef => congrArg (Argument.keyword _) hef.bare
  · exact (eats_namedExpression h).map fun e f hef => congrArg Argument.positional hef.bare

theorem arrangeArguments_bare (items : List Argument) (keywordSeen doubleSeen : Bool) :
    arrangeArguments (items.map Argument.bare) keywordSeen doubleSeen =
      (arrangeArguments items keywordSeen doubleSeen).map bareArranged := by
  induction items generalizing keywordSeen doubleSeen with
  | nil => rfl
  | cons item items ih =>
    cases item with
    | positional value =>
      simp only [List.map_cons, Argument.bare, arrangeArguments, ih]
      split
      · rfl
      · cases arrangeArguments items keywordSeen doubleSeen <;> rfl
    | spread value =>
      simp only [List.map_cons, Argument.bare, arrangeArguments, ih]
      split
      · rfl
      · cases arrangeArguments items keywordSeen doubleSeen <;> rfl
    | keyword name value =>
      simp only [List.map_cons, Argument.bare, arrangeArguments, ih]
      cases arrangeArguments items true doubleSeen <;> rfl
    | keywordSpread value =>
      simp only [List.map_cons, Argument.bare, arrangeArguments, ih]
      cases arrangeArguments items keywordSeen true <;> rfl

theorem rel_arrangeArguments {items others : List Argument}
    (h : List.Forall₂ (fun a b => a.bare = b.bare) items others) (keywordSeen doubleSeen : Bool) :
    Option.Rel (fun a b => bareArranged a = bareArranged b)
      (arrangeArguments items keywordSeen doubleSeen)
      (arrangeArguments others keywordSeen doubleSeen) := by
  apply rel_of_map_eq
  rw [← arrangeArguments_bare, ← arrangeArguments_bare]
  exact congrArg (arrangeArguments · _ _) (map_congr_of_forall₂ h fun _ _ hab => hab)

theorem alike_arguments (h : RulesTwin good n r s) :
    Alike good n (fun a b => bareArranged a = bareArranged b) (arguments r) (arguments s) := by
  apply alike_takesElse
  · exact alike_pure rfl
  · apply (eats_commaList (eats_argument h)).alike.bind
    intro a b hab
    apply (eats_expect _).alike.bind
    rintro _ _ -
    exact alike_lift (rel_arrangeArguments hab.1 _ _)

theorem alike_callArguments (h : RulesTwin good n r s) :
    Alike good n (fun a b => bareArranged a = bareArranged b) (callArguments r)
      (callArguments s) := by
  apply alike_takesElse
  · exact alike_pure rfl
  apply (eats_argument h).alike.bind
  intro first first' hfirst
  apply alike_clausesAhead.bind
  rintro ahead _ rfl
  have hdone (a b : List Argument) (hab : List.Forall₂ (fun a b => a.bare = b.bare) a b) :
      Alike good n (fun a b => bareArranged a = bareArranged b)
        (symbol ")" >>= fun _ => StateT.lift (arrangeArguments (first :: a) false false))
        (symbol ")" >>= fun _ => StateT.lift (arrangeArguments (first' :: b) false false)) :=
    (eats_expect _).alike.bind fun _ _ _ =>
      alike_lift (rel_arrangeArguments (.cons hfirst hab) _ _)
  have hrest : Alike good n (fun a b => bareArranged a = bareArranged b)
      (do
        let rest ← if ← takesSymbol "," then
            (·.getD []) <$> whenAhead startsArgument
              ((·.1) <$> commaList startsArgument (argument r))
          else pure []
        symbol ")"
        StateT.lift (arrangeArguments (first :: rest) false false))
      (do
        let rest ← if ← takesSymbol "," then
            (·.getD []) <$> whenAhead startsArgument
              ((·.1) <$> commaList startsArgument (argument s))
          else pure []
        symbol ")"
        StateT.lift (arrangeArguments (first' :: rest) false false)) := by
    apply alike_takesElse
    · refine Alike.bind (Alike.map (alike_whenAhead (Alike.map (eats_commaList
        (eats_argument h)).alike (fun a b hab => hab.1))) ?_) hdone
      rintro _ _ (hab | _)
      · exact hab
      · exact .nil
    · exact (alike_pure .nil).bind hdone
  cases first with
  | positional element =>
    cases first' with
    | positional other =>
      cases ahead with
      | false => exact hrest
      | true =>
        apply ((alike_clauses h).mono n.le_succ).bind
        intro clauses others hclauses
        apply (eats_expect _).alike.bind
        rintro _ _ -
        apply alike_pure
        have helement : element.bare = other.bare := by simpa [Argument.bare] using hfirst
        simp [bareArranged, bareExprs, Expr.bare, bareKeywords, helement, hclauses]
    | _ => cases hfirst
  | _ =>
    cases first' with
    | positional other => cases hfirst
    | _ => exact hrest

/-! ## Subscripts -/

theorem eats_slicePart (h : RulesTwin good n r s) :
    Eats good n (ExprTwin good) (slicePart r) (slicePart s) := by
  have hbound : Alike good n (Option.Rel (ExprTwin good))
      (whenAhead startsExpression r.expression) (whenAhead startsExpression s.expression) :=
    alike_whenAhead h.expression.alike
  have hafter (lower lower' : Option Expr) (hlower : Option.Rel (ExprTwin good) lower lower') :
      Eats good n (ExprTwin good)
        (do
          symbol ":"
          let upper ← whenAhead startsExpression r.expression
          let step ← if ← takesSymbol ":" then whenAhead startsExpression r.expression
            else pure none
          return .slice lower upper step)
        (do
          symbol ":"
          let upper ← whenAhead startsExpression s.expression
          let step ← if ← takesSymbol ":" then whenAhead startsExpression s.expression
            else pure none
          return .slice lower' upper step) := by
    apply (eats_expect _).bind
    rintro _ _ -
    apply hbound.bind
    intro upper upper' hupper
    have hslice (step step' : Option Expr) (hstep : Option.Rel (ExprTwin good) step step') :
        Alike good n (ExprTwin good) (pure (.slice lower upper step))
          (pure (.slice lower' upper' step')) := by
      apply alike_pure
      refine exprTwin_of_bare ?_ nofun
      simp [Expr.bare, bareOption_congr hlower, bareOption_congr hupper, bareOption_congr hstep]
    apply alike_takesElse
    · exact hbound.bind hslice
    · exact (alike_pure .none).bind hslice
  apply alike_peekTwo.bind_eats
  rintro ⟨t, u⟩ _ ⟨rfl, -⟩
  split
  · exact (eats_starred h).mono n.le_succ
  · exact hafter none none .none
  · exact eats_namedExpression h
  · apply h.expression.bind
    intro lower lower' hlower
    apply alike_peek.bind
    rintro t _ ⟨rfl, -⟩
    exact Alike.ite Iff.rfl (hafter _ _ (.some hlower)).alike (alike_pure hlower)

theorem eq_starred_of_isStarred {e : Expr} (h : isStarred e = true) : ∃ value, e = .starred value := by
  cases e with
  | starred value => exact ⟨value, rfl⟩
  | _ => cases h

theorem eats_subscriptIndex (h : RulesTwin good n r s) :
    Eats good n (ExprTwin good) (subscriptIndex r) (subscriptIndex s) := by
  apply (eats_commaList (eats_slicePart h)).bind
  rintro ⟨es, trailing⟩ ⟨fs, _⟩ ⟨hitems, rfl⟩
  dsimp only at hitems
  have hparts := exprTwin_asTuple (a := (es, trailing)) (b := (fs, trailing)) ⟨hitems, rfl⟩
  split
  · rename_i value hpair
    cases hpair
    obtain _ | ⟨hvalue, _ | _⟩ := hitems
    obtain ⟨other, rfl⟩ := eq_starred_of_isStarred (hvalue.isStarred_iff.mp rfl)
    exact alike_pure (exprTwin_tuple (.cons hvalue .nil))
  · rename_i hplain
    split
    · rename_i other hpair
      cases hpair
      obtain _ | ⟨hvalue, _ | _⟩ := hitems
      obtain ⟨value, rfl⟩ := eq_starred_of_isStarred (hvalue.isStarred_iff.mpr rfl)
      exact absurd rfl (hplain value)
    · exact alike_pure hparts

/-! ## Applications -/

/-- Applications that make related expressions of related ones. -/
def Applies (good : Token → Prop) (f g : Expr → Expr) : Prop :=
  ∀ e e', ExprTwin good e e' → ExprTwin good (f e) (g e')

theorem alike_trailer (h : RulesTwin good n r s) (line line' : Nat) :
    Alike good (n + 1) (Option.Rel (Applies good)) (trailer r line) (trailer s line') := by
  apply alike_peek.bind
  rintro t _ ⟨rfl, -⟩
  split
  · apply eats_advance.alike.bind
    rintro _ _ -
    apply eats_identifier.alike.bind
    rintro attr _ ⟨rfl, -⟩
    apply alike_pure
    exact .some fun e e' he => exprTwin_of_bare (by simp [Expr.bare, he.bare]) nofun
  · apply Eats.alike
    apply eats_advance.spend
    rintro _ _ -
    apply (alike_callArguments h).bind
    intro a b hab
    obtain ⟨harguments, hkeywords⟩ := Prod.mk.inj hab
    apply alike_pure
    refine .some fun e e' he => exprTwin_of_bare ?_ nofun
    simp [Expr.bare, he.bare, harguments, hkeywords]
  · apply Eats.alike
    apply eats_advance.spend
    rintro _ _ -
    apply (eats_subscriptIndex h).alike.bind
    intro index index' hindex
    apply (eats_expect _).alike.bind
    rintro _ _ -
    apply alike_pure
    exact .some fun e e' he => exprTwin_of_bare (by simp [Expr.bare, he.bare, hindex.bare]) nofun
  · exact alike_pure .none

theorem exprTwin_applied {applications others : List (Expr → Expr)}
    (h : List.Forall₂ (Applies good) applications others) {e e' : Expr} (he : ExprTwin good e e') :
    ExprTwin good (applications.foldl (fun value apply => apply value) e)
      (others.foldl (fun value apply => apply value) e') := by
  induction h generalizing e e' with
  | nil => exact he
  | cons hfirst _ ih => exact ih (hfirst e e' he)

theorem eats_primary (h : RulesTwin good n r s) :
    Eats good (n + 1) (ExprTwin good) (primary r) (primary s) := by
  apply alike_line.bind_eats
  rintro line line' -
  apply (eats_atom h).bind
  intro e e' he
  apply (alike_collect (alike_trailer h line line')).bind
  intro applications others hab
  exact alike_pure (exprTwin_applied hab he)

end Registrar.Source.Parser
