import Registrar.Proofs.Parser.Statement

/-! # Compound statements of the same tokens -/

namespace Registrar.Source.Parser

variable {good : Token → Prop} {n : Nat} {r s : Rules}

/-- Blocks that are equal but for positions. -/
def BlockTwin (a b : List Stmt) : Prop := bareStmts a = bareStmts b

theorem BlockTwin.isEmpty_eq {a b : List Stmt} (h : BlockTwin a b) : a.isEmpty = b.isEmpty := by
  cases a <;> cases b <;> first | rfl | cases h

/-! ## Suites -/

theorem eats_suite (h : RulesTwin good n r s) : Eats good n BlockTwin (suite r) (suite s) := by
  apply (eats_expect _).bind_less
  rintro _ _ -
  exact h.block.alike

theorem alike_optionalSuite (h : RulesTwin good n r s) (text : String) :
    Alike good n BlockTwin (optionalSuite r text) (optionalSuite s text) :=
  alike_takesElse (eats_suite h).alike (alike_pure rfl)

/-! ## Conditions and loops -/

/-- Branches of a conditional, each nested in the one before. -/
def elseBranches (branches : List (Expr × List Stmt)) (orelse : List Stmt) : List Stmt :=
  branches.foldr (fun branch orelse => [.conditional branch.1 branch.2 orelse]) orelse

theorem blockTwin_elseBranches {branches others : List (Expr × List Stmt)}
    {orelse orelse' : List Stmt}
    (h : List.Forall₂ (fun a b => a.1.bare = b.1.bare ∧ BlockTwin a.2 b.2) branches others)
    (horelse : BlockTwin orelse orelse') :
    BlockTwin (elseBranches branches orelse) (elseBranches others orelse') := by
  unfold elseBranches
  induction h with
  | nil => exact horelse
  | cons hab _ ih =>
    rw [BlockTwin] at ih
    simp only [BlockTwin, List.foldr_cons, bareStmts, Stmt.bare, hab.1, ih,
      show bareStmts _ = bareStmts _ from hab.2]

theorem eats_ifStatement (h : RulesTwin good n r s) :
    Eats good n (StmtTwin good) (ifStatement r) (ifStatement s) := by
  apply (eats_expect _).bind
  rintro _ _ -
  apply (eats_namedExpression h).alike.bind
  intro test test' htest
  apply (eats_suite h).alike.bind
  intro body body' hbody
  refine (alike_collect (R := fun a b => a.1.bare = b.1.bare ∧ BlockTwin a.2 b.2) ?_).bind ?_
  · apply alike_takesElse
    · apply (eats_namedExpression h).alike.bind
      intro test test' htest
      apply (eats_suite h).alike.bind
      intro body body' hbody
      exact alike_pure (.some ⟨htest.bare, hbody⟩)
    · exact alike_pure .none
  · intro branches others hbranches
    apply (alike_optionalSuite h _).bind
    intro orelse orelse' horelse
    apply alike_pure
    refine ⟨?_, trivial⟩
    change Stmt.conditional _ _ _ = Stmt.conditional _ _ _
    rw [BlockTwin] at hbody
    rw [htest.bare, hbody]
    exact congrArg _ (blockTwin_elseBranches hbranches horelse)

theorem eats_whileStatement (h : RulesTwin good n r s) :
    Eats good n (StmtTwin good) (whileStatement r) (whileStatement s) := by
  apply (eats_expect _).bind
  rintro _ _ -
  apply (eats_namedExpression h).alike.bind
  intro test test' htest
  apply (eats_suite h).alike.bind
  intro body body' hbody
  apply (alike_optionalSuite h _).bind
  intro orelse orelse' horelse
  apply alike_pure
  rw [BlockTwin] at hbody horelse
  exact ⟨by simp [Stmt.bare, htest.bare, hbody, horelse], trivial⟩

theorem eats_forStatement (h : RulesTwin good n r s) (isAsync : Bool) :
    Eats good n (StmtTwin good) (forStatement r isAsync) (forStatement s isAsync) := by
  apply (eats_expect _).bind
  rintro _ _ -
  apply (eats_loopTargets h).alike.bind
  intro target target' htarget
  apply (eats_expect _).alike.bind
  rintro _ _ -
  apply (eats_starExpressions h).alike.bind
  intro iterable iterable' hiterable
  apply (eats_suite h).alike.bind
  intro body body' hbody
  apply (alike_optionalSuite h _).bind
  intro orelse orelse' horelse
  apply alike_pure
  rw [BlockTwin] at hbody horelse
  exact ⟨by simp [Stmt.bare, htarget.bare, hiterable.bare, hbody, horelse], trivial⟩

/-! ## Contexts -/

/-- Contexts of a `with` statement that are equal but for positions. -/
def ContextTwin (a b : Expr × Option Expr) : Prop :=
  a.1.bare = b.1.bare ∧ bareOption a.2 = bareOption b.2

theorem bareContexts_congr {items others : List (Expr × Option Expr)}
    (h : List.Forall₂ ContextTwin items others) : bareContexts items = bareContexts others :=
  map_congr_of_forall₂ h fun _ _ hab => Prod.ext hab.1 hab.2

theorem eats_withItem (h : RulesTwin good n r s) :
    Eats good n ContextTwin (withItem r) (withItem s) := by
  apply h.expression.bind
  intro context context' hcontext
  apply alike_takesElse
  · apply (eats_loopTarget h).alike.bind
    intro target target' htarget
    apply alike_peek.bind
    rintro t _ ⟨rfl, -⟩
    split
    · exact Alike.ite Iff.rfl (alike_pure ⟨hcontext.bare, congrArg some htarget.bare⟩)
        alike_failure
    · exact alike_failure
  · exact alike_pure ⟨hcontext.bare, rfl⟩

theorem eats_bracketedItems (h : RulesTwin good n r s) :
    Eats good n (List.Forall₂ ContextTwin) (bracketedItems r) (bracketedItems s) := by
  apply (eats_expect _).bind
  rintro _ _ -
  apply (eats_commaList (eats_withItem h)).alike.bind
  intro a b hab
  apply (eats_expect _).alike.bind
  rintro _ _ -
  apply alike_peek.bind
  rintro t _ ⟨rfl, -⟩
  exact Alike.ite Iff.rfl (alike_pure hab.1) alike_failure

theorem eats_withStatement (h : RulesTwin good n r s) (isAsync : Bool) :
    Eats good n (StmtTwin good) (withStatement r isAsync) (withStatement s isAsync) := by
  apply (eats_expect _).bind
  rintro _ _ -
  apply ((eats_bracketedItems h).orElse (eats_separated (eats_withItem h))).alike.bind
  intro items items' hitems
  apply (eats_suite h).alike.bind
  intro body body' hbody
  apply alike_pure
  rw [BlockTwin] at hbody
  exact ⟨by simp [Stmt.bare, bareContexts_congr hitems, hbody], trivial⟩

/-! ## Exceptions -/

/-- Handlers that are equal but for positions, and that are both for groups or both not. -/
def HandlerTwin (a b : Bool × Handler) : Prop := a.1 = b.1 ∧ a.2.bare = b.2.bare

theorem alike_handler (h : RulesTwin good n r s) :
    Alike good n HandlerTwin (handler r) (handler s) := by
  apply (alike_takes _).bind
  rintro isGroup _ rfl
  apply alike_peek.bind
  rintro t _ ⟨rfl, -⟩
  apply Alike.ite Iff.rfl
  · apply (eats_suite h).alike.bind
    intro body body' hbody
    exact alike_pure ⟨rfl, congrArg (Handler.mk none none) hbody⟩
  · apply h.expression.alike.bind
    intro exception exception' hexception
    apply alike_asName.bind
    rintro name _ rfl
    apply (eats_suite h).alike.bind
    intro body body' hbody
    apply alike_pure
    rw [BlockTwin] at hbody
    exact ⟨rfl, by simp [Handler.bare, bareOption, hexception.bare, hbody]⟩

theorem bareHandlers_eq_map (handlers : List Handler) :
    bareHandlers handlers = handlers.map Handler.bare := by
  induction handlers with
  | nil => rfl
  | cons handler handlers ih => rw [bareHandlers, ih, List.map_cons]

theorem eats_tryStatement (h : RulesTwin good n r s) :
    Eats good n (StmtTwin good) (tryStatement r) (tryStatement s) := by
  apply (eats_expect _).bind
  rintro _ _ -
  apply (eats_suite h).alike.bind
  intro body body' hbody
  refine (alike_collect (R := HandlerTwin) ?_).bind ?_
  · apply alike_takesElse
    · exact (alike_handler h).map fun _ _ hab => .some hab
    · exact alike_pure .none
  · intro handlers others hhandlers
    have hkinds : handlers.map (·.1) = others.map (·.1) :=
      map_congr_of_forall₂ hhandlers fun _ _ hab => hab.1
    have hany : handlers.any (·.1) = others.any (·.1) := by
      simpa [List.any_map, Function.comp_def] using congrArg (List.any · id) hkinds
    have hall : handlers.all (·.1) = others.all (·.1) := by
      simpa [List.all_map, Function.comp_def] using congrArg (List.all · id) hkinds
    have hempty : handlers.isEmpty = others.isEmpty := by
      cases hhandlers <;> rfl
    have hbare : bareHandlers (handlers.map (·.2)) = bareHandlers (others.map (·.2)) := by
      rw [bareHandlers_eq_map, bareHandlers_eq_map, List.map_map, List.map_map]
      exact map_congr_of_forall₂ hhandlers fun _ _ hab => hab.2
    rw [BlockTwin] at hbody
    have hfinal (orelse orelse' : List Stmt) (horelse : BlockTwin orelse orelse') :
        Alike good n (StmtTwin good)
          (do
            let finalbody ← optionalSuite r "finally"
            if handlers.isEmpty && finalbody.isEmpty then failure
            return .tryExcept (handlers.any (·.1)) body (handlers.map (·.2)) orelse finalbody)
          (do
            let finalbody ← optionalSuite s "finally"
            if others.isEmpty && finalbody.isEmpty then failure
            return .tryExcept (others.any (·.1)) body' (others.map (·.2)) orelse' finalbody) := by
      apply (alike_optionalSuite h _).bind
      intro finalbody finalbody' hfinalbody
      apply Alike.ite (by rw [hempty, hfinalbody.isEmpty_eq])
      · exact alike_failure_bind rfl rfl
      apply alike_pure
      rw [BlockTwin] at horelse hfinalbody
      exact ⟨by simp [Stmt.bare, hany, hbody, hbare, horelse, hfinalbody], trivial⟩
    apply Alike.ite (by rw [hany, hall])
    · exact alike_failure_bind rfl rfl
    apply Alike.ite (by rw [hempty])
    · exact hfinal [] [] rfl
    · exact (alike_optionalSuite h _).bind hfinal

/-! ## Cases -/

theorem eats_caseBlock (h : RulesTwin good n r s) :
    Eats good n (fun a b => a.bare = b.bare) (caseBlock r) (caseBlock s) := by
  apply (eats_expect _).bind
  rintro _ _ -
  apply (eats_casePattern h).alike.bind
  intro pattern pattern' hpattern
  apply alike_optional (eats_namedExpression h).alike
  intro guard guard' hguard
  apply (eats_suite h).alike.bind
  intro body body' hbody
  apply alike_pure
  rw [BlockTwin] at hbody
  rw [PatternTwin] at hpattern
  simp [Case.bare, hpattern, bareOption_congr hguard, hbody]

theorem bareCases_eq_map (cases : List Case) : bareCases cases = cases.map Case.bare := by
  induction cases with
  | nil => rfl
  | cons case cases ih => rw [bareCases, ih, List.map_cons]

theorem eats_matchStatement (h : RulesTwin good n r s) :
    Eats good n (StmtTwin good) (matchStatement r) (matchStatement s) := by
  apply (eats_expect _).bind
  rintro _ _ -
  apply ((eats_commaList (eats_starredOrNamed h)).map fun _ _ => exprTwin_asTuple).alike.bind
  intro subject subject' hsubject
  apply Alike.ite hsubject.isStarred_iff
  · exact alike_failure_bind rfl rfl
  apply (eats_expect _).alike.bind
  rintro _ _ -
  apply (eats_expect _).alike.bind
  rintro _ _ -
  apply (eats_expect _).alike.bind
  rintro _ _ -
  refine (alike_collect (R := fun a b => a.bare = b.bare) ?_).bind ?_
  · apply alike_peek.bind
    rintro t _ ⟨rfl, -⟩
    apply Alike.ite Iff.rfl
    · exact (eats_caseBlock h).alike.map fun _ _ hab => .some hab
    · exact alike_pure .none
  · intro cases others hcases
    have hempty : cases.isEmpty = others.isEmpty := by
      cases hcases <;> rfl
    apply Alike.ite (by rw [hempty])
    · exact alike_failure_bind rfl rfl
    apply (eats_expect _).alike.bind
    rintro _ _ -
    apply alike_pure
    refine ⟨?_, trivial⟩
    have hbare : bareCases cases = bareCases others := by
      rw [bareCases_eq_map, bareCases_eq_map]
      exact map_congr_of_forall₂ hcases fun _ _ hab => hab
    simp [Stmt.bare, hsubject.bare, hbare]

/-! ## Definitions -/

theorem eats_functionStatement (h : RulesTwin good n r s) (isAsync : Bool)
    {decorators decorators' : List Expr} (hdecorators : bareExprs decorators = bareExprs decorators') :
    Eats good n (StmtTwin good) (functionStatement r isAsync decorators)
      (functionStatement s isAsync decorators') := by
  apply (eats_expect _).bind
  rintro _ _ -
  apply eats_identifier.alike.bind
  rintro name _ ⟨rfl, hgood⟩
  apply (eats_expect _).alike.bind
  rintro _ _ -
  apply ((alike_functionParameters h).mono n.le_succ).bind
  intro parameters parameters' hparameters
  apply (eats_expect _).alike.bind
  rintro _ _ -
  apply alike_optional h.expression.alike
  intro returns returns' hreturns
  apply (eats_suite h).alike.bind
  intro body body' hbody
  apply alike_pure
  rw [BlockTwin] at hbody
  refine ⟨?_, hgood⟩
  simp [Stmt.bare, hparameters, hdecorators, bareOption_congr hreturns, hbody]

theorem eats_classStatement (h : RulesTwin good n r s) {decorators decorators' : List Expr}
    (hdecorators : bareExprs decorators = bareExprs decorators') :
    Eats good n (StmtTwin good) (classStatement r decorators) (classStatement s decorators') := by
  apply (eats_expect _).bind
  rintro _ _ -
  apply eats_identifier.alike.bind
  rintro name _ ⟨rfl, hgood⟩
  have hbody (a b : List Expr × List (Option String × Expr)) (hab : bareArranged a = bareArranged b) :
      Alike good n (StmtTwin good)
        (do
          let body ← suite r
          return .classDef name a.1 a.2 decorators body)
        (do
          let body ← suite s
          return .classDef name b.1 b.2 decorators' body) := by
    apply (eats_suite h).alike.bind
    intro body body' hbody
    obtain ⟨hbases, hkeywords⟩ := Prod.mk.inj hab
    apply alike_pure
    rw [BlockTwin] at hbody
    exact ⟨by simp [Stmt.bare, hbases, hkeywords, hdecorators, hbody], hgood⟩
  apply alike_takesElse
  · exact (alike_arguments h).bind hbody
  · exact hbody ([], []) ([], []) rfl

theorem eats_decorated (h : RulesTwin good n r s) :
    Eats good n (StmtTwin good) (decorated r) (decorated s) := by
  refine (alike_collect (R := ExprTwin good) ?_).bind_eats ?_
  · apply alike_takesElse
    · apply (eats_namedExpression h).alike.bind
      intro decorator decorator' hdecorator
      apply (eats_expect _).alike.bind
      rintro _ _ -
      exact alike_pure (.some hdecorator)
    · exact alike_pure .none
  · intro decorators decorators' hab
    have hdecorators := bareExprs_congr hab
    apply alike_peek.bind_eats
    rintro t _ ⟨rfl, -⟩
    split
    · exact eats_classStatement h hdecorators
    · apply eats_advance.bind
      rintro _ _ -
      exact (eats_functionStatement h true hdecorators).alike
    · exact eats_functionStatement h false hdecorators

theorem eats_asyncStatement (h : RulesTwin good n r s) :
    Eats good n (StmtTwin good) (asyncStatement r) (asyncStatement s) := by
  apply (eats_expect _).bind
  rintro _ _ -
  apply alike_peek.bind
  rintro t _ ⟨rfl, -⟩
  split
  · exact (eats_functionStatement h true rfl).alike
  · exact (eats_withStatement h true).alike
  · exact (eats_forStatement h true).alike

/-! ## Statements and blocks -/

theorem eats_statement (h : RulesTwin good n r s) :
    Eats good n (List.Forall₂ (StmtTwin good)) (statement r) (statement s) := by
  have hone {p q : Parser Stmt} (hpq : Eats good n (StmtTwin good) p q) :
      Eats good n (List.Forall₂ (StmtTwin good)) (do return [← p]) (do return [← q]) :=
    hpq.bind fun _ _ hab => alike_pure (.cons hab .nil)
  apply alike_peek.bind_eats
  rintro t _ ⟨rfl, -⟩
  split
  · exact hone (eats_ifStatement h)
  · exact hone (eats_whileStatement h)
  · exact hone (eats_forStatement h false)
  · exact hone (eats_withStatement h false)
  · exact hone (eats_tryStatement h)
  · exact hone (eats_functionStatement h false rfl)
  · exact hone (eats_classStatement h rfl)
  · exact hone (eats_asyncStatement h)
  · exact hone (eats_decorated h)
  · exact (hone (eats_matchStatement h)).orElse (eats_simpleStatements h)
  · exact eats_simpleStatements h

theorem forall₂_flatten {α β : Type} {R : α → β → Prop} {as : List (List α)} {bs : List (List β)}
    (h : List.Forall₂ (List.Forall₂ R) as bs) : List.Forall₂ R as.flatten bs.flatten := by
  induction h with
  | nil => exact .nil
  | cons hab _ ih => exact List.rel_append hab ih

theorem eats_statementsUntil (h : RulesTwin good n r s) (final : Token) :
    Eats good n (List.Forall₂ (StmtTwin good)) (statementsUntil final r)
      (statementsUntil final s) := by
  refine (alike_collect (R := List.Forall₂ (StmtTwin good)) ?_).bind_eats ?_
  · apply alike_peek.bind
    rintro t _ ⟨rfl, -⟩
    apply Alike.ite Iff.rfl
    · exact alike_pure .none
    · exact (eats_statement h).alike.map fun _ _ hab => .some hab
  · intro statements others hstatements
    apply (eats_expect _).bind
    rintro _ _ -
    exact alike_pure (forall₂_flatten hstatements)

theorem eats_block (h : RulesTwin good n r s) :
    Eats good n BlockTwin (block r) (block s) := by
  apply eats_takesElse
  · have hstatements : Eats good n BlockTwin
        (do
          expect .indent
          let statements ← statementsUntil .dedent r
          if statements.isEmpty then failure
          return statements)
        (do
          expect .indent
          let statements ← statementsUntil .dedent s
          if statements.isEmpty then failure
          return statements) := by
      apply (eats_expect _).bind
      rintro _ _ -
      apply (eats_statementsUntil h _).alike.bind
      intro statements others hab
      have hbare : BlockTwin statements others := bareStmts_congr hab
      apply Alike.ite (by rw [hbare.isEmpty_eq])
      · exact alike_failure_bind rfl rfl
      · exact alike_pure hbare
    exact (hstatements.mono (n.sub_le 1)).alike
  · exact (eats_simpleStatements h).imp fun _ _ hab => bareStmts_congr hab

end Registrar.Source.Parser
