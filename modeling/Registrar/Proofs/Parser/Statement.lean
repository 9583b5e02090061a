import Registrar.Proofs.Parser.Pattern
import Registrar.Source.Parser.Statement

/-! # Statements of the same tokens

Statements that are read off the same tokens are equal but for positions, and what they define or
assign is a name that was read.
-/

namespace Registrar.Source

/-- The names that a statement defines or assigns by themselves are good tokens. -/
def Stmt.Named (good : Token → Prop) : Stmt → Prop
  | .functionDef _ name .. | .classDef name .. => good (.name name)
  | .assign targets _ => ∀ id, targets = [.name id] → good (.name id)
  | .annAssign target _ _ => ∀ id, target = .name id → good (.name id)
  | _ => True

namespace Parser

variable {good : Token → Prop} {n : Nat} {r s : Rules}

/-- Statements that are equal but for positions; the names they define are good tokens. -/
structure StmtTwin (good : Token → Prop) (a b : Stmt) : Prop where
  bare : a.bare = b.bare
  named : a.Named good

theorem bareStmts_eq_map (body : List Stmt) : bareStmts body = body.map Stmt.bare := by
  induction body with
  | nil => rfl
  | cons statement body ih => rw [bareStmts, ih, List.map_cons]

theorem bareStmts_congr {body other : List Stmt} (h : List.Forall₂ (StmtTwin good) body other) :
    bareStmts body = bareStmts other := by
  rw [bareStmts_eq_map, bareStmts_eq_map]
  exact map_congr_of_forall₂ h fun _ _ hab => hab.bare

/-! ## Imports -/

theorem alike_names {item : Parser String}
    (h : Eats good n (· = ·) item item) (separator : String) :
    Eats good n (· = ·) (separated separator item) (separated separator item) :=
  (eats_separated h).imp fun _ _ hab => List.forall₂_eq_eq_eq ▸ hab

theorem eats_plainIdentifier : Eats good n (· = ·) identifier identifier :=
  eats_identifier.imp fun _ _ hab => hab.1

theorem eats_dottedName : Eats good n (· = ·) dottedName dottedName := by
  apply (alike_names eats_plainIdentifier _).bind
  rintro parts _ rfl
  exact alike_pure rfl

theorem alike_asName : Alike good n (· = ·) asName asName := by
  apply alike_takesElse
  · exact eats_plainIdentifier.alike.map fun a b hab => congrArg some hab
  · exact alike_pure rfl

theorem eats_importStatement :
    Eats good n (StmtTwin good) importStatement importStatement := by
  apply (eats_expect _).bind
  rintro _ _ -
  refine (eats_separated (R := (· = ·)) ?_).alike.bind ?_
  · apply eats_dottedName.bind
    rintro name _ rfl
    apply alike_asName.bind
    rintro binding _ rfl
    exact alike_pure rfl
  · intro names others hnames
    obtain rfl := List.forall₂_eq_eq_eq ▸ hnames
    exact alike_pure ⟨rfl, trivial⟩

theorem alike_importedNames : Alike good n (· = ·) importedNames importedNames := by
  have hitem : Eats good n (· = ·)
      (do
        let name ← identifier
        let binding ← asName
        return (⟨name, binding⟩ : ImportedName))
      (do
        let name ← identifier
        let binding ← asName
        return (⟨name, binding⟩ : ImportedName)) := by
    apply eats_plainIdentifier.bind
    rintro name _ rfl
    apply alike_asName.bind
    rintro binding _ rfl
    exact alike_pure rfl
  apply alike_takesElse
  · exact alike_pure rfl
  apply alike_takesElse
  · apply (eats_commaList hitem).alike.bind
    intro a b hab
    obtain ⟨hnames, -⟩ := hab
    apply (eats_expect _).alike.bind
    rintro _ _ -
    exact alike_pure (List.forall₂_eq_eq_eq ▸ hnames)
  · exact (eats_separated hitem).alike.imp fun _ _ hab => List.forall₂_eq_eq_eq ▸ hab

theorem eats_importFromStatement :
    Eats good n (StmtTwin good) importFromStatement importFromStatement := by
  apply (eats_expect _).bind
  rintro _ _ -
  refine (alike_collect (R := (· = ·)) ?_).bind ?_
  · apply alike_takesElse
    · exact alike_pure (.some rfl)
    · apply alike_takesElse
      · exact alike_pure (.some rfl)
      · exact alike_pure .none
  · intro dots others hdots
    obtain rfl := List.forall₂_eq_eq_eq ▸ hdots
    apply (alike_whenAhead eats_dottedName.alike).bind
    intro module other hmodule
    obtain rfl : module = other := by
      cases hmodule with
      | some h => rw [h]
      | none => rfl
    apply Alike.ite Iff.rfl
    · exact alike_failure_bind rfl rfl
    · apply (eats_expect _).alike.bind
      rintro _ _ -
      apply alike_importedNames.bind
      rintro names _ rfl
      exact alike_pure ⟨rfl, trivial⟩

/-! ## Assignments and expressions -/

theorem allAssignable_congr {targets others : List Expr}
    (h : List.Forall₂ (ExprTwin good) targets others) :
    targets.all (·.isAssignable) = others.all (·.isAssignable) := by
  induction h with
  | nil => rfl
  | cons hab _ ih => rw [List.all_cons, List.all_cons, ih, Bool.eq_iff_iff.mpr hab.isAssignable_iff]

theorem forall₂_dropLast {α β : Type} {R : α → β → Prop} {as : List α} {bs : List β}
    (h : List.Forall₂ R as bs) : List.Forall₂ R as.dropLast bs.dropLast := by
  induction h with
  | nil => exact .nil
  | cons hab hrest ih =>
    cases hrest with
    | nil => exact .nil
    | cons _ _ => exact .cons hab ih

theorem rel_getLast? {α β : Type} {R : α → β → Prop} {as : List α} {bs : List β}
    (h : List.Forall₂ R as bs) : Option.Rel R as.getLast? bs.getLast? := by
  induction h with
  | nil => exact .none
  | cons hab hrest ih =>
    cases hrest with
    | nil => exact .some hab
    | cons _ _ => exact ih

theorem ExprTwin.isSingleTarget_eq {e f : Expr} (h : ExprTwin good e f) :
    e.isSingleTarget = f.isSingleTarget := by
  rw [← e.isSingleTarget_bare, h.bare, f.isSingleTarget_bare]

theorem eats_expressionStatement (h : RulesTwin good n r s) :
    Eats good n (StmtTwin good) (expressionStatement r) (expressionStatement s) := by
  apply (eats_starExpressions h).bind
  intro first first' hfirst
  apply alike_peek.bind
  rintro t _ ⟨rfl, -⟩
  split
  · refine (alike_collect (R := ExprTwin good) ?_).bind ?_
    · apply alike_takesElse
      · exact (eats_yieldOrExpressions h).alike.map fun _ _ hab => .some hab
      · exact alike_pure .none
    · intro rest others hrest
      have htargets : List.Forall₂ (ExprTwin good) (first :: rest.dropLast)
          (first' :: others.dropLast) := .cons hfirst (forall₂_dropLast hrest)
      apply Alike.ite (by rw [allAssignable_congr htargets])
      · have hlast := rel_getLast? hrest
        generalize rest.getLast? = last at hlast
        generalize others.getLast? = last' at hlast
        cases hlast with
        | none => exact alike_failure
        | some hvalue =>
          apply alike_pure
          refine ⟨?_, ?_⟩
          · simp [Stmt.bare, bareExprs_congr htargets, hvalue.bare]
          · intro id hid
            exact hfirst.named id (List.cons.inj hid).1
      · exact alike_failure
  · apply Alike.ite (by rw [hfirst.isSingleTarget_eq])
    · exact alike_failure_bind rfl rfl
    apply eats_advance.alike.bind
    rintro _ _ -
    apply h.expression.alike.bind
    intro hint hint' hhint
    apply alike_optional (eats_yieldOrExpressions h).alike
    intro value value' hvalue
    apply alike_pure
    refine ⟨?_, hfirst.named⟩
    simp [Stmt.bare, hfirst.bare, hhint.bare, bareOption_congr hvalue]
  · split
    · apply Alike.ite (by rw [hfirst.isSingleTarget_eq])
      · exact alike_failure_bind rfl rfl
      apply eats_advance.alike.bind
      rintro _ _ -
      apply (eats_yieldOrExpressions h).alike.bind
      intro value value' hvalue
      apply alike_pure
      exact ⟨by simp [Stmt.bare, hfirst.bare, hvalue.bare], trivial⟩
    · exact alike_pure ⟨by simp [Stmt.bare, hfirst.bare], trivial⟩

/-! ## Statements without a block -/

theorem allDeletable_congr {targets others : List Expr}
    (h : List.Forall₂ (ExprTwin good) targets others) :
    targets.all (·.isDeletable) = others.all (·.isDeletable) := by
  induction h with
  | nil => rfl
  | @cons e f _ _ hab _ ih =>
    rw [List.all_cons, List.all_cons, ih, ← e.isDeletable_bare, hab.bare, f.isDeletable_bare]

theorem eats_deleteStatement (h : RulesTwin good n r s) :
    Eats good n (StmtTwin good) (deleteStatement r) (deleteStatement s) := by
  apply (eats_expect _).bind
  rintro _ _ -
  apply (eats_commaList h.primary).alike.bind
  intro a b hab
  obtain ⟨htargets, -⟩ := hab
  apply Alike.ite (by rw [allDeletable_congr htargets])
  · exact alike_pure ⟨by simp [Stmt.bare, bareExprs_congr htargets], trivial⟩
  · exact alike_failure

theorem eats_raiseStatement (h : RulesTwin good n r s) :
    Eats good n (StmtTwin good) (raiseStatement r) (raiseStatement s) := by
  apply (eats_expect _).bind
  rintro _ _ -
  apply alike_peek.bind
  rintro t _ ⟨rfl, -⟩
  apply Alike.ite Iff.rfl
  · apply h.expression.alike.bind
    intro exception exception' hexception
    apply alike_optional h.expression.alike
    intro cause cause' hcause
    apply alike_pure
    refine ⟨?_, trivial⟩
    simp [Stmt.bare, bareOption, hexception.bare, bareOption_congr hcause]
  · exact alike_pure ⟨rfl, trivial⟩

theorem eats_assertStatement (h : RulesTwin good n r s) :
    Eats good n (StmtTwin good) (assertStatement r) (assertStatement s) := by
  apply (eats_expect _).bind
  rintro _ _ -
  apply h.expression.alike.bind
  intro test test' htest
  apply alike_optional h.expression.alike
  intro message message' hmessage
  apply alike_pure
  exact ⟨by simp [Stmt.bare, htest.bare, bareOption_congr hmessage], trivial⟩

theorem eats_simpleStatement (h : RulesTwin good n r s) :
    Eats good n (StmtTwin good) (simpleStatement r) (simpleStatement s) := by
  have hword (statement : Stmt) (hnamed : statement.Named good) :
      Eats good n (StmtTwin good) (do advance; return statement) (do advance; return statement) :=
    eats_advance.bind fun _ _ _ => alike_pure ⟨rfl, hnamed⟩
  apply alike_peek.bind_eats
  rintro t _ ⟨rfl, -⟩
  split
  · apply eats_advance.bind
    rintro _ _ -
    apply (alike_whenAhead (eats_starExpressions h).alike).map
    intro a b hab
    exact ⟨by simp [Stmt.bare, bareOption_congr hab], trivial⟩
  · exact eats_importStatement
  · exact eats_importFromStatement
  · exact eats_raiseStatement h
  · exact hword _ trivial
  · exact eats_deleteStatement h
  · exact ((eats_yieldExpression h).mono n.le_succ).map fun a b hab =>
      ⟨by simp [Stmt.bare, hab.bare], trivial⟩
  · exact eats_assertStatement h
  · exact hword _ trivial
  · exact hword _ trivial
  · apply eats_advance.bind
    rintro _ _ -
    exact (alike_names eats_plainIdentifier _).alike.map fun a b hab =>
      ⟨by rw [hab], trivial⟩
  · apply eats_advance.bind
    rintro _ _ -
    exact (alike_names eats_plainIdentifier _).alike.map fun a b hab =>
      ⟨by rw [hab], trivial⟩
  · exact eats_expressionStatement h

theorem eats_simpleStatements (h : RulesTwin good n r s) :
    Eats good n (List.Forall₂ (StmtTwin good)) (simpleStatements r) (simpleStatements s) := by
  apply (eats_simpleStatement h).bind
  intro first first' hfirst
  refine (alike_collect (R := StmtTwin good) ?_).bind ?_
  · apply alike_takesElse
    · apply alike_peek.bind
      rintro t _ ⟨rfl, -⟩
      apply Alike.ite Iff.rfl
      · exact alike_pure .none
      · exact (eats_simpleStatement h).alike.map fun _ _ hab => .some hab
    · exact alike_pure .none
  · intro rest others hrest
    apply (eats_expect _).alike.bind
    rintro _ _ -
    exact alike_pure (.cons hfirst hrest)

end Parser

end Registrar.Source
