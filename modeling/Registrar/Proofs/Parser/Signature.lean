import Registrar.Proofs.Parser.Bare
import Registrar.Proofs.Parser.Twins

/-! # Parameter lists of the same tokens

Expressions that are read off the same tokens are equal but for positions, and an expression that is
a name is a token that was read. So are the parameter lists that are made of them.
-/

namespace Registrar.Source.Parser

variable {good : Token → Prop} {n : Nat}

/-! ## Expressions but for positions -/

/-- Expressions that are equal but for positions; a name among them is a good token. -/
structure ExprTwin (good : Token → Prop) (e f : Expr) : Prop where
  bare : e.bare = f.bare
  named : ∀ id, e = .name id → good (.name id)

variable {e f : Expr}

theorem exprTwin_of_bare (hbare : e.bare = f.bare) (hname : ∀ id, e ≠ .name id) :
    ExprTwin good e f :=
  ⟨hbare, fun id h => absurd h (hname id)⟩

theorem bareExprs_eq_map (es : List Expr) : bareExprs es = es.map Expr.bare := by
  induction es with
  | nil => rfl
  | cons e es ih => rw [bareExprs, ih, List.map_cons]

/-- Related items have equal images. -/
theorem map_congr_of_forall₂ {α β γ : Type} {R : α → β → Prop} {as : List α} {bs : List β}
    {f : α → γ} {g : β → γ} (h : List.Forall₂ R as bs) (himage : ∀ a b, R a b → f a = g b) :
    as.map f = bs.map g := by
  induction h with
  | nil => rfl
  | cons hab _ ih => rw [List.map_cons, List.map_cons, himage _ _ hab, ih]

theorem bareExprs_congr {es fs : List Expr} (h : List.Forall₂ (ExprTwin good) es fs) :
    bareExprs es = bareExprs fs := by
  rw [bareExprs_eq_map, bareExprs_eq_map]
  exact map_congr_of_forall₂ h fun _ _ htwin => htwin.bare

theorem bareOption_congr {a b : Option Expr} (h : Option.Rel (ExprTwin good) a b) :
    bareOption a = bareOption b := by
  cases h with
  | some h => rw [bareOption, bareOption, h.bare]
  | none => rfl

/-- Rules that do alike within a budget. A block is read behind a colon, and only literals that weigh
enough hold fields. -/
structure RulesTwin (good : Token → Prop) (n : Nat) (r s : Rules) : Prop where
  expression : Eats good n (ExprTwin good) r.expression s.expression
  disjunction : Eats good n (ExprTwin good) r.disjunction s.disjunction
  bitOr : Eats good n (ExprTwin good) r.bitOr s.bitOr
  factor : Eats good n (ExprTwin good) r.factor s.factor
  primary : Eats good n (ExprTwin good) r.primary s.primary
  pattern : Eats good n (fun a b => a.bare = b.bare) r.pattern s.pattern
  block : Eats good (n - 1) (fun a b => bareStmts a = bareStmts b) r.block s.block
  field : ∀ text, 2 * text.length + 7 ≤ n →
    Option.Rel (ExprTwin good) (r.field text) (s.field text)

theorem RulesTwin.mono {m : Nat} {r s : Rules} (h : RulesTwin good n r s) (hmn : m ≤ n) :
    RulesTwin good m r s where
  expression := h.expression.mono hmn
  disjunction := h.disjunction.mono hmn
  bitOr := h.bitOr.mono hmn
  factor := h.factor.mono hmn
  primary := h.primary.mono hmn
  pattern := h.pattern.mono hmn
  block := h.block.mono (Nat.sub_le_sub_right hmn 1)
  field text htext := h.field text (Nat.le_trans htext hmn)

/-! ## Items of a parameter list -/

/-- An item of a parameter list without positions. -/
def ParameterItem.bare : ParameterItem → ParameterItem
  | .slash => .slash
  | .star => .star
  | .plain parameter => .plain parameter.bare
  | .rest parameter => .rest parameter.bare
  | .keywordRest parameter => .keywordRest parameter.bare

/-- Items of a parameter list that are equal but for positions. -/
def ItemTwin (a b : ParameterItem) : Prop := a.bare = b.bare

theorem eats_parameterItem {hint hint' starHint starHint' : Parser (Option Expr)}
    {value value' : Parser Expr} (hhint : Alike good n (Option.Rel (ExprTwin good)) hint hint')
    (hstar : Alike good n (Option.Rel (ExprTwin good)) starHint starHint')
    (hvalue : Eats good n (ExprTwin good) value value') :
    Eats good (n + 1) ItemTwin (parameterItem hint starHint value)
      (parameterItem hint' starHint' value') := by
  apply eats_takesElse
  · exact alike_pure rfl
  apply eats_takesElse
  · apply alike_peek.bind
    rintro t _ ⟨rfl, -⟩
    split
    · apply eats_identifier.alike.bind
      rintro name _ ⟨rfl, -⟩
      apply hstar.bind
      intro a b hab
      apply alike_pure
      simp [ItemTwin, ParameterItem.bare, Parameter.bare, bareOption_congr hab]
    · exact alike_pure rfl
  apply eats_takesElse
  · apply eats_identifier.alike.bind
    rintro name _ ⟨rfl, -⟩
    apply hhint.bind
    intro a b hab
    apply alike_pure
    simp [ItemTwin, ParameterItem.bare, Parameter.bare, bareOption_congr hab]
  apply eats_identifier.spend
  rintro name _ ⟨rfl, -⟩
  apply hhint.bind
  intro a b hab
  apply alike_optional hvalue.alike
  intro c d hcd
  apply alike_pure
  simp [ItemTwin, ParameterItem.bare, Parameter.bare, bareOption_congr hab, bareOption_congr hcd]

/-! ## The arrangement of the items -/

theorem bareParameters_eq_map (parameters : List Parameter) :
    bareParameters parameters = parameters.map Parameter.bare := by
  induction parameters with
  | nil => rfl
  | cons parameter parameters ih => rw [bareParameters, ih, List.map_cons]

theorem hasFallback_bare (parameter : Parameter) :
    hasFallback parameter.bare = hasFallback parameter := by
  obtain ⟨name, hint, fallback⟩ := parameter
  cases fallback <;> rfl

theorem fallbacksLast_bare (parameters : List Parameter) :
    fallbacksLast (parameters.map Parameter.bare) = fallbacksLast parameters := by
  have hplain (rest : List Parameter) :
      (rest.map Parameter.bare).all hasFallback = rest.all hasFallback := by
    simp [List.all_map, Function.comp_def, hasFallback_bare]
  have hdrop (rest : List Parameter) :
      (rest.map Parameter.bare).dropWhile (fun p => !hasFallback p) =
        (rest.dropWhile fun p => !hasFallback p).map Parameter.bare := by
    induction rest with
    | nil => rfl
    | cons parameter rest ih =>
      rw [List.map_cons, List.dropWhile_cons, List.dropWhile_cons, hasFallback_bare]
      split
      · exact ih
      · rfl
  unfold fallbacksLast
  rw [hdrop, hplain]

theorem splitPlain_bare (items : List ParameterItem) :
    splitPlain (items.map ParameterItem.bare) =
      ((splitPlain items).1.map Parameter.bare, (splitPlain items).2.map ParameterItem.bare) := by
  induction items with
  | nil => rfl
  | cons item items ih =>
    cases item with
    | plain parameter => simp [splitPlain, ParameterItem.bare, ih]
    | _ => rfl

theorem arrangeKeywords_bare (items : List ParameterItem) :
    arrangeKeywords (items.map ParameterItem.bare) = (arrangeKeywords items).map fun arranged =>
      (arranged.1.map Parameter.bare, arranged.2.map Parameter.bare) := by
  unfold arrangeKeywords
  rw [splitPlain_bare]
  generalize splitPlain items = parts
  obtain ⟨plain, rest⟩ := parts
  match rest with
  | [] => rfl
  | [item] => cases item <;> rfl
  | first :: second :: rest => cases first <;> rfl

/-- The parameters of items after the plain ones at their head. -/
def arrangeFrom (positionalOnly regular : List Parameter) (items : List ParameterItem) :
    Option Parameters :=
  if !fallbacksLast (positionalOnly ++ regular) then none
  else match items with
    | .star :: items => (arrangeKeywords items).bind fun arranged =>
      if arranged.1.isEmpty then none
      else some (.mk positionalOnly regular none arranged.1 arranged.2)
    | .rest parameter :: items => (arrangeKeywords items).bind fun arranged =>
      some (.mk positionalOnly regular (some parameter) arranged.1 arranged.2)
    | items => (arrangeKeywords items).bind fun arranged =>
      if arranged.1.isEmpty then some (.mk positionalOnly regular none [] arranged.2) else none

/-- The parameters of plain ones and the items after them. -/
def arrangeSplit (first : List Parameter) : List ParameterItem → Option Parameters
  | .slash :: items =>
    if first.isEmpty then none else arrangeFrom first (splitPlain items).1 (splitPlain items).2
  | items => arrangeFrom [] first items

theorem arrange_eq (items : List ParameterItem) :
    arrange items = arrangeSplit (splitPlain items).1 (splitPlain items).2 := by
  unfold arrange arrangeSplit
  generalize splitPlain items = parts
  obtain ⟨first, rest⟩ := parts
  cases rest with
  | nil => rfl
  | cons item rest =>
    cases item with
    | slash => cases first <;> rfl
    | _ => rfl

theorem arrangeFrom_bare (positionalOnly regular : List Parameter) (items : List ParameterItem) :
    arrangeFrom (positionalOnly.map Parameter.bare) (regular.map Parameter.bare)
        (items.map ParameterItem.bare) =
      (arrangeFrom positionalOnly regular items).map Parameters.bare := by
  have hplain (items : List ParameterItem) :
      ((arrangeKeywords (items.map ParameterItem.bare)).bind fun arranged =>
        if arranged.1.isEmpty then
          some (Parameters.mk (positionalOnly.map Parameter.bare) (regular.map Parameter.bare)
            none [] arranged.2)
        else none) =
      ((arrangeKeywords items).bind fun arranged =>
        if arranged.1.isEmpty then
          some (.mk positionalOnly regular none [] arranged.2)
        else none).map Parameters.bare := by
    rw [arrangeKeywords_bare]
    cases arrangeKeywords items with
    | none => rfl
    | some arranged =>
      obtain ⟨keywordOnly, keywordRest⟩ := arranged
      cases keywordOnly <;> cases keywordRest <;>
        simp [Parameters.bare, bareParameters_eq_map, bareRest]
  unfold arrangeFrom
  rw [← List.map_append, fallbacksLast_bare]
  split
  · rfl
  match items with
  | .star :: items =>
    simp only [List.map_cons, ParameterItem.bare, arrangeKeywords_bare]
    cases arrangeKeywords items with
    | none => rfl
    | some arranged =>
      obtain ⟨keywordOnly, keywordRest⟩ := arranged
      cases keywordOnly <;> cases keywordRest <;>
        simp [Parameters.bare, bareParameters_eq_map, bareRest]
  | .rest parameter :: items =>
    simp only [List.map_cons, ParameterItem.bare, arrangeKeywords_bare]
    cases arrangeKeywords items with
    | none => rfl
    | some arranged =>
      obtain ⟨keywordOnly, keywordRest⟩ := arranged
      cases keywordRest <;> simp [Parameters.bare, bareParameters_eq_map, bareRest]
  | [] => exact hplain []
  | .slash :: items => exact hplain (.slash :: items)
  | .plain parameter :: items => exact hplain (.plain parameter :: items)
  | .keywordRest parameter :: items => exact hplain (.keywordRest parameter :: items)

/-- The parameters are those of the items but for positions. -/
theorem arrange_bare (items : List ParameterItem) :
    arrange (items.map ParameterItem.bare) = (arrange items).map Parameters.bare := by
  rw [arrange_eq, arrange_eq, splitPlain_bare]
  generalize splitPlain items = parts
  obtain ⟨first, rest⟩ := parts
  match rest with
  | .slash :: rest =>
    simp only [List.map_cons, ParameterItem.bare, arrangeSplit, List.isEmpty_map, splitPlain_bare,
      arrangeFrom_bare]
    split <;> rfl
  | [] => exact arrangeFrom_bare [] first []
  | .star :: rest => exact arrangeFrom_bare [] first (.star :: rest)
  | .plain parameter :: rest => exact arrangeFrom_bare [] first (.plain parameter :: rest)
  | .rest parameter :: rest => exact arrangeFrom_bare [] first (.rest parameter :: rest)
  | .keywordRest parameter :: rest => exact arrangeFrom_bare [] first (.keywordRest parameter :: rest)
/-- Options with equal images hold items with equal images. -/
theorem rel_of_map_eq {α β γ : Type} {f : α → γ} {g : β → γ} {a : Option α} {b : Option β}
    (h : a.map f = b.map g) : Option.Rel (fun x y => f x = g y) a b := by
  cases a with
  | none =>
    cases b with
    | none => exact .none
    | some y => cases h
  | some x =>
    cases b with
    | none => cases h
    | some y => exact .some (Option.some.inj h)

theorem rel_arrange {items others : List ParameterItem} (h : List.Forall₂ ItemTwin items others) :
    Option.Rel (fun a b => a.bare = b.bare) (arrange items) (arrange others) := by
  apply rel_of_map_eq
  rw [← arrange_bare, ← arrange_bare]
  congr 1
  exact map_congr_of_forall₂ h fun _ _ hab => hab

/-! ## Parameter lists -/

variable {r s : Rules}

/-- Lists that may be absent are related where the lists are. -/
theorem listed_getD {α β : Type} {R : α → β → Prop} {a : Option (List α × Bool)}
    {b : Option (List β × Bool)} (h : Option.Rel (Listed R) a b) :
    List.Forall₂ R ((a.map (·.1)).getD []) ((b.map (·.1)).getD []) := by
  cases h with
  | some h => exact h.1
  | none => exact .nil

theorem alike_lambdaParameters (h : RulesTwin good n r s) :
    Alike good (n + 1) (fun a b => a.bare = b.bare) (lambdaParameters r) (lambdaParameters s) := by
  have hnone : Alike good n (Option.Rel (ExprTwin good)) (pure none) (pure none) :=
    alike_pure .none
  apply (alike_whenAhead (eats_commaList
    (eats_parameterItem hnone hnone h.expression)).alike).bind
  intro a b hab
  exact alike_lift (rel_arrange (listed_getD hab))

theorem alike_functionParameters (h : RulesTwin good n r s) :
    Alike good (n + 1) (fun a b => a.bare = b.bare) (functionParameters r)
      (functionParameters s) := by
  have hhint : Alike good n (Option.Rel (ExprTwin good))
      (do if ← takesSymbol ":" then some <$> r.expression else pure none)
      (do if ← takesSymbol ":" then some <$> s.expression else pure none) :=
    alike_takesElse (h.expression.alike.map fun _ _ hab => .some hab) (alike_pure .none)
  have hstar : Alike good n (Option.Rel (ExprTwin good))
      (do
        if ← takesSymbol ":" then
          if ← takesSymbol "*" then
            let value ← r.bitOr
            return some (.starred value)
          else some <$> r.expression
        else pure none)
      (do
        if ← takesSymbol ":" then
          if ← takesSymbol "*" then
            let value ← s.bitOr
            return some (.starred value)
          else some <$> s.expression
        else pure none) := by
    apply alike_takesElse
    · apply alike_takesElse
      · apply h.bitOr.alike.bind
        intro a b hab
        apply alike_pure
        exact .some (exprTwin_of_bare (by simp [Expr.bare, hab.bare]) nofun)
      · exact h.expression.alike.map fun _ _ hab => .some hab
    · exact alike_pure .none
  apply (alike_whenAhead (eats_commaList
    (eats_parameterItem hhint hstar h.expression)).alike).bind
  intro a b hab
  exact alike_lift (rel_arrange (listed_getD hab))

end Registrar.Source.Parser
