import Registrar.Proofs.Parser.Expression
import Registrar.Source.Parser.Pattern

/-! # Patterns of the same tokens -/

namespace Registrar.Source.Parser

variable {good : Token → Prop} {n : Nat} {r s : Rules}

/-- Patterns that are equal but for positions. -/
def PatternTwin (p q : Pattern) : Prop := p.bare = q.bare

theorem barePatterns_eq_map (patterns : List Pattern) :
    barePatterns patterns = patterns.map Pattern.bare := by
  induction patterns with
  | nil => rfl
  | cons pattern patterns ih => rw [barePatterns, ih, List.map_cons]

theorem barePatterns_congr {patterns others : List Pattern}
    (h : List.Forall₂ PatternTwin patterns others) :
    barePatterns patterns = barePatterns others := by
  rw [barePatterns_eq_map, barePatterns_eq_map]
  exact map_congr_of_forall₂ h fun _ _ hab => hab

/-! ## Values -/

theorem eats_signedNumber :
    Eats good n (fun a b => ExprTwin good a.1 b.1 ∧ a.2 = b.2) signedNumber signedNumber := by
  apply (alike_takes _).bind_eats
  rintro isNegative _ rfl
  apply alike_peek.bind_eats
  rintro t _ ⟨rfl, -⟩
  split
  · apply eats_advance.bind
    rintro _ _ -
    apply alike_pure
    refine ⟨exprTwin_of_bare rfl ?_, rfl⟩
    cases isNegative <;> nofun
  · exact eats_failure

theorem alike_partSign : Alike good n (· = ·) partSign partSign := by
  apply alike_peek.bind
  rintro t _ ⟨rfl, -⟩
  split
  · exact eats_advance.alike.bind fun _ _ _ => alike_pure rfl
  · exact eats_advance.alike.bind fun _ _ _ => alike_pure rfl
  · exact alike_pure rfl

theorem eats_numberPattern : Eats good n (ExprTwin good) numberPattern numberPattern := by
  apply eats_signedNumber.bind
  rintro ⟨value, spelling⟩ ⟨value', _⟩ ⟨hvalue, rfl⟩
  apply alike_partSign.bind
  rintro sign _ rfl
  split
  · exact alike_pure hvalue
  · apply alike_peek.bind
    rintro t _ ⟨rfl, -⟩
    split
    · apply eats_advance.alike.bind
      rintro _ _ -
      refine Alike.ite Iff.rfl (alike_pure ?_) alike_failure
      exact exprTwin_of_bare (by simp [Expr.bare, hvalue.bare]) nofun
    · exact alike_failure

theorem eats_dottedExpression :
    Eats good n (ExprTwin good) dottedExpression dottedExpression := by
  apply eats_identifier.bind
  rintro first _ ⟨rfl, hgood⟩
  refine (alike_collect (R := (· = ·)) ?_).bind ?_
  · apply alike_takesElse
    · exact eats_identifier.alike.map fun a b hab => .some hab.1
    · exact alike_pure .none
  · intro attributes others hattributes
    obtain rfl := List.forall₂_eq_eq_eq ▸ hattributes
    apply alike_pure
    have happlied (attributes : List String) (e : Expr) (he : ExprTwin good e e) :
        ExprTwin good (attributes.foldl .attribute e) (attributes.foldl .attribute e) := by
      induction attributes generalizing e with
      | nil => exact he
      | cons attr attributes ih => exact ih _ (exprTwin_of_bare rfl nofun)
    refine happlied attributes _ ⟨rfl, fun id h => ?_⟩
    cases h
    exact hgood

/-! ## Names -/

theorem eats_captureName : Eats good n (· = ·) captureName captureName := by
  apply eats_identifier.bind
  rintro name _ ⟨rfl, -⟩
  apply Alike.ite Iff.rfl
  · exact alike_failure_bind rfl rfl
  · apply alike_peek.bind
    rintro t _ ⟨rfl, -⟩
    split
    · exact Alike.ite Iff.rfl alike_failure (alike_pure rfl)
    · exact alike_pure rfl

theorem eats_starPattern : Eats good n PatternTwin starPattern starPattern := by
  apply (eats_expect _).bind
  rintro _ _ -
  apply alike_peek.bind
  rintro t _ ⟨rfl, -⟩
  apply Alike.ite Iff.rfl
  · apply eats_advance.alike.bind
    rintro _ _ -
    exact alike_pure rfl
  · apply eats_captureName.alike.bind
    rintro name _ rfl
    exact alike_pure rfl

/-! ## Sequences -/

theorem eats_maybeStarPattern (h : RulesTwin good n r s) :
    Eats good n PatternTwin (maybeStarPattern r) (maybeStarPattern s) := by
  apply alike_peek.bind_eats
  rintro t _ ⟨rfl, -⟩
  exact Eats.ite Iff.rfl eats_starPattern h.pattern

theorem patternTwin_star {p : Pattern} {name : Option String} (h : PatternTwin (.star name) p) :
    p = .star name := by
  cases p with
  | star other => exact h.symm
  | _ => cases h

theorem patternTwin_symm {p q : Pattern} (h : PatternTwin p q) : PatternTwin q p := Eq.symm h

/-- Patterns as one: a star alone is none, and a pattern alone is itself without a comma. -/
theorem alike_asPattern {a b : List Pattern × Bool} (hab : Listed PatternTwin a b) :
    Alike good n PatternTwin
      (match a.1, a.2 with
        | [.star _], false => failure
        | [pattern], false => pure pattern
        | patterns, _ => pure (.sequence patterns))
      (match b.1, b.2 with
        | [.star _], false => failure
        | [pattern], false => pure pattern
        | patterns, _ => pure (.sequence patterns)) := by
  obtain ⟨patterns, trailing⟩ := a
  obtain ⟨others, _⟩ := b
  obtain ⟨hitems, rfl⟩ := hab
  dsimp only at hitems ⊢
  have hsequence : Alike good n PatternTwin (pure (.sequence patterns))
      (pure (.sequence others)) :=
    alike_pure (by simp [PatternTwin, Pattern.bare, barePatterns_congr hitems])
  cases hitems with
  | nil => exact hsequence
  | @cons p q ps qs hpq hrest =>
    cases hrest with
    | cons hother hmore => cases trailing <;> cases p <;> cases q <;> exact hsequence
    | nil =>
      cases trailing with
      | true =>
        cases p <;> cases q <;> exact hsequence
      | false =>
        cases p <;> cases q <;> first | exact alike_pure hpq | exact alike_failure | cases hpq

theorem eats_bracketedPattern (h : RulesTwin good n r s) :
    Eats good (n + 1) PatternTwin (bracketedPattern r) (bracketedPattern s) := by
  apply (eats_expect _).spend
  rintro _ _ -
  apply alike_takesElse
  · exact alike_pure rfl
  · apply (eats_commaList (eats_maybeStarPattern h)).alike.bind
    intro a b hab
    apply (eats_expect _).alike.bind
    rintro _ _ -
    exact alike_asPattern hab

theorem eats_casePattern (h : RulesTwin good n r s) :
    Eats good n PatternTwin (casePattern r) (casePattern s) := by
  apply (eats_commaList (eats_maybeStarPattern h)).bind
  intro a b hab
  exact alike_asPattern hab

theorem eats_listPattern (h : RulesTwin good n r s) :
    Eats good (n + 1) PatternTwin (listPattern r) (listPattern s) := by
  apply (eats_expect _).spend
  rintro _ _ -
  apply (alike_whenAhead (eats_commaList (eats_maybeStarPattern h)).alike).bind
  intro a b hab
  apply (eats_expect _).alike.bind
  rintro _ _ -
  apply alike_pure
  simp only [PatternTwin, Pattern.bare, barePatterns_congr (listed_getD hab)]

/-! ## Mappings -/

/-- An entry of a mapping pattern without positions. -/
def bareEntry : (Expr × Pattern) ⊕ String → (Expr × Pattern) ⊕ String
  | .inl (key, pattern) => .inl (key.bare, pattern.bare)
  | .inr name => .inr name

theorem eats_mappingKey (h : RulesTwin good n r s) :
    Eats good (n + 1) (fun a b => a.bare = b.bare) (mappingKey r) (mappingKey s) := by
  have hconstant (value : Constant) : Eats good (n + 1) (fun a b => a.bare = b.bare)
      (do advance; return Expr.constant value) (do advance; return Expr.constant value) :=
    eats_advance.bind fun _ _ _ => alike_pure rfl
  apply eats_ahead
  intro token _
  split
  · exact (eatsAt_strings h _).imp fun _ _ hab => hab.bare
  · exact (hconstant _).at _
  · exact (hconstant _).at _
  · exact (hconstant _).at _
  · apply Eats.at
    apply eats_dottedExpression.bind
    intro e f hef
    have hsame := hef.bare
    cases e <;> cases f <;>
      first | exact alike_pure hsame | exact alike_failure | cases hsame
  · exact (eats_numberPattern.imp fun _ _ hab => hab.bare).at _

theorem eats_mappingEntry (h : RulesTwin good n r s) :
    Eats good (n + 1) (fun a b => bareEntry a = bareEntry b) (mappingEntry r)
      (mappingEntry s) := by
  apply eats_takesElse
  · exact eats_captureName.alike.map fun a b hab => by rw [hab]
  · apply (eats_mappingKey h).spend
    intro key key' hkey
    apply (eats_expect _).alike.bind
    rintro _ _ -
    apply h.pattern.alike.bind
    intro pattern pattern' hpattern
    apply alike_pure
    simp [bareEntry, hkey, hpattern]

theorem bareEntries_eq_map (entries : List (Expr × Pattern)) :
    bareEntries entries = entries.map fun entry => (entry.1.bare, entry.2.bare) := by
  induction entries with
  | nil => rfl
  | cons entry entries ih => rw [bareEntries, ih, List.map_cons]

theorem arrangeEntries_bare (items : List ((Expr × Pattern) ⊕ String)) :
    arrangeEntries (items.map bareEntry) =
      (arrangeEntries items).map fun arranged => (bareEntries arranged.1, arranged.2) := by
  induction items with
  | nil => rfl
  | cons item items ih =>
    match item with
    | .inl (key, pattern) =>
      simp only [List.map_cons, bareEntry, arrangeEntries, ih]
      cases arrangeEntries items <;> rfl
    | .inr name =>
      cases items with
      | nil => rfl
      | cons second items => rfl

theorem eats_mappingPattern (h : RulesTwin good n r s) :
    Eats good (n + 1) PatternTwin (mappingPattern r) (mappingPattern s) := by
  apply (eats_expect _).spend
  rintro _ _ -
  apply (alike_whenAhead (eats_commaList ((eats_mappingEntry h).mono n.le_succ)).alike).bind
  intro a b hab
  apply (eats_expect _).alike.bind
  rintro _ _ -
  have hentries : Option.Rel
      (fun a b : List (Expr × Pattern) × Option String =>
        (bareEntries a.1, a.2) = (bareEntries b.1, b.2))
      (arrangeEntries ((a.map (·.1)).getD [])) (arrangeEntries ((b.map (·.1)).getD [])) := by
    apply rel_of_map_eq
    rw [← arrangeEntries_bare, ← arrangeEntries_bare]
    exact congrArg arrangeEntries (map_congr_of_forall₂ (listed_getD hab) fun _ _ hab => hab)
  apply (alike_lift hentries).bind
  rintro ⟨entries, rest⟩ ⟨entries', rest'⟩ hsame
  obtain ⟨hentries, rfl⟩ := Prod.mk.inj hsame
  apply alike_pure
  simp [PatternTwin, Pattern.bare, hentries]

/-! ## Classes -/

/-- An argument of a class pattern without positions. -/
def bareClassArgument (item : Option String × Pattern) : Option String × Pattern :=
  (item.1, item.2.bare)

theorem eats_classArgument (h : RulesTwin good n r s) :
    Eats good n (fun a b => bareClassArgument a = bareClassArgument b) (classArgument r)
      (classArgument s) := by
  apply alike_peekTwo.bind_eats
  rintro ⟨t, u⟩ _ ⟨rfl, -⟩
  split
  · apply eats_advance.bind
    rintro _ _ -
    apply eats_advance.alike.bind
    rintro _ _ -
    apply h.pattern.alike.bind
    intro p q hpq
    exact alike_pure (by simp [bareClassArgument, hpq])
  · apply h.pattern.bind
    intro p q hpq
    exact alike_pure (by simp [bareClassArgument, hpq])

theorem bareNamed_eq_map (items : List (String × Pattern)) :
    bareNamed items = items.map fun item => (item.1, item.2.bare) := by
  induction items with
  | nil => rfl
  | cons item items ih => rw [bareNamed, ih, List.map_cons]

/-- An argument of a class pattern as one with a keyword. -/
def keywordArgument (item : Option String × Pattern) : Option (String × Pattern) :=
  item.1.map (·, item.2)

theorem mapM_keywordArgument_bare (items : List (Option String × Pattern)) :
    (items.map bareClassArgument).mapM keywordArgument =
      (items.mapM keywordArgument).map bareNamed := by
  induction items with
  | nil => rfl
  | cons item items ih =>
    obtain ⟨name, pattern⟩ := item
    rw [List.map_cons, List.mapM_cons, List.mapM_cons, ih]
    cases name with
    | none => rfl
    | some name => cases items.mapM keywordArgument <;> rfl

theorem arrangeClassArguments_bare (items : List (Option String × Pattern)) :
    arrangeClassArguments (items.map bareClassArgument) =
      (arrangeClassArguments items).map fun arranged =>
        (barePatterns arranged.1, bareNamed arranged.2) := by
  induction items with
  | nil => rfl
  | cons item items ih =>
    obtain ⟨name, pattern⟩ := item
    cases name with
    | none =>
      simp only [List.map_cons, bareClassArgument, arrangeClassArguments, ih]
      cases arrangeClassArguments items <;> rfl
    | some name =>
      have harranged (name : String) (pattern : Pattern)
          (rest : List (Option String × Pattern)) :
          arrangeClassArguments ((some name, pattern) :: rest) =
            (rest.mapM keywordArgument).bind fun keywords =>
              some ([], (name, pattern) :: keywords) := rfl
      rw [List.map_cons, bareClassArgument, harranged, harranged, mapM_keywordArgument_bare]
      cases items.mapM keywordArgument <;> rfl

theorem eats_namePattern (h : RulesTwin good n r s) :
    Eats good (n + 1) PatternTwin (namePattern r) (namePattern s) := by
  apply eats_takesElse
  · exact alike_pure rfl
  apply eats_dottedExpression.spend
  intro callee callee' hcallee
  apply alike_takesElse
  · apply (alike_whenAhead (eats_commaList (eats_classArgument h)).alike).bind
    intro a b hab
    apply (eats_expect _).alike.bind
    rintro _ _ -
    have harranged : Option.Rel
        (fun a b : List Pattern × List (String × Pattern) =>
          (barePatterns a.1, bareNamed a.2) = (barePatterns b.1, bareNamed b.2))
        (arrangeClassArguments ((a.map (·.1)).getD []))
        (arrangeClassArguments ((b.map (·.1)).getD [])) := by
      apply rel_of_map_eq
      rw [← arrangeClassArguments_bare, ← arrangeClassArguments_bare]
      exact congrArg arrangeClassArguments
        (map_congr_of_forall₂ (listed_getD hab) fun _ _ hab => hab)
    apply (alike_lift harranged).bind
    rintro ⟨patterns, keywords⟩ ⟨patterns', keywords'⟩ hsame
    obtain ⟨hpatterns, hkeywords⟩ := Prod.mk.inj hsame
    apply alike_pure
    simp [PatternTwin, Pattern.bare, hcallee.bare, hpatterns, hkeywords]
  · apply alike_peek.bind
    rintro t _ ⟨rfl, -⟩
    apply Alike.ite Iff.rfl alike_failure
    have hsame := hcallee.bare
    have hvalue : Alike good n PatternTwin (pure (.value callee)) (pure (.value callee')) :=
      alike_pure (congrArg Pattern.value hsame)
    cases callee <;> cases callee' <;> first
      | exact hvalue
      | cases hsame; exact alike_pure rfl
      | cases hsame

/-! ## Whole patterns -/

theorem eats_closedPattern (h : RulesTwin good n r s) :
    Eats good (n + 1) PatternTwin (closedPattern r) (closedPattern s) := by
  have hsingleton (value : Constant) : Eats good (n + 1) PatternTwin
      (do advance; return Pattern.singleton value) (do advance; return Pattern.singleton value) :=
    eats_advance.bind fun _ _ _ => alike_pure rfl
  have hvalue (e f : Expr) (hef : ExprTwin good e f) : PatternTwin (.value e) (.value f) :=
    congrArg Pattern.value hef.bare
  apply eats_ahead
  intro token _
  split
  · exact (eats_namePattern h).at _
  · exact (eatsAt_strings h _).map hvalue
  · exact (hsingleton _).at _
  · exact (hsingleton _).at _
  · exact (hsingleton _).at _
  · exact (eats_bracketedPattern h).at _
  · exact (eats_listPattern h).at _
  · exact (eats_mappingPattern h).at _
  · exact (eats_numberPattern.map hvalue).at _

/-- A pattern of some alternatives. -/
def eitherOf : List Pattern → Pattern
  | [only] => only
  | alternatives => .either alternatives

theorem patternTwin_eitherOf {alternatives others : List Pattern}
    (h : List.Forall₂ PatternTwin alternatives others) :
    PatternTwin (eitherOf alternatives) (eitherOf others) := by
  have heither : PatternTwin (.either alternatives) (.either others) :=
    congrArg Pattern.either (barePatterns_congr h)
  cases h with
  | nil => exact heither
  | cons hpq hrest =>
    cases hrest with
    | nil => exact hpq
    | cons _ _ => exact heither

theorem eats_pattern (h : RulesTwin good n r s) :
    Eats good (n + 1) PatternTwin (pattern r) (pattern s) := by
  apply (eats_separated (eats_closedPattern h)).bind
  intro alternatives others halternatives
  have hfirst := patternTwin_eitherOf halternatives
  apply alike_takesElse
  · apply eats_captureName.alike.bind
    rintro name _ rfl
    exact alike_pure (congrArg (fun p => Pattern.bind (some p) (some name)) hfirst)
  · exact alike_pure hfirst

end Registrar.Source.Parser
