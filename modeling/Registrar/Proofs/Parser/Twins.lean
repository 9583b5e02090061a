import Mathlib.Data.List.Forall2
import Registrar.Proofs.Source.Combinators

/-! # Parsers on lists of the same tokens

Two lists may hold the same tokens on different lines. Two parsers do alike on them if they fail
together, and else give values that are related and leave lists of the same tokens. The budget
bounds the weight of the lists, since parsers that are unrolled to different depths do alike as
long as both are deep enough; a parser that eats leaves less of it.
-/

namespace Registrar.Source

/-- How much a token weighs: a string literal can hold as many tokens as its body is long. -/
def Token.weight : Token → Nat
  | .string literal => 2 * literal.body.length + 4
  | _ => 1

theorem Token.weight_pos (token : Token) : 0 < token.weight := by
  cases token <;> simp [weight]

namespace Parser

/-- How much a list of tokens weighs. -/
def weigh : List Lexeme → Nat
  | [] => 0
  | first :: rest => first.token.weight + weigh rest

@[simp]
theorem weigh_cons (first : Lexeme) (rest : List Lexeme) :
    weigh (first :: rest) = first.token.weight + weigh rest := rfl

theorem length_le_weigh (lexemes : List Lexeme) : lexemes.length ≤ weigh lexemes := by
  induction lexemes with
  | nil => simp [weigh]
  | cons first rest ih =>
    have hfirst := first.token.weight_pos
    rw [weigh_cons, List.length_cons]
    omega

/-- Lists of the same tokens, of each of which something is known. -/
def Twins (good : Token → Prop) : List Lexeme → List Lexeme → Prop :=
  List.Forall₂ fun first second => first.token = second.token ∧ good first.token

theorem Twins.weigh_eq {good : Token → Prop} {lexemes others : List Lexeme}
    (h : Twins good lexemes others) : weigh lexemes = weigh others := by
  induction h with
  | nil => rfl
  | cons hfirst _ ih => rw [weigh_cons, weigh_cons, hfirst.1, ih]

variable {α β γ δ : Type} {good : Token → Prop} {n : Nat}

/-! ## Results that are related -/

section

variable {P : α → β → Prop} {Q : γ → δ → Prop} {a : Option α} {b : Option β}

theorem rel_mono {P' : α → β → Prop} (h : Option.Rel P a b) (himp : ∀ x y, P x y → P' x y) :
    Option.Rel P' a b := by
  cases h with
  | some h => exact .some (himp _ _ h)
  | none => exact .none

theorem rel_bind {f : α → Option γ} {g : β → Option δ} (h : Option.Rel P a b)
    (hnext : ∀ x y, P x y → Option.Rel Q (f x) (g y)) : Option.Rel Q (a.bind f) (b.bind g) := by
  cases h with
  | some h => exact hnext _ _ h
  | none => exact .none

theorem rel_map {f : α → γ} {g : β → δ} (h : Option.Rel P a b) (hmap : ∀ x y, P x y → Q (f x) (g y)) :
    Option.Rel Q (a.map f) (b.map g) := by
  cases h with
  | some h => exact .some (hmap _ _ h)
  | none => exact .none

end

/-- What two parsers that do alike give. -/
def Reads (good : Token → Prop) (R : α → β → Prop) (bound : Nat) (a : α × List Lexeme)
    (b : β × List Lexeme) : Prop :=
  R a.1 b.1 ∧ Twins good a.2 b.2 ∧ weigh a.2 ≤ bound

/-- Two parsers do alike on all twins within a budget. -/
def Alike (good : Token → Prop) (n : Nat) (R : α → β → Prop) (p : Parser α) (q : Parser β) : Prop :=
  ∀ lexemes others, Twins good lexemes others → weigh lexemes ≤ n →
    Option.Rel (Reads good R (weigh lexemes)) (p lexemes) (q others)

/-- Two parsers do alike, and take something if they succeed. -/
def Eats (good : Token → Prop) (n : Nat) (R : α → β → Prop) (p : Parser α) (q : Parser β) : Prop :=
  ∀ lexemes others, Twins good lexemes others → weigh lexemes ≤ n →
    Option.Rel (Reads good R (weigh lexemes - 1)) (p lexemes) (q others)

variable {R : α → β → Prop} {S : γ → δ → Prop} {p : Parser α} {q : Parser β}

theorem Reads.mono {bound larger : Nat} {a : α × List Lexeme} {b : β × List Lexeme}
    (h : Reads good R bound a b) (hle : bound ≤ larger) : Reads good R larger a b :=
  ⟨h.1, h.2.1, Nat.le_trans h.2.2 hle⟩

theorem Eats.alike (h : Eats good n R p q) : Alike good n R p q := by
  intro lexemes others htwins hn
  exact rel_mono (h lexemes others htwins hn) fun a b hab => hab.mono (Nat.sub_le _ _)

theorem Alike.mono {m : Nat} (h : Alike good n R p q) (hmn : m ≤ n) : Alike good m R p q := by
  intro lexemes others htwins hm
  exact h lexemes others htwins (Nat.le_trans hm hmn)

theorem Eats.mono {m : Nat} (h : Eats good n R p q) (hmn : m ≤ n) : Eats good m R p q := by
  intro lexemes others htwins hm
  exact h lexemes others htwins (Nat.le_trans hm hmn)

theorem Alike.imp {R' : α → β → Prop} (h : Alike good n R p q) (himp : ∀ a b, R a b → R' a b) :
    Alike good n R' p q := by
  intro lexemes others htwins hn
  exact rel_mono (h lexemes others htwins hn) fun a b hab => ⟨himp _ _ hab.1, hab.2⟩

theorem Eats.imp {R' : α → β → Prop} (h : Eats good n R p q) (himp : ∀ a b, R a b → R' a b) :
    Eats good n R' p q := by
  intro lexemes others htwins hn
  exact rel_mono (h lexemes others htwins hn) fun a b hab => ⟨himp _ _ hab.1, hab.2⟩

/-! ## Sequences -/

theorem alike_pure {a : α} {b : β} (h : R a b) : Alike good n R (pure a) (pure b) := by
  intro lexemes others htwins _
  exact .some ⟨h, htwins, Nat.le_refl _⟩

theorem eats_failure : Eats good n R failure failure := by
  intro lexemes others _ _
  exact .none

theorem alike_failure : Alike good n R failure failure := eats_failure.alike

variable {f : α → Parser γ} {g : β → Parser δ}

theorem Alike.bind (h : Alike good n R p q)
    (hnext : ∀ a b, R a b → Alike good n S (f a) (g b)) :
    Alike good n S (p >>= f) (q >>= g) := by
  intro lexemes others htwins hn
  apply rel_bind (h lexemes others htwins hn)
  rintro a b ⟨hab, hrest, hle⟩
  exact rel_mono (hnext _ _ hab _ _ hrest (Nat.le_trans hle hn)) fun c d hcd => hcd.mono hle

theorem Alike.bind_eats (h : Alike good n R p q)
    (hnext : ∀ a b, R a b → Eats good n S (f a) (g b)) :
    Eats good n S (p >>= f) (q >>= g) := by
  intro lexemes others htwins hn
  apply rel_bind (h lexemes others htwins hn)
  rintro a b ⟨hab, hrest, hle⟩
  exact rel_mono (hnext _ _ hab _ _ hrest (Nat.le_trans hle hn)) fun c d hcd =>
    hcd.mono (Nat.sub_le_sub_right hle 1)

theorem Eats.bind (h : Eats good n R p q)
    (hnext : ∀ a b, R a b → Alike good n S (f a) (g b)) :
    Eats good n S (p >>= f) (q >>= g) := by
  intro lexemes others htwins hn
  apply rel_bind (h lexemes others htwins hn)
  rintro a b ⟨hab, hrest, hle⟩
  have hbound : weigh a.2 ≤ n := by omega
  exact rel_mono (hnext _ _ hab _ _ hrest hbound) fun c d hcd => hcd.mono hle

/-- What follows after something is taken has a smaller budget. -/
theorem Eats.bind_less (h : Eats good n R p q)
    (hnext : ∀ a b, R a b → Alike good (n - 1) S (f a) (g b)) :
    Eats good n S (p >>= f) (q >>= g) := by
  intro lexemes others htwins hn
  apply rel_bind (h lexemes others htwins hn)
  rintro a b ⟨hab, hrest, hle⟩
  have hbound : weigh a.2 ≤ n - 1 := by omega
  exact rel_mono (hnext _ _ hab _ _ hrest hbound) fun c d hcd => hcd.mono hle

theorem Eats.spend (h : Eats good (n + 1) R p q)
    (hnext : ∀ a b, R a b → Alike good n S (f a) (g b)) :
    Eats good (n + 1) S (p >>= f) (q >>= g) :=
  h.bind_less hnext

/-- Nothing follows a failure. -/
theorem alike_failure_bind {p : Parser γ} {q : Parser δ} {f : γ → Parser α} {g : δ → Parser β}
    (hp : p = failure) (hq : q = failure) : Alike good n R (p >>= f) (q >>= g) := by
  subst hp hq
  exact alike_failure

theorem Alike.map {φ : α → γ} {ψ : β → δ} (h : Alike good n R p q)
    (hmap : ∀ a b, R a b → S (φ a) (ψ b)) : Alike good n S (φ <$> p) (ψ <$> q) := by
  intro lexemes others htwins hn
  rw [map_apply, map_apply]
  exact rel_map (h lexemes others htwins hn) fun a b hab => ⟨hmap _ _ hab.1, hab.2⟩

theorem Eats.map {φ : α → γ} {ψ : β → δ} (h : Eats good n R p q)
    (hmap : ∀ a b, R a b → S (φ a) (ψ b)) : Eats good n S (φ <$> p) (ψ <$> q) := by
  intro lexemes others htwins hn
  rw [map_apply, map_apply]
  exact rel_map (h lexemes others htwins hn) fun a b hab => ⟨hmap _ _ hab.1, hab.2⟩

theorem alike_lift {a : Option α} {b : Option β} (h : Option.Rel R a b) :
    Alike good n R (StateT.lift a) (StateT.lift b) := by
  intro lexemes others htwins _
  rw [lift_apply, lift_apply]
  exact rel_map h fun x y hxy => ⟨hxy, htwins, Nat.le_refl _⟩

section

variable {p' : Parser α} {q' : Parser β} {c d : Prop} [Decidable c] [Decidable d]

theorem Alike.ite (hc : c ↔ d) (hthen : Alike good n R p q) (helse : Alike good n R p' q') :
    Alike good n R (if c then p else p') (if d then q else q') := by
  by_cases h : c
  · rw [if_pos h, if_pos (hc.mp h)]
    exact hthen
  · rw [if_neg h, if_neg (mt hc.mpr h)]
    exact helse

theorem Eats.ite (hc : c ↔ d) (hthen : Eats good n R p q) (helse : Eats good n R p' q') :
    Eats good n R (if c then p else p') (if d then q else q') := by
  by_cases h : c
  · rw [if_pos h, if_pos (hc.mp h)]
    exact hthen
  · rw [if_neg h, if_neg (mt hc.mpr h)]
    exact helse

theorem Eats.orElse (h : Eats good n R p q) (hother : Eats good n R p' q') :
    Eats good n R (p <|> p') (q <|> q') := by
  intro lexemes others htwins hn
  change Option.Rel _ ((p lexemes).orElse fun _ => p' lexemes)
    ((q others).orElse fun _ => q' others)
  have hfirst := h lexemes others htwins hn
  generalize p lexemes = read at hfirst
  generalize q others = read' at hfirst
  cases hfirst with
  | some hab => exact .some hab
  | none => exact hother lexemes others htwins hn

end

/-! ## Single tokens -/

theorem alike_peek : Alike good n (fun t u => t = u ∧ good t) peek peek := by
  intro lexemes others htwins _
  cases htwins with
  | nil => exact .none
  | cons hfirst hrest => exact .some ⟨hfirst, .cons hfirst hrest, Nat.le_refl _⟩

theorem alike_peekTwo : Alike good n (fun t u => t = u ∧ good t.1) peekTwo peekTwo := by
  intro lexemes others htwins _
  cases htwins with
  | nil => exact .none
  | @cons first other lexemes others hfirst hrest =>
    cases hrest with
    | nil =>
      refine .some ⟨?_, .cons hfirst .nil, Nat.le_refl _⟩
      exact ⟨Prod.ext hfirst.1 rfl, hfirst.2⟩
    | cons hsecond hmore =>
      refine .some ⟨?_, .cons hfirst (.cons hsecond hmore), Nat.le_refl _⟩
      exact ⟨Prod.ext hfirst.1 hsecond.1, hfirst.2⟩

theorem alike_line : Alike good n (fun _ _ => True) line line := by
  intro lexemes others htwins _
  cases htwins with
  | nil => exact .none
  | cons hfirst hrest => exact .some ⟨trivial, .cons hfirst hrest, Nat.le_refl _⟩

theorem eats_advance : Eats good n (fun _ _ => True) advance advance := by
  intro lexemes others htwins _
  cases htwins with
  | nil => exact .none
  | @cons first _ rest _ _ hrest =>
    refine .some ⟨trivial, hrest, ?_⟩
    have hpositive := first.token.weight_pos
    rw [weigh_cons]
    dsimp only
    omega

theorem alike_takes (token : Token) : Alike good n (· = ·) (takes token) (takes token) := by
  apply alike_peek.bind
  rintro t _ ⟨rfl, -⟩
  apply Alike.ite Iff.rfl
  · exact eats_advance.alike.bind fun _ _ _ => alike_pure rfl
  · exact alike_pure rfl

section

variable {p' : Parser α} {q' : Parser β} {token : Token}

theorem alike_takesElse (hthen : Alike good n R p q) (helse : Alike good n R p' q') :
    Alike good n R (do if ← takes token then p else p') (do if ← takes token then q else q') := by
  apply (alike_takes token).bind
  rintro taken _ rfl
  exact Alike.ite Iff.rfl hthen helse

/-- Where a token is taken something is eaten. -/
theorem eats_takesElse (hthen : Alike good (n - 1) R p q) (helse : Eats good n R p' q') :
    Eats good n R (do if ← takes token then p else p')
      (do if ← takes token then q else q') := by
  intro lexemes others htwins hn
  cases htwins with
  | nil => exact .none
  | @cons first other rest rest' hfirst hrest =>
    have hpositive := first.token.weight_pos
    by_cases htoken : first.token = token
    · rw [bind_apply, bind_apply, takes_cons, takes_cons, if_pos htoken,
        if_pos (hfirst.1.symm.trans htoken)]
      rw [weigh_cons] at hn
      apply rel_mono (hthen rest rest' hrest (by omega))
      intro a b hab
      apply hab.mono
      rw [weigh_cons]
      omega
    · have hother : other.token ≠ token := fun h => htoken (hfirst.1.trans h)
      rw [bind_apply, bind_apply, takes_cons, takes_cons, if_neg htoken, if_neg hother]
      exact helse _ _ (.cons hfirst hrest) hn

/-- An item behind a token, and what follows with it or without it. -/
theorem alike_optional {f : Option α → Parser γ} {g : Option β → Parser δ}
    (h : Alike good n R p q)
    (hnext : ∀ a b, Option.Rel R a b → Alike good n S (f a) (g b)) :
    Alike good n S
      (do if ← takes token then (some <$> p) >>= f else (pure none : Parser (Option α)) >>= f)
      (do if ← takes token then (some <$> q) >>= g else (pure none : Parser (Option β)) >>= g) := by
  apply alike_takesElse
  · exact (h.map fun a b hab => Option.Rel.some hab).bind hnext
  · exact (alike_pure Option.Rel.none).bind hnext

end

theorem eats_expect (token : Token) : Eats good n (fun _ _ => True) (expect token) (expect token) := by
  apply alike_peek.bind_eats
  rintro t _ ⟨rfl, -⟩
  exact Eats.ite Iff.rfl eats_advance eats_failure

theorem eats_identifier :
    Eats good n (fun a b => a = b ∧ good (.name a)) identifier identifier := by
  apply alike_peek.bind_eats
  rintro t _ ⟨rfl, hgood⟩
  cases t with
  | name id => exact eats_advance.bind fun _ _ _ => alike_pure ⟨rfl, hgood⟩
  | _ => exact eats_failure

/-! ## What is done about the token ahead -/

/-- Two parsers do alike where a given token is ahead, and take something if they succeed. -/
def EatsAt (good : Token → Prop) (n : Nat) (R : α → β → Prop) (token : Token) (p : Parser α)
    (q : Parser β) : Prop :=
  ∀ line line' rest rest', Twins good (⟨token, line⟩ :: rest) (⟨token, line'⟩ :: rest') →
    weigh (⟨token, line⟩ :: rest) ≤ n →
    Option.Rel (Reads good R (weigh (⟨token, line⟩ :: rest) - 1)) (p (⟨token, line⟩ :: rest))
      (q (⟨token, line'⟩ :: rest'))

theorem Eats.at (h : Eats good n R p q) (token : Token) : EatsAt good n R token p q :=
  fun _ _ _ _ htwins hn => h _ _ htwins hn

theorem EatsAt.bind {token : Token} {f : α → Parser γ} {g : β → Parser δ}
    (h : EatsAt good n R token p q) (hnext : ∀ a b, R a b → Alike good n S (f a) (g b)) :
    EatsAt good n S token (p >>= f) (q >>= g) := by
  intro line line' rest rest' htwins hn
  apply rel_bind (h line line' rest rest' htwins hn)
  rintro a b ⟨hab, hrest, hle⟩
  have hbound : weigh a.2 ≤ n := by omega
  exact rel_mono (hnext _ _ hab _ _ hrest hbound) fun c d hcd => hcd.mono hle

theorem EatsAt.map {token : Token} {φ : α → γ} {ψ : β → δ} (h : EatsAt good n R token p q)
    (hmap : ∀ a b, R a b → S (φ a) (ψ b)) : EatsAt good n S token (φ <$> p) (ψ <$> q) := by
  intro line line' rest rest' htwins hn
  rw [map_apply, map_apply]
  exact rel_map (h line line' rest rest' htwins hn) fun a b hab => ⟨hmap _ _ hab.1, hab.2⟩

theorem EatsAt.imp {token : Token} {R' : α → β → Prop} (h : EatsAt good n R token p q)
    (himp : ∀ a b, R a b → R' a b) : EatsAt good n R' token p q := by
  intro line line' rest rest' htwins hn
  exact rel_mono (h line line' rest rest' htwins hn) fun a b hab => ⟨himp _ _ hab.1, hab.2⟩

theorem eats_ahead {f : Token → Parser α} {g : Token → Parser β}
    (h : ∀ token, good token → EatsAt good n R token (f token) (g token)) :
    Eats good n R (peek >>= f) (peek >>= g) := by
  intro lexemes others htwins hn
  cases htwins with
  | nil => exact .none
  | @cons first other rest rest' hfirst hrest =>
    obtain ⟨token, line⟩ := first
    obtain ⟨_, line'⟩ := other
    obtain ⟨htoken, hgood⟩ := hfirst
    dsimp only at htoken
    subst htoken
    exact h token hgood line line' rest rest' (.cons ⟨rfl, hgood⟩ hrest) hn

/-! ## Repetition -/

theorem alike_collectWith {step : Parser (Option α)} {step' : Parser (Option β)}
    (h : Alike good n (Option.Rel R) step step') (fuel : Nat) :
    Alike good n (List.Forall₂ R) (collectWith step fuel) (collectWith step' fuel) := by
  induction fuel with
  | zero => exact alike_failure
  | succ fuel ih =>
    apply h.bind
    rintro _ _ (hab | _)
    · exact ih.bind fun _ _ hitems => alike_pure (.cons hab hitems)
    · exact alike_pure .nil

theorem alike_collect {step : Parser (Option α)} {step' : Parser (Option β)}
    (h : Alike good n (Option.Rel R) step step') :
    Alike good n (List.Forall₂ R) (collect step) (collect step') := by
  intro lexemes others htwins hn
  change Option.Rel _ (collectWith step (lexemes.length + 1) lexemes)
    (collectWith step' (others.length + 1) others)
  rw [htwins.length_eq]
  exact alike_collectWith h _ lexemes others htwins hn

/-- Lists of related items, with or without a comma at the end. -/
def Listed (R : α → β → Prop) (a : List α × Bool) (b : List β × Bool) : Prop :=
  List.Forall₂ R a.1 b.1 ∧ a.2 = b.2

theorem eats_commaListWith {starts : Token → Bool} (h : Eats good n R p q) (fuel : Nat) :
    Eats good n (Listed R) (commaListWith starts p fuel) (commaListWith starts q fuel) := by
  induction fuel with
  | zero => exact eats_failure
  | succ fuel ih =>
    apply h.bind
    intro a b hab
    apply (alike_takes _).bind
    rintro taken _ rfl
    apply Alike.ite Iff.rfl
    · apply alike_peek.bind
      rintro t _ ⟨rfl, -⟩
      apply Alike.ite Iff.rfl
      · exact ih.alike.bind fun _ _ hitems => alike_pure ⟨.cons hab hitems.1, hitems.2⟩
      · exact alike_pure ⟨.cons hab .nil, rfl⟩
    · exact alike_pure ⟨.cons hab .nil, rfl⟩

theorem eats_commaList {starts : Token → Bool} (h : Eats good n R p q) :
    Eats good n (Listed R) (commaList starts p) (commaList starts q) := by
  intro lexemes others htwins hn
  change Option.Rel _ (commaListWith starts p (lexemes.length + 1) lexemes)
    (commaListWith starts q (others.length + 1) others)
  rw [htwins.length_eq]
  exact eats_commaListWith h _ lexemes others htwins hn

theorem alike_whenAhead {starts : Token → Bool} (h : Alike good n R p q) :
    Alike good n (Option.Rel R) (whenAhead starts p) (whenAhead starts q) := by
  apply alike_peek.bind
  rintro t _ ⟨rfl, -⟩
  apply Alike.ite Iff.rfl
  · exact h.bind fun _ _ hab => alike_pure (.some hab)
  · exact alike_pure .none

theorem eats_separated {separator : String} (h : Eats good n R p q) :
    Eats good n (List.Forall₂ R) (separated separator p) (separated separator q) := by
  apply h.bind
  intro a b hab
  have hstep : Alike good n (Option.Rel R)
      (do if ← takesSymbol separator then return some (← p) else return none)
      (do if ← takesSymbol separator then return some (← q) else return none) := by
    apply (alike_takes _).bind
    rintro taken _ rfl
    apply Alike.ite Iff.rfl
    · exact h.alike.bind fun _ _ hab => alike_pure (.some hab)
    · exact alike_pure .none
  exact (alike_collect hstep).bind fun _ _ hitems => alike_pure (.cons hab hitems)

end Parser

end Registrar.Source
