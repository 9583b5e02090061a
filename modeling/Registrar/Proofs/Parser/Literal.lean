import Registrar.Proofs.Parser.Signature
import Registrar.Source.Parser.Expression

/-! # Literals of the same tokens

A formatted literal holds expressions, so it is read alike by readers of expressions that do alike on
texts that are shorter than its body.
-/

namespace Registrar.Source

/-! ## Pieces of a formatted literal -/

theorem bareParts_eq_map (parts : List FormatPart) : bareParts parts = parts.map FormatPart.bare := by
  induction parts with
  | nil => rfl
  | cons part parts ih => rw [bareParts, ih, List.map_cons]

theorem bareParts_append (parts others : List FormatPart) :
    bareParts (parts ++ others) = bareParts parts ++ bareParts others := by
  simp [bareParts_eq_map]

namespace Format

theorem mergeText_bare (parts : List FormatPart) :
    mergeText (bareParts parts) = bareParts (mergeText parts) := by
  induction parts with
  | nil => rfl
  | cons part parts ih =>
    cases part with
    | field value conversion spec =>
      simp only [bareParts, FormatPart.bare, mergeText, ih]
    | literal points =>
      simp only [bareParts, FormatPart.bare, mergeText, ih]
      cases mergeText parts with
      | nil =>
        simp only [bareParts]
        split <;> rfl
      | cons first rest =>
        cases first with
        | literal more => rfl
        | field value conversion spec =>
          simp only [bareParts, FormatPart.bare]
          split <;> rfl

theorem splitExpression_length (scan : Scan) (cs : List Char) (text rest : List Char)
    (h : splitExpression scan cs = some (text, rest)) :
    text.length + rest.length = cs.length ∧ rest ≠ [] := by
  induction cs generalizing scan text with
  | nil => cases h
  | cons c cs ih =>
    rw [splitExpression] at h
    split at h
    · cases h
      exact ⟨by simp, by simp⟩
    · cases h
    · obtain ⟨⟨first, last⟩, hsplit, hpair⟩ := Option.map_eq_some_iff.mp h
      cases hpair
      obtain ⟨hlength, hrest⟩ := ih _ _ hsplit
      exact ⟨by rw [List.length_cons, List.length_cons]; omega, hrest⟩

theorem splitText_length (isRaw : Bool) (depth : Nat) (mode : TextMode) (cs text rest : List Char)
    (again : Bool) (h : splitText isRaw depth mode cs = some (text, again, rest)) :
    rest.length ≤ cs.length := by
  induction cs generalizing mode text with
  | nil =>
    rw [splitText] at h
    split at h
    · cases h
      exact Nat.le_refl _
    · cases h
  | cons c cs ih =>
    rw [splitText] at h
    split at h
    · unfold endAtBrace at h
      split at h
      · cases h
        rw [List.length_drop, List.length_cons]
        omega
      · split at h
        · cases h
        · cases h
          exact Nat.le_refl _
    · obtain ⟨next, -, h⟩ := Option.bind_eq_some_iff.mp h
      obtain ⟨⟨more, again', rest'⟩, hsplit, h⟩ := Option.bind_eq_some_iff.mp h
      cases h
      have hle := ih _ _ hsplit
      rw [List.length_cons]
      omega

/-- The same step on both sides, of which one knows what it gives. -/
theorem rel_bind_self {α β γ : Type} {Q : β → γ → Prop} {a : Option α} {f : α → Option β}
    {g : α → Option γ} (h : ∀ x, a = some x → Option.Rel Q (f x) (g x)) :
    Option.Rel Q (a.bind f) (a.bind g) := by
  cases a with
  | none => exact .none
  | some x => exact h x rfl

variable {good : Token → Prop} {field field' : List Char → Option Expr} {bound : Nat}

theorem splitShown_length (text cs : List Char) : (splitShown text cs).2.length ≤ cs.length := by
  unfold splitShown
  split
  · exact Nat.le_succ_of_le (List.dropWhile_sublist _).length_le
  · exact Nat.le_refl _

theorem splitConversion_length (cs rest : List Char) (conversion : Option Char)
    (h : splitConversion cs = some (conversion, rest)) : rest.length ≤ cs.length := by
  unfold splitConversion at h
  split at h
  · split at h
    · split at h <;> cases h
      · exact Nat.le_add_right _ 2
      · exact Nat.le_add_right _ 2
    · cases h
  · cases h
  · cases h
    exact Nat.le_refl _

/-- Pieces that are equal but for positions, the same rest after them, and its length. -/
def PartsTwin (length : Nat) (a b : List FormatPart × List Char) : Prop :=
  bareParts a.1 = bareParts b.1 ∧ a.2 = b.2 ∧ a.2.length ≤ length

/-- The end of a replacement field and the pieces after it. -/
def closeField (field : List Char → Option Expr) (isRaw : Bool) (fuel depth : Nat)
    (points : List Nat) (shown : Option (List Char)) (value : Expr) (conversion : Option Char)
    (spec : Option (List FormatPart)) (rest : List Char) : Option (List FormatPart × List Char) :=
  match rest with
  | '\x7d' :: rest => (readParts field isRaw fuel depth rest).bind fun read =>
    some (.literal points :: .literal ((shown.getD []).map Char.toNat) ::
      .field value
        (if shown.isSome && spec.isNone && conversion.isNone then some 'r' else conversion)
        spec :: read.1, read.2)
  | _ => none

/-- The specification of a replacement field, if there is one, and what comes after it. -/
def specifyField (field : List Char → Option Expr) (isRaw : Bool) (fuel depth : Nat)
    (points : List Nat) (shown : Option (List Char)) (value : Expr) (conversion : Option Char)
    (rest : List Char) : Option (List FormatPart × List Char) :=
  match rest with
  | ':' :: rest => (readParts field isRaw fuel (depth + 1) rest).bind fun read =>
    closeField field isRaw fuel depth points shown value conversion (some (mergeText read.1)) read.2
  | rest => closeField field isRaw fuel depth points shown value conversion none rest

/-- A replacement field after its brace, and the pieces after it. -/
def openField (field : List Char → Option Expr) (isRaw : Bool) (fuel depth : Nat)
    (points : List Nat) (rest : List Char) : Option (List FormatPart × List Char) :=
  if 2 ≤ depth then none
  else (splitExpression ⟨none, [], 0⟩ rest).bind fun source =>
    if source.1.all isFieldBlank then none
    else (field source.1).bind fun value =>
      (splitConversion (splitShown source.1 source.2).2).bind fun converted =>
        specifyField field isRaw fuel depth points (splitShown source.1 source.2).1 value
          converted.1 converted.2

/-- The pieces after some text: those after a doubled brace, a replacement field, or none. -/
def continueText (field : List Char → Option Expr) (isRaw : Bool) (fuel depth : Nat)
    (points : List Nat) (again : Bool) (rest : List Char) : Option (List FormatPart × List Char) :=
  if again then (readParts field isRaw fuel depth rest).bind fun read =>
    some (.literal points :: read.1, read.2)
  else
    match rest with
    | '\x7b' :: rest => openField field isRaw fuel depth points rest
    | rest => some ([.literal points], rest)

theorem readParts_succ (field : List Char → Option Expr) (isRaw : Bool) (fuel depth : Nat)
    (cs : List Char) :
    readParts field isRaw (fuel + 1) depth cs =
      (splitText isRaw depth .plain cs).bind fun text =>
        (Escape.decodeText isRaw text.1).bind fun points =>
          continueText field isRaw fuel depth points text.2.1 text.2.2 := rfl

section Reading

variable {isRaw : Bool} {fuel : Nat}
  (hread : ∀ depth (cs : List Char), cs.length ≤ bound →
    Option.Rel (PartsTwin cs.length) (readParts field isRaw fuel depth cs)
      (readParts field' isRaw fuel depth cs))
include hread

theorem rel_closeField {length depth : Nat} (points : List Nat) (shown : Option (List Char))
    {value value' : Expr} (hvalue : value.bare = value'.bare) (conversion : Option Char)
    {spec spec' : Option (List FormatPart)} (hspec : bareSpec spec = bareSpec spec')
    {rest : List Char} (hrest : rest.length ≤ length) (hlength : length ≤ bound) :
    Option.Rel (PartsTwin length)
      (closeField field isRaw fuel depth points shown value conversion spec rest)
      (closeField field' isRaw fuel depth points shown value' conversion spec' rest) := by
  unfold closeField
  split
  · rename_i rest
    have hshort : rest.length ≤ length := Nat.le_of_succ_le hrest
    apply Parser.rel_bind (hread depth rest (Nat.le_trans hshort hlength))
    rintro ⟨parts, rest'⟩ ⟨parts', _⟩ ⟨hparts, rfl, hle⟩
    have hnone : spec.isNone = spec'.isNone := by
      cases spec <;> cases spec' <;> simp_all [bareSpec]
    refine .some ⟨?_, rfl, Nat.le_trans hle hshort⟩
    simp only [bareParts, FormatPart.bare, hparts, hvalue, hspec, hnone]
  · exact .none

theorem rel_specifyField {length depth : Nat} (points : List Nat) (shown : Option (List Char))
    {value value' : Expr} (hvalue : value.bare = value'.bare) (conversion : Option Char)
    {rest : List Char} (hrest : rest.length ≤ length) (hlength : length ≤ bound) :
    Option.Rel (PartsTwin length)
      (specifyField field isRaw fuel depth points shown value conversion rest)
      (specifyField field' isRaw fuel depth points shown value' conversion rest) := by
  unfold specifyField
  split
  · rename_i rest
    have hshort : rest.length ≤ length := Nat.le_of_succ_le hrest
    apply Parser.rel_bind (hread (depth + 1) rest (Nat.le_trans hshort hlength))
    rintro ⟨parts, rest'⟩ ⟨parts', _⟩ ⟨hparts, rfl, hle⟩
    have hspec : bareSpec (some (mergeText parts)) = bareSpec (some (mergeText parts')) := by
      rw [bareSpec, bareSpec, ← mergeText_bare, ← mergeText_bare, hparts]
    exact rel_closeField hread points shown hvalue conversion hspec (Nat.le_trans hle hshort) hlength
  · exact rel_closeField hread points shown hvalue conversion rfl hrest hlength

variable (hfield : ∀ text, text.length + 2 ≤ bound →
  Option.Rel (Parser.ExprTwin good) (field text) (field' text))
include hfield

theorem rel_openField {length depth : Nat} (points : List Nat) {rest : List Char}
    (hrest : rest.length < length) (hlength : length ≤ bound) :
    Option.Rel (PartsTwin length) (openField field isRaw fuel depth points rest)
      (openField field' isRaw fuel depth points rest) := by
  unfold openField
  split
  · exact .none
  apply rel_bind_self
  rintro ⟨source, after⟩ hsource
  obtain ⟨hsplit, hafter⟩ := splitExpression_length _ _ _ _ hsource
  have hnonempty := List.length_pos_iff.mpr hafter
  dsimp only
  split
  · exact .none
  apply Parser.rel_bind (hfield source (by omega))
  intro value value' hvalue
  apply rel_bind_self
  rintro ⟨conversion, colon⟩ hconversion
  have hshown := splitShown_length source after
  have hcolon := splitConversion_length _ _ _ hconversion
  exact rel_specifyField hread points _ hvalue.bare conversion (by dsimp only; omega) hlength

theorem rel_continueText {length depth : Nat} (points : List Nat) (again : Bool) {rest : List Char}
    (hrest : rest.length ≤ length) (hlength : length ≤ bound) :
    Option.Rel (PartsTwin length) (continueText field isRaw fuel depth points again rest)
      (continueText field' isRaw fuel depth points again rest) := by
  unfold continueText
  cases again with
  | true =>
    apply Parser.rel_bind (hread depth rest (Nat.le_trans hrest hlength))
    rintro ⟨parts, rest'⟩ ⟨parts', _⟩ ⟨hparts, rfl, hle⟩
    refine .some ⟨?_, rfl, Nat.le_trans hle hrest⟩
    simp only [bareParts]
    rw [hparts]
  | false =>
    rw [if_neg Bool.false_ne_true, if_neg Bool.false_ne_true]
    split
    · exact rel_openField hread hfield points hrest hlength
    · exact .some ⟨rfl, rfl, hrest⟩

end Reading

theorem rel_readParts
    (hfield : ∀ text, text.length + 2 ≤ bound →
      Option.Rel (Parser.ExprTwin good) (field text) (field' text))
    (isRaw : Bool) (fuel depth : Nat) (cs : List Char) (hcs : cs.length ≤ bound) :
    Option.Rel (PartsTwin cs.length) (readParts field isRaw fuel depth cs)
      (readParts field' isRaw fuel depth cs) := by
  induction fuel generalizing depth cs with
  | zero => exact .none
  | succ fuel ih =>
    rw [readParts_succ, readParts_succ]
    apply rel_bind_self
    rintro ⟨text, again, rest⟩ htext
    have hrest := splitText_length _ _ _ _ _ _ _ htext
    apply rel_bind_self
    intro points _
    exact rel_continueText ih hfield points again hrest hcs

/-- The pieces of a literal are equal but for positions if its fields are. -/
theorem rel_read
    (hfield : ∀ text, text.length + 2 ≤ bound →
      Option.Rel (Parser.ExprTwin good) (field text) (field' text))
    (isRaw : Bool) (body : List Char) (hbody : body.length ≤ bound) :
    Option.Rel (fun a b => bareParts a = bareParts b) (read field isRaw body)
      (read field' isRaw body) := by
  apply Parser.rel_bind (rel_readParts hfield isRaw _ _ body hbody)
  rintro ⟨parts, rest⟩ ⟨parts', _⟩ ⟨hparts, rfl, -⟩
  dsimp only
  split
  · exact .some hparts
  · exact .none

end Format

/-! ## Neighbouring literals -/

namespace Parser

variable {good : Token → Prop} {field field' : List Char → Option Expr} {bound : Nat}

theorem rel_mapM {α β γ : Type} {R : β → γ → Prop} {f : α → Option β} {g : α → Option γ}
    (as : List α) (h : ∀ a ∈ as, Option.Rel R (f a) (g a)) :
    Option.Rel (List.Forall₂ R) (as.mapM f) (as.mapM g) := by
  induction as with
  | nil => exact .some .nil
  | cons a as ih =>
    rw [List.mapM_cons, List.mapM_cons]
    apply rel_bind (h a List.mem_cons_self)
    intro b c hbc
    apply rel_bind (ih fun x hx => h x (List.mem_cons_of_mem a hx))
    intro bs cs hitems
    exact .some (.cons hbc hitems)

theorem bareParts_flatten_congr {parts others : List (List FormatPart)}
    (h : List.Forall₂ (fun a b => bareParts a = bareParts b) parts others) :
    bareParts parts.flatten = bareParts others.flatten := by
  induction h with
  | nil => rfl
  | cons hab _ ih => rw [List.flatten_cons, List.flatten_cons, bareParts_append, bareParts_append,
      hab, ih]

/-- The text of the pieces does not depend on positions. -/
theorem literalPoints_congr {parts others : List FormatPart}
    (h : bareParts parts = bareParts others) :
    (parts.flatMap fun | .literal points => points | .field .. => []) =
      others.flatMap fun | .literal points => points | .field .. => [] := by
  have hbare (part : FormatPart) :
      (match part.bare with | .literal points => points | .field .. => []) =
        match part with | .literal points => points | .field .. => [] := by
    cases part <;> rfl
  have hparts (parts : List FormatPart) :
      ((bareParts parts).flatMap fun | .literal points => points | .field .. => []) =
        parts.flatMap fun | .literal points => points | .field .. => [] := by
    rw [bareParts_eq_map, List.flatMap_map]
    exact List.flatMap_congr fun part _ => hbare part
  rw [← hparts parts, ← hparts others, h]

theorem rel_joinLiterals
    (hfield : ∀ text, text.length + 2 ≤ bound → Option.Rel (ExprTwin good) (field text) (field' text))
    (literals : List StringLiteral) (hliterals : ∀ literal ∈ literals, literal.body.length ≤ bound) :
    Option.Rel (ExprTwin good) (joinLiterals field literals) (joinLiterals field' literals) := by
  have hself (value : Constant) : ExprTwin good (.constant value) (.constant value) :=
    exprTwin_of_bare rfl nofun
  unfold joinLiterals
  dsimp only [bind, pure]
  split
  · split
    · apply Format.rel_bind_self
      intro octets _
      exact .some (hself _)
    · exact .none
  · apply rel_bind (rel_mapM (R := fun a b => bareParts a = bareParts b) literals ?_)
    · intro parts others hparts
      have hflat := bareParts_flatten_congr hparts
      split
      · refine .some (exprTwin_of_bare ?_ nofun)
        rw [Expr.bare, Expr.bare, ← Format.mergeText_bare, ← Format.mergeText_bare, hflat]
      · refine .some (exprTwin_of_bare ?_ nofun)
        exact congrArg (fun points => Expr.constant (.text points)) (literalPoints_congr hflat)
    · intro literal hmem
      split
      · exact Format.rel_read hfield _ _ (hliterals literal hmem)
      · cases Escape.decodeText literal.isRaw literal.body with
        | none => exact .none
        | some points => exact .some rfl

end Parser

end Registrar.Source
