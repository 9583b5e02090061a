import Registrar.Proofs.Source.Alike

/-! # Tokens of tidied texts

A string literal is read from a tidied text as it is from the text if tidying leaves the literal
alone: no blank stands before a newline in it, and no four newlines stand in a row. Every other
token is read alike anyway.
-/

namespace Registrar.Source

/-- Whether tidying leaves all of a text, behind a run of newlines. -/
def staysTidy (run : Nat) : List Char → Bool
  | [] => true
  | c :: cs =>
    if c == '\n' then decide (run < 3) && staysTidy (run + 1) cs
    else !(isBlank c && cs.head? == some '\n') && staysTidy 0 cs

/-- Whether tidying leaves a token alone. -/
def Token.isTidy : Token → Bool
  | .string literal => staysTidy 0 literal.body
  | _ => true

variable {run : Nat} {c mark : Char} {cs ds body rest : List Char}

/-- A tidy text that ends its line starts with the newline. -/
theorem head?_of_endsLine (hmark : isBlank mark = false) (hbody : staysTidy run body = true)
    (hends : endsLine (body ++ mark :: rest) = true) : body.head? = some '\n' := by
  induction body generalizing run with
  | nil =>
    have hnot : endsLine ([] ++ mark :: rest) = false := endsLine_of_isVisible hmark nofun
    rw [hnot] at hends
    cases hends
  | cons c body ih =>
    by_cases hc : c = '\n'
    · rw [hc, List.head?_cons]
    · simp only [staysTidy, beq_iff_eq, hc, if_false, Bool.and_eq_true, Bool.not_eq_true',
        Bool.and_eq_false_iff] at hbody
      simp only [List.cons_append, endsLine, beq_iff_eq, hc, Bool.or_eq_true, Bool.and_eq_true,
        false_or] at hends
      have hhead := ih hbody.2 hends.2
      obtain hblank | hnot := hbody.1
      · rw [hends.1] at hblank
        cases hblank
      · simp [hhead] at hnot

/-- A tidy text stays up to the next visible character. -/
theorem Tidied.stays (h : Tidied run (body ++ mark :: rest) ds) (hmark : isBlank mark = false)
    (hbody : staysTidy run body = true) :
    ∃ others, ds = body ++ mark :: others ∧ Tidied 0 rest others := by
  induction body generalizing run ds with
  | nil =>
    obtain ⟨others, rfl, hrest⟩ := h.cons hmark
    exact ⟨others, rfl, hrest⟩
  | cons c body ih =>
    rw [List.cons_append] at h
    by_cases hc : c = '\n'
    · subst hc
      have hstays : run < 3 ∧ staysTidy (run + 1) body = true := by simpa [staysTidy] using hbody
      cases h with
      | letter hne => exact absurd rfl hne
      | blank hne => exact absurd rfl hne
      | newline _ _ h =>
        obtain ⟨others, rfl, hrest⟩ := ih h hstays.2
        exact ⟨others, rfl, hrest⟩
      | surplus hmore => exact absurd hstays.1 (Nat.not_lt.mpr hmore)
      | finish _ hnone => simp [isVisible, hmark] at hnone
    · have hstays : (isBlank c = false ∨ ¬body.head? = some '\n') ∧ staysTidy 0 body = true := by
        simpa [staysTidy, hc] using hbody
      cases h with
      | letter _ _ _ h =>
        obtain ⟨others, rfl, hrest⟩ := ih h hstays.2
        exact ⟨others, rfl, hrest⟩
      | blank _ hdropped =>
        obtain ⟨hblank, hends⟩ := Bool.and_eq_true_iff.mp hdropped
        simp [hblank, head?_of_endsLine hmark hstays.2 hends] at hstays
      | newline | surplus => exact absurd rfl hc
      | finish _ hnone => simp [isVisible, hmark] at hnone

namespace Lexer

/-! ## Strings -/

/-- The quotes at the end of a literal. -/
def closingMarks (isTriple : Bool) (mark : Char) : List Char :=
  if isTriple then [mark, mark, mark] else [mark]

theorem isPrefixOf_append {front : List Char} {isTriple : Bool} (htriple : isTriple = true)
    (rest other : List Char) :
    [mark, mark].isPrefixOf (front ++ (closingMarks isTriple mark ++ rest)) =
      [mark, mark].isPrefixOf (front ++ (closingMarks isTriple mark ++ other)) := by
  subst htriple
  match front with
  | [] | [c] | c :: d :: front => simp [closingMarks, List.isPrefixOf]

/-- A literal is read by its own characters. -/
theorem readQuoted_spec {isTriple : Bool} (hmark : mark ≠ '\\')
    (h : readQuoted isTriple mark cs = some (body, rest)) :
    cs = body ++ (closingMarks isTriple mark ++ rest) ∧
      ∀ other, readQuoted isTriple mark (body ++ (closingMarks isTriple mark ++ other)) =
        some (body, other) := by
  fun_induction readQuoted isTriple mark cs generalizing body rest with
  | case1 => cases h
  | case2 c more ih =>
    obtain ⟨⟨inner, after⟩, hinner, h⟩ := Option.bind_eq_some_iff.mp h
    obtain ⟨rfl, rfl⟩ := Prod.mk.inj (Option.some.inj h)
    obtain ⟨rfl, hread⟩ := ih hinner
    exact ⟨rfl, fun other => by simp [readQuoted, hread]⟩
  | case3 c more hescape hcloses =>
    obtain ⟨rfl, rfl⟩ := Prod.mk.inj (Option.some.inj h)
    simp only [Bool.and_eq_true, beq_iff_eq, Bool.not_eq_true'] at hcloses
    obtain ⟨rfl, rfl⟩ := hcloses
    refine ⟨rfl, fun other => ?_⟩
    simp [closingMarks, readQuoted, hmark]
  | case4 c more hescape hcloses hends =>
    obtain ⟨rfl, rfl⟩ := Prod.mk.inj (Option.some.inj h)
    simp only [Bool.and_eq_true, beq_iff_eq, Bool.not_eq_true'] at hcloses hends
    obtain ⟨rfl, hprefix⟩ := hends
    obtain ⟨after, rfl⟩ := List.isPrefixOf_iff_prefix.mp hprefix
    obtain rfl : isTriple = true := by simpa using hcloses
    refine ⟨rfl, fun other => ?_⟩
    simp [closingMarks, readQuoted, hmark]
  | case5 => cases h
  | case6 c more hescape hcloses hends hbroken ih =>
    obtain ⟨⟨inner, after⟩, hinner, h⟩ := Option.bind_eq_some_iff.mp h
    obtain ⟨rfl, rfl⟩ := Prod.mk.inj (Option.some.inj h)
    obtain ⟨hmore, hread⟩ := ih hinner
    refine ⟨by rw [hmore]; rfl, fun other => ?_⟩
    have hnoEscape : c ≠ '\\' := by
      rintro rfl
      cases more with
      | nil => cases hinner
      | cons d more => exact hescape d more rfl rfl
    rw [List.cons_append, readQuoted.eq_3 _ _ _ _ (by simp [hnoEscape]), if_neg hcloses, if_neg,
      if_neg hbroken, hread]
    · rfl
    · rintro hboth
      obtain ⟨hhead, hprefix⟩ := Bool.and_eq_true_iff.mp hboth
      have htriple : isTriple = true := by simpa [hhead] using hcloses
      rw [isPrefixOf_append htriple other after, ← hmore] at hprefix
      exact hends (by rw [hhead, hprefix]; rfl)

theorem readString_eq (mark : Char) (cs : List Char) :
    readString mark cs = if [mark, mark].isPrefixOf cs then readQuoted true mark (cs.drop 2)
      else readQuoted false mark cs := by
  match cs with
  | [] => rfl
  | [c] => simp [readString]
  | c :: d :: cs =>
    simp only [readString, List.isPrefixOf_cons_cons, List.isPrefixOf_nil_left, Bool.and_true,
      List.drop_succ_cons, List.drop_zero, Bool.beq_comm (a := mark)]

/-! ## The letters in front of a string -/

variable {letters found : Letters}

theorem add?_of_blank (hc : isBlank c = true) : letters.add? c = none := by
  have hne {d : Char} (hd : isBlank d = false) : (c == d) = false := by
    simpa using ne_of_blank hc hd
  unfold Letters.add?
  simp [hne (d := 'b') (by decide), hne (d := 'B') (by decide), hne (d := 'u') (by decide),
    hne (d := 'U') (by decide), hne (d := 'r') (by decide), hne (d := 'R') (by decide),
    hne (d := 'f') (by decide), hne (d := 'F') (by decide)]

theorem readLetters_of_blank (hc : isBlank c = true) : readLetters letters (c :: cs) = none := by
  rw [readLetters, Number.either_of_blank (by decide) (by decide) c hc, add?_of_blank hc]
  rfl

/-- A text that opens no string looks like none that does. -/
theorem readLetters_none (h : LooksLike cs ds) (hread : readLetters letters cs = none) :
    readLetters letters ds = none := by
  induction h generalizing letters with
  | blank hc hd =>
    obtain rfl | rfl := hd
    · exact readLetters_of_blank hc
    · exact readLetters_of_blank isBlank_newline
  | visible hc h ih =>
    rw [readLetters] at hread ⊢
    split at hread
    · cases hread
    · next hquote =>
      rw [if_neg hquote]
      split at hread
      · exact ih hread
      · rfl

/-- Letters in front of a string are read by themselves. -/
theorem readLetters_spec (h : readLetters letters cs = some (found, mark, rest)) :
    (mark = '"' ∨ mark = '\'') ∧ ∃ used, (∀ c ∈ used, isBlank c = false) ∧
      cs = used ++ mark :: rest ∧ ∀ other, readLetters letters (used ++ mark :: other) = some (found, mark, other) := by
  induction cs generalizing letters with
  | nil => cases h
  | cons c cs ih =>
    have hvisible : isBlank c = false := by
      rw [← Bool.not_eq_true]
      intro hblank
      rw [readLetters_of_blank hblank] at h
      cases h
    rw [readLetters] at h
    split at h
    · next hquote =>
      simp only [Option.some.injEq, Prod.mk.injEq] at h
      obtain ⟨rfl, rfl, rfl⟩ := h
      refine ⟨by simpa using hquote, [], by simp, rfl, fun other => ?_⟩
      rw [List.nil_append, readLetters, if_pos hquote]
    · next hquote =>
      split at h
      · next more hmore =>
        obtain ⟨hmark, used, hused, rfl, hother⟩ := ih h
        refine ⟨hmark, c :: used, List.forall_mem_cons.mpr ⟨hvisible, hused⟩, rfl, fun other => ?_⟩
        rw [List.cons_append, readLetters, if_neg hquote, hmore]
        exact hother other
      · cases h

/-! ## Tokens -/

/-- A token that is no string is read by the head of the text. -/
theorem readToken_cons (h : readLetters ⟨false, false, false, false⟩ (c :: cs) = none) :
    readToken (c :: cs) =
      if c.isDigit || (c == '.' && Number.startsWithDigit cs) then
        (Number.read (c :: cs)).map fun read => (.number read.1, read.2)
      else if Number.mayContinueName c then readWord (c :: cs)
      else (readSymbol (c :: cs)).map fun read => (.symbol (String.ofList read.1), read.2) := by
  unfold readToken readWord
  rw [h]
  dsimp only
  split
  · rfl
  · split
    · cases nameToken ((c :: cs).takeWhile Number.mayContinueName) <;> rfl
    · rfl

/-- No token starts with a blank. -/
theorem isBlank_of_readToken {token : Token} (h : readToken (c :: cs) = some (token, rest)) :
    isBlank c = false := by
  rw [← Bool.not_eq_true]
  intro hblank
  rw [readToken_cons (readLetters_of_blank hblank), isDigit_of_blank c hblank,
    beq_false_of_ne (ne_of_blank hblank (by decide)), Bool.false_and, Bool.false_or,
    if_neg Bool.false_ne_true] at h
  split at h
  · next hname =>
    obtain ⟨word, hword, -⟩ := Option.map_eq_some_iff.mp h
    have hvisible := isBlank_of_nameToken hword List.all_takeWhile c (by simp [hname])
    rw [hblank] at hvisible
    cases hvisible
  · obtain ⟨⟨symbol, after⟩, hsymbol, -⟩ := Option.map_eq_some_iff.mp h
    obtain ⟨-, hlength⟩ := readSymbol_length hsymbol
    obtain ⟨_, -, -, used, hused, hcs, -, -⟩ :=
      carries_readSymbol (.blank hblank (.inl rfl) : LooksLike (c :: cs) (c :: cs)) _ hsymbol
    cases used with
    | nil =>
      rw [hcs] at hlength
      exact absurd hlength (Nat.lt_irrefl _)
    | cons d used =>
      obtain ⟨rfl, -⟩ := List.cons.inj hcs
      rw [hused c List.mem_cons_self] at hblank
      cases hblank

/-- A token that is no string is read from both texts. -/
theorem carries_readToken (h : LooksLike cs ds)
    (hletters : readLetters ⟨false, false, false, false⟩ cs = none) :
    Carries (ReadsAlike cs ds) (readToken cs) (readToken ds) := by
  have hother := readLetters_none h hletters
  obtain ⟨c, rest, other, rfl, rfl, -, hrest⟩ | ⟨c, d, rest, other, rfl, rfl, hc, -, -⟩ :=
    h.head_cases
  · rw [readToken_cons hletters, readToken_cons hother, Number.startsWithDigit_eq hrest]
    split
    · exact (Number.carries_read h).map fun _ _ hread => ⟨by rw [hread.1], hread.2⟩
    · split
      · exact carries_readWord h
      · exact (carries_readSymbol h).map fun _ _ hread => ⟨by rw [hread.1], hread.2⟩
  · rintro ⟨token, rest⟩ hread
    rw [isBlank_of_readToken hread] at hc
    cases hc

end Lexer

namespace Tidied

open Lexer

/-- A literal that stays is read from both texts. -/
theorem readString (h : Tidied 0 cs ds) (hmark : isBlank mark = false)
    (hescape : mark ≠ '\\') (hread : readString mark cs = some (body, rest))
    (hbody : staysTidy 0 body = true) :
    ∃ others, readString mark ds = some (body, others) ∧ Tidied 0 rest others := by
  have hmarks : ∀ c ∈ [mark, mark], isBlank c = false := by simp [hmark]
  have hquoted {isTriple : Bool} {cs ds : List Char} (h : Tidied 0 cs ds)
      (hread : readQuoted isTriple mark cs = some (body, rest)) :
      ∃ others, readQuoted isTriple mark ds = some (body, others) ∧ Tidied 0 rest others := by
    obtain ⟨rfl, hother⟩ := readQuoted_spec hescape hread
    cases isTriple with
    | false =>
      obtain ⟨others, rfl, hothers⟩ := h.stays hmark hbody
      exact ⟨others, hother others, hothers⟩
    | true =>
      obtain ⟨more, rfl, hmore⟩ := h.stays hmark hbody
      have hclosing : Tidied 0 ([mark, mark] ++ rest) more := hmore
      obtain ⟨others, rfl, hothers⟩ := hclosing.append hmarks
      exact ⟨others, hother others, hothers⟩
  rw [readString_eq] at hread ⊢
  rw [(h.looksLike (.zero _)).isPrefixOf_eq hmarks]
  split at hread
  · next hprefix =>
    rw [if_pos hprefix]
    obtain ⟨more, rfl⟩ := List.isPrefixOf_iff_prefix.mp hprefix
    obtain ⟨others, rfl, hothers⟩ := h.append hmarks
    exact hquoted hothers hread
  · next hprefix =>
    rw [if_neg hprefix]
    exact hquoted h hread

/-- Letters without blanks are in front of both texts. -/
theorem past {used : List Char} (h : Tidied run (used ++ c :: cs) ds)
    (hused : ∀ c ∈ used, isBlank c = false) (hc : isBlank c = false) :
    ∃ others, ds = used ++ c :: others ∧ Tidied 0 cs others := by
  cases used with
  | nil => exact h.cons hc
  | cons d used =>
    obtain ⟨hd, hused⟩ := List.forall_mem_cons.mp hused
    obtain ⟨more, rfl, hmore⟩ := h.cons hd
    obtain ⟨rest, rfl, hrest⟩ := hmore.append hused
    obtain ⟨others, rfl, hothers⟩ := hrest.cons hc
    exact ⟨others, rfl, hothers⟩

/-- Text that is passed without blanks leaves the rest of both texts alike. -/
theorem follow {used others : List Char} (h : Tidied run (used ++ cs) (used ++ others))
    (hlive : IsLive run (used ++ cs)) (hused : ∀ c ∈ used, isBlank c = false) :
    ∃ run', IsLive run' cs ∧ Tidied run' cs others := by
  cases used with
  | nil => exact ⟨run, hlive, h⟩
  | cons c used =>
    obtain ⟨hc, hused⟩ := List.forall_mem_cons.mp hused
    obtain ⟨more, heq, hmore⟩ := h.cons hc
    rw [← (List.cons.inj heq).2] at hmore
    obtain ⟨rest, heq, hrest⟩ := hmore.append hused
    rw [List.append_cancel_left heq]
    exact ⟨0, .zero _, hrest⟩

/-- A token that tidying leaves alone is read from both texts. -/
theorem readToken {token : Token} (h : Tidied run cs ds) (hlive : IsLive run cs)
    (hread : Lexer.readToken cs = some (token, rest)) (htidy : token.isTidy = true) :
    ∃ others run', Lexer.readToken ds = some (token, others) ∧ IsLive run' rest ∧
      Tidied run' rest others := by
  cases hletters : readLetters ⟨false, false, false, false⟩ cs with
  | none =>
    obtain ⟨⟨_, others⟩, hother, rfl, used, hused, rfl, rfl, -⟩ :=
      carries_readToken (h.looksLike hlive) hletters _ hread
    obtain ⟨run', hlive', hrest⟩ := h.follow hlive hused
    exact ⟨others, run', hother, hlive', hrest⟩
  | some found =>
    obtain ⟨letters, mark, after⟩ := found
    obtain ⟨hmark, used, hused, rfl, hspell⟩ := readLetters_spec hletters
    have hquote : isBlank mark = false ∧ mark ≠ '\\' := by
      obtain rfl | rfl := hmark <;> exact ⟨by decide, by decide⟩
    unfold Lexer.readToken at hread
    rw [hletters] at hread
    obtain ⟨⟨body, rest⟩, hstring, heq⟩ := Option.bind_eq_some_iff.mp hread
    obtain ⟨rfl, rfl⟩ := Prod.mk.inj (Option.some.inj heq)
    obtain ⟨after', rfl, hafter⟩ := h.past hused hquote.1
    obtain ⟨others, hother, hothers⟩ := hafter.readString hquote.1 hquote.2 hstring htidy
    refine ⟨others, 0, ?_, .zero _, hothers⟩
    unfold Lexer.readToken
    rw [hspell after']
    simp [hother]

end Tidied

end Registrar.Source
