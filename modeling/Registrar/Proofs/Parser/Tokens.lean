import Registrar.Proofs.Parser.Twins
import Registrar.Proofs.Source.Names
import Registrar.Proofs.Source.Pieces

/-! # What the tokens of a text weigh

A token takes at least one character, and its names are identifiers. The tokens of a text weigh no
more than twice its characters: a block that is opened takes a blank at the least, which pays for its
end as well.
-/

namespace Registrar.Source

/-! ## Numbers -/

namespace Number

variable {isDigit : Char → Bool} {cs rest : List Char}

theorem suffix_of_finish (h : finish cs = some rest) : rest <:+ cs := by
  unfold finish at h
  split at h
  · obtain rfl := Option.some.inj h
    exact List.suffix_rfl
  · cases h

theorem suffix_of_skipDigits (h : skipDigits isDigit cs = some rest) : rest <:+ cs := by
  fun_induction skipDigits isDigit cs with
  | case1 c more hc ih => exact (ih h).trans ((List.suffix_cons _ _).trans (List.suffix_cons _ _))
  | case2 | case3 => cases h
  | case4 c more _ _ hc ih => exact (ih h).trans (List.suffix_cons _ _)
  | case5 =>
    obtain rfl := Option.some.inj h
    exact List.suffix_rfl
  | case6 =>
    obtain rfl := Option.some.inj h
    exact List.suffix_rfl

theorem suffix_of_skipImaginary (h : skipImaginary cs = some rest) : rest <:+ cs := by
  unfold skipImaginary at h
  split at h
  · split at h
    · exact (suffix_of_finish h).trans (List.suffix_cons _ _)
    · exact suffix_of_finish h
  · obtain rfl := Option.some.inj h
    exact List.suffix_rfl

theorem suffix_of_digitsThen {next : List Char → Option (List Char)}
    (hnext : ∀ cs rest, next cs = some rest → rest <:+ cs)
    (h : (skipDigits isDigit cs >>= next) = some rest) : rest <:+ cs := by
  obtain ⟨middle, hmiddle, hrest⟩ := Option.bind_eq_some_iff.mp h
  exact (hnext _ _ hrest).trans (suffix_of_skipDigits hmiddle)

theorem suffix_of_skipExponent (h : skipExponent cs = some rest) : rest <:+ cs := by
  have himaginary : ∀ cs rest, skipImaginary cs = some rest → rest <:+ cs :=
    fun _ _ => suffix_of_skipImaginary
  unfold skipExponent at h
  split at h
  · split at h
    · split at h
      · split at h
        · split at h
          · exact (suffix_of_digitsThen himaginary h).trans
              ((List.suffix_cons _ _).trans (List.suffix_cons _ _))
          · cases h
        · split at h
          · exact (suffix_of_digitsThen himaginary h).trans (List.suffix_cons _ _)
          · exact suffix_of_finish h
      · exact suffix_of_finish h
    · exact suffix_of_skipImaginary h
  · obtain rfl := Option.some.inj h
    exact List.suffix_rfl

theorem suffix_of_skipFraction (h : skipFraction cs = some rest) : rest <:+ cs := by
  unfold skipFraction at h
  split at h
  · exact suffix_of_digitsThen (fun _ _ => suffix_of_skipExponent) h
  · exact suffix_of_skipExponent h

theorem suffix_of_skipTail (h : skipTail cs = some rest) : rest <:+ cs := by
  unfold skipTail at h
  split at h
  · exact (suffix_of_skipFraction h).trans (List.suffix_cons _ _)
  · exact suffix_of_skipExponent h

/-- A text without the underscore that may head the digits of a literal with a base letter. -/
def withoutUnderscore : List Char → List Char
  | '_' :: rest => rest
  | rest => rest

theorem suffix_withoutUnderscore (cs : List Char) : withoutUnderscore cs <:+ cs := by
  unfold withoutUnderscore
  split
  · exact List.suffix_cons _ _
  · exact List.suffix_rfl

/-- The digits of a literal with a base letter, no underscore standing before them. -/
def skipDigitsOnly (isDigit : Char → Bool) (cs : List Char) : Option (List Char) :=
  match cs with
  | c :: _ =>
    if isDigit c then (skipDigits isDigit cs).bind fun rest =>
      match rest with
      | d :: _ => if d.isDigit then none else finish rest
      | [] => some []
    else none
  | [] => none

theorem skipBased_eq (isDigit : Char → Bool) (cs : List Char) :
    skipBased isDigit cs = skipDigitsOnly isDigit (withoutUnderscore cs) := rfl

theorem suffix_of_skipBased (h : skipBased isDigit cs = some rest) : rest <:+ cs := by
  rw [skipBased_eq] at h
  refine List.IsSuffix.trans ?_ (suffix_withoutUnderscore cs)
  unfold skipDigitsOnly at h
  split at h
  · split at h
    · obtain ⟨middle, hmiddle, h⟩ := Option.bind_eq_some_iff.mp h
      refine List.IsSuffix.trans ?_ (suffix_of_skipDigits hmiddle)
      split at h
      · split at h
        · cases h
        · exact suffix_of_finish h
      · obtain rfl := Option.some.inj h
        exact List.suffix_rfl
    · cases h
  · cases h

theorem suffix_of_skipZeros (h : skipZeros cs = some rest) : rest <:+ cs := by
  fun_induction skipZeros cs with
  | case1 more ih => exact (ih h).trans ((List.suffix_cons _ _).trans (List.suffix_cons _ _))
  | case2 c more _ _ =>
    obtain rfl := Option.some.inj h
    exact List.suffix_cons _ _
  | case3 | case4 => cases h
  | case5 more ih => exact (ih h).trans (List.suffix_cons _ _)
  | case6 =>
    obtain rfl := Option.some.inj h
    exact List.suffix_rfl

theorem suffix_of_skipLeadingZero (h : skipLeadingZero cs = some rest) : rest <:+ cs := by
  obtain ⟨zeros, hzeros, h⟩ := Option.bind_eq_some_iff.mp h
  refine List.IsSuffix.trans ?_ (suffix_of_skipZeros hzeros)
  split at h
  · obtain ⟨middle, hmiddle, h⟩ := Option.bind_eq_some_iff.mp h
    refine List.IsSuffix.trans ?_ (suffix_of_skipDigits hmiddle)
    split at h
    · split at h
      · exact suffix_of_skipTail h
      · cases h
    · cases h
  · exact suffix_of_skipTail h

/-- A literal takes a character. -/
theorem suffix_of_skip {c : Char} (hc : c.isDigit = true ∨ c = '.')
    (h : skip (c :: cs) = some rest) : rest <:+ cs := by
  unfold skip at h
  split at h
  · next heq =>
    obtain ⟨rfl, rfl⟩ := List.cons.inj heq
    exact suffix_of_skipFraction h
  · next heq =>
    obtain ⟨rfl, rfl⟩ := List.cons.inj heq
    split at h
    · exact (suffix_of_skipBased h).trans (List.suffix_cons _ _)
    · split at h
      · exact (suffix_of_skipBased h).trans (List.suffix_cons _ _)
      · split at h
        · exact (suffix_of_skipBased h).trans (List.suffix_cons _ _)
        · exact suffix_of_skipLeadingZero h
  · obtain rfl := Option.some.inj h
    exact List.nil_suffix
  · next hpoint _ _ =>
    have hdigit : c.isDigit = true := hc.resolve_right fun hc => hpoint cs (by rw [hc])
    have hunderscore : c ≠ '_' := by
      rintro rfl
      exact absurd hdigit (by decide)
    have hstep : skipDigits Char.isDigit (c :: cs) = skipDigits Char.isDigit cs := by
      simp [skipDigits, hdigit, hunderscore]
    rw [hstep] at h
    exact suffix_of_digitsThen (fun _ _ => suffix_of_skipTail) h

theorem suffix_of_read {c : Char} {spelling : String} (hc : c.isDigit = true ∨ c = '.')
    (h : read (c :: cs) = some (spelling, rest)) : rest <:+ cs := by
  obtain ⟨skipped, hskip, h⟩ := Option.bind_eq_some_iff.mp h
  dsimp only at h
  split at h
  · cases h
  · obtain ⟨-, rfl⟩ := Prod.mk.inj (Option.some.inj h)
    exact suffix_of_skip hc hskip

end Number

/-! ## Single tokens -/

/-- The name that a token is, is an identifier. -/
def Token.IsSpelled : Token → Prop
  | .name id => isIdentifier id = true
  | _ => True

namespace Lexer

variable {cs rest body letters : List Char} {token : Token} {mark : Char}

theorem nameToken_isSpelled (hne : letters ≠ []) (hletters : letters.all Number.mayContinueName = true)
    (hdigit : Number.startsWithDigit letters = false) (h : nameToken letters = some token) :
    token.IsSpelled ∧ token.weight = 1 := by
  unfold nameToken at h
  dsimp only at h
  split at h
  · obtain rfl := Option.some.inj h
    exact ⟨trivial, rfl⟩
  · split at h
    · next hascii =>
      obtain rfl := Option.some.inj h
      have hname := isIdentifierChars_of_isAscii hne hletters hdigit hascii
      exact ⟨(isIdentifier_ofList _).trans hname, rfl⟩
    · split at h
      · next hidentifier =>
        obtain rfl := Option.some.inj h
        have hname := Compatibility.isIdentifierChars_composeText hidentifier
        exact ⟨(isIdentifier_ofList _).trans hname, rfl⟩
      · cases h

theorem readQuoted_length {isTriple : Bool}
    (h : readQuoted isTriple mark cs = some (body, rest)) :
    rest <:+ cs ∧ body.length + rest.length < cs.length := by
  fun_induction readQuoted isTriple mark cs generalizing body rest with
  | case1 => cases h
  | case2 c more ih =>
    obtain ⟨⟨inner, after⟩, hinner, h⟩ := Option.bind_eq_some_iff.mp h
    obtain ⟨rfl, rfl⟩ := Prod.mk.inj (Option.some.inj h)
    obtain ⟨hsuffix, hlength⟩ := ih hinner
    refine ⟨hsuffix.trans ((List.suffix_cons _ _).trans (List.suffix_cons _ _)), ?_⟩
    simp only [List.length_cons]
    omega
  | case3 c more =>
    obtain ⟨rfl, rfl⟩ := Prod.mk.inj (Option.some.inj h)
    exact ⟨List.suffix_cons _ _, by simp⟩
  | case4 c more =>
    obtain ⟨rfl, rfl⟩ := Prod.mk.inj (Option.some.inj h)
    refine ⟨(List.drop_suffix _ _).trans (List.suffix_cons _ _), ?_⟩
    simp only [List.length_nil, List.length_drop, List.length_cons]
    omega
  | case5 => cases h
  | case6 c more _ _ _ _ ih =>
    obtain ⟨⟨inner, after⟩, hinner, h⟩ := Option.bind_eq_some_iff.mp h
    obtain ⟨rfl, rfl⟩ := Prod.mk.inj (Option.some.inj h)
    obtain ⟨hsuffix, hlength⟩ := ih hinner
    refine ⟨hsuffix.trans (List.suffix_cons _ _), ?_⟩
    simp only [List.length_cons]
    omega

theorem readString_length (h : readString mark cs = some (body, rest)) :
    rest <:+ cs ∧ body.length + rest.length < cs.length := by
  unfold readString at h
  split at h
  · split at h
    · obtain ⟨hsuffix, hlength⟩ := readQuoted_length h
      refine ⟨hsuffix.trans ((List.suffix_cons _ _).trans (List.suffix_cons _ _)), ?_⟩
      simp only [List.length_cons]
      omega
    · exact readQuoted_length h
  · exact readQuoted_length h

theorem readLetters_suffix {letters found : Letters}
    (h : readLetters letters cs = some (found, mark, rest)) : mark :: rest <:+ cs := by
  induction cs generalizing letters with
  | nil => cases h
  | cons c cs ih =>
    rw [readLetters] at h
    split at h
    · simp only [Option.some.injEq, Prod.mk.injEq] at h
      obtain ⟨-, rfl, rfl⟩ := h
      exact List.suffix_rfl
    · split at h
      · exact (ih h).trans (List.suffix_cons _ _)
      · cases h

theorem readSymbol_length {symbol : List Char} (h : readSymbol cs = some (symbol, rest)) :
    rest <:+ cs ∧ rest.length < cs.length := by
  have hdrop (n : Nat) (hn : 0 < n) (hne : cs ≠ []) :
      cs.drop n <:+ cs ∧ (cs.drop n).length < cs.length := by
    refine ⟨List.drop_suffix _ _, ?_⟩
    have hlength := List.length_pos_iff.mpr hne
    rw [List.length_drop]
    omega
  unfold readSymbol at h
  split at h
  · next hmem =>
    obtain ⟨-, rfl⟩ := Prod.mk.inj (Option.some.inj h)
    exact hdrop 3 (by omega) (by rintro rfl; exact absurd hmem (by decide))
  · split at h
    · next hmem =>
      obtain ⟨-, rfl⟩ := Prod.mk.inj (Option.some.inj h)
      exact hdrop 2 (by omega) (by rintro rfl; exact absurd hmem (by decide))
    · split at h
      · split at h
        · obtain ⟨-, rfl⟩ := Prod.mk.inj (Option.some.inj h)
          exact ⟨List.suffix_cons _ _, by simp⟩
        · cases h
      · cases h

/-- A token takes characters that outweigh it, and its name is an identifier. -/
theorem readToken_spec (h : readToken cs = some (token, rest)) :
    token.IsSpelled ∧ rest <:+ cs ∧ rest.length < cs.length ∧
      token.weight + 2 * rest.length ≤ 2 * cs.length := by
  unfold readToken at h
  split at h
  · next letters mark after hletters =>
    obtain ⟨⟨body, next⟩, hstring, h⟩ := Option.bind_eq_some_iff.mp h
    obtain ⟨rfl, rfl⟩ := Prod.mk.inj (Option.some.inj h)
    have hopening := readLetters_suffix hletters
    obtain ⟨hsuffix, hlength⟩ := readString_length hstring
    have hle := hopening.length_le
    rw [List.length_cons] at hle
    refine ⟨trivial, hsuffix.trans ((List.suffix_cons _ _).trans hopening), by omega, ?_⟩
    simp only [Token.weight]
    omega
  · split at h
    · cases h
    · next c more _ =>
      split at h
      · next hc =>
        obtain ⟨⟨spelling, after⟩, hread, h⟩ := Option.map_eq_some_iff.mp h
        obtain ⟨rfl, rfl⟩ := Prod.mk.inj h
        have hopens : c.isDigit = true ∨ c = '.' :=
          (Bool.or_eq_true_iff.mp hc).imp_right fun hpoint =>
            eq_of_beq (Bool.and_eq_true_iff.mp hpoint).1
        have hsuffix := Number.suffix_of_read hopens hread
        have hle := hsuffix.length_le
        refine ⟨trivial, hsuffix.trans (List.suffix_cons _ _), ?_, ?_⟩ <;>
          simp only [Token.weight, List.length_cons] <;> omega
      · split at h
        · next hc hname =>
          obtain ⟨found, hfound, h⟩ := Option.bind_eq_some_iff.mp h
          obtain ⟨rfl, rfl⟩ := Prod.mk.inj (Option.some.inj h)
          have hdigit : c.isDigit = false := by
            rw [← Bool.not_eq_true]
            exact fun hdigit => hc (by rw [hdigit, Bool.true_or])
          obtain ⟨hspelled, hweight⟩ := nameToken_isSpelled (by simp [hname]) (List.all_takeWhile) (by simp [hname, Number.startsWithDigit, hdigit]) hfound
          have hdrop : (c :: more).dropWhile Number.mayContinueName =
              more.dropWhile Number.mayContinueName := by simp [hname]
          have hsuffix := List.dropWhile_suffix (l := more) Number.mayContinueName
          have hle := hsuffix.length_le
          rw [hdrop, hweight, List.length_cons]
          exact ⟨hspelled, hsuffix.trans (List.suffix_cons _ _), by omega, by omega⟩
        · obtain ⟨⟨symbol, after⟩, hread, h⟩ := Option.map_eq_some_iff.mp h
          obtain ⟨rfl, rfl⟩ := Prod.mk.inj h
          obtain ⟨hsuffix, hlength⟩ := readSymbol_length hread
          refine ⟨trivial, hsuffix, hlength, ?_⟩
          simp only [Token.weight]
          omega

/-! ## Layout -/

theorem readMargin_suffix {margin found : Margin} (h : readMargin margin cs = some (found, rest)) :
    rest <:+ cs ∧ (found = margin ∨ rest.length < cs.length) := by
  fun_induction readMargin margin cs with
  | case1 margin more ih | case2 margin more ih | case3 margin more ih =>
    obtain ⟨hsuffix, -⟩ := ih h
    have hle := hsuffix.length_le
    refine ⟨hsuffix.trans (List.suffix_cons _ _), .inr ?_⟩
    rw [List.length_cons]
    omega
  | case4 margin c more ih =>
    obtain ⟨hsuffix, -⟩ := ih h
    have hle := hsuffix.length_le
    refine ⟨hsuffix.trans ((List.suffix_cons _ _).trans (List.suffix_cons _ _)), .inr ?_⟩
    simp only [List.length_cons] at hle ⊢
    omega
  | case5 => cases h
  | case6 margin more =>
    obtain ⟨rfl, rfl⟩ := Prod.mk.inj (Option.some.inj h)
    exact ⟨List.suffix_rfl, .inl rfl⟩

theorem closeBlocks_length (column : Nat) (indents : List (Nat × Nat)) :
    (closeBlocks column indents).1 + (closeBlocks column indents).2.length = indents.length := by
  induction indents with
  | nil => rfl
  | cons indent indents ih =>
    rw [closeBlocks]
    split
    · cases hclosed : closeBlocks column indents with
      | mk closed kept =>
        rw [hclosed] at ih
        rw [List.length_cons]
        dsimp only at ih ⊢
        omega
    · simp

/-- Whether a token opens or closes a block. -/
def isBlockToken (token : Token) : Prop := token = .indent ∨ token = .dedent

/-- A line opens a block only if it is indented; else it closes as many as it ends. -/
theorem indentation_spec {margin : Margin} {layout next : Layout} {tokens : List Token}
    (h : indentation margin layout = some (tokens, next)) :
    (∀ token ∈ tokens, isBlockToken token) ∧ (tokens.length + next.indents.length ≤
      layout.indents.length + if margin.column = 0 ∧ margin.continued = 0 then 0 else 2) := by
  unfold indentation at h
  dsimp only at h
  generalize hcolumn : (if margin.continued == 0 then margin.column else margin.continued) = column
    at h
  generalize (if margin.continued == 0 then margin.tabless else margin.continued) = tabless at h
  split at h
  · split at h
    · obtain ⟨rfl, rfl⟩ := Prod.mk.inj (Option.some.inj h)
      exact ⟨List.forall_mem_nil _, by simp⟩
    · cases h
  · split at h
    · next hdeeper =>
      split at h
      · cases h
      · obtain ⟨rfl, rfl⟩ := Prod.mk.inj (Option.some.inj h)
        refine ⟨List.forall_mem_singleton.mpr (.inl rfl), ?_⟩
        have hmargin : ¬(margin.column = 0 ∧ margin.continued = 0) := by
          rintro ⟨hzero, hcontinued⟩
          simp only [hzero, hcontinued, beq_self_eq_true, if_true] at hcolumn
          omega
        rw [if_neg hmargin]
        simp only [List.length_cons, List.length_nil]
        omega
    · split at h
      · obtain ⟨rfl, rfl⟩ := Prod.mk.inj (Option.some.inj h)
        refine ⟨fun token htoken => .inr (List.eq_of_mem_replicate htoken), ?_⟩
        rw [List.length_replicate, closeBlocks_length]
        omega
      · cases h

theorem skipComment_suffix (cs : List Char) : skipComment cs <:+ cs := by
  unfold skipComment
  split
  · exact (List.dropWhile_suffix _).trans (List.suffix_cons _ _)
  · exact List.suffix_rfl

theorem after_indents {layout next : Layout} (h : layout.after token = some next) :
    next.indents = layout.indents := by
  unfold Layout.after at h
  split at h
  · unfold Layout.follow at h
    split at h
    · split at h
      · split at h
        · cases h
        · obtain rfl := Option.some.inj h
          rfl
      · split at h
        · split at h
          · split at h
            · obtain rfl := Option.some.inj h
              rfl
            · cases h
          · cases h
        · obtain rfl := Option.some.inj h
          rfl
    · obtain rfl := Option.some.inj h
      rfl
  · obtain rfl := Option.some.inj h
    rfl

theorem weigh_append (lexemes others : List Lexeme) :
    Parser.weigh (lexemes ++ others) = Parser.weigh lexemes + Parser.weigh others := by
  induction lexemes with
  | nil => rw [List.nil_append, Parser.weigh, Nat.zero_add]
  | cons first lexemes ih => rw [List.cons_append, Parser.weigh_cons, Parser.weigh_cons, ih, Nat.add_assoc]

theorem weigh_blockTokens {tokens : List Token} (h : ∀ token ∈ tokens, isBlockToken token)
    (line : Nat) : Parser.weigh (tokens.map (⟨·, line⟩)) = tokens.length := by
  induction tokens with
  | nil => rfl
  | cons token tokens ih =>
    obtain ⟨hfirst, hmore⟩ := List.forall_mem_cons.mp h
    have hweight : token.weight = 1 := by
      rcases hfirst with rfl | rfl <;> rfl
    rw [List.map_cons, Parser.weigh_cons, ih hmore, hweight, List.length_cons, Nat.add_comm]

/-- What is known of the tokens of a text: they weigh no more than twice its characters beyond the
blocks that are still open, and their names are identifiers. -/
def Tokenized (layout : Layout) (cs : List Char) (lexemes : List Lexeme) : Prop :=
  Parser.weigh lexemes ≤ 2 * cs.length + layout.indents.length + 1 ∧
    ∀ lexeme ∈ lexemes, lexeme.token.IsSpelled

theorem Tokenized.mono {layout next : Layout} {lexemes : List Lexeme} (h : Tokenized layout cs lexemes)
    (hlength : cs.length ≤ rest.length) (hindents : layout.indents = next.indents) :
    Tokenized next rest lexemes := by
  refine ⟨?_, h.2⟩
  have hweigh := h.1
  rw [hindents] at hweigh
  omega

theorem readTokens_spec {fuel : Nat} {atStart : Bool} {layout : Layout} {lexemes : List Lexeme}
    (h : readTokens fuel atStart layout cs = some lexemes) : Tokenized layout cs lexemes := by
  induction fuel generalizing atStart layout cs lexemes with
  | zero => cases h
  | succ fuel ih =>
    cases atStart with
    | true =>
      obtain ⟨⟨margin, after⟩, hmargin, h⟩ := Option.bind_eq_some_iff.mp h
      obtain ⟨hafter, hconsumed⟩ := readMargin_suffix hmargin
      have hcomment := skipComment_suffix after
      dsimp only at h
      split at h
      · next rest heq =>
        have hle := (hcomment.trans hafter).length_le
        rw [heq, List.length_cons] at hle
        exact (ih h).mono (by omega) rfl
      · split at h
        · obtain ⟨⟨tokens, next⟩, hindentation, h⟩ := Option.bind_eq_some_iff.mp h
          obtain ⟨more, hmore, h⟩ := Option.bind_eq_some_iff.mp h
          obtain rfl := Option.some.inj h
          obtain ⟨hblocks, hcount⟩ := indentation_spec hindentation
          obtain ⟨hweigh, hspelled⟩ := ih hmore
          have hle := (hcomment.trans hafter).length_le
          dsimp only at hweigh
          refine ⟨?_, List.forall_mem_append.mpr ⟨List.forall_mem_map.mpr fun token htoken => ?_, hspelled⟩⟩
          · rw [weigh_append, weigh_blockTokens hblocks]
            rcases hconsumed with rfl | hconsumed
            · rw [if_pos ⟨rfl, rfl⟩] at hcount
              dsimp only at hcount
              omega
            · have hshorter := hcomment.length_le
              split at hcount <;> (dsimp only at hcount; omega)
          · rcases hblocks token htoken with rfl | rfl <;> trivial
        · exact (ih h).mono (hcomment.trans hafter).length_le rfl
    | false =>
      have hgap := (skipComment_suffix (cs.dropWhile isGap)).trans (List.dropWhile_suffix isGap)
      have hle := hgap.length_le
      rw [readTokens] at h
      split at h
      · split at h
        · obtain rfl := Option.some.inj h
          exact ⟨by simp [Parser.weigh, Token.weight], List.forall_mem_singleton.mpr trivial⟩
        · cases h
      · next rest heq =>
        rw [heq, List.length_cons] at hle
        split at h
        · obtain ⟨more, hmore, h⟩ := Option.bind_eq_some_iff.mp h
          obtain rfl := Option.some.inj h
          obtain ⟨hweigh, hspelled⟩ := ih hmore
          refine ⟨?_, List.forall_mem_cons.mpr ⟨trivial, hspelled⟩⟩
          rw [Parser.weigh_cons]
          simp only [Token.weight]
          dsimp only at hweigh
          omega
        · exact (ih h).mono (by omega) rfl
      · next rest heq =>
        rw [heq, List.length_cons] at hle
        split at h
        · simp only [List.length_cons] at hle
          exact (ih h).mono (by rw [List.length_cons]; omega) rfl
        · cases h
      · obtain ⟨⟨token, rest⟩, htoken, h⟩ := Option.bind_eq_some_iff.mp h
        obtain ⟨next, hnext, h⟩ := Option.bind_eq_some_iff.mp h
        obtain ⟨more, hmore, h⟩ := Option.bind_eq_some_iff.mp h
        obtain rfl := Option.some.inj h
        obtain ⟨hname, -, -, hweight⟩ := readToken_spec htoken
        obtain ⟨hweigh, hspelled⟩ := ih hmore
        refine ⟨?_, List.forall_mem_cons.mpr ⟨hname, hspelled⟩⟩
        rw [Parser.weigh_cons]
        dsimp only at hweigh ⊢
        rw [after_indents hnext] at hweigh
        omega

theorem unifyLineEnds_length (cs : List Char) : (unifyLineEnds cs).length ≤ cs.length := by
  fun_induction unifyLineEnds cs with
  | case1 => exact Nat.le_refl 0
  | case2 cs ih | case3 cs _ ih | case4 c cs _ _ ih =>
    simp only [List.length_cons]
    omega

theorem endLine_length (cs : List Char) : (endLine cs).length ≤ cs.length + 1 := by
  unfold endLine
  split
  · exact Nat.le_succ _
  · rw [List.length_append, List.length_singleton]

end Lexer

/-- The tokens of a text weigh little more than twice its characters, and their names are
identifiers. -/
theorem tokens?_spec {cs : List Char} {lexemes : List Lexeme} (h : tokens? cs = some lexemes) :
    Parser.weigh lexemes ≤ 2 * cs.length + 3 ∧ ∀ lexeme ∈ lexemes, lexeme.token.IsSpelled := by
  obtain ⟨hweigh, hspelled⟩ := Lexer.readTokens_spec h
  have hunified := Lexer.unifyLineEnds_length cs
  have hended := Lexer.endLine_length (unifyLineEnds cs)
  refine ⟨?_, hspelled⟩
  simp only [Lexer.Layout.initial, List.length_nil] at hweigh
  omega

namespace Lexer

theorem readToken_bracket (rest : List Char) :
    readToken ('(' :: rest) = some (.symbol "(", rest) := by
  rw [readToken_eq_readSymbol (by decide) (by simp)]
  simp [readSymbol, tripleSymbols, doubleSymbols, singleSymbols]

/-- A bracket at the head of a text is a token that takes as much as it weighs. -/
theorem readTokens_bracket {fuel : Nat} {rest : List Char} {lexemes : List Lexeme}
    (h : readTokens fuel true .initial ('(' :: rest) = some lexemes) :
    Parser.weigh lexemes ≤ 2 * rest.length + 2 := by
  rcases fuel with _ | _ | fuel
  · cases h
  · cases h
  · obtain ⟨more, hmore, h⟩ := Option.bind_eq_some_iff.mp h
    obtain rfl := Option.some.inj h
    have htoken : (readToken ('(' :: rest)).bind (fun read =>
        (Layout.initial.after read.1).bind fun next =>
          (readTokens fuel false { next with line := next.line + lineBreaks read.1 } read.2).bind
            fun others => some (⟨read.1, 1⟩ :: others)) = some more := hmore
    rw [readToken_bracket, Option.bind_some] at htoken
    obtain ⟨next, hnext, htoken⟩ := Option.bind_eq_some_iff.mp htoken
    obtain ⟨others, hothers, htoken⟩ := Option.bind_eq_some_iff.mp htoken
    obtain rfl := Option.some.inj htoken
    obtain ⟨hweigh, -⟩ := readTokens_spec hothers
    dsimp only at hweigh
    rw [after_indents hnext] at hweigh
    rw [List.map_nil, List.nil_append, Parser.weigh_cons]
    simp only [Token.weight, Layout.initial, List.length_nil] at hweigh ⊢
    omega

end Lexer

/-- The tokens of a text behind a bracket. -/
theorem weigh_bracketed {cs : List Char} {lexemes : List Lexeme}
    (h : tokens? ('(' :: cs) = some lexemes) : Parser.weigh lexemes ≤ 2 * cs.length + 4 := by
  have hunified := Lexer.unifyLineEnds_length cs
  have hended := Lexer.endLine_length (unifyLineEnds cs)
  have hhead : Lexer.endLine (unifyLineEnds ('(' :: cs)) = '(' :: Lexer.endLine (unifyLineEnds cs) := by
    rw [show unifyLineEnds ('(' :: cs) = '(' :: unifyLineEnds cs from rfl]
    cases unifyLineEnds cs with
    | nil => rfl
    | cons c more =>
      unfold Lexer.endLine
      rw [List.getLast?_cons_cons]
      split <;> rfl
  unfold tokens? at h
  rw [hhead] at h
  have hweigh := Lexer.readTokens_bracket h
  omega

end Registrar.Source
