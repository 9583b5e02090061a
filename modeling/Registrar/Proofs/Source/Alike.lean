import Registrar.Proofs.Parser.Tokens
import Registrar.Proofs.Source.Tidied

/-! # Tokens of texts that look alike

A token is read from the characters before the next blank. Of two texts that look alike, the token
that is read from the first is read from the second too, and what follows looks alike again. Nothing
is said of what the first text does not have: a blank that is no gap stands in no token, but a
newline in its place may.
-/

namespace Registrar.Source

/-- What one reading gives, another gives as well, up to a relation. -/
def Carries {α β : Type} (R : α → β → Prop) (a : Option α) (b : Option β) : Prop :=
  ∀ x, a = some x → ∃ y, b = some y ∧ R x y

section

variable {α β γ δ : Type} {R : α → β → Prop} {S : γ → δ → Prop} {a : Option α} {b : Option β}

theorem carries_none : Carries R none b := fun _ h => nomatch h

theorem carries_some {x : α} {y : β} (h : R x y) : Carries R (some x) (some y) := by
  rintro _ ⟨⟩
  exact ⟨y, rfl, h⟩

theorem Carries.bind {f : α → Option γ} {g : β → Option δ} (h : Carries R a b)
    (hnext : ∀ x y, R x y → Carries S (f x) (g y)) : Carries S (a.bind f) (b.bind g) := by
  intro z hz
  obtain ⟨x, rfl, hx⟩ := Option.bind_eq_some_iff.mp hz
  obtain ⟨y, rfl, hxy⟩ := h x rfl
  exact hnext x y hxy z hx

theorem Carries.map {f : α → γ} {g : β → δ} (h : Carries R a b)
    (hnext : ∀ x y, R x y → S (f x) (g y)) : Carries S (a.map f) (b.map g) := by
  intro z hz
  obtain ⟨x, hx, rfl⟩ := Option.map_eq_some_iff.mp hz
  obtain ⟨y, rfl, hxy⟩ := h x hx
  exact ⟨g y, rfl, hnext x y hxy⟩

theorem Carries.mono {R' : α → β → Prop} (h : Carries R a b) (himp : ∀ x y, R x y → R' x y) :
    Carries R' a b := by
  intro x hx
  obtain ⟨y, hy, hxy⟩ := h x hx
  exact ⟨y, hy, himp x y hxy⟩

end

/-- Two texts follow two others behind the same visible letters. -/
def Follows (cs ds rest other : List Char) : Prop :=
  ∃ used, (∀ c ∈ used, isBlank c = false) ∧ cs = used ++ rest ∧ ds = used ++ other ∧
    LooksLike rest other

variable {cs ds rest other : List Char} {c d : Char}

namespace LooksLike

theorem cons_inv (h : LooksLike (c :: cs) ds) (hc : isBlank c = false) :
    ∃ rest, ds = c :: rest ∧ LooksLike cs rest := by
  cases h with
  | visible _ h => exact ⟨_, rfl, h⟩
  | blank hblank =>
    rw [hc] at hblank
    cases hblank

theorem append_inv {used : List Char} (h : LooksLike (used ++ cs) (used ++ ds))
    (hused : ∀ c ∈ used, isBlank c = false) : LooksLike cs ds := by
  induction used with
  | nil => exact h
  | cons c used ih =>
    obtain ⟨hc, hused⟩ := List.forall_mem_cons.mp hused
    obtain ⟨rest, heq, hrest⟩ := h.cons_inv hc
    rw [← (List.cons.inj heq).2] at hrest
    exact ih hrest hused

theorem not_nil : ¬LooksLike [] ds := nofun

theorem follows (h : LooksLike cs ds) : Follows cs ds cs ds := ⟨[], by simp, rfl, rfl, h⟩

/-- Both heads are the same letter, or blanks. -/
theorem head_cases (h : LooksLike cs ds) :
    (∃ c rest other, cs = c :: rest ∧ ds = c :: other ∧ isBlank c = false ∧ LooksLike rest other) ∨
      ∃ c d rest other, cs = c :: rest ∧ ds = d :: other ∧ isBlank c = true ∧ isBlank d = true ∧
        (d = c ∨ d = '\n') := by
  cases h with
  | visible hc h => exact .inl ⟨_, _, _, rfl, rfl, hc, h⟩
  | @blank c d rest other hc hd =>
    refine .inr ⟨c, d, rest, other, rfl, rfl, hc, ?_, hd⟩
    obtain rfl | rfl := hd
    · exact hc
    · exact isBlank_newline

end LooksLike

namespace Follows

theorem cons (h : Follows cs ds rest other) (hc : isBlank c = false) :
    Follows (c :: cs) (c :: ds) rest other := by
  obtain ⟨used, hused, rfl, rfl, hlike⟩ := h
  exact ⟨c :: used, List.forall_mem_cons.mpr ⟨hc, hused⟩, rfl, rfl, hlike⟩

theorem trans {last final : List Char} (h : Follows cs ds rest other)
    (hmore : Follows rest other last final) : Follows cs ds last final := by
  obtain ⟨used, hused, rfl, rfl, -⟩ := h
  obtain ⟨more, hmore, rfl, rfl, hlike⟩ := hmore
  exact ⟨used ++ more, List.forall_mem_append.mpr ⟨hused, hmore⟩, (List.append_assoc _ _ _).symm,
    (List.append_assoc _ _ _).symm, hlike⟩

end Follows

/-- What is skipped of a text is skipped of all texts that look like it. -/
def SkipsAlike (f : List Char → Option (List Char)) : Prop :=
  ∀ cs ds, LooksLike cs ds → Carries (Follows cs ds) (f cs) (f ds)

namespace SkipsAlike

variable {f g : List Char → Option (List Char)}

theorem bind (hf : SkipsAlike f) (hg : SkipsAlike g) : SkipsAlike fun cs => f cs >>= g := by
  intro cs ds h
  refine (hf cs ds h).bind fun rest other hrest => ?_
  obtain ⟨-, -, -, -, hlike⟩ := id hrest
  exact (hg rest other hlike).mono fun _ _ => hrest.trans

theorem behind (hf : SkipsAlike f) (h : LooksLike cs ds) (hc : isBlank c = false) :
    Carries (Follows (c :: cs) (c :: ds)) (f cs) (f ds) :=
  (hf cs ds h).mono fun _ _ hrest => hrest.cons hc

end SkipsAlike

/-! ## Numbers -/

/-- A test that visible characters of ASCII pass only. -/
theorem not_of_blank {p : Char → Bool} (h : ∀ c, p c = true → 33 ≤ c.toNat ∧ c.toNat < 128) (c : Char)
    (hc : isBlank c = true) : p c = false := by
  rw [Bool.eq_false_iff]
  intro hp
  obtain ⟨hfrom, hto⟩ := h c hp
  simp only [isBlank, Bool.or_eq_true, Bool.and_eq_true, decide_eq_true_eq, beq_iff_eq] at hc
  omega

theorem isDigit_of_blank (c : Char) (hc : isBlank c = true) : c.isDigit = false :=
  not_of_blank (fun c hc => by
    have hrange := Char.isDigit_iff_toNat.mp hc
    exact ⟨Nat.le_trans (by decide) hrange.1, Nat.lt_of_le_of_lt hrange.2 (by decide)⟩) c hc

/-- Whether no blank stands in a word. -/
def visible (word : List Char) : Bool := word.all fun c => !isBlank c

theorem visible_of_all {words : List (List Char)} (h : words.all visible = true) :
    ∀ word ∈ words, ∀ c ∈ word, isBlank c = false := by
  simpa [visible] using h

theorem ne_of_blank (hc : isBlank c = true) (hd : isBlank d = false) : c ≠ d := by
  rintro rfl
  rw [hd] at hc
  cases hc

/-- A word without blanks heads both texts or none. -/
theorem LooksLike.isPrefixOf_eq {letters : List Char} (hletters : ∀ c ∈ letters, isBlank c = false)
    (h : LooksLike cs ds) : letters.isPrefixOf ds = letters.isPrefixOf cs := by
  induction letters generalizing cs ds with
  | nil => rfl
  | cons e letters ih =>
    obtain ⟨he, hletters⟩ := List.forall_mem_cons.mp hletters
    obtain ⟨c, rest, other, rfl, rfl, -, h⟩ | ⟨c, d, rest, other, rfl, rfl, hc, hd, -⟩ := h.head_cases
    · rw [List.isPrefixOf_cons_cons, List.isPrefixOf_cons_cons, ih hletters h]
    · rw [List.isPrefixOf_cons_cons, List.isPrefixOf_cons_cons,
        beq_false_of_ne (ne_of_blank hc he).symm, beq_false_of_ne (ne_of_blank hd he).symm,
        Bool.false_and, Bool.false_and]

namespace Number

theorem startsWithDigit_eq (h : LooksLike cs ds) : startsWithDigit ds = startsWithDigit cs := by
  obtain ⟨c, rest, other, rfl, rfl, -, -⟩ | ⟨c, d, rest, other, rfl, rfl, hc, hd, -⟩ := h.head_cases
  · rfl
  · exact (isDigit_of_blank d hd).trans (isDigit_of_blank c hc).symm

theorem mayContinueName_newline : mayContinueName '\n' = false := by decide

theorem isBlank_of_mem_adjacentWords : ∀ word ∈ adjacentWords, ∀ c ∈ word, isBlank c = false :=
  visible_of_all (by decide)

theorem endsBefore_of_looksLike (h : LooksLike cs ds) (hends : endsBefore cs = true) :
    endsBefore ds = true := by
  have hany : adjacentWords.any (·.isPrefixOf ds) = adjacentWords.any (·.isPrefixOf cs) := by
    rw [Bool.eq_iff_iff, List.any_eq_true, List.any_eq_true]
    refine exists_congr fun word => and_congr_right fun hword => ?_
    rw [h.isPrefixOf_eq (isBlank_of_mem_adjacentWords word hword)]
  obtain ⟨c, rest, other, rfl, rfl, -, -⟩ | ⟨c, d, rest, other, rfl, rfl, hc, hd, rfl | rfl⟩ :=
    h.head_cases
  · rw [endsBefore, hany]
    exact hends
  · rw [endsBefore, hany]
    exact hends
  · rw [endsBefore, mayContinueName_newline]
    rfl

theorem skipsAlike_finish : SkipsAlike finish := by
  intro cs ds h rest hrest
  unfold finish at hrest
  split at hrest
  · next hends =>
    obtain rfl := Option.some.inj hrest
    exact ⟨ds, if_pos (endsBefore_of_looksLike h hends), h.follows⟩
  · cases hrest

/-- What passes a test that no blank passes is visible. -/
theorem visible_of_test {test : Char → Bool} (htest : ∀ c, isBlank c = true → test c = false)
    (hc : test c = true) : isBlank c = false := by
  rw [← Bool.not_eq_true]
  intro hblank
  rw [htest c hblank] at hc
  cases hc

/-- A text is read by its head: one way behind heads that pass a test, else another. -/
theorem skipsAlike_byHead {f g : List Char → Option (List Char)} {test : Char → Bool}
    {h : Char → List Char → Option (List Char)} (htest : ∀ c, isBlank c = true → test c = false)
    (heq : ∀ c cs, f (c :: cs) = if test c then h c cs else g (c :: cs))
    (hh : ∀ c, test c = true → ∀ cs ds, LooksLike cs ds →
      Carries (Follows (c :: cs) (c :: ds)) (h c cs) (h c ds))
    (hg : SkipsAlike g) : SkipsAlike f := by
  intro cs ds hlike
  obtain ⟨c, rest, other, rfl, rfl, hc, hrest⟩ | ⟨c, d, rest, other, rfl, rfl, hc, hd, -⟩ :=
    hlike.head_cases
  · rw [heq, heq]
    split
    · next hpass => exact hh c hpass rest other hrest
    · exact hg _ _ hlike
  · rw [heq, heq, htest c hc, htest d hd]
    exact hg _ _ hlike

theorem skipDigits_stop {isDigit : Char → Bool} (hne : c ≠ '_') (hc : isDigit c = false) :
    skipDigits isDigit (c :: cs) = some (c :: cs) := by
  rw [skipDigits.eq_3 _ _ _ (by simp [hne]) (by simp [hne]), hc]
  rfl

theorem skipsAlike_skipDigits {isDigit : Char → Bool} (hdigit : ∀ c, isBlank c = true → isDigit c = false) :
    SkipsAlike (skipDigits isDigit) := by
  have hvisible {c : Char} (hc : isDigit c = true) : isBlank c = false := visible_of_test hdigit hc
  intro cs
  fun_induction skipDigits isDigit cs with
  | case1 c rest hc ih =>
    intro ds h
    obtain ⟨front, rfl, hfront⟩ := h.cons_inv (by decide)
    obtain ⟨more, rfl, hmore⟩ := hfront.cons_inv (hvisible hc)
    rw [skipDigits, if_pos hc]
    exact (ih more hmore).mono fun _ _ hrest => (hrest.cons (hvisible hc)).cons (by decide)
  | case2 | case3 => exact fun _ _ => carries_none
  | case4 c rest hmany hone hc ih =>
    intro ds h
    obtain ⟨more, rfl, hmore⟩ := h.cons_inv (hvisible hc)
    have hne : c ≠ '_' := by
      rintro rfl
      cases rest with
      | nil => exact hone rfl rfl
      | cons d rest => exact hmany d rest rfl rfl
    have hstep : skipDigits isDigit (c :: more) = skipDigits isDigit more := by
      rw [skipDigits.eq_3 _ _ _ (by simp [hne]) (by simp [hne]), if_pos hc]
    rw [hstep]
    exact (ih more hmore).mono fun _ _ hrest => hrest.cons (hvisible hc)
  | case5 c rest hmany hone hc =>
    intro ds h
    have hsame : skipDigits isDigit ds = some ds := by
      obtain ⟨e, front, more, heq, rfl, -, -⟩ | ⟨e, d, front, more, -, rfl, -, hd, -⟩ := h.head_cases
      · obtain ⟨rfl, rfl⟩ := List.cons.inj heq
        refine skipDigits_stop ?_ (Bool.eq_false_iff.mpr hc)
        rintro rfl
        cases rest with
        | nil => exact hone rfl rfl
        | cons d rest => exact hmany d rest rfl rfl
      · exact skipDigits_stop (ne_of_blank hd (by decide)) (hdigit d hd)
    rw [hsame]
    exact carries_some h.follows
  | case6 => exact fun _ h => absurd h LooksLike.not_nil

theorem either_of_blank {a b : Char} (ha : isBlank a = false) (hb : isBlank b = false) (c : Char)
    (hc : isBlank c = true) : (c == a || c == b) = false := by
  simp [ne_of_blank hc ha, ne_of_blank hc hb]

theorem skipsAlike_skipImaginary : SkipsAlike skipImaginary :=
  have htest := either_of_blank (a := 'j') (b := 'J') (by decide) (by decide)
  skipsAlike_byHead htest (h := fun _ => finish) (fun _ _ => rfl)
    (fun _ hc _ _ hlike => skipsAlike_finish.behind hlike (visible_of_test htest hc)) skipsAlike_finish

theorem skipsAlike_digitsThen {next : List Char → Option (List Char)} (hnext : SkipsAlike next) :
    SkipsAlike fun cs => skipDigits Char.isDigit cs >>= next :=
  (skipsAlike_skipDigits isDigit_of_blank).bind hnext

/-- An exponent behind its letter, then an imaginary unit or the end. -/
def skipPower (e : Char) (cs : List Char) : Option (List Char) :=
  match cs with
  | sign :: more =>
    if sign == '+' || sign == '-' then
      if startsWithDigit more then skipDigits Char.isDigit more >>= skipImaginary else none
    else if sign.isDigit then skipDigits Char.isDigit cs >>= skipImaginary
    else finish (e :: cs)
  | [] => finish (e :: cs)

theorem carries_skipPower {e : Char} (he : isBlank e = false) (h : LooksLike cs ds) :
    Carries (Follows (e :: cs) (e :: ds)) (skipPower e cs) (skipPower e ds) := by
  have hdigits := skipsAlike_digitsThen skipsAlike_skipImaginary
  have hend : Carries (Follows (e :: cs) (e :: ds)) (finish (e :: cs)) (finish (e :: ds)) :=
    skipsAlike_finish _ _ (.visible he h)
  obtain ⟨sign, rest, other, rfl, rfl, hsign, hrest⟩ | ⟨c, d, rest, other, rfl, rfl, hc, hd, -⟩ :=
    h.head_cases
  · unfold skipPower
    dsimp only
    split
    · rw [startsWithDigit_eq hrest]
      split
      · exact (hdigits.behind hrest hsign).mono fun _ _ hmore => hmore.cons he
      · exact carries_none
    · split
      · exact (hdigits _ _ h).mono fun _ _ hmore => hmore.cons he
      · exact hend
  · have hsign {c : Char} {cs : List Char} (hc : isBlank c = true) :
        skipPower e (c :: cs) = finish (e :: c :: cs) := by
      unfold skipPower
      dsimp only
      rw [either_of_blank (by decide) (by decide) c hc, isDigit_of_blank c hc]
      rfl
    rw [hsign hc, hsign hd]
    exact hend

theorem skipsAlike_skipExponent : SkipsAlike skipExponent :=
  have htest := either_of_blank (a := 'e') (b := 'E') (by decide) (by decide)
  skipsAlike_byHead htest (h := skipPower) (fun c cs => by cases cs <;> rfl)
    (fun _ hc _ _ hlike => carries_skipPower (visible_of_test htest hc) hlike) skipsAlike_skipImaginary

theorem skipsAlike_skipFraction : SkipsAlike skipFraction := by
  intro cs ds h
  unfold skipFraction
  rw [startsWithDigit_eq h]
  split
  · exact skipsAlike_digitsThen skipsAlike_skipExponent cs ds h
  · exact skipsAlike_skipExponent cs ds h

theorem skipsAlike_skipTail : SkipsAlike skipTail :=
  have htest (c : Char) (hc : isBlank c = true) : (c == '.') = false :=
    beq_false_of_ne (ne_of_blank hc (by decide))
  skipsAlike_byHead htest (h := fun _ => skipFraction)
    (fun c cs => by
      split
      · next hc => rw [eq_of_beq hc]; rfl
      · next hc => exact skipTail.eq_2 _ (by simpa using hc))
    (fun _ hc _ _ hlike => skipsAlike_skipFraction.behind hlike (visible_of_test htest hc))
    skipsAlike_skipExponent

/-- The end of a literal whose digits are over. -/
def finishDigits : List Char → Option (List Char)
  | d :: rest => if d.isDigit then none else finish (d :: rest)
  | [] => some []

theorem skipsAlike_finishDigits : SkipsAlike finishDigits :=
  skipsAlike_byHead isDigit_of_blank (h := fun _ _ => none) (fun _ _ => rfl)
    (fun _ _ _ _ _ => carries_none) skipsAlike_finish

theorem skipsAlike_skipDigitsOnly {isDigit : Char → Bool}
    (hdigit : ∀ c, isBlank c = true → isDigit c = false) : SkipsAlike (skipDigitsOnly isDigit) := by
  have hbind := (skipsAlike_skipDigits hdigit).bind skipsAlike_finishDigits
  intro cs ds h
  have heq (c : Char) (cs : List Char) : skipDigitsOnly isDigit (c :: cs) =
      if isDigit c then (skipDigits isDigit (c :: cs)).bind finishDigits else none := by
    have hfinish : finishDigits = fun rest : List Char =>
        (match rest with
        | d :: _ => if d.isDigit then none else finish rest
        | [] => some []) := by
      funext rest
      cases rest <;> rfl
    rw [hfinish]
    rfl
  obtain ⟨c, rest, other, rfl, rfl, -, -⟩ | ⟨c, d, rest, other, rfl, rfl, hc, hd, -⟩ := h.head_cases
  · rw [heq, heq]
    split
    · exact hbind _ _ h
    · exact carries_none
  · rw [heq, hdigit c hc]
    exact carries_none

theorem skipsAlike_skipBased {isDigit : Char → Bool}
    (hdigit : ∀ c, isBlank c = true → isDigit c = false) : SkipsAlike (skipBased isDigit) := by
  have hdigits := skipsAlike_skipDigitsOnly hdigit
  have htest (c : Char) (hc : isBlank c = true) : (c == '_') = false :=
    beq_false_of_ne (ne_of_blank hc (by decide))
  refine skipsAlike_byHead htest (h := fun _ => skipDigitsOnly isDigit) (fun c cs => ?_)
    (fun _ hc _ _ hlike => hdigits.behind hlike (visible_of_test htest hc)) hdigits
  rw [skipBased_eq]
  split
  · next hc =>
    rw [eq_of_beq hc]
    rfl
  · next hc => rw [withoutUnderscore.eq_2 _ (by simpa using hc)]

theorem skipZeros_stop (hne : c ≠ '_') (hzero : c ≠ '0') : skipZeros (c :: cs) = some (c :: cs) := by
  rw [skipZeros.eq_5] <;> simp [hne, hzero]

theorem skipsAlike_skipZeros : SkipsAlike skipZeros := by
  intro cs
  fun_induction skipZeros cs with
  | case1 rest ih =>
    intro ds h
    obtain ⟨front, rfl, hfront⟩ := h.cons_inv (by decide)
    obtain ⟨more, rfl, hmore⟩ := hfront.cons_inv (by decide)
    exact (ih more hmore).mono fun _ _ hrest => (hrest.cons (by decide)).cons (by decide)
  | case2 c rest hzero hc =>
    intro ds h
    obtain ⟨front, rfl, hfront⟩ := h.cons_inv (by decide)
    obtain ⟨more, rfl, hmore⟩ := hfront.cons_inv (visible_of_test isDigit_of_blank hc)
    rw [skipZeros.eq_2 _ _ hzero, if_pos hc]
    exact carries_some (hfront.follows.cons (by decide))
  | case3 | case4 => exact fun _ _ => carries_none
  | case5 rest ih =>
    intro ds h
    obtain ⟨front, rfl, hfront⟩ := h.cons_inv (by decide)
    exact (ih front hfront).mono fun _ _ hrest => hrest.cons (by decide)
  | case6 cs _ hmany hone hzero =>
    intro ds h
    have hsame : skipZeros ds = some ds := by
      obtain ⟨c, rest, other, rfl, rfl, -, -⟩ | ⟨c, d, rest, other, -, rfl, -, hd, -⟩ := h.head_cases
      · refine skipZeros_stop ?_ fun hc => hzero rest (by rw [hc])
        rintro rfl
        cases rest with
        | nil => exact hone rfl
        | cons d rest => exact hmany d rest rfl
      · exact skipZeros_stop (ne_of_blank hd (by decide)) (ne_of_blank hd (by decide))
    rw [hsame]
    exact carries_some h.follows

/-- What may follow leading zeros and other digits. -/
def closesZeros (c : Char) : Bool := c == '.' || c == 'e' || c == 'E' || c == 'j' || c == 'J'

theorem closesZeros_of_blank (c : Char) (hc : isBlank c = true) : closesZeros c = false := by
  have hne {d : Char} (hd : isBlank d = false) : (c == d) = false :=
    beq_false_of_ne (ne_of_blank hc hd)
  rw [closesZeros, hne (by decide), hne (by decide), hne (by decide), hne (by decide), hne (by decide)]
  rfl

/-- The rest of a literal behind leading zeros and other digits. -/
def skipZerosTail : List Char → Option (List Char)
  | c :: rest => if closesZeros c then skipTail (c :: rest) else none
  | [] => none

theorem skipsAlike_skipZerosTail : SkipsAlike skipZerosTail :=
  skipsAlike_byHead closesZeros_of_blank (g := fun _ => none) (h := fun c cs => skipTail (c :: cs))
    (fun _ _ => rfl)
    (fun _ hc _ _ hlike => skipsAlike_skipTail _ _ (.visible (visible_of_test closesZeros_of_blank hc) hlike))
    (fun _ _ _ => carries_none)

/-- Digits behind leading zeros, if there are any, and the rest of a literal. -/
def skipAfterZeros (cs : List Char) : Option (List Char) :=
  if startsWithDigit cs then (skipDigits Char.isDigit cs).bind skipZerosTail else skipTail cs

theorem skipLeadingZero_eq (cs : List Char) : skipLeadingZero cs = (skipZeros cs).bind skipAfterZeros := by
  refine congrArg (skipZeros cs).bind (funext fun rest => ?_)
  unfold skipAfterZeros
  refine if_congr Iff.rfl (congrArg (skipDigits Char.isDigit rest).bind (funext fun more => ?_)) rfl
  cases more <;> rfl

theorem skipsAlike_skipLeadingZero : SkipsAlike skipLeadingZero := by
  have hafter : SkipsAlike skipAfterZeros := by
    intro cs ds h
    unfold skipAfterZeros
    rw [startsWithDigit_eq h]
    split
    · exact (skipsAlike_skipDigits isDigit_of_blank).bind skipsAlike_skipZerosTail cs ds h
    · exact skipsAlike_skipTail cs ds h
  intro cs ds h
  rw [skipLeadingZero_eq, skipLeadingZero_eq]
  exact skipsAlike_skipZeros.bind hafter cs ds h

/-- What follows a zero at the head of a literal. -/
def skipAfterZero (c : Char) (rest : List Char) : Option (List Char) :=
  if c == 'x' || c == 'X' then skipBased isHexDigit rest
  else if c == 'o' || c == 'O' then skipBased (fun d => '0' ≤ d && d ≤ '7') rest
  else if c == 'b' || c == 'B' then skipBased (fun d => d == '0' || d == '1') rest
  else skipLeadingZero (c :: rest)

theorem range_of_blank {a b : Char} (ha : 33 ≤ a.toNat) (hb : b.toNat < 128) (c : Char)
    (hc : isBlank c = true) : (a ≤ c && c ≤ b : Bool) = false :=
  not_of_blank (p := fun c => a ≤ c && c ≤ b) (fun c hc => by
    simp only [Bool.and_eq_true, decide_eq_true_eq] at hc
    exact ⟨Nat.le_trans ha hc.1, Nat.lt_of_le_of_lt hc.2 hb⟩) c hc

theorem isHexDigit_of_blank (c : Char) (hc : isBlank c = true) : isHexDigit c = false := by
  rw [isHexDigit, isDigit_of_blank c hc, range_of_blank (by decide) (by decide) c hc,
    range_of_blank (by decide) (by decide) c hc]
  rfl

theorem carries_skipAfterZero (h : LooksLike (c :: cs) ds) :
    ∃ d other, ds = d :: other ∧
      Carries (Follows (c :: cs) ds) (skipAfterZero c cs) (skipAfterZero d other) := by
  have hbased {isDigit : Char → Bool} (hdigit : ∀ c, isBlank c = true → isDigit c = false)
      {c : Char} {cs ds : List Char} (hlike : LooksLike cs ds) (hc : isBlank c = false) :
      Carries (Follows (c :: cs) (c :: ds)) (skipBased isDigit cs) (skipBased isDigit ds) :=
    (skipsAlike_skipBased hdigit).behind hlike hc
  obtain ⟨c, rest, other, heq, rfl, hc, hrest⟩ | ⟨c, d, rest, other, heq, rfl, hc, hd, -⟩ :=
    h.head_cases
  · obtain ⟨rfl, rfl⟩ := List.cons.inj heq
    refine ⟨_, _, rfl, ?_⟩
    unfold skipAfterZero
    split
    · exact hbased isHexDigit_of_blank hrest hc
    · split
      · exact hbased (range_of_blank (by decide) (by decide)) hrest hc
      · split
        · exact hbased (either_of_blank (by decide) (by decide)) hrest hc
        · exact skipsAlike_skipLeadingZero _ _ h
  · obtain ⟨rfl, rfl⟩ := List.cons.inj heq
    refine ⟨_, _, rfl, ?_⟩
    have hzeros {c : Char} {cs : List Char} (hc : isBlank c = true) :
        skipAfterZero c cs = skipLeadingZero (c :: cs) := by
      unfold skipAfterZero
      rw [either_of_blank (by decide) (by decide) c hc, either_of_blank (by decide) (by decide) c hc,
        either_of_blank (by decide) (by decide) c hc]
      rfl
    rw [hzeros hc, hzeros hd]
    exact skipsAlike_skipLeadingZero _ _ h

theorem skip_digits (hpoint : c ≠ '.') (hzero : c ≠ '0') :
    skip (c :: cs) = skipDigits Char.isDigit (c :: cs) >>= skipTail := by
  rw [skip.eq_4] <;> simp [hpoint, hzero]

theorem skipsAlike_skip : SkipsAlike skip := by
  intro cs ds h
  have hdigits := skipsAlike_digitsThen skipsAlike_skipTail
  obtain ⟨c, rest, other, rfl, rfl, hc, hrest⟩ | ⟨c, d, rest, other, rfl, rfl, hc, hd, -⟩ :=
    h.head_cases
  · by_cases hpoint : c = '.'
    · subst hpoint
      exact skipsAlike_skipFraction.behind hrest hc
    · by_cases hzero : c = '0'
      · subst hzero
        cases rest with
        | nil => exact absurd hrest LooksLike.not_nil
        | cons c rest =>
          obtain ⟨d, more, rfl, hmore⟩ := carries_skipAfterZero hrest
          exact hmore.mono fun _ _ hfollows => hfollows.cons hc
      · rw [skip_digits hpoint hzero, skip_digits hpoint hzero]
        exact hdigits _ _ h
  · have hother {c : Char} {cs : List Char} (hc : isBlank c = true) :
        skip (c :: cs) = skipDigits Char.isDigit (c :: cs) >>= skipTail :=
      skip_digits (ne_of_blank hc (by decide)) (ne_of_blank hc (by decide))
    rw [hother hc, hother hd]
    exact hdigits _ _ h

/-- A number is read from both texts alike. -/
theorem carries_read (h : LooksLike cs ds) :
    Carries (fun a b => b.1 = a.1 ∧ Follows cs ds a.2 b.2) (read cs) (read ds) := by
  refine (skipsAlike_skip cs ds h).bind fun rest other hrest => ?_
  obtain ⟨used, -, rfl, rfl, -⟩ := id hrest
  have htake (more : List Char) : (used ++ more).take ((used ++ more).length - more.length) = used := by
    rw [List.length_append, Nat.add_sub_cancel, List.take_left]
  dsimp only
  rw [htake, htake]
  split
  · exact carries_none
  · exact carries_some ⟨rfl, hrest⟩

end Number

/-! ## Words and symbols -/

namespace Lexer

variable {token : Token} {mark : Char}

theorem isBlank_of_mem_keywords {word : String} (hword : word ∈ keywords) :
    ∀ c ∈ word.toList, isBlank c = false :=
  visible_of_all (by decide +kernel : (keywords.map String.toList).all visible = true) _
    (List.mem_map_of_mem hword)

theorem isBlank_of_nameToken {letters : List Char} (h : nameToken letters = some token)
    (hletters : letters.all Number.mayContinueName = true) : ∀ c ∈ letters, isBlank c = false := by
  unfold nameToken at h
  dsimp only at h
  split at h
  · next hkeyword =>
    have hword := isBlank_of_mem_keywords (List.contains_iff_mem.mp hkeyword)
    rwa [String.toList_ofList] at hword
  · split at h
    · next hascii =>
      intro c hc
      have hname := List.all_eq_true.mp hletters c hc
      rw [Number.mayContinueName, List.all_eq_true.mp hascii c hc, Bool.not_true, Bool.or_false] at hname
      refine isBlank_of_identifierChar (.inr ?_)
      rw [isIdentifierContinue, if_pos (List.all_eq_true.mp hascii c hc), hname]
    · split at h
      · next hidentifier => exact isBlank_of_isIdentifierChars hidentifier
      · cases h

/-- A word that is spelled without blanks is a word of both texts. -/
theorem takeWhile_of_looksLike {p : Char → Bool} (hp : p '\n' = false) (h : LooksLike cs ds)
    (hword : ∀ c ∈ cs.takeWhile p, isBlank c = false) :
    ds.takeWhile p = cs.takeWhile p ∧ Follows cs ds (cs.dropWhile p) (ds.dropWhile p) := by
  induction cs generalizing ds with
  | nil => exact absurd h LooksLike.not_nil
  | cons c cs ih =>
    by_cases hc : p c = true
    · rw [List.takeWhile_cons_of_pos hc, List.dropWhile_cons_of_pos hc] at *
      obtain ⟨hvisible, hword⟩ := List.forall_mem_cons.mp hword
      obtain ⟨other, rfl, hother⟩ := h.cons_inv hvisible
      obtain ⟨htake, hdrop⟩ := ih hother hword
      rw [List.takeWhile_cons_of_pos hc, List.dropWhile_cons_of_pos hc, htake]
      exact ⟨rfl, hdrop.cons hvisible⟩
    · obtain ⟨d, other, rfl, hd⟩ : ∃ d other, ds = d :: other ∧ p d ≠ true := by
        obtain ⟨e, rest, other, heq, rfl, -, -⟩ | ⟨e, d, rest, other, heq, rfl, -, -, hd⟩ := h.head_cases
        · obtain ⟨rfl, -⟩ := List.cons.inj heq
          exact ⟨_, _, rfl, hc⟩
        · obtain ⟨rfl, -⟩ := List.cons.inj heq
          refine ⟨_, _, rfl, ?_⟩
          obtain rfl | rfl := hd
          · exact hc
          · rw [hp]
            decide
      rw [List.takeWhile_cons_of_neg hc, List.takeWhile_cons_of_neg hd, List.dropWhile_cons_of_neg hc,
        List.dropWhile_cons_of_neg hd]
      exact ⟨rfl, h.follows⟩

/-- The word at the head of a text as a token. -/
def readWord (cs : List Char) : Option (Token × List Char) :=
  (nameToken (cs.takeWhile Number.mayContinueName)).map (·, cs.dropWhile Number.mayContinueName)

/-- One token and what follows it are read from both texts. -/
def ReadsAlike (cs ds : List Char) (a b : Token × List Char) : Prop :=
  b.1 = a.1 ∧ Follows cs ds a.2 b.2

theorem carries_readWord (h : LooksLike cs ds) :
    Carries (ReadsAlike cs ds) (readWord cs) (readWord ds) := by
  intro read hread
  obtain ⟨token, htoken, rfl⟩ := Option.map_eq_some_iff.mp hread
  obtain ⟨htake, hdrop⟩ := takeWhile_of_looksLike Number.mayContinueName_newline h
    (isBlank_of_nameToken htoken List.all_takeWhile)
  refine ⟨(token, ds.dropWhile Number.mayContinueName), ?_, rfl, hdrop⟩
  rw [readWord, htake, htoken, Option.map_some]

theorem contains_take {symbols : List (List Char)} {n : Nat}
    (hlength : ∀ symbol ∈ symbols, symbol.length = n) (cs : List Char) :
    symbols.contains (cs.take n) = symbols.any (·.isPrefixOf cs) := by
  rw [Bool.eq_iff_iff, List.contains_iff_mem, List.any_eq_true]
  constructor
  · exact fun hmem => ⟨_, hmem, List.isPrefixOf_iff_prefix.mpr (List.take_prefix _ _)⟩
  · rintro ⟨symbol, hmem, hprefix⟩
    rwa [← hlength symbol hmem, ← List.prefix_iff_eq_take.mp (List.isPrefixOf_iff_prefix.mp hprefix)]

/-- Symbols of one length head both texts or none. -/
theorem take_of_looksLike {symbols : List (List Char)} {n : Nat}
    (hlength : ∀ symbol ∈ symbols, symbol.length = n)
    (hvisible : ∀ symbol ∈ symbols, ∀ c ∈ symbol, isBlank c = false) (h : LooksLike cs ds) :
    symbols.contains (ds.take n) = symbols.contains (cs.take n) ∧
      (symbols.contains (cs.take n) = true →
        ds.take n = cs.take n ∧ Follows cs ds (cs.drop n) (ds.drop n)) := by
  have hsame : symbols.any (·.isPrefixOf ds) = symbols.any (·.isPrefixOf cs) := by
    rw [Bool.eq_iff_iff, List.any_eq_true, List.any_eq_true]
    refine exists_congr fun symbol => and_congr_right fun hsymbol => ?_
    rw [h.isPrefixOf_eq (hvisible symbol hsymbol)]
  rw [contains_take hlength, contains_take hlength]
  refine ⟨hsame, fun hany => ?_⟩
  obtain ⟨symbol, hsymbol, hprefix⟩ := List.any_eq_true.mp hany
  have hother := (h.isPrefixOf_eq (hvisible symbol hsymbol)).trans hprefix
  obtain ⟨rest, rfl⟩ := List.isPrefixOf_iff_prefix.mp hprefix
  obtain ⟨other, rfl⟩ := List.isPrefixOf_iff_prefix.mp hother
  have hlike := h.append_inv (hvisible symbol hsymbol)
  rw [← hlength symbol hsymbol, List.take_left, List.take_left, List.drop_left, List.drop_left]
  exact ⟨rfl, symbol, hvisible symbol hsymbol, rfl, rfl, hlike⟩

theorem length_tripleSymbols : ∀ symbol ∈ tripleSymbols, symbol.length = 3 := by decide

theorem length_doubleSymbols : ∀ symbol ∈ doubleSymbols, symbol.length = 2 := by decide

theorem visible_singleSymbols : ∀ symbol ∈ singleSymbols, isBlank symbol = false :=
  visible_of_all (by decide : [singleSymbols].all visible = true) _ (List.mem_singleton_self _)

theorem carries_readSymbol (h : LooksLike cs ds) :
    Carries (fun a b => b.1 = a.1 ∧ Follows cs ds a.2 b.2) (readSymbol cs) (readSymbol ds) := by
  obtain ⟨htriple, hthree⟩ :=
    take_of_looksLike length_tripleSymbols (visible_of_all (by decide)) h
  obtain ⟨hdouble, htwo⟩ :=
    take_of_looksLike length_doubleSymbols (visible_of_all (by decide)) h
  unfold readSymbol
  rw [htriple, hdouble]
  split
  · next hcontains => exact carries_some (hthree hcontains)
  · split
    · next hcontains => exact carries_some (htwo hcontains)
    · obtain ⟨c, rest, other, rfl, rfl, hc, hrest⟩ | ⟨c, d, rest, other, rfl, rfl, hc, -, -⟩ :=
        h.head_cases
      · dsimp only
        split
        · exact carries_some ⟨rfl, hrest.follows.cons hc⟩
        · exact carries_none
      · dsimp only
        have hnone : singleSymbols.contains c = false := by
          rw [Bool.eq_false_iff]
          intro hcontains
          rw [visible_singleSymbols _ (List.contains_iff_mem.mp hcontains)] at hc
          cases hc
        rw [hnone]
        exact carries_none

end Lexer

end Registrar.Source
