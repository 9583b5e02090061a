import Registrar.Source.Lexer
import Registrar.Text.Blank

/-! # Texts that are tidied

A tidied text lacks the blanks at the ends of lines, all but three newlines of a run, and the blank
lines at its end. It looks like the text up to the next blank, and at the next newline both are on
their way to the same lines.
-/

namespace Registrar.Source

/-- Whether only blanks stand before the next newline. -/
def endsLine : List Char → Bool
  | [] => false
  | c :: cs => c == '\n' || isBlank c && endsLine cs

/-- Whether something stands in a text that is not blank. -/
def isVisible (cs : List Char) : Bool := cs.any fun c => !isBlank c

/-- A text is tidied behind a run of newlines. -/
inductive Tidied : Nat → List Char → List Char → Prop
  | letter {run : Nat} {c : Char} {cs ds : List Char} (hc : c ≠ '\n')
    (hkept : (isBlank c && endsLine cs) = false) (hrun : run = 0 ∨ isVisible (c :: cs) = true)
    (h : Tidied 0 cs ds) : Tidied run (c :: cs) (c :: ds)
  | blank {run : Nat} {c : Char} {cs ds : List Char} (hc : c ≠ '\n')
    (hdropped : (isBlank c && endsLine cs) = true) (hrun : run = 0 ∨ isVisible cs = true)
    (h : Tidied run cs ds) : Tidied run (c :: cs) ds
  | newline {run : Nat} {cs ds : List Char} (hless : run < 3)
    (hrun : run = 0 ∨ isVisible cs = true) (h : Tidied (run + 1) cs ds) :
    Tidied run ('\n' :: cs) ('\n' :: ds)
  | surplus {run : Nat} {cs ds : List Char} (hmore : 3 ≤ run) (hrun : isVisible cs = true)
    (h : Tidied (run + 1) cs ds) : Tidied run ('\n' :: cs) ds
  | finish {run : Nat} {cs : List Char} (hrun : 0 < run) (h : isVisible cs = false) :
    Tidied run cs []

/-- Behind a short run something is still to come. -/
def IsLive (run : Nat) (cs : List Char) : Prop := run = 0 ∨ run < 3 ∧ isVisible cs = true

/-- Texts that look alike: they are the same up to the next blank, and that is a newline if it is not
the same. -/
inductive LooksLike : List Char → List Char → Prop
  | visible {c : Char} {cs ds : List Char} (hc : isBlank c = false) (h : LooksLike cs ds) :
    LooksLike (c :: cs) (c :: ds)
  | blank {c d : Char} {cs ds : List Char} (hc : isBlank c = true) (hd : d = c ∨ d = '\n') :
    LooksLike (c :: cs) (d :: ds)

variable {run : Nat} {c : Char} {cs ds : List Char}

theorem isVisible_cons (c : Char) (cs : List Char) :
    isVisible (c :: cs) = (!isBlank c || isVisible cs) := rfl

theorem isVisible_append (cs ds : List Char) :
    isVisible (cs ++ ds) = (isVisible cs || isVisible ds) := List.any_append

theorem endsLine_cons (hc : c ≠ '\n') : endsLine (c :: cs) = (isBlank c && endsLine cs) := by
  simp [endsLine, hc]

theorem isVisible_of_blank (hc : isBlank c = true) (h : isVisible (c :: cs) = true) :
    isVisible cs = true := by
  simpa [isVisible_cons, hc] using h

theorem isBlank_newline : isBlank '\n' = true := by decide

theorem endsLine_of_isVisible {letters : List Char} (hc : isBlank c = false)
    (hletters : ∀ d ∈ letters, d ≠ '\n') : endsLine (letters ++ c :: cs) = false := by
  induction letters with
  | nil =>
    have hne : c ≠ '\n' := by
      rintro rfl
      cases hc
    simp [endsLine, hc, hne]
  | cons d letters ih =>
    obtain ⟨hd, hletters⟩ := List.forall_mem_cons.mp hletters
    simp [endsLine, hd, ih hletters]

namespace IsLive

theorem zero (cs : List Char) : IsLive 0 cs := .inl rfl

theorem lt (h : IsLive run cs) : run < 3 := by
  obtain rfl | ⟨hless, -⟩ := h
  · decide
  · exact hless

theorem of_blank (hc : isBlank c = true) (h : IsLive run (c :: cs)) : IsLive run cs :=
  h.imp_right fun h => ⟨h.1, isVisible_of_blank hc h.2⟩

end IsLive

namespace Tidied

/-- Nothing is tidied to nothing before something was said. -/
theorem ne_nil (h : Tidied run cs ds) (hlive : IsLive run cs) : cs ≠ [] ∧ ds ≠ [] := by
  induction h with
  | letter | newline => simp
  | blank _ hdropped _ _ ih =>
    exact ⟨by simp, (ih (hlive.of_blank (Bool.and_eq_true_iff.mp hdropped).1)).2⟩
  | surplus hmore => exact absurd hlive.lt (Nat.not_lt.mpr hmore)
  | finish hrun hnone =>
    obtain rfl | ⟨-, hvisible⟩ := hlive
    · cases hrun
    · rw [hnone] at hvisible
      cases hvisible

/-- What is visible stays. -/
theorem cons (h : Tidied run (c :: cs) ds) (hc : isBlank c = false) :
    ∃ rest, ds = c :: rest ∧ Tidied 0 cs rest := by
  cases h with
  | letter _ _ _ h => exact ⟨_, rfl, h⟩
  | blank _ hdropped => simp [hc] at hdropped
  | newline | surplus => cases hc
  | finish _ hnone => simp [isVisible_cons, hc] at hnone

theorem append {used : List Char} (h : Tidied 0 (used ++ cs) ds)
    (hused : ∀ c ∈ used, isBlank c = false) : ∃ rest, ds = used ++ rest ∧ Tidied 0 cs rest := by
  induction used generalizing ds with
  | nil => exact ⟨ds, rfl, h⟩
  | cons c used ih =>
    obtain ⟨hc, hused⟩ := List.forall_mem_cons.mp hused
    obtain ⟨rest, rfl, hrest⟩ := h.cons hc
    obtain ⟨more, rfl, hmore⟩ := ih hrest hused
    exact ⟨more, rfl, hmore⟩

/-- At the end of a line a newline stays while the run is short. -/
theorem head_of_endsLine (h : Tidied run cs ds) (hlive : IsLive run cs)
    (hends : endsLine cs = true) : ∃ rest, ds = '\n' :: rest := by
  induction h with
  | letter hc hkept =>
    simp only [endsLine, hkept, Bool.or_false, beq_iff_eq] at hends
    exact absurd hends hc
  | blank _ hdropped _ _ ih =>
    obtain ⟨hblank, hends⟩ := Bool.and_eq_true_iff.mp hdropped
    exact ih (hlive.of_blank hblank) hends
  | newline => exact ⟨_, rfl⟩
  | surplus hmore => exact absurd hlive.lt (Nat.not_lt.mpr hmore)
  | finish hrun hnone => exact absurd rfl ((Tidied.finish hrun hnone).ne_nil hlive).2

theorem looksLike (h : Tidied run cs ds) (hlive : IsLive run cs) : LooksLike cs ds := by
  induction h with
  | @letter _ c cs ds hc hkept _ _ ih =>
    cases hblank : isBlank c with
    | true => exact .blank hblank (.inl rfl)
    | false => exact .visible hblank (ih (.zero _))
  | blank hc hdropped hrun h =>
    obtain ⟨hblank, hends⟩ := Bool.and_eq_true_iff.mp hdropped
    obtain ⟨rest, rfl⟩ := h.head_of_endsLine (hlive.of_blank hblank) hends
    exact .blank hblank (.inr rfl)
  | newline => exact .blank isBlank_newline (.inl rfl)
  | surplus hmore => exact absurd hlive.lt (Nat.not_lt.mpr hmore)
  | finish hrun hnone => exact absurd rfl ((Tidied.finish hrun hnone).ne_nil hlive).2

/-- A newline stays while the run is short. -/
theorem newline_inv (h : Tidied run ('\n' :: cs) ds) (hlive : IsLive run ('\n' :: cs)) :
    ∃ rest, ds = '\n' :: rest ∧ Tidied (run + 1) cs rest := by
  cases h with
  | letter hc => exact absurd rfl hc
  | blank hc => exact absurd rfl hc
  | newline _ _ h => exact ⟨_, rfl, h⟩
  | surplus hmore => exact absurd hlive.lt (Nat.not_lt.mpr hmore)
  | finish hrun hnone => exact absurd rfl ((Tidied.finish hrun hnone).ne_nil hlive).2

/-- Where nothing is to come, a text is tidied to nothing. -/
theorem eq_nil (h : Tidied run cs ds) (hrun : 0 < run) (hnone : isVisible cs = false) :
    ds = [] := by
  cases h with
  | letter _ _ hawake =>
    rw [hawake.resolve_left (Nat.ne_of_gt hrun)] at hnone
    cases hnone
  | blank _ _ hawake | newline _ hawake =>
    rw [isVisible_cons, hawake.resolve_left (Nat.ne_of_gt hrun), Bool.or_true] at hnone
    cases hnone
  | surplus _ hvisible =>
    rw [isVisible_cons, hvisible, Bool.or_true] at hnone
    cases hnone
  | finish => rfl

/-- Below the end of a line both texts go on, or nothing is to come. -/
theorem underLine (h : Tidied 0 ('\n' :: c :: cs) ds) :
    (IsLive 1 (c :: cs) ∧ ∃ d rest, ds = '\n' :: d :: rest ∧ Tidied 1 (c :: cs) (d :: rest)) ∨
      (isVisible (c :: cs) = false ∧ ds = ['\n']) := by
  obtain ⟨rest, rfl, hrest⟩ := h.newline_inv (.zero _)
  cases hvisible : isVisible (c :: cs) with
  | true =>
    have hlive : IsLive 1 (c :: cs) := .inr ⟨by decide, hvisible⟩
    obtain ⟨d, rest, rfl⟩ := List.exists_cons_of_ne_nil (hrest.ne_nil hlive).2
    exact .inl ⟨hlive, d, rest, rfl, hrest⟩
  | false =>
    obtain rfl := hrest.eq_nil (by decide) hvisible
    exact .inr ⟨rfl, rfl⟩

/-- A tidied text is part of the text. -/
theorem sublist (h : Tidied run cs ds) : ds.Sublist cs := by
  induction h with
  | letter _ _ _ _ ih | newline _ _ _ ih => exact ih.cons_cons _
  | blank _ _ _ _ ih | surplus _ _ _ ih => exact ih.cons _
  | finish => exact List.nil_sublist _

/-- A line with something on it is tidied alike behind any run. -/
theorem zero_of_visible (h : Tidied run cs ds) (hvisible : isVisible cs = true)
    (hends : endsLine cs = false) : Tidied 0 cs ds := by
  cases h with
  | letter hc hkept _ h => exact .letter hc hkept (.inl rfl) h
  | blank _ hdropped => simp [endsLine, hdropped] at hends
  | newline | surplus => simp [endsLine] at hends
  | finish _ hnone =>
    rw [hnone] at hvisible
    cases hvisible

/-! ## Gaps and comments -/

/-- A text behind its gaps and a comment. -/
theorem dropGaps (h : Tidied run cs ds) (hlive : IsLive run cs) :
    ∃ run', IsLive run' (cs.dropWhile Lexer.isGap) ∧
      Tidied run' (cs.dropWhile Lexer.isGap) (ds.dropWhile Lexer.isGap) := by
  induction h with
  | @letter run c cs ds hc hkept hrun h ih =>
    by_cases hgap : Lexer.isGap c = true
    · rw [List.dropWhile_cons_of_pos hgap, List.dropWhile_cons_of_pos hgap]
      exact ih (.zero _)
    · rw [List.dropWhile_cons_of_neg hgap, List.dropWhile_cons_of_neg hgap]
      exact ⟨run, hlive, .letter hc hkept hrun h⟩
  | @blank run c cs ds hc hdropped hrun h ih =>
    obtain ⟨hblank, hends⟩ := Bool.and_eq_true_iff.mp hdropped
    have hrest := hlive.of_blank hblank
    by_cases hgap : Lexer.isGap c = true
    · rw [List.dropWhile_cons_of_pos hgap]
      exact ih hrest
    · obtain ⟨rest, rfl⟩ := h.head_of_endsLine hrest hends
      rw [List.dropWhile_cons_of_neg hgap, List.dropWhile_cons_of_neg (by decide)]
      exact ⟨run, hlive, .blank hc hdropped hrun h⟩
  | newline hless hrun h =>
    rw [List.dropWhile_cons_of_neg (by decide), List.dropWhile_cons_of_neg (by decide)]
    exact ⟨_, hlive, .newline hless hrun h⟩
  | surplus hmore => exact absurd hlive.lt (Nat.not_lt.mpr hmore)
  | finish hrun hnone => exact absurd rfl ((Tidied.finish hrun hnone).ne_nil hlive).2

/-- The rest of a line is dropped from both texts. -/
theorem dropLine (h : Tidied run cs ds) (hlive : IsLive run cs) :
    ∃ run', IsLive run' (cs.dropWhile (· != '\n')) ∧
      Tidied run' (cs.dropWhile (· != '\n')) (ds.dropWhile (· != '\n')) := by
  induction h with
  | letter hc hkept hrun h ih =>
    rw [List.dropWhile_cons_of_pos (by simpa using hc), List.dropWhile_cons_of_pos (by simpa using hc)]
    exact ih (.zero _)
  | blank hc hdropped hrun h ih =>
    rw [List.dropWhile_cons_of_pos (by simpa using hc)]
    exact ih (hlive.of_blank (Bool.and_eq_true_iff.mp hdropped).1)
  | newline hless hrun h =>
    rw [List.dropWhile_cons_of_neg (by simp), List.dropWhile_cons_of_neg (by simp)]
    exact ⟨_, hlive, .newline hless hrun h⟩
  | surplus hmore => exact absurd hlive.lt (Nat.not_lt.mpr hmore)
  | finish hrun hnone => exact absurd rfl ((Tidied.finish hrun hnone).ne_nil hlive).2

/-- A visible character heads both texts or none. -/
theorem head_eq (h : Tidied run cs (c :: ds)) (hlive : IsLive run cs) (hc : isBlank c = false) :
    ∃ rest, cs = c :: rest := by
  cases h.looksLike hlive with
  | visible => exact ⟨_, rfl⟩
  | blank hblank hd =>
    obtain rfl | rfl := hd
    · rw [hc] at hblank
      cases hblank
    · cases hc

theorem skipComment (h : Tidied run cs ds) (hlive : IsLive run cs) :
    ∃ run', IsLive run' (Lexer.skipComment cs) ∧
      Tidied run' (Lexer.skipComment cs) (Lexer.skipComment ds) := by
  cases cs with
  | nil => exact absurd rfl (h.ne_nil hlive).1
  | cons c cs =>
    by_cases hc : c = '#'
    · subst hc
      obtain ⟨rest, rfl, hrest⟩ := h.cons (by decide)
      exact hrest.dropLine (.zero _)
    · have hother : ∀ more, ds ≠ '#' :: more := by
        rintro more rfl
        obtain ⟨rest, hhead⟩ := h.head_eq hlive (by decide)
        exact hc (List.cons.inj hhead).1
      have hfirst : Lexer.skipComment (c :: cs) = c :: cs := Lexer.skipComment.eq_2 _ (by simpa using hc)
      have hsecond : Lexer.skipComment ds = ds := Lexer.skipComment.eq_2 _ hother
      rw [hfirst, hsecond]
      exact ⟨run, hlive, h⟩

end Tidied

end Registrar.Source
