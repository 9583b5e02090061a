import Mathlib.Data.List.DropRight
import Registrar.Proofs.Catalogue.Lines
import Registrar.Proofs.Parser.Tokens
import Registrar.Proofs.Project.Text
import Registrar.Proofs.Source.Tidied

/-! # Canonical text is tidied text

Putting a text into canonical form cuts it into lines, trims them and shortens the runs of newlines.
If only newlines separate its lines, the outcome is the text as tidied: each line as it is tidied
behind the newlines before it.
-/

namespace Registrar

variable {cs front back line : List Char} {c : Char}

/-! ## Lines of a text -/

theorem linesFrom_unifyLineEnds (current cs : List Char) :
    linesFrom current (unifyLineEnds cs) = linesFrom current cs := by
  fun_induction unifyLineEnds cs generalizing current with
  | case1 => rfl
  | case2 cs ih => rw [linesFrom_newline, ih, linesFrom]
  | case3 cs hpair ih =>
    rw [linesFrom_newline, ih, linesFrom_cons fun more _ h => hpair more h]
    rfl
  | case4 c cs hpair hreturn ih =>
    have hne : c ≠ '\r' := by
      rintro rfl
      exact hreturn rfl
    rw [linesFrom_cons fun _ h => absurd h hne, linesFrom_cons fun _ h => absurd h hne, ih, ih]

theorem endLine_cons (h : c ≠ '\n' ∨ cs ≠ []) :
    Source.Lexer.endLine (c :: cs) = c :: Source.Lexer.endLine cs := by
  unfold Source.Lexer.endLine
  cases cs with
  | nil => simpa using h
  | cons d cs =>
    rw [List.getLast?_cons_cons]
    split <;> rfl

/-- A text whose lines are separated by newlines is made up of them. -/
theorem flatMap_linesFrom (hlines : ∀ c ∈ cs, isLineBoundary c = true → c = '\n')
    (current : List Char) (hne : current ≠ [] ∨ cs ≠ []) :
    (linesFrom current cs).flatMap (· ++ ['\n']) = current.reverse ++ Source.Lexer.endLine cs := by
  induction cs generalizing current with
  | nil =>
    have hcurrent : current ≠ [] := hne.resolve_right (absurd rfl)
    simp [linesFrom, hcurrent, Source.Lexer.endLine]
  | cons c cs ih =>
    obtain ⟨hc, hmore⟩ := List.forall_mem_cons.mp hlines
    by_cases hnewline : c = '\n'
    · subst hnewline
      rw [linesFrom_newline, List.flatMap_cons]
      by_cases hnil : cs = []
      · subst hnil
        simp [linesFrom, Source.Lexer.endLine]
      · rw [ih hmore [] (.inr hnil), endLine_cons (.inr hnil)]
        simp
    · have hboundary : isLineBoundary c = false := by
        rw [← Bool.not_eq_true]
        exact fun h => hnewline (hc h)
      have hreturn : c ≠ '\r' := by
        rintro rfl
        cases hboundary
      rw [linesFrom_cons fun _ h => absurd h hreturn, hboundary, if_neg Bool.false_ne_true,
        ih hmore (c :: current) (.inl (List.cons_ne_nil _ _)), endLine_cons (.inl hnewline)]
      simp

/-! ## Trimming -/

theorem dropEndWhile_append {p : Char → Bool} (front : List Char)
    (hback : ∃ c ∈ back, p c = false) :
    dropEndWhile p (front ++ back) = front ++ dropEndWhile p back := by
  obtain ⟨c, hc, hkept⟩ := hback
  have hne : (back.reverse.dropWhile p).isEmpty = false := by
    rw [List.isEmpty_eq_false_iff, ne_eq, List.dropWhile_eq_nil_iff]
    intro hall
    rw [hall c (List.mem_reverse.mpr hc)] at hkept
    cases hkept
  simp [dropEndWhile, List.dropWhile_append, hne]

theorem dropEndWhile_all {p : Char → Bool} (front : List Char) (hback : ∀ c ∈ back, p c = true) :
    dropEndWhile p (front ++ back) = dropEndWhile p front := by
  have hnil : back.reverse.dropWhile p = [] :=
    List.dropWhile_eq_nil_iff.mpr fun c hc => hback c (List.mem_reverse.mp hc)
  simp [dropEndWhile, List.dropWhile_append, hnil]

/-- A line is the line as trimmed and blanks behind it. -/
theorem trimEnd_append (line : List Char) :
    ∃ blanks, line = trimEnd line ++ blanks ∧ ∀ c ∈ blanks, isBlank c = true :=
  ⟨line.rtakeWhile isBlank, List.rdropWhile_append_rtakeWhile.symm,
    fun _ hc => List.mem_rtakeWhile_imp hc⟩

theorem trimEnd_eq_nil (hline : Source.isVisible line = false) : trimEnd line = [] :=
  List.rdropWhile_eq_nil_iff.mpr fun c hc => by
    simpa using List.any_eq_false.mp hline c hc

/-- A line with something to be seen ends in it when it is trimmed. -/
theorem isLine_trimEnd (hunbroken : ∀ c ∈ line, isLineBoundary c = false)
    (hline : Source.isVisible line = true) : IsLine (trimEnd line) := by
  refine ⟨fun c hc => hunbroken c (Canonical.mem_of_mem_dropEndWhile hc), ?_⟩
  obtain hnil | ⟨start, last, hlast⟩ := List.eq_nil_or_concat' (trimEnd line)
  · obtain ⟨c, hc, hkept⟩ := List.any_eq_true.mp hline
    have hblank := List.rdropWhile_eq_nil_iff.mp hnil c hc
    simp [hblank] at hkept
  · refine ⟨start, last, hlast, ?_⟩
    have hne : trimEnd line ≠ [] := by simp [hlast]
    have hkept : ¬isBlank ((trimEnd line).getLast hne) = true :=
      List.rdropWhile_last_not isBlank line hne
    simpa [hlast] using hkept

theorem mem_joinChars (separator : List Char) {text : List Char} {texts : List (List Char)}
    (htext : text ∈ texts) (hc : c ∈ text) : c ∈ joinChars separator texts := by
  induction texts with
  | nil => cases htext
  | cons first texts ih =>
    cases texts with
    | nil =>
      obtain rfl := List.mem_singleton.mp htext
      exact hc
    | cons next texts =>
      obtain rfl | htext := List.mem_cons.mp htext
      · simp [joinChars, hc]
      · simp [joinChars, ih htext]

namespace Canonical

theorem limitRuns_long {run : Nat} (hrun : 3 ≤ run) (text : List Char) :
    limitRuns run text = limitRuns 3 text := by
  induction text generalizing run with
  | nil => rfl
  | cons c text ih =>
    unfold limitRuns
    split
    · rw [if_neg (Nat.not_lt.mpr hrun), if_neg (by decide), ih (Nat.le_succ_of_le hrun),
        ih (by decide : 3 ≤ 3 + 1)]
    · rfl

/-- No newlines are left behind a long run. -/
theorem dropWhile_limitRuns (run : Nat) (text : List Char) :
    (limitRuns run text).dropWhile (· == '\n') = limitRuns 3 text := by
  induction text generalizing run with
  | nil => rfl
  | cons c text ih =>
    unfold limitRuns
    split
    · next hc =>
      rw [if_neg (by decide : ¬3 < 3), limitRuns_long (by decide : 3 ≤ 3 + 1)]
      split
      · exact (List.dropWhile_cons_of_pos (p := (· == '\n')) hc).trans (ih _)
      · exact ih _
    · next hc => exact List.dropWhile_cons_of_neg (p := (· == '\n')) hc

theorem mem_limitRuns {run : Nat} {text : List Char} (hc : c ≠ '\n') (hmem : c ∈ text) :
    c ∈ limitRuns run text := by
  induction text generalizing run with
  | nil => cases hmem
  | cons d text ih =>
    unfold limitRuns
    obtain rfl | hmem := List.mem_cons.mp hmem
    · simp [hc]
    · split
      · split
        · exact List.mem_cons_of_mem _ (ih hmem)
        · exact ih hmem
      · exact List.mem_cons_of_mem _ (ih hmem)

/-! ## Lines behind newlines -/

/-- Lines as canonical text has them behind newlines: trimmed, and no more newlines in a row. -/
def tidyLines (run : Nat) (block : List (List Char)) : List Char :=
  dropEndWhile (· == '\n') (limitRuns run (joinChars ['\n'] (block.map trimEnd))) ++ ['\n']

theorem normalize_eq_tidyLines (text : List Char) : normalize text = tidyLines 3 (lines text) := by
  unfold normalize trimNewlines tidyLines
  rw [dropWhile_limitRuns]

variable {run : Nat} {block : List (List Char)}

theorem exists_of_visible (run : Nat) (hvisible : block.any Source.isVisible = true) :
    ∃ c ∈ limitRuns run (joinChars ['\n'] (block.map trimEnd)), (c == '\n') = false := by
  obtain ⟨line, hline, hvisible⟩ := List.any_eq_true.mp hvisible
  obtain ⟨c, hc, hkept⟩ := List.any_eq_true.mp hvisible
  obtain ⟨blanks, hblanks, hall⟩ := trimEnd_append line
  have hne : c ≠ '\n' := by
    rintro rfl
    cases hkept
  have htrimmed : c ∈ trimEnd line := by
    rw [hblanks] at hc
    refine (List.mem_append.mp hc).resolve_right fun hc => ?_
    simp [hall c hc] at hkept
  have hjoined := mem_joinChars ['\n'] (List.mem_map_of_mem hline) htrimmed
  exact ⟨c, mem_limitRuns hne hjoined, by simpa using hne⟩

theorem forall_of_invisible (run : Nat) (hnone : block.any Source.isVisible = false) :
    ∀ c ∈ limitRuns run (joinChars ['\n'] (block.map trimEnd)), (c == '\n') = true := by
  intro c hc
  rw [← Bool.not_eq_false]
  intro hne
  refine not_mem_joinChars (by simpa using hne) (fun text htext hmem => ?_)
    (mem_of_mem_limitRuns hc)
  obtain ⟨line, hline, rfl⟩ := List.mem_map.mp htext
  rw [trimEnd_eq_nil (by simpa using List.any_eq_false.mp hnone line hline)] at hmem
  cases hmem

/-- A blank line adds a newline to a short run. -/
theorem tidyLines_blank (run : Nat) (hline : Source.isVisible line = false)
    (hvisible : block.any Source.isVisible = true) :
    tidyLines run (line :: block) =
      if run < 3 then '\n' :: tidyLines (run + 1) block else tidyLines (run + 1) block := by
  have hne : block.map trimEnd ≠ [] := by
    rw [ne_eq, List.map_eq_nil_iff]
    rintro rfl
    cases hvisible
  unfold tidyLines
  rw [List.map_cons, trimEnd_eq_nil hline, joinChars_cons hne, List.nil_append, limitRuns,
    if_pos (by decide)]
  split
  · exact congrArg (· ++ ['\n'])
      (dropEndWhile_append ['\n'] (exists_of_visible (run + 1) hvisible))
  · rfl

theorem dropEndWhile_line (h : IsLine line) : dropEndWhile (· == '\n') line = line := by
  obtain ⟨start, c, rfl, hc⟩ := h.closed
  have hne := h.ne_newline c (by simp)
  simp [dropEndWhile, hne]

/-- A line to be seen stays as it is trimmed. -/
theorem tidyLines_line (run : Nat) (hline : IsLine (trimEnd line)) :
    tidyLines run (line :: block) = trimEnd line ++
      if block.any Source.isVisible then '\n' :: tidyLines 1 block else ['\n'] := by
  unfold tidyLines
  by_cases hnil : block = []
  · subst hnil
    have hlimited := limitRuns_append_line hline run []
    rw [List.append_nil, limitRuns, List.append_nil] at hlimited
    simp [joinChars, hlimited, dropEndWhile_line hline]
  · rw [List.map_cons, joinChars_cons (by simpa using hnil), limitRuns_append_line hline, limitRuns,
      if_pos (by decide), if_pos (by decide)]
    cases hvisible : block.any Source.isVisible with
    | true =>
      rw [List.append_cons (trimEnd line), dropEndWhile_append _ (exists_of_visible _ hvisible)]
      simp
    | false =>
      rw [dropEndWhile_all, dropEndWhile_line hline]
      · rfl
      · exact List.forall_mem_cons.mpr ⟨by decide, forall_of_invisible _ hvisible⟩

end Canonical

/-! ## Tidied lines -/

namespace Source

variable {run : Nat} {ds : List Char} {block : List (List Char)}

theorem endsLine_blanks {blanks : List Char} (hblanks : ∀ c ∈ blanks, isBlank c = true) :
    endsLine (blanks ++ '\n' :: cs) = true := by
  induction blanks with
  | nil => rfl
  | cons c blanks ih =>
    obtain ⟨hblank, hblanks⟩ := List.forall_mem_cons.mp hblanks
    simp [endsLine, hblank, ih hblanks]

/-- Blanks at the end of a line are dropped. -/
theorem Tidied.blanks {blanks : List Char} (hblanks : ∀ c ∈ blanks, isBlank c = true)
    (hnewline : ∀ c ∈ blanks, c ≠ '\n') (hrun : run = 0 ∨ isVisible cs = true)
    (h : Tidied run ('\n' :: cs) ds) : Tidied run (blanks ++ '\n' :: cs) ds := by
  induction blanks with
  | nil => exact h
  | cons c blanks ih =>
    obtain ⟨hblank, hblanks⟩ := List.forall_mem_cons.mp hblanks
    obtain ⟨hne, hnewline⟩ := List.forall_mem_cons.mp hnewline
    refine .blank hne (Bool.and_eq_true_iff.mpr ⟨hblank, endsLine_blanks hblanks⟩)
      (hrun.imp_right fun hvisible => ?_) (ih hblanks hnewline)
    exact (isVisible_append _ _).trans (by rw [isVisible_cons, hvisible, Bool.or_true, Bool.or_true])

/-- The letters of a line up to the last one that is to be seen stay. -/
theorem Tidied.letters {start : List Char} (hstart : ∀ d ∈ start, d ≠ '\n') (hc : isBlank c = false)
    (h : Tidied 0 cs ds) : Tidied run (start ++ c :: cs) (start ++ c :: ds) := by
  induction start generalizing run with
  | nil =>
    refine .letter ?_ (by rw [hc]; rfl) (.inr (by rw [isVisible_cons, hc]; rfl)) h
    rintro rfl
    cases hc
  | cons d start ih =>
    obtain ⟨hd, hstart⟩ := List.forall_mem_cons.mp hstart
    refine .letter hd ?_ (.inr ?_) (ih hstart)
    · exact (congrArg (isBlank d && ·) (endsLine_of_isVisible hc hstart)).trans (Bool.and_false _)
    · simp [isVisible, hc]

theorem isVisible_flatMap (block : List (List Char)) :
    isVisible (block.flatMap (· ++ ['\n'])) = block.any isVisible := by
  induction block with
  | nil => rfl
  | cons line block ih =>
    rw [List.flatMap_cons, isVisible_append, isVisible_append, ih, List.any_cons]
    simp [isVisible, isBlank_newline]

/-- Lines of which something is to be seen are tidied to the lines as canonical text has them. -/
theorem tidied_tidyLines (run : Nat) (hblock : ∀ line ∈ block, ∀ c ∈ line, isLineBoundary c = false)
    (hvisible : block.any isVisible = true) :
    Tidied run (block.flatMap (· ++ ['\n'])) (Canonical.tidyLines run block) := by
  induction block generalizing run with
  | nil => cases hvisible
  | cons line block ih =>
    obtain ⟨hline, hmore⟩ := List.forall_mem_cons.mp hblock
    have hne : ∀ c ∈ line, c ≠ '\n' := by
      rintro c hc rfl
      cases hline _ hc
    have hspelled := isVisible_flatMap block
    rw [List.flatMap_cons, List.append_assoc, List.singleton_append]
    cases hseen : isVisible line with
    | false =>
      have hbelow : block.any isVisible = true := by simpa [hseen] using hvisible
      have hblank : ∀ c ∈ line, isBlank c = true := by simpa [isVisible] using hseen
      rw [Canonical.tidyLines_blank run hseen hbelow]
      refine .blanks hblank hne (.inr (hspelled.trans hbelow)) ?_
      split
      · next hless => exact .newline hless (.inr (hspelled.trans hbelow)) (ih _ hmore hbelow)
      · next hmany => exact .surplus (Nat.not_lt.mp hmany) (hspelled.trans hbelow) (ih _ hmore hbelow)
    | true =>
      have htrimmed := isLine_trimEnd hline hseen
      rw [Canonical.tidyLines_line run htrimmed]
      obtain ⟨start, c, hstart, hc⟩ := htrimmed.closed
      obtain ⟨blanks, hblanks, hall⟩ := trimEnd_append line
      rw [hstart] at hblanks ⊢
      rw [hblanks] at hne ⊢
      obtain ⟨hbefore, hafter⟩ := List.forall_mem_append.mp hne
      simp only [List.append_assoc, List.singleton_append]
      refine .letters (fun d hd => hbefore d (List.mem_append_left _ hd)) hc
        (.blanks hall hafter (.inl rfl) ?_)
      split
      · next hbelow => exact .newline (by decide) (.inl rfl) (ih 1 hmore hbelow)
      · next hnone =>
        have hinvisible := hspelled.trans (Bool.eq_false_iff.mpr hnone)
        exact .newline (by decide) (.inl rfl) (.finish Nat.one_pos hinvisible)

end Source

end Registrar
