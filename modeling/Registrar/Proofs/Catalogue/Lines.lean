import Mathlib.Data.List.Infix
import Registrar.Catalogue.Canonical

/-! # Lines of canonical text

Putting a text into canonical form changes white space at the end of lines and blank lines only.
So lines that are neither blank nor end in white space are still there, one under the other.
-/

namespace Registrar

variable {line front back text : List Char} {block more : List (List Char)}

/-- What inspection shows of all elements of a list. -/
theorem forall_mem_of_all {α : Type} {p : α → Prop} [DecidablePred p] {elements : List α}
    (h : elements.all (p ·) = true) : ∀ element ∈ elements, p element := by
  simpa using h

/-- A line as canonical text has it: it is in one piece and ends in a character to be seen. -/
structure IsLine (line : List Char) : Prop where
  unbroken : ∀ c ∈ line, isLineBoundary c = false
  closed : ∃ start c, line = start ++ [c] ∧ isBlank c = false

/-- A text that is empty or ends with its last line. -/
def Whole (front : List Char) : Prop := front = [] ∨ ∃ start, front = start ++ ['\n']

/-- Lines that stand in a text one under the other. -/
def Stands (block : List (List Char)) (text : List Char) : Prop :=
  ∃ front back, text = front ++ joinChars ['\n'] block ++ back ∧ Whole front ∧ Whole back.reverse

theorem Whole.reverse_iff : Whole back.reverse ↔ back = [] ∨ ∃ rest, back = '\n' :: rest := by
  unfold Whole
  constructor
  · rintro (h | ⟨start, h⟩)
    · exact .inl (List.reverse_eq_nil_iff.mp h)
    · exact .inr ⟨start.reverse, by simpa using congrArg List.reverse h⟩
  · rintro (rfl | ⟨rest, rfl⟩)
    · exact .inl rfl
    · exact .inr ⟨rest.reverse, by simp⟩

theorem Whole.cons_newline (h : Whole front) : Whole (front.reverse ++ ['\n']).reverse := by
  obtain rfl | ⟨start, rfl⟩ := h
  · exact .inr ⟨[], rfl⟩
  · exact .inr ⟨'\n' :: start, by simp⟩

namespace IsLine

theorem ne_newline (h : IsLine line) : ∀ c ∈ line, c ≠ '\n' := by
  rintro c hc rfl
  exact absurd (h.unbroken _ hc) (by decide)

theorem ne_nil (h : IsLine line) : line ≠ [] := by
  obtain ⟨start, c, rfl, -⟩ := h.closed
  simp

theorem trimEnd_eq (h : IsLine line) : trimEnd line = line := by
  obtain ⟨start, c, rfl, hc⟩ := h.closed
  simp [trimEnd, dropEndWhile, hc]

end IsLine

/-! ## Joining lines -/

theorem joinChars_eq_intercalate (separator : List Char) (texts : List (List Char)) :
    joinChars separator texts = separator.intercalate texts := by
  induction texts with
  | nil => rfl
  | cons text texts ih =>
    cases texts with
    | nil => simp [joinChars]
    | cons next texts => rw [joinChars, ih, List.intercalate_cons_cons]; simp

theorem joinChars_cons {mark : Char} (h : more ≠ []) :
    joinChars [mark] (line :: more) = line ++ mark :: joinChars [mark] more := by
  obtain ⟨next, more, rfl⟩ := List.exists_cons_of_ne_nil h
  simp [joinChars]

theorem joinChars_append {mark : Char} (hblock : block ≠ []) (hmore : more ≠ []) :
    joinChars [mark] (block ++ more) =
      joinChars [mark] block ++ mark :: joinChars [mark] more := by
  induction block with
  | nil => exact absurd rfl hblock
  | cons line block ih =>
    rw [List.cons_append, joinChars_cons (by simp [hmore])]
    by_cases h : block = []
    · rw [h]
      rfl
    · rw [ih h, joinChars_cons h, List.append_assoc]
      rfl

/-- Joining lines with a last one ends each of them. -/
theorem joinChars_concat (block : List (List Char)) (line : List Char) :
    joinChars ['\n'] (block ++ [line]) = block.flatMap (· ++ ['\n']) ++ line := by
  induction block with
  | nil => rfl
  | cons first block ih =>
    rw [List.cons_append, joinChars_cons (by simp), ih, List.flatMap_cons]
    simp

/-- Lines of a text stand in the text they make up again. -/
theorem stands_joinChars (hblock : block ≠ []) (before after : List (List Char)) :
    Stands block (joinChars ['\n'] (before ++ block ++ after)) := by
  have hafter : ∃ back, Whole back.reverse ∧
      joinChars ['\n'] (block ++ after) = joinChars ['\n'] block ++ back := by
    by_cases h : after = []
    · exact ⟨[], .inl rfl, by simp [h]⟩
    · exact ⟨_, Whole.reverse_iff.mpr (.inr ⟨_, rfl⟩), joinChars_append hblock h⟩
  obtain ⟨back, hback, hjoin⟩ := hafter
  by_cases h : before = []
  · exact ⟨[], back, by simp [h, hjoin], .inl rfl, hback⟩
  · refine ⟨joinChars ['\n'] before ++ ['\n'], back, ?_, .inr ⟨_, rfl⟩, hback⟩
    rw [List.append_assoc before, joinChars_append h (by simp [hblock]), hjoin]
    simp

/-! ## Cutting a text into lines -/

theorem linesFrom_cons {current rest : List Char} {c : Char}
    (hpair : ∀ cs, c = '\r' → rest = '\n' :: cs → False) :
    linesFrom current (c :: rest) =
      if isLineBoundary c then current.reverse :: linesFrom [] rest
      else linesFrom (c :: current) rest :=
  linesFrom.eq_3 current c rest hpair

theorem linesFrom_newline (current rest : List Char) :
    linesFrom current ('\n' :: rest) = current.reverse :: linesFrom [] rest := by
  rw [linesFrom_cons fun _ h => absurd h (by decide)]
  rfl

/-- A newline ends a line whatever stands before it; a carriage return ends the same line. -/
theorem linesFrom_append_newline (current front rest : List Char) :
    linesFrom current (front ++ '\n' :: rest) =
      linesFrom current (front ++ ['\n']) ++ linesFrom [] rest := by
  have hstep (c : Char) (front rest : List Char)
      (hpair : ∀ cs, c = '\r' → front = '\n' :: cs → False) (hsingle : ¬(c = '\r' ∧ front = [])) :
      ∀ cs, c = '\r' → front ++ '\n' :: rest = '\n' :: cs → False := by
    rintro cs rfl h
    cases front with
    | nil => exact hsingle ⟨rfl, rfl⟩
    | cons d front => exact hpair front rfl (by rw [(List.cons.inj h).1])
  induction current, front using linesFrom.induct with
  | case1 current => simp [linesFrom_newline, linesFrom]
  | case2 current hnonempty => simp [linesFrom_newline, linesFrom]
  | case3 current front ih => simp [linesFrom, ih]
  | case4 current c front hpair hboundary ih =>
    by_cases hsingle : c = '\r' ∧ front = []
    · obtain ⟨rfl, rfl⟩ := hsingle
      simp [linesFrom]
    · rw [List.cons_append, linesFrom_cons (hstep c front rest hpair hsingle), List.cons_append,
        linesFrom_cons (hstep c front [] hpair hsingle), if_pos hboundary, if_pos hboundary, ih]
      rfl
  | case5 current c front hpair hboundary ih =>
    have hsingle : ¬(c = '\r' ∧ front = []) := by
      rintro ⟨rfl, -⟩
      exact hboundary (by decide)
    rw [List.cons_append, linesFrom_cons (hstep c front rest hpair hsingle), List.cons_append,
      linesFrom_cons (hstep c front [] hpair hsingle), if_neg hboundary, if_neg hboundary, ih]

theorem linesFrom_append {line : List Char} (h : ∀ c ∈ line, isLineBoundary c = false)
    (current rest : List Char) :
    linesFrom current (line ++ rest) = linesFrom (line.reverse ++ current) rest := by
  induction line generalizing current with
  | nil => rfl
  | cons c line ih =>
    obtain ⟨hc, hline⟩ := List.forall_mem_cons.mp h
    have hpair : ∀ cs, c = '\r' → line ++ rest = '\n' :: cs → False := by
      rintro _ rfl
      exact absurd hc (by decide)
    rw [List.cons_append, linesFrom_cons hpair, hc, if_neg Bool.false_ne_true, ih hline,
      List.reverse_cons, List.append_assoc]
    rfl

theorem lines_append (h : Whole front) (rest : List Char) :
    lines (front ++ rest) = lines front ++ lines rest := by
  obtain rfl | ⟨start, rfl⟩ := h
  · rfl
  · rw [List.append_assoc]
    exact linesFrom_append_newline [] start rest

/-- The lines that make up a text are found in it. -/
theorem lines_joinChars (hblock : ∀ line ∈ block, IsLine line) (hback : Whole back.reverse) :
    ∃ after, lines (joinChars ['\n'] block ++ back) = block ++ after := by
  induction block with
  | nil => exact ⟨_, rfl⟩
  | cons line block ih =>
    obtain ⟨hline, hrest⟩ := List.forall_mem_cons.mp hblock
    by_cases h : block = []
    · subst h
      change ∃ after, linesFrom [] (line ++ back) = _
      rw [linesFrom_append hline.unbroken]
      obtain rfl | ⟨rest, rfl⟩ := Whole.reverse_iff.mp hback
      · exact ⟨[], by simp [linesFrom, hline.ne_nil]⟩
      · exact ⟨_, by rw [linesFrom_newline]; simp; rfl⟩
    · obtain ⟨after, hafter⟩ := ih hrest
      refine ⟨after, ?_⟩
      rw [joinChars_cons h, List.append_assoc, List.cons_append]
      change linesFrom [] (line ++ '\n' :: (joinChars ['\n'] block ++ back)) = _
      rw [linesFrom_append hline.unbroken, linesFrom_newline]
      simp only [List.append_nil, List.reverse_reverse, List.cons_append]
      exact congrArg (line :: ·) hafter

theorem Stands.isInfix (h : Stands block text) (hblock : ∀ line ∈ block, IsLine line) :
    block <:+: lines text := by
  obtain ⟨front, back, rfl, hfront, hback⟩ := h
  obtain ⟨after, hafter⟩ := lines_joinChars hblock hback
  rw [List.append_assoc, lines_append hfront, hafter]
  exact ⟨_, _, (List.append_assoc _ _ _)⟩

namespace Canonical

/-! ## Blank lines -/

theorem limitRuns_append_line (hline : IsLine line) (run : Nat) (rest : List Char) :
    limitRuns run (line ++ rest) = line ++ limitRuns 0 rest := by
  have hkept : ∀ (letters : List Char) (run : Nat), letters ≠ [] → (∀ c ∈ letters, c ≠ '\n') →
      limitRuns run (letters ++ rest) = letters ++ limitRuns 0 rest := by
    intro letters
    induction letters with
    | nil => exact fun _ h => absurd rfl h
    | cons c letters ih =>
      intro run _ h
      obtain ⟨hc, hletters⟩ := List.forall_mem_cons.mp h
      rw [List.cons_append, limitRuns, if_neg (by simpa using hc)]
      by_cases hnil : letters = []
      · rw [hnil]
        rfl
      · rw [ih 0 hnil hletters]
        rfl
  exact hkept line run hline.ne_nil hline.ne_newline

theorem limitRuns_append_block (hblock : ∀ line ∈ block, IsLine line) (hne : block ≠ [])
    (run : Nat) (rest : List Char) :
    limitRuns run (joinChars ['\n'] block ++ rest) =
      joinChars ['\n'] block ++ limitRuns 0 rest := by
  induction block generalizing run with
  | nil => exact absurd rfl hne
  | cons line block ih =>
    obtain ⟨hline, hrest⟩ := List.forall_mem_cons.mp hblock
    by_cases h : block = []
    · rw [h]
      exact limitRuns_append_line hline run rest
    · rw [joinChars_cons h, List.append_assoc, limitRuns_append_line hline, List.cons_append,
        limitRuns, if_pos (by decide), if_pos (by decide), ih hrest h]
      simp

/-- Runs before a block of lines do not reach into it. -/
theorem limitRuns_append (hblock : ∀ line ∈ block, IsLine line) (hne : block ≠ [])
    (run : Nat) (front back : List Char) :
    limitRuns run (front ++ joinChars ['\n'] block ++ back) =
      limitRuns run front ++ joinChars ['\n'] block ++ limitRuns 0 back := by
  rw [List.append_assoc]
  induction front generalizing run with
  | nil => simpa [limitRuns] using limitRuns_append_block hblock hne run back
  | cons c front ih =>
    simp only [List.cons_append, limitRuns]
    split
    · split
      · rw [ih]
        rfl
      · exact ih _
    · rw [ih]
      rfl

/-- What is left of a text that ends with a newline does so too; nothing is left only of newlines
in a run that is long enough already. -/
theorem limitRuns_concat_newline (run : Nat) (start : List Char) :
    (3 ≤ run ∧ limitRuns run (start ++ ['\n']) = []) ∨
      ∃ kept, limitRuns run (start ++ ['\n']) = kept ++ ['\n'] := by
  induction start generalizing run with
  | nil =>
    by_cases hrun : run < 3
    · exact .inr ⟨[], by simp [limitRuns, hrun]⟩
    · exact .inl ⟨Nat.not_lt.mp hrun, by simp [limitRuns, hrun]⟩
  | cons c start ih =>
    by_cases hc : c = '\n'
    · by_cases hrun : run < 3
      · obtain ⟨-, h⟩ | ⟨kept, h⟩ := ih (run + 1)
        · exact .inr ⟨[], by simp [limitRuns, hc, hrun, h]⟩
        · exact .inr ⟨c :: kept, by simp [limitRuns, hc, hrun, h]⟩
      · obtain ⟨-, h⟩ | ⟨kept, h⟩ := ih (run + 1)
        · exact .inl ⟨Nat.not_lt.mp hrun, by simp [limitRuns, hc, hrun, h]⟩
        · exact .inr ⟨kept, by simp [limitRuns, hc, hrun, h]⟩
    · obtain ⟨hrun, -⟩ | ⟨kept, h⟩ := ih 0
      · exact absurd hrun (by decide)
      · exact .inr ⟨c :: kept, by simp [limitRuns, hc, h]⟩

theorem whole_limitRuns (h : Whole front) : Whole (limitRuns 0 front) := by
  obtain rfl | ⟨start, rfl⟩ := h
  · exact .inl rfl
  · obtain ⟨hrun, -⟩ | ⟨kept, h⟩ := limitRuns_concat_newline 0 start
    · exact absurd hrun (by decide)
    · exact .inr ⟨kept, h⟩

theorem whole_limitRuns_reverse (h : Whole back.reverse) : Whole (limitRuns 0 back).reverse := by
  rw [Whole.reverse_iff] at h ⊢
  obtain rfl | ⟨rest, rfl⟩ := h
  · exact .inl rfl
  · exact .inr ⟨_, by rw [limitRuns, if_pos (by decide), if_pos (by decide)]⟩

theorem whole_dropWhile (h : Whole front) : Whole (front.dropWhile (· == '\n')) := by
  obtain rfl | ⟨start, rfl⟩ := h
  · exact .inl rfl
  · rw [List.dropWhile_append]
    split
    · exact .inl rfl
    · exact .inr ⟨_, rfl⟩

theorem dropWhile_append_of_head {letters : List Char} {c : Char} (hc : c ≠ '\n')
    (front : List Char) :
    (front ++ c :: letters).dropWhile (· == '\n') =
      front.dropWhile (· == '\n') ++ c :: letters := by
  rw [List.dropWhile_append]
  split
  · next h => rw [List.isEmpty_iff.mp h, List.dropWhile_cons_of_neg (by simpa using hc)]; rfl
  · rfl

theorem head_joinChars (hblock : ∀ line ∈ block, IsLine line) (hne : block ≠ []) :
    ∃ c letters, joinChars ['\n'] block = c :: letters ∧ c ≠ '\n' := by
  obtain ⟨line, block, rfl⟩ := List.exists_cons_of_ne_nil hne
  obtain ⟨hline, -⟩ := List.forall_mem_cons.mp hblock
  obtain ⟨c, letters, rfl⟩ := List.exists_cons_of_ne_nil hline.ne_nil
  refine ⟨c, ?_⟩
  have hc := hline.ne_newline c List.mem_cons_self
  by_cases h : block = []
  · exact ⟨letters, by rw [h]; rfl, hc⟩
  · exact ⟨_, joinChars_cons h, hc⟩

theorem last_joinChars (hblock : ∀ line ∈ block, IsLine line) (hne : block ≠ []) :
    ∃ c letters, (joinChars ['\n'] block).reverse = c :: letters ∧ c ≠ '\n' := by
  obtain ⟨front, line, rfl⟩ := List.eq_nil_or_concat block |>.resolve_left hne
  have hline : IsLine line := hblock line (by simp)
  obtain ⟨start, c, rfl, -⟩ := hline.closed
  refine ⟨c, (front.flatMap (· ++ ['\n']) ++ start).reverse, ?_, hline.ne_newline c (by simp)⟩
  rw [List.concat_eq_append, joinChars_concat, ← List.append_assoc, List.reverse_append]
  rfl

/-- Trimming a text that holds a block of lines trims what stands before and after it. -/
theorem trimNewlines_append (hblock : ∀ line ∈ block, IsLine line) (hne : block ≠ [])
    (front back : List Char) :
    trimNewlines (front ++ joinChars ['\n'] block ++ back) =
      front.dropWhile (· == '\n') ++ joinChars ['\n'] block ++
        (back.reverse.dropWhile (· == '\n')).reverse := by
  obtain ⟨first, letters, hfirst, hfirstNe⟩ := head_joinChars hblock hne
  obtain ⟨last, reversed, hlast, hlastNe⟩ := last_joinChars hblock hne
  have hfront : (front ++ joinChars ['\n'] block ++ back).dropWhile (· == '\n') =
      front.dropWhile (· == '\n') ++ joinChars ['\n'] block ++ back := by
    rw [hfirst, List.append_assoc, List.cons_append, dropWhile_append_of_head hfirstNe,
      List.append_assoc, List.cons_append]
  unfold trimNewlines dropEndWhile
  rw [hfront, List.reverse_append, List.reverse_append, hlast, List.cons_append,
    dropWhile_append_of_head hlastNe, ← List.cons_append, ← hlast]
  simp

/-- Canonical form keeps the lines of a block where they are, one under the other. -/
theorem isInfix_normalize (hblock : ∀ line ∈ block, IsLine line) (hne : block ≠ [])
    (h : block <:+: lines text) : block <:+: lines (normalize text) := by
  obtain ⟨before, after, hlines⟩ := h
  have htrimmed : (lines text).map trimEnd =
      before.map trimEnd ++ block ++ after.map trimEnd := by
    have hsame : block.map trimEnd = block :=
      (List.map_congr_left fun line hline => (hblock line hline).trimEnd_eq).trans
        (List.map_id block)
    rw [← hlines, List.map_append, List.map_append, hsame]
  obtain ⟨front, back, hjoin, hfront, hback⟩ :=
    stands_joinChars hne (before.map trimEnd) (after.map trimEnd)
  have htail := whole_dropWhile (whole_limitRuns_reverse hback)
  have hstands : Stands block (normalize text) := by
    refine ⟨_, _, ?_, whole_dropWhile (whole_limitRuns hfront), htail.cons_newline⟩
    unfold normalize
    rw [htrimmed, hjoin, limitRuns_append hblock hne, trimNewlines_append hblock hne,
      List.append_assoc]
  exact hstands.isInfix hblock

end Canonical

end Registrar
