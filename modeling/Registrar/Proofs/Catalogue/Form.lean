import Registrar.Proofs.Catalogue.Normal
import Registrar.Proofs.Catalogue.Tidy

/-! # Canonical form

What text is in canonical form: only newlines end its lines, no line ends in white space, at most two
blank lines stand in a row, and there is one newline at the end and none in front. Putting a text into
canonical form makes it so, and changes nothing about a text that is.
-/

namespace Registrar

open Source

variable {line : List Char} {block : List (List Char)} {blanks : Nat}

theorem IsLine.isVisible (h : IsLine line) : Source.isVisible line = true := by
  obtain ⟨start, c, rfl, hc⟩ := h.closed
  simp [Source.isVisible, hc]

namespace Tidy

theorem mem (h : Tidy blanks block) : ∀ line ∈ block, line = [] ∨ IsLine line := by
  induction h with
  | last hline => exact List.forall_mem_singleton.mpr (.inr hline)
  | line hline _ ih => exact List.forall_mem_cons.mpr ⟨.inr hline, ih⟩
  | blank _ _ ih => exact List.forall_mem_cons.mpr ⟨.inl rfl, ih⟩

/-- The newline behind tidy lines ends the last of them. -/
theorem lines_concat (h : Tidy blanks block) :
    lines (joinChars ['\n'] block ++ ['\n']) = block := by
  unfold lines
  induction h with
  | last hline =>
    rw [joinChars, linesFrom_append hline.unbroken, linesFrom_newline]
    simp [linesFrom]
  | line hline hmore ih =>
    rw [joinChars_cons hmore.ne_nil, List.append_assoc, linesFrom_append hline.unbroken,
      List.cons_append, linesFrom_newline, ih]
    simp
  | blank _ hmore ih =>
    rw [joinChars_cons hmore.ne_nil, List.nil_append, List.cons_append, linesFrom_newline, ih]
    rfl

theorem normalize_concat (h : Tidy 2 block) :
    Canonical.normalize (joinChars ['\n'] block ++ ['\n']) = joinChars ['\n'] block ++ ['\n'] := by
  rw [Canonical.normalize_eq_tidyLines, h.lines_concat, ← h.lines_eq,
    ← Canonical.normalize_eq_tidyLines, h.lines_eq, h.normalize_eq]

/-- Blank lines at the top of tidy lines go with those before them. -/
theorem length_of_prefix (h : Tidy blanks block) {top : List (List Char)} (htop : top <+: block)
    (hblank : top.any Source.isVisible = false) : top.length + blanks ≤ 2 ∨ top = [] := by
  induction h generalizing top with
  | last hline | line hline _ _ =>
    cases top with
    | nil => exact .inr rfl
    | cons first top =>
      obtain ⟨rfl, -⟩ := List.cons_prefix_cons.mp htop
      simp [hline.isVisible] at hblank
  | blank hblanks _ ih =>
    cases top with
    | nil => exact .inr rfl
    | cons first top =>
      obtain ⟨rfl, hbelow⟩ := List.cons_prefix_cons.mp htop
      have hrest : top.any Source.isVisible = false := by simpa [Source.isVisible] using hblank
      left
      rw [List.length_cons]
      obtain hlength | rfl := ih hbelow hrest
      · omega
      · rw [List.length_nil]
        omega

/-- Of three tidy lines in a row something is to be seen. -/
theorem any_of_infix (h : Tidy blanks block) {row : List (List Char)} (hrow : row <:+: block)
    (hlength : 2 < row.length) : row.any Source.isVisible = true := by
  rw [← Bool.not_eq_false]
  intro hblank
  have hshort {blanks : Nat} {block : List (List Char)} (h : Tidy blanks block)
      (hrow : row <+: block) : False := by
    obtain hbound | rfl := h.length_of_prefix hrow hblank
    · omega
    · cases hlength
  induction h with
  | last hline =>
    obtain htop | hbelow := List.infix_cons_iff.mp hrow
    · exact hshort (.last hline : Tidy 0 _) htop
    · rw [List.infix_nil.mp hbelow] at hlength
      cases hlength
  | line hline hmore ih =>
    obtain htop | hbelow := List.infix_cons_iff.mp hrow
    · exact hshort (.line hline hmore : Tidy 0 _) htop
    · exact ih hbelow
  | blank hblanks hmore ih =>
    obtain htop | hbelow := List.infix_cons_iff.mp hrow
    · exact hshort (.blank hblanks hmore) htop
    · exact ih hbelow

/-- Lines are tidy if each of them is empty or a line, the last one is a line, and blank ones are
few. -/
theorem of_few (hlines : ∀ line ∈ block, line = [] ∨ IsLine line)
    (hlast : ∃ line, block.getLast? = some line ∧ IsLine line)
    (htop : ∀ count, List.replicate count [] <+: block → count = 0 ∨ count + blanks ≤ 2)
    (hrows : ∀ row, row <:+: block → 2 < row.length → row.any Source.isVisible = true) :
    Tidy blanks block := by
  induction block generalizing blanks with
  | nil => simp at hlast
  | cons line block ih =>
    obtain ⟨hline, hmore⟩ := List.forall_mem_cons.mp hlines
    by_cases hnil : block = []
    · subst hnil
      obtain ⟨last, hsame, hwhole⟩ := hlast
      obtain rfl := Option.some.inj hsame
      exact .last hwhole
    · have hbelow (row : List (List Char)) (hrow : row <:+: block) := hrows row (List.infix_cons hrow)
      rw [List.getLast?_cons_of_ne_nil hnil] at hlast
      obtain rfl | hwhole := hline
      · have hfirst := htop 1 (List.cons_prefix_cons.mpr ⟨rfl, List.nil_prefix⟩)
        refine .blank (by omega) (ih hmore hlast (fun count hcount => ?_) hbelow)
        have hlonger := htop (count + 1) (List.cons_prefix_cons.mpr ⟨rfl, hcount⟩)
        omega
      · refine .line hwhole (ih hmore hlast (fun count hcount => ?_) hbelow)
        refine .inr (Nat.not_lt.mp fun hmany => ?_)
        have hseen := hbelow _ hcount.isInfix (by rwa [List.length_replicate])
        simp [Source.isVisible] at hseen

end Tidy

namespace Canonical

/-! ## What is in canonical form -/

/-- A text is in canonical form. -/
structure Form (text : List Char) : Prop where
  /-- Only newlines end lines. -/
  plain : ∀ c ∈ text, isLineBoundary c = true → c = '\n'
  /-- No line ends in white space. -/
  trimmed : ∀ line ∈ lines text, ∀ c, line.getLast? = some c → isBlank c = false
  /-- Of more than two lines in a row something is to be seen. -/
  spaced : ∀ row, row <:+: lines text → 2 < row.length → row.any isVisible = true
  /-- There is one newline at the end. -/
  ended : ∃ body, text = body ++ ['\n'] ∧ body.getLast? ≠ some '\n'
  /-- The first line is not blank, unless the text is a newline. -/
  opened : text = ['\n'] ∨ ∃ line, (lines text).head? = some line ∧ isVisible line = true

theorem lines_newline : lines ['\n'] = [[]] := by decide

theorem form_newline : Form ['\n'] where
  plain := by simp
  trimmed line hline := by
    rw [lines_newline, List.mem_singleton] at hline
    subst hline
    exact nofun
  spaced row hrow hlength := by
    have hbound := hrow.length_le
    rw [lines_newline, List.length_singleton] at hbound
    omega
  ended := ⟨[], rfl, by simp⟩
  opened := .inl rfl

/-- Tidy lines are in canonical form. -/
theorem form_of_tidy (h : Tidy 2 block) : Form (joinChars ['\n'] block ++ ['\n']) where
  plain c hc hboundary := by
    refine Decidable.byContradiction fun hne => ?_
    have hjoined : c ∈ joinChars ['\n'] block := by simpa [hne] using hc
    refine not_mem_joinChars (by simpa using hne) (fun line hline hmem => ?_) hjoined
    obtain rfl | hwhole := h.mem line hline
    · cases hmem
    · rw [hwhole.unbroken c hmem] at hboundary
      cases hboundary
  trimmed line hline c hlast := by
    rw [h.lines_concat] at hline
    obtain rfl | hwhole := h.mem line hline
    · cases hlast
    · obtain ⟨start, d, rfl, hd⟩ := hwhole.closed
      rw [List.getLast?_concat] at hlast
      exact Option.some.inj hlast ▸ hd
  spaced row hrow hlength := by
    rw [h.lines_concat] at hrow
    exact h.any_of_infix hrow hlength
  ended := by
    obtain ⟨start, c, hstart, hc⟩ := h.last_eq
    exact ⟨_, rfl, by simpa [hstart] using hc⟩
  opened := by
    rw [h.lines_concat]
    cases h with
    | last hline | line hline => exact .inr ⟨_, rfl, hline.isVisible⟩
    | blank hblanks => exact absurd hblanks (by decide)

/-! ## Putting a text into canonical form -/

theorem tidyLines_long {run : Nat} (hrun : 3 ≤ run) (block : List (List Char)) :
    tidyLines run block = tidyLines 3 block := by
  unfold tidyLines
  rw [limitRuns_long hrun]

/-- Lines of which something is to be seen become tidy lines. -/
theorem exists_tidy (hblock : ∀ line ∈ block, ∀ c ∈ line, isLineBoundary c = false)
    (hvisible : block.any isVisible = true) (hblanks : blanks ≤ 2) :
    ∃ tidied, Tidy blanks tidied ∧
      tidyLines (blanks + 1) block = joinChars ['\n'] tidied ++ ['\n'] := by
  induction block generalizing blanks with
  | nil => cases hvisible
  | cons line block ih =>
    obtain ⟨hline, hmore⟩ := List.forall_mem_cons.mp hblock
    cases hseen : isVisible line with
    | true =>
      have htrimmed := isLine_trimEnd hline hseen
      rw [tidyLines_line _ htrimmed]
      cases hbelow : block.any isVisible with
      | true =>
        obtain ⟨tidied, htidied, hjoin⟩ := ih hmore hbelow (Nat.zero_le 2)
        refine ⟨trimEnd line :: tidied, .line htrimmed htidied, ?_⟩
        rw [if_pos rfl, hjoin, joinChars_cons htidied.ne_nil]
        simp
      | false => exact ⟨[trimEnd line], .last htrimmed, rfl⟩
    | false =>
      have hbelow : block.any isVisible = true := by simpa [hseen] using hvisible
      rw [tidyLines_blank _ hseen hbelow]
      by_cases hfew : blanks < 2
      · obtain ⟨tidied, htidied, hjoin⟩ := ih hmore hbelow (Nat.succ_le_of_lt hfew)
        refine ⟨[] :: tidied, .blank hfew htidied, ?_⟩
        rw [if_pos (by omega), hjoin, joinChars_cons htidied.ne_nil]
        rfl
      · obtain rfl : blanks = 2 := by omega
        rw [if_neg (by decide), tidyLines_long (by decide)]
        exact ih hmore hbelow hblanks

/-- Canonical text is a newline, or tidy lines. -/
theorem normalize_tidy (text : List Char) : normalize text = ['\n'] ∨
    ∃ tidied, Tidy 2 tidied ∧ normalize text = joinChars ['\n'] tidied ++ ['\n'] := by
  rw [normalize_eq_tidyLines]
  cases hvisible : (lines text).any isVisible with
  | true =>
    refine .inr (exists_tidy (fun line hline c hc => ?_) hvisible (Nat.le_refl 2))
    rw [← Bool.not_eq_true]
    exact fun hboundary => not_mem_linesFrom hboundary List.not_mem_nil line hline hc
  | false =>
    have hnone := dropEndWhile_all [] (forall_of_invisible 3 hvisible)
    rw [List.nil_append] at hnone
    unfold tidyLines
    rw [hnone]
    exact .inl rfl

theorem form_normalize (text : List Char) : Form (normalize text) := by
  obtain hnewline | ⟨tidied, htidied, hjoin⟩ := normalize_tidy text
  · rw [hnewline]
    exact form_newline
  · rw [hjoin]
    exact form_of_tidy htidied

/-! ## Texts that stay as they are -/

/-- A text in canonical form is a newline, or tidy lines. -/
theorem Form.tidy {text : List Char} (h : Form text) : text = ['\n'] ∨
    Tidy 2 (lines text) ∧ text = joinChars ['\n'] (lines text) ++ ['\n'] := by
  refine or_iff_not_imp_left.mpr fun hne => ?_
  obtain ⟨body, hbody, hended⟩ := h.ended
  have hspelled : (lines text).flatMap (· ++ ['\n']) = text := by
    refine (flatMap_linesFrom h.plain [] (.inr (by simp [hbody]))).trans ?_
    simp [Lexer.endLine, hbody]
  obtain hnil | ⟨front, last, hlast⟩ := List.eq_nil_or_concat' (lines text)
  · rw [hnil, hbody] at hspelled
    simp at hspelled
  have hjoin : joinChars ['\n'] (lines text) = body := by
    rw [hlast, List.flatMap_append, hbody] at hspelled
    rw [hlast, joinChars_concat]
    simpa [← List.append_assoc] using hspelled
  have hlines : ∀ line ∈ lines text, line = [] ∨ IsLine line := by
    intro line hline
    obtain hnil | ⟨start, c, hconcat⟩ := List.eq_nil_or_concat' line
    · exact .inl hnil
    · refine .inr ⟨fun d hd => ?_, start, c, hconcat, h.trimmed line hline c (by simp [hconcat])⟩
      rw [← Bool.not_eq_true]
      exact fun hboundary => not_mem_linesFrom hboundary List.not_mem_nil line hline hd
  refine ⟨.of_few hlines ⟨last, by simp [hlast], ?_⟩ (fun count hcount => ?_) h.spaced,
    by rw [hjoin, hbody]⟩
  · refine (hlines last (by simp [hlast])).resolve_left ?_
    rintro rfl
    rw [hlast, joinChars_concat, List.append_nil] at hjoin
    obtain rfl | ⟨above, line, rfl⟩ := List.eq_nil_or_concat' front
    · exact hne (by rw [hbody, ← hjoin]; rfl)
    · simp [← hjoin] at hended
  · cases count with
    | zero => exact .inl rfl
    | succ count =>
      obtain ⟨line, hhead, hseen⟩ := h.opened.resolve_left hne
      obtain ⟨below, hbelow⟩ := List.head?_eq_some_iff.mp hhead
      rw [hbelow] at hcount
      obtain ⟨rfl, -⟩ := List.cons_prefix_cons.mp hcount
      cases hseen

/-- The texts in canonical form are those that stay as they are. -/
theorem normalize_eq_self_iff {text : List Char} : normalize text = text ↔ Form text := by
  refine ⟨fun h => h ▸ form_normalize text, fun h => ?_⟩
  obtain rfl | ⟨htidy, hjoin⟩ := h.tidy
  · rfl
  · rw [hjoin, htidy.normalize_concat]

/-- The canonical spelling of a module is in canonical form, and if it is a module itself, it is its own
canonical spelling. -/
theorem ofSource?_form {source text : String} (h : ofSource? source = some text) :
    Form text.toList ∧ ∀ again, ofSource? text = some again → again = text := by
  obtain ⟨body, -, rfl⟩ := Option.map_eq_some_iff.mp h
  have hform := form_normalize source.toList
  rw [String.toList_ofList]
  refine ⟨hform, fun again hagain => ?_⟩
  obtain ⟨other, -, rfl⟩ := Option.map_eq_some_iff.mp hagain
  rw [String.toList_ofList, normalize_eq_self_iff.mpr hform]

/-- A source with blank lines in front of it and behind it, and with too many in between. -/
def blanksAround : String := "\n\nx = 1   \n\n \n\n\ny = 2\x0c\n\n\n"

theorem blanksAround_form : ∃ text, ofSource? blanksAround = some text ∧
    text = "x = 1\n\n\ny = 2\n" ∧ Form text.toList ∧ ofSource? text = some text := by
  have hspelled : ofSource? blanksAround = some "x = 1\n\n\ny = 2\n" := by decide +kernel
  have haccepted : (ofSource? "x = 1\n\n\ny = 2\n").isSome = true := by decide +kernel
  generalize htext : "x = 1\n\n\ny = 2\n" = text at hspelled haccepted
  obtain ⟨hform, hagain⟩ := ofSource?_form hspelled
  obtain ⟨again, hsome⟩ := Option.isSome_iff_exists.mp haccepted
  refine ⟨text, hspelled, rfl, hform, ?_⟩
  rw [hsome, hagain again hsome]

end Canonical

end Registrar
