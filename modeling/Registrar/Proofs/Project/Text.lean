import Mathlib.Tactic.Common
import Registrar.Project.Work

/-! # The text of the container module

A container module has no line end but the newline, so that its text survives
being written to a file and read back with all line ends made newlines.
-/

namespace Registrar

theorem unifyLineEnds_of_not_mem {text : List Char} (h : '\r' ∉ text) :
    unifyLineEnds text = text := by
  induction text with
  | nil => rfl
  | cons c text ih =>
    rw [List.mem_cons, not_or] at h
    unfold unifyLineEnds
    split
    next heq => cases heq
    next heq => exact absurd (List.cons.inj heq).1.symm h.1
    next heq => exact absurd (List.cons.inj heq).1.symm h.1
    next heq =>
      obtain ⟨rfl, rfl⟩ := List.cons.inj heq
      rw [ih h.2]

theorem fromUTF8?_toUTF8 (text : String) : String.fromUTF8? text.toUTF8 = some text := by
  unfold String.fromUTF8?
  rw [dif_pos (show text.toUTF8.IsValidUTF8 from text.isValidUTF8)]
  rfl

/-- A text without carriage returns is read back as it was written. -/
theorem Work.decode?_toUTF8 {text : String} (h : '\r' ∉ text.toList) :
    Work.decode? text.toUTF8 = some text := by
  unfold Work.decode?
  rw [fromUTF8?_toUTF8, Option.map_some, unifyLineEnds_of_not_mem h, String.ofList_toList]

namespace Canonical

/-- No line boundary is in a line. -/
theorem not_mem_linesFrom {d : Char} (hd : isLineBoundary d = true) {line text : List Char}
    (hline : d ∉ line) : ∀ found ∈ linesFrom line text, d ∉ found := by
  induction line, text using linesFrom.induct with
  | case1 line hempty => simp [linesFrom, hempty]
  | case2 line hempty => simpa [linesFrom, hempty] using hline
  | case3 line text ih =>
    simp only [linesFrom, List.mem_cons, forall_eq_or_imp, List.mem_reverse]
    exact ⟨hline, ih (by simp)⟩
  | case4 line c text hreturn hboundary ih =>
    rw [linesFrom.eq_3 _ _ _ hreturn, if_pos hboundary]
    simp only [List.mem_cons, forall_eq_or_imp, List.mem_reverse]
    exact ⟨hline, ih (by simp)⟩
  | case5 line c text hreturn hboundary ih =>
    rw [linesFrom.eq_3 _ _ _ hreturn, if_neg hboundary]
    refine ih fun hmem => ?_
    rcases List.mem_cons.mp hmem with rfl | hmem
    · exact hboundary hd
    · exact hline hmem

theorem mem_of_mem_dropEndWhile {p : Char → Bool} {text : List Char} {c : Char}
    (h : c ∈ dropEndWhile p text) : c ∈ text := by
  have hmem := (List.dropWhile_sublist p).mem (List.mem_reverse.mp h)
  exact List.mem_reverse.mp hmem

theorem mem_of_mem_limitRuns {run : Nat} {text : List Char} {c : Char}
    (h : c ∈ limitRuns run text) : c ∈ text := by
  induction text generalizing run with
  | nil => exact h
  | cons first text ih =>
    unfold limitRuns at h
    split at h
    · split at h
      · rcases List.mem_cons.mp h with rfl | h
        · exact List.mem_cons_self
        · exact List.mem_cons_of_mem _ (ih h)
      · exact List.mem_cons_of_mem _ (ih h)
    · rcases List.mem_cons.mp h with rfl | h
      · exact List.mem_cons_self
      · exact List.mem_cons_of_mem _ (ih h)

theorem not_mem_joinChars {separator : List Char} {texts : List (List Char)} {c : Char}
    (hseparator : c ∉ separator) (h : ∀ text ∈ texts, c ∉ text) :
    c ∉ joinChars separator texts := by
  induction texts with
  | nil => simp [joinChars]
  | cons text texts ih =>
    have hrest := ih fun text htext => h text (List.mem_cons_of_mem _ htext)
    have htext := h text (by simp)
    cases texts with
    | nil => exact htext
    | cons next texts =>
      simp only [joinChars, List.mem_append, not_or]
      exact ⟨⟨htext, hseparator⟩, hrest⟩

/-- Canonical source has no line end but the newline. -/
theorem not_mem_normalize (text : List Char) : '\r' ∉ normalize text := by
  unfold normalize trimNewlines lines
  rw [List.mem_append, not_or]
  refine ⟨fun hmem => ?_, by simp⟩
  have hmem := mem_of_mem_limitRuns ((List.dropWhile_sublist _).mem (mem_of_mem_dropEndWhile hmem))
  refine not_mem_joinChars (by decide) (fun line hline hmem => ?_) hmem
  obtain ⟨found, hfound, rfl⟩ := List.mem_map.mp hline
  exact not_mem_linesFrom (by decide) List.not_mem_nil found hfound (mem_of_mem_dropEndWhile hmem)

end Canonical

/-- A rendered container module is read back as it was rendered. -/
theorem Catalogue.decode?_of_render {runtimeModule : String} {directory : List String}
    {files : List FileExports} {text : String}
    (h : (render runtimeModule directory files).2 = .ok text) :
    Work.decode? text.toUTF8 = some text := by
  refine Work.decode?_toUTF8 ?_
  unfold render at h
  split at h
  · cases h
  · split at h
    · cases h
    · dsimp only at h
      split at h
      next source hsource =>
        cases h
        unfold Canonical.ofSource? at hsource
        obtain ⟨module, -, rfl⟩ := Option.map_eq_some_iff.mp hsource
        rw [String.toList_ofList]
        exact Canonical.not_mem_normalize _
      next => cases h

end Registrar
