import Mathlib.Tactic.Common
import Registrar.Selection.Segments

/-! # Parts of patterns

A pattern in two halves matches a path in two halves. A double star matches any
names that are not hidden, and every other part one name.
-/

namespace Registrar.Segments

variable {parts more names : List String} {part : String} {p : List String → Bool}

theorem anyAfterVisible_iff :
    anyAfterVisible p names = true ↔ ∃ before after, names = before ++ after ∧
      (∀ name ∈ before, isHidden name = false) ∧ p after = true := by
  induction names with
  | nil =>
    unfold anyAfterVisible
    constructor
    · exact fun h => ⟨[], [], rfl, nofun, h⟩
    · rintro ⟨before, after, hnames, -, hafter⟩
      rw [(List.append_eq_nil_iff.mp hnames.symm).2] at hafter
      exact hafter
  | cons name names ih =>
    unfold anyAfterVisible
    rw [Bool.or_eq_true, Bool.and_eq_true, ih]
    constructor
    · rintro (h | ⟨hvisible, before, after, rfl, hbefore, hafter⟩)
      · exact ⟨[], name :: names, rfl, nofun, h⟩
      · refine ⟨name :: before, after, rfl, ?_, hafter⟩
        rw [List.forall_mem_cons]
        exact ⟨by simpa using hvisible, hbefore⟩
    · rintro ⟨before, after, hnames, hbefore, hafter⟩
      cases before with
      | nil =>
        rw [List.nil_append] at hnames
        rw [hnames]
        exact .inl hafter
      | cons first before =>
        rw [List.cons_append] at hnames
        obtain ⟨rfl, rfl⟩ := List.cons.inj hnames
        rw [List.forall_mem_cons] at hbefore
        exact .inr ⟨by simp [hbefore.1], before, after, rfl, hbefore.2, hafter⟩

theorem accepts_cons :
    accepts (part :: parts) names =
      if part == spanning then anyAfterVisible (accepts parts) names
      else match names with
        | [] => false
        | name :: names => partMatches part name && accepts parts names :=
  accepts.eq_def (part :: parts) names

theorem accepts_spanning :
    accepts (spanning :: parts) names = true ↔ ∃ before after, names = before ++ after ∧
      (∀ name ∈ before, isHidden name = false) ∧ accepts parts after = true := by
  rw [accepts_cons, if_pos (by rfl), anyAfterVisible_iff]

theorem accepts_part (hpart : part ≠ spanning) :
    accepts (part :: parts) names = true ↔ ∃ name rest, names = name :: rest ∧
      partMatches part name = true ∧ accepts parts rest = true := by
  rw [accepts_cons, if_neg (by simpa using hpart)]
  cases names with
  | nil => simp
  | cons name names =>
    rw [Bool.and_eq_true]
    constructor
    · exact fun h => ⟨name, names, rfl, h⟩
    · rintro ⟨_, _, hnames, h⟩
      cases hnames
      exact h

/-- A pattern in two halves matches a path in two halves. -/
theorem accepts_append :
    accepts (parts ++ more) names = true ↔ ∃ before after, names = before ++ after ∧
      accepts parts before = true ∧ accepts more after = true := by
  induction parts generalizing names with
  | nil =>
    constructor
    · exact fun h => ⟨[], names, rfl, rfl, h⟩
    · rintro ⟨before, after, rfl, hbefore, hafter⟩
      rw [accepts, List.isEmpty_iff] at hbefore
      rw [hbefore]
      exact hafter
  | cons part parts ih =>
    rw [List.cons_append]
    by_cases hpart : part = spanning
    · subst part
      simp only [accepts_spanning, ih]
      constructor
      · rintro ⟨visible, _, rfl, hvisible, before, after, rfl, hbefore, hafter⟩
        exact ⟨visible ++ before, after, by simp, ⟨visible, before, rfl, hvisible, hbefore⟩, hafter⟩
      · rintro ⟨_, after, rfl, ⟨visible, before, rfl, hvisible, hbefore⟩, hafter⟩
        exact ⟨visible, before ++ after, by simp, hvisible, before, after, rfl, hbefore, hafter⟩
    · simp only [accepts_part hpart, ih]
      constructor
      · rintro ⟨name, _, rfl, hname, before, after, rfl, hbefore, hafter⟩
        exact ⟨name :: before, after, rfl, ⟨name, before, rfl, hname, hbefore⟩, hafter⟩
      · rintro ⟨_, after, rfl, ⟨name, before, rfl, hname, hbefore⟩, hafter⟩
        exact ⟨name, before ++ after, rfl, hname, before, after, rfl, hbefore, hafter⟩

theorem accepts_lone_spanning :
    accepts [spanning] names = true ↔ ∀ name ∈ names, isHidden name = false := by
  rw [accepts_spanning]
  constructor
  · rintro ⟨before, after, rfl, hbefore, hafter⟩
    rw [accepts, List.isEmpty_iff] at hafter
    rw [hafter, List.append_nil]
    exact hbefore
  · exact fun h => ⟨names, [], by simp, h, rfl⟩

theorem accepts_lone_part (hpart : part ≠ spanning) :
    accepts [part] names = true ↔ ∃ name, names = [name] ∧ partMatches part name = true := by
  rw [accepts_part hpart]
  constructor
  · rintro ⟨name, rest, rfl, hname, hrest⟩
    rw [accepts, List.isEmpty_iff] at hrest
    exact ⟨name, by rw [hrest], hname⟩
  · rintro ⟨name, rfl, hname⟩
    exact ⟨name, [], rfl, hname, rfl⟩

/-- Parts without wildcards match themselves. -/
theorem accepts_literal (h : ∀ part ∈ parts, hasWildcard part = false) :
    accepts parts names = true ↔ names = parts := by
  induction parts generalizing names with
  | nil => rw [accepts, List.isEmpty_iff]
  | cons part parts ih =>
    rw [List.forall_mem_cons] at h
    have hpart : part ≠ spanning := by
      rintro rfl
      exact absurd h.1 (by decide)
    rw [accepts_part hpart]
    constructor
    · rintro ⟨name, rest, rfl, hname, hrest⟩
      unfold partMatches at hname
      rw [h.1] at hname
      rw [(ih h.2).mp hrest, eq_of_beq hname]
    · rintro rfl
      refine ⟨part, parts, rfl, ?_, (ih h.2).mpr rfl⟩
      unfold partMatches
      rw [h.1]
      exact beq_self_eq_true part

/-- The parts of a pattern match the names of a path, and the last part takes a name. -/
def Fills (parts names : List String) : Prop :=
  ∃ front part before after, parts = front ++ [part] ∧ names = before ++ after ∧ after ≠ [] ∧
    accepts front before = true ∧ accepts [part] after = true

theorem fills_literal (h : ∀ part ∈ parts ++ more, hasWildcard part = false) (hmore : more = [part]) :
    Fills (parts ++ more) (parts ++ more) := by
  subst more
  refine ⟨parts, part, parts, [part], rfl, rfl, List.cons_ne_nil _ _, ?_, ?_⟩
  · exact (accepts_literal fun other hother => h other (List.mem_append_left _ hother)).mpr rfl
  · exact (accepts_literal fun other hother => h other (List.mem_append_right _ hother)).mpr rfl

end Registrar.Segments
