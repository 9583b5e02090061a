import Mathlib.Data.List.Chain
import Mathlib.Data.List.Forall2
import Registrar.Proofs.Selection.Segments

/-! # Cutting paths along patterns

A pattern matches a path exactly if the path can be cut into pieces, one for each part of the
pattern: names that are not hidden for a double star, and one name that fits for every other part.
The matcher tries one cut after another, and comes to an answer about every pattern and path. Double
stars side by side take what one of them takes.
-/

namespace Registrar.Segments

variable {parts names piece : List String} {part name : String} {answer : Bool}

/-! ## Pieces -/

/-- A part of a pattern takes a piece of a path. -/
inductive Takes : String → List String → Prop
  | spanning {piece : List String} : (∀ name ∈ piece, isHidden name = false) → Takes spanning piece
  | literal {part : String} : hasWildcard part = false → Takes part [part]
  /-- Wildcards take a hidden name only after a point. -/
  | wildcard {part name : String} : part ≠ Segments.spanning → hasWildcard part = true →
      (isHidden name = true → isHidden part = true) → wildcardMatches part name = true →
      Takes part [name]

theorem takes_spanning : Takes spanning piece ↔ ∀ name ∈ piece, isHidden name = false := by
  constructor
  · rintro (h | h | h)
    · exact h
    · exact absurd h (by decide)
    · exact absurd rfl h
  · exact .spanning

theorem partMatches_literal (h : hasWildcard part = false) :
    partMatches part name = true ↔ name = part := by
  unfold partMatches
  rw [h]
  exact beq_iff_eq.trans eq_comm

theorem partMatches_wildcard (h : hasWildcard part = true) :
    partMatches part name = true ↔
      (isHidden name = true → isHidden part = true) ∧ wildcardMatches part name = true := by
  unfold partMatches
  rw [h]
  cases isHidden name <;> cases isHidden part <;> simp

theorem takes_part (hpart : part ≠ spanning) :
    Takes part piece ↔ ∃ name, piece = [name] ∧ partMatches part name = true := by
  constructor
  · rintro (h | h | ⟨-, h, hhidden, hmatches⟩)
    · exact absurd rfl hpart
    · exact ⟨part, rfl, (partMatches_literal h).mpr rfl⟩
    · exact ⟨_, rfl, (partMatches_wildcard h).mpr ⟨hhidden, hmatches⟩⟩
  · rintro ⟨name, rfl, hname⟩
    cases h : hasWildcard part with
    | false =>
      rw [(partMatches_literal h).mp hname]
      exact .literal h
    | true =>
      obtain ⟨hhidden, hmatches⟩ := (partMatches_wildcard h).mp hname
      exact .wildcard hpart h hhidden hmatches

/-- What a part takes stands in front of what the rest of a pattern matches. -/
theorem accepts_cons_iff : accepts (part :: parts) names = true ↔
    ∃ piece rest, names = piece ++ rest ∧ Takes part piece ∧ accepts parts rest = true := by
  by_cases hpart : part = spanning
  · subst hpart
    simp only [accepts_spanning, takes_spanning]
  · simp only [accepts_part hpart, takes_part hpart]
    constructor
    · rintro ⟨name, rest, rfl, hname, hrest⟩
      exact ⟨[name], rest, rfl, ⟨name, rfl, hname⟩, hrest⟩
    · rintro ⟨_, rest, rfl, ⟨name, rfl, hname⟩, hrest⟩
      exact ⟨name, rest, rfl, hname, hrest⟩

/-- A pattern matches what can be cut into pieces that its parts take, one after another. -/
theorem accepts_iff_forall₂ : accepts parts names = true ↔
    ∃ pieces : List (List String), pieces.flatten = names ∧ List.Forall₂ Takes parts pieces := by
  induction parts generalizing names with
  | nil =>
    rw [accepts, List.isEmpty_iff]
    constructor
    · rintro rfl
      exact ⟨[], rfl, .nil⟩
    · rintro ⟨_, rfl, ⟨⟩⟩
      rfl
  | cons part parts ih =>
    simp only [accepts_cons_iff, ih]
    constructor
    · rintro ⟨piece, _, rfl, hpiece, pieces, rfl, hpieces⟩
      exact ⟨piece :: pieces, rfl, .cons hpiece hpieces⟩
    · rintro ⟨_, rfl, hall⟩
      obtain ⟨piece, pieces, hpiece, hpieces, rfl⟩ := List.forall₂_cons_left_iff.mp hall
      exact ⟨piece, pieces.flatten, rfl, hpiece, pieces, rfl, hpieces⟩

/-! ## Answers -/

/-- The matcher comes to an answer about a pattern and a path. At a double star it first asks about
the rest of the pattern, and then goes on behind a name that is not hidden. -/
inductive Answers : List String → List String → Bool → Prop
  | done (names : List String) : Answers [] names names.isEmpty
  | stops {parts names : List String} : Answers parts names true →
      Answers (spanning :: parts) names true
  | ends {parts : List String} : Answers parts [] false → Answers (spanning :: parts) [] false
  | hides {parts names : List String} {name : String} : Answers parts (name :: names) false →
      isHidden name = true → Answers (spanning :: parts) (name :: names) false
  | passes {parts names : List String} {name : String} {answer : Bool} :
      Answers parts (name :: names) false → isHidden name = false →
      Answers (spanning :: parts) names answer → Answers (spanning :: parts) (name :: names) answer
  | lacks {parts : List String} {part : String} : part ≠ spanning → Answers (part :: parts) [] false
  | differs {parts names : List String} {part name : String} : part ≠ spanning →
      partMatches part name = false → Answers (part :: parts) (name :: names) false
  | fits {parts names : List String} {part name : String} {answer : Bool} : part ≠ spanning →
      partMatches part name = true → Answers parts names answer →
      Answers (part :: parts) (name :: names) answer

theorem accepts_spanning_cons : accepts (spanning :: parts) (name :: names) =
    (accepts parts (name :: names) || (!isHidden name && accepts (spanning :: parts) names)) :=
  rfl

theorem accepts_part_nil (hpart : part ≠ spanning) : accepts (part :: parts) [] = false := by
  rw [accepts_cons, if_neg (by simpa using hpart)]

theorem accepts_part_cons (hpart : part ≠ spanning) :
    accepts (part :: parts) (name :: names) = (partMatches part name && accepts parts names) := by
  rw [accepts_cons, if_neg (by simpa using hpart)]

/-- The matcher comes to the answer that it gives. -/
theorem answers_accepts (parts names : List String) : Answers parts names (accepts parts names) := by
  induction parts generalizing names with
  | nil => exact .done names
  | cons part parts ih =>
    by_cases hpart : part = spanning
    · subst hpart
      induction names with
      | nil =>
        have hnil : accepts (spanning :: parts) [] = accepts parts [] := rfl
        have hrest := ih []
        rw [hnil]
        cases h : accepts parts [] with
        | true => exact .stops (h ▸ hrest)
        | false => exact .ends (h ▸ hrest)
      | cons name names hnames =>
        have hrest := ih (name :: names)
        rw [accepts_spanning_cons]
        cases h : accepts parts (name :: names) with
        | true => exact .stops (h ▸ hrest)
        | false =>
          cases hhidden : isHidden name with
          | true => exact .hides (h ▸ hrest) hhidden
          | false => exact .passes (h ▸ hrest) hhidden hnames
    · cases names with
      | nil =>
        rw [accepts_part_nil hpart]
        exact .lacks hpart
      | cons name names =>
        rw [accepts_part_cons hpart]
        cases h : partMatches part name with
        | true => exact .fits hpart h (ih names)
        | false => exact .differs hpart h

/-- The matcher comes to one answer only. -/
theorem Answers.eq_accepts (h : Answers parts names answer) : answer = accepts parts names := by
  induction h with
  | done => rfl
  | @stops parts names _ ih =>
    rw [eq_comm, accepts_spanning]
    exact ⟨[], names, rfl, nofun, ih.symm⟩
  | ends _ ih => exact ih
  | hides _ hhidden ih => rw [accepts_spanning_cons, ← ih, hhidden]; rfl
  | passes _ hhidden _ ih hrest => rw [accepts_spanning_cons, ← ih, hhidden, ← hrest]; rfl
  | lacks hpart => exact (accepts_part_nil hpart).symm
  | differs hpart hname => rw [accepts_part_cons hpart, hname]; rfl
  | fits hpart hname _ ih => rw [accepts_part_cons hpart, hname, ← ih]; rfl

/-! ## Double stars side by side -/

/-- A pattern with one double star for those that stand side by side. -/
def collapse : List String → List String
  | [] => []
  | part :: parts =>
    if part = spanning ∧ parts.head? = some spanning then collapse parts
    else part :: collapse parts

theorem accepts_spanning_twice :
    accepts (spanning :: spanning :: parts) names = accepts (spanning :: parts) names := by
  rw [Bool.eq_iff_iff]
  simp only [accepts_spanning]
  constructor
  · rintro ⟨before, _, rfl, hbefore, between, after, rfl, hbetween, hafter⟩
    refine ⟨before ++ between, after, by simp, ?_, hafter⟩
    exact List.forall_mem_append.mpr ⟨hbefore, hbetween⟩
  · rintro ⟨before, after, rfl, hbefore, hafter⟩
    exact ⟨before, after, rfl, hbefore, [], after, rfl, nofun, hafter⟩

/-- Parts of a pattern can be replaced by others that match the same. -/
theorem accepts_append_congr {others : List String}
    (h : ∀ names, accepts parts names = accepts others names) (front names : List String) :
    accepts (front ++ parts) names = accepts (front ++ others) names := by
  rw [Bool.eq_iff_iff]
  simp only [accepts_append, h]

theorem accepts_collapse (parts names : List String) :
    accepts (collapse parts) names = accepts parts names := by
  induction parts generalizing names with
  | nil => rfl
  | cons part parts ih =>
    unfold collapse
    split
    · next hpair =>
      obtain ⟨rfl, hhead⟩ := hpair
      obtain ⟨more, rfl⟩ := List.head?_eq_some_iff.mp hhead
      rw [ih, accepts_spanning_twice]
    · exact accepts_append_congr ih [part] names

theorem head?_collapse (parts : List String) : (collapse parts).head? = parts.head? := by
  induction parts with
  | nil => rfl
  | cons part parts ih =>
    unfold collapse
    split
    · next hpair => rw [ih, hpair.2, hpair.1, List.head?_cons]
    · rfl

/-- No double stars are left side by side. -/
theorem isChain_collapse (parts : List String) :
    (collapse parts).IsChain fun part next => ¬(part = spanning ∧ next = spanning) := by
  induction parts with
  | nil => exact .nil
  | cons part parts ih =>
    unfold collapse
    split
    · exact ih
    · next hpair =>
      refine List.isChain_cons.mpr ⟨fun next hnext => ?_, ih⟩
      rw [head?_collapse] at hnext
      rintro ⟨rfl, rfl⟩
      exact hpair ⟨rfl, hnext⟩

/-- A pattern matches a path exactly if the path can be cut into pieces that the parts of the pattern
take. The matcher comes to its answer on every pattern and path, and to no other. Neither one of two
double stars side by side nor all that stand so change what a pattern matches. -/
theorem accepts_cuts (parts names : List String) :
    (accepts parts names = true ↔
      ∃ pieces : List (List String), pieces.flatten = names ∧ List.Forall₂ Takes parts pieces) ∧
    (∀ answer, Answers parts names answer ↔ answer = accepts parts names) ∧
    (∀ front back, accepts (front ++ spanning :: spanning :: back) names =
      accepts (front ++ spanning :: back) names) ∧
    accepts (collapse parts) names = accepts parts names ∧
    (collapse parts).IsChain fun part next => ¬(part = spanning ∧ next = spanning) := by
  refine ⟨accepts_iff_forall₂, fun answer => ⟨Answers.eq_accepts, ?_⟩, fun front back => ?_,
    accepts_collapse parts names, isChain_collapse parts⟩
  · rintro rfl
    exact answers_accepts parts names
  · exact accepts_append_congr (fun _ => accepts_spanning_twice) front names

/-- A double star passes over directories, but not over hidden ones. -/
example : accepts ["src", "**", "*.py"] ["src", "app", "hooks", "module.py"] = true ∧
    accepts ["src", "**", "*.py"] ["src", ".cache", "module.py"] = false := by decide

end Registrar.Segments
