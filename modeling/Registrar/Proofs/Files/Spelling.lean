import Mathlib.Tactic.Common
import Registrar.Files.Path

/-! # Paths as text

The names of a path are the pieces of its text between slashes that are names. A
slash between two texts puts the names of one after those of the other, and a
piece that is no name adds none.
-/

namespace Registrar.Path

variable {text name : String} {letters : List Char}

/-- The names of the path that a text spells. -/
def spelled (text : String) : List String := (split text).filter isNamed

theorem splitFrom_append (current letters more : List Char) :
    splitFrom current (letters ++ '/' :: more) =
      splitFrom current letters ++ splitFrom [] more := by
  induction letters generalizing current with
  | nil => rfl
  | cons c letters ih =>
    simp only [List.cons_append, splitFrom]
    split
    · rw [ih, List.cons_append]
    · rw [ih]

theorem splitFrom_of_not_mem (current : List Char) (h : '/' ∉ letters) :
    splitFrom current letters = [current.reverse ++ letters] := by
  induction letters generalizing current with
  | nil => simp [splitFrom]
  | cons c letters ih =>
    rw [List.mem_cons, not_or] at h
    unfold splitFrom
    rw [if_neg (by simpa using Ne.symm h.1), ih _ h.2]
    simp

theorem mem_of_mem_splitFrom {current piece : List Char} (h : piece ∈ splitFrom current letters)
    {c : Char} (hc : c ∈ piece) : c ∈ current ∨ c ∈ letters := by
  induction letters generalizing current with
  | nil =>
    rw [splitFrom, List.mem_singleton] at h
    rw [h, List.mem_reverse] at hc
    exact .inl hc
  | cons first letters ih =>
    unfold splitFrom at h
    split at h
    · rcases List.mem_cons.mp h with rfl | h
      · exact .inl (List.mem_reverse.mp hc)
      · exact .inr (List.mem_cons_of_mem _ ((ih h).resolve_left List.not_mem_nil))
    · rcases ih h with hcurrent | hrest
      · rcases List.mem_cons.mp hcurrent with rfl | hcurrent
        · exact .inr List.mem_cons_self
        · exact .inl hcurrent
      · exact .inr (List.mem_cons_of_mem _ hrest)

theorem split_append_slash (text other : String) :
    split (text ++ "/" ++ other) = split text ++ split other := by
  unfold split
  rw [String.toList_append, String.toList_append, List.append_assoc]
  change List.map _ (splitFrom [] (text.toList ++ '/' :: other.toList)) = _
  rw [splitFrom_append, List.map_append]

theorem split_of_not_mem (h : '/' ∉ text.toList) : split text = [text] := by
  unfold split
  rw [splitFrom_of_not_mem [] h]
  simp

theorem spelled_append_slash (text other : String) :
    spelled (text ++ "/" ++ other) = spelled text ++ spelled other := by
  unfold spelled
  rw [split_append_slash, List.filter_append]

@[simp] theorem spelled_empty : spelled "" = [] := rfl

/-- The letters of a path's names are letters of its text. -/
theorem mem_of_mem_spelled {c : Char} (h : name ∈ spelled text) (hc : c ∈ name.toList) :
    c ∈ text.toList := by
  obtain ⟨piece, hpiece, rfl⟩ := List.mem_map.mp (List.mem_filter.mp h).1
  rw [String.toList_ofList] at hc
  exact (mem_of_mem_splitFrom hpiece hc).resolve_left List.not_mem_nil

theorem spelled_of_not_mem (h : '/' ∉ text.toList) :
    spelled text = if isNamed text then [text] else [] := by
  unfold spelled
  rw [split_of_not_mem h, List.filter_cons, List.filter_nil]

theorem spelled_name (h : '/' ∉ name.toList) (hnamed : isNamed name = true) :
    spelled name = [name] := by
  rw [spelled_of_not_mem h, if_pos hnamed]

theorem mem_split_up : ".." ∈ split text ↔ ".." ∈ spelled text := by
  unfold spelled
  rw [List.mem_filter]
  exact ⟨fun h => ⟨h, rfl⟩, fun h => h.1⟩

theorem isAbsolute_ofString (text : String) :
    (ofString text).isAbsolute = isAbsoluteText text := by
  unfold ofString isAbsolute isAbsoluteText
  dsimp only
  generalize text.toList = letters
  unfold rootOf
  split
  next => rfl
  next => rfl
  next => rfl
  next hslash =>
    cases letters with
    | nil => rfl
    | cons c rest =>
      have hc : c ≠ '/' := by
        rintro rfl
        exact hslash rest rfl
      simpa using hc

/-- A text that ends in a slash. -/
theorem eq_append_slash (h : text.toList.getLast? = some '/') : ∃ front, text = front ++ "/" := by
  obtain ⟨front, hfront⟩ : ∃ front, text.toList = front ++ ['/'] := by
    rcases List.eq_nil_or_concat text.toList with hnil | ⟨front, last, hlast⟩
    · rw [hnil] at h
      cases h
    · rw [List.concat_eq_append] at hlast
      rw [hlast, List.getLast?_concat] at h
      cases h
      exact ⟨front, hlast⟩
  refine ⟨String.ofList front, ?_⟩
  rw [← String.toList_inj, hfront, String.toList_append, String.toList_ofList]
  rfl

theorem spelled_append_of_slash (h : text.toList.getLast? = some '/') (other : String) :
    spelled (text ++ other) = spelled text ++ spelled other := by
  obtain ⟨front, rfl⟩ := eq_append_slash h
  have hfront : spelled (front ++ "/") = spelled front := by
    have h := spelled_append_slash front ""
    rwa [String.append_empty, spelled_empty, List.append_nil] at h
  rw [spelled_append_slash, hfront]

end Registrar.Path
