import Mathlib.Data.List.TakeWhile
import Registrar.Proofs.Files.Spelling
import Registrar.Selection.Expand

/-! # Patterns cut into parts

A pattern is cut before its last part, and matches are put together with a slash.
Neither makes or loses a name: what is spelled is the names of the head and then
those of the last part.
-/

namespace Registrar.Expansion

open Registrar.Path (spelled isNamed)

variable {text : String}

theorem hasWildcard_of_mem_spelled {pattern : String} (h : hasWildcard pattern = false) :
    ∀ part ∈ spelled pattern, hasWildcard part = false := by
  intro part hpart
  unfold hasWildcard at h ⊢
  rw [List.any_eq_false] at h ⊢
  exact fun c hc => h c (Path.mem_of_mem_spelled hpart hc)

theorem spelled_below (directory name : String) :
    spelled (below directory name) = spelled directory ++ spelled name := by
  unfold below
  split
  next hjoined =>
    rw [Bool.or_eq_true, beq_iff_eq, beq_iff_eq] at hjoined
    rcases hjoined with rfl | hslash
    · rw [String.empty_append, Path.spelled_empty, List.nil_append]
    · exact Path.spelled_append_of_slash hslash name
  next => exact Path.spelled_append_slash directory name

theorem split_below (directory : String) (h : '/' ∉ text.toList) :
    ∃ front, Path.split (below directory text) = front ++ [text] ∧
      front.filter isNamed = spelled directory := by
  have hslash (directory : String) : Path.split (directory ++ "/" ++ text) =
      Path.split directory ++ [text] := by
    rw [Path.split_append_slash, Path.split_of_not_mem h]
  unfold below
  split
  next hjoined =>
    rw [Bool.or_eq_true, beq_iff_eq, beq_iff_eq] at hjoined
    rcases hjoined with rfl | hlast
    · refine ⟨[], ?_, rfl⟩
      rw [String.empty_append, Path.split_of_not_mem h, List.nil_append]
    · obtain ⟨front, rfl⟩ := Path.eq_append_slash hlast
      refine ⟨Path.split front, hslash front, ?_⟩
      have hfront := Path.spelled_append_of_slash hlast ""
      have hjoin := Path.spelled_append_slash front ""
      rw [String.append_empty] at hfront hjoin
      rw [hjoin, Path.spelled_empty, List.append_nil]
      rfl
  next => exact ⟨Path.split directory, hslash directory, rfl⟩

theorem isAbsoluteText_below {directory : String} (h : Path.isAbsoluteText directory = true)
    (name : String) : Path.isAbsoluteText (below directory name) = true := by
  unfold Path.isAbsoluteText at h ⊢
  rw [beq_iff_eq] at h ⊢
  unfold below
  split
  · rw [String.toList_append, List.head?_append, h]
    rfl
  · rw [String.toList_append, String.toList_append, List.head?_append, List.head?_append, h]
    rfl

/-- Slashes at the end of a text spell nothing. -/
theorem spelled_dropWhile (letters : List Char) :
    spelled (String.ofList (letters.dropWhile (· == '/')).reverse) =
      spelled (String.ofList letters.reverse) := by
  induction letters with
  | nil => rfl
  | cons c letters ih =>
    by_cases hslash : c = '/'
    · subst c
      rw [List.dropWhile_cons_of_pos (by rfl), ih, List.reverse_cons]
      have hjoin := Path.spelled_append_slash (String.ofList letters.reverse) ""
      rw [String.append_empty, Path.spelled_empty, List.append_nil] at hjoin
      rw [String.ofList_append, ← hjoin]
    · rw [List.dropWhile_cons_of_neg (by simpa using hslash)]

theorem isAbsoluteText_of_front {front whole : List Char} (h : front <+: whole)
    (hne : front ≠ []) (habsolute : Path.isAbsoluteText (String.ofList whole) = true) :
    Path.isAbsoluteText (String.ofList front) = true := by
  unfold Path.isAbsoluteText at habsolute ⊢
  rw [String.toList_ofList] at habsolute ⊢
  obtain ⟨more, rfl⟩ := h
  cases front with
  | nil => exact absurd rfl hne
  | cons c front => exact habsolute

/-- A cut pattern: its pieces are those of the directory and the last part. -/
structure Cut (pattern directory part : String) : Prop where
  slash : '/' ∉ part.toList
  pieces : ∃ front, Path.split pattern = front ++ [part] ∧
    front.filter isNamed = spelled directory
  absolute : Path.isAbsoluteText pattern = true → Path.isAbsoluteText directory = true
  shorter : hasWildcard directory = true → directory.length < pattern.length

theorem bne_slash_of_not_mem {letters : List Char} (h : '/' ∉ letters) :
    ∀ c ∈ letters.reverse, (c != '/') = true := by
  intro c hc
  rw [bne_iff_ne]
  rintro rfl
  exact h (List.mem_reverse.mp hc)

theorem splitLast_of_not_mem {letters : List Char} (h : '/' ∉ letters) :
    splitLast letters = ([], letters) := by
  have hall := bne_slash_of_not_mem h
  unfold splitLast
  dsimp only
  rw [List.takeWhile_eq_self_iff.mpr hall, List.dropWhile_eq_nil_iff.mpr hall, List.reverse_reverse]
  rfl

/-- Slashes are dropped from the end of a head, unless it is nothing but slashes. -/
theorem splitLast_append_slash {front last : List Char} (h : '/' ∉ last) :
    splitLast (front ++ '/' :: last) =
      (if (front.reverse.dropWhile (· == '/')).isEmpty then front ++ ['/']
        else (front.reverse.dropWhile (· == '/')).reverse, last) := by
  have hall := bne_slash_of_not_mem h
  have hreverse : (front ++ '/' :: last).reverse = last.reverse ++ '/' :: front.reverse := by simp
  have htake : ('/' :: front.reverse).takeWhile (· != '/') = [] := rfl
  have hdrop : ('/' :: front.reverse).dropWhile (· != '/') = '/' :: front.reverse := rfl
  have htrim : ('/' :: front.reverse).dropWhile (· == '/') = front.reverse.dropWhile (· == '/') := rfl
  unfold splitLast
  dsimp only
  rw [hreverse, List.takeWhile_append_of_pos hall, List.dropWhile_append_of_pos hall, htake, hdrop,
    htrim, List.append_nil, List.reverse_reverse]
  split <;> simp

theorem cut_of_not_mem (h : '/' ∉ text.toList) : Cut text "" text where
  slash := h
  pieces := ⟨[], Path.split_of_not_mem h, rfl⟩
  absolute habsolute := by
    unfold Path.isAbsoluteText at habsolute
    exact absurd (List.mem_of_mem_head? (eq_of_beq habsolute)) h
  shorter hwildcard := absurd hwildcard (by decide)

/-- A head that spells the same, and is a start of the pattern, cuts it. -/
theorem cut_append_slash {front last head : List Char} (hlast : '/' ∉ last)
    (hspelled : spelled (String.ofList head) = spelled (String.ofList front))
    (hstart : head <+: front ++ '/' :: last) (hne : head ≠ [])
    (hshorter : hasWildcard (String.ofList head) = true → head.length ≤ front.length) :
    Cut (String.ofList (front ++ '/' :: last)) (String.ofList head) (String.ofList last) where
  slash := by rwa [String.toList_ofList]
  pieces := by
    refine ⟨Path.split (String.ofList front), ?_, hspelled.symm⟩
    have htext : String.ofList (front ++ '/' :: last) =
        String.ofList front ++ "/" ++ String.ofList last := by
      rw [← List.singleton_append, String.ofList_append, String.ofList_append, String.append_assoc]
    have hlast' : '/' ∉ (String.ofList last).toList := by rwa [String.toList_ofList]
    rw [htext, Path.split_append_slash, Path.split_of_not_mem hlast']
  absolute := isAbsoluteText_of_front hstart hne
  shorter hwildcard := by
    have hlength := hshorter hwildcard
    rw [String.length_ofList, String.length_ofList, List.length_append, List.length_cons]
    omega

theorem hasWildcard_slashes {letters : List Char} (h : ∀ c ∈ letters, c = '/') :
    hasWildcard (String.ofList letters) = false := by
  unfold hasWildcard
  rw [String.toList_ofList, List.any_eq_false]
  intro c hc
  rw [h c hc]
  decide

theorem exists_last_slash {letters : List Char} (h : '/' ∈ letters) :
    ∃ front last, letters = front ++ '/' :: last ∧ '/' ∉ last := by
  obtain ⟨last, front, hletters, hlast⟩ := List.eq_append_cons_of_mem (List.mem_reverse.mpr h)
  refine ⟨front.reverse, last.reverse, ?_, by rwa [List.mem_reverse]⟩
  rw [← List.reverse_reverse letters, hletters]
  simp

theorem cut_splitLast (letters : List Char) :
    Cut (String.ofList letters) (String.ofList (splitLast letters).1)
      (String.ofList (splitLast letters).2) := by
  by_cases hslash : '/' ∈ letters
  · obtain ⟨front, last, rfl, hlast⟩ := exists_last_slash hslash
    have hwhole := spelled_dropWhile front.reverse
    rw [List.reverse_reverse] at hwhole
    rw [splitLast_append_slash hlast]
    dsimp only
    split
    next hslashes =>
      have hall : ∀ c ∈ front ++ ['/'], c = '/' := by
        simpa [or_imp] using hslashes
      refine cut_append_slash hlast ?_ ⟨last, by simp⟩ (by simp) fun hwildcard => ?_
      · have hjoin := Path.spelled_append_slash (String.ofList front) ""
        rwa [String.append_empty, Path.spelled_empty, List.append_nil, ← String.ofList_append]
          at hjoin
      · rw [hasWildcard_slashes hall] at hwildcard
        cases hwildcard
    next hne =>
      refine cut_append_slash hlast hwhole ?_ (by simpa using hne) fun _ => ?_
      · have htrim := List.reverse_prefix.mpr (List.dropWhile_suffix (· == '/') (l := front.reverse))
        rw [List.reverse_reverse] at htrim
        exact htrim.trans (List.prefix_append _ _)
      · have htrim := (List.dropWhile_suffix (· == '/') (l := front.reverse)).length_le
        rwa [List.length_reverse] at htrim ⊢
  · rw [splitLast_of_not_mem hslash]
    exact cut_of_not_mem (by rwa [String.toList_ofList])

end Registrar.Expansion
