import Mathlib.Data.List.Induction
import Registrar.Proofs.Catalogue.Contributing

/-! # The table of dependencies

The table has one entry for each key that is exported, which is made of the last export of the key.
-/

namespace Registrar.Catalogue

/-- An export is the last one of its key. -/
def IsLast (exports : List Export) (last : Export) : Prop :=
  ∃ front back, exports = front ++ last :: back ∧ ∀ later ∈ back, later.key ≠ last.key

variable {exports : List Export}

theorem entries_concat (exports : List Export) (last : Export) :
    entries (exports ++ [last]) =
      (entries exports).filter (·.key != last.key) ++ [⟨last.key, dependencyType last⟩] := by
  simp [entries, addEntry, List.foldl_append]

theorem isLast_concat {last other : Export} :
    IsLast (exports ++ [last]) other ↔
      IsLast exports other ∧ last.key ≠ other.key ∨ other = last := by
  constructor
  · rintro ⟨front, back, hexports, hback⟩
    obtain rfl | ⟨back, final, rfl⟩ := List.eq_nil_or_concat back
    · exact .inr (List.cons.inj (List.append_inj' hexports rfl).2).1.symm
    · rw [List.concat_eq_append, ← List.cons_append, ← List.append_assoc] at hexports
      obtain ⟨rfl, hlast⟩ := List.append_inj' hexports rfl
      obtain rfl := (List.cons.inj hlast).1
      exact .inl ⟨⟨front, back, rfl, fun later hlater => hback later (by simp [hlater])⟩,
        hback last (by simp)⟩
  · rintro (⟨⟨front, back, rfl, hback⟩, hkey⟩ | rfl)
    · refine ⟨front, back ++ [last], by simp, fun later hlater => ?_⟩
      rcases List.mem_append.mp hlater with hlater | hlater
      · exact hback later hlater
      · exact List.mem_singleton.mp hlater ▸ hkey
    · exact ⟨exports, [], rfl, nofun⟩

/-- The entries of the table are those of the last exports of their keys. -/
theorem mem_entries_iff {entry : Entry} :
    entry ∈ entries exports ↔
      ∃ last, IsLast exports last ∧ entry = ⟨last.key, dependencyType last⟩ := by
  induction exports using List.reverseRecOn with
  | nil => simp [entries, IsLast]
  | append_singleton exports last ih =>
    rw [entries_concat, List.mem_append, List.mem_filter, ih, List.mem_singleton]
    constructor
    · rintro (⟨⟨other, hother, rfl⟩, hkey⟩ | rfl)
      · have hother := isLast_concat.mpr (.inl ⟨hother, (bne_iff_ne.mp hkey).symm⟩)
        exact ⟨other, hother, rfl⟩
      · exact ⟨last, isLast_concat.mpr (.inr rfl), rfl⟩
    · rintro ⟨other, hother, rfl⟩
      rcases isLast_concat.mp hother with ⟨hother, hkey⟩ | rfl
      · exact .inl ⟨⟨other, hother, rfl⟩, by simpa using Ne.symm hkey⟩
      · exact .inr rfl

theorem nodup_entries (exports : List Export) : ((entries exports).map (·.key)).Nodup := by
  induction exports using List.reverseRecOn with
  | nil => exact List.nodup_nil
  | append_singleton exports last ih =>
    rw [entries_concat, List.map_append]
    refine List.nodup_append.mpr ⟨ih.sublist (List.filter_sublist.map _), by simp, ?_⟩
    intro key hkey other hother
    obtain ⟨entry, hentry, rfl⟩ := List.mem_map.mp hkey
    rw [List.mem_singleton.mp hother]
    simpa using (List.mem_filter.mp hentry).2

/-- The keys of the table are those that are exported. -/
theorem mem_keys_entries {key : String} :
    key ∈ (entries exports).map (·.key) ↔ key ∈ exports.map (·.key) := by
  induction exports using List.reverseRecOn with
  | nil => rfl
  | append_singleton exports last ih =>
    have hfiltered : key ∈ ((entries exports).filter (·.key != last.key)).map (·.key) ↔
        key ∈ (entries exports).map (·.key) ∧ key ≠ last.key := by
      simp only [List.mem_map, List.mem_filter, bne_iff_ne]
      constructor
      · rintro ⟨entry, ⟨hentry, hkey⟩, rfl⟩
        exact ⟨⟨entry, hentry, rfl⟩, hkey⟩
      · rintro ⟨⟨entry, hentry, rfl⟩, hkey⟩
        exact ⟨entry, ⟨hentry, hkey⟩, rfl⟩
    rw [entries_concat, List.map_append, List.mem_append, hfiltered, ih, List.map_append,
      List.mem_append]
    simp only [List.map_cons, List.map_nil, List.mem_singleton]
    tauto

theorem flatMap_contributions {directory : List String} {files : List FileExports}
    {contributing : List Contribution} (h : contributions directory files = .ok contributing) :
    contributing.flatMap (·.file.exports) = files.flatMap (·.exports) := by
  have hsame := contributions_eq_ok h
  have hempty : (files.filter fun file => !file.exports.isEmpty).flatMap (·.exports) =
      files.flatMap (·.exports) := by
    clear h hsame
    induction files with
    | nil => rfl
    | cons file files ih =>
      rw [List.filter_cons, List.flatMap_cons]
      split
      · rw [List.flatMap_cons, ih]
      · next hfile =>
        have hnone : file.exports = [] := by simpa using hfile
        rw [ih, hnone, List.nil_append]
  rw [← hempty]
  clear h hempty
  generalize files.filter (fun file => !file.exports.isEmpty) = contributingFiles at hsame
  induction hsame with
  | nil => rfl
  | cons hfile _ ih => rw [List.flatMap_cons, List.flatMap_cons, hfile.1, ih]

end Registrar.Catalogue
