import Mathlib.Data.Finset.Card
import Registrar.Proofs.Catalogue.Evaluating

/-! # The last registration of a key counts

A table that is built by taking entries out and putting them at the end holds the last export of
each key, in the order of these exports. The exports that have lost their entry to a later one are
reported, as many as there are exports beyond the first of each key.
-/

namespace Registrar.Catalogue

open Source

variable {exports : List Export}

/-- The exports whose key no later export has, in order. -/
def latest : List Export → List Export
  | [] => []
  | entry :: rest => if entry.key ∈ rest.map (·.key) then latest rest else entry :: latest rest

/-- The entry of the table for an export. -/
def entryOf (entry : Export) : Entry := ⟨entry.key, dependencyType entry⟩

theorem latest_sublist (exports : List Export) : (latest exports).Sublist exports := by
  induction exports with
  | nil => exact .slnil
  | cons entry rest ih =>
    rw [latest]
    split
    · exact ih.cons entry
    · exact ih.cons_cons entry

/-- Each key is kept once, at the place of its last export. -/
theorem map_key_latest (exports : List Export) :
    (latest exports).map (·.key) = (exports.map (·.key)).dedup := by
  induction exports with
  | nil => rfl
  | cons entry rest ih =>
    rw [latest, List.map_cons]
    split
    · next hkey => rw [List.dedup_cons_of_mem hkey, ih]
    · next hkey => rw [List.dedup_cons_of_notMem hkey, List.map_cons, ih]

theorem mem_latest_iff {entry : Export} : entry ∈ latest exports ↔ IsLast exports entry := by
  induction exports with
  | nil => simp [latest, IsLast]
  | cons first rest ih =>
    have hlast : IsLast (first :: rest) entry ↔
        IsLast rest entry ∨ first = entry ∧ first.key ∉ rest.map (·.key) := by
      constructor
      · rintro ⟨front, back, hexports, hback⟩
        obtain _ | ⟨_, front⟩ := front
        · obtain ⟨rfl, rfl⟩ := List.cons.inj hexports
          refine .inr ⟨rfl, fun hkey => ?_⟩
          obtain ⟨later, hlater, hsame⟩ := List.mem_map.mp hkey
          exact hback later hlater hsame
        · exact .inl ⟨front, back, (List.cons.inj hexports).2, hback⟩
      · rintro (⟨front, back, rfl, hback⟩ | ⟨rfl, hkey⟩)
        · exact ⟨first :: front, back, rfl, hback⟩
        · exact ⟨[], rest, rfl, fun later hlater hsame =>
            hkey (List.mem_map.mpr ⟨later, hlater, hsame⟩)⟩
    rw [hlast, ← ih, latest]
    split
    · next hkey => simp [hkey]
    · next hkey =>
      rw [List.mem_cons]
      exact or_comm.trans (or_congr_right (by simp [hkey, eq_comm]))

/-- What is in the table before some exports stays unless one of them has its key. -/
theorem foldl_addEntry (table : List Entry) (exports : List Export) :
    exports.foldl addEntry table =
      table.filter (fun entry => entry.key ∉ exports.map (·.key)) ++ entries exports := by
  induction exports generalizing table with
  | nil => simp [entries]
  | cons first rest ih =>
    have hfilter : (addEntry table first).filter (fun entry => entry.key ∉ rest.map (·.key)) =
        table.filter (fun entry => entry.key ∉ (first :: rest).map (·.key)) ++
          [entryOf first].filter (fun entry => entry.key ∉ rest.map (·.key)) := by
      rw [addEntry, List.filter_append, List.filter_filter]
      congr 1
      refine List.filter_congr fun entry _ => ?_
      simp [bne, beq_eq_decide, Bool.and_comm]
    have hfirst : entries (first :: rest) =
        [entryOf first].filter (fun entry => entry.key ∉ rest.map (·.key)) ++ entries rest :=
      ih [entryOf first]
    rw [List.foldl_cons, ih, hfilter, hfirst, List.append_assoc]

/-- The table is made of the last export of each key. -/
theorem entries_eq_latest (exports : List Export) :
    entries exports = (latest exports).map entryOf := by
  induction exports with
  | nil => rfl
  | cons first rest ih =>
    have hfold : entries (first :: rest) =
        [entryOf first].filter (fun entry => entry.key ∉ rest.map (·.key)) ++ entries rest :=
      foldl_addEntry [entryOf first] rest
    rw [hfold, ih, latest]
    by_cases hkey : first.key ∈ rest.map (·.key)
    · rw [if_pos hkey, List.filter_cons_of_neg (by simpa [entryOf] using hkey)]
      rfl
    · rw [if_neg hkey, List.filter_cons_of_pos (by simpa [entryOf] using hkey)]
      rfl

/-- Every export is the first of its key or a duplicate. -/
theorem length_duplicates (seen : List String) (exports : List Export) :
    (duplicates seen exports).length +
      ((exports.map (·.key)).filter (· ∉ seen)).dedup.length = exports.length := by
  induction exports generalizing seen with
  | nil => rfl
  | cons first rest ih =>
    rw [duplicates, List.map_cons, List.length_cons]
    by_cases hseen : first.key ∈ seen
    · rw [if_pos (List.contains_iff_mem.mpr hseen), List.filter_cons_of_neg (by simpa using hseen),
        List.length_cons, ← ih seen]
      omega
    · have hfresh : ((rest.map (·.key)).filter (· ∉ first.key :: seen)) =
          ((rest.map (·.key)).filter (· ∉ seen)).filter (· ≠ first.key) := by
        rw [List.filter_filter]
        exact List.filter_congr fun key _ => by simp
      have hcount (keys : List String) :
          (first.key :: keys).dedup.length = (keys.filter (· ≠ first.key)).dedup.length + 1 := by
        have hinsert : (first.key :: keys).toFinset =
            insert first.key (keys.filter (· ≠ first.key)).toFinset := by
          ext key
          by_cases hkey : key = first.key <;> simp [hkey]
        rw [← List.card_toFinset, hinsert, Finset.card_insert_of_notMem (by simp),
          List.card_toFinset]
      rw [if_neg (by simpa using hseen), List.filter_cons_of_pos (by simpa using hseen), hcount,
        ← ih (first.key :: seen), hfresh]
      omega

/-- The end of the docstring, where it counts. -/
def summaryEnd (registered contributing : Nat) : List String :=
  ["Generation summary:", "- registered dependencies: " ++ toString registered,
    "- contributing modules: " ++ toString contributing, "\"\"\""]

theorem isLine_summaryEnd (registered contributing : Nat) :
    ∀ line ∈ (summaryEnd registered contributing).map String.toList, IsLine line := by
  have hfirst : IsLine "Generation summary:".toList := isLine_of_check (by decide)
  have hlast : IsLine "\"\"\"".toList := isLine_of_check (by decide)
  simp only [summaryEnd, List.map_cons, List.map_nil, List.forall_mem_cons]
  exact ⟨hfirst, isLine_label registered (by decide), isLine_label contributing (by decide), hlast,
    nofun⟩

variable {runtimeModule source : String} {directory : List String} {files : List FileExports}
  {contributing : List Contribution}

/-- The docstring ends in its two counts. -/
theorem toList_docstring_eq (registered contributing : Nat) :
    ∃ front, (docstring registered contributing).toList =
      front ++ '\n' :: joinChars ['\n'] ((summaryEnd registered contributing).map String.toList) := by
  have hseparator : "\n".toList = ['\n'] := rfl
  have htexts : docstring registered contributing = "\n".intercalate
      (["\"\"\"", "Generated uiwire container module.", "",
        "Generated by: uiwire._internal.codegen.renderer.ContainerModuleRenderer.render",
        "uiwire version used for generation: 0.1.0", "",
        "Do not edit by hand: run ``uiwire generate`` to refresh it.", ""] ++
          summaryEnd registered contributing) := rfl
  rw [htexts, String.toList_intercalate, hseparator, ← joinChars_eq_intercalate, List.map_append]
  exact ⟨_, joinChars_append (by simp) (by simp [summaryEnd])⟩

theorem isInfix_summaryEnd (h : (render runtimeModule directory files).2 = .ok source)
    (hcontributing : contributions directory files = .ok contributing) :
    (summaryEnd (entries (contributing.flatMap (·.file.exports))).length contributing.length).map
      String.toList <:+: lines source.toList := by
  obtain ⟨_, hsame, hsource⟩ := render_eq_ok h
  cases hcontributing.symm.trans hsame
  have hlines := isLine_summaryEnd (entries (contributing.flatMap (·.file.exports))).length
    contributing.length
  obtain ⟨front, hdocstring⟩ := toList_docstring_eq
    (entries (contributing.flatMap (·.file.exports))).length contributing.length
  have htext : ∃ back, (text runtimeModule contributing).toList =
      (docstring (entries (contributing.flatMap (·.file.exports))).length
        contributing.length).toList ++ '\n' :: back := by
    have hseparator : "\n\n".toList = ['\n', '\n'] := by decide
    unfold text
    rw [String.toList_intercalate, hseparator, ← joinChars_eq_intercalate]
    exact ⟨_, by simp [joinChars]; rfl⟩
  obtain ⟨back, htext⟩ := htext
  rw [hsource]
  refine Canonical.isInfix_normalize hlines (List.cons_ne_nil _ _) (Stands.isInfix ?_ hlines)
  refine ⟨front ++ ['\n'], '\n' :: back, ?_, .inr ⟨front, rfl⟩, Whole.reverse_iff.mpr (.inr ⟨_, rfl⟩)⟩
  rw [htext, hdocstring]
  simp

/-- The summary that a rendered text starts with says how many keys and files there are. -/
theorem head?_program {path : List String} {program : Source.Module}
    (h : program? path contributing = some program) :
    program.head? = some (proseStatement (summaryBody
      (entries (contributing.flatMap (·.file.exports))).length contributing.length)) := by
  unfold program? at h
  simp only [Option.bind_eq_bind, Option.bind_eq_some_iff, Option.pure_def, Option.some.injEq] at h
  obtain ⟨runtime, -, types, -, rfl⟩ := h
  rfl

theorem render_events (h : (render runtimeModule directory files).2 = .ok source)
    (hcontributing : contributions directory files = .ok contributing) :
    (render runtimeModule directory files).1 = events files contributing := by
  unfold render at h ⊢
  split at h
  · cases h
  · next haccepts =>
    rw [if_neg haccepts, hcontributing]

/-- Only keys that are registered again are warned of. -/
theorem countP_warning (files : List FileExports) (contributing : List Contribution) :
    (events files contributing).countP (·.severity = .warning) =
      (duplicates [] (contributing.flatMap (·.file.exports))).length := by
  have hall (exports : List Export) :
      (exports.map fun entry => Event.duplicateKey entry.key entry.path).countP
        (·.severity = .warning) = exports.length := by
    rw [List.countP_map]
    exact List.countP_eq_length.mpr fun _ _ => rfl
  unfold events
  rw [List.countP_cons_of_neg (by simp [Event.severity]), hall]

/-- A text and what is reported with it keep the last export of each key. -/
structure KeepsLatest (exports : List Export) (contributing : Nat) (reported : List Event)
    (source : String) : Prop where
  /-- Every key is kept once, in the order of the last exports of the keys. -/
  keys : (latest exports).map (·.key) = (exports.map (·.key)).dedup
  last : ∀ entry, entry ∈ latest exports ↔ IsLast exports entry
  /-- The table that is listed is made of these exports. -/
  table : (dependenciesLines ((latest exports).map entryOf)).map String.toList <:+:
    lines source.toList
  /-- The literals of the table evaluate to their texts exactly if these keep to the basic plane. -/
  literals : ∀ entry ∈ (latest exports).map entryOf, ∀ text ∈ [entry.key, entry.type],
    Evaluates (Json.literal text) (Escape.pointsOf text) ∧
      (Escape.pointsOf text = text.toList.map Char.toNat ↔ IsBasic text)
  summary : (summaryEnd (exports.map (·.key)).dedup.length contributing).map String.toList <:+:
    lines source.toList
  warnings : reported.countP (·.severity = .warning) + (exports.map (·.key)).dedup.length =
    exports.length

theorem render_keepsLatest (h : (render runtimeModule directory files).2 = .ok source) :
    KeepsLatest (files.flatMap (·.exports)) (files.filter fun file => !file.exports.isEmpty).length
        (render runtimeModule directory files).1 source ∧
      ∀ contributing, contributions directory files = .ok contributing →
        (∀ entry ∈ allTypeImports contributing, entry.IsNamed) →
        ∃ program line, parseModule? source.toList = some program ∧
          dictionaryStatement line ((latest (files.flatMap (·.exports))).map entryOf) ∈ program ∧
          program.head? = some (proseStatement (summaryBody
            ((files.flatMap (·.exports)).map (·.key)).dedup.length
            (files.filter fun file => !file.exports.isEmpty).length)) := by
  obtain ⟨contributing, hcontributing, -⟩ := render_eq_ok h
  have hexports := flatMap_contributions hcontributing
  have hlength := (contributions_eq_ok hcontributing).length_eq
  have htable := entries_eq_latest (files.flatMap (·.exports))
  have hcount : (entries (files.flatMap (·.exports))).length =
      ((files.flatMap (·.exports)).map (·.key)).dedup.length := by
    rw [htable, ← map_key_latest, List.length_map, List.length_map]
  have hsummary := isInfix_summaryEnd h hcontributing
  have hdependencies := (isInfix_of_render h hcontributing).1
  rw [hexports, hcount, ← hlength] at hsummary
  rw [hexports, htable] at hdependencies
  refine ⟨⟨map_key_latest _, fun entry => mem_latest_iff, hdependencies, fun entry _ text _ =>
    ⟨evaluates_literal text, Escape.flatMap_units_eq_iff text.toList⟩, hsummary, ?_⟩, ?_⟩
  · rw [render_events h hcontributing, countP_warning, hexports]
    simpa using length_duplicates [] (files.flatMap (·.exports))
  · intro other hother himports
    cases hcontributing.symm.trans hother
    obtain ⟨program, hprogram, hparsed⟩ := parseModule?_of_render h hcontributing himports
    have hhead := head?_program hprogram
    have hbody := bodyStatements_subset_program hprogram
    rw [hexports, hcount, ← hlength] at hhead
    refine ⟨program, dictionaryLine (RuntimeName.words runtimeModule) contributing, hparsed,
      hbody ?_, hhead⟩
    rw [← htable, ← hexports]
    simp [bodyStatements]

theorem siblings_keepsLatest :
    ∃ source, (render RuntimeName.usual (["s"] ++ ["p", "q"]) siblings).2 = .ok source ∧
      KeepsLatest (siblings.flatMap (·.exports)) 2
        (render RuntimeName.usual (["s"] ++ ["p", "q"]) siblings).1 source := by
  obtain ⟨source, h⟩ := render_siblings
  exact ⟨source, h, (render_keepsLatest h).1⟩

end Registrar.Catalogue
