import Registrar.Project.Settings
import Registrar.Proofs.Catalogue.Collisions

/-! # The runtime module of a project

Settings accept names for the runtime module that no import can spell: those that end in a newline,
that have a reserved word between their points, or a word character that no identifier has. With each
other name that is accepted the placeholder is generated, and imports from the module of that name.
-/

namespace Registrar

open Source

namespace RuntimeName

variable {name : String}

/-- A name that can stand in an import. -/
def IsImportable (name : String) : Prop :=
  ∀ word ∈ words name, isIdentifier word = true ∧ word ∉ keywords

/-- The ways in which an accepted name cannot stand in an import. -/
inductive IsMisfit (name : String) : Prop
  | newline (base : String) (h : name = base ++ "\n")
  | reserved (word : String) (hmem : word ∈ words name) (h : word ∈ keywords)
  | letter (word : String) (hmem : word ∈ words name) (c : Char) (hc : c ∈ word.toList)
      (hword : isWordChar c = true) (h : isIdentifierContinue c = false)

theorem mem_parts {c : Char} {letters : List Char} (h : c ∈ letters) :
    c = '.' ∨ ∃ part ∈ ModuleName.parts letters, c ∈ part := by
  induction letters with
  | nil => cases h
  | cons first letters ih =>
    obtain ⟨part, more, hparts⟩ := List.exists_cons_of_ne_nil (ModuleName.parts_ne_nil letters)
    rw [hparts] at ih
    rw [ModuleName.parts, hparts]
    by_cases hpoint : first = '.'
    · rw [if_pos hpoint]
      rcases List.mem_cons.mp h with rfl | h
      · exact .inl hpoint
      · refine (ih h).imp_right ?_
        rintro ⟨found, hfound, hc⟩
        exact ⟨found, List.mem_cons_of_mem _ hfound, hc⟩
    · rw [if_neg hpoint]
      rcases List.mem_cons.mp h with rfl | h
      · exact .inr ⟨_, List.mem_cons_self, List.mem_cons_self⟩
      · refine (ih h).imp_right ?_
        rintro ⟨found, hfound, hc⟩
        rcases List.mem_cons.mp hfound with rfl | hfound
        · exact ⟨_, List.mem_cons_self, List.mem_cons_of_mem _ hc⟩
        · exact ⟨found, List.mem_cons_of_mem _ hfound, hc⟩

/-- Each character of a name is a point or belongs to a word. -/
theorem mem_words {c : Char} (h : c ∈ name.toList) :
    c = '.' ∨ ∃ word ∈ words name, c ∈ word.toList := by
  obtain hpoint | ⟨part, hpart, hc⟩ := mem_parts h
  · exact .inl hpoint
  · exact .inr ⟨String.ofList part, List.mem_map_of_mem hpart, by rwa [String.toList_ofList]⟩

/-- A word of a dotted name starts like an identifier and goes on with word characters, so it is one
unless a word character is none of an identifier. -/
theorem exists_stray {word : String} (h : isDotted true name.toList = true) (hmem : word ∈ words name)
    (hword : isIdentifier word = false) :
    ∃ c ∈ word.toList, isWordChar c = true ∧ isIdentifierContinue c = false := by
  rw [(isDotted_eq name.toList).1, List.all_eq_true] at h
  obtain ⟨part, hpart, rfl⟩ := List.mem_map.mp hmem
  have hletters := h part hpart
  rw [isIdentifier_ofList] at hword
  rw [String.toList_ofList]
  cases part with
  | nil => cases hletters
  | cons first more =>
    obtain ⟨hfirst, hmore⟩ := Bool.and_eq_true_iff.mp hletters
    obtain ⟨hascii, hletter⟩ := Bool.and_eq_true_iff.mp hfirst
    have hstart : isIdentifierStart first = true := by
      unfold isIdentifierStart
      rw [if_pos hascii, hletter]
    rw [isIdentifierChars, hstart, Bool.true_and, ← Bool.not_eq_true, List.all_eq_true] at hword
    push Not at hword
    obtain ⟨c, hc, hcontinue⟩ := hword
    exact ⟨c, List.mem_cons_of_mem _ hc, List.all_eq_true.mp hmore c hc, by simpa using hcontinue⟩

/-- Names that are accepted and yet no names of modules are misfits. -/
theorem isMisfit_iff (h : accepts name = true) : IsMisfit name ↔ ¬IsImportable name := by
  constructor
  · rintro (⟨base, hbase⟩ | ⟨word, hmem, hreserved⟩ | ⟨word, hmem, c, hc, -, hletter⟩) himportable
    · have hnewline : '\n' ∈ name.toList := by
        rw [hbase, String.toList_append]
        exact List.mem_append_right _ (by decide)
      rcases mem_words hnewline with hpoint | ⟨word, hmem, hc⟩
      · exact absurd hpoint (by decide)
      · exact absurd (ModuleName.isIdentifierContinue_of_mem (himportable word hmem).1 hc) (by decide)
    · exact (himportable word hmem).2 hreserved
    · rw [ModuleName.isIdentifierContinue_of_mem (himportable word hmem).1 hc] at hletter
      cases hletter
  · intro hnot
    obtain hdotted | ⟨base, hbase, -⟩ := accepts_cases h
    · unfold IsImportable at hnot
      push Not at hnot
      obtain ⟨word, hmem, hword⟩ := hnot
      by_cases hreserved : word ∈ keywords
      · exact .reserved word hmem hreserved
      · have hidentifier : isIdentifier word = false := by
          rw [← Bool.not_eq_true]
          exact fun h => hreserved (hword h)
        obtain ⟨c, hc, hwordChar, hletter⟩ := exists_stray hdotted hmem hidentifier
        exact .letter word hmem c hc hwordChar hletter
    · exact .newline base hbase

/-- The name of the module that a name is read as. -/
def read (name : String) : String := ModuleName.dotted ((words name).map readName)

/-- A name is read as it stands exactly if each of its words is. -/
theorem read_eq_self_iff (h : IsImportable name) :
    read name = name ↔ ∀ word ∈ words name, readName word = word := by
  have hname : ModuleName.dotted (words name) = name := intercalate_words name
  have hwords : (∀ word ∈ words name, readName word = word) ↔
      (words name).map readName = words name := by
    rw [← List.map_inj_left, List.map_id']
  rw [hwords]
  unfold read
  constructor
  · intro hread
    refine ModuleName.dotted_injective (List.forall_mem_map.mpr fun word hword => ?_)
      (fun word hword => ?_) (hread.trans hname.symm)
    · exact ModuleName.ne_empty_of_isIdentifier (isIdentifier_readName (h word hword).1)
    · exact ModuleName.ne_empty_of_isIdentifier (h word hword).1
  · intro hsame
    rw [hsame, hname]

end RuntimeName

namespace Catalogue

/-- The imports among the statements of a module, not those below a condition. -/
def importsOf (body : Source.Module) : List (Nat × Option String × List ImportedName) :=
  body.filterMap fun
    | .importFrom level module? names => some (level, module?, names)
    | _ => none

theorem contributions_nil (directory : List String) : contributions directory [] = .ok [] := rfl

theorem importedNames_nil : importedNames [] = runtimeNames := by
  have herase : (runtimeNames ++ []).eraseDups = runtimeNames := by decide
  unfold importedNames
  rw [List.flatMap_nil]
  dsimp only
  rw [herase]
  exact List.mergeSort_of_pairwise (by decide +kernel)

theorem importsOf_program (path : List String) :
    importsOf (program path []) =
      [(0, some "__future__", [⟨"annotations", none⟩]), (0, some "typing", [⟨"TypedDict", none⟩]),
        (0, readModule path, runtimeNames.map (⟨·, none⟩))] := by
  rw [← importedNames_nil]
  rfl

end Catalogue

namespace Settings

open Catalogue RuntimeName

variable {name : String} {directory : List String}

theorem runtimeModuleOf_eq (name : String) :
    runtimeModuleOf (.string (some name)) =
      if accepts name then .ok name else .error [.notDotted name] := rfl

/-- A misfit is refused only when the generated text turns out to be no module. -/
theorem render_misfit (h : accepts name = true) (hmisfit : ¬IsImportable name) :
    (render name directory []).2 = .error .malformed := by
  have hnone : meaning? (words name) [] = none := by
    unfold meaning?
    split
    · next hwords =>
      rw [Option.eq_none_iff_forall_ne_some]
      intro found hfound
      obtain ⟨⟨hfree, -⟩, -⟩ := program?_eq_some_iff.mp hfound
      exact hmisfit fun word hword => ⟨List.all_eq_true.mp hwords word hword, hfree word hword⟩
    · rfl
  rw [render_of_contributions h (contributions_nil directory) nofun, hnone]

/-- A name for the runtime module is refused, or it is accepted and the placeholder imports from the
module of that name, or it is accepted without being one and there is no placeholder. -/
theorem runtimeModule_cases (name : String) (directory : List String) :
    (runtimeModuleOf (.string (some name)) = .error [.notDotted name] ∧
      ∃ word ∈ words name, ¬IsPlain word) ∨
    (runtimeModuleOf (.string (some name)) = .ok name ∧ IsImportable name ∧
      ∃ source body, (render name directory []).2 = .ok source ∧
        parseModule? source.toList = some body ∧
        importsOf body = [(0, some "__future__", [⟨"annotations", none⟩]),
          (0, some "typing", [⟨"TypedDict", none⟩]),
          (0, some (RuntimeName.read name), runtimeNames.map (⟨·, none⟩))] ∧
        (RuntimeName.read name = name ↔ ∀ word ∈ words name, readName word = word)) ∨
    (runtimeModuleOf (.string (some name)) = .ok name ∧ IsMisfit name ∧ ¬IsImportable name ∧
      (render name directory []).2 = .error .malformed) := by
  rw [runtimeModuleOf_eq]
  by_cases haccepts : accepts name = true
  · right
    rw [if_pos haccepts]
    by_cases himportable : IsImportable name
    · left
      obtain ⟨hrender, hparse⟩ := render_of_named haccepts (contributions_nil directory) himportable nofun
      have hmodule : readModule (words name) = some (RuntimeName.read name) := by
        unfold readModule
        rw [if_neg (by simpa using words_ne_nil name)]
        rfl
      refine ⟨rfl, himportable, _, _, hrender, hparse, ?_, read_eq_self_iff himportable⟩
      rw [importsOf_program, hmodule]
    · exact .inr ⟨rfl, (isMisfit_iff haccepts).mpr himportable, himportable,
        render_misfit haccepts himportable⟩
  · left
    rw [if_neg haccepts]
    refine ⟨rfl, ?_⟩
    by_contra hplain
    push Not at hplain
    exact haccepts (accepts_of_isPlain hplain)

/-- Misfits of each form. -/
def misfits : List String := ["uiwire\n", "class", "a²"]

theorem misfits_accepted (directory : List String) : ∀ name ∈ misfits,
    runtimeModuleOf (.string (some name)) = .ok name ∧ IsMisfit name ∧
      (render name directory []).2 = .error .malformed := by
  have haccepted : ∀ name ∈ misfits, accepts name = true ∧ ¬IsImportable name := by
    unfold IsImportable
    decide +kernel
  intro name hname
  obtain ⟨haccepts, hnot⟩ := haccepted name hname
  rcases runtimeModule_cases name directory with ⟨hrefused, -⟩ | ⟨-, himportable, -⟩ |
    ⟨haccepted, hmisfit, -, hrender⟩
  · rw [runtimeModuleOf_eq, if_pos haccepts] at hrefused
    cases hrefused
  · exact absurd himportable hnot
  · exact ⟨haccepted, hmisfit, hrender⟩

end Settings

end Registrar
