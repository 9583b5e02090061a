import Mathlib.Data.List.Nodup
import Registrar.Proofs.Catalogue.Contributing
import Registrar.Proofs.Catalogue.Meaning
import Registrar.Proofs.Catalogue.Table

/-! # What the listed literals evaluate to

A generated module lists keys and references as literals. In the final text each of them is one
token, which evaluates to the code points of the halves that its text is written in. Different
texts are written in different halves, so that keys stay apart, whether or not their literals
denote them.
-/

namespace Registrar

namespace Source

/-- A literal evaluates to code points: it is one token, which stands for them. -/
def Evaluates (literal : String) (points : List Nat) : Prop :=
  ∃ body, Escape.decodeText false body = some points ∧
    ∀ rest, rest.head? ≠ some '"' →
      Lexer.readToken (literal.toList ++ rest) = some (.string ⟨false, false, false, body⟩, rest)

namespace Escape

/-- The code points that the literal of a text stands for. -/
def pointsOf (text : String) : List Nat := text.toList.flatMap units

/-- No character is half of a pair. -/
theorem toNat_not_half (c : Char) : c.toNat < 0xD800 ∨ 0xDFFF < c.toNat := by
  have h := c.valid
  simp only [UInt32.isValidChar, Nat.isValidChar] at h
  simp only [Char.toNat]
  omega

theorem units_ne_nil (c : Char) : units c ≠ [] := by
  unfold units
  split <;> simp

/-- The code points of a character are told from what follows them. -/
theorem units_append_inj {c d : Char} {front more : List Nat}
    (h : units c ++ front = units d ++ more) : c = d ∧ front = more := by
  have hc := toNat_not_half c
  have hd := toNat_not_half d
  have hscalar := toNat_lt c
  have hother := toNat_lt d
  have hsame : c.toNat = d.toNat → c = d := fun hnat => Char.toNat_inj.mp hnat
  unfold units at h
  by_cases hbasic : c.toNat < 0x10000 <;> by_cases hplain : d.toNat < 0x10000
  · rw [if_pos hbasic, if_pos hplain] at h
    obtain ⟨hnat, hrest⟩ := List.cons.inj h
    exact ⟨hsame hnat, hrest⟩
  · rw [if_pos hbasic, if_neg hplain] at h
    obtain ⟨hnat, -⟩ := List.cons.inj h
    omega
  · rw [if_neg hbasic, if_pos hplain] at h
    obtain ⟨hnat, -⟩ := List.cons.inj h
    omega
  · rw [if_neg hbasic, if_neg hplain] at h
    obtain ⟨hhigh, h⟩ := List.cons.inj h
    obtain ⟨hlow, hrest⟩ := List.cons.inj h
    exact ⟨hsame (by omega), hrest⟩

theorem flatMap_units_inj {letters others : List Char}
    (h : letters.flatMap units = others.flatMap units) : letters = others := by
  induction letters generalizing others with
  | nil =>
    cases others with
    | nil => rfl
    | cons d others => simp [units_ne_nil] at h
  | cons c letters ih =>
    cases others with
    | nil => simp [units_ne_nil] at h
    | cons d others =>
      rw [List.flatMap_cons, List.flatMap_cons] at h
      obtain ⟨rfl, hrest⟩ := units_append_inj h
      rw [ih hrest]

/-- Different texts stand for different code points. -/
theorem pointsOf_injective : Function.Injective pointsOf := by
  intro first second h
  apply String.toList_injective
  exact flatMap_units_inj h

end Escape

theorem evaluates_literal (text : String) :
    Evaluates (Json.literal text) (Escape.pointsOf text) :=
  ⟨_, Escape.decodeFrom_escapes text.toList, fun _ hrest => Lexer.readToken_literal text hrest⟩

end Source

namespace Catalogue

open Source

variable {runtimeModule source : String} {directory : List String} {files : List FileExports}
  {contributing : List Contribution}

theorem bodyStatements_subset_program {path : List String} {program : Source.Module}
    (h : program? path contributing = some program) :
    bodyStatements (dictionaryLine path contributing) contributing ⊆ program := by
  unfold program? at h
  simp only [Option.bind_eq_bind, Option.bind_eq_some_iff, Option.pure_def, Option.some.injEq] at h
  obtain ⟨runtime, -, types, -, rfl⟩ := h
  intro statement hstatement
  exact List.mem_append_right _ hstatement

/-- A text lists the keys of exports and the references of contributions as literals that stand for
them as far as escapes can. -/
structure ListsLiterals (exports : List Export) (contributing : List Contribution)
    (source : String) : Prop where
  /-- The listed keys are those of the exports. -/
  keys : ∀ key, key ∈ (entries exports).map (·.key) ↔ key ∈ exports.map (·.key)
  dependencies : (dependenciesLines (entries exports)).map String.toList <:+: lines source.toList
  references : (initializerLines (contributing.map (·.reference))).map String.toList <:+:
    lines source.toList
  /-- Every listed literal evaluates, to its text exactly if that keeps to the basic plane. -/
  evaluates : ∀ text ∈ (entries exports).map (·.key) ++ contributing.map (·.reference.module),
    Evaluates (Json.literal text) (Escape.pointsOf text) ∧
      (Escape.pointsOf text = text.toList.map Char.toNat ↔ IsBasic text)
  /-- Different keys evaluate to different texts. -/
  apart : ((entries exports).map fun entry => Escape.pointsOf entry.key).Nodup
  /-- Where all names that are imported are identifiers, the text is read as a module that holds
  the two lists. -/
  read : (∀ entry ∈ allTypeImports contributing, entry.IsNamed) →
    ∃ program line, parseModule? source.toList = some program ∧
      dictionaryStatement line (entries exports) ∈ program ∧
      moduleListStatement (contributing.map (·.reference)) ∈ program

theorem render_literals (h : (render runtimeModule directory files).2 = .ok source) :
    ∃ contributing, contributions directory files = .ok contributing ∧
      ListsLiterals (files.flatMap (·.exports)) contributing source := by
  obtain ⟨contributing, hcontributing, -⟩ := render_eq_ok h
  have hexports := flatMap_contributions hcontributing
  obtain ⟨hdependencies, hreferences⟩ := isInfix_of_render h hcontributing
  rw [hexports] at hdependencies
  refine ⟨contributing, hcontributing, fun key => mem_keys_entries, hdependencies, hreferences,
    fun text _ => ⟨evaluates_literal text, Escape.flatMap_units_eq_iff text.toList⟩, ?_, ?_⟩
  · have hkeys := nodup_entries (files.flatMap (·.exports))
    have hpoints := List.Nodup.map Escape.pointsOf_injective hkeys
    rwa [List.map_map] at hpoints
  · intro himports
    obtain ⟨program, hprogram, hparsed⟩ := parseModule?_of_render h hcontributing himports
    have hbody := bodyStatements_subset_program hprogram
    refine ⟨program, dictionaryLine (RuntimeName.words runtimeModule) contributing, hparsed,
      hbody ?_, hbody ?_⟩
    · rw [← hexports]
      simp [bodyStatements]
    · simp [bodyStatements]

theorem siblings_literals :
    ∃ source, (render RuntimeName.usual (["s"] ++ ["p", "q"]) siblings).2 = .ok source ∧
      ∃ contributing, contributions (["s"] ++ ["p", "q"]) siblings = .ok contributing ∧
        ListsLiterals (siblings.flatMap (·.exports)) contributing source := by
  obtain ⟨source, h⟩ := render_siblings
  exact ⟨source, h, render_literals h⟩

end Catalogue

end Registrar
