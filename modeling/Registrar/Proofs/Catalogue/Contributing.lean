import Mathlib.Data.List.Forall2
import Registrar.Proofs.Catalogue.Imports

/-! # The contributing modules

A generated module lists one reference for each file with exports, in their order, and every
reference is resolved to the name of its file. The literal of a reference denotes it as long as
the names below the common package keep to the basic plane.
-/

namespace Registrar.Catalogue

variable {runtimeModule source : String} {root package directory : List String}
  {files : List FileExports} {contributing : List Contribution} {modules : List (List String)}

theorem forall₂_of_mapM {α β ε : Type} {f : α → Except ε β} {inputs : List α} {outputs : List β}
    (h : inputs.mapM f = .ok outputs) :
    List.Forall₂ (fun input output => f input = .ok output) inputs outputs := by
  induction inputs generalizing outputs with
  | nil =>
    cases h
    exact .nil
  | cons input inputs ih =>
    rw [List.mapM_cons] at h
    cases hinput : f input with
    | error error =>
      rw [hinput] at h
      cases h
    | ok output =>
      cases hrest : inputs.mapM f with
      | error error =>
        rw [hinput, hrest] at h
        cases h
      | ok rest =>
        rw [hinput, hrest] at h
        cases h
        exact .cons hinput (ih hrest)

/-- Each contributing file has its reference, in the order of the files. -/
theorem contributions_eq_ok (h : contributions directory files = .ok contributing) :
    List.Forall₂ (fun (file : FileExports) (contribution : Contribution) =>
        contribution.file = file ∧
          Reference.ofPath file.path directory = .ok contribution.reference)
      (files.filter fun file => !file.exports.isEmpty) contributing := by
  refine (forall₂_of_mapM h).imp fun file contribution hfile => ?_
  split at hfile
  · next hreference =>
    cases hfile
    exact ⟨rfl, hreference⟩
  · cases hfile
  · cases hfile

/-- A file of a module below a directory whose outermost package is the one of the generated
module. -/
structure Contributes (root package : List String) (file : FileExports) (names : List String) :
    Prop where
  stands : StandsAs root names file.path.names
  parts : ∀ name ∈ names, Reference.IsPart name
  top : names.head? = package.head?

theorem contributing_resolved (hroot : ∀ name ∈ root, FileNode.IsName name) (hne : package ≠ [])
    (hpackage : ∀ name ∈ package, Reference.IsPart name ∧ '.' ∉ name.toList)
    (hmodules : List.Forall₂ (Contributes root package)
      (files.filter fun file => !file.exports.isEmpty) modules)
    (h : (render runtimeModule (root ++ package) files).2 = .ok source) :
    ∃ references : List Reference,
      (initializerLines references).map String.toList <:+: lines source.toList ∧
      List.Forall₂ (fun reference names =>
        ModuleName.resolve (some (ModuleName.dotted package)) reference.module =
          .ok (ModuleName.dotted names) ∧
        (Source.Denotes (Json.literal reference.module) reference.module ↔
          Source.IsBasic reference.module)) references modules := by
  obtain ⟨contributing, hcontributing, -⟩ := render_eq_ok h
  have hfiles := contributions_eq_ok hcontributing
  refine ⟨contributing.map (·.reference), (isInfix_of_render h hcontributing).2, ?_⟩
  generalize files.filter (fun file => !file.exports.isEmpty) = contributingFiles at hmodules hfiles
  clear h hcontributing
  rw [List.forall₂_map_left_iff]
  induction hmodules generalizing contributing with
  | nil =>
    cases hfiles
    exact .nil
  | cons hfile _ ih =>
    cases hfiles with
    | cons hreference hfiles =>
      have hresolved := Reference.resolve_of_ofPath hroot
        (fun name hname => (hpackage name hname).1)
        (fun name hname => (hpackage name hname).2) hfile.parts hne hfile.top hfile.stands
        hreference.2
      exact .cons ⟨hresolved, Source.denotes_literal_iff _⟩ (ih _ hfiles)

/-! ## Two files of one package -/

/-- A module beside the package of the generated module and that package itself, which both
register the same key. -/
def siblings : List FileExports :=
  [⟨⟨.slash, ["s", "p", "a.py"]⟩,
    [⟨⟨.slash, ["s", "p", "a.py"]⟩, some "A", "A_0", "key", .config⟩]⟩,
   ⟨⟨.slash, ["s", "p", "q", "__init__.py"]⟩,
    [⟨⟨.slash, ["s", "p", "q", "__init__.py"]⟩, some "B", "B_1", "key", .hook⟩]⟩]

/-- The two files with their references. -/
def siblingContributions : List Contribution :=
  siblings.zipWith Contribution.mk [⟨2, ["a"]⟩, ⟨1, []⟩]

theorem contributions_siblings :
    contributions (["s"] ++ ["p", "q"]) siblings = .ok siblingContributions := by
  decide +kernel

theorem render_siblings :
    ∃ source, (render RuntimeName.usual (["s"] ++ ["p", "q"]) siblings).2 = .ok source := by
  refine exists_render_usual contributions_siblings ?_
  have himports : allTypeImports siblingContributions =
      [⟨2, ["a"], ("A", "A_0"), []⟩, ⟨1, [], ("B", "B_1"), []⟩] := rfl
  rw [himports, List.forall_mem_cons, List.forall_mem_singleton]
  exact ⟨⟨⟨by decide, by decide +kernel, by decide +kernel⟩, by decide⟩,
    ⟨⟨by decide, by decide +kernel, by decide +kernel⟩, by decide⟩⟩

theorem siblings_resolved :
    ∃ source, (render RuntimeName.usual (["s"] ++ ["p", "q"]) siblings).2 = .ok source ∧
      ∃ references : List Reference,
        (initializerLines references).map String.toList <:+: lines source.toList ∧
        List.Forall₂ (fun reference names =>
          ModuleName.resolve (some (ModuleName.dotted ["p", "q"])) reference.module =
            .ok (ModuleName.dotted names) ∧
          (Source.Denotes (Json.literal reference.module) reference.module ↔
            Source.IsBasic reference.module)) references [["p", "a"], ["p", "q"]] := by
  obtain ⟨source, h⟩ := render_siblings
  refine ⟨source, h, contributing_resolved ?_ (List.cons_ne_nil _ _) ?_ ?_ h⟩
  · decide +kernel
  · decide +kernel
  · have hmodule : StandsAs ["s"] ["p", "a"] ["s", "p", "a.py"] := .module ["p"] "a"
    have hpackage : StandsAs ["s"] ["p", "q"] ["s", "p", "q", "__init__.py"] := .package _
    exact .cons ⟨hmodule, by decide +kernel, rfl⟩ (.cons ⟨hpackage, by decide +kernel, rfl⟩ .nil)

end Registrar.Catalogue
