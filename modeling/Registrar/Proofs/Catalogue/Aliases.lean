import Mathlib.Data.List.Nodup
import Mathlib.Data.List.Range
import Mathlib.Data.List.TakeWhile
import Registrar.Proofs.Project.Generation
import Registrar.Proofs.Project.Text
import Std.Data.String.ToNat

/-! # Aliases are distinct

The exports of an analysis are numbered through all its files, and an alias ends in the number of its
export. The number can be read off the alias whatever stands before it, so no two aliases agree.
-/

namespace Registrar

namespace Export

/-- What an export says beyond its place: the registration it was made of. -/
def registration (entry : Export) : Registration := ⟨entry.name, entry.key, entry.kind⟩

/-- The number at the end of an alias, after its last underscore. -/
def number? (text : String) : Option Nat :=
  (String.ofList (text.toList.reverse.takeWhile (· != '_')).reverse).toNat?

theorem isDigit_of_mem_repr {n : Nat} {c : Char} (h : c ∈ n.repr.toList) : c.isDigit = true := by
  rw [Nat.toList_repr] at h
  exact Nat.isDigit_of_mem_toDigits (by decide) (by decide) h

/-- The digits of a number hold no underscore. -/
theorem underscore_notMem_repr (n : Nat) : '_' ∉ n.repr.toList :=
  fun h => absurd (isDigit_of_mem_repr h) (by decide)

/-- The number at the end of a text is read whatever stands before its underscore. -/
theorem number?_of_toList {text : String} {front : List Char} {n : Nat}
    (h : text.toList = front ++ '_' :: n.repr.toList) : number? text = some n := by
  have hdigits : ∀ c ∈ n.repr.toList.reverse, (c != '_') = true := by
    intro c hc
    have hne : c ≠ '_' := by
      rintro rfl
      exact underscore_notMem_repr n (List.mem_reverse.mp hc)
    simpa using hne
  have hlast : (text.toList.reverse.takeWhile (· != '_')).reverse = n.repr.toList := by
    rw [h, List.reverse_append, List.reverse_cons, List.append_assoc,
      List.takeWhile_append_of_pos hdigits]
    simp
  unfold number?
  rw [hlast, String.ofList_toList, Nat.toNat?_repr]

theorem toList_aliasOf (name : Option String) (path : Path) (index : Nat) :
    (aliasOf name path index).toList =
      (identifierOf (name.getD (moduleName path))).toList ++ '_' :: index.repr.toList := by
  unfold aliasOf
  rw [String.toList_append, String.toList_append, List.append_assoc]
  rfl

/-- The number of an export is read off its alias. -/
theorem number?_aliasOf (name : Option String) (path : Path) (index : Nat) :
    number? (aliasOf name path index) = some index :=
  number?_of_toList (toList_aliasOf name path index)

variable (path : Path) (start : Nat) (registrations : List Registration)

theorem map_number?_ofRegistrations :
    (ofRegistrations path start registrations).map (number? ·.alias) =
      (List.range' start registrations.length).map some := by
  apply List.ext_getElem
  · simp [ofRegistrations]
  · intro i _ _
    simp [ofRegistrations, number?_aliasOf]

theorem map_registration_ofRegistrations :
    (ofRegistrations path start registrations).map registration = registrations := by
  apply List.ext_getElem
  · simp [ofRegistrations]
  · intro i _ _
    simp [ofRegistrations, registration]

end Export

namespace FileExports

variable (start : Nat) (scans : List (Path × List Registration))

/-- The numbers of the exports go through the files without gaps. -/
theorem map_number?_number :
    ((number start scans).flatMap (·.exports)).map (Export.number? ·.alias) =
      (List.range' start ((number start scans).flatMap (·.exports)).length).map some := by
  induction scans generalizing start with
  | nil => rfl
  | cons scan scans ih =>
    obtain ⟨path, registrations⟩ := scan
    have hlength : (Export.ofRegistrations path start registrations).length =
        registrations.length := List.length_mapIdx
    rw [number, List.flatMap_cons, List.map_append, ih, Export.map_number?_ofRegistrations,
      ← List.map_append, List.length_append, hlength, ← List.range'_append_1]

/-- Numbering keeps the files and their registrations in order. -/
theorem map_registrations_number :
    (number start scans).map (fun file => (file.path, file.exports.map Export.registration)) =
      scans := by
  induction scans generalizing start with
  | nil => rfl
  | cons scan scans ih =>
    rw [number, List.map_cons, ih, Export.map_registration_ofRegistrations]

theorem nodup_aliases_number :
    (((number start scans).flatMap (·.exports)).map (·.alias)).Nodup := by
  have hnumbers : ((((number start scans).flatMap (·.exports)).map (·.alias)).map
      Export.number?).Nodup := by
    rw [List.map_map]
    exact (map_number?_number start scans).symm ▸
      (List.nodup_range' 1).map fun _ _ => Option.some.inj
  exact hnumbers.of_map _

end FileExports

namespace Analysis

/-- Exports of any registrations are numbered through the files, and their aliases are distinct.
An analysis numbers what it finds so, and finds the same in the same tree. -/
theorem aliases_distinct {selection : Selection} {world after : World} {files : List FileExports}
    (scans : List (Path × List Registration)) (h : run selection world = (.ok files, after)) :
    (let numbered := FileExports.number 0 scans
      let exports := numbered.flatMap (·.exports)
      numbered.map (fun file => (file.path, file.exports.map Export.registration)) = scans ∧
        exports.map (Export.number? ·.alias) = (List.range exports.length).map some ∧
        (exports.map (·.alias)).Nodup) ∧
      (∃ paths, selection.expand world.tree world.working = .ok paths ∧
        files = FileExports.number 0
          (paths.map fun path => (path, (scanFile .usual world.tree path).2))) ∧
      after.tree = world.tree ∧
      ∀ again : World, again.tree = after.tree → again.working = after.working →
        ∃ last, run selection again = (.ok files, last) := by
  obtain ⟨hexports, htree, hworking⟩ := (reads_run selection).ok h
  refine ⟨⟨FileExports.map_registrations_number 0 scans, ?_,
    FileExports.nodup_aliases_number 0 scans⟩, ?_, htree, fun again hagain hdirectory => ?_⟩
  · rw [List.range_eq_range']
    exact FileExports.map_number?_number 0 scans
  · unfold exports at hexports
    cases hpaths : selection.expand world.tree world.working with
    | error error =>
      rw [hpaths] at hexports
      cases hexports
    | ok paths =>
      rw [hpaths] at hexports
      exact ⟨paths, rfl, (Except.ok.inj hexports).symm⟩
  · obtain ⟨events, hrun⟩ := (reads_run selection).apply again
      (show exports selection again.tree again.working = .ok files by
        rw [hagain, hdirectory, htree, hworking, hexports])
    exact ⟨_, hrun⟩

/-! ## Two files that register -/

/-- A module that binds a hook to a name, and one that registers a configuration. -/
def pair : World :=
  ⟨.directory [("a.py", .file "A = register_hook('k')\n".toUTF8),
    ("b.py", .file "register_config('c')\n".toUTF8)], [], []⟩

/-- The selection of the two files. -/
def pairSelection : Selection :=
  ⟨["/a.py", "/b.py"], [], ⟨.slash, []⟩, some ⟨.slash, ["gen.py"]⟩⟩

/-- What is registered in the two files. -/
def pairScans : List (Path × List Registration) :=
  [(⟨.slash, ["a.py"]⟩, [⟨some "A", "k", .hook⟩]), (⟨.slash, ["b.py"]⟩, [⟨none, "c", .config⟩])]

/-- An absolute pattern that spells one path only expands to it. -/
theorem expandPattern_eq_singleton {selection : Selection} {root : FileNode} {working : List String}
    {pattern : String} {path : Path} (hanchor : Path.isAbsoluteText pattern = true)
    (hlistable : Expansion.isUnlistable pattern = false)
    (hspellings : Expansion.spellings root (pattern.length + 1) false pattern = [pattern])
    (hresolve : (Path.ofString pattern).resolve root working = .ok path) :
    selection.expandPattern root working pattern = .ok [path] := by
  have hsorted : Expansion.sortedSpellings root pattern = [pattern] := by
    unfold Expansion.sortedSpellings
    rw [hspellings]
    exact List.mergeSort_singleton pattern
  unfold Selection.expandPattern Selection.anchor
  rw [if_pos hanchor]
  dsimp only
  rw [hlistable, if_neg Bool.false_ne_true, hsorted, List.mapM_cons, hresolve]
  rfl

/-- What is registered in a file whose text is known. -/
theorem scanFile_of_textAt? {root : FileNode} {path : Path} (source : String)
    {registrations : List Registration} (htext : textAt? root path = some source)
    (hscanned : (Registration.scanSource? .usual source).map (·.registrations) =
      some registrations) : (scanFile .usual root path).2 = registrations := by
  obtain ⟨scan, hscan, rfl⟩ := Option.map_eq_some_iff.mp hscanned
  unfold scanFile
  rw [htext]
  dsimp only
  rw [hscan]

theorem expand_pair : pairSelection.expand pair.tree pair.working =
    .ok (pairScans.map Prod.fst) := by
  have hfirst : pairSelection.expandPattern pair.tree pair.working "/a.py" =
      .ok [⟨.slash, ["a.py"]⟩] :=
    expandPattern_eq_singleton (by decide +kernel) (by decide +kernel) (by decide +kernel) rfl
  have hsecond : pairSelection.expandPattern pair.tree pair.working "/b.py" =
      .ok [⟨.slash, ["b.py"]⟩] :=
    expandPattern_eq_singleton (by decide +kernel) (by decide +kernel) (by decide +kernel) rfl
  unfold Selection.expand Selection.expandPatterns
  rw [show pairSelection.includes = ["/a.py", "/b.py"] from rfl, List.mapM_cons, List.mapM_cons,
    hfirst, hsecond]
  rfl

set_option maxRecDepth 20000 in
theorem run_pair : ∃ after,
    run pairSelection pair = (.ok (FileExports.number 0 pairScans), after) := by
  have hfirst : (scanFile .usual pair.tree ⟨.slash, ["a.py"]⟩).2 = [⟨some "A", "k", .hook⟩] :=
    scanFile_of_textAt? "A = register_hook('k')\n" (Work.decode?_toUTF8 (by decide))
      (by decide +kernel)
  have hsecond : (scanFile .usual pair.tree ⟨.slash, ["b.py"]⟩).2 = [⟨none, "c", .config⟩] :=
    scanFile_of_textAt? "register_config('c')\n" (Work.decode?_toUTF8 (by decide))
      (by decide +kernel)
  have hexports : exports pairSelection pair.tree pair.working =
      .ok (FileExports.number 0 pairScans) := by
    unfold exports
    rw [expand_pair]
    change Except.ok (FileExports.number 0
      [(⟨.slash, ["a.py"]⟩, (scanFile .usual pair.tree ⟨.slash, ["a.py"]⟩).2),
        (⟨.slash, ["b.py"]⟩, (scanFile .usual pair.tree ⟨.slash, ["b.py"]⟩).2)]) = _
    rw [hfirst, hsecond]
    rfl
  obtain ⟨events, hrun⟩ := (reads_run pairSelection).apply pair hexports
  exact ⟨_, hrun⟩

/-- Two symbols that would run into each other's numbers still have two aliases. -/
theorem pair_aliases :
    ∃ after, run pairSelection pair = (.ok (FileExports.number 0 pairScans), after) ∧
      (((FileExports.number 0 [(⟨.slash, ["a.py"]⟩,
        [⟨some "A_1", "k", .hook⟩, ⟨some "A", "c", .config⟩])]).flatMap
          (·.exports)).map (·.alias)).Nodup ∧
      ∃ last, run pairSelection after = (.ok (FileExports.number 0 pairScans), last) := by
  obtain ⟨after, hrun⟩ := run_pair
  obtain ⟨⟨-, -, hnodup⟩, -, -, hagain⟩ := aliases_distinct [(⟨.slash, ["a.py"]⟩,
    [⟨some "A_1", "k", .hook⟩, ⟨some "A", "c", .config⟩])] hrun
  exact ⟨after, hrun, hnodup, hagain after rfl rfl⟩

end Analysis

end Registrar
