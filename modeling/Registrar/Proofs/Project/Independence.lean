import Mathlib.Data.List.Forall2
import Registrar.Proofs.Catalogue.Aliases
import Registrar.Proofs.Selection.Canonical

/-! # Files are analysed independently

What is found in a file hangs on the octets of that file alone. What other files hold moves the
numbers in its aliases, all by the same offset, and nothing else. A file that is no module has an
entry without exports and one warning, and the analysis goes on.
-/

namespace Registrar

/-! ## Numbers that are moved -/

/-- An export is another one but for the number in its alias, which is an offset away. -/
structure Export.ShiftedBy (offset : Int) (entry other : Export) : Prop where
  path : other.path = entry.path
  registration : other.registration = entry.registration
  aliases : ∃ (stem : String) (n m : Nat), entry.alias = stem ++ "_" ++ toString n ∧
    other.alias = stem ++ "_" ++ toString m ∧ (m : Int) = n + offset

/-- The exports of a file are those of another analysis but for their numbers. -/
structure FileExports.ShiftedBy (offset : Int) (file other : FileExports) : Prop where
  path : other.path = file.path
  exports : List.Forall₂ (Export.ShiftedBy offset) file.exports other.exports

theorem Export.shiftedBy_ofRegistrations (path : Path) (start start' : Nat)
    (registrations : List Registration) :
    List.Forall₂ (ShiftedBy (start' - start)) (ofRegistrations path start registrations)
      (ofRegistrations path start' registrations) := by
  refine List.forall₂_iff_get.mpr ⟨by simp [ofRegistrations], fun i hi hi' => ?_⟩
  have hregistered : i < registrations.length := by simpa [ofRegistrations] using hi
  have hget (first : Nat) (h : i < (ofRegistrations path first registrations).length) :
      (ofRegistrations path first registrations).get ⟨i, h⟩ =
        let registration := registrations.get ⟨i, hregistered⟩
        ⟨path, registration.name, aliasOf registration.name path (first + i), registration.key,
          registration.kind⟩ := by
    simp [ofRegistrations]
  rw [hget, hget]
  exact ⟨rfl, rfl, _, start + i, start' + i, rfl, rfl, by omega⟩

namespace FileExports

/-- How many registrations were found in some files. -/
def total (scans : List (Path × List Registration)) : Nat := (scans.flatMap (·.2)).length

theorem number_append (start : Nat) (scans more : List (Path × List Registration)) :
    number start (scans ++ more) = number start scans ++ number (start + total scans) more := by
  induction scans generalizing start with
  | nil => rfl
  | cons scan scans ih =>
    obtain ⟨path, registrations⟩ := scan
    rw [List.cons_append, number, ih, number, List.cons_append, total, total, List.flatMap_cons,
      List.length_append, Nat.add_assoc]

/-- Numbering from another number on moves all numbers by one offset. -/
theorem shiftedBy_number (start start' : Nat) (scans : List (Path × List Registration)) :
    List.Forall₂ (ShiftedBy (start' - start)) (number start scans) (number start' scans) := by
  induction scans generalizing start start' with
  | nil => exact .nil
  | cons scan scans ih =>
    obtain ⟨path, registrations⟩ := scan
    have hrest := ih (start + registrations.length) (start' + registrations.length)
    have hoffset : ((start' + registrations.length : Nat) : Int) - (start + registrations.length : Nat) =
        start' - start := by omega
    rw [hoffset] at hrest
    exact .cons ⟨rfl, Export.shiftedBy_ofRegistrations path start start' registrations⟩ hrest

theorem map_path_number (start : Nat) (scans : List (Path × List Registration)) :
    (number start scans).map (·.path) = scans.map Prod.fst := by
  induction scans generalizing start with
  | nil => rfl
  | cons scan scans ih => rw [number, List.map_cons, ih, List.map_cons]

end FileExports

/-! ## Files that are no modules -/

theorem Selection.nodup_expand {selection : Selection} {tree : FileNode} {working : List String}
    {paths : List Path} (h : selection.expand tree working = .ok paths) : paths.Nodup := by
  unfold expand at h
  cases hexcluded : selection.expandPatterns tree working selection.excludes with
  | error error =>
    rw [hexcluded] at h
    cases h
  | ok excluded =>
    cases hfound : selection.includes.mapM (selection.expandPattern tree working) with
    | error error =>
      rw [hexcluded] at h
      unfold expandPatterns at h
      rw [hfound] at h
      cases h
    | ok found =>
      rw [hexcluded] at h
      unfold expandPatterns at h
      rw [hfound] at h
      cases h
      have hdistinct : found.flatten.eraseDups.Nodup := by
        have hpairwise := pairwise_eraseDups (f := id) (r := fun _ _ => True)
          (List.pairwise_of_forall (l := found.flatten) fun _ _ => trivial)
        rw [List.map_id] at hpairwise
        exact hpairwise.imp And.left
      exact hdistinct.filter _

namespace Analysis

variable {selection : Selection} {world other : World} {tree : FileNode} {path : Path}
  {paths before after : List Path}

/-- What is reported about a file that cannot be read as text or is no module. -/
def trouble? (tree : FileNode) (path : Path) : Option Event :=
  match textAt? tree path with
  | none => some (.unreadable path)
  | some source =>
    if (Registration.scanSource? .usual source).isNone then some (.unparsable path) else none

theorem warnings_scanFile (tree : FileNode) (path : Path) :
    (scanFile .usual tree path).1.filter (·.severity = .warning) = (trouble? tree path).toList := by
  unfold scanFile trouble?
  cases textAt? tree path with
  | none => rfl
  | some source =>
    dsimp only
    cases Registration.scanSource? .usual source with
    | none => rfl
    | some scan =>
      dsimp only
      rw [List.filter_eq_nil_iff.mpr]
      · rfl
      · rintro event hevent
        obtain ⟨line, -, rfl⟩ := List.mem_map.mp hevent
        exact Bool.false_ne_true

theorem scanFile_of_trouble? {event : Event} (h : trouble? tree path = some event) :
    (scanFile .usual tree path).2 = [] := by
  unfold trouble? at h
  unfold scanFile
  cases htext : textAt? tree path with
  | none => rfl
  | some source =>
    rw [htext] at h
    dsimp only at h ⊢
    cases hscan : Registration.scanSource? .usual source with
    | none => rfl
    | some scan =>
      rw [hscan] at h
      cases h

/-- What is found in a file hangs on its octets alone. -/
theorem scanFile_congr (h : other.tree.read path.names = tree.read path.names) :
    scanFile .usual other.tree path = scanFile .usual tree path := by
  unfold scanFile textAt?
  rw [h]

/-! ## One analysis -/

/-- The files with what is registered in them. -/
def scans (tree : FileNode) (paths : List Path) : List (Path × List Registration) :=
  paths.map fun path => (path, (scanFile .usual tree path).2)

theorem run_of_expand (hpaths : selection.expand world.tree world.working = .ok paths) :
    run selection world = (.ok (FileExports.number 0 (scans world.tree paths)),
      { world with events := world.events ++ [.scanning paths.length] ++
          paths.flatMap fun path => (scanFile .usual world.tree path).1 }) := by
  have hfiles : selection.files world = (.ok paths, world) := by
    have hget : (get : Work World) world = (.ok world, world) := rfl
    unfold Selection.files
    rw [Work.bind_of_ok hget, hpaths]
    rfl
  unfold run
  rw [Work.bind_of_ok hfiles]
  have hscans : (paths.map fun path => (path, scanFile .usual world.tree path)).map
      (fun scan => (scan.1, scan.2.2)) = scans world.tree paths := by
    simp [scans, Function.comp_def]
  have hevents : (paths.map fun path => (path, scanFile .usual world.tree path)).flatMap
      (fun scan => scan.2.1) = paths.flatMap fun path => (scanFile .usual world.tree path).1 :=
    List.flatMap_map _ _ _
  rw [← hscans, ← hevents]
  rfl

/-- What an analysis found in some files and reported: an entry for each file, without exports where
the file is no module, and one warning for each of these. -/
structure Covers (tree : FileNode) (paths : List Path) (files : List FileExports)
    (reported : List Event) : Prop where
  entries : files.map (·.path) = paths
  distinct : paths.Nodup
  empty : ∀ path ∈ paths, (trouble? tree path).isSome → ⟨path, []⟩ ∈ files
  warnings : reported.filter (·.severity = .warning) = paths.filterMap (trouble? tree)

theorem covers_of_expand (hpaths : selection.expand world.tree world.working = .ok paths) :
    ∃ reported, run selection world = (.ok (FileExports.number 0 (scans world.tree paths)),
        { world with events := world.events ++ reported }) ∧
      Covers world.tree paths (FileExports.number 0 (scans world.tree paths)) reported := by
  refine ⟨.scanning paths.length :: paths.flatMap fun path => (scanFile .usual world.tree path).1, ?_,
    ⟨?_, Selection.nodup_expand hpaths, fun path hpath htrouble => ?_, ?_⟩⟩
  · rw [run_of_expand hpaths, List.append_assoc]
    rfl
  · rw [FileExports.map_path_number]
    simp [scans, Function.comp_def]
  · obtain ⟨event, hevent⟩ := Option.isSome_iff_exists.mp htrouble
    obtain ⟨front, back, rfl⟩ := List.append_of_mem hpath
    rw [scans, List.map_append, List.map_cons, FileExports.number_append, FileExports.number,
      scanFile_of_trouble? hevent]
    exact List.mem_append_right _ List.mem_cons_self
  · rw [List.filter_cons_of_neg Bool.false_ne_true, List.filter_flatMap, List.filterMap_eq_flatMap_toList]
    exact List.flatMap_congr fun path _ => warnings_scanFile world.tree path

/-! ## Two analyses -/

/-- Two analyses agree beside one file: on the files before it, and on those after it but for their
numbers, which are as far apart as the exports of the one file are many. -/
def AgreeBeside (before : List Path) (path : Path) (after : List Path)
    (files others : List FileExports) : Prop :=
  ∃ front found found' back back', files = front ++ found :: back ∧ others = front ++ found' :: back' ∧
    front.map (·.path) = before ∧ found.path = path ∧ found'.path = path ∧
    back.map (·.path) = after ∧
    List.Forall₂ (FileExports.ShiftedBy (found'.exports.length - found.exports.length)) back back'

theorem agreeBeside_number (path : Path) (front back : List (Path × List Registration))
    (registrations registrations' : List Registration) :
    AgreeBeside (front.map Prod.fst) path (back.map Prod.fst)
      (FileExports.number 0 (front ++ (path, registrations) :: back))
      (FileExports.number 0 (front ++ (path, registrations') :: back)) := by
  have hlength (start : Nat) (registrations : List Registration) :
      (Export.ofRegistrations path start registrations).length = registrations.length :=
    List.length_mapIdx
  have hshifted := FileExports.shiftedBy_number (0 + FileExports.total front + registrations.length)
    (0 + FileExports.total front + registrations'.length) back
  rw [FileExports.number_append, FileExports.number_append]
  refine ⟨_, _, _, _, _, rfl, rfl, FileExports.map_path_number _ _, rfl, rfl,
    FileExports.map_path_number _ _, ?_⟩
  dsimp only
  rw [hlength, hlength]
  have hoffset : ((0 + FileExports.total front + registrations'.length : Nat) : Int) -
      (0 + FileExports.total front + registrations.length : Nat) =
        registrations'.length - registrations.length := by omega
  rwa [hoffset] at hshifted

/-- Two files of which the first holds an octet that is no text. -/
def spoiled : World :=
  ⟨.directory [("a.py", .file ⟨#[0xff]⟩), ("b.py", .file "register_config('c')\n".toUTF8)], [], []⟩

end Analysis

end Registrar
