import Mathlib.Data.List.TakeWhile
import Registrar.Bootstrap.ModuleName
import Registrar.Catalogue.Reference
import Registrar.Proofs.Catalogue.Lines
import Registrar.Proofs.Files.Places

/-! # References name their files

The reference of a file and the resolving of names are each other's inverse: seen from the package
of the generated module, the reference of a file is resolved to the name the file has as a module.
-/

namespace Registrar

namespace ModuleName

/-- The name of parts, with points between them. -/
def dotted (names : List String) : String := ".".intercalate names

variable {names package common up down : List String}

theorem ofParts_eq_joinChars (parts : List (List Char)) :
    ofParts parts = joinChars ['.'] parts := by
  induction parts with
  | nil => rfl
  | cons part more ih =>
    cases more with
    | nil => rfl
    | cons next more => rw [ofParts, ih, joinChars_cons (List.cons_ne_nil _ _)]; simp

theorem toList_dotted (names : List String) :
    (dotted names).toList = ofParts (names.map String.toList) := by
  unfold dotted
  rw [String.toList_intercalate, ofParts_eq_joinChars, joinChars_eq_intercalate]
  rfl

theorem parts_of_not_mem {part : List Char} (h : '.' ∉ part) : parts part = [part] := by
  induction part with
  | nil => rfl
  | cons c part ih =>
    obtain ⟨hc, hpart⟩ := not_or.mp (List.mem_cons.not.mp h)
    rw [parts, if_neg (Ne.symm hc), ih hpart]

theorem parts_append {part : List Char} (h : '.' ∉ part) (rest : List Char) :
    parts (part ++ '.' :: rest) = part :: parts rest := by
  induction part with
  | nil => simp [parts]
  | cons c part ih =>
    obtain ⟨hc, hpart⟩ := not_or.mp (List.mem_cons.not.mp h)
    rw [List.cons_append, parts, if_neg (Ne.symm hc), ih hpart]

/-- Parts without points are the parts of their name. -/
theorem parts_ofParts {pieces : List (List Char)} (hne : pieces ≠ [])
    (h : ∀ piece ∈ pieces, '.' ∉ piece) : parts (ofParts pieces) = pieces := by
  induction pieces with
  | nil => exact absurd rfl hne
  | cons piece more ih =>
    obtain ⟨hpiece, hmore⟩ := List.forall_mem_cons.mp h
    cases more with
    | nil => exact parts_of_not_mem hpiece
    | cons next more =>
      rw [ofParts_eq_joinChars, joinChars_cons (List.cons_ne_nil _ _), parts_append hpiece,
        ← ofParts_eq_joinChars, ih (List.cons_ne_nil _ _) hmore]

theorem head_of_isIdentifier {name : String} (h : isIdentifier name = true) :
    ∃ c rest, name.toList = c :: rest ∧ c ≠ '.' := by
  unfold isIdentifier at h
  cases hname : name.toList with
  | nil => rw [hname] at h; cases h
  | cons c rest =>
    refine ⟨c, rest, rfl, ?_⟩
    rintro rfl
    rw [hname] at h
    exact absurd h (by simp [isIdentifierChars, isIdentifierStart, isAscii])

/-- A name made of identifiers does not start with a point. -/
theorem head_dotted (hne : down ≠ []) (h : ∀ name ∈ down, isIdentifier name = true) :
    ∃ c rest, ofParts (down.map String.toList) = c :: rest ∧ c ≠ '.' := by
  obtain ⟨name, more, rfl⟩ := List.exists_cons_of_ne_nil hne
  obtain ⟨c, rest, hname, hc⟩ := head_of_isIdentifier (h name List.mem_cons_self)
  refine ⟨c, ?_⟩
  rw [List.map_cons, hname]
  cases more with
  | nil => exact ⟨rest, rfl, hc⟩
  | cons next more => exact ⟨_, rfl, hc⟩

/-- Points before a name leave that many parts of the package less one. -/
theorem resolve_of_points {name anchor : String} {level : Nat} {below : List Char}
    (hname : name.toList = List.replicate (level + 1) '.' ++ below)
    (hbelow : below.head? ≠ some '.') (hanchor : anchor.isEmpty = false)
    (hlevel : level < (parts anchor.toList).length) :
    resolve (some anchor) name =
      let base := ofParts ((parts anchor.toList).take ((parts anchor.toList).length - level))
      .ok (String.ofList (if below.isEmpty then base else base ++ '.' :: below)) := by
  have hpoints : ∀ c ∈ List.replicate (level + 1) '.', (c == '.') = true := by simp
  have hfirst : below.takeWhile (· == '.') = [] ∧ below.dropWhile (· == '.') = below := by
    cases below with
    | nil => exact ⟨rfl, rfl⟩
    | cons c below =>
      have hc : (c == '.') = false := by simpa using hbelow
      simp [hc]
  unfold resolve isRelative
  rw [hname, List.takeWhile_append_of_pos hpoints, List.dropWhile_append_of_pos hpoints,
    hfirst.1, hfirst.2]
  have hcount : (List.replicate (level + 1) '.' ++ []).length = level + 1 := by simp
  have hleft : (parts anchor.toList).length + 1 - (level + 1) =
      (parts anchor.toList).length - level := by omega
  simp only [List.replicate_succ, List.cons_append, List.head?_cons, BEq.rfl, Bool.not_true,
    Bool.false_eq_true, if_false, hanchor] at hcount ⊢
  rw [hcount, hleft, if_neg (Nat.not_lt.mpr hlevel)]

theorem parts_dotted (hne : package ≠ [])
    (h : ∀ part ∈ package, '.' ∉ part.toList) :
    parts (dotted package).toList = package.map String.toList := by
  rw [toList_dotted]
  exact parts_ofParts (by simpa using hne) (List.forall_mem_map.mpr h)

theorem isEmpty_dotted (hne : package ≠ [])
    (h : ∀ part ∈ package, part ≠ "" ∧ '.' ∉ part.toList) : (dotted package).isEmpty = false := by
  rw [Bool.eq_false_iff, ne_eq, String.isEmpty_iff]
  intro hempty
  have hparts := parts_dotted hne fun part hpart => (h part hpart).2
  rw [hempty] at hparts
  obtain ⟨first, more, rfl⟩ := List.exists_cons_of_ne_nil hne
  have hfirst : [] = first.toList := (List.cons.inj hparts).1
  exact (h first List.mem_cons_self).1 (String.toList_eq_nil_iff.mp hfirst.symm)

/-- From a package, points that leave as many parts of it as are different lead to what follows
the parts in common. -/
theorem resolve_textOf (hcommon : common ≠ []) (hdown : ∀ name ∈ down, isIdentifier name = true)
    (hparts : ∀ part ∈ common ++ up, part ≠ "" ∧ '.' ∉ part.toList) :
    resolve (some (dotted (common ++ up))) (Reference.textOf (up.length + 1) down) =
      .ok (dotted (common ++ down)) := by
  have htext : (Reference.textOf (up.length + 1) down).toList =
      List.replicate (up.length + 1) '.' ++ ofParts (down.map String.toList) := by
    unfold Reference.textOf
    rw [String.toList_append, String.toList_ofList, ← toList_dotted]
    rfl
  have hne : common ++ up ≠ [] := by simp [hcommon]
  have hpackage := parts_dotted hne fun part hpart => (hparts part hpart).2
  have hanchor := isEmpty_dotted hne hparts
  have hcount : up.length < (parts (dotted (common ++ up)).toList).length := by
    have := List.length_pos_iff.mpr hcommon
    rw [hpackage, List.length_map, List.length_append]
    omega
  have hbelow : (ofParts (down.map String.toList)).head? ≠ some '.' := by
    by_cases h : down = []
    · simp [h, ofParts]
    · obtain ⟨c, rest, hcons, hc⟩ := head_dotted h hdown
      simpa [hcons] using hc
  have hbase : ((common ++ up).map String.toList).take
      (((common ++ up).map String.toList).length - up.length) = common.map String.toList := by
    simp [List.map_append]
  rw [resolve_of_points htext hbelow hanchor hcount, hpackage, hbase]
  dsimp only
  congr 1
  rw [← String.toList_inj, String.toList_ofList, toList_dotted]
  by_cases h : down = []
  · simp [h, ofParts]
  · obtain ⟨c, rest, hcons, -⟩ := head_dotted h hdown
    rw [if_neg (by simp [hcons]), List.map_append, ofParts_eq_joinChars (_ ++ _),
      joinChars_append (by simpa using hcommon) (by simpa using h), ← ofParts_eq_joinChars,
      ← ofParts_eq_joinChars]

end ModuleName

namespace Path

variable {first second root names : List String} {last : String}

/-- Two lists of names share a beginning, which is all that is dropped. -/
theorem dropCommon_spec (first second : List String) :
    ∃ common, first = common ++ (dropCommon first second).1 ∧
      second = common ++ (dropCommon first second).2 ∧
      (first ≠ [] → first.head? = second.head? → common ≠ []) := by
  induction first generalizing second with
  | nil => exact ⟨[], rfl, by simp [dropCommon], fun h => absurd rfl h⟩
  | cons name first ih =>
    cases second with
    | nil => exact ⟨[], rfl, rfl, fun _ h => by cases h⟩
    | cons other second =>
      by_cases h : name = other
      · obtain ⟨common, hfirst, hsecond, -⟩ := ih second
        refine ⟨name :: common, ?_, ?_, fun _ _ => List.cons_ne_nil _ _⟩
        · simpa [dropCommon, h] using hfirst
        · simpa [dropCommon, h] using hsecond
      · refine ⟨[], by simp [dropCommon, h], by simp [dropCommon, h], fun _ hhead => ?_⟩
        exact absurd (Option.some.inj hhead) h

theorem dropCommon_append (root first second : List String) :
    dropCommon (root ++ first) (root ++ second) = dropCommon first second := by
  induction root with
  | nil => rfl
  | cons name root ih => simpa [dropCommon] using ih

theorem splitSuffix_py (h : last ≠ "") : splitSuffix (last ++ ".py") = (last, ".py") := by
  have hreversed : (last ++ ".py").toList.reverse = 'y' :: 'p' :: '.' :: last.toList.reverse := by
    simp
  have hstem : last.toList.reverse.isEmpty = false := by
    simpa using h
  unfold splitSuffix
  rw [hreversed]
  simp [hstem]

theorem relativeNames_append (hroot : ∀ name ∈ root, FileNode.IsName name)
    (hfirst : ∀ name ∈ first, FileNode.IsName name)
    (hsecond : ∀ name ∈ second, FileNode.IsName name) :
    relativeNames (root ++ first) (root ++ second) =
      List.replicate (dropCommon first second).2.length ".." ++ (dropCommon first second).1 := by
  unfold relativeNames
  rw [FileNode.normalize_of_isName (List.forall_mem_append.mpr ⟨hroot, hfirst⟩),
    FileNode.normalize_of_isName (List.forall_mem_append.mpr ⟨hroot, hsecond⟩), dropCommon_append]
  simp

end Path

/-- A file stands below a directory as the module or as the package with some names. -/
inductive StandsAs (root : List String) : List String → List String → Prop
  | module (above : List String) (last : String) :
      StandsAs root (above ++ [last]) (root ++ above ++ [last ++ ".py"])
  | package (names : List String) : StandsAs root names (root ++ names ++ ["__init__.py"])

namespace Reference

variable {root package names down : List String} {path : Path} {reference : Reference}

/-- What steps up and names below are taken for. -/
theorem ofNames_eq_ok {count : Nat} (hup : ∀ name ∈ down, name ≠ "..")
    (h : ofNames (List.replicate count ".." ++ down) = .ok reference) :
    reference = ⟨count + 1,
      if down.getLast? == some "__init__" then down.dropLast else down⟩ ∧
      ∀ name ∈ reference.names, isIdentifier name = true := by
  have hsteps : ∀ name ∈ List.replicate count "..", (name == "..") = true := by simp
  have hfirst : down.takeWhile (· == "..") = [] ∧ down.dropWhile (· == "..") = down := by
    cases down with
    | nil => exact ⟨rfl, rfl⟩
    | cons name more => simp [hup name List.mem_cons_self]
  unfold ofNames at h
  rw [List.takeWhile_append_of_pos hsteps, List.dropWhile_append_of_pos hsteps, hfirst.1,
    hfirst.2] at h
  dsimp only at h
  generalize (if down.getLast? == some "__init__" then down.dropLast else down) = below at h ⊢
  split at h
  · next hinvalid =>
    cases h
    refine ⟨by simp, fun name hname => ?_⟩
    simpa using List.filter_eq_nil_iff.mp (List.isEmpty_iff.mp hinvalid) name hname
  · cases h

theorem ofPath_of_names {front directory : List String} {file : String}
    (h : path.names = front ++ [file]) :
    ofPath path directory =
      ofNames (Path.relativeNames (front ++ [(Path.splitSuffix file).1]) directory) := by
  simp [ofPath, Path.dropSuffix?, Path.stem, Path.name, h]

/-- A name as a part of a package or a module. -/
structure IsPart (name : String) : Prop where
  isName : FileNode.IsName name
  notPackage : name ≠ "__init__"

instance (name : String) : Decidable (IsPart name) :=
  decidable_of_iff (FileNode.IsName name ∧ name ≠ "__init__")
    ⟨fun h => ⟨h.1, h.2⟩, fun h => ⟨h.isName, h.notPackage⟩⟩

theorem IsPart.isNames (h : ∀ name ∈ names, IsPart name) : ∀ name ∈ names, FileNode.IsName name :=
  fun name hname => (h name hname).isName

/-- What a directory and a file have in common is left out: the rest of the directory is left by
steps up, and the rest of the file follows. -/
theorem ofPath_eq_steps {front : List String} {file stem : String}
    (hpath : path.names = root ++ front ++ [file]) (hstem : (Path.splitSuffix file).1 = stem)
    (hroot : ∀ name ∈ root, FileNode.IsName name)
    (hfront : ∀ name ∈ front ++ [stem], FileNode.IsName name)
    (hpackage : ∀ name ∈ package, FileNode.IsName name)
    (h : ofPath path (root ++ package) = .ok reference) :
    ∃ common up below, front ++ [stem] = common ++ below ∧ package = common ++ up ∧
      ((front ++ [stem]).head? = package.head? → common ≠ []) ∧
      reference = ⟨up.length + 1,
        if below.getLast? == some "__init__" then below.dropLast else below⟩ ∧
      ∀ name ∈ reference.names, isIdentifier name = true := by
  obtain ⟨common, hmodule, hdirectory, hcommon⟩ := Path.dropCommon_spec (front ++ [stem]) package
  rw [ofPath_of_names hpath, hstem, List.append_assoc,
    Path.relativeNames_append hroot hfront hpackage] at h
  generalize (Path.dropCommon (front ++ [stem]) package).1 = below at *
  generalize (Path.dropCommon (front ++ [stem]) package).2 = up at *
  have hbelow : ∀ name ∈ below, name ≠ ".." := fun name hname =>
    (hfront name (hmodule ▸ List.mem_append_right _ hname)).2
  obtain ⟨hreference, hidentifiers⟩ := ofNames_eq_ok hbelow h
  exact ⟨common, up, below, hmodule, hdirectory, hcommon (by simp), hreference, hidentifiers⟩

/-- The reference of a file leaves as many packages as are not on its way and then goes down. -/
theorem ofPath_eq_ok (hroot : ∀ name ∈ root, FileNode.IsName name)
    (hpackage : ∀ name ∈ package, IsPart name) (hnames : ∀ name ∈ names, IsPart name)
    (hne : package ≠ []) (htop : names.head? = package.head?)
    (hstands : StandsAs root names path.names)
    (h : ofPath path (root ++ package) = .ok reference) :
    ∃ common up down, common ≠ [] ∧ package = common ++ up ∧ names = common ++ down ∧
      reference = ⟨up.length + 1, down⟩ ∧ ∀ name ∈ down, isIdentifier name = true := by
  generalize hpath : path.names = names' at hstands
  cases hstands with
  | module above last =>
    have hlast : last ≠ "" := by
      rintro rfl
      exact absurd (hnames "" (by simp)).isName.1 (by decide)
    have hstem : (Path.splitSuffix (last ++ ".py")).1 = last := by rw [Path.splitSuffix_py hlast]
    obtain ⟨common, up, down, hmodule, hdirectory, hcommon, rfl, hidentifiers⟩ :=
      ofPath_eq_steps hpath hstem hroot (IsPart.isNames hnames) (IsPart.isNames hpackage) h
    have hkept : (if down.getLast? == some "__init__" then down.dropLast else down) = down := by
      refine if_neg fun hinit => ?_
      have hmem := List.mem_of_getLast? (eq_of_beq hinit)
      exact (hnames _ (hmodule ▸ List.mem_append_right _ hmem)).notPackage rfl
    rw [hkept] at hidentifiers ⊢
    exact ⟨common, up, down, hcommon htop, hdirectory, hmodule, rfl, hidentifiers⟩
  | package names =>
    have hstem : (Path.splitSuffix "__init__.py").1 = "__init__" := by decide
    have hinit : ∀ name ∈ names ++ ["__init__"], FileNode.IsName name :=
      List.forall_mem_append.mpr ⟨IsPart.isNames hnames,
        List.forall_mem_singleton.mpr ⟨by decide, by decide⟩⟩
    obtain ⟨common, up, below, hmodule, hdirectory, hcommon, rfl, hidentifiers⟩ :=
      ofPath_eq_steps hpath hstem hroot hinit (IsPart.isNames hpackage) h
    -- The package's own file is never on the way to the generated module.
    obtain rfl | ⟨down, last, rfl⟩ := List.eq_nil_or_concat below
    · have hmem : "__init__" ∈ package := by
        rw [hdirectory, ← List.append_nil common, ← hmodule]
        simp
      exact absurd rfl (hpackage _ hmem).notPackage
    · rw [List.concat_eq_append, ← List.append_assoc] at hmodule
      obtain ⟨rfl, hlast⟩ := List.append_inj' hmodule rfl
      obtain rfl : "__init__" = last := (List.cons.inj hlast).1
      simp only [List.concat_eq_append, List.getLast?_concat, BEq.rfl, if_true,
        List.dropLast_concat] at hidentifiers ⊢
      refine ⟨common, up, down, hcommon ?_, hdirectory, rfl, rfl, hidentifiers⟩
      rw [List.head?_append_of_ne_nil _ ?_, htop]
      intro hnil
      rw [hnil] at htop
      exact hne (List.head?_eq_none_iff.mp htop.symm)

/-- Seen from the package of the generated module, the reference of a file is resolved to the name
of the module the file is. -/
theorem resolve_of_ofPath (hroot : ∀ name ∈ root, FileNode.IsName name)
    (hpackage : ∀ name ∈ package, IsPart name) (hpoints : ∀ name ∈ package, '.' ∉ name.toList)
    (hnames : ∀ name ∈ names, IsPart name) (hne : package ≠ []) (htop : names.head? = package.head?)
    (hstands : StandsAs root names path.names)
    (h : ofPath path (root ++ package) = .ok reference) :
    ModuleName.resolve (some (ModuleName.dotted package)) reference.module =
      .ok (ModuleName.dotted names) := by
  obtain ⟨common, up, down, hcommon, rfl, rfl, rfl, hidentifiers⟩ :=
    ofPath_eq_ok hroot hpackage hnames hne htop hstands h
  refine ModuleName.resolve_textOf hcommon hidentifiers fun part hpart => ⟨?_, hpoints part hpart⟩
  rintro rfl
  exact absurd (hpackage "" hpart).isName.1 (by decide)

end Reference

end Registrar
