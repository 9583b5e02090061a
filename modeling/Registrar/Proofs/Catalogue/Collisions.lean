import Registrar.Proofs.Catalogue.Valid

/-! # Files that share a reference

A reference forgets the suffix of its file, and of a package its own file's name; it forgets nothing
else. Contributing files are therefore imported one by one exactly if they stand at different places,
and a module beside a package of its name is lost without an error.
-/

namespace Registrar

/-! ## Relative names -/

namespace Path

variable {first other second common down up down' up' : List String}

/-- Nothing can be dropped from two lists that do not start alike. -/
theorem dropCommon_of_head (h : down = [] ∨ down.head? ≠ up.head?) :
    dropCommon down up = (down, up) := by
  cases down with
  | nil => rfl
  | cons name down =>
    cases up with
    | nil => rfl
    | cons other up =>
      have hne : name ≠ other := by simpa using h
      simp [dropCommon, hne]

/-- What is left of two lists does not start alike. -/
theorem head_dropCommon (first second : List String) :
    (dropCommon first second).1 = [] ∨
      (dropCommon first second).1.head? ≠ (dropCommon first second).2.head? := by
  induction first generalizing second with
  | nil => exact .inl rfl
  | cons name first ih =>
    cases second with
    | nil => exact .inr (Option.some_ne_none name)
    | cons other second =>
      by_cases h : name = other
      · simpa [dropCommon, h] using ih second
      · exact .inr (by simp [dropCommon, h])

/-- Two lists are split where they part. -/
theorem exists_dropCommon_eq (first second : List String) :
    ∃ common down up, first = common ++ down ∧ second = common ++ up ∧
      dropCommon first second = (down, up) ∧ (down = [] ∨ down.head? ≠ up.head?) := by
  obtain ⟨common, hfirst, hsecond, -⟩ := dropCommon_spec first second
  exact ⟨common, _, _, hfirst, hsecond, rfl, head_dropCommon first second⟩

/-- A list is known from what it does not share with another one and how much that one goes on. -/
theorem eq_of_dropCommon_eq (hdown : (dropCommon first second).1 = (dropCommon other second).1)
    (hup : (dropCommon first second).2.length = (dropCommon other second).2.length) :
    first = other := by
  obtain ⟨common, hfirst, hsecond, -⟩ := dropCommon_spec first second
  obtain ⟨common', hother, hsecond', -⟩ := dropCommon_spec other second
  obtain ⟨rfl, -⟩ := List.append_inj' (hsecond.symm.trans hsecond') hup
  rw [hfirst, hother, hdown]

end Path

/-! ## Places -/

namespace Reference

variable {root package directory : List String} {path other : Path} {reference reference' : Reference}
  {name : String}

/-- The names from the root down to a file, the last one without its suffix. -/
def namesOf (path : Path) : List String :=
  Path.normalize (path.names.dropLast ++ [path.stem])

/-- The names from the root down to the module that a file is: a package's own file is its package.
Only where a package of that odd name holds the generated module does the name stay. -/
def place (directory : List String) (path : Path) : List String :=
  if (namesOf path).getLast? = some "__init__" ∧ ¬namesOf path <+: Path.normalize directory then
    (namesOf path).dropLast
  else namesOf path

/-- Two files with one place differ in their suffixes only, or one of them is the own file of a
package that the other one stands beside as a module. -/
theorem place_eq_cases (h : place directory path = place directory other) :
    namesOf path = namesOf other ∨ namesOf path ++ ["__init__"] = namesOf other ∨
      namesOf other ++ ["__init__"] = namesOf path := by
  have hinit {names : List String} (hlast : names.getLast? = some "__init__") :
      names.dropLast ++ ["__init__"] = names := List.dropLast_append_getLast? _ hlast
  unfold place at h
  split at h
  · next hpath =>
    rw [← hinit hpath.1]
    split at h
    · next hother =>
      rw [← hinit hother.1, h]
      exact .inl rfl
    · exact .inr (.inr (congrArg (· ++ ["__init__"]) h.symm))
  · split at h
    · next hother =>
      rw [← hinit hother.1, h]
      exact .inr (.inl rfl)
    · exact .inl h

/-- Leaving out the name of a package's own file commutes with leaving out what is shared. -/
theorem dropCommon_place (directory : List String) (path : Path) :
    let shared := Path.dropCommon (namesOf path) (Path.normalize directory)
    Path.dropCommon (place directory path) (Path.normalize directory) =
      (if shared.1.getLast? = some "__init__" then shared.1.dropLast else shared.1, shared.2) := by
  unfold place
  dsimp only
  generalize namesOf path = names
  generalize Path.normalize directory = start
  obtain ⟨common, down, up, rfl, rfl, hshared, hhead⟩ := Path.exists_dropCommon_eq names start
  rw [hshared]
  dsimp only
  obtain rfl | ⟨front, last, rfl⟩ := List.eq_nil_or_concat' down
  · have hprefix : common ++ [] <+: common ++ up := by simp
    rw [if_neg fun h => h.2 hprefix, if_neg (by simp), hshared]
  · -- The names part before the last one, so that one is none of the directory's.
    have hprefix : ¬common ++ (front ++ [last]) <+: common ++ up := by
      rw [List.prefix_append_right_inj]
      rintro ⟨rest, rfl⟩
      exact hhead.elim (by simp) fun hne => hne (List.head?_append_of_ne_nil _ (by simp)).symm
    rw [← List.append_assoc, List.getLast?_concat, List.getLast?_concat, List.dropLast_concat,
      List.dropLast_concat, List.append_assoc]
    by_cases hlast : last = "__init__"
    · rw [if_pos ⟨congrArg some hlast, hprefix⟩, if_pos (congrArg some hlast), Path.dropCommon_append]
      refine Path.dropCommon_of_head (hhead.elim (by simp) fun hne => ?_)
      by_cases hfront : front = []
      · exact .inl hfront
      · exact .inr (by rwa [List.head?_append_of_ne_nil _ hfront] at hne)
    · have hne : some last ≠ some "__init__" := fun h => hlast (Option.some.inj h)
      rw [if_neg fun h => hne h.1, if_neg hne, hshared]

/-- The reference of a file tells its place, seen from the directory. -/
theorem eq_of_ofPath (h : ofPath path directory = .ok reference) :
    reference = ⟨(Path.dropCommon (place directory path) (Path.normalize directory)).2.length + 1,
      (Path.dropCommon (place directory path) (Path.normalize directory)).1⟩ := by
  obtain ⟨hne, -⟩ := ofPath_names h
  rw [ofPath_eq hne] at h
  split at h
  · cases h
    obtain ⟨common, down, up, hnames, -, hshared, -⟩ := Path.exists_dropCommon_eq
      (namesOf path) (Path.normalize directory)
    have hrelative : Path.relativeNames (path.names.dropLast ++ [path.stem]) directory =
        up.map (fun _ => "..") ++ down := by
      unfold namesOf at hshared
      unfold Path.relativeNames
      rw [hshared]
    have hdown : ∀ name ∈ down, name ≠ ".." := fun name hname =>
      (Path.mem_normalize (hnames ▸ List.mem_append_right common hname)).1.2
    have hsteps : (up.map (fun _ => "..") ++ down).takeWhile (· == "..") = up.map fun _ => ".." := by
      rw [List.takeWhile_append_of_pos (by simp)]
      cases down with
      | nil => exact List.append_nil _
      | cons name down => simp [hdown name List.mem_cons_self]
    unfold partsOf
    rw [dropCommon_place, hshared, hrelative, hsteps, below_of_steps up hdown, List.length_map]
    simp
  · cases h

/-- Files share a reference exactly if they share a place. -/
theorem eq_iff_place_eq (h : ofPath path directory = .ok reference)
    (h' : ofPath other directory = .ok reference') :
    reference = reference' ↔ place directory path = place directory other := by
  rw [eq_of_ofPath h, eq_of_ofPath h']
  constructor
  · intro heq
    obtain ⟨hlevel, hnames⟩ := Reference.mk.inj heq
    exact Path.eq_of_dropCommon_eq hnames (Nat.succ.inj hlevel)
  · intro heq
    rw [heq]

end Reference

/-! ## References as text -/

namespace ModuleName

variable {names names' package down : List String} {level : Nat} {name : String}

theorem isIdentifierContinue_of_mem {c : Char} (h : isIdentifier name = true)
    (hc : c ∈ name.toList) : isIdentifierContinue c = true := by
  unfold isIdentifier at h
  cases hletters : name.toList with
  | nil =>
    rw [hletters] at hc
    cases hc
  | cons first more =>
    rw [hletters] at h hc
    obtain ⟨hfirst, hmore⟩ := Bool.and_eq_true_iff.mp h
    rcases List.mem_cons.mp hc with rfl | hc
    · exact isIdentifierContinue_of_isIdentifierStart hfirst
    · exact List.all_eq_true.mp hmore c hc

theorem ne_empty_of_isIdentifier (h : isIdentifier name = true) : name ≠ "" ∧ '.' ∉ name.toList := by
  refine ⟨?_, fun hmem => absurd (isIdentifierContinue_of_mem h hmem) (by decide)⟩
  rintro rfl
  cases h

/-- Parts that are not empty and without points are told by the name they make up. -/
theorem dotted_injective (h : ∀ part ∈ names, part ≠ "" ∧ '.' ∉ part.toList)
    (h' : ∀ part ∈ names', part ≠ "" ∧ '.' ∉ part.toList) (heq : dotted names = dotted names') :
    names = names' := by
  by_cases hne : names = []
  · subst hne
    by_contra hne'
    have hempty := isEmpty_dotted (Ne.symm hne') h'
    rw [← heq] at hempty
    exact absurd hempty (by decide)
  · by_cases hne' : names' = []
    · subst hne'
      have hempty := isEmpty_dotted hne h
      rw [heq] at hempty
      exact absurd hempty (by decide)
    · have hparts := parts_dotted hne fun part hpart => (h part hpart).2
      rw [heq, parts_dotted hne' fun part hpart => (h' part hpart).2] at hparts
      exact (List.map_injective_iff.mpr (fun _ _ => String.toList_injective) hparts).symm

theorem toList_textOf (level : Nat) (names : List String) :
    (Reference.textOf level names).toList =
      List.replicate level '.' ++ ofParts (names.map String.toList) := by
  unfold Reference.textOf
  rw [String.toList_append, String.toList_ofList, ← toList_dotted]
  rfl

/-- The points before identifiers are the level of a reference. -/
theorem takeWhile_textOf (level : Nat) (h : ∀ name ∈ names, isIdentifier name = true) :
    (Reference.textOf level names).toList.takeWhile (· == '.') = List.replicate level '.' := by
  rw [toList_textOf, List.takeWhile_append_of_pos (by simp)]
  by_cases hne : names = []
  · simp [hne, ofParts]
  · obtain ⟨c, rest, hcons, hc⟩ := head_dotted hne h
    simp [hcons, hc]

/-- Levels and identifiers are told by their text. -/
theorem textOf_injective {level' : Nat} (h : ∀ name ∈ names, isIdentifier name = true)
    (h' : ∀ name ∈ names', isIdentifier name = true)
    (heq : Reference.textOf level names = Reference.textOf level' names') :
    level = level' ∧ names = names' := by
  have hpoints := takeWhile_textOf level h
  rw [heq, takeWhile_textOf level' h', List.replicate_inj] at hpoints
  obtain rfl : level = level' := hpoints.1.symm
  have hletters := congrArg String.toList heq
  rw [toList_textOf, toList_textOf, List.append_cancel_left_eq, ← toList_dotted,
    ← toList_dotted] at hletters
  exact ⟨rfl, dotted_injective (fun name hname => ne_empty_of_isIdentifier (h name hname))
    (fun name hname => ne_empty_of_isIdentifier (h' name hname))
    (String.toList_injective hletters)⟩

/-- What a reference is resolved to is made of the packages that its points leave, at least one, and
of its names. -/
theorem resolve_textOf_eq_ok (hpackage : ∀ part ∈ package, part ≠ "" ∧ '.' ∉ part.toList)
    (hdown : ∀ name ∈ down, isIdentifier name = true)
    (h : resolve (some (dotted package)) (Reference.textOf (level + 1) down) = .ok name) :
    ∃ common up, package = common ++ up ∧ up.length = level ∧ name = dotted (common ++ down) := by
  by_cases hlevel : level < package.length
  · have hsplit := (List.take_append_drop (package.length - level) package).symm
    have hup : (package.drop (package.length - level)).length = level := by
      rw [List.length_drop]
      omega
    have hcommon : package.take (package.length - level) ≠ [] := by
      rw [ne_eq, List.take_eq_nil_iff, not_or]
      exact ⟨by omega, List.ne_nil_of_length_pos (by omega)⟩
    have hresolved := resolve_textOf hcommon hdown (hsplit ▸ hpackage)
    rw [hup, ← hsplit, h] at hresolved
    exact ⟨_, _, hsplit, hup, Except.ok.inj hresolved⟩
  · have hrelative : isRelative (Reference.textOf (level + 1) down) = true := by
      unfold isRelative
      rw [toList_textOf]
      rfl
    unfold resolve at h
    dsimp only at h
    rw [hrelative, Bool.not_true, if_neg Bool.false_ne_true, takeWhile_textOf _ hdown,
      List.length_replicate] at h
    by_cases hne : package = []
    · rw [hne] at h
      cases h
    · have hbeyond : package.length < level + 1 := by omega
      rw [isEmpty_dotted hne hpackage, if_neg Bool.false_ne_true,
        parts_dotted hne fun part hpart => (hpackage part hpart).2, List.length_map,
        if_pos hbeyond] at h
      cases h

end ModuleName

namespace Reference

variable {root package directory : List String} {path other : Path} {reference reference' : Reference}
  {name name' : String}

theorem module_injective (h : ∀ name ∈ reference.names, isIdentifier name = true)
    (h' : ∀ name ∈ reference'.names, isIdentifier name = true) :
    reference.module = reference'.module ↔ reference = reference' := by
  refine ⟨fun heq => ?_, congrArg module⟩
  obtain ⟨hlevel, hnames⟩ := ModuleName.textOf_injective h h' heq
  cases reference
  cases reference'
  congr

/-- A package as it can stand among the names of modules. -/
def IsPackage (package : List String) : Prop :=
  ∀ part ∈ package, FileNode.IsName part ∧ '.' ∉ part.toList

/-- Where the reference of a file is resolved, it is to the names of the file's place. -/
theorem place_of_resolve (hroot : ∀ name ∈ root, FileNode.IsName name) (hpackage : IsPackage package)
    (h : ofPath path (root ++ package) = .ok reference)
    (hresolve : ModuleName.resolve (some (ModuleName.dotted package)) reference.module = .ok name) :
    ∃ names, place (root ++ package) path = root ++ names ∧ name = ModuleName.dotted names ∧
      ∀ part ∈ names, part ≠ "" ∧ '.' ∉ part.toList := by
  obtain ⟨-, -, -, hidentifiers⟩ := ofPath_names h
  have hparts : ∀ part ∈ package, part ≠ "" ∧ '.' ∉ part.toList := by
    refine fun part hpart => ⟨?_, (hpackage part hpart).2⟩
    rintro rfl
    exact absurd (hpackage "" hpart).1.1 (by decide)
  have hdirectory : Path.normalize (root ++ package) = root ++ package :=
    FileNode.normalize_of_isName
      (List.forall_mem_append.mpr ⟨hroot, fun part hpart => (hpackage part hpart).1⟩)
  have hreference := eq_of_ofPath h
  obtain ⟨common, down, up, hplace, hup, hshared, -⟩ :=
    Path.exists_dropCommon_eq (place (root ++ package) path) (Path.normalize (root ++ package))
  rw [hshared] at hreference
  subst hreference
  obtain ⟨above, left, rfl, hleft, rfl⟩ :=
    ModuleName.resolve_textOf_eq_ok hparts hidentifiers hresolve
  rw [hdirectory, ← List.append_assoc] at hup
  obtain ⟨rfl, -⟩ := List.append_inj' hup hleft
  refine ⟨above ++ down, by rw [hplace, List.append_assoc], rfl, List.forall_mem_append.mpr ⟨?_, ?_⟩⟩
  · exact fun part hpart => hparts part (List.mem_append_left _ hpart)
  · exact fun part hpart => ModuleName.ne_empty_of_isIdentifier (hidentifiers part hpart)

/-- Where references of files are resolved, different ones are to different names. -/
theorem eq_iff_resolved_eq (hroot : ∀ name ∈ root, FileNode.IsName name)
    (hpackage : IsPackage package) (h : ofPath path (root ++ package) = .ok reference)
    (h' : ofPath other (root ++ package) = .ok reference')
    (hname : ModuleName.resolve (some (ModuleName.dotted package)) reference.module = .ok name)
    (hname' : ModuleName.resolve (some (ModuleName.dotted package)) reference'.module = .ok name') :
    reference = reference' ↔ name = name' := by
  constructor
  · rintro rfl
    exact Except.ok.inj (hname.symm.trans hname')
  · rintro rfl
    obtain ⟨names, hplace, hdotted, hparts⟩ := place_of_resolve hroot hpackage h hname
    obtain ⟨names', hplace', hdotted', hparts'⟩ := place_of_resolve hroot hpackage h' hname'
    obtain rfl := ModuleName.dotted_injective hparts hparts' (hdotted.symm.trans hdotted')
    exact (eq_iff_place_eq h h').mpr (hplace.trans hplace'.symm)

end Reference

/-! ## Contributing files -/

namespace Catalogue

variable {runtimeModule : String} {directory : List String} {files : List FileExports}

/-- Lists whose entries differ alike are free of repetitions alike. -/
theorem nodup_map_iff_of_forall₂ {α β γ δ : Type} {R : α → β → Prop} {f : α → γ} {g : β → δ}
    {as : List α} {bs : List β} (h : List.Forall₂ R as bs)
    (hsame : ∀ a b a' b', R a b → R a' b' → (f a = f a' ↔ g b = g b')) :
    (as.map f).Nodup ↔ (bs.map g).Nodup := by
  induction h with
  | nil => simp
  | @cons a b as bs hab hrest ih =>
    have hmem : f a ∈ as.map f ↔ g b ∈ bs.map g := by
      clear ih
      induction hrest with
      | nil => simp
      | cons hfirst _ ih =>
        rw [List.map_cons, List.map_cons, List.mem_cons, List.mem_cons, ih,
          hsame _ _ _ _ hab hfirst]
    rw [List.map_cons, List.map_cons, List.nodup_cons, List.nodup_cons, ih, hmem]

/-- The files that have something to contribute. -/
def contributors (files : List FileExports) : List FileExports :=
  files.filter fun file => !file.exports.isEmpty

/-- The places of the files that have something to contribute. -/
def places (directory : List String) (files : List FileExports) : List (List String) :=
  (contributors files).map fun file => Reference.place directory file.path

/-- References of files that are told apart exactly by the places of the files, as the texts they are
and as the names they are resolved to from the package of the directory. -/
structure ToldByPlace (directory : List String) (files : List FileExports)
    (references : List Reference) : Prop where
  each : List.Forall₂ (fun (file : FileExports) reference =>
    Reference.ofPath file.path directory = .ok reference) (contributors files) references
  modules : (references.map (·.module)).Nodup ↔ (places directory files).Nodup
  resolved : ∀ root package names, directory = root ++ package →
    (∀ name ∈ root, FileNode.IsName name) → Reference.IsPackage package →
    List.Forall₂ (fun (reference : Reference) name =>
      ModuleName.resolve (some (ModuleName.dotted package)) reference.module = .ok name)
      references names →
    (names.Nodup ↔ (places directory files).Nodup)

theorem toldByPlace_of_forall₂ {references : List Reference}
    (h : List.Forall₂ (fun (file : FileExports) reference =>
      Reference.ofPath file.path directory = .ok reference) (contributors files) references) :
    ToldByPlace directory files references := by
  refine ⟨h, ?_, ?_⟩
  · refine (nodup_map_iff_of_forall₂ h fun _ _ _ _ hfile hfile' => ?_).symm
    rw [← Reference.eq_iff_place_eq hfile hfile',
      Reference.module_injective (Reference.ofPath_names hfile).2.2.2
        (Reference.ofPath_names hfile').2.2.2]
  · rintro root package names rfl hroot hpackage hresolved
    have hplaces : (places (root ++ package) files).Nodup ↔ (references.map id).Nodup :=
      nodup_map_iff_of_forall₂ h fun _ _ _ _ hfile hfile' =>
        (Reference.eq_iff_place_eq hfile hfile').symm
    have hfiles : ∀ reference ∈ references, ∃ file ∈ contributors files,
        Reference.ofPath file.path (root ++ package) = .ok reference := by
      intro reference hmem
      obtain ⟨file, hfile, hreference⟩ := exists_left_of_mem h hmem
      exact ⟨file, hfile, hreference⟩
    have hnames : (references.map id).Nodup ↔ (names.map id).Nodup :=
      nodup_map_iff_of_forall₂ ((List.forall₂_and_left _ _).mpr ⟨hfiles, hresolved⟩)
        fun _ _ _ _ ⟨⟨_, _, hfile⟩, hname⟩ ⟨⟨_, _, hfile'⟩, hname'⟩ =>
          Reference.eq_iff_resolved_eq hroot hpackage hfile hfile' hname hname'
    rw [hplaces, hnames, List.map_id]

/-- A rendering fails with an error of its own, or lists for each contributing file its reference.
The references, and the names they are resolved to, are all different exactly if the places of the
files are. -/
theorem render_toldByPlace (hnames : ∀ file ∈ files, file.path.names ≠ []) :
    (∃ error, (render runtimeModule directory files).2 = .error error ∧
      ∀ path, error ≠ .noFileName path) ∨
    ∃ source references, (render runtimeModule directory files).2 = .ok source ∧
      (initializerLines references).map String.toList <:+: lines source.toList ∧
      ToldByPlace directory files references := by
  cases hrender : (render runtimeModule directory files).2 with
  | error error =>
    refine .inl ⟨error, rfl, ?_⟩
    rintro path rfl
    unfold render at hrender
    rcases contributions_ok_or_error hnames directory with ⟨_, hcontributing⟩ |
      ⟨_, hcontributing, _, _, _, _, rfl, _⟩
    · rw [hcontributing] at hrender
      dsimp only at hrender
      split at hrender
      · cases hrender
      · split at hrender <;> cases hrender
    · rw [hcontributing] at hrender
      split at hrender <;> cases hrender
  | ok source =>
    obtain ⟨contributing, hcontributing, -⟩ := render_eq_ok hrender
    refine .inr ⟨source, contributing.map (·.reference), rfl,
      (isInfix_of_render hrender hcontributing).2, toldByPlace_of_forall₂ ?_⟩
    rw [List.forall₂_map_right_iff]
    exact (contributions_eq_ok hcontributing).imp fun _ _ h => h.2

/-! ## A module beside a package -/

/-- A module and the package of its name, which both register something. -/
def twins : List FileExports :=
  [⟨⟨.slash, ["s", "p", "a.py"]⟩,
    [⟨⟨.slash, ["s", "p", "a.py"]⟩, some "A", "A_0", "first", .config⟩]⟩,
   ⟨⟨.slash, ["s", "p", "a", "__init__.py"]⟩,
    [⟨⟨.slash, ["s", "p", "a", "__init__.py"]⟩, some "B", "B_1", "second", .hook⟩]⟩]

theorem render_twins : ∃ source, (render RuntimeName.usual ["s", "p"] twins).2 = .ok source := by
  have hcontributing : contributions ["s", "p"] twins =
      .ok (twins.zipWith Contribution.mk [⟨1, ["a"]⟩, ⟨1, ["a"]⟩]) := by
    decide +kernel
  refine exists_render_usual hcontributing ?_
  have himports : allTypeImports (twins.zipWith Contribution.mk [⟨1, ["a"]⟩, ⟨1, ["a"]⟩]) =
      [⟨1, ["a"], ("A", "A_0"), []⟩, ⟨1, ["a"], ("B", "B_1"), []⟩] := rfl
  rw [himports, List.forall_mem_cons, List.forall_mem_singleton]
  exact ⟨⟨⟨by decide, by decide +kernel, by decide +kernel⟩, by decide⟩,
    ⟨⟨by decide, by decide +kernel, by decide +kernel⟩, by decide⟩⟩

/-- Of a module and the package of its name, one is lost without an error. -/
theorem twins_share_reference :
    ∃ source references, (render RuntimeName.usual ["s", "p"] twins).2 = .ok source ∧
      (initializerLines references).map String.toList <:+: lines source.toList ∧
      ToldByPlace ["s", "p"] twins references ∧ ¬(references.map (·.module)).Nodup := by
  obtain ⟨_, hsource⟩ := render_twins
  have hnames : ∀ file ∈ twins, file.path.names ≠ [] := by decide
  rcases render_toldByPlace hnames with ⟨_, herror, _⟩ | ⟨source, references, h, hlines, htold⟩
  · rw [hsource] at herror
    cases herror
  · have hplaces : ¬(places ["s", "p"] twins).Nodup := by decide +kernel
    exact ⟨source, references, h, hlines, htold, fun h => hplaces (htold.modules.mp h)⟩

end Catalogue

end Registrar
