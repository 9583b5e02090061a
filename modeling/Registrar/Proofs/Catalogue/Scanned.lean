import Registrar.Proofs.Catalogue.Aliases
import Registrar.Proofs.Catalogue.Apart
import Registrar.Proofs.Catalogue.Contributing
import Registrar.Proofs.Parser.Unrolled
import Registrar.Proofs.Registration.Sites
import Registrar.Proofs.Selection.Expansion

/-! # What an analysis finds can be imported

The symbols that a scan finds are names of a module, so they are identifiers, and so are the aliases
that are made of them. The alias of a module is made of the last name it is imported by. The imports
that a type checker sees of analysed files are therefore made of identifiers only.
-/

namespace Registrar

open Source

/-! ## Symbols -/

namespace Registration

variable {entryPoints : EntryPoints} {symbol : Option String} {call : Call}

theorem valueCall?_symbol {value : Expr} (h : valueCall? entryPoints symbol value = some call) :
    call.symbol = symbol := by
  unfold valueCall? at h
  split at h
  · rcases Option.or_eq_some_iff.mp h with h | ⟨-, h⟩ <;> exact call?_symbol h
  · cases h

/-- The symbol of a registration is a name that its statement binds. -/
theorem good_of_mem_calls {good : Token → Prop} {statement : Stmt} {name : String}
    (h : call ∈ calls entryPoints statement) (hname : call.symbol = some name)
    (hnamed : statement.Named good) : good (.name name) := by
  have hdecorator {bound : String} {decorators : List Expr}
      (hcall : call ∈ decorators.filterMap (call? entryPoints (some bound))) : bound = name := by
    obtain ⟨decorator, -, hcall⟩ := List.mem_filterMap.mp hcall
    exact Option.some.inj ((call?_symbol hcall).symm.trans hname)
  have hvalue {bound : Option String} {value : Expr}
      (hcall : call ∈ (valueCall? entryPoints bound value).toList) : bound = some name :=
    (valueCall?_symbol (Option.mem_toList.mp hcall)).symm.trans hname
  unfold calls at h
  split at h
  · obtain rfl := hdecorator h
    exact hnamed
  · obtain rfl := hdecorator h
    exact hnamed
  · obtain rfl := Option.some.inj (hvalue h)
    exact hnamed _ rfl
  · cases hvalue h
  · have hbound := hvalue h
    split at hbound
    · obtain rfl := Option.some.inj hbound
      exact hnamed _ rfl
    · cases hbound
  · cases hvalue h
  · cases h

/-- The symbols that a scan finds are identifiers. -/
theorem isIdentifier_of_mem_scan {source : String} {scan : ModuleScan}
    {registration : Registration} {name : String}
    (h : scanSource? entryPoints source = some scan) (hmem : registration ∈ scan.registrations)
    (hname : registration.name = some name) : isIdentifier name = true := by
  obtain ⟨body, hbody, rfl⟩ := Option.map_eq_some_iff.mp h
  obtain ⟨call, hcall, hregistration⟩ := List.mem_filterMap.mp hmem
  obtain ⟨statement, hstatement, hcall⟩ := List.mem_flatMap.mp hcall
  obtain ⟨key, -, rfl⟩ := Option.map_eq_some_iff.mp hregistration
  have hsymbol : call.symbol = some name := (Option.filter_eq_some_iff.mp hname).1
  exact good_of_mem_calls hcall hsymbol (named_of_parseModule? hbody statement hstatement)

end Registration

/-! ## Aliases -/

namespace Export

theorem isAscii_of_isDigit {c : Char} (h : c.isDigit = true) : isAscii c = true := by
  have hrange : 48 ≤ c.toNat ∧ c.toNat ≤ 57 := by
    simpa [Char.isDigit, UInt32.le_iff_toNat_le] using h
  unfold isAscii
  exact decide_eq_true (by omega)

/-- Letters that may stand in an identifier, or underscores for them, are one. -/
theorem isIdentifier_identifierOf {text : String} (h : isIdentifier text = true) :
    isIdentifier (identifierOf text) = true := by
  have hletter (c : Char) : (if isWordChar c then c else '_') = c ∨
      (if isWordChar c then c else '_') = '_' := by
    split
    · exact .inl rfl
    · exact .inr rfl
  have hcontinue {c : Char} (hc : isIdentifierContinue c = true) :
      isIdentifierContinue (if isWordChar c then c else '_') = true := by
    rcases hletter c with heq | heq <;> rw [heq]
    · exact hc
    · decide
  have hstart {c : Char} (hc : isIdentifierStart c = true) :
      isIdentifierStart (if isWordChar c then c else '_') = true := by
    rcases hletter c with heq | heq <;> rw [heq]
    · exact hc
    · decide
  unfold isIdentifier at h
  unfold identifierOf
  cases hletters : text.toList with
  | nil =>
    rw [hletters] at h
    cases h
  | cons c more =>
    rw [hletters] at h
    obtain ⟨hc, hmore⟩ := Bool.and_eq_true_iff.mp h
    have hrest : (more.map fun c => if isWordChar c then c else '_').all isIdentifierContinue = true := by
      rw [List.all_map, List.all_eq_true]
      exact fun d hd => hcontinue (List.all_eq_true.mp hmore d hd)
    have hfirst := hcontinue (isIdentifierContinue_of_isIdentifierStart hc)
    rw [List.map_cons]
    dsimp only
    rw [isIdentifier_ofList]
    by_cases hdigit : isDigitChar (if isWordChar c then c else '_') = true
    · have hall : ((if isWordChar c then c else '_') ::
          more.map fun c => if isWordChar c then c else '_').all isIdentifierContinue = true := by
        rw [List.all_cons, hfirst, hrest, Bool.and_true]
      rw [if_pos hdigit, isIdentifierChars, hall, Bool.and_true]
      decide
    · rw [if_neg hdigit]
      exact Bool.and_eq_true_iff.mpr ⟨hstart hc, hrest⟩

theorem isIdentifier_aliasOf {name : Option String} {path : Path} (index : Nat)
    (h : isIdentifier (identifierOf (name.getD (moduleName path))) = true) :
    isIdentifier (aliasOf name path index) = true := by
  have hdigits : ∀ c ∈ index.repr.toList, isIdentifierContinue c = true := by
    intro c hc
    have hdigit := isDigit_of_mem_repr hc
    unfold isIdentifierContinue
    rw [if_pos (isAscii_of_isDigit hdigit), Char.isAlphanum, hdigit, Bool.or_true, Bool.true_or]
  unfold isIdentifier at h ⊢
  rw [toList_aliasOf]
  cases hletters : (identifierOf (name.getD (moduleName path))).toList with
  | nil =>
    rw [hletters] at h
    cases h
  | cons c more =>
    rw [hletters] at h
    obtain ⟨hc, hmore⟩ := Bool.and_eq_true_iff.mp h
    refine Bool.and_eq_true_iff.mpr ⟨hc, ?_⟩
    change (more ++ '_' :: index.repr.toList).all isIdentifierContinue = true
    rw [List.all_append, hmore, List.all_cons, List.all_eq_true.mpr hdigits]
    decide

end Export

/-! ## References -/

namespace Reference

/-- The names that are left of some steps once those up and the name of a package's own file are
dropped. -/
def below (steps : List String) : List String :=
  let names := steps.dropWhile (· == "..")
  if names.getLast? == some "__init__" then names.dropLast else names

/-- The parts of the name that a file is imported by from a directory, identifiers or not. -/
def partsOf (path : Path) (directory : List String) : List String :=
  below (Path.relativeNames (path.names.dropLast ++ [path.stem]) directory)

variable {path : Path} {directory : List String} {reference : Reference}

theorem ofPath_eq (hne : path.names ≠ []) (directory : List String) :
    ofPath path directory =
      if (partsOf path directory).all isIdentifier then
        .ok ⟨((Path.relativeNames (path.names.dropLast ++ [path.stem]) directory).takeWhile
          (· == "..")).length + 1, partsOf path directory⟩
      else .error (.notNames ((partsOf path directory).filter fun name => !isIdentifier name)) := by
  obtain ⟨front, file, hpath⟩ := List.eq_nil_or_concat' _ |>.resolve_left hne
  have hinvalid (names : List String) :
      (names.filter fun name => !isIdentifier name).isEmpty = names.all isIdentifier := by
    rw [Bool.eq_iff_iff, List.isEmpty_iff, List.filter_eq_nil_iff, List.all_eq_true]
    simp
  unfold ofPath Path.dropSuffix?
  rw [hpath, List.getLast?_concat, ← hpath]
  dsimp only
  unfold ofNames
  dsimp only
  rw [hinvalid]
  rfl

theorem ofPath_nil (h : path.names = []) : ofPath path directory = .error .noName := by
  simp [ofPath, Path.dropSuffix?, h]

theorem ofPath_names (h : ofPath path directory = .ok reference) :
    path.names ≠ [] ∧ reference.names = partsOf path directory ∧ reference.level ≠ 0 ∧
      ∀ name ∈ reference.names, isIdentifier name = true := by
  have hne : path.names ≠ [] := by
    intro hnil
    rw [ofPath_nil hnil] at h
    cases h
  rw [ofPath_eq hne] at h
  split at h
  · next hparts =>
    cases h
    exact ⟨hne, rfl, Nat.succ_ne_zero _, List.all_eq_true.mp hparts⟩
  · cases h

theorem below_of_steps (up : List String) {down : List String} (h : ∀ name ∈ down, name ≠ "..") :
    below (up.map (fun _ => "..") ++ down) =
      if down.getLast? == some "__init__" then down.dropLast else down := by
  have hup : ∀ name ∈ up.map fun _ => "..", (name == "..") = true := by simp
  have hdown : down.dropWhile (· == "..") = down := by
    cases down with
    | nil => rfl
    | cons name more => simp [h name List.mem_cons_self]
  unfold below
  rw [List.dropWhile_append_of_pos hup, hdown]

/-- The name of a file as a module is the last name it is imported by, unless its stem is no name for
a file. -/
theorem moduleName_eq_or (hnames : ∀ name ∈ path.names, FileNode.IsName name) {last : String}
    (hlast : (partsOf path directory).getLast? = some last) :
    Export.moduleName path = last ∨ ¬FileNode.IsName (Export.moduleName path) := by
  by_cases hstem : FileNode.IsName path.stem
  · left
    have hfront : ∀ name ∈ path.names.dropLast ++ [path.stem], FileNode.IsName name :=
      List.forall_mem_append.mpr ⟨fun name hname => hnames name (List.mem_of_mem_dropLast hname),
        List.forall_mem_singleton.mpr hstem⟩
    obtain ⟨common, hsplit, -, -⟩ := Path.dropCommon_spec (path.names.dropLast ++ [path.stem])
      (Path.normalize directory)
    unfold partsOf Path.relativeNames at hlast
    rw [FileNode.normalize_of_isName hfront] at hlast
    dsimp only at hlast
    generalize (Path.dropCommon (path.names.dropLast ++ [path.stem])
      (Path.normalize directory)).1 = down at hsplit hlast
    have hdown : ∀ name ∈ down, name ≠ ".." := fun name hname =>
      (hfront name (hsplit ▸ List.mem_append_right common hname)).2
    rw [below_of_steps _ hdown] at hlast
    obtain rfl | ⟨front, stem, rfl⟩ := List.eq_nil_or_concat' down
    · cases hlast
    · rw [← List.append_assoc] at hsplit
      obtain ⟨hparent, hlaststem⟩ := List.append_inj' hsplit rfl
      obtain rfl : path.stem = stem := (List.cons.inj hlaststem).1
      unfold Export.moduleName
      rw [List.getLast?_concat] at hlast
      by_cases hinit : path.stem = "__init__"
      · rw [if_pos (by simp [hinit]), List.dropLast_concat] at hlast
        rw [if_pos (by simp [hinit]), Path.name, Path.parent, hparent, List.getLast?_append, hlast]
        rfl
      · rw [if_neg (by simp [hinit]), List.getLast?_concat] at hlast
        rw [if_neg (by simp [hinit])]
        exact Option.some.inj hlast
  · right
    unfold Export.moduleName
    rw [if_neg]
    · exact hstem
    · intro hinit
      rw [eq_of_beq hinit] at hstem
      exact hstem (by decide)

/-- The alias of a file's module is an identifier where the file can be imported. -/
theorem isIdentifier_moduleName (hnames : ∀ name ∈ path.names, FileNode.IsName name)
    (hparts : ∀ name ∈ partsOf path directory, isIdentifier name = true)
    (hne : partsOf path directory ≠ []) :
    isIdentifier (Export.identifierOf (Export.moduleName path)) = true := by
  obtain ⟨front, last, hfront⟩ := List.eq_nil_or_concat' _ |>.resolve_left hne
  have hlast : (partsOf path directory).getLast? = some last := by rw [hfront, List.getLast?_concat]
  obtain hname | hname := moduleName_eq_or hnames hlast
  · rw [hname]
    exact Export.isIdentifier_identifierOf (hparts last (List.mem_of_getLast? hlast))
  · -- Only the names of no, of one and of two points are none that a file can have.
    have hcases : Export.moduleName path = "" ∨ Export.moduleName path = "." ∨
        Export.moduleName path = ".." := by
      simpa [FileNode.IsName, Path.isNamed, or_iff_not_imp_left] using hname
    rcases hcases with h | h | h <;> rw [h] <;> decide

end Reference

/-! ## Files -/

/-- A file as an analysis gives it: it has names that files can have, its symbols are identifiers, and
the aliases are made of them and of numbers. -/
structure FileExports.IsScanned (file : FileExports) : Prop where
  names : ∀ name ∈ file.path.names, FileNode.IsName name
  symbols : ∀ entry ∈ file.exports, ∀ name, entry.name = some name → isIdentifier name = true
  aliases : ∀ entry ∈ file.exports, ∃ index, entry.alias = Export.aliasOf entry.name file.path index

theorem Export.exists_of_mem_ofRegistrations {path : Path} {start : Nat}
    {registrations : List Registration} {entry : Export}
    (h : entry ∈ ofRegistrations path start registrations) :
    entry.registration ∈ registrations ∧ ∃ index, entry.alias = aliasOf entry.name path index := by
  obtain ⟨index, hindex, rfl⟩ := List.mem_mapIdx.mp h
  exact ⟨List.getElem_mem hindex, start + index, rfl⟩

theorem FileExports.exists_of_mem_number {start : Nat} {scans : List (Path × List Registration)}
    {file : FileExports} (h : file ∈ number start scans) :
    ∃ scan ∈ scans, ∃ first, file = ⟨scan.1, Export.ofRegistrations scan.1 first scan.2⟩ := by
  induction scans generalizing start with
  | nil => cases h
  | cons scan scans ih =>
    rcases List.mem_cons.mp h with rfl | h
    · exact ⟨scan, List.mem_cons_self, start, rfl⟩
    · obtain ⟨found, hfound, hfile⟩ := ih h
      exact ⟨found, List.mem_cons_of_mem scan hfound, hfile⟩

namespace Analysis

variable {selection : Selection} {world after : World} {files : List FileExports}

theorem isName_of_mem_expand {tree : FileNode} {working : List String} {paths : List Path} {path : Path}
    (h : selection.expand tree working = .ok paths) (hpath : path ∈ paths) :
    ∀ name ∈ path.names, FileNode.IsName name := by
  obtain ⟨excluded, included, -, hincluded, hmem⟩ := Selection.mem_expand h
  obtain ⟨pattern, -, spelling, -, hresolve⟩ :=
    Selection.mem_expandPatterns hincluded ((hmem path).mp hpath).1
  obtain ⟨-, -, rfl⟩ := Path.resolve_eq_ok_iff.mp hresolve
  exact fun name hname => (Path.mem_normalize hname).1

theorem isIdentifier_of_mem_scanFile {entryPoints : EntryPoints} {tree : FileNode} {path : Path}
    {registration : Registration} {name : String}
    (h : registration ∈ (scanFile entryPoints tree path).2) (hname : registration.name = some name) :
    isIdentifier name = true := by
  unfold scanFile at h
  split at h
  · cases h
  · split at h
    · cases h
    · next scan hscan => exact Registration.isIdentifier_of_mem_scan hscan h hname

theorem isScanned_of_run (h : run selection world = (.ok files, after)) :
    ∀ file ∈ files, file.IsScanned := by
  obtain ⟨-, ⟨paths, hpaths, rfl⟩, -, -⟩ := aliases_distinct [] h
  intro file hfile
  obtain ⟨scan, hscan, first, rfl⟩ := FileExports.exists_of_mem_number hfile
  obtain ⟨path, hpath, rfl⟩ := List.mem_map.mp hscan
  exact {
    names := isName_of_mem_expand hpaths hpath
    symbols := fun entry hentry name hname =>
      isIdentifier_of_mem_scanFile (Export.exists_of_mem_ofRegistrations hentry).1 hname
    aliases := fun entry hentry => (Export.exists_of_mem_ofRegistrations hentry).2 }

end Analysis

/-! ## Imports -/

namespace Catalogue

variable {directory : List String} {files : List FileExports} {contribution : Contribution}
  {contributing : List Contribution}

theorem isNamed_of_mem_imports (hfile : contribution.file.IsScanned)
    (hreference : Reference.ofPath contribution.file.path directory = .ok contribution.reference) :
    ∀ entry ∈ moduleImport contribution ++ namedImport contribution, entry.IsNamed := by
  obtain ⟨-, hparts, hlevel, hidentifiers⟩ := Reference.ofPath_names hreference
  refine List.forall_mem_append.mpr ⟨?_, ?_⟩
  · unfold moduleImport
    split
    · next first more last hexports hlast =>
      have hfirst : first ∈ contribution.file.moduleExports := hexports ▸ List.mem_cons_self
      obtain ⟨hmem, hname⟩ := List.mem_filter.mp hfirst
      obtain ⟨index, halias⟩ := hfile.aliases first hmem
      have hmodule : isIdentifier
          (Export.identifierOf (first.name.getD (Export.moduleName contribution.file.path))) = true := by
        rw [Option.isNone_iff_eq_none.mp hname]
        refine Reference.isIdentifier_moduleName hfile.names (hparts ▸ hidentifiers) (hparts ▸ ?_)
        exact List.ne_nil_of_mem (List.mem_of_getLast? hlast)
      refine List.forall_mem_singleton.mpr
        ⟨hlevel, fun name hname => hidentifiers name (List.mem_of_mem_dropLast hname), ?_⟩
      refine List.forall_mem_singleton.mpr ⟨hidentifiers last (List.mem_of_getLast? hlast), ?_⟩
      rw [halias]
      exact Export.isIdentifier_aliasOf index hmodule
    · exact List.forall_mem_nil _
  · have hbinding : ∀ entry ∈ contribution.file.namedExports,
        isIdentifier (exportBinding entry).1 = true ∧ isIdentifier (exportBinding entry).2 = true := by
      intro entry hentry
      obtain ⟨hmem, hname⟩ := List.mem_filter.mp hentry
      obtain ⟨name, hname⟩ := Option.isSome_iff_exists.mp hname
      obtain ⟨index, halias⟩ := hfile.aliases entry hmem
      have hsymbol := hfile.symbols entry hmem name hname
      unfold exportBinding
      rw [halias, hname]
      exact ⟨hsymbol, Export.isIdentifier_aliasOf index (Export.isIdentifier_identifierOf hsymbol)⟩
    unfold namedImport
    split
    · exact List.forall_mem_nil _
    · next first more hexports =>
      rw [hexports] at hbinding
      refine List.forall_mem_singleton.mpr ⟨hlevel, hidentifiers, ?_⟩
      change ∀ binding ∈ (first :: more).map exportBinding, _
      exact List.forall_mem_map.mpr hbinding

theorem exists_left_of_mem {α β : Type} {R : α → β → Prop} {as : List α} {bs : List β} {b : β}
    (h : List.Forall₂ R as bs) (hb : b ∈ bs) : ∃ a ∈ as, R a b := by
  induction h with
  | nil => cases hb
  | @cons a first as bs hfirst _ ih =>
    rcases List.mem_cons.mp hb with rfl | hb
    · exact ⟨a, List.mem_cons_self, hfirst⟩
    · obtain ⟨found, hfound, hrelated⟩ := ih hb
      exact ⟨found, List.mem_cons_of_mem a hfound, hrelated⟩

/-- What contributes to a module is what has exports, at its own reference. -/
theorem contributes_of_mem (h : contributions directory files = .ok contributing)
    (hmem : contribution ∈ contributing) :
    contribution.file ∈ files ∧ contribution.file.exports ≠ [] ∧
      Reference.ofPath contribution.file.path directory = .ok contribution.reference := by
  obtain ⟨file, hfile, rfl, hreference⟩ := exists_left_of_mem (contributions_eq_ok h) hmem
  obtain ⟨hfiles, hexports⟩ := List.mem_filter.mp hfile
  exact ⟨hfiles, by simpa using hexports, hreference⟩

/-- Where all references are known, each file with exports contributes. -/
theorem exists_contribution (h : contributions directory files = .ok contributing)
    {file : FileExports} (hfile : file ∈ files) (hexports : file.exports ≠ []) :
    ∃ contribution ∈ contributing, contribution.file = file ∧
      Reference.ofPath file.path directory = .ok contribution.reference := by
  have hmem : file ∈ files.filter fun file => !file.exports.isEmpty :=
    List.mem_filter.mpr ⟨hfile, by simpa using hexports⟩
  exact exists_left_of_mem (contributions_eq_ok h).flip hmem

/-- The imports of analysed files are made of identifiers. -/
theorem isNamed_of_run {selection : Selection} {world after : World}
    (h : Analysis.run selection world = (.ok files, after))
    (hcontributing : contributions directory files = .ok contributing) :
    ∀ entry ∈ allTypeImports contributing, entry.IsNamed := by
  intro entry hentry
  obtain ⟨contribution, hmem, hentry⟩ := List.mem_flatMap.mp hentry
  obtain ⟨hfile, -, hreference⟩ := contributes_of_mem hcontributing hmem
  exact isNamed_of_mem_imports (Analysis.isScanned_of_run h _ hfile) hreference entry hentry

end Catalogue

end Registrar
