import Registrar.Proofs.Project.Work
import Registrar.Proofs.Selection.Segments
import Registrar.Proofs.Selection.Spellings

/-! # Where a project lives

Relative patterns are joined to the root of their project as texts, so the names of the
root are read as parts of the patterns. Whether a path below the root is selected does
not hang on the root, as long as each name of the root matches itself; a root with a
name that does not, such as one with a set of characters in it, selects nothing.
-/

namespace Registrar

open Registrar.Path (spelled isNamed)

namespace Segments

/-- Names before a pattern and before a path match when each of them matches itself. -/
theorem accepts_append_same {front : List String} (hfront : ∀ name ∈ front, name ≠ spanning)
    (parts names : List String) :
    accepts (front ++ parts) (front ++ names) =
      (front.all (fun name => partMatches name name) && accepts parts names) := by
  induction front with
  | nil => rfl
  | cons name front ih =>
    obtain ⟨hname, hrest⟩ := List.forall_mem_cons.mp hfront
    rw [List.cons_append, List.cons_append, accepts_cons, if_neg (by simpa using hname)]
    dsimp only
    rw [ih hrest, List.all_cons, Bool.and_assoc]

end Segments

namespace Path

variable {path : Path} {names : List String} {name text : String}

/-! ## Reading a path that was written -/

theorem slash_not_mem_splitFrom {current piece letters : List Char} (hcurrent : '/' ∉ current)
    (h : piece ∈ splitFrom current letters) : '/' ∉ piece := by
  induction letters generalizing current with
  | nil =>
    rw [splitFrom, List.mem_singleton] at h
    rwa [h, List.mem_reverse]
  | cons c letters ih =>
    rw [splitFrom] at h
    split at h
    next =>
      rcases List.mem_cons.mp h with rfl | hrest
      · rwa [List.mem_reverse]
      · exact ih List.not_mem_nil hrest
    next hc =>
      refine ih (fun hmem => ?_) h
      rcases List.mem_cons.mp hmem with rfl | hmem
      · exact hc rfl
      · exact hcurrent hmem

theorem slash_not_mem_spelled (h : name ∈ spelled text) : '/' ∉ name.toList := by
  obtain ⟨piece, hpiece, rfl⟩ := List.mem_map.mp (List.mem_filter.mp h).1
  rw [String.toList_ofList]
  exact slash_not_mem_splitFrom List.not_mem_nil hpiece

theorem spelled_intercalate (hnames : ∀ name ∈ names, isNamed name = true ∧ '/' ∉ name.toList) :
    spelled ("/".intercalate names) = names := by
  induction names with
  | nil => rfl
  | cons name names ih =>
    obtain ⟨⟨hnamed, hslash⟩, hrest⟩ := List.forall_mem_cons.mp hnames
    cases names with
    | nil => exact spelled_name hslash hnamed
    | cons next names =>
      rw [String.intercalate_cons_cons, spelled_append_slash, spelled_name hslash hnamed, ih hrest]
      rfl

theorem head?_intercalate (hnames : ∀ name ∈ names, isNamed name = true ∧ '/' ∉ name.toList) :
    ("/".intercalate names).toList.head? ≠ some '/' := by
  cases names with
  | nil => exact nofun
  | cons name names =>
    obtain ⟨⟨hnamed, hslash⟩, -⟩ := List.forall_mem_cons.mp hnames
    have hne : name.toList ≠ [] := fun hnil => by
      rw [String.toList_eq_nil_iff.mp hnil] at hnamed
      cases hnamed
    have hfirst : ("/".intercalate (name :: names)).toList.head? = name.toList.head? := by
      cases names with
      | nil => rfl
      | cons next names =>
        rw [String.intercalate_cons_cons, String.toList_append, String.toList_append,
          List.append_assoc, List.head?_append, List.head?_eq_some_head hne]
        rfl
    rw [hfirst]
    exact fun hhead => hslash (List.mem_of_mem_head? hhead)

theorem rootOf_slash {letters : List Char} (h : letters.head? ≠ some '/') :
    rootOf ('/' :: letters) = .slash ∧ rootOf ('/' :: '/' :: letters) = .doubleSlash := by
  cases letters with
  | nil => exact ⟨rfl, rfl⟩
  | cons c letters =>
    have hc : c ≠ '/' := fun heq => h (congrArg some heq)
    simp [rootOf, hc]

/-- An absolute path that is written and read again is the same. -/
theorem ofString_toString (habsolute : path.isAbsolute = true)
    (hnames : ∀ name ∈ path.names, isNamed name = true ∧ '/' ∉ name.toList) :
    ofString path.toString = path := by
  obtain ⟨root, names⟩ := path
  have hspelled := spelled_intercalate hnames
  obtain ⟨hslash, hdouble⟩ := rootOf_slash (head?_intercalate hnames)
  cases root with
  | relative => cases habsolute
  | slash =>
    have hjoin := spelled_append_slash "" ("/".intercalate names)
    rw [hspelled] at hjoin
    change ofString ("/" ++ "/".intercalate names) = _
    refine congrArg₂ Path.mk ?_ hjoin
    rw [String.toList_append]
    exact hslash
  | doubleSlash =>
    have hjoin := spelled_append_slash ("" ++ "/" ++ "") ("/".intercalate names)
    rw [hspelled] at hjoin
    change ofString ("//" ++ "/".intercalate names) = _
    refine congrArg₂ Path.mk ?_ hjoin
    rw [String.toList_append]
    exact hdouble

/-- Below a root a path without double points resolves to its names where there are no links. -/
theorem resolve_below {tree : FileNode}
    (hunlinked : ∀ names target, tree.kind? names ≠ some (.link target)) {root : Path}
    (habsolute : root.isAbsolute = true) (hroot : ∀ name ∈ root.names, IsFileName name)
    (hrelative : isAbsoluteText text = false) (hup : ".." ∉ spelled text) (working : List String) :
    (root.join (ofString text)).resolve tree working =
      if (spelled text).any (·.toList.contains '\x00') then .error .nullCharacter
      else .ok ⟨.slash, root.names ++ spelled text⟩ := by
  have hjoin : root.join (ofString text) = ⟨root.root, root.names ++ spelled text⟩ := by
    unfold join
    rw [isAbsolute_ofString, hrelative]
    rfl
  have hnames : ∀ name ∈ root.names ++ spelled text, FileNode.IsName name := by
    intro name hname
    rcases List.mem_append.mp hname with habove | hbelow
    · exact (hroot name habove).isName
    · exact ⟨(List.mem_filter.mp hbelow).2, fun heq => hup (heq ▸ hbelow)⟩
  have hsettled : tree.Settled (root.names ++ spelled text) := by
    rintro above name ⟨rest, hrest⟩
    refine ⟨hnames name (by rw [← hrest]; simp), FileNode.linkAt?_of_not_link (hunlinked _)⟩
  have hnull : root.names.any (·.toList.contains '\x00') = false :=
    any_null_eq_false.mpr fun name hname => (hroot name hname).null
  rw [hjoin]
  split
  next hfound =>
    rw [resolve_eq, if_pos]
    rw [List.any_append, hfound, Bool.or_true]
  next hfree =>
    refine resolve_of_settled habsolute hsettled ?_
    rw [List.any_append, hnull, Bool.false_or]
    simpa using hfree

end Path

namespace Selection

variable {selection : Selection} {pattern : String} {names : List String}

/-! ## Matching below a root -/

/-- Whether a path below the root of a project is selected, all given by their names from there. -/
def selectsBelow (includes excludes : List String) (output path : List String) : Bool :=
  path != output &&
    includes.any (fun pattern => Segments.accepts (spelled pattern) path) &&
    !excludes.any (fun pattern => Segments.accepts (spelled pattern) path)

/-- Whether every name matches itself when it is read as a part of a pattern. -/
def matchThemselves (names : List String) : Bool :=
  names.all fun name => Segments.partMatches name name

theorem matchThemselves_of_literal (h : ∀ name ∈ names, hasWildcard name = false) :
    matchThemselves names = true := by
  refine List.all_eq_true.mpr fun name hname => ?_
  unfold Segments.partMatches
  rw [h name hname]
  exact beq_self_eq_true name

section Rooted

variable (hslash : selection.root.root = .slash)
  (hroot : ∀ name ∈ selection.root.names, IsFileName name ∧ name ≠ Segments.spanning)
include hslash hroot

theorem parts_anchor (hrelative : Path.isAbsoluteText pattern = false) :
    (Path.ofString (selection.anchor pattern)).parts =
      "/" :: (selection.root.names ++ spelled pattern) := by
  have hjoin : selection.root.join (Path.ofString pattern) =
      ⟨.slash, selection.root.names ++ spelled pattern⟩ := by
    unfold Path.join
    rw [Path.isAbsolute_ofString, hrelative, ← hslash]
    rfl
  have hnames : ∀ name ∈ selection.root.names ++ spelled pattern,
      isNamed name = true ∧ '/' ∉ name.toList := by
    intro name hname
    rcases List.mem_append.mp hname with habove | hbelow
    · exact ⟨(hroot name habove).1.isName.1, (hroot name habove).1.slash⟩
    · exact ⟨(List.mem_filter.mp hbelow).2, Path.slash_not_mem_spelled hbelow⟩
  unfold anchor
  rw [if_neg (by simp [hrelative]), hjoin, Path.ofString_toString rfl hnames]
  rfl

theorem patternMatches_below (hrelative : Path.isAbsoluteText pattern = false)
    (names : List String) :
    selection.patternMatches ⟨.slash, selection.root.names ++ names⟩ pattern =
      (matchThemselves selection.root.names && Segments.accepts (spelled pattern) names) := by
  have hfront : ∀ name ∈ ["/"] ++ selection.root.names, name ≠ Segments.spanning :=
    List.forall_mem_cons.mpr ⟨by decide, fun name hname => (hroot name hname).2⟩
  have hself : Segments.partMatches "/" "/" = true := by decide
  unfold patternMatches
  rw [parts_anchor hslash hroot hrelative]
  change Segments.accepts (["/"] ++ (selection.root.names ++ spelled pattern))
    (["/"] ++ (selection.root.names ++ names)) = _
  rw [← List.append_assoc, ← List.append_assoc, Segments.accepts_append_same hfront,
    List.all_append, List.all_cons, List.all_nil, hself, Bool.true_and, Bool.true_and]
  rfl

/-- Below its root a selection selects by the names from there, if the root matches itself. -/
theorem selects_below
    (hrelative : ∀ pattern ∈ selection.includes ++ selection.excludes,
      Path.isAbsoluteText pattern = false) {output : List String}
    (houtput : selection.output = some ⟨.slash, selection.root.names ++ output⟩)
    (names : List String) :
    selection.selects ⟨.slash, selection.root.names ++ names⟩ =
      (selectsBelow selection.includes selection.excludes output names &&
        matchThemselves selection.root.names) := by
  have hany (patterns : List String) (h : ∀ pattern ∈ patterns, Path.isAbsoluteText pattern = false) :
      patterns.any (selection.patternMatches ⟨.slash, selection.root.names ++ names⟩) =
        (matchThemselves selection.root.names &&
          patterns.any fun pattern => Segments.accepts (spelled pattern) names) := by
    induction patterns with
    | nil => simp
    | cons pattern patterns ih =>
      obtain ⟨hpattern, hpatterns⟩ := List.forall_mem_cons.mp h
      rw [List.any_cons, List.any_cons, patternMatches_below hslash hroot hpattern, ih hpatterns,
        Bool.and_or_distrib_left]
  have hother : (some (⟨.slash, selection.root.names ++ names⟩ : Path) != selection.output) =
      (names != output) := by
    rw [houtput, Bool.eq_iff_iff]
    simp
  have hincludes := hany selection.includes fun pattern hpattern =>
    hrelative pattern (List.mem_append_left _ hpattern)
  have hexcludes := hany selection.excludes fun pattern hpattern =>
    hrelative pattern (List.mem_append_right _ hpattern)
  unfold selects selectsBelow
  rw [hother, hincludes, hexcludes]
  cases matchThemselves selection.root.names <;> simp

end Rooted

/-! ## Projects at different roots -/

/-- Whether a path below the root of a project is selected, given by texts; none of them
can hold a null character. -/
def verdict (includes excludes : List String) (output path : String) : Except ProjectError Bool :=
  if (spelled output ++ spelled path).any (·.toList.contains '\x00') then
    .error (.unresolved .nullCharacter)
  else .ok (selectsBelow includes excludes (spelled output) (spelled path))

/-- Whether a project at a root selects a path below it. -/
def selectsAt (includes excludes : List String) (output path : String) (root : Path) : Work Bool := do
  let selection ← make includes excludes root (some (root.join (Path.ofString output)))
  selection.selectsPath (root.join (Path.ofString path))

variable {includes excludes : List String} {output path : String} {root : Path}

theorem reads_selectsAt (includes excludes : List String) (output path : String) (root : Path) :
    Work.Reads (selectsAt includes excludes output path root) fun tree working => do
      let anchor ← (root.resolve tree working).mapError .unresolved
      let output ← ((root.join (Path.ofString output)).resolve tree working).mapError .unresolved
      let resolved ← ((anchor.join (root.join (Path.ofString path))).resolve tree working).mapError
        .unresolved
      return selects ⟨includes, excludes, anchor, some output⟩ resolved := by
  refine (((Work.reads_resolve root).bind fun anchor =>
    ((Work.reads_resolve (root.join (Path.ofString output))).map some).bind fun output =>
      Work.reads_pure (Selection.mk includes excludes anchor output)).bind fun selection =>
        (Work.reads_resolve (selection.root.join (root.join (Path.ofString path)))).map
          selection.selects).congr fun tree working => ?_
  cases root.resolve tree working with
  | error error => rfl
  | ok anchor =>
    cases (root.join (Path.ofString output)).resolve tree working with
    | error error => rfl
    | ok output =>
      change Except.map _ (((anchor.join (root.join (Path.ofString path))).resolve tree
          working).mapError ProjectError.unresolved) =
        (((anchor.join (root.join (Path.ofString path))).resolve tree
          working).mapError ProjectError.unresolved >>= _)
      cases (anchor.join (root.join (Path.ofString path))).resolve tree working <;> rfl

/-- Where there are no links, whether a path below the root is selected does not hang on the
root, if each name of the root matches itself; otherwise nothing is selected. -/
theorem selectsAt_eq_verdict
    (hrelative : ∀ pattern ∈ includes ++ excludes, Path.isAbsoluteText pattern = false)
    (houtput : Path.isAbsoluteText output = false ∧ ".." ∉ spelled output)
    (hpath : Path.isAbsoluteText path = false ∧ ".." ∉ spelled path)
    (world : World) (hunlinked : ∀ names target, world.tree.kind? names ≠ some (.link target))
    (habsolute : root.isAbsolute = true)
    (hroot : ∀ name ∈ root.names, IsFileName name ∧ name ≠ Segments.spanning) :
    (selectsAt includes excludes output path root world).1 =
        (verdict includes excludes output path).map (· && matchThemselves root.names) ∧
      ((∀ name ∈ root.names, hasWildcard name = false) →
        (selectsAt includes excludes output path root world).1 =
          verdict includes excludes output path) := by
  have hnames : ∀ name ∈ root.names, IsFileName name := fun name hname => (hroot name hname).1
  have hself : root.resolve world.tree world.working = .ok ⟨.slash, root.names⟩ := by
    have hempty : (root.join (Path.ofString "")).resolve world.tree world.working = _ :=
      Path.resolve_below hunlinked habsolute hnames rfl (by decide) world.working
    have hroot : root.join (Path.ofString "") = root := by
      unfold Path.join
      rw [if_neg (by decide)]
      exact congrArg (Path.mk root.root) (List.append_nil root.names)
    rw [hroot] at hempty
    rw [hempty]
    exact congrArg (fun names => Except.ok (Path.mk .slash names)) (List.append_nil root.names)
  have hjoin : (⟨.slash, root.names⟩ : Path).join (root.join (Path.ofString path)) =
      root.join (Path.ofString path) := by
    have hjoined : (root.join (Path.ofString path)).isAbsolute = true := by
      unfold Path.join
      split
      next h => exact h
      next => exact habsolute
    conv_lhs => unfold Path.join
    exact if_pos hjoined
  have hvalue : (selectsAt includes excludes output path root world).1 =
      (verdict includes excludes output path).map (· && matchThemselves root.names) := by
    obtain ⟨_, hreads⟩ := reads_selectsAt includes excludes output path root world
    rw [hreads]
    dsimp only
    rw [hself]
    change (((root.join (Path.ofString output)).resolve world.tree world.working).mapError
      ProjectError.unresolved >>= fun output => (((Path.mk .slash root.names).join (root.join
        (Path.ofString path))).resolve world.tree world.working).mapError
          ProjectError.unresolved >>= _) = _
    rw [hjoin, Path.resolve_below hunlinked habsolute hnames houtput.1 houtput.2,
      Path.resolve_below hunlinked habsolute hnames hpath.1 hpath.2]
    unfold verdict
    rw [List.any_append]
    cases (spelled output).any (·.toList.contains '\x00') with
    | true => rfl
    | false =>
      cases (spelled path).any (·.toList.contains '\x00') with
      | true => rfl
      | false =>
        let selection : Selection := ⟨includes, excludes, ⟨.slash, root.names⟩,
          some ⟨.slash, root.names ++ spelled output⟩⟩
        have hselects : selection.selects ⟨.slash, root.names ++ spelled path⟩ = _ :=
          selects_below rfl hroot hrelative rfl (spelled path)
        exact congrArg Except.ok hselects
  refine ⟨hvalue, fun hliteral => ?_⟩
  rw [hvalue, matchThemselves_of_literal hliteral]
  simp only [Bool.and_true]
  cases verdict includes excludes output path <;> rfl

/-- A file is selected in a directory with a plain name, and not in one with brackets in it. -/
theorem brackets_selectsAt :
    let world : World := ⟨.directory [], [], []⟩
    (selectsAt ["src/*.py"] [] "gen.py" "src/a.py" ⟨.slash, ["p"]⟩ world).1 = .ok true ∧
      (selectsAt ["src/*.py"] [] "gen.py" "src/a.py" ⟨.slash, ["p[1]"]⟩ world).1 = .ok false := by
  intro world
  have hunlinked (names : List String) (target : String) :
      world.tree.kind? names ≠ some (.link target) := by
    cases names <;> exact nofun
  have hselected (root : Path) (habsolute : root.isAbsolute = true)
      (hroot : ∀ name ∈ root.names, IsFileName name ∧ name ≠ Segments.spanning) :
      (selectsAt ["src/*.py"] [] "gen.py" "src/a.py" root world).1 =
        (verdict ["src/*.py"] [] "gen.py" "src/a.py").map (· && matchThemselves root.names) :=
    (selectsAt_eq_verdict (by decide) (by decide) (by decide) world hunlinked habsolute hroot).1
  have hverdict : verdict ["src/*.py"] [] "gen.py" "src/a.py" = .ok true := by
    unfold verdict
    rw [if_neg (by decide)]
    exact congrArg Except.ok (by decide)
  have hplain : (true && matchThemselves ["p"]) = true := by decide
  have hbrackets : (true && matchThemselves ["p[1]"]) = false := by decide
  rw [hselected _ rfl (by decide), hselected _ rfl (by decide), hverdict]
  exact ⟨congrArg Except.ok hplain, congrArg Except.ok hbrackets⟩

end Selection

end Registrar
