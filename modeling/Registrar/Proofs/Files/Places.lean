import Mathlib.Data.List.Induction
import Registrar.Files.Resolve
import Registrar.Proofs.Files.Skeleton

/-! # Where paths lead

A path leads from a directory to the names it stands for once every link on the
way is followed. Both ways of following a path in a tree, step by step for an
operation and to the end for resolving it, lead to these names when they succeed.
-/

namespace Registrar

/-- The names of a place, whether it exists or not. -/
def Place.names : Place → List String
  | .existing names => names
  | .missing directory name => directory ++ [name]

namespace FileNode

/-- A piece of a path that goes down by one name. -/
def IsName (piece : String) : Prop := Path.isNamed piece = true ∧ piece ≠ ".."

instance (piece : String) : Decidable (IsName piece) :=
  inferInstanceAs (Decidable (Path.isNamed piece = true ∧ piece ≠ ".."))

/-- From a place, the pieces of a path lead to another when all links are followed. -/
inductive Leads (tree : FileNode) : List String → List String → List String → Prop
  | done (here : List String) : Leads tree here [] here
  | skip {here rest last : List String} {piece : String} : Path.isNamed piece = false →
      Leads tree here rest last → Leads tree here (piece :: rest) last
  | up {here rest last : List String} : Leads tree here.dropLast rest last →
      Leads tree here (".." :: rest) last
  | enter {here rest last : List String} {piece : String} : IsName piece →
      tree.linkAt? (here ++ [piece]) = none → Leads tree (here ++ [piece]) rest last →
      Leads tree here (piece :: rest) last
  | jump {here rest middle last : List String} {piece target : String} : IsName piece →
      tree.linkAt? (here ++ [piece]) = some target →
      Leads tree (if Path.isAbsoluteText target then [] else here) (Path.split target) middle →
      Leads tree middle rest last → Leads tree here (piece :: rest) last

/-- Names without links on the way, as resolved paths have. -/
def Settled (tree : FileNode) (names : List String) : Prop :=
  ∀ above name, above ++ [name] <+: names → IsName name ∧ tree.linkAt? (above ++ [name]) = none

variable {tree other : FileNode} {here pieces more names last last' : List String}

theorem Leads.unique (h : tree.Leads here pieces last) (h' : tree.Leads here pieces last') :
    last = last' := by
  induction h generalizing last' with
  | done here => cases h'; rfl
  | skip hpiece _ ih =>
    cases h' with
    | skip _ h' => exact ih h'
    | up _ => cases hpiece
    | enter hname _ _ => exact absurd hname.1 (by simp [hpiece])
    | jump hname _ _ _ => exact absurd hname.1 (by simp [hpiece])
  | up _ ih =>
    cases h' with
    | skip hpiece _ => cases hpiece
    | up h' => exact ih h'
    | enter hname _ _ => exact absurd rfl hname.2
    | jump hname _ _ _ => exact absurd rfl hname.2
  | enter hname hlink _ ih =>
    cases h' with
    | skip hpiece _ => exact absurd hname.1 (by simp [hpiece])
    | up _ => exact absurd rfl hname.2
    | enter _ _ h' => exact ih h'
    | jump _ hlink' _ _ => rw [hlink] at hlink'; cases hlink'
  | jump hname hlink _ _ ihtarget ih =>
    cases h' with
    | skip hpiece _ => exact absurd hname.1 (by simp [hpiece])
    | up _ => exact absurd rfl hname.2
    | enter _ hlink' _ => rw [hlink] at hlink'; cases hlink'
    | jump _ hlink' htarget h' =>
      rw [hlink] at hlink'
      cases hlink'
      cases ihtarget htarget
      exact ih h'

theorem Leads.append {middle : List String} (h : tree.Leads here pieces middle)
    (h' : tree.Leads middle more last) : tree.Leads here (pieces ++ more) last := by
  induction h with
  | done here => exact h'
  | skip hpiece _ ih => exact .skip hpiece (ih h')
  | up _ ih => exact .up (ih h')
  | enter hname hlink _ ih => exact .enter hname hlink (ih h')
  | jump hname hlink htarget _ _ ih => exact .jump hname hlink htarget (ih h')

theorem Leads.split (h : tree.Leads here (pieces ++ more) last) :
    ∃ middle, tree.Leads here pieces middle ∧ tree.Leads middle more last := by
  induction pieces generalizing here with
  | nil => exact ⟨here, .done here, h⟩
  | cons piece pieces ih =>
    cases h with
    | skip hpiece h =>
      obtain ⟨middle, hfirst, hrest⟩ := ih h
      exact ⟨middle, .skip hpiece hfirst, hrest⟩
    | up h =>
      obtain ⟨middle, hfirst, hrest⟩ := ih h
      exact ⟨middle, .up hfirst, hrest⟩
    | enter hname hlink h =>
      obtain ⟨middle, hfirst, hrest⟩ := ih h
      exact ⟨middle, .enter hname hlink hfirst, hrest⟩
    | jump hname hlink htarget h =>
      obtain ⟨middle, hfirst, hrest⟩ := ih h
      exact ⟨middle, .jump hname hlink htarget hfirst, hrest⟩

/-! ## Settled names -/

theorem settled_nil (tree : FileNode) : tree.Settled [] := by
  intro above name h
  simp at h

theorem Settled.above (h : tree.Settled names) (hstart : here <+: names) : tree.Settled here :=
  fun above name hname => h above name (hname.trans hstart)

theorem Settled.enter {piece : String} (h : tree.Settled here) (hname : IsName piece)
    (hlink : tree.linkAt? (here ++ [piece]) = none) : tree.Settled (here ++ [piece]) := by
  intro above name hstart
  rcases List.prefix_concat_iff.mp hstart with heq | hstart
  · obtain ⟨rfl, hlast⟩ := List.append_inj' heq rfl
    cases hlast
    exact ⟨hname, hlink⟩
  · exact h above name hstart

theorem Leads.settled (h : tree.Leads here pieces last) (hhere : tree.Settled here) :
    tree.Settled last := by
  induction h with
  | done here => exact hhere
  | skip _ _ ih => exact ih hhere
  | up _ ih => exact ih (hhere.above (List.dropLast_prefix _))
  | enter hname hlink _ ih => exact ih (hhere.enter hname hlink)
  | jump hname hlink _ _ ihtarget ih =>
    refine ih (ihtarget ?_)
    split
    · exact settled_nil tree
    · exact hhere

/-- Settled names lead to themselves. -/
theorem Settled.leads (h : tree.Settled names) : tree.Leads [] names names := by
  induction names using List.reverseRecOn with
  | nil => exact .done []
  | append_singleton names name ih =>
    obtain ⟨hname, hlink⟩ := h names name (List.prefix_refl _)
    exact (ih (h.above (List.prefix_append _ _))).append (.enter hname hlink (.done _))

theorem normalize_of_isName (h : ∀ name ∈ names, IsName name) : Path.normalize names = names := by
  have hfold (names done : List String) (hnames : ∀ name ∈ names, IsName name) :
      names.foldl (fun (done : List String) name =>
        if name == ".." then done.drop 1
        else if Path.isNamed name then name :: done
        else done) done = names.reverse ++ done := by
    induction names generalizing done with
    | nil => rfl
    | cons name names ih =>
      obtain ⟨hnamed, hup⟩ := hnames name (by simp)
      rw [List.foldl_cons, if_neg (by simpa using hup), if_pos hnamed, ih _ fun name hmem =>
        hnames name (List.mem_cons_of_mem _ hmem)]
      simp
  unfold Path.normalize
  rw [hfold names [] h, List.append_nil, List.reverse_reverse]

theorem Settled.normalize (h : tree.Settled names) : Path.normalize names = names := by
  refine normalize_of_isName fun name hname => ?_
  obtain ⟨above, rest, rfl⟩ := List.append_of_mem hname
  exact (h above name ⟨rest, by simp⟩).1

theorem Settled.congr (h : tree.Settled names)
    (hlinks : ∀ names, other.linkAt? names = tree.linkAt? names) : other.Settled names := by
  intro above name hstart
  rw [hlinks]
  exact h above name hstart

theorem Leads.congr (h : tree.Leads here pieces last)
    (hlinks : ∀ names, other.linkAt? names = tree.linkAt? names) : other.Leads here pieces last := by
  induction h with
  | done here => exact .done here
  | skip hpiece _ ih => exact .skip hpiece ih
  | up _ ih => exact .up ih
  | enter hname hlink _ ih => exact .enter hname ((hlinks _).trans hlink) ih
  | jump hname hlink _ _ ihtarget ihrest =>
    exact .jump hname ((hlinks _).trans hlink) ihtarget ihrest

/-! ## Resolving a path -/

theorem linkAt?_of_get? {target : String} (h : tree.get? names = some (.link target)) :
    tree.linkAt? names = some target := by
  unfold linkAt? kind?
  rw [h]
  rfl

theorem linkAt?_eq_none (h : ∀ target, tree.get? names ≠ some (.link target)) :
    tree.linkAt? names = none := by
  unfold linkAt? kind?
  cases hnode : tree.get? names with
  | none => rfl
  | some node =>
    cases node with
    | link target => exact absurd hnode (h target)
    | _ => rfl

theorem get?_of_linkAt? {target : String} (h : tree.linkAt? names = some target) :
    tree.get? names = some (.link target) := by
  unfold linkAt? at h
  split at h
  next found hkind =>
    obtain ⟨node, hnode, hlink⟩ := Option.map_eq_some_iff.mp hkind
    cases node <;> cases hlink
    cases h
    exact hnode
  next => cases h

/-- The pieces that the target of a link is followed by, from the root. -/
def targetPieces (tree : FileNode) (place : List String) : List String :=
  match tree.linkAt? place with
  | some target => (if Path.isAbsoluteText target then [] else place.dropLast) ++ Path.split target
  | none => []

theorem targetPieces_eq {name target : String} (h : tree.linkAt? (here ++ [name]) = some target) :
    tree.targetPieces (here ++ [name]) =
      (if Path.isAbsoluteText target then [] else here) ++ Path.split target := by
  unfold targetPieces
  rw [h, List.dropLast_concat]

theorem leads_of_trailWith {onLink : List String → List String → Trail}
    (honLink : ∀ place target names, onLink place target = ⟨names, false⟩ →
      tree.Leads [] target names)
    (hhere : tree.Settled here) (h : tree.trailWith onLink here pieces = ⟨names, false⟩) :
    tree.Leads here pieces names := by
  induction pieces generalizing here with
  | nil =>
    cases h
    exact .done _
  | cons piece pieces ih =>
    unfold trailWith at h
    split at h
    next hpiece => exact .skip (by simpa using hpiece) (ih hhere h)
    next hpiece =>
      split at h
      next hup =>
        cases eq_of_beq hup
        exact .up (ih (hhere.above (List.dropLast_prefix _)) h)
      next hup =>
        have hname : IsName piece := ⟨by simpa using hpiece, by simpa using hup⟩
        dsimp only at h
        split at h
        next target hlink =>
          have hlink := linkAt?_of_get? hlink
          split at h
          next => cases h
          next middle hmiddle =>
            have hmiddle := honLink _ _ _ hmiddle
            have htarget : tree.Leads (if Path.isAbsoluteText target then [] else here)
                (Path.split target) middle := by
              split at hmiddle
              next habsolute =>
                rw [if_pos habsolute]
                exact hmiddle
              next habsolute =>
                obtain ⟨start, hstart, hrest⟩ := hmiddle.split
                rw [if_neg habsolute, ← hstart.unique hhere.leads]
                exact hrest
            refine .jump hname hlink htarget (ih (htarget.settled ?_) h)
            split
            · exact settled_nil tree
            · exact hhere
        next hlink =>
          have hlink := linkAt?_eq_none hlink
          exact .enter hname hlink (ih (hhere.enter hname hlink) h)

/-- A trail without circles leads to its names. -/
theorem leads_of_trail {depth : Nat} {pending : List (List String)}
    (h : tree.trail depth pending pieces = ⟨names, false⟩) : tree.Leads [] pieces names := by
  induction depth generalizing pending pieces names with
  | zero => cases h
  | succ depth ih =>
    refine leads_of_trailWith (fun place target names hlink => ?_) (settled_nil tree) h
    split at hlink
    · cases hlink
    · exact ih hlink

/-- A trail without circles is the same where all links of the tree are resolved alike. -/
theorem trailWith_transfer {onLink onLink' : List String → List String → Trail}
    (honLink : ∀ place names, (tree.linkAt? place).isSome →
      onLink place (tree.targetPieces place) = ⟨names, false⟩ →
      onLink' place (tree.targetPieces place) = ⟨names, false⟩)
    (h : tree.trailWith onLink here pieces = ⟨names, false⟩) :
    tree.trailWith onLink' here pieces = ⟨names, false⟩ := by
  induction pieces generalizing here with
  | nil => exact h
  | cons piece pieces ih =>
    unfold trailWith at h ⊢
    split at h
    next hpiece => rw [if_pos hpiece]; exact ih h
    next hpiece =>
      rw [if_neg hpiece]
      split at h
      next hup => rw [if_pos hup]; exact ih h
      next hup =>
        rw [if_neg hup]
        dsimp only at h ⊢
        split at h
        next target hget =>
          have hlink := linkAt?_of_get? hget
          rw [← targetPieces_eq hlink] at h ⊢
          split at h
          next => cases h
          next middle hmiddle =>
            rw [honLink _ _ (by rw [hlink]; rfl) hmiddle]
            exact ih h
        next => exact ih h

theorem trailWith_mono {onLink onLink' : List String → List String → Trail}
    (honLink : ∀ place target names, onLink place target = ⟨names, false⟩ →
      onLink' place target = ⟨names, false⟩)
    (h : tree.trailWith onLink here pieces = ⟨names, false⟩) :
    tree.trailWith onLink' here pieces = ⟨names, false⟩ :=
  trailWith_transfer (fun place names _ => honLink place _ names) h

/-- A trail without circles is the same at any greater depth. -/
theorem trail_mono {depth depth' : Nat} {pending : List (List String)} (hdepth : depth ≤ depth')
    (h : tree.trail depth pending pieces = ⟨names, false⟩) :
    tree.trail depth' pending pieces = ⟨names, false⟩ := by
  induction depth generalizing depth' pending pieces names with
  | zero => cases h
  | succ depth ih =>
    obtain ⟨depth', rfl⟩ : ∃ n, depth' = n + 1 := ⟨depth' - 1, by omega⟩
    refine trailWith_mono (fun place target names hlink => ?_) h
    split at hlink
    next => cases hlink
    next hpending =>
      rw [if_neg hpending]
      exact ih (by omega) hlink

end FileNode

end Registrar
