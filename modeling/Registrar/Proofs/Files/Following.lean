import Registrar.Files.Locate
import Registrar.Proofs.Files.Places

/-! # Following paths

Following a path over a bounded number of links leads where the path leads, when
it succeeds. It never fails for too many links on the names of a resolved path,
and putting a file where the path ends leads the same path to that file.
-/

namespace Registrar.FileNode

variable {tree other : FileNode} {here pieces more names : List String} {place : Place}
  {links : Nat}

/-- What following does at a name hangs on the kind of what stands there. -/
theorem followUntil_name {piece : String} (hname : IsName piece)
    (onLink : List String → String → List String → Except FileError Place) (followLast : Bool)
    (here rest : List String) :
    tree.followUntil onLink followLast here (piece :: rest) =
      match tree.kind? (here ++ [piece]) with
      | none => if rest.isEmpty then .ok (.missing here piece) else .error .notFound
      | some .directory => tree.followUntil onLink followLast (here ++ [piece]) rest
      | some .file =>
        if rest.isEmpty then .ok (.existing (here ++ [piece])) else .error .notDirectory
      | some (.link target) =>
        if rest.isEmpty && !followLast then .ok (.existing (here ++ [piece]))
        else onLink here target rest := by
  rw [followUntil, if_neg (by simp [hname.1]), if_neg (by simpa using hname.2)]
  unfold kind?
  cases tree.get? (here ++ [piece]) with
  | none => rfl
  | some node => cases node <;> rfl

theorem followUntil_unnamed {piece : String} (hpiece : Path.isNamed piece = false)
    (onLink : List String → String → List String → Except FileError Place) (followLast : Bool)
    (here rest : List String) :
    tree.followUntil onLink followLast here (piece :: rest) =
      tree.followUntil onLink followLast here rest := by
  rw [followUntil, if_pos (by simp [hpiece])]

theorem followUntil_up
    (onLink : List String → String → List String → Except FileError Place) (followLast : Bool)
    (here rest : List String) :
    tree.followUntil onLink followLast here (".." :: rest) =
      tree.followUntil onLink followLast here.dropLast rest := by
  rw [followUntil]
  rfl

/-- A piece is skipped, goes up, or goes down by a name. -/
theorem piece_cases (piece : String) :
    Path.isNamed piece = false ∨ piece = ".." ∨ IsName piece := by
  by_cases hnamed : Path.isNamed piece = true
  · by_cases hup : piece = ".."
    · exact .inr (.inl hup)
    · exact .inr (.inr ⟨hnamed, hup⟩)
  · exact .inl (by simpa using hnamed)

theorem linkAt?_of_kind? {target : String} (h : tree.kind? names = some (.link target)) :
    tree.linkAt? names = some target := by
  unfold linkAt?
  rw [h]

theorem linkAt?_of_not_link (h : ∀ target, tree.kind? names ≠ some (.link target)) :
    tree.linkAt? names = none := by
  unfold linkAt?
  split
  next target htarget => exact absurd htarget (h target)
  next => rfl

/-- How following succeeds: piece by piece, until the way ends or goes on at a link. -/
inductive Follows (tree : FileNode)
    (onLink : List String → String → List String → Except FileError Place) (followLast : Bool) :
    List String → List String → Place → Prop
  | done (here : List String) : Follows tree onLink followLast here [] (.existing here)
  | skip {here rest : List String} {piece : String} {place : Place} :
      Path.isNamed piece = false → Follows tree onLink followLast here rest place →
      Follows tree onLink followLast here (piece :: rest) place
  | up {here rest : List String} {place : Place} :
      Follows tree onLink followLast here.dropLast rest place →
      Follows tree onLink followLast here (".." :: rest) place
  | enter {here rest : List String} {piece : String} {place : Place} : IsName piece →
      tree.kind? (here ++ [piece]) = some .directory →
      Follows tree onLink followLast (here ++ [piece]) rest place →
      Follows tree onLink followLast here (piece :: rest) place
  | missing {here : List String} {piece : String} : IsName piece →
      tree.kind? (here ++ [piece]) = none →
      Follows tree onLink followLast here [piece] (.missing here piece)
  | file {here : List String} {piece : String} : IsName piece →
      tree.kind? (here ++ [piece]) = some .file →
      Follows tree onLink followLast here [piece] (.existing (here ++ [piece]))
  | lastLink {here : List String} {piece target : String} : IsName piece →
      tree.kind? (here ++ [piece]) = some (.link target) → followLast = false →
      Follows tree onLink followLast here [piece] (.existing (here ++ [piece]))
  | link {here rest : List String} {piece target : String} {place : Place} : IsName piece →
      tree.kind? (here ++ [piece]) = some (.link target) →
      (rest.isEmpty && !followLast) = false → onLink here target rest = .ok place →
      Follows tree onLink followLast here (piece :: rest) place

theorem follows_of_followUntil {onLink : List String → String → List String → Except FileError Place}
    {followLast : Bool} (h : tree.followUntil onLink followLast here pieces = .ok place) :
    tree.Follows onLink followLast here pieces place := by
  induction pieces generalizing here with
  | nil =>
    cases h
    exact .done here
  | cons piece pieces ih =>
    rcases piece_cases piece with hpiece | rfl | hname
    · rw [followUntil_unnamed hpiece] at h
      exact .skip hpiece (ih h)
    · rw [followUntil_up] at h
      exact .up (ih h)
    · rw [followUntil_name hname] at h
      cases hkind : tree.kind? (here ++ [piece]) with
      | none =>
        rw [hkind] at h
        dsimp only at h
        split at h
        next hlast =>
          cases h
          rw [List.isEmpty_iff.mp hlast]
          exact .missing hname hkind
        next => cases h
      | some kind =>
        rw [hkind] at h
        cases kind with
        | directory => exact .enter hname hkind (ih h)
        | file =>
          dsimp only at h
          split at h
          next hlast =>
            cases h
            rw [List.isEmpty_iff.mp hlast]
            exact .file hname hkind
          next => cases h
        | link target =>
          dsimp only at h
          split at h
          next hlast =>
            rw [Bool.and_eq_true, List.isEmpty_iff, Bool.not_eq_true'] at hlast
            cases h
            rw [hlast.1]
            exact .lastLink hname hkind hlast.2
          next hgoes => exact .link hname hkind (by simpa using hgoes) h

theorem Follows.followUntil {onLink : List String → String → List String → Except FileError Place}
    {followLast : Bool} (h : tree.Follows onLink followLast here pieces place) :
    tree.followUntil onLink followLast here pieces = .ok place := by
  induction h with
  | done here => rfl
  | skip hpiece _ ih => rw [followUntil_unnamed hpiece, ih]
  | up _ ih => rw [followUntil_up, ih]
  | enter hname hkind _ ih => rw [followUntil_name hname, hkind, ← ih]
  | missing hname hkind =>
    rw [followUntil_name hname, hkind]
    rfl
  | file hname hkind =>
    rw [followUntil_name hname, hkind]
    rfl
  | lastLink hname hkind hlast =>
    rw [followUntil_name hname, hkind, hlast]
    rfl
  | link hname hkind hgoes honLink =>
    rw [followUntil_name hname, hkind, ← honLink]
    dsimp only
    rw [hgoes, if_neg Bool.false_ne_true]

theorem Follows.leads {onLink : List String → String → List String → Except FileError Place}
    (honLink : ∀ here target rest place, onLink here target rest = .ok place →
      tree.Leads (if Path.isAbsoluteText target then [] else here) (Path.split target ++ rest)
        place.names)
    (h : tree.Follows onLink true here pieces place) : tree.Leads here pieces place.names := by
  induction h with
  | done here => exact .done here
  | skip hpiece _ ih => exact .skip hpiece ih
  | up _ ih => exact .up ih
  | enter hname hkind _ ih => exact .enter hname (linkAt?_of_not_link (by simp [hkind])) ih
  | missing hname hkind =>
    exact .enter hname (linkAt?_of_not_link (by simp [hkind])) (.done _)
  | file hname hkind =>
    exact .enter hname (linkAt?_of_not_link (by simp [hkind])) (.done _)
  | lastLink _ _ hlast => cases hlast
  | link hname hkind _ hgoes =>
    obtain ⟨middle, hfirst, hrest⟩ := (honLink _ _ _ _ hgoes).split
    exact .jump hname (linkAt?_of_kind? hkind) hfirst hrest

/-- An operation that follows a path reaches the place the path leads to. -/
theorem leads_of_follow (h : tree.follow true links here pieces = .ok place) :
    tree.Leads here pieces place.names := by
  induction links generalizing here pieces place with
  | zero => exact (follows_of_followUntil h).leads fun _ _ _ _ h => by cases h
  | succ links ih => exact (follows_of_followUntil h).leads fun _ _ _ _ h => ih h

theorem Settled.locate (h : tree.Settled names) (hplace : tree.locate true names = .ok place) :
    place.names = names :=
  (leads_of_follow hplace).unique h.leads

theorem followUntil_of_settled {followLast : Bool}
    {onLink : List String → String → List String → Except FileError Place}
    (h : tree.Settled (here ++ pieces)) :
    tree.followUntil onLink followLast here pieces ≠ .error .tooManyLinks := by
  induction pieces generalizing here with
  | nil => exact nofun
  | cons piece pieces ih =>
    obtain ⟨hname, hlink⟩ := h here piece ⟨pieces, by simp⟩
    rw [followUntil_name hname]
    cases hkind : tree.kind? (here ++ [piece]) with
    | none => dsimp only; split <;> exact nofun
    | some kind =>
      cases kind with
      | directory => exact ih (by simpa using h)
      | file => dsimp only; split <;> exact nofun
      | link target =>
        rw [linkAt?_of_kind? hkind] at hlink
        cases hlink

theorem Settled.status (h : tree.Settled names) : tree.status names ≠ .error .tooManyLinks := by
  have hlocate : tree.locate true names ≠ .error .tooManyLinks := followUntil_of_settled h
  unfold FileNode.status
  split
  next error herror =>
    rw [herror] at hlocate
    intro heq
    cases heq
    exact hlocate rfl
  next => exact nofun
  next => split <;> exact nofun

/-! ## What stands where an operation arrives -/

/-- A place is what it says: something stands there, which is no link when links at
the end are followed, or nothing in a directory. -/
def Fits (tree : FileNode) (followLast : Bool) : Place → Prop
  | .existing names => ∃ kind, tree.kind? names = some kind ∧
      (followLast = true → ∀ target, kind ≠ .link target)
  | .missing above name => tree.kind? above = some .directory ∧ tree.kind? (above ++ [name]) = none

theorem kind?_dropLast (h : tree.kind? here = some .directory) :
    tree.kind? here.dropLast = some .directory := by
  rcases List.eq_nil_or_concat here with rfl | ⟨above, name, rfl⟩
  · exact h
  · rw [List.concat_eq_append] at h ⊢
    rw [List.dropLast_concat]
    exact kind?_above h

theorem Follows.fits {onLink : List String → String → List String → Except FileError Place}
    {followLast : Bool}
    (honLink : ∀ here target rest place, tree.kind? here = some .directory →
      onLink here target rest = .ok place → tree.Fits followLast place)
    (h : tree.Follows onLink followLast here pieces place)
    (hhere : tree.kind? here = some .directory) : tree.Fits followLast place := by
  induction h with
  | done here => exact ⟨_, hhere, by simp⟩
  | skip _ _ ih => exact ih hhere
  | up _ ih => exact ih (kind?_dropLast hhere)
  | enter _ hkind _ ih => exact ih hkind
  | missing _ hkind => exact ⟨hhere, hkind⟩
  | file _ hkind => exact ⟨_, hkind, by simp⟩
  | lastLink _ hkind hlast => exact ⟨_, hkind, by simp [hlast]⟩
  | link _ _ _ hgoes => exact honLink _ _ _ _ hhere hgoes

theorem fits_of_follow {followLast : Bool} (hroot : tree.kind? [] = some .directory)
    (hhere : tree.kind? here = some .directory)
    (h : tree.follow followLast links here pieces = .ok place) : tree.Fits followLast place := by
  induction links generalizing here pieces place with
  | zero => exact (follows_of_followUntil h).fits (fun _ _ _ _ _ h => by cases h) hhere
  | succ links ih =>
    refine (follows_of_followUntil h).fits (fun here target rest place hhere h => ih ?_ h) hhere
    split
    · exact hroot
    · exact hhere

theorem fits_of_locate {followLast : Bool} (hroot : tree.kind? [] = some .directory)
    (h : tree.locate followLast pieces = .ok place) : tree.Fits followLast place :=
  fits_of_follow hroot hroot h

/-! ## The way to something that exists -/

theorem Follows.exists_of_append
    {onLink onLink' : List String → String → List String → Except FileError Place}
    (honLink : ∀ here target rest names, onLink here target (rest ++ more) = .ok (.existing names) →
      ∃ names, onLink' here target rest = .ok (.existing names))
    (h : tree.Follows onLink true here (pieces ++ more) (.existing names)) :
    ∃ names, tree.Follows onLink' false here pieces (.existing names) := by
  induction pieces generalizing here with
  | nil => exact ⟨here, .done here⟩
  | cons piece pieces ih =>
    rw [List.cons_append] at h
    generalize hmore : pieces ++ more = rest at h
    cases h with
    | skip hpiece h =>
      subst hmore
      exact (ih h).imp fun _ => .skip hpiece
    | up h =>
      subst hmore
      exact (ih h).imp fun _ => .up
    | enter hname hkind h =>
      subst hmore
      exact (ih h).imp fun _ => .enter hname hkind
    | file hname hkind =>
      rw [(List.append_eq_nil_iff.mp hmore).1]
      exact ⟨_, .file hname hkind⟩
    | lastLink _ _ hlast => cases hlast
    | link hname hkind _ hgoes =>
      subst hmore
      -- A link at the end is not followed now.
      cases hrest : pieces.isEmpty with
      | true =>
        rw [List.isEmpty_iff.mp hrest]
        exact ⟨_, .lastLink hname hkind rfl⟩
      | false => exact (honLink _ _ _ _ hgoes).imp fun _ => .link hname hkind (by simp [hrest])

/-- On the way to something that exists there is something at every place. -/
theorem exists_of_follow_append
    (h : tree.follow true links here (pieces ++ more) = .ok (.existing names)) :
    ∃ names, tree.follow false links here pieces = .ok (.existing names) := by
  induction links generalizing here pieces names with
  | zero =>
    refine ((follows_of_followUntil h).exists_of_append fun _ _ _ _ h => ?_).imp fun _ =>
      Follows.followUntil
    cases h
  | succ links ih =>
    refine ((follows_of_followUntil h).exists_of_append fun here target rest names h => ?_).imp fun _ =>
      Follows.followUntil
    rw [← List.append_assoc] at h
    exact ih h

/-! ## The way to a file that is put -/

theorem Follows.put
    {onLink onLink' : List String → String → List String → Except FileError Place}
    (honLink : ∀ here target rest place, onLink here target rest = .ok place →
      place.names = names → onLink' here target rest = .ok (.existing names))
    (hbefore : tree.kind? names = none ∨ tree.kind? names = some .file)
    (hkinds : ∀ place, other.kind? place = if place = names then some .file else tree.kind? place)
    (h : tree.Follows onLink true here pieces place) (hplace : place.names = names) :
    other.Follows onLink' true here pieces (.existing names) := by
  have hother {above : List String} {kind : Kind} (hkind : tree.kind? above = some kind)
      (hfile : kind ≠ .file) : other.kind? above = some kind := by
    rw [hkinds, if_neg, hkind]
    rintro rfl
    rcases hbefore with hnone | hsame
    · rw [hnone] at hkind
      cases hkind
    · rw [hsame] at hkind
      cases hkind
      exact hfile rfl
  induction h with
  | done here =>
    subst hplace
    exact .done here
  | skip hpiece _ ih => exact .skip hpiece (ih hplace)
  | up _ ih => exact .up (ih hplace)
  | enter hname hkind _ ih => exact .enter hname (hother hkind (by simp)) (ih hplace)
  | missing hname _ =>
    subst hplace
    exact .file hname ((hkinds _).trans (if_pos rfl))
  | file hname _ =>
    subst hplace
    exact .file hname ((hkinds _).trans (if_pos rfl))
  | lastLink _ _ hlast => cases hlast
  | link hname hkind hlast hgoes =>
    exact .link hname (hother hkind (by simp)) hlast (honLink _ _ _ _ hgoes hplace)

/-- A path that leads to a place leads to the file that is put there. -/
theorem follow_put (hbefore : tree.kind? names = none ∨ tree.kind? names = some .file)
    (hkinds : ∀ place, other.kind? place = if place = names then some .file else tree.kind? place)
    (h : tree.follow true links here pieces = .ok place) (hplace : place.names = names) :
    other.follow true links here pieces = .ok (.existing names) := by
  induction links generalizing here pieces place with
  | zero =>
    exact ((follows_of_followUntil h).put (fun _ _ _ _ h => by cases h) hbefore hkinds hplace).followUntil
  | succ links ih =>
    exact ((follows_of_followUntil h).put (fun _ _ _ _ h hplace => ih h hplace) hbefore hkinds
      hplace).followUntil

end Registrar.FileNode
