import Registrar.Proofs.Files.Writing

/-! # What a change touches

Writing a file changes nothing but that file, and adds nothing but the directories above it that
were missing. What stands at a place is told here without what stands below it, so that a
directory is the same when something is added to it.
-/

namespace Registrar.FileNode

/-- A node alone: a directory without its entries. -/
def shallow : FileNode → FileNode
  | .directory _ => empty
  | node => node

/-- What stands at a place, without what stands below it. -/
def shallow? (tree : FileNode) (names : List String) : Option FileNode :=
  (tree.get? names).map shallow

variable {tree other new : FileNode} {name : String} {names parent above here pieces : List String}
  {content : ByteArray} {followLast : Bool} {place : Place}

theorem kind_shallow (node : FileNode) : node.shallow.kind = node.kind := by
  cases node <;> rfl

theorem kind?_eq_shallow? (tree : FileNode) (names : List String) :
    tree.kind? names = (tree.shallow? names).map kind := by
  unfold kind? shallow?
  rw [Option.map_map]
  exact Option.map_congr fun node _ => (kind_shallow node).symm

theorem shallow?_eq_empty_iff : tree.shallow? names = some empty ↔
    tree.kind? names = some .directory := by
  unfold kind? shallow?
  cases tree.get? names with
  | none => simp
  | some node => cases node <;> simp [shallow, kind, empty]

theorem shallow?_eq_none_iff : tree.shallow? names = none ↔ tree.kind? names = none := by
  rw [kind?_eq_shallow?, Option.map_eq_none_iff]

/-- Putting a node without entries where nothing stands below changes what stands there alone. -/
theorem shallow?_put (hparent : tree.kind? parent = some .directory)
    (hplace : tree.kind? (parent ++ [name]) ≠ some .directory) (hnew : new.entries = [])
    (hne : names ≠ parent ++ [name]) :
    (tree.put new (parent ++ [name])).shallow? names = tree.shallow? names := by
  by_cases hstart : names <+: parent ++ [name]
  · have habove : names <+: parent := (List.prefix_concat_iff.mp hstart).resolve_left hne
    have hdirectory : tree.kind? names = some .directory := by
      obtain ⟨rest, rfl⟩ := habove
      exact kind?_front hparent fun _ => rfl
    rw [shallow?_eq_empty_iff.mpr (kind?_put_above hparent habove),
      shallow?_eq_empty_iff.mpr hdirectory]
  · unfold shallow?
    rw [get?_put_ne hparent hplace hnew hstart]

/-! ## Paths in trees that have grown -/

theorem Follows.grows {onLink onLink' : List String → String → List String → Except FileError Place}
    (hgrows : tree.Grows other)
    (honLink : ∀ here target rest, onLink here target rest = .ok (.existing names) →
      onLink' here target rest = .ok (.existing names))
    (h : tree.Follows onLink followLast here pieces place) (hplace : place = .existing names) :
    other.Follows onLink' followLast here pieces (.existing names) := by
  induction h with
  | done =>
    cases hplace
    exact .done _
  | skip hpiece _ ih => exact .skip hpiece (ih hplace)
  | up _ ih => exact .up (ih hplace)
  | enter hname hkind _ ih => exact .enter hname (hgrows.kinds _ _ hkind) (ih hplace)
  | missing => cases hplace
  | file hname hkind =>
    cases hplace
    exact .file hname (hgrows.kinds _ _ hkind)
  | lastLink hname hkind hlast =>
    cases hplace
    exact .lastLink hname (hgrows.kinds _ _ hkind) hlast
  | link hname hkind hlast hgoes =>
    subst hplace
    exact .link hname (hgrows.kinds _ _ hkind) hlast (honLink _ _ _ hgoes)

theorem follow_of_grows (hgrows : tree.Grows other) {links : Nat}
    (h : tree.follow followLast links here pieces = .ok (.existing names)) :
    other.follow followLast links here pieces = .ok (.existing names) := by
  induction links generalizing here pieces with
  | zero =>
    exact ((follows_of_followUntil h).grows hgrows (fun _ _ _ h => by cases h) rfl).followUntil
  | succ links ih =>
    exact ((follows_of_followUntil h).grows hgrows (fun _ _ _ h => ih h) rfl).followUntil

/-- A path that leads to something leads there in a tree that has grown. -/
theorem Grows.locate (hgrows : tree.Grows other)
    (h : tree.locate followLast pieces = .ok (.existing names)) :
    other.locate followLast pieces = .ok (.existing names) :=
  follow_of_grows hgrows h

theorem Follows.made {onLink onLink' : List String → String → List String → Except FileError Place}
    (hgrows : tree.Grows other) (hnew : other.kind? (above ++ [name]) = some .directory)
    (honLink : ∀ here target rest, onLink here target rest = .ok (.missing above name) →
      onLink' here target rest = .ok (.existing (above ++ [name])))
    (h : tree.Follows onLink followLast here pieces place) (hplace : place = .missing above name) :
    other.Follows onLink' true here pieces (.existing (above ++ [name])) := by
  induction h with
  | done | file | lastLink => cases hplace
  | skip hpiece _ ih => exact .skip hpiece (ih hplace)
  | up _ ih => exact .up (ih hplace)
  | enter hname hkind _ ih => exact .enter hname (hgrows.kinds _ _ hkind) (ih hplace)
  | missing hname =>
    cases hplace
    exact .enter hname hnew (.done _)
  | link hname hkind _ hgoes =>
    subst hplace
    exact .link hname (hgrows.kinds _ _ hkind) (by simp) (honLink _ _ _ hgoes)

theorem follow_of_made (hgrows : tree.Grows other)
    (hnew : other.kind? (above ++ [name]) = some .directory) {links : Nat}
    (h : tree.follow followLast links here pieces = .ok (.missing above name)) :
    other.follow true links here pieces = .ok (.existing (above ++ [name])) := by
  induction links generalizing here pieces with
  | zero =>
    exact ((follows_of_followUntil h).made hgrows hnew (fun _ _ _ h => by cases h) rfl).followUntil
  | succ links ih =>
    exact ((follows_of_followUntil h).made hgrows hnew (fun _ _ _ h => ih h) rfl).followUntil

/-! ## Changes -/

/-- A place is the file that a path leads to. -/
def IsTarget (pieces names : List String) (tree : FileNode) : Prop :=
  tree.locate true pieces = .ok (.existing names) ∧ tree.kind? names = some .file

/-- A place is a directory that some start of a path leads to. -/
def IsOnWay (pieces names : List String) (tree : FileNode) : Prop :=
  tree.kind? names = some .directory ∧
    ∃ front, front <+: pieces ∧ tree.locate true front = .ok (.existing names)

/-- At every place there is still the same, or the file that a path leads to, which was there or
nothing was, or a directory above it where nothing was. -/
def TouchesOnly (pieces : List String) (tree other : FileNode) : Prop :=
  ∀ names, other.shallow? names = tree.shallow? names ∨
    other.IsTarget pieces names ∧ (tree.kind? names = none ∨ tree.kind? names = some .file) ∨
    other.IsOnWay pieces.dropLast names ∧ tree.kind? names = none

theorem IsTarget.grows (h : tree.IsTarget pieces names) (hgrows : tree.Grows other) :
    other.IsTarget pieces names :=
  ⟨hgrows.locate h.1, hgrows.kinds _ _ h.2⟩

theorem IsOnWay.grows (h : tree.IsOnWay pieces names) (hgrows : tree.Grows other) :
    other.IsOnWay pieces names := by
  obtain ⟨hkind, front, hfront, hlocate⟩ := h
  exact ⟨hgrows.kinds _ _ hkind, front, hfront, hgrows.locate hlocate⟩

theorem TouchesOnly.refl (pieces : List String) (tree : FileNode) : tree.TouchesOnly pieces tree :=
  fun _ => .inl rfl

theorem TouchesOnly.trans {last : FileNode} (h : tree.TouchesOnly pieces other)
    (h' : other.TouchesOnly pieces last) (hgrows : other.Grows last) :
    tree.TouchesOnly pieces last := by
  intro names
  have hkind : other.shallow? names = tree.shallow? names → other.kind? names = tree.kind? names := by
    intro hsame
    rw [kind?_eq_shallow?, hsame, ← kind?_eq_shallow?]
  rcases h' names with hsame' | ⟨htarget, hbefore⟩ | ⟨hway, hbefore⟩
  · rcases h names with hsame | ⟨htarget, hbefore⟩ | ⟨hway, hbefore⟩
    · exact .inl (hsame'.trans hsame)
    · exact .inr (.inl ⟨htarget.grows hgrows, hbefore⟩)
    · exact .inr (.inr ⟨hway.grows hgrows, hbefore⟩)
  · rcases h names with hsame | ⟨-, hbefore'⟩ | ⟨hway, -⟩
    · exact .inr (.inl ⟨htarget, hkind hsame ▸ hbefore⟩)
    · exact .inr (.inl ⟨htarget, hbefore'⟩)
    · rw [hway.1] at hbefore
      simp at hbefore
  · rcases h names with hsame | ⟨htarget, -⟩ | ⟨hway', -⟩
    · exact .inr (.inr ⟨hway, hkind hsame ▸ hbefore⟩)
    · rw [htarget.2] at hbefore
      cases hbefore
    · rw [hway'.1] at hbefore
      cases hbefore

theorem Written.touchesOnly {written : FileNode}
    (h : tree.Written pieces content written place parent name) :
    tree.TouchesOnly pieces written := by
  intro names
  by_cases hne : names = parent ++ [name]
  · subst hne
    exact .inr (.inl ⟨⟨h.locate, (h.kind? _).trans (if_pos rfl)⟩, h.before⟩)
  · refine .inl ?_
    rw [h.put]
    refine shallow?_put h.directory (fun hdirectory => ?_) rfl hne
    rcases h.before with hbefore | hbefore <;> rw [hbefore] at hdirectory <;> cases hdirectory

section Root

variable (hroot : tree.kind? [] = some .directory)
include hroot

theorem touchesOnly_of_makeDirectory {made : FileNode} {pieces front : List String}
    (hfront : front <+: pieces.dropLast) (h : tree.makeDirectory front = .ok made) :
    tree.TouchesOnly pieces made := by
  have hgrows := grows_of_makeDirectory hroot h
  unfold makeDirectory at h
  split at h
  next => cases h
  next => cases h
  next above name hlocate =>
    cases h
    obtain ⟨hparent, hnone⟩ := fits_of_locate hroot hlocate
    have hplace : tree.kind? (above ++ [name]) ≠ some .directory := by
      rw [hnone]
      exact nofun
    intro names
    by_cases hne : names = above ++ [name]
    · subst hne
      have hnew : (tree.put empty (above ++ [name])).kind? (above ++ [name]) = some .directory :=
        (kind?_put hparent hplace rfl).trans (if_pos rfl)
      exact .inr (.inr ⟨⟨hnew, front, hfront, follow_of_made hgrows hnew hlocate⟩, hnone⟩)
    · exact .inl (shallow?_put hparent hplace rfl hne)

/-- Whatever comes of making the directories above a path, they are all it touches. -/
theorem touchesOnly_of_makeDirectories {pieces : List String} (reversed : List String)
    (hreversed : reversed.reverse <+: pieces.dropLast) :
    tree.TouchesOnly pieces (tree.makeDirectories reversed).1 := by
  induction reversed with
  | nil => exact TouchesOnly.refl pieces tree
  | cons name above ih =>
    have hsettle (last : FileNode) (error : FileError) (hlast : tree.TouchesOnly pieces last) :
        tree.TouchesOnly pieces (if last.isDirectoryAt (name :: above).reverse
          then (last, Except.ok ()) else (last, .error error)).1 := by
      split <;> exact hlast
    have habove : above.reverse <+: pieces.dropLast := by
      rw [List.reverse_cons] at hreversed
      exact (List.prefix_append _ _).trans hreversed
    have hgrows := grows_of_makeDirectories hroot above
    unfold makeDirectories
    dsimp only
    split
    next hmade => exact touchesOnly_of_makeDirectory hroot hreversed hmade
    next =>
      have ih := ih habove
      revert ih hgrows
      rcases tree.makeDirectories above with ⟨last, _ | _⟩
      · exact fun _ ih => ih
      · intro hgrows ih
        dsimp only
        split
        next hmade =>
          have hlast := hgrows.kinds _ _ hroot
          exact ih.trans (touchesOnly_of_makeDirectory hlast hreversed hmade)
            (grows_of_makeDirectory hlast hmade)
        next => exact ih
        next error _ _ => exact hsettle last error ih
    next error _ _ => exact hsettle tree error (TouchesOnly.refl pieces tree)

end Root

end Registrar.FileNode
