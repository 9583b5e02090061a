import Registrar.Proofs.Files.Following

/-! # Writing files

A written file can be read back, at the place its path leads to. Writing it, and
making the directories above it, adds to a tree without taking anything away, and
adds no links; where the file was there before, only its octets change.
-/

namespace Registrar.FileNode

/-- A tree has all that another has, and the same links. -/
structure Grows (tree other : FileNode) : Prop where
  kinds : ∀ names kind, tree.kind? names = some kind → other.kind? names = some kind
  links : ∀ names, other.linkAt? names = tree.linkAt? names
  size : tree.size ≤ other.size

variable {tree other made written new : FileNode} {name : String}
  {names parent above pieces : List String} {content : ByteArray}

theorem Grows.refl (tree : FileNode) : tree.Grows tree :=
  ⟨fun _ _ => id, fun _ => rfl, Nat.le_refl _⟩

theorem Grows.trans {last : FileNode} (h : tree.Grows other) (h' : other.Grows last) :
    tree.Grows last :=
  ⟨fun names kind hkind => h'.kinds names kind (h.kinds names kind hkind),
    fun names => (h'.links names).trans (h.links names), Nat.le_trans h.size h'.size⟩

theorem sizeEntries_setEntry {entries : List (String × FileNode)} {node : FileNode}
    (h : ∀ child, entries.lookup name = some child → child.size ≤ node.size) :
    sizeEntries entries ≤ sizeEntries (setEntry name node entries) := by
  induction entries with
  | nil => exact Nat.zero_le _
  | cons entry entries ih =>
    obtain ⟨key, value⟩ := entry
    by_cases hkey : key = name
    · subst key
      have hvalue := h value (by rw [lookup_cons, if_pos rfl])
      simp only [setEntry, beq_self_eq_true, if_true, sizeEntries]
      omega
    · have hrest := ih fun child hchild => h child (by rw [lookup_cons, if_neg (Ne.symm hkey), hchild])
      simp only [setEntry, beq_eq_false_iff_ne.mpr hkey, Bool.false_eq_true, if_false, sizeEntries]
      omega

theorem size_put (h : ∀ node, tree.get? names = some node → node.size ≤ new.size) :
    tree.size ≤ (tree.put new names).size := by
  induction names generalizing tree with
  | nil => exact h tree rfl
  | cons name names ih =>
    cases tree with
    | directory entries =>
      change sizeEntries entries + 1 ≤ sizeEntries (setEntry name _ entries) + 1
      refine Nat.add_le_add_right (sizeEntries_setEntry fun child hchild => ?_) 1
      rw [hchild]
      refine ih fun node hnode => h node ?_
      change (entries.lookup name).bind _ = _
      rw [hchild]
      exact hnode
    | _ => exact Nat.le_refl _

/-- Putting an empty directory where nothing is, or a file where no other kind of
node is, adds to a tree. -/
theorem grows_put (hparent : tree.kind? parent = some .directory)
    (hbefore : tree.kind? (parent ++ [name]) = none ∨
      tree.kind? (parent ++ [name]) = some new.kind)
    (hnew : new = empty ∧ tree.kind? (parent ++ [name]) = none ∨ ∃ content, new = .file content) :
    tree.Grows (tree.put new (parent ++ [name])) := by
  have hplace : tree.kind? (parent ++ [name]) ≠ some .directory := by
    rcases hnew with ⟨-, hnone⟩ | ⟨content, rfl⟩
    · simp [hnone]
    · rcases hbefore with hnone | hfile <;> simp [*, kind]
  have hentries : new.entries = [] := by
    rcases hnew with ⟨rfl, -⟩ | ⟨_, rfl⟩ <;> rfl
  have hlink (target : String) : new.kind ≠ .link target := by
    intro hlink
    rcases hnew with ⟨rfl, -⟩ | ⟨_, rfl⟩ <;> cases hlink
  refine ⟨fun names kind hkind => ?_, fun names => ?_, size_put fun node hnode => ?_⟩
  · rw [kind?_put hparent hplace hentries]
    split
    next heq =>
      subst names
      rcases hbefore with hnone | hsame
      · rw [hnone] at hkind
        cases hkind
      · rw [← hsame, hkind]
    next => exact hkind
  · by_cases heq : names = parent ++ [name]
    · have hother : (tree.put new (parent ++ [name])).linkAt? names = none :=
        linkAt?_of_not_link fun target htarget => by
          rw [kind?_put hparent hplace hentries, if_pos heq] at htarget
          exact hlink target (Option.some.inj htarget)
      have htree : tree.linkAt? names = none := linkAt?_of_not_link fun target htarget => by
        rw [heq] at htarget
        rcases hbefore with hnone | hsame
        · rw [hnone] at htarget
          cases htarget
        · rw [hsame] at htarget
          exact hlink target (Option.some.inj htarget)
      rw [hother, htree]
    · unfold linkAt?
      rw [kind?_put hparent hplace hentries, if_neg heq]
  · have hkind : tree.kind? (parent ++ [name]) = some node.kind := by
      unfold kind?
      rw [hnode]
      rfl
    rcases hnew with ⟨-, hnone⟩ | ⟨_, rfl⟩
    · rw [hkind] at hnone
      cases hnone
    · rw [hkind] at hbefore
      rcases hbefore with hnone | hsame
      · cases hnone
      · cases node with
        | file _ => exact Nat.le_refl _
        | _ => cases hsame

/-! ## Directories -/

section Root

variable (hroot : tree.kind? [] = some .directory)
include hroot

theorem grows_of_makeDirectory (h : tree.makeDirectory pieces = .ok made) : tree.Grows made := by
  unfold makeDirectory at h
  split at h
  next => cases h
  next => cases h
  next above name hlocate =>
    cases h
    obtain ⟨hparent, hnone⟩ := fits_of_locate hroot hlocate
    exact grows_put hparent (.inl hnone) (.inl ⟨rfl, hnone⟩)

/-- Whatever comes of making directories, it adds to the tree. -/
theorem grows_of_makeDirectories (names : List String) :
    tree.Grows (tree.makeDirectories names).1 := by
  induction names with
  | nil => exact Grows.refl tree
  | cons name above ih =>
    have hsettle (last : FileNode) (error : FileError) (hlast : tree.Grows last) :
        tree.Grows (if last.isDirectoryAt (name :: above).reverse then (last, Except.ok ())
          else (last, .error error)).1 := by
      split <;> exact hlast
    unfold makeDirectories
    dsimp only
    split
    next hmade => exact grows_of_makeDirectory hroot hmade
    next =>
      revert ih
      rcases tree.makeDirectories above with ⟨last, _ | _⟩
      · exact id
      · intro ih
        dsimp only
        split
        next hmade => exact ih.trans (grows_of_makeDirectory (ih.kinds _ _ hroot) hmade)
        next => exact ih
        next error _ _ => exact hsettle last error ih
    next error _ _ => exact hsettle tree error (Grows.refl tree)

end Root

/-- The directories above something that exists are there already. -/
theorem makeDirectories_of_exists (h : tree.locate true names = .ok (.existing above)) :
    (tree.makeDirectories names.dropLast.reverse).1 = tree := by
  cases hnames : names.dropLast.reverse with
  | nil => rfl
  | cons name upper =>
    have hdropLast : names.dropLast = (name :: upper).reverse := by
      rw [← hnames, List.reverse_reverse]
    have hexists : ∃ found, tree.locate false (name :: upper).reverse = .ok (.existing found) := by
      have hne : names ≠ [] := by
        rintro rfl
        cases hnames
      rw [← List.dropLast_concat_getLast hne, hdropLast] at h
      exact exists_of_follow_append h
    obtain ⟨found, hfound⟩ := hexists
    have hmade : tree.makeDirectory (name :: upper).reverse = .error .alreadyExists := by
      unfold makeDirectory
      rw [hfound]
    unfold makeDirectories
    dsimp only
    rw [hmade]
    dsimp only
    split <;> rfl

/-! ## Files -/

/-- A file was written: it was put at the place its path leads to, in a directory, where
nothing or a file was before. -/
structure Written (tree : FileNode) (pieces : List String) (content : ByteArray)
    (written : FileNode) (place : Place) (parent : List String) (name : String) : Prop where
  located : tree.locate true pieces = .ok place
  names : place.names = parent ++ [name]
  directory : tree.kind? parent = some .directory
  before : tree.kind? (parent ++ [name]) = none ∨ tree.kind? (parent ++ [name]) = some .file
  put : written = tree.put (.file content) (parent ++ [name])

theorem written_of_write (hroot : tree.kind? [] = some .directory)
    (h : tree.write pieces content = .ok written) :
    ∃ place parent name, tree.Written pieces content written place parent name := by
  unfold write at h
  split at h
  next => cases h
  next above name hlocate =>
    cases h
    obtain ⟨hparent, hnone⟩ := fits_of_locate hroot hlocate
    exact ⟨_, above, name, hlocate, rfl, hparent, .inl hnone, rfl⟩
  next names hlocate =>
    obtain ⟨kind, hkind, hlink⟩ := fits_of_locate hroot hlocate
    split at h
    next => cases h
    next hdirectory =>
      cases h
      have hfile : tree.kind? names = some .file := by
        cases kind with
        | file => exact hkind
        | link target => exact absurd rfl (hlink rfl target)
        | directory =>
          unfold kind? at hkind
          cases hnode : tree.get? names with
          | none =>
            rw [hnode] at hkind
            cases hkind
          | some node =>
            rw [hnode] at hkind
            cases node with
            | directory entries => exact absurd hnode (hdirectory entries)
            | _ => cases hkind
      rcases List.eq_nil_or_concat names with rfl | ⟨above, name, rfl⟩
      · rw [hroot] at hfile
        cases hfile
      · rw [List.concat_eq_append] at hfile hlocate ⊢
        exact ⟨_, above, name, hlocate, rfl, kind?_above hfile, .inr hfile, rfl⟩

section Written

variable {place : Place} (h : tree.Written pieces content written place parent name)
include h

theorem Written.kind? (names : List String) :
    written.kind? names = if names = parent ++ [name] then some .file else tree.kind? names := by
  rw [h.put]
  refine kind?_put h.directory (fun hdirectory => ?_) rfl
  rcases h.before with hnone | hfile
  · rw [hnone] at hdirectory
    cases hdirectory
  · rw [hfile] at hdirectory
    cases hdirectory

theorem Written.grows : tree.Grows written := by
  rw [h.put]
  exact grows_put h.directory h.before (.inr ⟨content, rfl⟩)

/-- The path leads to the file. -/
theorem Written.locate : written.locate true pieces = .ok (.existing (parent ++ [name])) :=
  follow_put h.before h.kind? h.located h.names

theorem Written.get? : written.get? (parent ++ [name]) = some (.file content) := by
  rw [h.put]
  exact get?_put_self h.directory

/-- Where a file was before, only octets changed. -/
theorem Written.skeleton (hfile : tree.kind? (parent ++ [name]) = some .file) :
    written.skeleton = tree.skeleton := by
  unfold FileNode.kind? at hfile
  cases hnode : tree.get? (parent ++ [name]) with
  | none =>
    rw [hnode] at hfile
    cases hfile
  | some node =>
    rw [hnode] at hfile
    cases node with
    | file before =>
      rw [h.put]
      exact skeleton_put hnode
    | _ => cases hfile

/-- Other files are left alone. -/
theorem Written.get?_other {names : List String} {octets : ByteArray} (hne : names ≠ parent ++ [name])
    (hfile : tree.get? names = some (.file octets)) : written.get? names = some (.file octets) := by
  rw [h.put, get?_put_ne h.directory ?_ rfl ?_, hfile]
  · rcases h.before with hnone | hfile <;> simp [*]
  · intro hstart
    rcases List.prefix_concat_iff.mp hstart with heq | ⟨rest, hrest⟩
    · exact hne heq
    · have hparent := h.directory
      unfold FileNode.kind? at hparent
      rw [← hrest, get?_append, hfile] at hparent
      cases rest with
      | nil => cases hparent
      | cons first rest => cases hparent

end Written

end Registrar.FileNode
