import Registrar.Proofs.Container.Trail

/-! # What lasts

Objects stay, and what can be a key stays the key it is: tuples never change, and nothing
that stands for itself becomes anything else. Between renders components stay what they
are as well, with what they remember, and new ones remember nothing.
-/

namespace Registrar

namespace Store

variable {store other : Store}

/-! ## Keys -/

theorem keyWithin_object {depth reference : Nat} {key : Key} :
    store.keyWithin depth (.object reference) = some key ↔
      store.isCallable (.object reference) = true ∧ key = .object reference ∨
      ∃ less elements, depth = less + 1 ∧
        store.object? (.object reference) = some (.tuple elements) ∧
        ∃ keys, elements.mapM (store.keyWithin less) = some keys ∧ key = .tuple keys := by
  cases hobject : store[reference]? with
  | none => cases depth <;> simp [keyWithin, isCallable, object?, hobject]
  | some object =>
    cases object <;> cases depth <;>
      simp [keyWithin, isCallable, object?, hobject, @eq_comm _ key]

theorem mapM_mono {α β : Type} {f g : α → Option β}
    (h : ∀ element found, f element = some found → g element = some found) {elements : List α}
    {all : List β} (hall : elements.mapM f = some all) : elements.mapM g = some all := by
  induction elements generalizing all with
  | nil => exact hall
  | cons element elements ih =>
    simp only [List.mapM_cons, Option.bind_eq_bind, Option.bind_eq_some_iff] at hall ⊢
    obtain ⟨found, hfound, rest, hrest, hsame⟩ := hall
    exact ⟨found, h element found hfound, rest, ih hrest, hsame⟩

/-- Looking deeper finds the same keys, in every store with the same tuples where what could
be called still can. -/
theorem keyWithin_mono
    (htuple : ∀ value elements, store.object? value = some (.tuple elements) →
      other.object? value = some (.tuple elements))
    (hcallable : ∀ value, store.isCallable value = true → other.isCallable value = true)
    {depth more : Nat} (hle : depth ≤ more) {value : Value} {key : Key}
    (h : store.keyWithin depth value = some key) : other.keyWithin more value = some key := by
  induction depth using Nat.strongRecOn generalizing more value key with
  | ind depth ih =>
    cases value with
    | object reference =>
      rw [keyWithin_object] at h ⊢
      obtain ⟨hcall, rfl⟩ | ⟨less, elements, rfl, hobject, keys, hkeys, rfl⟩ := h
      · exact .inl ⟨hcallable _ hcall, rfl⟩
      · obtain ⟨more, rfl⟩ := Nat.exists_eq_add_of_le' (Nat.le_of_add_left_le hle)
        refine .inr ⟨more, elements, rfl, htuple _ _ hobject, keys, mapM_mono ?_ hkeys, rfl⟩
        exact fun element found => ih less (Nat.lt_succ_self less) (Nat.le_of_succ_le_succ hle)
    | _ => simpa only [keyWithin] using h

/-- Values that can be keys stay the keys they are. -/
def KeepsKeys (store other : Store) : Prop :=
  ∀ value key, store.key? value = some key → other.key? value = some key

theorem keepsKeys_of_objects (hsize : store.size ≤ other.size)
    (htuple : ∀ value elements, store.object? value = some (.tuple elements) →
      other.object? value = some (.tuple elements))
    (hcallable : ∀ value, store.isCallable value = true → other.isCallable value = true) :
    store.KeepsKeys other := fun _ _ =>
  keyWithin_mono htuple hcallable (Nat.succ_le_succ hsize)

theorem Keys.mono {entries : List (Value × Value)} (h : store.Keys entries)
    (hkeys : store.KeepsKeys other) : other.Keys entries := by
  intro entry hentry
  obtain ⟨key, hkey⟩ := Option.isSome_iff_exists.mp (h entry hentry)
  exact Option.isSome_iff_exists.mpr ⟨key, hkeys _ _ hkey⟩

/-! ## Stores -/

/-- The keys of all entries can be keys. -/
def Orderly (store : Store) : Prop :=
  ∀ value object, store.object? value = some object → store.Keys object.entries

theorem initial_orderly : initial.Orderly := by
  intro value object h
  cases value with
  | object reference =>
    match reference with
    | 0 =>
      cases h
      exact keys_nil _
    | reference + 1 => cases h
  | _ => cases h

/-- The entries of a mapping have keys that can be keys, behind views as well. -/
theorem Orderly.keys (h : store.Orderly) {mapping : Value} {entries : List (Value × Value)}
    (hentries : store.entries? mapping = some entries) : store.Keys entries := by
  unfold entries? at hentries
  generalize store.size + 1 = depth at hentries
  induction depth generalizing mapping with
  | zero =>
    unfold entriesWithin at hentries
    cases hobject : store.object? mapping with
    | none => simp [hobject] at hentries
    | some object =>
      have hkeys := h mapping object hobject
      cases object <;> simp [hobject] at hentries <;> exact hentries ▸ hkeys
  | succ depth ih =>
    unfold entriesWithin at hentries
    cases hobject : store.object? mapping with
    | none => simp [hobject] at hentries
    | some object =>
      have hkeys := h mapping object hobject
      cases object with
      | view shown =>
        rw [hobject] at hentries
        exact ih hentries
      | _ => simp [hobject] at hentries <;> exact hentries ▸ hkeys

/-- Objects stay, keys stay the keys they are, and entries stay orderly. -/
structure Lasts (store other : Store) : Prop where
  size : store.size ≤ other.size
  keys : store.KeepsKeys other
  orderly : store.Orderly → other.Orderly

namespace Lasts

variable {next : Store}

theorem refl (store : Store) : store.Lasts store := ⟨Nat.le_refl _, fun _ _ => id, id⟩

theorem trans (h : store.Lasts other) (hnext : other.Lasts next) : store.Lasts next :=
  ⟨Nat.le_trans h.size hnext.size, fun value key hkey => hnext.keys value key (h.keys value key hkey),
    fun horderly => hnext.orderly (h.orderly horderly)⟩

/-- What exists goes on existing. -/
theorem exists_of_exists (h : store.Lasts other) {value : Value}
    (hvalue : (store.object? value).isSome) : (other.object? value).isSome := by
  cases value with
  | object reference =>
    have hlt : reference < store.size := by simpa [object?] using hvalue
    simpa [object?] using Nat.lt_of_lt_of_le hlt h.size
  | _ => cases hvalue

/-- Another object takes the place of one that is no tuple; it stands for itself if that did. -/
theorem of_replace {value : Value} {object changed : Object}
    (hvalue : store.object? value = some object) (htuple : ∀ elements, object ≠ .tuple elements)
    (hcallable : store.isCallable value = true → ∃ item, changed = .component item)
    (hentries : store.Orderly → store.Keys changed.entries) :
    store.Lasts (store.replace value changed) := by
  have hsize : store.size ≤ (store.replace value changed).size := by
    cases value with
    | object reference => exact Nat.le_of_eq Array.size_setIfInBounds.symm
    | _ => exact Nat.le_refl _
  have hkeys : store.KeepsKeys (store.replace value changed) := by
    refine keepsKeys_of_objects hsize (fun found elements hfound => ?_) fun found hfound => ?_
    · rw [Session.object?_replace, if_neg, hfound]
      rintro ⟨rfl, -⟩
      rw [hvalue] at hfound
      exact htuple elements (Option.some.inj hfound)
    · unfold isCallable
      rw [Session.object?_replace]
      by_cases hsame : value = found ∧ (store.object? value).isSome
      · obtain ⟨item, rfl⟩ := hcallable (hsame.1 ▸ hfound)
        rw [if_pos hsame]
      · rw [if_neg hsame]
        exact hfound
  refine ⟨hsize, hkeys, fun horderly found foundObject hfound => ?_⟩
  rw [Session.object?_replace] at hfound
  split at hfound
  · cases hfound
    exact (hentries horderly).mono hkeys
  · exact (horderly found foundObject hfound).mono hkeys

end Lasts

/-- Besides, components stay what they are, and new ones remember nothing. -/
structure Calm (store other : Store) : Prop extends Lasts store other where
  components : ∀ value item, store.object? value = some (.component item) →
    other.object? value = some (.component item)
  fresh : ∀ value item, other.object? value = some (.component item) →
    store.object? value = some (.component item) ∨
      store.object? value = none ∧ item.memo? = none

namespace Calm

variable {next : Store}

theorem refl (store : Store) : store.Calm store :=
  ⟨.refl store, fun _ _ => id, fun _ _ => .inl⟩

theorem trans (h : store.Calm other) (hnext : other.Calm next) : store.Calm next where
  toLasts := h.toLasts.trans hnext.toLasts
  components value item hitem := hnext.components value item (h.components value item hitem)
  fresh value item hitem := by
    rcases hnext.fresh value item hitem with hother | ⟨hnone, hmemo⟩
    · exact h.fresh value item hother
    · refine .inr ⟨Option.eq_none_iff_forall_ne_some.mpr fun object hobject => ?_, hmemo⟩
      have hexists := h.exists_of_exists (Option.isSome_iff_exists.mpr ⟨object, hobject⟩)
      rw [hnone] at hexists
      cases hexists

theorem push {object : Object} (hentries : store.Orderly → store.Keys object.entries)
    (hnew : ∀ item, object = .component item → item.memo? = none) :
    store.Calm (Array.push store object) := by
  have hkeys : store.KeepsKeys (Array.push store object) := by
    refine keepsKeys_of_objects (Array.size_push object ▸ Nat.le_succ _)
      (fun _ _ => Session.object?_push) fun value hvalue => ?_
    unfold isCallable at hvalue ⊢
    cases hobject : store.object? value with
    | none => simp [hobject] at hvalue
    | some found =>
      rw [Session.object?_push hobject]
      rwa [hobject] at hvalue
  have hcases {value : Value} {found : Object}
      (hfound : Store.object? (Array.push store object) value = some found) :
      store.object? value = some found ∨ store.object? value = none ∧ found = object := by
    cases value with
    | object reference =>
      change (Array.push store object)[reference]? = some found at hfound
      rw [Array.getElem?_push] at hfound
      split at hfound
      · next hlast =>
        exact .inr ⟨by simp [object?, hlast], (Option.some.inj hfound).symm⟩
      · exact .inl hfound
    | _ => cases hfound
  refine ⟨⟨Array.size_push object ▸ Nat.le_succ _, hkeys, fun horderly value found hfound => ?_⟩,
    fun _ _ => Session.object?_push, fun value item hitem => ?_⟩
  · rcases hcases hfound with hold | ⟨-, rfl⟩
    · exact (horderly value found hold).mono hkeys
    · exact (hentries horderly).mono hkeys
  · exact (hcases hitem).imp_right (And.imp_right fun hsame => hnew item hsame.symm)

end Calm

/-- What is put into a mapping or a list is put in the place of one, with orderly entries. -/
theorem put_cases {object? : Option Object} {key value : Value} {changed : Object}
    (h : store.put object? key value = .ok changed) :
    ∃ object, object? = some object ∧ (∀ elements, object ≠ .tuple elements) ∧
      (∀ item, object ≠ .component item ∧ changed ≠ .component item) ∧
      (∀ reference : Value, store.object? reference = some object →
        store.isCallable reference = false) ∧
      (store.Keys object.entries → store.Keys changed.entries) := by
  unfold Store.put at h
  split at h
  case h_1 | h_2 =>
    split at h
    · cases h
    · next hkey =>
      cases h
      refine ⟨_, rfl, fun _ => by simp, fun _ => by simp, fun reference hreference => ?_, ?_⟩
      · simp [isCallable, hreference]
      · exact fun hentries => hentries.put (by simpa [Option.isSome_iff_ne_none] using hkey) value
  · split at h
    · cases h
    · split at h
      · cases h
      · cases h
        refine ⟨_, rfl, fun _ => by simp, fun _ => by simp, fun reference hreference => ?_, id⟩
        simp [isCallable, hreference]
  · cases h

/-- What is put into a mapping or a list changes no component. -/
theorem calm_put {mapping key value : Value} {changed : Object}
    (h : store.put (store.object? mapping) key value = .ok changed) :
    store.Calm (store.replace mapping changed) := by
  obtain ⟨object, hobject, htuple, hcomponent, hcallable, hentries⟩ := put_cases h
  refine ⟨.of_replace hobject htuple (fun hcalled => ?_) fun horderly => ?_, ?_, ?_⟩
  · rw [hcallable mapping hobject] at hcalled
    cases hcalled
  · exact hentries (horderly mapping object hobject)
  · intro found item hitem
    rw [Session.object?_replace, if_neg, hitem]
    rintro ⟨rfl, -⟩
    rw [hobject] at hitem
    exact (hcomponent item).1 (Option.some.inj hitem)
  · intro found item hitem
    rw [Session.object?_replace] at hitem
    split at hitem
    · exact absurd (Option.some.inj hitem) (hcomponent item).2
    · exact .inl hitem

end Store

namespace Session

/-- No item of a container is null. -/
def Filled (session : Session) : Prop :=
  ∀ (index : Nat) (container : Container), session.containers[index]? = some container →
    ∀ name, container.item? name ≠ some .null

/-- What lasts through everything a run does. -/
structure Lasts (before after : Session) : Prop where
  objects : before.objects.Lasts after.objects
  filled : before.Filled → after.Filled

/-- What lasts between renders. -/
structure Calm (before after : Session) : Prop where
  objects : before.objects.Calm after.objects
  filled : before.Filled → after.Filled

theorem Calm.lasts {before after : Session} (h : before.Calm after) : before.Lasts after :=
  ⟨h.objects.toLasts, h.filled⟩

theorem steady_calm : Steady Calm where
  refl session := ⟨.refl _, id⟩
  trans h hnext := ⟨h.objects.trans hnext.objects, fun hfilled => hnext.filled (h.filled hfilled)⟩
  create session object hlabel hentries :=
    ⟨.push (fun _ => hentries) (by rintro item rfl; cases hlabel), id⟩
  put session mapping key value object h := ⟨Store.calm_put h, id⟩
  createContainer session name strict := by
    refine ⟨.refl _, fun hfilled index container hcontainer key => ?_⟩
    change (session.containers.push _)[index]? = some container at hcontainer
    rw [Array.getElem?_push] at hcontainer
    split at hcontainer
    · cases hcontainer
      exact fun h => nomatch h
    · exact hfilled index container hcontainer key
  aside session kept numbered traced := ⟨.refl _, id⟩
  request session request hcontainer := by
    cases hrun : request.run session with
    | mk result after =>
      have houtcome := request.run_outcome hcontainer
      rw [hrun] at houtcome
      cases houtcome with
      | refused problem hrefused => exact ⟨.refl _, id⟩
      | stored object replaced hacceptable hlabel hreplaced hnew =>
        refine ⟨.push (fun horderly => ?_) ?_, fun hfilled index container hfound key => ?_⟩
        · cases object with
          | config name entries =>
            obtain ⟨mapping, hmapping⟩ := hnew
            exact horderly.keys hmapping
          | dict _ | dependencies _ => cases hlabel
          | _ => exact Store.keys_nil _
        · rintro item rfl
          exact hnew
        · change (session.containers.modify _ _)[index]? = some container at hfound
          rw [Array.getElem?_modify] at hfound
          split at hfound
          · obtain ⟨old, hold, rfl⟩ := Option.map_eq_some_iff.mp hfound
            change Entries.find? _ (Entries.put _ _ _ _) key ≠ _
            rw [find?_put]
            split
            · exact fun h => nomatch h
            · exact hfilled index old hold key
          · exact hfilled index container hfound key

theorem enduring_lasts : Enduring Lasts where
  refl session := (steady_calm.refl session).lasts
  trans h hnext := ⟨h.objects.trans hnext.objects, fun hfilled => hnext.filled (h.filled hfilled)⟩
  create session object hlabel hentries := (steady_calm.create session object hlabel hentries).lasts
  put session mapping key value object h := (steady_calm.put session mapping key value object h).lasts
  createContainer session name strict := (steady_calm.createContainer session name strict).lasts
  aside session kept numbered traced := (steady_calm.aside session kept numbered traced).lasts
  request session request h := (steady_calm.request session request h).lasts
  remember session self item memo? h := by
    refine ⟨.of_replace h (fun _ => by simp) (fun _ => ⟨_, rfl⟩) fun _ => ?_, id⟩
    exact Store.keys_nil _

theorem Trail.lasts {start after : Session} {log : List Render} (h : start.Trail Calm log after) :
    start.Lasts after :=
  h.follows enduring_lasts fun _ _ => Calm.lasts

end Session

end Registrar
