import Registrar.Proofs.Container.Verdict

/-! # Runs that leave sessions closed

A part of a run that is given values of a closed session leaves the session closed, with no fewer
objects, and gives values of the session it leaves.
-/

namespace Registrar

/-- Values that refer to the first objects only, or to none at all. -/
def Value.AllWithin (size : Nat) (values : List Value) : Prop := ∀ value ∈ values, value.Within size

theorem Value.AllWithin.mono {size larger : Nat} {values : List Value}
    (h : Value.AllWithin size values) (hle : size ≤ larger) : Value.AllWithin larger values :=
  fun value hvalue => (h value hvalue).mono hle

/-- The values of an argument. -/
def Argument.values {α : Type} : Argument α → List α
  | .one value => [value]
  | .many taken => taken
  | .entries named => named.map Prod.snd

theorem Session.Closed.conclude {session : Session} (h : session.Closed) (index : Nat)
    {verdict : Verdict} (hverdict : verdict.Within session.objects.size) :
    (session.conclude index verdict).2.Closed ∧
      session.objects.size ≤ (session.conclude index verdict).2.objects.size ∧
      ∀ item, (session.conclude index verdict).1 = .ok item →
        item.Within (session.conclude index verdict).2.objects.size := by
  cases verdict with
  | refused problem => exact ⟨h, Nat.le_refl _, nofun⟩
  | stored key item reports =>
    obtain ⟨hitem, hpending⟩ := hverdict
    have hpushed := h.push hitem fun registration hsame => absurd hsame (hpending registration)
    have hlast : (.object session.objects.size : Value).Within (session.objects.push item).size :=
      Array.size_push _ ▸ Nat.lt_succ_self _
    refine ⟨?_, Array.size_push _ ▸ Nat.le_succ _, fun value hvalue => ?_⟩
    · refine ⟨hpushed.toGrounded.congr rfl (Array.size_modify ..) fun _ _ => id, hpushed.objects,
        fun other container hcontainer => ?_, hpushed.kept⟩
      change (session.containers.modify index _)[other]? = some container at hcontainer
      rw [Array.getElem?_modify] at hcontainer
      split at hcontainer
      · obtain ⟨found, hfound, rfl⟩ := Option.map_eq_some_iff.mp hcontainer
        exact Entries.forall_snd_put (hpushed.items other found hfound) hlast
      · exact hpushed.items other container hcontainer
    · cases hvalue
      exact hlast

theorem Session.extend_empty (session : Session) : session.extend #[] = session := by
  simp [Session.extend]

namespace Run

open Value (Within AllWithin)

variable {α β : Type} {within : Nat → α → Prop} {within' : Nat → β → Prop} {before : Session}

/-- From a session on, a part of a run leaves a closed session with no fewer objects, and gives
what is within that. -/
structure Closes (within : Nat → α → Prop) (before : Session) (run : Run α) : Prop where
  closed : (run before).2.Closed
  grows : before.objects.size ≤ (run before).2.objects.size
  within : ∀ value, (run before).1 = .ok value → within (run before).2.objects.size value

/-! ## Sequences -/

theorem closes_pure {value : α} (hclosed : before.Closed) (h : within before.objects.size value) :
    Closes within before (pure value) where
  closed := hclosed
  grows := Nat.le_refl _
  within other hother := by
    cases hother
    exact h

theorem closes_throw (hclosed : before.Closed) (fault : Fault) :
    Closes within before (throw fault) :=
  ⟨hclosed, Nat.le_refl _, nofun⟩

theorem Closes.bind_run {run : Run α} {next : α → Run β} (h : Closes within before run)
    (hnext : ∀ value after, run before = (.ok value, after) → after.Closed →
      before.objects.size ≤ after.objects.size → within after.objects.size value →
      Closes within' after (next value)) : Closes within' before (run >>= next) := by
  obtain ⟨hclosed, hgrows, hwithin⟩ := h
  have hrun := bind_apply run next before
  rcases hfirst : run before with ⟨fault | value, after⟩
  · rw [hfirst] at hclosed hgrows hrun
    exact ⟨hrun ▸ hclosed, hrun ▸ hgrows, fun value hvalue => by rw [hrun] at hvalue; cases hvalue⟩
  · rw [hfirst] at hclosed hgrows hwithin hrun
    obtain ⟨hlast, hmore, hother⟩ := hnext value after hfirst hclosed hgrows (hwithin value rfl)
    dsimp only at hrun
    exact ⟨hrun ▸ hlast, hrun ▸ hgrows.trans hmore, hrun ▸ hother⟩

theorem Closes.bind {run : Run α} {next : α → Run β} (h : Closes within before run)
    (hnext : ∀ value after, after.Closed → before.objects.size ≤ after.objects.size →
      within after.objects.size value → Closes within' after (next value)) :
    Closes within' before (run >>= next) :=
  h.bind_run fun value after _ => hnext value after

/-- What fails before the rest leaves the session as it is. -/
theorem closes_throw_bind {next : α → Run β} (hclosed : before.Closed) (fault : Fault) :
    Closes within' before ((throw fault : Run α) >>= next) :=
  ⟨hclosed, Nat.le_refl _, nofun⟩

/-- A part that only looks comes before the rest in the same session. -/
theorem Looks.closes_bind {run : Run β} {next : β → Run α} (h : run.Looks)
    (hclosed : before.Closed) (hnext : ∀ value, run before = (.ok value, before) →
      Closes within before (next value)) : Closes within before (run >>= next) := by
  have hsame := h before
  have hrun := bind_apply run next before
  rcases hfirst : run before with ⟨fault | value, after⟩
  · rw [hfirst] at hsame hrun
    dsimp only at hsame hrun
    rw [hsame] at hrun
    exact ⟨hrun ▸ hclosed, hrun ▸ Nat.le_refl _, fun value hvalue => by rw [hrun] at hvalue; cases hvalue⟩
  · rw [hfirst] at hsame hrun
    dsimp only at hsame hrun
    rw [hsame] at hrun hfirst
    obtain ⟨hlast, hmore, hother⟩ := hnext value hfirst
    exact ⟨hrun ▸ hlast, hrun ▸ hmore, hrun ▸ hother⟩

/-- A part that only looks, and finds what is within. -/
theorem Looks.closes {run : Run α} (h : run.Looks) (hclosed : before.Closed)
    (hwithin : ∀ value, run before = (.ok value, before) → within before.objects.size value) :
    Closes within before run := by
  have hsame := h before
  refine ⟨by rwa [hsame], by rw [hsame], fun value hvalue => ?_⟩
  rw [hsame]
  exact hwithin value (Prod.ext hvalue hsame)

theorem closes_mapM {γ : Type} {each : γ → Run α} {elements : List γ} (known : Nat → γ → Prop)
    (gives : Nat → α → Prop)
    (hmono : ∀ size larger element, known size element → size ≤ larger → known larger element)
    (hkeep : ∀ size larger value, gives size value → size ≤ larger → gives larger value)
    (h : ∀ element before, before.Closed → known before.objects.size element →
      Closes gives before (each element)) (hclosed : before.Closed)
    (helements : ∀ element ∈ elements, known before.objects.size element) :
    Closes (fun size values => ∀ value ∈ values, gives size value) before (elements.mapM each) := by
  induction elements generalizing before with
  | nil => exact closes_pure hclosed (List.forall_mem_nil _)
  | cons element elements ih =>
    obtain ⟨helement, hrest⟩ := List.forall_mem_cons.mp helements
    rw [List.mapM_cons]
    refine (h element before hclosed helement).bind fun value after hafter hgrows hvalue => ?_
    have hknown := fun other hother => hmono _ _ other (hrest other hother) hgrows
    refine (ih hafter hknown).bind fun values last hlast hmore hvalues => ?_
    exact closes_pure hlast (List.forall_mem_cons.mpr ⟨hkeep _ _ _ hvalue hmore, hvalues⟩)

/-! ## Objects -/

theorem closes_create {object : Object} (hclosed : before.Closed)
    (hobject : AllWithin before.objects.size object.values)
    (hpending : ∀ registration, object = .pending registration →
      registration.container < before.containers.size) :
    Closes Within before (create object) where
  closed := hclosed.push hobject hpending
  grows := Array.size_push _ ▸ Nat.le_succ _
  within value hvalue := by
    cases hvalue
    exact Array.size_push _ ▸ Nat.lt_succ_self _

theorem closes_list {elements : List Value} (hclosed : before.Closed)
    (h : AllWithin before.objects.size elements) : Closes Within before (list elements) :=
  closes_create hclosed h fun _ => nofun

theorem closes_tuple {elements : List Value} (hclosed : before.Closed)
    (h : AllWithin before.objects.size elements) : Closes Within before (tuple elements) := by
  cases elements with
  | nil => exact closes_pure hclosed hclosed.objects.filled
  | cons _ _ => exact closes_create hclosed h fun _ => nofun

theorem closes_dict {entries : List (Value × Value)} (hclosed : before.Closed)
    (h : AllWithin before.objects.size (Entries.values entries)) :
    Closes Within before (dict entries) :=
  closes_create hclosed h fun _ => nofun

/-- Named values as a mapping. -/
theorem closes_dict_text {entries : List (String × Value)} (hclosed : before.Closed)
    (h : AllWithin before.objects.size (entries.map Prod.snd)) :
    Closes Within before (dict (entries.map fun (name, value) => (.text name, value))) := by
  refine closes_dict hclosed (Entries.forall_values.mpr fun entry hentry => ?_)
  obtain ⟨⟨name, value⟩, hmem, rfl⟩ := List.mem_map.mp hentry
  exact ⟨trivial, h value (List.mem_map.mpr ⟨(name, value), hmem, rfl⟩)⟩

theorem closes_argument {argument : Argument Value} (hclosed : before.Closed)
    (h : AllWithin before.objects.size argument.values) :
    Closes Within before (Run.argument argument) := by
  cases argument with
  | one value => exact closes_pure hclosed (h value List.mem_cons_self)
  | many values => exact closes_tuple hclosed h
  | entries entries => exact closes_dict_text hclosed h

theorem within_entriesOf {entries found : List (Value × Value)}
    (h : AllWithin before.objects.size (Entries.values entries))
    (hrun : entriesOf entries before = (.ok found, before)) :
    AllWithin before.objects.size (Entries.values found) := by
  unfold entriesOf at hrun
  rw [bind_apply, objects_apply] at hrun
  dsimp only at hrun
  split at hrun
  · cases hrun
    exact Entries.forall_values.mpr
      (Entries.forall_mem_putAll (List.forall_mem_nil _) (Entries.forall_values.mp h))
  · cases hrun

theorem eq_some_of_need {fault : Fault} {value? : Option α} {value : α} {after : Session}
    (h : need fault value? before = (.ok value, after)) : value? = some value := by
  cases value? with
  | none => cases h
  | some other =>
    cases h
    rfl

theorem forall_mem_of_mapM_text {property : Value → Prop} {entries : List (Value × Value)}
    {names : List (String × Value)}
    (h : (entries.mapM fun (key, value) =>
      match key with
      | .text name => some (name, value)
      | _ => none) = some names)
    (hentries : ∀ entry ∈ entries, property entry.2) : ∀ value ∈ names.map Prod.snd, property value := by
  induction entries generalizing names with
  | nil =>
    cases h
    exact List.forall_mem_nil _
  | cons entry entries ih =>
    obtain ⟨hentry, hrest⟩ := List.forall_mem_cons.mp hentries
    rw [List.mapM_cons] at h
    obtain ⟨name, hname, h⟩ := Option.bind_eq_some_iff.mp h
    obtain ⟨others, hothers, h⟩ := Option.bind_eq_some_iff.mp h
    cases h
    refine List.forall_mem_cons.mpr ⟨?_, ih hothers hrest⟩
    obtain ⟨key, value⟩ := entry
    dsimp only at hname
    split at hname
    · cases hname
      exact hentry
    · cases hname

theorem within_namesOf {entries : List (Value × Value)} {names : List (String × Value)}
    (h : AllWithin before.objects.size (Entries.values entries))
    (hrun : namesOf entries before = (.ok names, before)) :
    AllWithin before.objects.size (names.map Prod.snd) := by
  have hsame := looks_entriesOf entries before
  unfold namesOf at hrun
  rw [bind_apply] at hrun
  rcases hfound : entriesOf entries before with ⟨fault | found, after⟩
  · rw [hfound] at hrun
    cases hrun
  · rw [hfound] at hsame hrun
    dsimp only at hsame hrun
    subst hsame
    have hwithin := Entries.forall_values.mp (within_entriesOf h hfound)
    exact forall_mem_of_mapM_text (eq_some_of_need hrun) fun entry hentry => (hwithin entry hentry).2

/-- What is put in the place of an object holds what the object held, and what is put. -/
theorem within_put {mapping key value : Value} {changed : Object} (hclosed : before.Closed)
    (hkey : key.Within before.objects.size) (hvalue : value.Within before.objects.size)
    (hput : before.objects.put (before.objects.object? mapping) key value = .ok changed) :
    AllWithin before.objects.size changed.values ∧ changed.inner? = none := by
  have hentries {entries : List (Value × Value)} {object : Object}
      (hobject : before.objects.object? mapping = some object)
      (hvalues : object.values = Entries.values entries) :
      AllWithin before.objects.size
        (Entries.values (Entries.put before.objects.sameKey entries key value)) := by
    have hheld := hclosed.objects.holds_of_object? hobject
    rw [hvalues] at hheld
    exact Entries.forall_values.mpr
      (Entries.forall_mem_put (Entries.forall_values.mp hheld) hkey hvalue)
  unfold Store.put at hput
  split at hput
  · next hobject =>
    split at hput
    · cases hput
    · cases hput
      exact ⟨hentries hobject rfl, rfl⟩
  · next hobject =>
    split at hput
    · cases hput
    · cases hput
      exact ⟨hentries hobject rfl, rfl⟩
  · next elements hobject =>
    split at hput
    · cases hput
    · split at hput
      · cases hput
      · cases hput
        refine ⟨fun held hheld => ?_, rfl⟩
        obtain hmem | rfl := List.mem_or_eq_of_mem_set hheld
        · exact hclosed.objects.holds_of_object? hobject held hmem
        · exact hvalue
  · cases hput

theorem closes_put {mapping key value : Value} (hclosed : before.Closed)
    (hkey : key.Within before.objects.size) (hvalue : value.Within before.objects.size) :
    Closes Within before (do
      let object ← ofExcept ((← objects).put (← object? mapping) key value)
      replace mapping object
      return Value.null) := by
  refine looks_objects.closes_bind hclosed fun found hfound => ?_
  cases hfound
  refine (looks_object? mapping).closes_bind hclosed fun object hobject => ?_
  cases hobject
  refine (looks_ofExcept _).closes_bind hclosed fun changed hchanged => ?_
  have hput := eq_ok_of_ofExcept hchanged
  obtain ⟨hheld, hinner⟩ := within_put hclosed hkey hvalue hput
  refine ⟨hclosed.replace hheld (fun inner h => ?_) (label?_of_put hput).2, ?_, ?_⟩
  · rw [hinner] at h
    cases h
  · exact (Store.size_replace mapping).ge
  · rintro _ ⟨⟩
    trivial

theorem closes_add {left right : Value} (hclosed : before.Closed) :
    Closes Within before (add left right) := by
  refine (looks_object? left).closes_bind hclosed fun first hfirst => ?_
  cases hfirst
  refine (looks_object? right).closes_bind hclosed fun second hsecond => ?_
  cases hsecond
  split
  · exact closes_pure hclosed trivial
  · exact closes_pure hclosed trivial
  · next hleft hright =>
    exact closes_list hclosed (List.forall_mem_append.mpr
      ⟨hclosed.objects.holds_of_object? hleft, hclosed.objects.holds_of_object? hright⟩)
  · next hleft hright =>
    exact closes_tuple hclosed (List.forall_mem_append.mpr
      ⟨hclosed.objects.holds_of_object? hleft, hclosed.objects.holds_of_object? hright⟩)
  · split
    · exact closes_pure hclosed trivial
    · exact closes_throw hclosed _

/-! ## What scripts keep, number and record -/

theorem closes_keep {name : String} {value : Value} (hclosed : before.Closed)
    (hvalue : value.Within before.objects.size) :
    Closes (fun _ _ => True) before (keep name value) where
  closed :=
    { toGrounded := ⟨hclosed.named, hclosed.pending⟩
      objects := hclosed.objects
      items := hclosed.items
      kept := Entries.forall_snd_put hclosed.kept hvalue }
  grows := Nat.le_refl _
  within := fun _ _ => trivial

theorem closes_trace {value : Value} (hclosed : before.Closed)
    (hvalue : value.Within before.objects.size) : Closes Within before (trace value) where
  closed := ⟨⟨hclosed.named, hclosed.pending⟩, hclosed.objects, hclosed.items, hclosed.kept⟩
  grows := Nat.le_refl _
  within other hother := by
    cases hother
    exact hvalue

theorem closes_identity {value : Value} (hclosed : before.Closed) :
    Closes Within before (identity value) := by
  unfold identity
  refine looks_get.closes_bind hclosed fun found hfound => ?_
  cases hfound
  dsimp only
  split
  · exact closes_pure hclosed trivial
  · refine ⟨?_, Nat.le_refl _, ?_⟩
    · exact ⟨⟨hclosed.named, hclosed.pending⟩, hclosed.objects, hclosed.items, hclosed.kept⟩
    · rintro _ ⟨⟩
      trivial

/-! ## Containers -/

theorem some_of_container {index : Nat} {found : Container} {after : Session}
    (h : container index before = (.ok found, after)) : before.containers[index]? = some found := by
  cases hfound : before.containers[index]? with
  | none =>
    rw [container_of_none hfound] at h
    cases h
  | some other =>
    rw [container_of_some hfound] at h
    cases h
    rfl

theorem closes_createContainer {name : String} {strict : Bool} (hclosed : before.Closed) :
    Closes (fun _ _ => True) before (createContainer name strict) where
  closed :=
    { toGrounded := (follows_createContainer Session.enduring_trivial.toSteady name strict before
        hclosed.toGrounded).1
      objects := hclosed.objects
      items := fun index container hcontainer => by
        change (before.containers.push (.empty strict))[index]? = some container at hcontainer
        rw [Array.getElem?_push] at hcontainer
        split at hcontainer
        · cases hcontainer
          exact List.forall_mem_nil _
        · exact hclosed.items index container hcontainer
      kept := hclosed.kept }
  grows := Nat.le_refl _
  within := fun _ _ => trivial

theorem closes_item? {index : Nat} {name : Value} (hclosed : before.Closed) :
    Closes (fun size item? => (item?.getD .null).Within size) before (item? index name) := by
  refine looks_objects.closes_bind hclosed fun objects hobjects => ?_
  extract_lets rest
  have hrest (given : Unit) :
      Closes (fun size item? => (item?.getD .null).Within size) before (rest given) := by
    dsimp only [rest]
    split
    · next key =>
      refine (looks_container index).closes_bind hclosed fun container hcontainer => ?_
      refine closes_pure hclosed ?_
      cases hitem : container.item? key with
      | none => trivial
      | some item =>
        obtain ⟨found, hfound⟩ := Entries.exists_mem_of_find? hitem
        exact hclosed.items index container (some_of_container hcontainer) _ hfound
    · exact closes_pure hclosed trivial
  split
  · exact closes_throw_bind hclosed _
  · exact hrest ()

/-! ## Registrations -/

theorem closes_request (request : Request) (hclosed : before.Closed)
    (hcontainer : request.container < before.containers.size)
    (hvalues : AllWithin before.objects.size request.values) : Closes Within before request.run := by
  obtain ⟨verdict, hwithin, hverdict⟩ := request.run_concludes hclosed hcontainer hvalues
  have hrun := hverdict #[]
  rw [Session.extend_empty] at hrun
  obtain ⟨hlast, hgrows, hitem⟩ := hclosed.conclude request.container hwithin
  rw [← hrun] at hlast hgrows hitem
  exact ⟨hlast, hgrows, hitem⟩

theorem closes_complete {registration : PendingRegistration} {implementation : Value}
    (hclosed : before.Closed) (hcontainer : registration.container < before.containers.size)
    (hregistration : AllWithin before.objects.size (Object.pending registration).values)
    (himplementation : implementation.Within before.objects.size) :
    Closes Within before (complete registration implementation) := by
  obtain ⟨index, kind?, name, dependencies⟩ := registration
  cases kind? with
  | none =>
    refine closes_request ⟨index, name, .component dependencies implementation⟩ hclosed hcontainer ?_
    simpa [AllWithin, Object.values, Request.values, himplementation] using hregistration
  | some kind =>
    refine closes_request ⟨index, name, .function dependencies implementation kind⟩ hclosed
      hcontainer ?_
    simpa [AllWithin, Object.values, Request.values, himplementation] using hregistration

theorem closes_enter {registration : PendingRegistration} {implementation : Value}
    (hclosed : before.Closed) (hcontainer : registration.container < before.containers.size)
    (hregistration : AllWithin before.objects.size (Object.pending registration).values)
    (himplementation : implementation.Within before.objects.size) :
    Closes Within before (enter registration implementation) := by
  unfold enter
  split
  · refine closes_create hclosed hregistration ?_
    rintro other ⟨⟩
    exact hcontainer
  · exact closes_complete hclosed hcontainer hregistration himplementation

/-! ## Dependency sets -/

theorem within_bag {overrides : Value} {bag : List (Value × Value)} (hclosed : before.Closed)
    (h : Run.bag overrides before = (.ok bag, before)) :
    AllWithin before.objects.size (Entries.values bag) := by
  have hbag : before.objects.bag? overrides = some bag := eq_some_of_need h
  unfold Store.bag? at hbag
  split at hbag
  · exact Entries.forall_values.mpr (hclosed.objects.entries?_within hbag)
  · cases hbag
    exact List.forall_mem_nil _

section

variable {index : Nat} {container : Container} {bag entries : List (Value × Value)}
  (hclosed : before.Closed) (hcontainer : before.containers[index]? = some container)
  (hbag : AllWithin before.objects.size (Entries.values bag))
include hclosed hcontainer hbag

theorem within_resolve? {key value : Value}
    (h : container.resolve? before.objects bag key = some value) :
    value.Within before.objects.size := by
  unfold Container.resolve? at h
  split at h
  · next found hfound =>
    cases h
    obtain ⟨other, hother⟩ := Entries.exists_mem_of_find? hfound
    exact (Entries.forall_values.mp hbag _ (List.mem_filter.mp hother).1).2
  · split at h
    · obtain ⟨other, hother⟩ := Entries.exists_mem_of_find? h
      exact hclosed.items index container hcontainer _ hother
    · cases h

theorem within_addDependency {more : List (Value × Value)} {key : Value}
    (hkey : key.Within before.objects.size)
    (hentries : AllWithin before.objects.size (Entries.values entries))
    (h : container.addDependency before.objects bag entries key = .ok more) :
    AllWithin before.objects.size (Entries.values more) := by
  unfold Container.addDependency at h
  split at h
  · cases h
  · split at h
    · next value hvalue =>
      cases h
      have hwithin := within_resolve? hclosed hcontainer hbag hvalue
      exact Entries.forall_values.mpr
        (Entries.forall_mem_put (Entries.forall_values.mp hentries) hkey hwithin)
    · split at h
      · cases h
      · cases h
        exact hentries

theorem within_build {keys : List Value} (hkeys : AllWithin before.objects.size keys)
    (h : container.build before.objects bag keys = .ok entries) :
    AllWithin before.objects.size (Entries.values entries) := by
  unfold Container.build at h
  generalize hstart : ([] : List (Value × Value)) = start at h
  have hwithin : AllWithin before.objects.size (Entries.values start) := by
    subst hstart
    exact List.forall_mem_nil _
  clear hstart
  induction keys generalizing start with
  | nil =>
    cases h
    exact hwithin
  | cons key keys ih =>
    obtain ⟨hkey, hkeys⟩ := List.forall_mem_cons.mp hkeys
    rw [List.foldlM_cons] at h
    cases hadd : container.addDependency before.objects bag start key with
    | error fault =>
      rw [hadd] at h
      cases h
    | ok next =>
      rw [hadd] at h
      exact ih hkeys next h (within_addDependency hclosed hcontainer hbag hkey hwithin hadd)

end

theorem closes_dependencySet {index : Nat} {bag : List (Value × Value)} {keys : List Value}
    (hclosed : before.Closed) (hbag : AllWithin before.objects.size (Entries.values bag))
    (hkeys : AllWithin before.objects.size keys) :
    Closes Within before (dependencySet index bag keys) := by
  refine (looks_container index).closes_bind hclosed fun container hcontainer => ?_
  refine looks_objects.closes_bind hclosed fun objects hobjects => ?_
  cases hobjects
  refine (looks_ofExcept _).closes_bind hclosed fun entries hentries => ?_
  exact closes_create hclosed (within_build hclosed (some_of_container hcontainer) hbag hkeys
    (eq_ok_of_ofExcept hentries)) fun _ => nofun

theorem closes_buildDependencies {index : Nat} {dependencies overrides : Value}
    (hclosed : before.Closed) :
    Closes Within before (buildDependencies index dependencies overrides) := by
  refine (looks_bag overrides).closes_bind hclosed fun bag hbag => ?_
  refine looks_objects.closes_bind hclosed fun objects hobjects => ?_
  cases hobjects
  refine (looks_need _ _).closes_bind hclosed fun keys hkeys => ?_
  exact closes_dependencySet hclosed (within_bag hclosed hbag)
    (hclosed.objects.elements?_within (eq_some_of_need hkeys))

/-! ## Inspection -/

theorem closes_texts {texts : List String} (hclosed : before.Closed) :
    Closes Within before (list (texts.map .text)) := by
  refine closes_list hclosed fun value hvalue => ?_
  obtain ⟨text, -, rfl⟩ := List.mem_map.mp hvalue
  trivial

theorem closes_metadata {value : Value} (hclosed : before.Closed) :
    Closes Within before (metadata value) := by
  refine looks_objects.closes_bind hclosed fun objects hobjects => ?_
  split
  · next kind name _ => exact @closes_texts before [kind.label, name] hclosed
  · exact closes_pure hclosed trivial

theorem closes_signatureList {signature : Signature Value} (hclosed : before.Closed)
    (h : AllWithin before.objects.size signature.defaults) :
    Closes Within before (signatureList signature) := by
  have hparameters : ∀ parameter ∈ signature,
      AllWithin before.objects.size parameter.default?.toList := by
    intro parameter hparameter default hdefault
    exact h default (List.mem_filterMap.mpr ⟨parameter, hparameter, Option.mem_toList.mp hdefault⟩)
  have heach (parameter : Parameter Value) (session : Session) (hsession : session.Closed)
      (hdefault : AllWithin session.objects.size parameter.default?.toList) :
      Closes Within session (parameterList parameter) :=
    closes_list hsession (List.forall_mem_cons.mpr
      ⟨trivial, List.forall_mem_cons.mpr ⟨trivial, hdefault⟩⟩)
  refine (closes_mapM (fun size parameter => AllWithin size parameter.default?.toList) Within
    (fun _ _ _ => AllWithin.mono) (fun _ _ _ => Within.mono) heach hclosed hparameters).bind
    fun values after hafter _ hvalues => ?_
  exact closes_list hafter hvalues

theorem within_optionalText {size : Nat} (text? : Option String) :
    (optionalText text?).Within size := by
  cases text? <;> trivial

theorem closes_inspect {value : Value} (hclosed : before.Closed) :
    Closes Within before (inspect value) := by
  unfold inspect
  extract_lets about
  have habout (dependencies : List String) (displayName? : Option String) :
      Closes Within before (about dependencies displayName?) := by
    refine looks_objects.closes_bind hclosed fun objects hobjects => ?_
    refine (closes_metadata hclosed).bind fun metadata first hfirst _ hmetadata => ?_
    refine (closes_texts hfirst).bind fun dependencies second hsecond hgrows hdependencies => ?_
    refine (looks_display value).closes_bind hsecond fun shown hshown => ?_
    refine looks_objects.closes_bind hsecond fun objects hobjects => ?_
    cases hobjects
    extract_lets rest
    have hrest (signature : Value) (last : Session) (hlast : last.Closed)
        (hmore : second.objects.size ≤ last.objects.size)
        (hsignature : signature.Within last.objects.size) :
        Closes Within last (rest signature) := by
      have hmetadata := hmetadata.mono (hgrows.trans hmore)
      have hdependencies := hdependencies.mono hmore
      refine closes_dict hlast (Entries.forall_values.mpr ?_)
      simp only [List.forall_mem_cons]
      exact ⟨⟨trivial, hmetadata⟩, ⟨trivial, hdependencies⟩, ⟨trivial, trivial⟩,
        ⟨trivial, within_optionalText _⟩, ⟨trivial, within_optionalText _⟩,
        ⟨trivial, within_optionalText _⟩, ⟨trivial, hsignature⟩, List.forall_mem_nil _⟩
    split
    · next signature hsignature =>
      have hdefaults := hsecond.objects.signature?_within hsignature
      exact (closes_signatureList hsecond hdefaults).bind hrest
    · exact hrest .null second hsecond (Nat.le_refl _) trivial
  refine (looks_object? value).closes_bind hclosed fun object hobject => ?_
  split
  · exact habout _ _
  · exact habout _ _
  · exact closes_throw hclosed _

end Run

end Registrar
