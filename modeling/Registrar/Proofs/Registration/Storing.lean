import Mathlib.Data.List.Forall2
import Registrar.Proofs.Script.Registry

/-! # What runs store

What a part of a run stores in a container is told by the registrations on its path that the
container accepted. A part that stores nothing may do everything else.
-/

namespace Registrar

/-- The key and the kind of an item, if it is accepted by a container. -/
def Attempt.declared? (index : Nat) (attempt : Attempt) : Option (String × ItemKind) :=
  (attempt.stored? index).map fun stored => (stored.1, attempt.request.kind)

namespace Session

variable {index : Nat} {start before between after : Session} {history : List Attempt}
  {entries more : List (String × ItemKind)}

/-- From one session to another a container accepts items under keys, of kinds, in this order. -/
def Stores (index : Nat) (entries : List (String × ItemKind)) (before after : Session) : Prop :=
  ∃ history, before.Path history after ∧ history.filterMap (·.declared? index) = entries

/-- A container exists, and so do all that can be reached. -/
structure Ready (index : Nat) (session : Session) : Prop where
  grounded : session.Grounded
  exist : index < session.containers.size

theorem Stores.refl (index : Nat) (session : Session) : session.Stores index [] session :=
  ⟨[], .start, rfl⟩

theorem Stores.trans (h : before.Stores index entries between)
    (hmore : between.Stores index more after) : before.Stores index (entries ++ more) after := by
  obtain ⟨history, hpath, rfl⟩ := h
  obtain ⟨_, hpath', rfl⟩ := hmore
  exact ⟨_, hpath.trans hpath', List.filterMap_append ..⟩

theorem Path.exist (h : before.Path history after) (hindex : index < before.containers.size) :
    index < after.containers.size := by
  induction h with
  | start => exact hindex
  | aside _ haside ih =>
    obtain ⟨_, hother, -⟩ := haside.items index _ (Array.getElem?_eq_getElem ih)
    exact (Array.getElem?_eq_some_iff.mp hother).1
  | attempt request _ hcontainer ih =>
    rename_i between _
    rcases hrun : request.run between with ⟨result, after⟩
    have houtcome := request.run_outcome hcontainer
    rw [hrun] at houtcome
    cases houtcome with
    | refused => exact ih
    | stored => exact Array.size_modify.symm ▸ ih

/-- What is pending stays pending. -/
theorem Path.pending (h : before.Path history after) {value : Value}
    {registration : PendingRegistration}
    (hvalue : before.objects.object? value = some (.pending registration)) :
    after.objects.object? value = some (.pending registration) := by
  induction h with
  | start => exact hvalue
  | aside _ haside ih => exact haside.pending value registration ih
  | attempt request _ hcontainer ih =>
    rename_i between _
    rcases hrun : request.run between with ⟨result, after⟩
    have houtcome := request.run_outcome hcontainer
    rw [hrun] at houtcome
    cases houtcome with
    | refused => exact ih
    | stored => exact object?_push ih

end Session

namespace Run

open Session

variable {α β γ : Type} {index : Nat} {before : Session} {run : Run α} {next : α → Run β}
  {property other : α → Session → List (String × ItemKind) → Prop}

/-- If a part of a run succeeds, its value, the session after it, and what a container stored
meanwhile have a property. -/
def Gives (index : Nat) (before : Session) (run : Run α)
    (property : α → Session → List (String × ItemKind) → Prop) : Prop :=
  ∀ value after, run before = (.ok value, after) →
    after.Ready index ∧ ∃ entries, before.Stores index entries after ∧ property value after entries

/-- If a part of a run succeeds, it has stored nothing in a container. -/
def Quiet (index : Nat) (run : Run α) : Prop :=
  ∀ before : Session, before.Ready index → Gives index before run fun _ _ entries => entries = []

theorem Gives.mono (h : Gives index before run property)
    (himp : ∀ value after entries, property value after entries → other value after entries) :
    Gives index before run other := by
  intro value after hrun
  obtain ⟨hready, entries, hstores, hproperty⟩ := h value after hrun
  exact ⟨hready, entries, hstores, himp value after entries hproperty⟩

theorem gives_of_eq {value : α} (hready : before.Ready index)
    (hrun : run before = (.ok value, before)) (h : property value before []) :
    Gives index before run property := by
  intro _ _ hsame
  cases hrun.symm.trans hsame
  exact ⟨hready, [], .refl index before, h⟩

theorem gives_pure {value : α} (hready : before.Ready index) (h : property value before []) :
    Gives index before (pure value) property :=
  gives_of_eq hready rfl h

theorem gives_throw (fault : Fault) : Gives index before (throw fault) property := by
  intro value after hrun
  cases hrun

theorem Gives.bind {property : α → Session → List (String × ItemKind) → Prop}
    {other : β → Session → List (String × ItemKind) → Prop}
    (h : Gives index before run property)
    (hnext : ∀ value after entries, after.Ready index → before.Stores index entries after →
      property value after entries → Gives index after (next value) fun value last more =>
        other value last (entries ++ more)) :
    Gives index before (run >>= next) other := by
  intro value after hrun
  rw [bind_apply] at hrun
  rcases hfirst : run before with ⟨fault | first, between⟩
  · rw [hfirst] at hrun
    cases hrun
  · rw [hfirst] at hrun
    obtain ⟨hready, entries, hstores, hproperty⟩ := h first between hfirst
    obtain ⟨hlast, more, hmore, hother⟩ :=
      hnext first between entries hready hstores hproperty value after hrun
    exact ⟨hlast, entries ++ more, hstores.trans hmore, hother⟩

/-- What stores nothing comes before the rest. -/
theorem Gives.bind_of_nil {property : α → Session → Prop}
    {other : β → Session → List (String × ItemKind) → Prop}
    (h : Gives index before run fun value after entries => entries = [] ∧ property value after)
    (hnext : ∀ value after, after.Ready index → before.Stores index [] after →
      property value after → Gives index after (next value) other) :
    Gives index before (run >>= next) other := by
  refine h.bind fun value after entries hafter hstores ⟨hentries, hproperty⟩ => ?_
  subst hentries
  exact hnext value after hafter hstores hproperty

theorem Quiet.gives_bind {other : β → Session → List (String × ItemKind) → Prop}
    (h : Quiet index run) (hready : before.Ready index)
    (hnext : ∀ value after, after.Ready index → before.Stores index [] after →
      Gives index after (next value) other) : Gives index before (run >>= next) other := by
  have hsilent : Gives index before run fun _ _ entries => entries = [] ∧ True :=
    (h before hready).mono fun _ _ _ hentries => ⟨hentries, trivial⟩
  exact hsilent.bind_of_nil fun value after hafter hstores _ => hnext value after hafter hstores

theorem quiet_pure (value : α) : Quiet index (pure value) :=
  fun _ hready => gives_pure hready rfl

theorem Quiet.bind (h : Quiet index run) (hnext : ∀ value, Quiet index (next value)) :
    Quiet index (run >>= next) :=
  fun _ hready => h.gives_bind hready fun value _ hafter _ => hnext value _ hafter

/-- Quiet parts, one for each of some elements, whose values are known. -/
theorem gives_mapM {each : γ → Run α} {relation : γ → α → Prop} {elements : List γ}
    (h : ∀ element ∈ elements, ∀ before : Session, before.Ready index →
      Gives index before (each element) fun value _ entries =>
        entries = [] ∧ relation element value) (hready : before.Ready index) :
    Gives index before (elements.mapM each) fun values _ entries =>
      entries = [] ∧ List.Forall₂ relation elements values := by
  induction elements generalizing before with
  | nil => exact gives_pure hready ⟨rfl, .nil⟩
  | cons element elements ih =>
    obtain ⟨hfirst, hrest⟩ := List.forall_mem_cons.mp h
    rw [List.mapM_cons]
    refine (hfirst before hready).bind_of_nil fun value after hafter _ hvalue => ?_
    refine (ih hrest hafter).bind_of_nil fun values last hlast _ hvalues => ?_
    exact gives_pure hlast ⟨rfl, .cons hvalue hvalues⟩

/-- Making an object that is no item stores nothing. -/
theorem create_gives {object : Object} (hready : before.Ready index)
    (hpending : ∀ registration, object = .pending registration →
      registration.container < before.containers.size) :
    Gives index before (create object) fun value after entries =>
      after.objects.object? value = some object ∧ entries = [] := by
  have haside : before.Aside { before with objects := before.objects.push object } :=
    .of_objects fun value found hfound => ⟨found, object?_push hfound, rfl, fun _ => id⟩
  intro value after hrun
  cases hrun
  exact ⟨⟨hready.grounded.push hpending, hready.exist⟩, [], ⟨[], .aside .start haside, rfl⟩,
    Store.object?_create _ _, rfl⟩

/-! ## Registrations -/

/-- An accepted registration stores an item of its kind under its key. -/
theorem request_gives (request : Request) (hready : before.Ready request.container) :
    Gives request.container before request.run fun value after entries =>
      after.objects.metadata? value = some (request.kind, request.key) ∧
        entries = [(request.key, request.kind)] := by
  intro value after hrun
  have hpath : before.Path [⟨request, before⟩] (request.run before).2 :=
    .attempt request .start hready.exist
  have hgrounded := hready.grounded.request hready.exist
  have hresult : (⟨request, before⟩ : Attempt).result = .ok value := congrArg Prod.fst hrun
  have hstored : (⟨request, before⟩ : Attempt).stored? request.container =
      some (request.key, value) := Attempt.stored?_eq_some.mpr ⟨rfl, rfl, hresult⟩
  have houtcome := request.run_outcome hready.exist
  rw [hrun] at hpath hgrounded houtcome
  refine ⟨⟨hgrounded, hpath.exist hready.exist⟩, _, ⟨_, hpath, rfl⟩, ?_, ?_⟩
  · cases houtcome with
    | stored object replaced hacceptable hlabel hreplaced =>
      rw [Store.metadata?_eq, Option.bind_eq_some_iff]
      exact ⟨object, Store.object?_create _ _, hlabel⟩
  · simp [Attempt.declared?, hstored]

/-- Which registration an entry point of a kind makes. -/
def IsEntry (kind : ItemKind) (registration : PendingRegistration) : Prop :=
  kind ≠ .config ∧
    registration.kind? = if kind = .component then none else some (.kind kind)

theorem complete_gives {registration : PendingRegistration} {kind : ItemKind} {key : String}
    (hready : before.Ready registration.container) (hkind : IsEntry kind registration)
    (hname : registration.name = .text key) (implementation : Value) :
    Gives registration.container before (complete registration implementation)
      fun value after entries =>
        after.objects.metadata? value = some (kind, key) ∧ entries = [(key, kind)] := by
  obtain ⟨hconfig, hkind⟩ := hkind
  unfold complete
  rw [hkind]
  split
  · next given hgiven =>
    have hsame : given = .kind kind := by
      split at hgiven
      · cases hgiven
      · exact (Option.some.inj hgiven).symm
    subst hsame
    have hrequest := request_gives ⟨registration.container, registration.name,
      .function registration.dependencies implementation (.kind kind)⟩ hready
    rw [hname] at hrequest ⊢
    exact hrequest
  · next hnone =>
    have hcomponent : kind = .component := by
      split at hnone
      · next h => exact h
      · cases hnone
    subst hcomponent
    have hrequest := request_gives ⟨registration.container, registration.name,
      .component registration.dependencies implementation⟩ hready
    rw [hname] at hrequest ⊢
    exact hrequest

end Run

end Registrar
