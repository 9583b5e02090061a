import Registrar.Proofs.Container.Agreement
import Registrar.Script.Evaluation

/-! # Handing over dependency sets

A call of an item hands a dependency set to the implementation. In a sound
session its entries are those of a set built afresh for that call, whether it was
built or remembered, and the call fails where building it afresh does.
-/

namespace Registrar

/-- The entries of a dependency set built afresh: for declared keys and the entries
of a bag, in a container as it is now. -/
def Session.afresh (session : Session) (index : Nat) (dependencies : List String)
    (bag : List (Value × Value)) : Except Fault (List (Value × Value)) :=
  match session.containers[index]? with
  | none => .error .missingKey
  | some container => container.build session.objects bag (dependencies.map .text)

/-- Only the containers matter to what is built afresh. -/
theorem Session.afresh_congr {session other : Session} (h : session.containers = other.containers)
    (index : Nat) (dependencies : List String) (bag : List (Value × Value)) :
    session.afresh index dependencies bag = other.afresh index dependencies bag := by
  unfold afresh
  rw [h]
  cases other.containers[index]? with
  | none => rfl
  | some container => exact container.build_store _ _ _ _

namespace Run

variable {session : Session} {index : Nat} {dependencies : List String}
  {bag : List (Value × Value)}

theorem dependencySet_apply (index : Nat) (dependencies : List String)
    (bag : List (Value × Value)) (session : Session) :
    dependencySet index bag (dependencies.map .text) session =
      match session.afresh index dependencies bag with
      | .error fault => (.error fault, session)
      | .ok entries => create (.dependencies entries) session := by
  unfold dependencySet Session.afresh
  rw [bind_apply]
  cases hcontainer : session.containers[index]? with
  | none =>
    rw [container_of_none hcontainer]
  | some container =>
    rw [container_of_some hcontainer]
    dsimp only
    rw [bind_apply, objects_apply]
    dsimp only
    rw [bind_apply]
    cases container.build session.objects bag (dependencies.map .text) <;> rfl

theorem bag_apply {overrides : Value} (hbag : session.objects.bag? overrides = some bag) :
    Run.bag overrides session = (.ok bag, session) := by
  unfold Run.bag
  rw [bind_apply, objects_apply]
  dsimp only
  rw [hbag]
  rfl

/-- Building a dependency set for a collection of declared keys builds it afresh. -/
theorem buildDependencies_apply {keys overrides : Value}
    (hkeys : session.objects.elements? keys = some (dependencies.map .text))
    (hbag : session.objects.bag? overrides = some bag) :
    buildDependencies index keys overrides session =
      match session.afresh index dependencies bag with
      | .error fault => (.error fault, session)
      | .ok entries => create (.dependencies entries) session := by
  rw [← dependencySet_apply]
  unfold buildDependencies
  rw [bind_apply, bag_apply hbag]
  dsimp only
  rw [bind_apply, objects_apply]
  dsimp only
  rw [hkeys]
  rfl

/-- What comes of building a dependency set: the fault of the entries built afresh,
or a set of these entries. The containers are left alone. -/
inductive Builds (index : Nat) (dependencies : List String) (bag : List (Value × Value))
    (session : Session) : Except Fault Value × Session → Prop
  | fails (fault : Fault) : session.afresh index dependencies bag = .error fault →
      Builds index dependencies bag session (.error fault, session)
  | built (entries : List (Value × Value)) (set : Value) (after : Session) :
      session.afresh index dependencies bag = .ok entries →
      after.objects.object? set = some (.dependencies entries) →
      after.containers = session.containers → after.Sound →
      Builds index dependencies bag session (.ok set, after)

theorem dependencySet_builds (h : session.Sound) (index : Nat) (dependencies : List String)
    (bag : List (Value × Value)) :
    Builds index dependencies bag session
      (dependencySet index bag (dependencies.map .text) session) := by
  rw [dependencySet_apply]
  cases hafresh : session.afresh index dependencies bag with
  | error fault => exact .fails fault hafresh
  | ok entries =>
    exact .built entries _ _ hafresh (Store.object?_create _ _) rfl (h.create trivial)

/-- A running call hands over the dependency set built afresh at that moment: it
fails where building does, and otherwise goes on as the implementation given a set
of these entries, in a session with the same containers. -/
def Hands (index : Nat) (dependencies : List String) (bag : List (Value × Value))
    (session : Session) (running : Caller → Run Value) (receive : Caller → Value → Run Value) :
    Prop :=
  match session.afresh index dependencies bag with
  | .error fault => ∀ call, running call session = (.error fault, session)
  | .ok entries => ∃ set after, after.objects.object? set = some (.dependencies entries) ∧
      after.containers = session.containers ∧
      after.afresh index dependencies bag = .ok entries ∧
      ∀ call, running call session = receive call set after

theorem Builds.hands {running : Caller → Run Value} {receive : Caller → Value → Run Value}
    {result : Except Fault Value × Session}
    (hrunning : ∀ call, running call session =
      match result with
      | (.ok set, after) => receive call set after
      | (.error fault, after) => (.error fault, after))
    (h : Builds index dependencies bag session result) :
    Hands index dependencies bag session running receive := by
  unfold Hands
  cases h with
  | fails _ hafresh =>
    rw [hafresh]
    exact hrunning
  | built entries set after hafresh hset hcontainers hsound =>
    rw [hafresh]
    exact ⟨set, after, hset, hcontainers, (Session.afresh_congr hcontainers _ _ _).trans hafresh,
      hrunning⟩

theorem Builds.sound {result : Except Fault Value × Session} (hs : session.Sound)
    (h : Builds index dependencies bag session result) : result.2.Sound := by
  cases h with
  | fails fault hafresh => exact hs
  | built entries set after hafresh hset hcontainers hsound => exact hsound

end Run

namespace ComponentItem

variable {session : Session} {item : ComponentItem} {self : Value} {bag : List (Value × Value)}

/-- A remembered dependency set has the entries that would be built afresh. -/
theorem afresh_of_remembered {container : Container} {properties : List (String × Value)}
    {dependencies : Value} (h : session.Sound)
    (hself : session.objects.object? self = some (.component item))
    (hcontainer : session.containers[item.container]? = some container)
    (hremembered : item.remembered? session.objects properties bag (item.registered container) =
      some dependencies) :
    ∃ entries, session.afresh item.container item.dependencies bag = .ok entries ∧
      session.objects.object? dependencies = some (.dependencies entries) := by
  unfold remembered? at hremembered
  cases hmemo : item.memo? with
  | none => simp [hmemo] at hremembered
  | some memo =>
    rw [hmemo] at hremembered
    dsimp only at hremembered
    split at hremembered
    next hsame =>
      cases hremembered
      simp only [Bool.and_eq_true] at hsame
      obtain ⟨⟨-, hbag⟩, hregistered⟩ := hsame
      have hbacks : session.Backs (.component item) := by
        cases self with
        | object reference => exact h.objects reference _ hself
        | _ => cases hself
      obtain ⟨snapshot, entries, hremembers⟩ := hbacks memo hmemo
      have hstrict : container.strict = snapshot.strict := by
        have hstrict := hremembers.strict
        rw [hcontainer] at hstrict
        exact Option.some.inj hstrict
      refine ⟨entries, ?_, hremembers.kept⟩
      unfold Session.afresh
      rw [hcontainer]
      exact (build_of_registered hstrict (h.items _ _ hcontainer) hremembers.present
        (hremembers.registered.trans (sameEntries_eq hregistered)) hbag).trans hremembers.built
    next => cases hremembered

/-- A memo made of a dependency set that was just built. -/
theorem remembers_of_afresh {container : Container} {entries : List (Value × Value)}
    {dependencies : Value} {after : Session}
    (h : session.Sound) (hcontainer : session.containers[item.container]? = some container)
    (hafresh : session.afresh item.container item.dependencies bag = .ok entries)
    (hset : after.objects.object? dependencies = some (.dependencies entries))
    (hcontainers : after.containers = session.containers) (properties : List (String × Value)) :
    after.Remembers item ⟨properties, bag, item.registered container, dependencies⟩ container
      entries where
  strict := by rw [hcontainers, hcontainer]; rfl
  present := h.items _ _ hcontainer
  registered := rfl
  built := by
    unfold Session.afresh at hafresh
    rw [hcontainer] at hafresh
    rw [container.build_store .initial session.objects]
    exact hafresh
  kept := hset

/-- What comes of preparing a render, with or without a memo. -/
theorem prepare_builds {overrides : Value} (h : session.Sound)
    (hself : session.objects.object? self = some (.component item))
    (hbag : session.objects.bag? overrides = some bag) (properties : List (String × Value)) :
    Run.Builds item.container item.dependencies bag session
      (item.prepare self properties overrides session) := by
  unfold prepare
  rw [Run.bind_apply, Run.bag_apply hbag]
  dsimp only
  rw [Run.bind_apply]
  cases hcontainer : session.containers[item.container]? with
  | none =>
    rw [Run.container_of_none hcontainer]
    refine .fails .missingKey ?_
    unfold Session.afresh
    rw [hcontainer]
  | some container =>
    rw [Run.container_of_some hcontainer]
    dsimp only
    rw [Run.bind_apply, Run.objects_apply]
    dsimp only
    cases hremembered : item.remembered? session.objects properties bag
        (item.registered container) with
    | some dependencies =>
      obtain ⟨entries, hafresh, hset⟩ := afresh_of_remembered h hself hcontainer hremembered
      exact .built entries dependencies session hafresh hset rfl h
    | none =>
      dsimp only
      rw [Run.bind_apply]
      rw [Run.dependencySet_apply]
      cases hafresh : session.afresh item.container item.dependencies bag with
      | error fault => exact .fails fault hafresh
      | ok entries =>
        let built := session.objects.create (.dependencies entries)
        let after : Session := { session with objects := built.2 }
        have hset : after.objects.object? built.1 = some (.dependencies entries) :=
          Store.object?_create _ _
        have hself : after.objects.object? self = some (.component item) :=
          Session.object?_push hself
        have hafter : after.Sound := h.create trivial
        refine .built entries built.1 _ hafresh ?_ rfl (hafter.replace ?_ ?_)
        · change (after.objects.replace self _).object? built.1 = _
          rw [Session.object?_replace, if_neg, hset]
          rintro ⟨rfl, -⟩
          rw [hset] at hself
          cases hself
        · intro others hothers
          rw [hself] at hothers
          cases hothers
        · intro memo hmemo
          cases hmemo
          obtain ⟨hstrict, hpresent, hregistered, hbuilt, hkept⟩ :=
            remembers_of_afresh h hcontainer hafresh hset rfl properties
          exact ⟨container, entries, hstrict, hpresent, hregistered, hbuilt, hkept⟩

end ComponentItem

end Registrar
