import Mathlib.Tactic.Common
import Registrar.Proofs.Container.Dependencies

/-! # Sound sessions

A memo of a component keeps the dependency set that was built when it was made,
together with what it hung on then. In a sound session every memo does so, and
whatever happens to a session afterwards takes nothing away that a memo rests on:
dependency sets never change, and neither does the strictness of a container.
-/

namespace Registrar

namespace Session

/-- What a memo of a component rests on: the dependency set in it has the entries
that were built once, in a container as it was then. -/
structure Remembers (session : Session) (item : ComponentItem) (memo : Memo)
    (snapshot : Container) (entries : List (Value × Value)) : Prop where
  strict : (session.containers[item.container]?).map Container.strict = some snapshot.strict
  present : ∀ name, snapshot.item? name ≠ some .null
  registered : item.registered snapshot = memo.registered
  built : snapshot.build .initial memo.bag (item.dependencies.map .text) = .ok entries
  kept : session.objects.object? memo.dependencies = some (.dependencies entries)

/-- An object is one that calls can rely on: a component has no memo but what the
session remembers, and a function with dependencies has a place for their set. -/
def Backs (session : Session) : Object → Prop
  | .component item => ∀ memo, item.memo? = some memo →
      ∃ snapshot entries, session.Remembers item memo snapshot entries
  | .function item => item.dependencies ≠ [] → item.injection.parameter?.isSome
  | _ => True

/-- The invariant of runs. -/
structure Sound (session : Session) : Prop where
  objects : ∀ (reference : Nat) (object : Object), session.objects[reference]? = some object →
    session.Backs object
  items : ∀ (index : Nat) (container : Container), session.containers[index]? = some container →
    ∀ name, container.item? name ≠ some .null

/-- A later session keeps the strictness of containers, and all dependency sets. -/
structure Continues (before after : Session) : Prop where
  strict : ∀ (index : Nat) (strict : Bool),
    (before.containers[index]?).map Container.strict = some strict →
    (after.containers[index]?).map Container.strict = some strict
  sets : ∀ value entries, before.objects.object? value = some (.dependencies entries) →
    after.objects.object? value = some (.dependencies entries)

variable {session after : Session}

theorem Remembers.continues {item : ComponentItem} {memo : Memo} {snapshot : Container}
    {entries : List (Value × Value)} (h : session.Remembers item memo snapshot entries)
    (hafter : session.Continues after) : after.Remembers item memo snapshot entries :=
  { h with strict := hafter.strict _ _ h.strict, kept := hafter.sets _ _ h.kept }

theorem Backs.continues {object : Object} (h : session.Backs object)
    (hafter : session.Continues after) : after.Backs object := by
  cases object with
  | component item =>
    intro memo hmemo
    obtain ⟨snapshot, entries, hremembers⟩ := h memo hmemo
    exact ⟨snapshot, entries, hremembers.continues hafter⟩
  | function item => exact h
  | _ => trivial

theorem initial_sound : initial.Sound where
  objects reference object h := by
    have hobject : object = .tuple [] := by
      match reference with
      | 0 => exact (Option.some.inj h).symm
      | reference + 1 => cases h
    rw [hobject]
    trivial
  items index container h := by cases h

/-- Only objects and containers matter. -/
theorem Sound.congr (h : session.Sound) (hobjects : after.objects = session.objects)
    (hcontainers : after.containers = session.containers) : after.Sound where
  objects reference object hobject := by
    refine (h.objects reference object (hobjects ▸ hobject)).continues ⟨?_, ?_⟩
    · intro index strict hstrict
      rwa [hcontainers]
    · intro value entries hset
      rwa [hobjects]
  items index container hcontainer := h.items index container (hcontainers ▸ hcontainer)

/-! ## Objects -/

theorem object?_push {store : Store} {object other : Object} {value : Value}
    (h : store.object? value = some other) : Store.object? (store.push object) value = some other := by
  cases value with
  | object reference =>
    have hlt : reference < store.size := (Array.getElem?_eq_some_iff.mp h).1
    change (store.push object)[reference]? = some other
    rw [Array.getElem?_push_lt hlt]
    exact (Array.getElem?_eq_some_iff.mp h).2 ▸ rfl
  | _ => cases h

/-- A session with one more object. -/
theorem Sound.create {object : Object} (h : session.Sound) (hobject : session.Backs object) :
    ({ session with objects := session.objects.push object } : Session).Sound where
  objects reference other hother := by
    have hafter : session.Continues { session with objects := session.objects.push object } :=
      ⟨fun _ _ => id, fun _ _ => object?_push⟩
    refine Backs.continues ?_ hafter
    change (session.objects.push object)[reference]? = some other at hother
    rw [Array.getElem?_push] at hother
    split at hother
    · cases hother
      exact hobject
    · exact h.objects reference other hother
  items := h.items

theorem object?_replace {store : Store} {value other : Value} {object : Object} :
    (store.replace value object).object? other =
      if value = other ∧ (store.object? value).isSome then some object else store.object? other := by
  cases value with
  | object reference =>
    cases other with
    | object reference' =>
      change (store.setIfInBounds reference object)[reference']? = _
      rw [Array.getElem?_setIfInBounds]
      by_cases heq : reference = reference'
      · subst reference'
        by_cases hlt : reference < store.size <;> simp [Store.object?, hlt]
      · simp [heq, Store.object?]
    | _ => simp [Store.object?]
  | _ =>
    have hnone (value : Value) (h : store.object? value = none) :
        ¬(value = other ∧ (store.object? value).isSome) := by simp [h]
    rw [if_neg (hnone _ rfl)]
    rfl

/-- A session with another object in the place of one that is no dependency set. -/
theorem Sound.replace {value : Value} {object : Object} (h : session.Sound)
    (hvalue : ∀ entries, session.objects.object? value ≠ some (.dependencies entries))
    (hobject : session.Backs object) :
    ({ session with objects := session.objects.replace value object } : Session).Sound where
  objects reference other hother := by
    have hafter : session.Continues
        { session with objects := session.objects.replace value object } := by
      refine ⟨fun _ _ => id, fun other entries hother => ?_⟩
      change (session.objects.replace value object).object? other = _
      rw [object?_replace, if_neg, hother]
      rintro ⟨rfl, -⟩
      exact hvalue entries hother
    refine Backs.continues ?_ hafter
    change (session.objects.replace value object).object? (.object reference) = some other at hother
    rw [object?_replace] at hother
    split at hother
    · cases hother
      exact hobject
    · exact h.objects reference other hother
  items := h.items

/-! ## Containers -/

theorem find?_put {ν : Type} (entries : List (String × ν)) (key other : String) (value : ν) :
    Entries.find? (· == ·) (Entries.put (· == ·) entries key value) other =
      if key = other then some value else Entries.find? (· == ·) entries other := by
  induction entries with
  | nil =>
    by_cases h : key = other <;> simp [Entries.put, Entries.find?, h]
  | cons entry entries ih =>
    unfold Entries.find? at ih ⊢
    by_cases hkey : entry.1 = key
    · by_cases h : key = other <;> simp [Entries.put, hkey, h]
    · by_cases hother : entry.1 = other
      · have h : key ≠ other := fun h => hkey (hother.trans h.symm)
        simp [Entries.put, hother, h, h.symm]
      · simp only [Entries.put, beq_iff_eq, hkey, if_false, List.find?_cons,
          beq_eq_false_iff_ne.mpr hother]
        exact ih

/-- A session with an item under a key of a container. -/
theorem Sound.store {index : Nat} {name : String} {item : Value} (h : session.Sound)
    (hitem : item ≠ .null) :
    ({ session with containers := session.containers.modify index (·.store name item) } :
      Session).Sound where
  objects reference object hobject := by
    refine (h.objects reference object hobject).continues ⟨fun other strict hstrict => ?_,
      fun _ _ => id⟩
    change ((session.containers.modify index (·.store name item))[other]?).map _ = _
    rw [Array.getElem?_modify]
    split
    · rw [Option.map_map]
      exact hstrict
    · exact hstrict
  items other container hcontainer key := by
    change (session.containers.modify index (·.store name item))[other]? = some container
      at hcontainer
    rw [Array.getElem?_modify] at hcontainer
    split at hcontainer
    · obtain ⟨before, hbefore, rfl⟩ := Option.map_eq_some_iff.mp hcontainer
      change Entries.find? (· == ·) (Entries.put (· == ·) before.items name item) key ≠ _
      rw [find?_put]
      split
      · exact fun heq => hitem (Option.some.inj heq)
      · exact h.items other before hbefore key
    · exact h.items other container hcontainer key

/-- A session with one more container. -/
theorem Sound.createContainer (h : session.Sound) (strict : Bool) :
    ({ session with containers := session.containers.push (.empty strict) } : Session).Sound where
  objects reference object hobject := by
    refine (h.objects reference object hobject).continues ⟨fun index strict' hstrict => ?_,
      fun _ _ => id⟩
    obtain ⟨container, hcontainer, rfl⟩ := Option.map_eq_some_iff.mp hstrict
    change ((session.containers.push _)[index]?).map _ = _
    have hlt := (Array.getElem?_eq_some_iff.mp hcontainer).1
    rw [Array.getElem?_push_lt hlt, (Array.getElem?_eq_some_iff.mp hcontainer).2]
    rfl
  items index container hcontainer name := by
    change (session.containers.push _)[index]? = some container at hcontainer
    rw [Array.getElem?_push] at hcontainer
    split at hcontainer
    · cases hcontainer
      exact nofun
    · exact h.items index container hcontainer name

end Session

end Registrar
