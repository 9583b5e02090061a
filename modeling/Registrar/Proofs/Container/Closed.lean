import Registrar.Proofs.Container.Steady

/-! # Sessions in which nothing dangles

A value that refers to an object is of use only where that object has been created. In a closed
session whatever can be reached has been, objects as well as containers, and what a view, a set or
a component is looked through to was there before it, so that looking through them has an end.
-/

namespace Registrar

/-- A value refers to one of the first objects, or to none at all. -/
def Value.Within (size : Nat) : Value → Prop
  | .object reference => reference < size
  | _ => True

theorem Value.Within.mono {size larger : Nat} {value : Value} (h : value.Within size)
    (hle : size ≤ larger) : value.Within larger := by
  cases value with
  | object reference => exact Nat.lt_of_lt_of_le h hle
  | _ => trivial

/-- How many objects there are at least if a value refers to one of them. -/
def Value.bound : Value → Nat
  | .object reference => reference + 1
  | _ => 0

theorem Value.within_iff_bound_le {size : Nat} {value : Value} :
    value.Within size ↔ value.bound ≤ size := by
  cases value with
  | object reference => exact Iff.rfl
  | _ => exact iff_of_true trivial (Nat.zero_le _)

/-- The defaults of a signature. -/
def Signature.defaults {α : Type} (signature : Signature α) : List α :=
  signature.filterMap (·.default?)

/-- The keys and the values of entries. -/
def Entries.values (entries : List (Value × Value)) : List Value :=
  entries.flatMap fun entry => [entry.1, entry.2]

theorem Entries.forall_values {property : Value → Prop} {entries : List (Value × Value)} :
    (∀ value ∈ Entries.values entries, property value) ↔
      ∀ entry ∈ entries, property entry.1 ∧ property entry.2 := by
  refine List.forall_mem_flatMap.trans (forall₂_congr fun entry _ => ?_)
  simp

namespace Entries

variable {κ ν : Type} {same : κ → κ → Bool} {entries others : List (κ × ν)} {key : κ} {value : ν}

theorem exists_mem_of_find? (h : find? same entries key = some value) :
    ∃ found, (found, value) ∈ entries := by
  obtain ⟨entry, hentry, rfl⟩ := Option.map_eq_some_iff.mp h
  exact ⟨entry.1, List.mem_of_find?_eq_some hentry⟩

/-- What holds of all entries, and of one that is put, holds of all entries then. -/
theorem forall_mem_put {keys : κ → Prop} {values : ν → Prop}
    (h : ∀ entry ∈ entries, keys entry.1 ∧ values entry.2) (hkey : keys key) (hvalue : values value) :
    ∀ entry ∈ put same entries key value, keys entry.1 ∧ values entry.2 := by
  induction entries with
  | nil => exact List.forall_mem_singleton.mpr ⟨hkey, hvalue⟩
  | cons first entries ih =>
    obtain ⟨hfirst, hentries⟩ := List.forall_mem_cons.mp h
    unfold put
    split
    · exact List.forall_mem_cons.mpr ⟨⟨hfirst.1, hvalue⟩, hentries⟩
    · exact List.forall_mem_cons.mpr ⟨hfirst, ih hentries⟩

theorem forall_snd_put {values : ν → Prop} (h : ∀ entry ∈ entries, values entry.2)
    (hvalue : values value) : ∀ entry ∈ put same entries key value, values entry.2 := by
  have hput := @forall_mem_put κ ν same entries key value (fun _ => True) values
    (fun entry hentry => ⟨trivial, h entry hentry⟩) trivial hvalue
  exact fun entry hentry => (hput entry hentry).2

theorem forall_mem_putAll {keys : κ → Prop} {values : ν → Prop}
    (h : ∀ entry ∈ entries, keys entry.1 ∧ values entry.2)
    (hothers : ∀ entry ∈ others, keys entry.1 ∧ values entry.2) :
    ∀ entry ∈ putAll same entries others, keys entry.1 ∧ values entry.2 := by
  unfold putAll
  induction others generalizing entries with
  | nil => exact h
  | cons other others ih =>
    obtain ⟨hother, hothers⟩ := List.forall_mem_cons.mp hothers
    exact ih (forall_mem_put h hother.1 hother.2) hothers

end Entries

/-- The values a memo is about. -/
def Memo.values (memo : Memo) : List Value :=
  memo.dependencies :: memo.properties.map Prod.snd ++ Entries.values memo.bag ++
    memo.registered.map Prod.snd

namespace Object

/-- The values an object holds. -/
def values : Object → List Value
  | .list elements | .tuple elements => elements
  | .set element => element.toList
  | .dict entries | .config _ entries | .dependencies entries => Entries.values entries
  | .view mapping => [mapping]
  | .callable made => made.signature.defaults
  | .function item => item.implementation :: item.injection.signature.defaults
  | .component item => item.implementation :: (item.memo?.map Memo.values).getD []
  | .pending registration =>
    registration.name :: registration.dependencies :: registration.kind?.toList

/-- The value an object is looked through to, if it is. -/
def inner? : Object → Option Value
  | .set element => element
  | .view mapping => some mapping
  | .component item => some item.implementation
  | _ => none

theorem inner?_mem {object : Object} {inner : Value} (h : object.inner? = some inner) :
    inner ∈ object.values := by
  cases object <;> simp_all [inner?, values]

end Object

namespace Store

/-- A store whose objects hold nothing that was not created, and are looked through to what was
created before. -/
structure Closed (store : Store) : Prop where
  /-- The empty tuple is there. -/
  filled : 0 < store.size
  holds : ∀ (reference : Nat) (object : Object), store[reference]? = some object →
    ∀ value ∈ object.values, value.Within store.size
  older : ∀ (reference : Nat) (object : Object) (inner : Value), store[reference]? = some object →
    object.inner? = some inner → inner.Within reference

variable {store : Store} {object : Object}

theorem Closed.holds_of_object? (h : store.Closed) {value : Value}
    (hvalue : store.object? value = some object) : ∀ held ∈ object.values, held.Within store.size := by
  cases value with
  | object reference => exact h.holds reference object hvalue
  | _ => cases hvalue

theorem initial_closed : initial.Closed where
  filled := by decide
  holds reference object hobject value hvalue := by
    match reference with
    | 0 =>
      cases hobject
      cases hvalue
    | reference + 1 => cases hobject
  older reference object inner hobject hinner := by
    match reference with
    | 0 =>
      cases hobject
      cases hinner
    | reference + 1 => cases hobject

theorem Closed.push (h : store.Closed) (hobject : ∀ value ∈ object.values, value.Within store.size) :
    Closed (store.push object) where
  filled := by
    rw [Array.size_push]
    exact Nat.succ_pos _
  holds reference found hfound value hvalue := by
    rw [Array.size_push]
    rw [Array.getElem?_push] at hfound
    split at hfound
    · cases hfound
      exact (hobject value hvalue).mono (Nat.le_succ _)
    · exact (h.holds reference found hfound value hvalue).mono (Nat.le_succ _)
  older reference found inner hfound hinner := by
    rw [Array.getElem?_push] at hfound
    split at hfound
    · next hlast =>
      cases hfound
      rw [hlast]
      exact hobject inner (Object.inner?_mem hinner)
    · exact h.older reference found inner hfound hinner

theorem size_replace (value : Value) : (store.replace value object).size = store.size := by
  unfold replace
  split
  · exact Array.size_setIfInBounds
  · rfl

/-- An object gives way to one that is looked through to the same value, or not at all. -/
theorem Closed.replace (h : store.Closed) {value : Value}
    (hobject : ∀ held ∈ object.values, held.Within store.size)
    (hinner : ∀ inner, object.inner? = some inner →
      ∃ other, store.object? value = some other ∧ other.inner? = some inner) :
    Closed (store.replace value object) where
  filled := by
    rw [size_replace]
    exact h.filled
  holds reference found hfound held hheld := by
    rw [size_replace]
    change (store.replace value object).object? (.object reference) = some found at hfound
    rw [Session.object?_replace] at hfound
    split at hfound
    · cases hfound
      exact hobject held hheld
    · exact h.holds reference found hfound held hheld
  older reference found inner hfound hfoundInner := by
    change (store.replace value object).object? (.object reference) = some found at hfound
    rw [Session.object?_replace] at hfound
    split at hfound
    · next hsame =>
      cases hfound
      obtain ⟨other, hother, hotherInner⟩ := hinner inner hfoundInner
      rw [hsame.1] at hother
      exact h.older reference other inner hother hotherInner
    · exact h.older reference found inner hfound hfoundInner

/-! ## What is found in objects -/

theorem exists_of_entriesWithin {depth : Nat} {value : Value} {entries : List (Value × Value)}
    (h : store.entriesWithin depth value = some entries) :
    ∃ mapping object, store.object? mapping = some object ∧
      object.values = Entries.values entries := by
  fun_induction entriesWithin store depth value with
  | case1 _ value _ hobject | case2 _ value _ _ hobject | case3 _ value _ hobject =>
    cases h
    exact ⟨value, _, hobject, rfl⟩
  | case4 _ _ mapping _ ih => exact ih h
  | case5 => cases h

theorem exists_of_signatureWithin {depth : Nat} {value default : Value}
    {signature : Signature Value} (h : store.signatureWithin depth value = some signature)
    (hdefault : default ∈ signature.defaults) :
    ∃ callable object, store.object? callable = some object ∧ default ∈ object.values := by
  fun_induction signatureWithin store depth value with
  | case1 => cases h
  | case2 _ value callable hobject =>
    cases h
    exact ⟨value, _, hobject, hdefault⟩
  | case3 _ value item hobject =>
    cases h
    exact ⟨value, _, hobject, List.mem_cons_of_mem _ hdefault⟩
  | case4 =>
    cases h
    cases hdefault
  | case5 _ _ item _ ih => exact ih h
  | case6 => cases h

section

variable (hclosed : store.Closed) {value : Value}
include hclosed

theorem Closed.entries?_within {entries : List (Value × Value)}
    (h : store.entries? value = some entries) :
    ∀ entry ∈ entries, entry.1.Within store.size ∧ entry.2.Within store.size := by
  obtain ⟨mapping, object, hobject, hvalues⟩ := exists_of_entriesWithin h
  have hheld := hclosed.holds_of_object? hobject
  rw [hvalues] at hheld
  exact Entries.forall_values.mp hheld

theorem Closed.signature?_within {signature : Signature Value}
    (h : store.signature? value = some signature) :
    ∀ default ∈ signature.defaults, default.Within store.size := by
  intro default hdefault
  obtain ⟨callable, object, hobject, hheld⟩ := exists_of_signatureWithin h hdefault
  exact hclosed.holds_of_object? hobject default hheld

theorem Closed.elements?_within {elements : List Value}
    (h : store.elements? value = some elements) :
    ∀ element ∈ elements, element.Within store.size := by
  unfold elements? at h
  split at h
  · next entries hentries =>
    cases h
    intro element helement
    obtain ⟨entry, hentry, rfl⟩ := List.mem_map.mp helement
    exact (hclosed.entries?_within hentries entry hentry).1
  · split at h
    · cases h
      intro element helement
      obtain ⟨c, -, rfl⟩ := List.mem_map.mp helement
      trivial
    · cases h
      intro element helement
      obtain ⟨c, -, rfl⟩ := List.mem_map.mp helement
      trivial
    · next hobject =>
      cases h
      exact hclosed.holds_of_object? hobject
    · next hobject =>
      cases h
      exact hclosed.holds_of_object? hobject
    · next hobject =>
      cases h
      exact hclosed.holds_of_object? hobject
    · cases h

end

end Store

namespace Session

/-- A session in which whatever can be reached has been created. -/
structure Closed (session : Session) : Prop extends session.Grounded where
  objects : session.objects.Closed
  items : ∀ (index : Nat) (container : Container), session.containers[index]? = some container →
    ∀ entry ∈ container.items, entry.2.Within session.objects.size
  kept : ∀ entry ∈ session.kept, entry.2.Within session.objects.size

theorem initial_closed : initial.Closed where
  toGrounded := initial_grounded
  objects := Store.initial_closed
  items index container h := by simp [initial] at h
  kept entry h := by cases h

variable {session : Session} {object : Object}

theorem Closed.push (h : session.Closed)
    (hobject : ∀ value ∈ object.values, value.Within session.objects.size)
    (hpending : ∀ registration, object = .pending registration →
      registration.container < session.containers.size) :
    ({ session with objects := session.objects.push object } : Session).Closed where
  toGrounded := h.toGrounded.push hpending
  objects := h.objects.push hobject
  items index container hcontainer entry hentry := by
    rw [Array.size_push]
    exact (h.items index container hcontainer entry hentry).mono (Nat.le_succ _)
  kept entry hentry := by
    rw [Array.size_push]
    exact (h.kept entry hentry).mono (Nat.le_succ _)

theorem Closed.replace (h : session.Closed) {value : Value}
    (hobject : ∀ held ∈ object.values, held.Within session.objects.size)
    (hinner : ∀ inner, object.inner? = some inner →
      ∃ other, session.objects.object? value = some other ∧ other.inner? = some inner)
    (hpending : ∀ registration, object ≠ .pending registration) :
    ({ session with objects := session.objects.replace value object } : Session).Closed where
  toGrounded := h.toGrounded.replace value hpending
  objects := h.objects.replace hobject hinner
  items index container hcontainer entry hentry := by
    rw [Store.size_replace]
    exact h.items index container hcontainer entry hentry
  kept entry hentry := by
    rw [Store.size_replace]
    exact h.kept entry hentry

end Session

end Registrar
