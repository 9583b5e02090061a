import Mathlib.Data.Finset.Card
import Mathlib.Data.Finset.Range
import Registrar.Proofs.Container.Closed

/-! # Objects that come later

What a value shows of itself, its displayed form, its signature, its entries, is found by looking
into objects down to a depth that the size of the store sets. In a closed store that depth is
enough, so that objects which are created later change nothing of it.

A displayed form goes into each object once at most, save for those that are looked through: on its
way it can come to them any number of times. But each time they lead to the same object, and
when that one is already being shown they lead to an end.
-/

namespace Registrar

namespace Store

variable {store : Store}

theorem getElem?_later {reference : Nat} (h : reference < store.size) (later : Store) :
    (store ++ later)[reference]? = store[reference]? :=
  Array.getElem?_append_left h

theorem object?_later {value : Value} (h : value.Within store.size) (later : Store) :
    Store.object? (store ++ later) value = store.object? value := by
  cases value with
  | object reference => exact getElem?_later h later
  | _ => rfl

/-- The object that an object is looked through to, if it is. -/
def inner? (store : Store) (reference : Nat) : Option Nat :=
  match store[reference]?.bind Object.inner? with
  | some (.object inner) => some inner
  | _ => none

/-- The object that looking through an object comes to in the end. -/
def innermost (store : Store) (reference : Nat) : Nat :=
  match store.inner? reference with
  | some inner => if inner < reference then store.innermost inner else reference
  | none => reference
termination_by reference

/-- How many objects are looked through on the way. -/
def layers (store : Store) (reference : Nat) : Nat :=
  match store.inner? reference with
  | some inner => if inner < reference then store.layers inner + 1 else 0
  | none => 0
termination_by reference

theorem innermost_of_none {reference : Nat} (h : store.inner? reference = none) :
    store.innermost reference = reference ∧ store.layers reference = 0 := by
  unfold innermost layers
  rw [h]
  exact ⟨rfl, rfl⟩

theorem innermost_of_some {reference inner : Nat} (h : store.inner? reference = some inner)
    (hlt : inner < reference) : store.innermost reference = store.innermost inner ∧
      store.layers reference = store.layers inner + 1 := by
  rw [innermost, layers, h]
  exact ⟨if_pos hlt, if_pos hlt⟩

theorem Closed.inner?_lt (h : store.Closed) {reference inner : Nat}
    (hinner : store.inner? reference = some inner) : inner < reference := by
  unfold inner? at hinner
  split at hinner
  · next found hfound =>
    cases hinner
    obtain ⟨object, hobject, hobjectInner⟩ := Option.bind_eq_some_iff.mp hfound
    exact h.older reference object _ hobject hobjectInner
  · cases hinner

/-! ## How deep a displayed form goes -/

/-- The objects that do not lead to one of those that are being shown. -/
def outside (store : Store) (within : List Nat) : Finset Nat :=
  (Finset.range store.size).filter fun reference => store.innermost reference ∉ within

theorem card_outside_le {within larger : List Nat} (h : within ⊆ larger) :
    (store.outside larger).card ≤ (store.outside within).card := by
  refine Finset.card_le_card fun reference hreference => ?_
  obtain ⟨hrange, hout⟩ := Finset.mem_filter.mp hreference
  exact Finset.mem_filter.mpr ⟨hrange, fun hin => hout (h hin)⟩

/-- The depth at which the displayed form of an object is complete. -/
def depthFor (store : Store) (within : List Nat) (reference : Nat) : Nat :=
  store.layers reference + 1 +
    if store.innermost reference ∈ within then 0
    else (store.outside (store.innermost reference :: within)).card + store.size

section

variable (hclosed : store.Closed)
include hclosed

theorem Closed.layers_le (reference : Nat) : store.layers reference ≤ reference := by
  induction reference using Nat.strongRecOn with
  | ind reference ih =>
    cases hinner : store.inner? reference with
    | none => exact (innermost_of_none hinner).2 ▸ Nat.zero_le _
    | some inner =>
      have hlt := hclosed.inner?_lt hinner
      rw [(innermost_of_some hinner hlt).2]
      exact Nat.lt_of_le_of_lt (ih inner hlt) hlt

/-- An object and those it is looked through to lead to the same one, and are different. -/
theorem Closed.layers_lt_card (reference : Nat) : store.layers reference <
    ((Finset.range (reference + 1)).filter
      fun other => store.innermost other = store.innermost reference).card := by
  induction reference using Nat.strongRecOn with
  | ind reference ih =>
    cases hinner : store.inner? reference with
    | none =>
      rw [(innermost_of_none hinner).2]
      exact Finset.card_pos.mpr ⟨reference, by simp⟩
    | some inner =>
      have hlt := hclosed.inner?_lt hinner
      obtain ⟨hsame, hlayers⟩ := innermost_of_some hinner hlt
      rw [hlayers, hsame]
      refine Nat.lt_of_le_of_lt (ih inner hlt) (Finset.card_lt_card ?_)
      refine (Finset.ssubset_iff_of_subset fun other hother => ?_).mpr ⟨reference, ?_, ?_⟩
      · obtain ⟨hrange, hother⟩ := Finset.mem_filter.mp hother
        refine Finset.mem_filter.mpr ⟨Finset.mem_range.mpr ?_, hother⟩
        have := Finset.mem_range.mp hrange
        omega
      · exact Finset.mem_filter.mpr ⟨Finset.self_mem_range_succ reference, hsame⟩
      · intro hmem
        have := Finset.mem_range.mp (Finset.mem_filter.mp hmem).1
        omega

/-- Once the object at the end is being shown, those that lead to it are not outside any more. -/
theorem Closed.card_outside_cons {within : List Nat} {reference : Nat}
    (hreference : reference < store.size) (hout : store.innermost reference ∉ within) :
    store.layers reference + 1 + (store.outside (store.innermost reference :: within)).card ≤
      (store.outside within).card := by
  have hleading := hclosed.layers_lt_card reference
  have hdisjoint : Disjoint
      ((Finset.range (reference + 1)).filter
        fun other => store.innermost other = store.innermost reference)
      (store.outside (store.innermost reference :: within)) := by
    refine Finset.disjoint_left.mpr fun other hother hmem => ?_
    have hsame := (Finset.mem_filter.mp hother).2
    exact (Finset.mem_filter.mp hmem).2 (hsame ▸ List.mem_cons_self)
  refine Nat.le_trans (Nat.add_le_add_right hleading _) ?_
  rw [← Finset.card_union_of_disjoint hdisjoint]
  refine Finset.card_le_card (Finset.union_subset (fun other hother => ?_) fun other hother => ?_)
  · obtain ⟨hrange, hsame⟩ := Finset.mem_filter.mp hother
    refine Finset.mem_filter.mpr ⟨Finset.mem_range.mpr ?_, hsame ▸ hout⟩
    have := Finset.mem_range.mp hrange
    omega
  · obtain ⟨hrange, hother⟩ := Finset.mem_filter.mp hother
    exact Finset.mem_filter.mpr ⟨hrange, fun hin => hother (List.mem_cons_of_mem _ hin)⟩

/-- Where an object is looked through, what is inside is less deep. -/
theorem Closed.depthFor_inner {within larger : List Nat} {reference inner : Nat}
    (hinner : store.inner? reference = some inner) (hlarger : within ⊆ larger) :
    store.depthFor larger inner < store.depthFor within reference := by
  obtain ⟨hsame, hlayers⟩ := innermost_of_some hinner (hclosed.inner?_lt hinner)
  have hcard := store.card_outside_le (List.cons_subset_cons (store.innermost inner) hlarger)
  unfold depthFor
  rw [hsame, hlayers]
  split
  · omega
  · next hout =>
    rw [if_neg fun hin => hout (hlarger hin)]
    omega

/-- Where an object is shown for the first time, what it holds is less deep. -/
theorem Closed.depthFor_held {within : List Nat} {reference held : Nat}
    (hinner : store.inner? reference = none) (hout : reference ∉ within)
    (hheld : held < store.size) :
    store.depthFor (reference :: within) held < store.depthFor within reference := by
  obtain ⟨hself, hlayers⟩ := innermost_of_none hinner
  have hle := hclosed.layers_le held
  have hwithin : store.depthFor within reference =
      0 + 1 + ((store.outside (reference :: within)).card + store.size) := by
    unfold depthFor
    rw [hself, hlayers, if_neg hout]
  rw [hwithin]
  unfold depthFor
  split
  · omega
  · next hout =>
    have hcard := hclosed.card_outside_cons hheld hout
    omega

/-- No displayed form is deeper than twice the size of the store. -/
theorem Closed.depthFor_le {reference : Nat} (hreference : reference < store.size) :
    store.depthFor [] reference ≤ 2 * store.size := by
  have hout : store.innermost reference ∉ [] := List.not_mem_nil
  have hcard := hclosed.card_outside_cons hreference hout
  have hall : (store.outside []).card ≤ store.size :=
    (Finset.card_filter_le _ _).trans (Finset.card_range _).le
  unfold depthFor
  rw [if_neg hout]
  omega

end

/-! ## Displayed forms -/

/-- The depth at which the displayed form of a value is complete. -/
def depthOf (store : Store) (within : List Nat) : Value → Nat
  | .object reference => store.depthFor within reference
  | _ => 0

theorem depthFor_pos (within : List Nat) (reference : Nat) : 0 < store.depthFor within reference := by
  unfold depthFor
  omega

theorem displayEntries_congr {display other : Value → String} {entries : List (Value × Value)}
    (h : ∀ value ∈ Entries.values entries, display value = other value) :
    displayEntries display entries = displayEntries other entries := by
  unfold displayEntries
  congr 3
  refine List.map_congr_left fun ⟨key, value⟩ hentry => ?_
  have hmem (held : Value) (hheld : held = key ∨ held = value) : held ∈ Entries.values entries :=
    List.mem_flatMap.mpr ⟨(key, value), hentry, by simpa using hheld⟩
  dsimp only
  rw [h _ (hmem _ (.inl rfl)), h _ (hmem _ (.inr rfl))]

/-- Two displayed forms of an object are the same if they show the same of what is inside. -/
theorem displayWithin_congr {other : Store} {depth depth' : Nat} {within : List Nat}
    {reference : Nat} {object : Object} (hobject : store[reference]? = some object)
    (hother : other[reference]? = some object)
    (hinner : ∀ inner larger, object.inner? = some inner → within ⊆ larger →
      other.displayWithin depth' larger inner = store.displayWithin depth larger inner)
    (hheld : object.inner? = none → reference ∉ within → ∀ held ∈ object.values,
      other.displayWithin depth' (reference :: within) held =
        store.displayWithin depth (reference :: within) held) :
    other.displayWithin (depth' + 1) within (.object reference) =
      store.displayWithin (depth + 1) within (.object reference) := by
  -- what is inside is not shown again where the object is being shown already
  have hif (first second dots : String) (h : reference ∉ within → first = second) :
      (if within.contains reference then dots else first) =
        if within.contains reference then dots else second := by
    by_cases hin : within.contains reference = true
    · rw [if_pos hin, if_pos hin]
    · rw [h fun hmem => hin (List.contains_iff_mem.mpr hmem)]
  have hmap (elements : List Value) (hnone : object.inner? = none)
      (hvalues : object.values = elements) (hout : reference ∉ within) :
      elements.map (other.displayWithin depth' (reference :: within)) =
        elements.map (store.displayWithin depth (reference :: within)) :=
    List.map_congr_left fun held hmem => hheld hnone hout held (hvalues ▸ hmem)
  have hentries (entries : List (Value × Value)) (hnone : object.inner? = none)
      (hvalues : object.values = Entries.values entries) :
      (if within.contains reference then "\x7b...\x7d" else
        displayEntries (other.displayWithin depth' (reference :: within)) entries) =
      if within.contains reference then "\x7b...\x7d" else
        displayEntries (store.displayWithin depth (reference :: within)) entries :=
    hif _ _ _ fun hout => displayEntries_congr fun held hmem =>
      hheld hnone hout held (hvalues ▸ hmem)
  unfold displayWithin
  rw [hobject, hother]
  dsimp only
  cases object with
  | list elements =>
    refine hif _ _ _ fun hout => ?_
    rw [hmap elements rfl rfl hout]
  | tuple elements =>
    match elements with
    | [] => rfl
    | [element] =>
      refine hif _ _ _ fun hout => ?_
      rw [hheld rfl hout element List.mem_cons_self]
    | first :: second :: rest =>
      refine hif _ _ _ fun hout => ?_
      rw [hmap (first :: second :: rest) rfl rfl hout]
  | set element =>
    cases element with
    | none => rfl
    | some element =>
      dsimp only
      rw [hinner element _ rfl (List.subset_cons_self _ _)]
  | dict entries => exact hentries entries rfl rfl
  | config name entries =>
    dsimp only
    rw [hentries entries rfl rfl]
  | dependencies entries =>
    dsimp only
    rw [hentries entries rfl rfl]
  | view mapping =>
    dsimp only
    rw [hinner mapping within rfl (List.Subset.refl _)]
  | _ => rfl

section

variable (hclosed : store.Closed)
include hclosed

/-- Where an object is looked through, the value inside is less deep. -/
theorem Closed.depthOf_inner {within larger : List Nat} {reference : Nat} {object : Object}
    {inner : Value} (hobject : store[reference]? = some object)
    (hinner : object.inner? = some inner) (hlarger : within ⊆ larger) :
    store.depthOf larger inner < store.depthFor within reference := by
  cases inner with
  | object inner =>
    refine hclosed.depthFor_inner ?_ hlarger
    unfold inner?
    rw [hobject, Option.bind_some, hinner]
  | _ => exact store.depthFor_pos within reference

/-- Where an object is shown for the first time, the values it holds are less deep. -/
theorem Closed.depthOf_held {within : List Nat} {reference : Nat} {object : Object} {held : Value}
    (hobject : store[reference]? = some object) (hinner : object.inner? = none)
    (hout : reference ∉ within) (hheld : held ∈ object.values) :
    store.depthOf (reference :: within) held < store.depthFor within reference := by
  have hwithin := hclosed.holds reference object hobject held hheld
  cases held with
  | object inner =>
    refine hclosed.depthFor_held ?_ hout hwithin
    unfold inner?
    rw [hobject, Option.bind_some, hinner]
  | _ => exact store.depthFor_pos within reference

/-- A displayed form that is complete is the same at every greater depth, and after objects came. -/
theorem Closed.displayWithin_later (later : Store) {depth depth' : Nat} {within : List Nat}
    {value : Value} (hvalue : value.Within store.size) (hdepth : store.depthOf within value ≤ depth)
    (hdepth' : store.depthOf within value ≤ depth') :
    Store.displayWithin (store ++ later) depth' within value =
      store.displayWithin depth within value := by
  induction depth generalizing depth' within value with
  | zero =>
    cases value with
    | object reference => exact absurd hdepth (Nat.not_le_of_gt (store.depthFor_pos within reference))
    | _ => cases depth' <;> rfl
  | succ depth ih =>
    cases value with
    | object reference =>
      obtain ⟨depth', rfl⟩ : ∃ less, depth' = less + 1 :=
        Nat.exists_eq_add_one.mpr (Nat.lt_of_lt_of_le (store.depthFor_pos within reference) hdepth')
      obtain ⟨object, hobject⟩ : ∃ object, store[reference]? = some object :=
        ⟨_, Array.getElem?_eq_getElem hvalue⟩
      have hless {larger : List Nat} {held : Value} (hheld : held ∈ object.values)
          (hlt : store.depthOf larger held < store.depthFor within reference) :
          Store.displayWithin (store ++ later) depth' larger held =
            store.displayWithin depth larger held := by
        refine ih (hclosed.holds reference object hobject held hheld) ?_ ?_
        · exact Nat.le_of_lt_succ (Nat.lt_of_lt_of_le hlt hdepth)
        · exact Nat.le_of_lt_succ (Nat.lt_of_lt_of_le hlt hdepth')
      refine displayWithin_congr hobject ((getElem?_later hvalue later).trans hobject)
        (fun inner larger hinner hlarger => ?_) fun hnone hout held hmem => ?_
      · exact hless (Object.inner?_mem hinner) (hclosed.depthOf_inner hobject hinner hlarger)
      · exact hless hmem (hclosed.depthOf_held hobject hnone hout hmem)
    | _ => cases depth' <;> rfl

/-- The displayed form of a value stays the same when objects are created. -/
theorem Closed.display_later {value : Value} (hvalue : value.Within store.size) (later : Store) :
    Store.display (store ++ later) value = store.display value := by
  have hdepth : store.depthOf [] value ≤ 2 * store.size := by
    cases value with
    | object reference => exact hclosed.depthFor_le hvalue
    | _ => exact Nat.zero_le _
  have hsize : store.size ≤ (store ++ later).size := by simp
  refine hclosed.displayWithin_later later hvalue ?_ ?_
  · omega
  · omega

/-! ## What is found by looking through objects -/

/-- What an object is looked through to is the value of a smaller bound. -/
theorem Closed.bound_inner_lt {value inner : Value} {object : Object}
    (hobject : store.object? value = some object) (hinner : object.inner? = some inner) :
    inner.bound < value.bound := by
  cases value with
  | object reference =>
    exact Nat.lt_succ_of_le
      (Value.within_iff_bound_le.mp (hclosed.older reference object inner hobject hinner))
  | _ => cases hobject

theorem Closed.entriesWithin_later (later : Store) {depth depth' : Nat} {value : Value}
    (hvalue : value.Within store.size) (hdepth : value.bound ≤ depth)
    (hdepth' : value.bound ≤ depth') :
    Store.entriesWithin (store ++ later) depth' value = store.entriesWithin depth value := by
  induction depth generalizing depth' value with
  | zero =>
    cases value with
    | object reference => exact absurd hdepth (Nat.not_succ_le_zero reference)
    | _ => cases depth' <;> rfl
  | succ depth ih =>
    unfold entriesWithin
    rw [object?_later hvalue]
    cases hobject : store.object? value with
    | none => rfl
    | some object =>
      cases object with
      | view mapping =>
        have hlt := hclosed.bound_inner_lt hobject rfl
        obtain ⟨depth', rfl⟩ : ∃ less, depth' = less + 1 := Nat.exists_eq_add_one.mpr (by omega)
        have hmapping := hclosed.holds_of_object? hobject mapping List.mem_cons_self
        exact ih hmapping (by omega) (by omega)
      | _ => rfl

theorem Closed.signatureWithin_later (later : Store) {depth depth' : Nat} {value : Value}
    (hvalue : value.Within store.size) (hdepth : value.bound ≤ depth)
    (hdepth' : value.bound ≤ depth') :
    Store.signatureWithin (store ++ later) depth' value = store.signatureWithin depth value := by
  induction depth generalizing depth' value with
  | zero =>
    cases value with
    | object reference => exact absurd hdepth (Nat.not_succ_le_zero reference)
    | _ => cases depth' <;> rfl
  | succ depth ih =>
    unfold signatureWithin
    rw [object?_later hvalue]
    cases hobject : store.object? value with
    | none => rfl
    | some object =>
      cases object with
      | component item =>
        have hlt := hclosed.bound_inner_lt hobject rfl
        obtain ⟨depth', rfl⟩ : ∃ less, depth' = less + 1 := Nat.exists_eq_add_one.mpr (by omega)
        have himplementation := hclosed.holds_of_object? hobject item.implementation
          List.mem_cons_self
        exact ih himplementation (by omega) (by omega)
      | _ => rfl

theorem Closed.entries?_later {value : Value} (hvalue : value.Within store.size) (later : Store) :
    Store.entries? (store ++ later) value = store.entries? value := by
  have hbound := Value.within_iff_bound_le.mp hvalue
  have hsize : store.size ≤ (store ++ later).size := by simp
  exact hclosed.entriesWithin_later later hvalue (by omega) (by omega)

theorem Closed.signature?_later {value : Value} (hvalue : value.Within store.size) (later : Store) :
    Store.signature? (store ++ later) value = store.signature? value := by
  have hbound := Value.within_iff_bound_le.mp hvalue
  have hsize : store.size ≤ (store ++ later).size := by simp
  exact hclosed.signatureWithin_later later hvalue (by omega) (by omega)

end

theorem isCallable_later {value : Value} (hvalue : value.Within store.size) (later : Store) :
    Store.isCallable (store ++ later) value = store.isCallable value := by
  unfold isCallable
  rw [object?_later hvalue]

theorem callableNames_later {value : Value} (hvalue : value.Within store.size) (later : Store) :
    Store.callableNames (store ++ later) value = store.callableNames value := by
  unfold callableNames
  rw [object?_later hvalue]

theorem metadata?_later {value : Value} (hvalue : value.Within store.size) (later : Store) :
    Store.metadata? (store ++ later) value = store.metadata? value := by
  unfold metadata?
  rw [object?_later hvalue]

theorem typeName_later {value : Value} (hvalue : value.Within store.size) (later : Store) :
    Store.typeName (store ++ later) value = store.typeName value := by
  cases value with
  | object reference =>
    unfold typeName
    dsimp only
    rw [getElem?_later hvalue]
  | _ => rfl

end Store

end Registrar
