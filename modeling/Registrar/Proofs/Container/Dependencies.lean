import Mathlib.Tactic.Common
import Registrar.Container.Calling

/-! # What a dependency set hangs on

Declared keys are texts, and no other value is the same key as a text. A
dependency set for declared keys therefore hangs on the strictness of the
container, on what is registered under the keys, and on the entries of the bag,
but on nothing else in the store.
-/

namespace Registrar

namespace Store

variable (store other : Store)

theorem keyWithin_eq_text_iff (depth : Nat) (value : Value) (s : String) :
    store.keyWithin depth value = some (.text s) ↔ value = .text s := by
  cases value with
  | object reference =>
    unfold keyWithin
    split <;> simp
  | _ => simp [keyWithin]

theorem key?_eq_text_iff (value : Value) (s : String) :
    store.key? value = some (.text s) ↔ value = .text s :=
  store.keyWithin_eq_text_iff _ value s

theorem sameKey_text (value : Value) (s : String) :
    store.sameKey value (.text s) = decide (value = .text s) := by
  have htext : store.key? (.text s) = some (.text s) := (store.key?_eq_text_iff _ s).mpr rfl
  rw [Bool.eq_iff_iff, decide_eq_true_iff, sameKey, htext, beq_iff_eq, key?_eq_text_iff]

/-- Values that are one key are the same text or no texts. -/
theorem eq_text_iff_of_sameKey {a b : Value} (h : store.sameKey a b = true) (s : String) :
    a = .text s ↔ b = .text s := by
  rw [← store.key?_eq_text_iff, ← store.key?_eq_text_iff, eq_of_beq h]

theorem find?_text (entries : List (Value × Value)) (s : String) :
    Entries.find? store.sameKey entries (.text s) =
      Entries.find? other.sameKey entries (.text s) := by
  unfold Entries.find?
  simp only [sameKey_text]

theorem put_text (entries : List (Value × Value)) (s : String) (value : Value) :
    Entries.put store.sameKey entries (.text s) value =
      Entries.put other.sameKey entries (.text s) value := by
  induction entries with
  | nil => rfl
  | cons entry entries ih => simp only [Entries.put, sameKey_text, ih]

end Store

namespace ComponentItem

theorem sameEntries_eq {entries others : List (String × Value)}
    (h : sameEntries (· == ·) entries others = true) : entries = others := by
  induction entries generalizing others with
  | nil =>
    cases others with
    | nil => rfl
    | cons _ _ => simp [sameEntries] at h
  | cons entry entries ih =>
    cases others with
    | nil => simp [sameEntries] at h
    | cons other others =>
      simp only [sameEntries, Bool.and_eq_true, beq_iff_eq] at h
      rw [Prod.ext h.1.1 h.1.2, ih h.2]

end ComponentItem

namespace Container

variable {container snapshot : Container}

theorem resolve?_text (store : Store) (bag : List (Value × Value)) (name : String) :
    container.resolve? store bag (.text name) =
      (Entries.find? store.sameKey (bag.filter fun entry => entry.2 != .null) (.text name)).or
        (container.item? name) := by
  unfold resolve?
  split <;> simp [*]

/-- Bags whose entries agree resolve declared keys alike. -/
theorem find?_of_sameEntries {store : Store} {bag other : List (Value × Value)}
    (h : ComponentItem.sameEntries store.sameKey bag other = true) (s : String) :
    Entries.find? store.sameKey (bag.filter fun entry => entry.2 != .null) (.text s) =
      Entries.find? store.sameKey (other.filter fun entry => entry.2 != .null) (.text s) := by
  induction bag generalizing other with
  | nil =>
    cases other with
    | nil => rfl
    | cons _ _ => simp [ComponentItem.sameEntries] at h
  | cons entry bag ih =>
    cases other with
    | nil => simp [ComponentItem.sameEntries] at h
    | cons entry' other =>
      obtain ⟨key, value⟩ := entry
      obtain ⟨key', value'⟩ := entry'
      simp only [ComponentItem.sameEntries, Bool.and_eq_true, beq_iff_eq] at h
      obtain ⟨⟨hkey, rfl⟩, hrest⟩ := h
      have hrest := ih hrest
      unfold Entries.find? at hrest ⊢
      by_cases hnull : value = .null
      · simpa [hnull] using hrest
      · by_cases htext : key = .text s
        · have htext' := (store.eq_text_iff_of_sameKey hkey s).mp htext
          simp [hnull, htext, htext', Store.sameKey_text]
        · have htext' := (store.eq_text_iff_of_sameKey hkey s).not.mp htext
          simpa [hnull, htext, htext', Store.sameKey_text] using hrest

/-- A dependency set hangs on nothing but what its keys go to. -/
theorem build_congr {store other : Store} {bag bag' : List (Value × Value)}
    {dependencies : List String} (hstrict : container.strict = snapshot.strict)
    (hresolve : ∀ name ∈ dependencies, container.resolve? store bag (.text name) =
      snapshot.resolve? other bag' (.text name)) :
    container.build store bag (dependencies.map .text) =
      snapshot.build other bag' (dependencies.map .text) := by
  unfold build
  generalize ([] : List (Value × Value)) = entries
  induction dependencies generalizing entries with
  | nil => rfl
  | cons name dependencies ih =>
    have hadd : container.addDependency store bag entries (.text name) =
        snapshot.addDependency other bag' entries (.text name) := by
      unfold addDependency
      rw [hresolve name (by simp), hstrict]
      cases snapshot.resolve? other bag' (.text name) with
      | none => rfl
      | some value => simp only [store.put_text other]; rfl
    simp only [List.map_cons, List.foldlM_cons, hadd]
    refine bind_congr fun entries => ih ?_ entries
    exact fun name hname => hresolve name (List.mem_cons_of_mem _ hname)

/-- The rest of the store does not matter to a dependency set. -/
theorem build_store (store other : Store) (bag : List (Value × Value))
    (dependencies : List String) :
    container.build store bag (dependencies.map .text) =
      container.build other bag (dependencies.map .text) := by
  refine build_congr rfl fun name _ => ?_
  rw [resolve?_text, resolve?_text, store.find?_text other]

end Container

namespace ComponentItem

variable {item : ComponentItem} {container snapshot : Container}

/-- What is registered under the declared keys, read off the list of it. -/
theorem item?_of_registered (hnull : ∀ name, container.item? name ≠ some .null)
    (hnull' : ∀ name, snapshot.item? name ≠ some .null)
    (h : item.registered snapshot = item.registered container) {name : String}
    (hname : name ∈ item.dependencies) : snapshot.item? name = container.item? name := by
  have hfresh : (name, (snapshot.item? name).getD .null) ∈ item.registered container := by
    rw [← h]
    exact List.mem_map_of_mem (List.mem_eraseDups.mpr hname)
  obtain ⟨key, -, hkey⟩ := List.mem_map.mp hfresh
  obtain ⟨rfl, hvalue⟩ := Prod.mk.inj hkey
  have hnull := hnull key
  have hnull' := hnull' key
  cases hs : snapshot.item? key <;> cases hc : container.item? key <;>
    simp_all

/-- A dependency set is the one built before, while the same items are registered
under the declared keys and the bags agree. -/
theorem build_of_registered {store other : Store} {bag bag' : List (Value × Value)}
    (hstrict : container.strict = snapshot.strict)
    (hnull : ∀ name, container.item? name ≠ some .null)
    (hnull' : ∀ name, snapshot.item? name ≠ some .null)
    (hregistered : item.registered snapshot = item.registered container)
    (hbag : sameEntries store.sameKey bag bag' = true) :
    container.build store bag' (item.dependencies.map .text) =
      snapshot.build other bag (item.dependencies.map .text) := by
  rw [snapshot.build_store other store]
  refine Container.build_congr hstrict fun name hname => ?_
  rw [Container.resolve?_text, Container.resolve?_text, Container.find?_of_sameEntries hbag, item?_of_registered hnull hnull' hregistered hname]

end ComponentItem

end Registrar
