import Registrar.Proofs.Container.Handover
import Registrar.Proofs.Container.History

/-! # What a dependency set holds

A declared key goes to the override there is for it, and else to the item registered under it. A
dependency set has an entry for each declared key that goes somewhere, in the order in which the
keys were declared first; nothing else gets into it.
-/

namespace Registrar

namespace Entries

variable {κ ν : Type} {same : κ → κ → Bool} {entries : List (κ × ν)} {key : κ} {value : ν}

/-- Putting what is there already changes nothing. -/
theorem put_eq_self (h : find? same entries key = some value) :
    put same entries key value = entries := by
  induction entries with
  | nil => cases h
  | cons entry entries ih =>
    unfold put
    by_cases hkey : same entry.1 key = true
    · have hvalue : entry.2 = value := by simpa [find?, hkey] using h
      rw [if_pos hkey, ← hvalue]
    · rw [if_neg hkey, ih (by simpa [find?, hkey] using h)]

/-- A new key is put at the end. -/
theorem put_eq_concat (h : find? same entries key = none) :
    put same entries key value = entries ++ [(key, value)] := by
  induction entries with
  | nil => rfl
  | cons entry entries ih =>
    unfold find? at h ih
    rw [Option.map_eq_none_iff] at h ih
    obtain ⟨hkey, hentries⟩ : same entry.1 key = false ∧ entries.find? (same ·.1 key) = none := by
      simpa using h
    simp [put, hkey, ih hentries]

end Entries

/-- What a bag of overrides has for a declared key, unless it is null. -/
def override? (bag : List (Value × Value)) (name : String) : Option Value :=
  (bag.find? fun entry => entry.1 == .text name && entry.2 != .null).map Prod.snd

namespace Container

variable {container : Container} {store : Store} {bag : List (Value × Value)} {names : List String}

/-- What a declared key goes to. -/
def target? (container : Container) (bag : List (Value × Value)) (name : String) : Option Value :=
  (override? bag name).or (container.item? name)

/-- The entries for declared keys: one for each that goes somewhere. -/
def dependencyEntries (container : Container) (bag : List (Value × Value)) (names : List String) :
    List (Value × Value) :=
  names.eraseDups.filterMap fun name => (container.target? bag name).map (.text name, ·)

/-- The first declared key that goes nowhere, where that is a fault. -/
def missing? (container : Container) (bag : List (Value × Value)) (names : List String) :
    Option String :=
  if container.strict then names.find? fun name => (container.target? bag name).isNone else none

theorem resolve?_eq_target? (name : String) :
    container.resolve? store bag (.text name) = container.target? bag name := by
  rw [resolve?_text, target?, override?, Entries.find?, List.find?_filter]
  congr 3
  funext entry
  rw [store.sameKey_text, Bool.eq_iff_iff]
  simp [and_comm]

/-! ## The entries -/

/-- Under a declared key stands what it goes to. -/
theorem find?_dependencyEntries (name : String) :
    Entries.find? store.sameKey (container.dependencyEntries bag names) (.text name) =
      if name ∈ names then container.target? bag name else none := by
  simp only [dependencyEntries, ← List.mem_eraseDups (l := names)]
  induction names.eraseDups with
  | nil => rfl
  | cons first more ih =>
    unfold Entries.find? at ih ⊢
    by_cases hname : name = first
    · subst hname
      cases htarget : container.target? bag name with
      | none => simpa [htarget] using ih
      | some value => simp [htarget, store.sameKey_text]
    · have hother : (first = name) = False := eq_false fun h => hname h.symm
      cases htarget : container.target? bag first with
      | none => simpa [htarget, hname] using ih
      | some value => simpa [htarget, hname, hother, store.sameKey_text] using ih

/-- One more declared key puts what it goes to. -/
theorem dependencyEntries_concat (name : String) :
    container.dependencyEntries bag (names ++ [name]) =
      match container.target? bag name with
      | none => container.dependencyEntries bag names
      | some value =>
        Entries.put store.sameKey (container.dependencyEntries bag names) (.text name) value := by
  have hfound : Entries.find? store.sameKey (container.dependencyEntries bag names) (.text name) =
      if name ∈ names then container.target? bag name else none := find?_dependencyEntries name
  by_cases hname : name ∈ names
  · rw [if_pos hname] at hfound
    have hsame : (names ++ [name]).eraseDups = names.eraseDups := by
      simp [List.eraseDups_append, List.removeAll, hname]
    have hentries : container.dependencyEntries bag (names ++ [name]) =
        container.dependencyEntries bag names := by
      unfold dependencyEntries
      rw [hsame]
    cases htarget : container.target? bag name with
    | none => exact hentries
    | some value => exact hentries.trans (Entries.put_eq_self (hfound.trans htarget)).symm
  · rw [if_neg hname] at hfound
    have hnew : (names ++ [name]).eraseDups = names.eraseDups ++ [name] := by
      simp [List.eraseDups_append, List.removeAll, hname, List.eraseDups_cons]
    have hentries : container.dependencyEntries bag (names ++ [name]) =
        container.dependencyEntries bag names ++
          ((container.target? bag name).map (Value.text name, ·)).toList := by
      unfold dependencyEntries
      rw [hnew, List.filterMap_append]
      cases htarget : container.target? bag name <;> simp [htarget]
    cases htarget : container.target? bag name with
    | none => simp [hentries, htarget]
    | some value => simp [hentries, htarget, Entries.put_eq_concat hfound]

/-- The keys are the declared ones that go somewhere, each once, in the order in which they came
first. -/
theorem keys_dependencyEntries :
    (container.dependencyEntries bag names).map Prod.fst =
      (names.eraseDups.filter fun name =>
        (override? bag name).isSome || (container.item? name).isSome).map .text := by
  unfold dependencyEntries target?
  induction names.eraseDups with
  | nil => rfl
  | cons name more ih =>
    cases hoverride : override? bag name <;> cases hitem : container.item? name <;>
      simpa [hoverride, hitem] using ih

/-- The value of an entry is the override of its key, or the registered item where there is none. -/
theorem mem_dependencyEntries_iff {name : String} {value : Value} :
    (.text name, value) ∈ container.dependencyEntries bag names ↔ name ∈ names ∧
      (override? bag name = some value ∨
        override? bag name = none ∧ container.item? name = some value) := by
  simp only [dependencyEntries, target?, List.mem_filterMap, List.mem_eraseDups,
    Option.map_eq_some_iff, Prod.mk.injEq, Value.text.injEq, Option.or_eq_some_iff]
  constructor
  · rintro ⟨declared, hdeclared, target, htarget, rfl, rfl⟩
    exact ⟨hdeclared, htarget⟩
  · rintro ⟨hdeclared, htarget⟩
    exact ⟨name, hdeclared, value, htarget, rfl, rfl⟩

/-! ## Building -/

/-- What is built for declared keys: their entries, or a fault for the first that goes nowhere. -/
theorem build_eq :
    container.build store bag (names.map .text) =
      match container.missing? bag names with
      | some name => .error (.unregistered (store.display (.text name)))
      | none => .ok (container.dependencyEntries bag names) := by
  induction names using List.reverseRecOn with
  | nil => simp [build, missing?, dependencyEntries]; rfl
  | append_singleton names name ih =>
    have hmissing : container.missing? bag (names ++ [name]) = (container.missing? bag names).or
        (if container.strict && (container.target? bag name).isNone then some name else none) := by
      unfold missing?
      cases container.strict <;> simp [List.find?_append, List.find?_cons]
      cases container.target? bag name <;> rfl
    have hbuild : container.build store bag ((names ++ [name]).map .text) =
        container.build store bag (names.map .text) >>= fun entries =>
          container.addDependency store bag entries (.text name) := by
      simp [build]
    rw [hbuild, ih, hmissing]
    cases container.missing? bag names with
    | some first => rfl
    | none =>
      have hkey : store.key? (.text name) = some (.text name) :=
        (store.key?_eq_text_iff _ name).mpr rfl
      have hconcat := @dependencyEntries_concat container store bag names name
      cases htarget : container.target? bag name with
      | none =>
        cases hstrict : container.strict <;>
          simp_all [addDependency, resolve?_eq_target?, Bind.bind, Except.bind]
      | some value => simp_all [addDependency, resolve?_eq_target?, Bind.bind, Except.bind]

end Container

namespace Run

/-- Building a dependency set meets its declarative reading. A lenient container makes a set with an
entry for each declared key that has an override or a registered item, each once, in the order of
their first occurrence, and the override wins; a strict one does the same if every declared key has
one of the two, and else names the first that has neither. The containers stay as they are. -/
theorem buildDependencies_declared {session : Session} {index : Nat} {container : Container}
    {dependencies overrides : Value} {names : List String} {bag : List (Value × Value)}
    (hcontainer : session.containers[index]? = some container)
    (hdependencies : session.objects.elements? dependencies = some (names.map .text))
    (hoverrides : session.objects.bag? overrides = some bag) :
    buildDependencies index dependencies overrides session =
      (match if container.strict then
          names.find? fun name => (override? bag name).isNone && (container.item? name).isNone
        else none with
      | some name => (.error (.unregistered (session.objects.display (.text name))), session)
      | none => create (.dependencies (container.dependencyEntries bag names)) session) ∧
    (container.dependencyEntries bag names).map Prod.fst =
      (names.eraseDups.filter fun name =>
        (override? bag name).isSome || (container.item? name).isSome).map .text ∧
    (∀ name value, (.text name, value) ∈ container.dependencyEntries bag names ↔ name ∈ names ∧
      (override? bag name = some value ∨
        override? bag name = none ∧ container.item? name = some value)) ∧
    (buildDependencies index dependencies overrides session).2.containers = session.containers := by
  have hafresh : session.afresh index names bag =
      container.build session.objects bag (names.map .text) := by
    unfold Session.afresh
    rw [hcontainer]
  have hmissing : container.missing? bag names = if container.strict then
      names.find? fun name => (override? bag name).isNone && (container.item? name).isNone
      else none := by
    simp [Container.missing?, Container.target?]
  have hbuild : buildDependencies index dependencies overrides session =
      match container.missing? bag names with
      | some name => (.error (.unregistered (session.objects.display (.text name))), session)
      | none => create (.dependencies (container.dependencyEntries bag names)) session := by
    rw [buildDependencies_apply hdependencies hoverrides, hafresh, Container.build_eq]
    cases container.missing? bag names <;> rfl
  refine ⟨hmissing ▸ hbuild, Container.keys_dependencyEntries,
    fun _ _ => Container.mem_dependencyEntries_iff, ?_⟩
  rw [hbuild]
  cases container.missing? bag names <;> rfl

/-- A session with a container, in which `"A"` is registered, a list of keys, one of them twice, and
a bag that overrides `"A"` by null, `"B"` by a number and a key that is not declared. -/
def declaring (strict : Bool) : Session :=
  { Session.initial with
    objects := #[.tuple [], .list [.text "B", .text "A", .text "B", .text "C"],
      .dict [(.text "A", .null), (.text "B", .int 7), (.text "Z", .int 1)]]
    containers := #[⟨strict, [("A", .int 3)], []⟩] }

/-- A lenient container leaves the key out that goes nowhere, a strict one names it. -/
theorem declaring_declared :
    (buildDependencies 0 (.object 1) (.object 2) (declaring false)).1 = .ok (.object 3) ∧
    (buildDependencies 0 (.object 1) (.object 2) (declaring false)).2.objects[3]? =
      some (.dependencies [(.text "B", .int 7), (.text "A", .int 3)]) ∧
    (buildDependencies 0 (.object 1) (.object 2) (declaring true)).1 =
      .error (.unregistered "'C'") := by
  have hdeclared (strict : Bool) :=
    @buildDependencies_declared (declaring strict) 0 ⟨strict, [("A", .int 3)], []⟩ (.object 1)
      (.object 2) ["B", "A", "B", "C"]
      [(.text "A", .null), (.text "B", .int 7), (.text "Z", .int 1)] rfl rfl rfl
  rw [(hdeclared false).1, (hdeclared true).1]
  exact ⟨rfl, rfl, rfl⟩

end Run

end Registrar
