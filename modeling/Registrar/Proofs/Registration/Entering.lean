import Registrar.Proofs.Registration.Storing
import Registrar.Proofs.Signature.Hiding
import Registrar.Registration.Execution

/-! # Calls of entry points

A call of an entry point binds its arguments to a key, dependencies and an implementation. With an
implementation it stores an item; without one it returns a decorator, which stores the item when it
is applied.
-/

namespace Registrar

namespace Signature

variable {α : Type} {name : String} {default? : Option α} {rest : Signature α}
  {positions : List α} {names : List (String × α)} {bound : List (String × Argument α)}

/-- How a parameter takes one argument: a position, its name, or its default. -/
inductive Takes (name : String) (default? : Option α) (value : α) :
    List α → List (String × α) → List α → List (String × α) → Prop
  | position {positions : List α} {names : List (String × α)} :
      Takes name default? value (value :: positions) names positions names
  | byName {names : List (String × α)} : givenBy name names = some value →
      Takes name default? value [] names [] (besides name names)
  | byDefault {names : List (String × α)} : default? = some value →
      Takes name default? value [] names [] names

theorem bind?_positional
    (h : bind? (⟨name, .positional, default?⟩ :: rest) positions names = some bound) :
    ∃ value positions' names' more, bound = (name, .one value) :: more ∧
      Takes name default? value positions names positions' names' ∧
      bind? rest positions' names' = some more := by
  cases positions with
  | nil =>
    simp only [bind?, ParameterKind.isNamed, if_true] at h
    cases hgiven : givenBy name names with
    | some value =>
      rw [hgiven] at h
      obtain ⟨more, hmore, rfl⟩ := Option.map_eq_some_iff.mp h
      exact ⟨value, _, _, more, rfl, .byName hgiven, hmore⟩
    | none =>
      rw [hgiven] at h
      obtain ⟨value, hvalue, h⟩ := Option.bind_eq_some_iff.mp h
      obtain ⟨more, hmore, rfl⟩ := Option.map_eq_some_iff.mp h
      exact ⟨value, _, _, more, rfl, .byDefault hvalue, hmore⟩
  | cons value positions =>
    simp only [bind?] at h
    split at h
    · cases h
    · obtain ⟨more, hmore, rfl⟩ := Option.map_eq_some_iff.mp h
      exact ⟨value, _, _, more, rfl, .position, hmore⟩

theorem bind?_nil (h : bind? [] positions names = some bound) :
    bound = [] ∧ positions = [] ∧ names = [] := by
  cases positions <;> cases names <;> simp_all [bind?]

theorem length_besides {value : α} (hdistinct : (names.map Prod.fst).Nodup)
    (h : givenBy name names = some value) : (besides name names).length + 1 = names.length := by
  induction names with
  | nil => cases h
  | cons entry names ih =>
    obtain ⟨hfresh, hdistinct⟩ := List.nodup_cons.mp hdistinct
    unfold besides givenBy at *
    by_cases hname : entry.1 = name
    · have hrest : names.filter (fun entry => entry.1 != name) = names := by
        refine List.filter_eq_self.mpr fun other hother => ?_
        rw [bne_iff_ne]
        rintro rfl
        exact hfresh (hname ▸ List.mem_map_of_mem hother)
      rw [List.filter_cons_of_neg (by simp [hname]), hrest, List.length_cons]
    · rw [List.find?_cons_of_neg (by simpa using hname)] at h
      rw [List.filter_cons_of_pos (by simpa using hname), List.length_cons, ih hdistinct h,
        List.length_cons]

theorem Takes.distinct {value : α} {positions' : List α} {names' : List (String × α)}
    (h : Takes name default? value positions names positions' names')
    (hdistinct : (names.map Prod.fst).Nodup) : (names'.map Prod.fst).Nodup := by
  cases h with
  | position | byDefault => exact hdistinct
  | byName => exact hdistinct.sublist (List.filter_sublist.map _)

/-- A parameter without a default uses up one argument. -/
theorem Takes.count {value : α} {positions' : List α} {names' : List (String × α)}
    (h : Takes name none value positions names positions' names')
    (hdistinct : (names.map Prod.fst).Nodup) :
    positions'.length + names'.length + 1 = positions.length + names.length := by
  cases h with
  | position => rw [List.length_cons]; omega
  | byName hgiven => simpa using length_besides hdistinct hgiven
  | byDefault h => cases h

end Signature

namespace EntryCall

open Session Run

variable {index : Nat} {before : Session} {kind : ItemKind} {key : String}
  {positions : List Value} {names : List (String × Value)}

/-- The first position, or else the name "name", is a key. -/
def GivesKey (key : String) (positions : List Value) (names : List (String × Value)) : Prop :=
  positions.head? = some (.text key) ∨ positions = [] ∧ ("name", .text key) ∈ names

theorem GivesKey.taken {value : Value} {positions' : List Value} {names' : List (String × Value)}
    (h : GivesKey key positions names) (hdistinct : (names.map Prod.fst).Nodup)
    (htakes : Signature.Takes "name" none value positions names positions' names') :
    value = .text key := by
  cases htakes with
  | position =>
    rcases h with h | ⟨h, -⟩
    · exact Option.some.inj h
    · cases h
  | byName hgiven =>
    rcases h with h | ⟨-, h⟩
    · cases h
    · rw [Signature.givenBy_of_mem hdistinct h] at hgiven
      exact (Option.some.inj hgiven).symm
  | byDefault hdefault => cases hdefault

/-- What a call of an entry point comes to: it does not bind, it registers a configuration, or it
enters with an implementation, which is none if just a key and dependencies are given. -/
inductive Entered (index : Nat) (kind : ItemKind) (key : String) (count : Nat) : Run Value → Prop
  | unbound : Entered index kind key count (throw .mistyped)
  | config (config : Value) : kind = .config →
      Entered index kind key count (Run.registerConfig index (.text key) config)
  | entered (dependencies implementation : Value) : kind ≠ .config →
      (count = 2 → implementation = .null) →
      Entered index kind key count
        (Run.enter ⟨index, functionKind? kind, .text key, dependencies⟩ implementation)

theorem bind?_config {bound : List (String × Argument Value)}
    (hkey : GivesKey key positions names) (hdistinct : (names.map Prod.fst).Nodup)
    (h : (signature .config).bind? positions names = some bound) :
    ∃ config, bound = [("name", .one (.text key)), ("config", .one config)] := by
  obtain ⟨name, positions', names', more, rfl, hname, h⟩ := Signature.bind?_positional h
  obtain ⟨config, _, _, _, rfl, -, h⟩ := Signature.bind?_positional h
  obtain ⟨rfl, -, -⟩ := Signature.bind?_nil h
  obtain rfl := hkey.taken hdistinct hname
  exact ⟨config, rfl⟩

theorem bind?_implementation {parameter : String} {bound : List (String × Argument Value)}
    (hkey : GivesKey key positions names) (hdistinct : (names.map Prod.fst).Nodup)
    (h : Signature.bind? [⟨"name", .positional, none⟩, ⟨"dependencies", .positional, none⟩,
      ⟨parameter, .positional, some .null⟩] positions names = some bound) :
    ∃ dependencies implementation, bound = [("name", .one (.text key)),
        ("dependencies", .one dependencies), (parameter, .one implementation)] ∧
      (positions.length + names.length = 2 → implementation = .null) := by
  obtain ⟨name, positions₁, names₁, more, rfl, hname, h⟩ := Signature.bind?_positional h
  obtain ⟨dependencies, positions₂, names₂, _, rfl, hdependencies, h⟩ :=
    Signature.bind?_positional h
  obtain ⟨implementation, _, _, _, rfl, himplementation, h⟩ := Signature.bind?_positional h
  obtain ⟨rfl, -, -⟩ := Signature.bind?_nil h
  obtain rfl := hkey.taken hdistinct hname
  refine ⟨dependencies, implementation, rfl, fun hcount => ?_⟩
  have hfirst := hname.count hdistinct
  have hsecond := hdependencies.count (hname.distinct hdistinct)
  cases himplementation with
  | position => rw [List.length_cons] at hsecond; omega
  | byName hgiven =>
    have hthird := Signature.length_besides
      (hdependencies.distinct (hname.distinct hdistinct)) hgiven
    omega
  | byDefault hdefault => exact (Option.some.inj hdefault).symm

/-- Binding the arguments of an entry point that takes an implementation. -/
theorem bind?_of_ne_config {bound : List (String × Argument Value)} (hkind : kind ≠ .config)
    (hkey : GivesKey key positions names) (hdistinct : (names.map Prod.fst).Nodup)
    (h : (signature kind).bind? positions names = some bound) :
    ∃ parameter dependencies implementation, bound = [("name", .one (.text key)),
        ("dependencies", .one dependencies), (parameter, .one implementation)] ∧
      (positions.length + names.length = 2 → implementation = .null) := by
  cases kind with
  | config => exact absurd rfl hkind
  | component | function | hook => exact ⟨_, bind?_implementation hkey hdistinct h⟩

theorem enter_entered (hkey : GivesKey key positions names) :
    Entered index kind key (positions.length + names.length)
      (enter index kind positions names) := by
  unfold enter
  split
  · next hdistinct =>
    cases hbound : (signature kind).bind? positions names with
    | none => exact .unbound
    | some bound =>
      by_cases hkind : kind = .config
      · subst hkind
        obtain ⟨config, rfl⟩ := bind?_config hkey hdistinct hbound
        exact .config config rfl
      · obtain ⟨parameter, dependencies, implementation, rfl, hcount⟩ :=
          bind?_of_ne_config hkind hkey hdistinct hbound
        exact .entered dependencies implementation hkind hcount
  · exact .unbound

/-- A value is a decorator that registers a kind of item under a key. -/
def Pends (index : Nat) (kind : ItemKind) (key : String) (value : Value) (session : Session) :
    Prop :=
  ∃ registration, session.objects.object? value = some (.pending registration) ∧
    registration.container = index ∧ IsEntry kind registration ∧ registration.name = .text key

theorem Pends.of_stores {value : Value} {entries : List (String × ItemKind)} {after : Session}
    (h : Pends index kind key value before) (hstores : before.Stores index entries after) :
    Pends index kind key value after := by
  obtain ⟨registration, hvalue, hrest⟩ := h
  obtain ⟨_, hpath, -⟩ := hstores
  exact ⟨registration, hpath.pending hvalue, hrest⟩

/-- Without an implementation there is a decorator, and else an item. -/
theorem Entered.gives {count : Nat} {run : Run Value} (h : Entered index kind key count run)
    (hready : before.Ready index) :
    Gives index before run fun value after entries =>
      (Pends index kind key value after ∧ entries = []) ∨
        (¬(kind ≠ .config ∧ count = 2) ∧ after.objects.metadata? value = some (kind, key) ∧
          entries = [(key, kind)]) := by
  cases h with
  | unbound => exact gives_throw _
  | config config hkind =>
    subst hkind
    refine (request_gives ⟨index, .text key, .config config⟩ hready).mono ?_
    exact fun value after entries h => .inr ⟨fun h => h.1 rfl, h⟩
  | entered dependencies implementation hkind hcount =>
    have hentry : IsEntry kind ⟨index, functionKind? kind, .text key, dependencies⟩ := ⟨hkind, rfl⟩
    unfold Run.enter
    split
    · refine (create_gives hready ?_).mono fun value after entries h => .inl ⟨⟨_, h.1, ?_⟩, h.2⟩
      · rintro registration ⟨⟩
        exact hready.exist
      · exact ⟨rfl, hentry, rfl⟩
    · next himplementation =>
      refine (complete_gives hready hentry rfl implementation).mono ?_
      exact fun value after entries h => .inr ⟨fun h => himplementation (hcount h.2), h⟩

end EntryCall

end Registrar
