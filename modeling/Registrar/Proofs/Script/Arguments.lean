import Registrar.Proofs.Container.Passing
import Registrar.Proofs.Script.Invoking
import Registrar.Proofs.Signature.Exact

/-! # What becomes of the arguments of a call

A call gives its override bag by position or by name, and it makes no difference how. Its other
arguments get to the implementation as they are, or the call is refused; but a named argument with
the name of the parameter that receives the dependency set gives way to the set.
-/

namespace Registrar

open Signature

namespace Signature

variable {α : Type}

section

variable {parameter : Parameter α} {rest : Signature α} {positions : List α}
  {names : List (String × α)} {bound : List (String × Argument α)}

/-- What a parameter leaves to the rest is taken, if the rest takes all it is given. -/
theorem taken_of_rest {argument : Argument α}
    (hrest : ∀ {bound}, bind? rest positions names = some bound → ∀ entry ∈ names,
      ∃ other ∈ rest, other.kind = .keywords ∨ other.kind.isNamed = true ∧ other.name = entry.1)
    (h : (bind? rest positions names).map ((parameter.name, argument) :: ·) = some bound) :
    ∀ entry ∈ names, ∃ other ∈ parameter :: rest,
      other.kind = .keywords ∨ other.kind.isNamed = true ∧ other.name = entry.1 := by
  obtain ⟨more, hmore, -⟩ := Option.map_eq_some_iff.mp h
  intro entry hentry
  obtain ⟨other, hother, htakes⟩ := hrest hmore entry hentry
  exact ⟨other, List.mem_cons_of_mem _ hother, htakes⟩

/-- What a parameter takes by name has its own name, and the rest takes all the others. -/
theorem taken_by_name
    (hrest : ∀ {names bound}, bind? rest positions names = some bound → ∀ entry ∈ names,
      ∃ other ∈ rest, other.kind = .keywords ∨ other.kind.isNamed = true ∧ other.name = entry.1)
    (h : (match (if parameter.kind.isNamed then givenBy parameter.name names else none) with
      | some value => (bind? rest positions (besides parameter.name names)).map
          ((parameter.name, .one value) :: ·)
      | none => parameter.default?.bind fun value => (bind? rest positions names).map
          ((parameter.name, .one value) :: ·)) = some bound) :
    ∀ entry ∈ names, ∃ other ∈ parameter :: rest,
      other.kind = .keywords ∨ other.kind.isNamed = true ∧ other.name = entry.1 := by
  intro entry hentry
  split at h
  · next hgiven =>
    by_cases hname : entry.1 = parameter.name
    · have hnamed : parameter.kind.isNamed = true := by
        by_contra hnot
        rw [if_neg hnot] at hgiven
        cases hgiven
      exact ⟨parameter, List.mem_cons_self, .inr ⟨hnamed, hname.symm⟩⟩
    · exact taken_of_rest hrest h entry (List.mem_filter.mpr ⟨hentry, by simpa using hname⟩)
  · obtain ⟨value, -, h⟩ := Option.bind_eq_some_iff.mp h
    exact taken_of_rest hrest h entry hentry

end

/-- Every name a call gives is taken by a parameter of that name, or by the one for the names that are
left. -/
theorem taken_of_bind? {signature : Signature α} {positions : List α} {names : List (String × α)}
    {bound : List (String × Argument α)} (h : bind? signature positions names = some bound) :
    ∀ entry ∈ names, ∃ parameter ∈ signature,
      parameter.kind = .keywords ∨ parameter.kind.isNamed = true ∧ parameter.name = entry.1 := by
  induction signature generalizing positions names bound with
  | nil =>
    cases positions <;> cases names <;> simp_all [bind?]
  | cons parameter rest ih =>
    cases hkind : parameter.kind with
    | keywords => exact fun entry _ => ⟨parameter, List.mem_cons_self, .inl hkind⟩
    | variadic =>
      simp only [bind?, hkind] at h
      exact taken_of_rest ih h
    | named =>
      obtain ⟨name, kind, default?⟩ := parameter
      subst hkind
      cases positions <;> exact taken_by_name ih h
    | positionalOnly | positional =>
      cases positions with
      | nil =>
        rw [bind?_without (by simp [hkind])] at h
        exact taken_by_name ih h
      | cons value positions =>
        rw [bind?_with (by simp [hkind, ParameterKind.isPositional])] at h
        split at h
        · cases h
        · exact taken_of_rest ih h

end Signature

theorem Run.ofExcept_bind {α β : Type} (value : α) (next : α → Run β) :
    (Run.ofExcept (.ok value) >>= next) = next value := pure_bind value next

theorem Run.bag_eq_error {session : Session} {overrides : Value}
    (h : session.objects.bag? overrides = none) :
    Run.bag overrides session = (.error .missingOperation, session) := by
  unfold Run.bag
  rw [Run.bind_apply, Run.objects_apply]
  dsimp only
  rw [h]
  rfl

namespace FunctionItem

variable {session : Session} {item : FunctionItem} {hidden : DependencyParameter}
  {positions positions' : List Value} {names names' : List (String × Value)}

theorem givesName_besides {name : String} (h : name ≠ receiverName) :
    givesName (besides name names) receiverName = givesName names receiverName := by
  unfold givesName besides
  rw [List.any_filter]
  congr 1
  funext entry
  by_cases hentry : entry.1 = receiverName <;> simp [hentry, h.symm]

/-- Only the bag and the arguments besides it matter. -/
theorem passes_congr (hhidden : item.injection.parameter? = some hidden)
    (hreceiver : givesName names receiverName = givesName names' receiverName)
    (htake : item.takeBag hidden.position positions names =
      item.takeBag hidden.position positions' names') :
    item.passes positions names = item.passes positions' names' := by
  unfold passes
  rw [hreceiver, hhidden]
  dsimp only
  rw [htake]

/-- The bag is named, or the position after those of the implementation. -/
theorem passes_bag {bag : Value} (hhidden : item.injection.parameter? = some hidden)
    (hpositions : positions.length = hidden.position) (hnames : besides bagName names' = names)
    (hbag : (givenBy bagName names').getD .null = bag) :
    item.passes (positions ++ [bag]) names = item.passes positions names' := by
  subst hnames
  refine passes_congr hhidden (givesName_besides (by decide)) ?_
  have hnone : givenBy bagName (besides bagName names') = none := by simp [givenBy, besides]
  rw [takeBag_named (Nat.le_of_eq hpositions), ← hpositions, takeBag_position, hnone, hbag,
    Option.getD_none, if_pos rfl, besides_of_givenBy_eq_none hnone]

/-- Arguments without a place are refused before anything else happens. -/
theorem passes_refused (hhidden : item.injection.parameter? = some hidden)
    (h : hidden.position + 1 < positions.length ∨ positions.length = hidden.position + 1 ∧
      (givenBy bagName names).getD .null ≠ .null) (session : Session) :
    ∃ fault, fault.refusesArguments = true ∧
      item.passes positions names session = (.error fault, session) := by
  by_cases hreceiver : givesName names receiverName = true
  · refine ⟨.mistyped, rfl, ?_⟩
    unfold passes
    rw [if_pos hreceiver]
    rfl
  · obtain ⟨fault, hrefuses, htake⟩ : ∃ fault, fault.refusesArguments = true ∧
        item.takeBag hidden.position positions names = .error fault := by
      obtain hmany | ⟨hlength, hnamed⟩ := h
      · exact ⟨_, rfl, takeBag_tooMany hmany⟩
      · obtain ⟨front, bag, rfl⟩ : ∃ front bag, positions = front ++ [bag] := by
          obtain rfl | ⟨front, bag, rfl⟩ := List.eq_nil_or_concat' positions
          · simp at hlength
          · exact ⟨front, bag, rfl⟩
        have hposition : hidden.position = front.length := by simpa using hlength.symm
        exact ⟨_, rfl, by rw [hposition, takeBag_position, if_neg hnamed]⟩
    refine ⟨fault, hrefuses, ?_⟩
    unfold passes
    rw [if_neg hreceiver, hhidden]
    dsimp only
    rw [htake]
    rfl

/-- What is left of the arguments of a call when its bag is taken out. -/
theorem takeBag_ok {position : Nat} {arguments : Arguments}
    (h : item.takeBag position positions names = .ok arguments) :
    positions.length ≤ position + 1 ∧ arguments.positions = positions.take position ∧
      arguments.names = besides bagName names ∧
      (∀ value, positions[position]? = some value → value = arguments.overrides) ∧
      ∀ value, givenBy bagName names = some value → value = arguments.overrides ∨ value = .null := by
  by_cases hmany : position + 1 < positions.length
  · rw [takeBag_tooMany hmany] at h
    cases h
  by_cases hfew : positions.length ≤ position
  · rw [takeBag_named hfew] at h
    cases h
    refine ⟨by omega, (List.take_of_length_le hfew).symm, rfl, fun value hvalue => ?_,
      fun value hvalue => .inl (by rw [hvalue, Option.getD_some])⟩
    rw [List.getElem?_eq_none hfew] at hvalue
    cases hvalue
  · obtain rfl | ⟨front, bag, rfl⟩ := List.eq_nil_or_concat' positions
    · exact absurd (Nat.zero_le _) hfew
    · obtain rfl : position = front.length := by
        rw [List.length_append, List.length_singleton] at hmany hfew
        omega
      rw [takeBag_position] at h
      split at h
      · next hnull =>
        cases h
        refine ⟨by simp, by simp, rfl, fun value hvalue => by simpa using hvalue.symm,
          fun value hvalue => .inr ?_⟩
        rwa [hvalue, Option.getD_some] at hnull
      · cases h

/-- A function item fails as it is, or passes on what is left of the arguments and a dependency set
that is built afresh for the bag. -/
theorem passes_cases (hhidden : item.injection.parameter? = some hidden) (positions : List Value)
    (names : List (String × Value)) (session : Session) :
    (∃ fault, item.passes positions names session = (.error fault, session)) ∨
    ∃ arguments bag entries set after,
      item.takeBag hidden.position positions names = .ok arguments ∧
      session.objects.bag? arguments.overrides = some bag ∧
      session.afresh item.container item.dependencies bag = .ok entries ∧
      after.objects.object? set = some (.dependencies entries) ∧
      (∀ other object, session.objects.object? other = some object →
        after.objects.object? other = some object) ∧
      item.passes positions names session = (.ok (if hidden.positionalOnly then
          (arguments.positions ++ [set], arguments.names)
        else (arguments.positions,
          Entries.put (· == ·) arguments.names hidden.name set)), after) := by
  by_cases hreceiver : givesName names receiverName = true
  · refine .inl ⟨.mistyped, ?_⟩
    unfold passes
    rw [if_pos hreceiver]
    rfl
  unfold passes
  rw [if_neg hreceiver, hhidden]
  dsimp only
  cases htake : item.takeBag hidden.position positions names with
  | error fault => exact .inl ⟨fault, rfl⟩
  | ok arguments =>
    rw [Run.ofExcept_bind, Run.bind_apply]
    cases hbag : session.objects.bag? arguments.overrides with
    | none =>
      rw [Run.bag_eq_error hbag]
      exact .inl ⟨.missingOperation, rfl⟩
    | some bag =>
      rw [Run.bag_apply hbag]
      dsimp only
      rw [Run.bind_apply, Run.dependencySet_apply]
      cases hentries : session.afresh item.container item.dependencies bag with
      | error fault => exact .inl ⟨fault, rfl⟩
      | ok entries =>
        refine .inr ⟨arguments, bag, entries, _,
          { session with objects := (session.objects.create (.dependencies entries)).2 }, rfl, hbag,
          hentries, Store.object?_create _ _, fun _ _ => Session.object?_push, ?_⟩
        cases hidden.positionalOnly <;> rfl

end FunctionItem

/-! ## Names -/

namespace Entries

variable {ν : Type} {entries : List (String × ν)} {name : String} {value : ν}

/-- What is under other names stays when a value is put under one, and nothing else comes of it. -/
theorem mem_put {entry : String × ν} (hdistinct : (entries.map Prod.fst).Nodup) :
    entry ∈ put (· == ·) entries name value ↔
      entry = (name, value) ∨ entry ∈ entries ∧ entry.1 ≠ name := by
  induction entries with
  | nil => simp [put]
  | cons first entries ih =>
    rw [List.map_cons, List.nodup_cons] at hdistinct
    obtain ⟨hfresh, hdistinct⟩ := hdistinct
    by_cases hname : first.1 = name
    · have hothers (entry : String × ν) (hentry : entry ∈ entries) : entry.1 ≠ name := fun hsame =>
        hfresh (List.mem_map.mpr ⟨entry, hentry, hsame.trans hname.symm⟩)
      simp only [put, hname, beq_self_eq_true, if_true, List.mem_cons]
      constructor
      · rintro (rfl | hentry)
        · exact .inl rfl
        · exact .inr ⟨.inr hentry, hothers entry hentry⟩
      · rintro (rfl | ⟨rfl | hentry, hother⟩)
        · exact .inl rfl
        · exact absurd hname hother
        · exact .inr hentry
    · simp only [put, beq_iff_eq, hname, if_false, List.mem_cons, ih hdistinct]
      constructor
      · rintro (rfl | rfl | ⟨hentry, hother⟩)
        · exact .inr ⟨.inl rfl, hname⟩
        · exact .inl rfl
        · exact .inr ⟨.inr hentry, hother⟩
      · rintro (rfl | ⟨rfl | hentry, hother⟩)
        · exact .inr (.inl rfl)
        · exact .inl rfl
        · exact .inr (.inr ⟨hentry, hother⟩)

end Entries

/-- What becomes of the arguments of a call: each of them is the override bag, which may also be null
where there is none, or it is passed on as it is, and besides them only the dependency set is. But what
has the name of the parameter that receives the set gives way to it, unless that parameter takes
positions only. -/
structure PassesOn (hidden : DependencyParameter) (overrides set : Value) (positions : List Value)
    (names : List (String × Value)) (passed : List Value × List (String × Value)) : Prop where
  position : ∀ i value, positions[i]? = some value →
    passed.1[i]? = some value ∧ i < hidden.position ∨ i = hidden.position ∧ value = overrides
  name : ∀ name value, (name, value) ∈ names → (name, value) ∈ passed.2 ∨
    name = bagName ∧ (value = overrides ∨ value = .null) ∨
    name = hidden.name ∧ hidden.positionalOnly = false
  onlyPositions : ∀ i value, passed.1[i]? = some value →
    positions[i]? = some value ∨ value = set ∧ hidden.positionalOnly = true ∧ i + 1 = passed.1.length
  onlyNames : ∀ name value, (name, value) ∈ passed.2 → (name, value) ∈ names ∨
    (name, value) = (hidden.name, set)
  receives : if hidden.positionalOnly then passed.1.getLast? = some set
    else ∀ value, (hidden.name, value) ∈ passed.2 ↔ value = set

namespace FunctionItem

variable {session : Session} {item : FunctionItem} {hidden : DependencyParameter}
  {positions : List Value} {names : List (String × Value)}

theorem passesOn_of_takeBag {arguments : Arguments} (set : Value)
    (h : item.takeBag hidden.position positions names = .ok arguments)
    (hdistinct : (names.map Prod.fst).Nodup) :
    PassesOn hidden arguments.overrides set positions names (if hidden.positionalOnly then
        (arguments.positions ++ [set], arguments.names)
      else (arguments.positions, Entries.put (· == ·) arguments.names hidden.name set)) := by
  obtain ⟨hlength, hpositions, hnames, hposition, hnamed⟩ := takeBag_ok h
  have hothers : (arguments.names.map Prod.fst).Nodup := by
    rw [hnames]
    exact hdistinct.sublist (List.filter_sublist.map _)
  have hbesides (name : String) (value : Value) :
      (name, value) ∈ arguments.names ↔ (name, value) ∈ names ∧ name ≠ bagName := by
    simp [hnames, besides]
  have hkept (i : Nat) (value : Value) (hvalue : positions[i]? = some value) :
      arguments.positions[i]? = some value ∧ i < hidden.position ∨
        i = hidden.position ∧ value = arguments.overrides := by
    have hlt : i < positions.length := (List.getElem?_eq_some_iff.mp hvalue).1
    by_cases hi : i < hidden.position
    · rw [hpositions, List.getElem?_take_of_lt hi]
      exact .inl ⟨hvalue, hi⟩
    · obtain rfl : i = hidden.position := by omega
      exact .inr ⟨rfl, hposition value hvalue⟩
  have honly (i : Nat) (value : Value) (hvalue : arguments.positions[i]? = some value) :
      positions[i]? = some value := by
    rw [hpositions, List.getElem?_take] at hvalue
    split at hvalue
    · exact hvalue
    · cases hvalue
  have hbag (value : Value) (hvalue : (bagName, value) ∈ names) :
      value = arguments.overrides ∨ value = .null :=
    hnamed value (givenBy_of_mem hdistinct hvalue)
  cases hkind : hidden.positionalOnly with
  | true =>
    refine ⟨fun i value hvalue => ?_, fun name value hvalue => ?_, fun i value hvalue => ?_,
      fun name value hvalue => .inl ((hbesides name value).mp hvalue).1, by simp [hkind]⟩
    · refine (hkept i value hvalue).imp_left fun h => ⟨?_, h.2⟩
      exact (List.getElem?_append_left (List.getElem?_eq_some_iff.mp h.1).1).trans h.1
    · by_cases hname : name = bagName
      · exact .inr (.inl ⟨hname, hbag value (hname ▸ hvalue)⟩)
      · exact .inl ((hbesides name value).mpr ⟨hvalue, hname⟩)
    · by_cases hi : i < arguments.positions.length
      · exact .inl (honly i value ((List.getElem?_append_left hi).symm.trans hvalue))
      · rw [if_pos rfl, List.getElem?_append_right (Nat.le_of_not_lt hi)] at hvalue
        have hlast : i - arguments.positions.length = 0 := by
          simpa using (List.getElem?_eq_some_iff.mp hvalue).1
        rw [hlast] at hvalue
        refine .inr ⟨(Option.some.inj hvalue).symm, hkind, ?_⟩
        simp
        omega
  | false =>
    have hmem (entry : String × Value) :
        entry ∈ Entries.put (· == ·) arguments.names hidden.name set ↔
          entry = (hidden.name, set) ∨ entry ∈ arguments.names ∧ entry.1 ≠ hidden.name :=
      Entries.mem_put hothers
    refine ⟨hkept, fun name value hvalue => ?_, fun i value hvalue => .inl (honly i value hvalue),
      fun name value hvalue => ?_, ?_⟩
    · by_cases hname : name = bagName
      · exact .inr (.inl ⟨hname, hbag value (hname ▸ hvalue)⟩)
      · by_cases hslot : name = hidden.name
        · exact .inr (.inr ⟨hslot, hkind⟩)
        · exact .inl ((hmem _).mpr (.inr ⟨(hbesides name value).mpr ⟨hvalue, hname⟩, hslot⟩))
    · obtain hset | ⟨hentry, -⟩ := (hmem _).mp hvalue
      · exact .inr hset
      · exact .inl ((hbesides name value).mp hentry).1
    · rw [hkind, if_neg Bool.false_ne_true]
      intro value
      simp [hmem]

end FunctionItem

/-! ## Calls -/

namespace Run

variable {session : Session} {value : Value} {item : FunctionItem} {hidden : DependencyParameter}
  {positions : List Value} {names : List (String × Value)}

/-- Calling a function item calls its implementation with what the item passes on. -/
theorem callOnce_passes (hitem : session.objects.object? value = some (.function item))
    (call : Caller) (positions : List Value) (names : List (String × Value)) :
    callOnce call value positions names session =
      match item.passes positions names session with
      | (.ok passed, after) => call item.implementation passed.1 passed.2 after
      | (.error fault, after) => (.error fault, after) := by
  rw [callOnce_function hitem, FunctionItem.invoke_eq, bind_apply]
  rcases item.passes positions names session with ⟨_ | _, _⟩ <;> rfl

/-- A callable is not entered with a name that none of its parameters takes. -/
theorem callOnce_untaken {callable : Callable} {after : Session}
    (himplementation : after.objects.object? item.implementation = some (.callable callable))
    (hwell : callable.signature.WellFormed)
    (hhidden : callable.signature.dependencyParameter = .ok hidden)
    (honly : hidden.positionalOnly = true)
    (hclosed : ∀ parameter ∈ callable.signature, parameter.kind ≠ .keywords)
    (hname : ∃ value, (hidden.name, value) ∈ names) (call : Caller) :
    callOnce call item.implementation positions names after = (.error .mistyped, after) := by
  rw [callOnce_callable himplementation]
  cases hbound : callable.signature.bind? positions names with
  | none => rfl
  | some bound =>
    obtain ⟨value, hvalue⟩ := hname
    obtain ⟨parameter, hparameter, htakes⟩ := taken_of_bind? hbound _ hvalue
    obtain ⟨hnamed, hsame⟩ := htakes.resolve_left (hclosed parameter hparameter)
    obtain ⟨leading, slot, trailing, hplaced⟩ := placed_of_dependencyParameter hwell hhidden
    have hslot : slot ∈ callable.signature := by simp [hplaced.parts]
    obtain rfl : parameter = slot := eq_of_name_eq hwell hparameter hslot (by rw [hsame, hplaced.hidden])
    rw [hplaced.positionalOnly hwell honly parameter (by simp)] at hnamed
    cases hnamed

/-- The bag of a call may be named, or be the position after those of the implementation: the call is
the same, down to the arguments and the dependency set the implementation is handed. A bag that is null
is no bag. And a call with a bag in either place, or with more positions, is refused before anything
is built. -/
theorem callOnce_channels (hitem : session.objects.object? value = some (.function item))
    (hhidden : item.injection.parameter? = some hidden) :
    (∀ positions names named bag, positions.length = hidden.position →
      besides bagName named = names → givenBy bagName named = some bag →
      item.passes (positions ++ [bag]) names session = item.passes positions named session ∧
      ∀ call, callOnce call value (positions ++ [bag]) names session =
        callOnce call value positions named session) ∧
    (∀ positions names, positions.length = hidden.position → givenBy bagName names = none →
      item.passes (positions ++ [.null]) names session = item.passes positions names session ∧
      ∀ call, callOnce call value (positions ++ [.null]) names session =
        callOnce call value positions names session) ∧
    ∀ positions names, (hidden.position + 1 < positions.length ∨
        positions.length = hidden.position + 1 ∧ ∃ bag, givenBy bagName names = some bag ∧ bag ≠ .null) →
      ∃ fault, fault.refusesArguments = true ∧
        ∀ call, callOnce call value positions names session = (.error fault, session) := by
  have hcalls {positions positions' : List Value} {names names' : List (String × Value)}
      (h : item.passes positions names = item.passes positions' names') :
      item.passes positions names session = item.passes positions' names' session ∧
        ∀ call, callOnce call value positions names session =
          callOnce call value positions' names' session := by
    refine ⟨by rw [h], fun call => ?_⟩
    rw [callOnce_passes hitem, callOnce_passes hitem, h]
  refine ⟨fun positions names named bag hpositions hnames hbag => ?_,
    fun positions names hpositions hnone => ?_, fun positions names h => ?_⟩
  · exact hcalls (FunctionItem.passes_bag hhidden hpositions hnames (by rw [hbag, Option.getD_some]))
  · exact hcalls (FunctionItem.passes_bag hhidden hpositions (besides_of_givenBy_eq_none hnone)
      (by rw [hnone, Option.getD_none]))
  · have hplace : hidden.position + 1 < positions.length ∨ positions.length = hidden.position + 1 ∧
        (givenBy bagName names).getD .null ≠ .null := by
      refine h.imp_right fun ⟨hlength, bag, hbag, hnull⟩ => ⟨hlength, ?_⟩
      rwa [hbag, Option.getD_some]
    obtain ⟨fault, hrefuses, hpasses⟩ := FunctionItem.passes_refused hhidden hplace session
    refine ⟨fault, hrefuses, fun call => ?_⟩
    rw [callOnce_passes hitem, hpasses]

/-- A session with a mapping that can be an override bag. -/
def overriding : Session :=
  { invoking with objects := invoking.objects.push (.dict [(.text "A", .int 7)]) }

/-- A bag by position, a bag by name, no bag, and one bag too many. -/
theorem overriding_channels :
    (callWithin 2 (.object 2) [.int 10, .int 11, .object 3] [] overriding =
        callWithin 2 (.object 2) [.int 10, .int 11] [("deps", .object 3)] overriding ∧
      (callWithin 2 (.object 2) [.int 10, .int 11, .object 3] [] overriding).1 = .ok (.object 4)) ∧
    callWithin 2 (.object 2) [.int 10, .int 11, .null] [] overriding =
      callWithin 2 (.object 2) [.int 10, .int 11] [] overriding ∧
    ∃ fault, fault.refusesArguments = true ∧
      callWithin 2 (.object 2) [.int 10, .int 11, .object 3] [("deps", .object 3)] overriding =
        (.error fault, overriding) := by
  obtain ⟨hsame, hnull, hrefused⟩ := @callOnce_channels overriding (.object 2) _ ⟨"set", 2, false⟩ rfl rfl
  obtain ⟨fault, hfault, hcall⟩ := hrefused [.int 10, .int 11, .object 3] [("deps", .object 3)]
    (.inr ⟨rfl, .object 3, rfl, by decide⟩)
  exact ⟨⟨(hsame [.int 10, .int 11] [] [("deps", .object 3)] (.object 3) rfl rfl rfl).2 _, rfl⟩,
    (hnull [.int 10, .int 11] [] rfl rfl).2 _, fault, hfault, hcall _⟩

/-- No argument of a call is lost, but for a name that gives way to the dependency set: a call fails
without entering the implementation, or each argument is passed on or is the bag that the dependency
set is built for. Arguments without a place are refused, and so is the name of a parameter that takes
the set by position only. -/
theorem callOnce_keepsArguments (hitem : session.objects.object? value = some (.function item))
    (hhidden : item.injection.parameter? = some hidden)
    (hdistinct : (names.map Prod.fst).Nodup) :
    ((∃ fault, ∀ call, callOnce call value positions names session = (.error fault, session)) ∨
      ∃ passed after overrides bag entries set,
        (∀ call, callOnce call value positions names session =
          call item.implementation passed.1 passed.2 after) ∧
        session.objects.bag? overrides = some bag ∧
        session.afresh item.container item.dependencies bag = .ok entries ∧
        after.objects.object? set = some (.dependencies entries) ∧
        PassesOn hidden overrides set positions names passed ∧
        ∀ callable, session.objects.object? item.implementation = some (.callable callable) →
          callable.signature.WellFormed → callable.signature.dependencyParameter = .ok hidden →
          hidden.positionalOnly = true →
          (∀ parameter ∈ callable.signature, parameter.kind ≠ .keywords) →
          hidden.name ≠ bagName → (∃ value, (hidden.name, value) ∈ names) →
          ∀ call, callOnce (callOnce call) value positions names session =
            (.error .mistyped, after)) ∧
    ((hidden.position + 1 < positions.length ∨
        positions.length = hidden.position + 1 ∧ ∃ bag, (bagName, bag) ∈ names ∧ bag ≠ .null) →
      ∃ fault, fault.refusesArguments = true ∧
        ∀ call, callOnce call value positions names session = (.error fault, session)) := by
  constructor
  · obtain ⟨fault, hfault⟩ | ⟨arguments, bag, entries, set, after, htake, hbag, hentries, hset, hkept,
      hpasses⟩ := FunctionItem.passes_cases hhidden positions names session
    · refine .inl ⟨fault, fun call => ?_⟩
      rw [callOnce_passes hitem, hfault]
    · have hcall (call : Caller) := callOnce_passes hitem call positions names
      simp only [hpasses] at hcall
      have hpassesOn := FunctionItem.passesOn_of_takeBag set htake hdistinct
      refine .inr ⟨_, after, arguments.overrides, bag, entries, set, hcall, hbag, hentries, hset,
        hpassesOn, fun callable himplementation hwell hplace honly hclosed hname hgiven call => ?_⟩
      obtain ⟨given, hgiven⟩ := hgiven
      rw [hcall]
      refine callOnce_untaken (hkept _ _ himplementation) hwell hplace honly hclosed ⟨given, ?_⟩ call
      obtain hpassed | ⟨hsame, -⟩ | ⟨-, hnot⟩ := hpassesOn.name _ _ hgiven
      · exact hpassed
      · exact absurd hsame hname
      · rw [honly] at hnot
        cases hnot
  · intro h
    have hplace : hidden.position + 1 < positions.length ∨ positions.length = hidden.position + 1 ∧
        (givenBy bagName names).getD .null ≠ .null := by
      refine h.imp_right fun ⟨hlength, bag, hbag, hnull⟩ => ⟨hlength, ?_⟩
      rwa [givenBy_of_mem hdistinct hbag, Option.getD_some]
    obtain ⟨fault, hrefuses, hpasses⟩ := FunctionItem.passes_refused hhidden hplace session
    refine ⟨fault, hrefuses, fun call => ?_⟩
    rw [callOnce_passes hitem, hpasses]

/-- A position and two names, of which one is left for the parameter that takes the rest. -/
theorem invoking_keepsArguments :
    ∃ passed after overrides set,
      (∀ call, callOnce call (.object 2) [.int 10] [("k", .int 5), ("x", .int 7)] invoking =
        call (.object 1) passed.1 passed.2 after) ∧
      PassesOn ⟨"set", 2, false⟩ overrides set [.int 10] [("k", .int 5), ("x", .int 7)] passed := by
  obtain ⟨hreached, -⟩ := @callOnce_keepsArguments invoking (.object 2) _ ⟨"set", 2, false⟩ [.int 10]
    [("k", .int 5), ("x", .int 7)] rfl rfl (by decide)
  obtain ⟨fault, hfault⟩ | ⟨passed, after, overrides, -, -, set, hcall, -, -, -, hpasses, -⟩ := hreached
  · exact nomatch hfault fun _ _ _ => pure .null
  · exact ⟨passed, after, overrides, set, hcall, hpasses⟩

end Run

end Registrar
