import Mathlib.Data.List.Basic
import Registrar.Container.Calling

/-! # Hiding a parameter

The signature callers see has no parameter for the dependency set, and one for the override bag
instead. What a call binds by that signature is what the implementation binds once the dependency
set is among its arguments.
-/

namespace Registrar

namespace Signature

variable {α : Type} {absent set : α} {names : List (String × α)}

theorem givenBy_besides {name other : String} (h : name ≠ other) :
    givenBy name (besides other names) = givenBy name names := by
  unfold givenBy besides
  rw [List.find?_filter]
  congr 2
  funext entry
  by_cases hentry : entry.1 = name <;> simp [hentry, h]

theorem givenBy_of_mem {name : String} {value : α} (hdistinct : (names.map Prod.fst).Nodup)
    (h : (name, value) ∈ names) : givenBy name names = some value := by
  induction names with
  | nil => cases h
  | cons entry names ih =>
    obtain ⟨hfresh, hdistinct⟩ := List.nodup_cons.mp hdistinct
    unfold givenBy at ih ⊢
    rcases List.mem_cons.mp h with rfl | hmem
    · simp
    · have hother : entry.1 ≠ name := by
        rintro rfl
        exact hfresh (List.mem_map.mpr ⟨_, hmem, rfl⟩)
      rw [List.find?_cons_of_neg (by simpa using hother)]
      exact ih hdistinct hmem

theorem givenBy_append_of_ne {name : String} {more : List (String × α)}
    (h : ∀ entry ∈ more, entry.1 ≠ name) : givenBy name (names ++ more) = givenBy name names := by
  have hnone : more.find? (fun entry => entry.1 == name) = none := by simpa using h
  unfold givenBy
  rw [List.find?_append, hnone, Option.or_none]

theorem besides_comm (name other : String) :
    besides name (besides other names) = besides other (besides name names) := by
  unfold besides
  rw [List.filter_filter, List.filter_filter]
  simp only [Bool.and_comm]

theorem besides_append_of_ne {name : String} {more : List (String × α)}
    (h : ∀ entry ∈ more, entry.1 ≠ name) :
    besides name (names ++ more) = besides name names ++ more := by
  have hmore : more.filter (·.1 != name) = more :=
    List.filter_eq_self.mpr fun entry hentry => by simpa using h entry hentry
  unfold besides
  rw [List.filter_append, hmore]

theorem besides_of_givenBy_eq_none {name : String} (h : givenBy name names = none) :
    besides name names = names := by
  unfold givenBy at h
  unfold besides
  exact List.filter_eq_self.mpr (by simpa using h)

/-! ## Steps of a binding -/

variable {parameter : Parameter α} {rest : Signature α}

/-- A parameter that takes one argument takes a name or its default when no position is left. -/
theorem bind?_without (h : parameter.kind ≠ .variadic ∧ parameter.kind ≠ .keywords) :
    bind? (parameter :: rest) [] names =
      match (if parameter.kind.isNamed then givenBy parameter.name names else none) with
      | some value => (bind? rest [] (besides parameter.name names)).map
          ((parameter.name, .one value) :: ·)
      | none => parameter.default?.bind fun value => (bind? rest [] names).map
          ((parameter.name, .one value) :: ·) := by
  cases hkind : parameter.kind <;> simp_all [bind?] <;> rfl

/-- A parameter that takes a position takes the first that is left. -/
theorem bind?_with {value : α} {positions : List α} (h : parameter.kind.isPositional = true) :
    bind? (parameter :: rest) (value :: positions) names =
      if parameter.kind.isNamed && (givenBy parameter.name names).isSome then none
      else (bind? rest positions names).map ((parameter.name, .one value) :: ·) := by
  cases hkind : parameter.kind <;>
    simp_all [bind?, ParameterKind.isPositional, ParameterKind.isNamed]

/-- A parameter for the names that are left takes all of them. -/
theorem bind?_keywords (h : parameter.kind = .keywords) :
    bind? [parameter] [] names = some [(parameter.name, .entries names)] := by
  simp [bind?, h]

/-! ## Parameters behind the positional ones -/

theorem withBag_cons (h : parameter.kind ≠ .keywords) :
    withBag absent (parameter :: rest) = parameter :: withBag absent rest := by
  cases rest with
  | nil => simp [withBag, h]
  | cons next rest => rfl

/-- The parameter for the override bag takes nothing else from a call. -/
theorem bind?_bag :
    (bind? (⟨bagName, .named, some absent⟩ :: rest) [] names).map (List.filter (·.1 != bagName)) =
      (bind? rest [] (besides bagName names)).map (List.filter (·.1 != bagName)) := by
  rw [bind?_without (by simp)]
  cases hgiven : givenBy bagName names with
  | none => simp [ParameterKind.isNamed, besides_of_givenBy_eq_none hgiven, Function.comp_def]
  | some value => simp [ParameterKind.isNamed, Function.comp_def]

variable (absent) in
/-- What a call binds besides the override bag is what it binds without it. -/
theorem bind?_withBag {signature : Signature α}
    (hkinds : ∀ parameter ∈ signature, parameter.kind = .named ∨ parameter.kind = .keywords)
    (hlast : signature.Pairwise fun parameter _ => parameter.kind ≠ .keywords)
    (hnames : ∀ parameter ∈ signature, parameter.name ≠ bagName) :
    (bind? (withBag absent signature) [] names).map (List.filter (·.1 != bagName)) =
      bind? signature [] (besides bagName names) := by
  induction signature generalizing names with
  | nil =>
    rw [withBag, bind?_bag]
    cases besides bagName names <;> rfl
  | cons parameter rest ih =>
    obtain ⟨hkind, hkinds⟩ := List.forall_mem_cons.mp hkinds
    obtain ⟨hname, hnames⟩ := List.forall_mem_cons.mp hnames
    obtain ⟨hfirst, hlast⟩ := List.pairwise_cons.mp hlast
    have hcons (argument : Argument α) (names : List (String × α)) :
        ((bind? (withBag absent rest) [] names).map ((parameter.name, argument) :: ·)).map
            (List.filter (·.1 != bagName)) =
          (bind? rest [] (besides bagName names)).map ((parameter.name, argument) :: ·) := by
      rw [← ih hkinds hlast hnames, Option.map_map, Option.map_map]
      congr 1
      funext bound
      simp [hname]
    obtain hkind | hkind := hkind
    · rw [withBag_cons (by simp [hkind]), bind?_without (by simp [hkind]),
        bind?_without (by simp [hkind]), givenBy_besides hname, besides_comm]
      split
      · exact hcons _ _
      · cases parameter.default? with
        | none => rfl
        | some value => exact hcons _ _
    · have hrest : rest = [] := List.eq_nil_iff_forall_not_mem.mpr fun next hnext =>
        hfirst next hnext hkind
      subst hrest
      simp [withBag, hkind, bind?_bag, bind?_keywords hkind, hname]

/-! ## Positional parameters -/

/-- What an implementation binds, if its callers bind this: the override bag is left out, and the
dependency set gets in at its position. -/
def handed (hidden : DependencyParameter) (set : α) (bound : List (String × Argument α)) :
    List (String × Argument α) :=
  let others := bound.filter (·.1 != bagName)
  others.take hidden.position ++ (hidden.name, .one set) :: others.drop hidden.position

theorem handed_cons {hidden : DependencyParameter} {position : Nat} {entry : String × Argument α}
    (bound : List (String × Argument α)) (hposition : hidden.position = position + 1)
    (hentry : entry.1 ≠ bagName) :
    handed hidden set (entry :: bound) = entry :: handed { hidden with position } set bound := by
  simp [handed, hposition, hentry]

/-- With the dependency set among the arguments of a call, an implementation binds what the callers
bind and the set, if that is so behind its positional parameters. -/
theorem bind?_handed {hidden : DependencyParameter} {first rest rest' : Signature α}
    {positions more : List α} {moreNames : List (String × α)}
    (hposition : hidden.position = first.length)
    (hfirst : ∀ parameter ∈ first, parameter.kind.isPositional = true ∧ parameter.name ≠ bagName ∧
      parameter.name ≠ hidden.name)
    (hpositions : positions.length ≤ first.length)
    (hmore : more = [] ∨ positions.length = first.length)
    (hmoreNames : ∀ entry ∈ moreNames, entry.1 = hidden.name)
    (hrest : ∀ names', givenBy hidden.name (besides bagName names') = none →
      bind? rest more (besides bagName names' ++ moreNames) =
        (bind? rest' [] names').map (handed { hidden with position := 0 } set))
    (hnew : givenBy hidden.name (besides bagName names) = none) :
    bind? (first ++ rest) (positions ++ more) (besides bagName names ++ moreNames) =
      (bind? (first ++ rest') positions names).map (handed hidden set) := by
  induction first generalizing hidden positions names with
  | nil =>
    obtain rfl := List.eq_nil_of_length_eq_zero (Nat.le_zero.mp hpositions)
    obtain ⟨name, position, positionalOnly⟩ := hidden
    obtain rfl : position = 0 := hposition
    exact hrest names hnew
  | cons parameter first ih =>
    obtain ⟨⟨hkind, hbag, hname⟩, hfirst⟩ := List.forall_mem_cons.mp hfirst
    have hothers : ∀ entry ∈ moreNames, entry.1 ≠ parameter.name := fun entry hentry h =>
      hname (h.symm.trans (hmoreNames entry hentry))
    have hgiven : givenBy parameter.name (besides bagName names ++ moreNames) =
        givenBy parameter.name names := by
      rw [givenBy_append_of_ne hothers, givenBy_besides hbag]
    -- the induction is on the positional parameters, and goes on with the arguments that are left
    have hcons (argument : Argument α) (positions : List α) {names : List (String × α)}
        (hpositions : positions.length ≤ first.length)
        (hmore : more = [] ∨ positions.length = first.length)
        (hnew : givenBy hidden.name (besides bagName names) = none) :
        (bind? (first ++ rest) (positions ++ more) (besides bagName names ++ moreNames)).map
            ((parameter.name, argument) :: ·) =
          ((bind? (first ++ rest') positions names).map ((parameter.name, argument) :: ·)).map
            (handed hidden set) := by
      have hafter : ({ hidden with position := first.length } : DependencyParameter).position =
        first.length := rfl
      rw [ih hafter hfirst hpositions hmore hmoreNames hrest hnew, Option.map_map, Option.map_map]
      congr 1
      funext bound
      exact (handed_cons bound hposition hbag).symm
    cases positions with
    | nil =>
      obtain rfl : more = [] := hmore.resolve_right (by simp)
      have hkinds : parameter.kind ≠ .variadic ∧ parameter.kind ≠ .keywords := by
        constructor <;> intro h <;> simp [h, ParameterKind.isPositional] at hkind
      rw [List.cons_append, List.cons_append, List.nil_append, bind?_without hkinds,
        bind?_without hkinds, hgiven, besides_append_of_ne hothers, besides_comm]
      split
      · refine hcons _ [] (Nat.zero_le _) (.inl rfl) ?_
        rw [besides_comm, givenBy_besides (Ne.symm hname), hnew]
      · cases parameter.default? with
        | none => rfl
        | some value => exact hcons _ [] (Nat.zero_le _) (.inl rfl) hnew
    | cons value positions =>
      rw [List.cons_append, List.cons_append, List.cons_append, bind?_with hkind, bind?_with hkind,
        hgiven]
      split
      · rfl
      · exact hcons _ positions (Nat.le_of_succ_le_succ hpositions)
          (hmore.imp_right Nat.succ.inj) hnew

/-! ## Where the dependency set goes -/

variable {signature leading trailing : Signature α} {slot : Parameter α}
  {hidden : DependencyParameter}

/-- A signature taken apart at the parameter that receives the dependency set. -/
structure Placed (signature : Signature α) (hidden : DependencyParameter) (leading : Signature α)
    (slot : Parameter α) (trailing : Signature α) : Prop where
  parts : signature = leading ++ slot :: trailing
  hidden : hidden = ⟨slot.name, leading.length, slot.kind == .positionalOnly⟩
  leads : ∀ parameter ∈ leading, parameter.kind.isPositional = true
  receives : slot.kind.isPositional = true
  trails : ∀ parameter ∈ trailing, parameter.kind = .named ∨ parameter.kind = .keywords
  bag : ∀ parameter ∈ leading ++ trailing, parameter.name ≠ bagName

/-- In a well-formed declaration the positional parameters come first. -/
theorem WellFormed.positionals_append (h : signature.WellFormed) :
    ∃ trailing, signature = signature.positionals ++ trailing ∧
      ∀ parameter ∈ trailing, parameter.kind.isPositional = false := by
  obtain ⟨hordered, -, -, -, -⟩ := h
  induction signature with
  | nil => exact ⟨[], rfl, by simp⟩
  | cons parameter signature ih =>
    obtain ⟨hfirst, hordered⟩ := List.pairwise_cons.mp hordered
    obtain ⟨trailing, hparts, htrailing⟩ := ih hordered
    by_cases hkind : parameter.kind.isPositional = true
    · refine ⟨trailing, ?_, htrailing⟩
      rw [positionals, List.filter_cons_of_pos (by simpa using hkind), List.cons_append]
      exact congrArg _ hparts
    · have hnone : ∀ other ∈ signature, other.kind.isPositional = false := fun other hother => by
        have hrank := hfirst other hother
        revert hkind hrank
        cases parameter.kind <;> cases other.kind <;> decide
      have hempty : positionals (parameter :: signature) = [] := by
        simpa [positionals, hkind] using hnone
      exact ⟨parameter :: signature, by rw [hempty, List.nil_append],
        List.forall_mem_cons.mpr ⟨by simpa using hkind, hnone⟩⟩

/-- No other parameter has the name of the one in the middle. -/
theorem name_ne_of_nodup (h : ((leading ++ slot :: trailing).map Parameter.name).Nodup) :
    ∀ parameter ∈ leading ++ trailing, parameter.name ≠ slot.name := by
  intro parameter hparameter hname
  have hperm : (leading ++ slot :: trailing).Perm (slot :: (leading ++ trailing)) :=
    List.perm_middle
  have hnodup := (hperm.map Parameter.name).nodup_iff.mp h
  rw [List.map_cons, List.nodup_cons] at hnodup
  exact hnodup.1 (hname ▸ List.mem_map_of_mem hparameter)

theorem placed_of_dependencyParameter (hwell : signature.WellFormed)
    (h : signature.dependencyParameter = .ok hidden) :
    ∃ leading slot trailing, Placed signature hidden leading slot trailing := by
  unfold dependencyParameter at h
  split at h
  · cases h
  · next hvariadic =>
    split at h
    · cases h
    · next slot hslot =>
      split at h
      · cases h
      · next hbag =>
        obtain rfl := Except.ok.inj h
        obtain ⟨trailing, hparts, htrailing⟩ := hwell.positionals_append
        obtain ⟨leading, hleading⟩ := List.getLast?_eq_some_iff.mp hslot
        have hpositional : ∀ parameter ∈ leading ++ [slot], parameter.kind.isPositional = true :=
          hleading ▸ fun parameter hparameter => (List.mem_filter.mp hparameter).2
        rw [hleading, List.append_assoc, List.singleton_append] at hparts
        have hdistinct := hwell.distinct
        refine ⟨leading, slot, trailing, hparts, by simp [hleading],
          fun parameter hparameter => hpositional parameter (by simp [hparameter]),
          hpositional slot (by simp), fun parameter hparameter => ?_,
          fun parameter hparameter => ?_⟩
        · have hkind := htrailing parameter hparameter
          have hnot : parameter.kind ≠ .variadic := fun hkind => hvariadic (by
            rw [isVariadic, List.any_eq_true]
            exact ⟨parameter, by rw [hparts]; simp [hparameter], by simp [hkind]⟩)
          revert hkind hnot
          cases parameter.kind <;> decide
        · intro hname
          rw [hparts] at hdistinct
          have hother := name_ne_of_nodup hdistinct parameter hparameter
          have hmem : parameter ∈ signature := by
            rw [hparts]
            simp only [List.mem_append, List.mem_cons] at hparameter ⊢
            tauto
          refine hbag (Bool.and_eq_true_iff.mpr ⟨?_, List.any_eq_true.mpr ⟨parameter, hmem, ?_⟩⟩)
          · simpa [← hname] using hother.symm
          · simpa using hname

/-! ## The signature callers see -/

theorem withBag_append (h : ∀ parameter ∈ leading, parameter.kind ≠ .keywords) :
    withBag absent (leading ++ trailing) = leading ++ withBag absent trailing := by
  induction leading with
  | nil => rfl
  | cons parameter leading ih =>
    obtain ⟨hkind, h⟩ := List.forall_mem_cons.mp h
    rw [List.cons_append, withBag_cons hkind, ih h, List.cons_append]

theorem Placed.visible_eq (h : Placed signature hidden leading slot trailing)
    (hwell : signature.WellFormed) :
    signature.visible absent hidden = leading ++ withBag absent trailing := by
  obtain ⟨rfl, rfl, hleads, -, -, -⟩ := h
  have hothers := name_ne_of_nodup hwell.distinct
  have hfilter : (leading ++ slot :: trailing).filter (·.name != slot.name) =
      leading ++ trailing := by
    rw [List.filter_append, List.filter_cons_of_neg (by simp), ← List.filter_append]
    exact List.filter_eq_self.mpr fun parameter hparameter => by
      simpa using hothers parameter hparameter
  rw [visible, hfilter, withBag_append]
  intro parameter hparameter hkind
  have hpositional := hleads parameter hparameter
  rw [hkind] at hpositional
  cases hpositional

/-! ## Calls -/

/-- The arguments with which an implementation is called, once there is a dependency set. -/
def handOver (hidden : DependencyParameter) (set : α) (positions : List α)
    (names : List (String × α)) : List α × List (String × α) :=
  if hidden.positionalOnly then (positions ++ [set], besides bagName names)
  else (positions, Entries.put (· == ·) (besides bagName names) hidden.name set)

variable {positions : List α}

theorem givenBy_hidden (h : hidden.name = bagName ∨ givenBy hidden.name names = none) :
    givenBy hidden.name (besides bagName names) = none := by
  by_cases hbag : hidden.name = bagName
  · rw [hbag]
    simp [givenBy, besides]
  · rw [givenBy_besides hbag]
    exact h.resolve_left hbag

theorem put_of_givenBy_eq_none {name : String} (value : α) (h : givenBy name names = none) :
    Entries.put (· == ·) names name value = names ++ [(name, value)] := by
  induction names with
  | nil => rfl
  | cons entry names ih =>
    have hnone : entry.1 ≠ name ∧ givenBy name names = none := by
      simpa [givenBy] using h
    simp [Entries.put, hnone.1, ih hnone.2]

variable (absent set) in
/-- The trailing parameters bind what the callers bind, but for the override bag. -/
theorem Placed.trailing_handed (h : Placed signature hidden leading slot trailing)
    (hwell : signature.WellFormed) (names : List (String × α)) :
    (bind? trailing [] (besides bagName names)).map ((hidden.name, .one set) :: ·) =
      (bind? (withBag absent trailing) [] names).map
        (handed { hidden with position := 0 } set) := by
  obtain ⟨rfl, -, -, -, htrails, hbag⟩ := h
  have hlast : trailing.Pairwise fun parameter _ => parameter.kind ≠ .keywords := by
    have hsuffix : trailing.Sublist (leading ++ slot :: trailing) := by simp
    have hordered := (hwell.ordered.sublist hsuffix).and (hwell.rest.sublist hsuffix)
    refine hordered.imp fun {parameter other} hpair hkind => ?_
    have hother : other.kind = .keywords := by
      have hrank := hpair.1
      rw [hkind] at hrank
      revert hrank
      cases other.kind <;> decide
    exact (hpair.2 (hkind.trans hother.symm)).2 hkind
  rw [← bind?_withBag absent htrails hlast fun parameter hparameter =>
    hbag parameter (List.mem_append_right _ hparameter), Option.map_map]
  rfl

/-- With the dependency set in its place an implementation binds it and what the callers bind. -/
theorem Placed.bind?_handOver (h : Placed signature hidden leading slot trailing)
    (hwell : signature.WellFormed) (hpositions : positions.length ≤ hidden.position)
    (hname : hidden.name = bagName ∨ givenBy hidden.name names = none)
    (hfull : hidden.positionalOnly = true → positions.length = hidden.position) :
    bind? signature (handOver hidden set positions names).1
        (handOver hidden set positions names).2 =
      (bind? (signature.visible absent hidden) positions names).map (handed hidden set) := by
  have hnew := givenBy_hidden hname
  have htrailing (names : List (String × α)) := h.trailing_handed absent set hwell names
  rw [h.visible_eq hwell]
  obtain ⟨rfl, rfl, hleads, hreceives, -, hbag⟩ := h
  have hothers := name_ne_of_nodup hwell.distinct
  have hleading : ∀ parameter ∈ leading, parameter.kind.isPositional = true ∧
      parameter.name ≠ bagName ∧ parameter.name ≠ slot.name := fun parameter hparameter =>
    have hmem := List.mem_append_left trailing hparameter
    ⟨hleads parameter hparameter, hbag parameter hmem, hothers parameter hmem⟩
  by_cases hkind : slot.kind = .positionalOnly
  · have hlength : positions.length = leading.length := hfull (by simp [hkind])
    have hslot (names' : List (String × α)) :
        bind? (slot :: trailing) [set] (besides bagName names' ++ []) =
          (bind? trailing [] (besides bagName names')).map ((slot.name, .one set) :: ·) := by
      rw [List.append_nil, bind?_with hreceives]
      simp [hkind, ParameterKind.isNamed]
    have hbound := bind?_handed rfl hleading hpositions (.inr hlength) (by simp)
      (fun names' _ => (hslot names').trans (htrailing names')) hnew
    simpa [handOver, hkind] using hbound
  · have hnamed : slot.kind.isNamed = true ∧ slot.kind ≠ .variadic ∧ slot.kind ≠ .keywords := by
      revert hkind hreceives
      cases slot.kind <;> decide
    have hslot (names' : List (String × α))
        (hnone : givenBy slot.name (besides bagName names') = none) :
        bind? (slot :: trailing) [] (besides bagName names' ++ [(slot.name, set)]) =
          (bind? trailing [] (besides bagName names')).map ((slot.name, .one set) :: ·) := by
      have hgiven : givenBy slot.name (besides bagName names' ++ [(slot.name, set)]) =
          some set := by
        unfold givenBy at hnone ⊢
        rw [List.find?_append, Option.map_eq_none_iff.mp hnone]
        simp
      have hbesides : besides slot.name (besides bagName names' ++ [(slot.name, set)]) =
          besides bagName names' := by
        have hothers := besides_of_givenBy_eq_none hnone
        unfold besides at hothers ⊢
        rw [List.filter_append, hothers]
        simp
      rw [bind?_without hnamed.2, if_pos hnamed.1, hgiven, hbesides]
    have hbound := bind?_handed rfl hleading hpositions (.inl rfl)
      (fun entry hentry => congrArg Prod.fst (List.mem_singleton.mp hentry))
      (fun names' hnone => (hslot names' hnone).trans (htrailing names')) hnew
    simpa [handOver, hkind, put_of_givenBy_eq_none set hnew] using hbound

/-! ## Positional-only parameters -/

/-- A positional-only parameter holds the value at its position, or its default. -/
theorem bind?_getElem? {bound : List (String × Argument α)} {i : Nat} {parameter : Parameter α}
    (hkinds : ∀ parameter ∈ leading, parameter.kind = .positionalOnly)
    (h : bind? (leading ++ trailing) positions names = some bound)
    (hparameter : leading[i]? = some parameter) :
    ∃ value, positions[i]?.or parameter.default? = some value ∧
      bound[i]? = some (parameter.name, .one value) := by
  induction leading generalizing positions bound i with
  | nil => simp at hparameter
  | cons first leading ih =>
    obtain ⟨hkind, hkinds⟩ := List.forall_mem_cons.mp hkinds
    have hstep : ∃ value more, positions[0]?.or first.default? = some value ∧
        bind? (leading ++ trailing) (positions.drop 1) names = some more ∧
        bound = (first.name, .one value) :: more := by
      cases positions with
      | nil =>
        rw [List.cons_append, bind?_without (by simp [hkind])] at h
        simp only [hkind, ParameterKind.isNamed, Bool.false_eq_true, if_false,
          Option.bind_eq_some_iff, Option.map_eq_some_iff] at h
        obtain ⟨value, hdefault, more, hmore, rfl⟩ := h
        exact ⟨value, more, by simpa using hdefault, hmore, rfl⟩
      | cons value positions =>
        rw [List.cons_append, bind?_with (by simp [hkind, ParameterKind.isPositional])] at h
        simp only [hkind, ParameterKind.isNamed, Bool.false_and, Bool.false_eq_true, if_false,
          Option.map_eq_some_iff] at h
        obtain ⟨more, hmore, rfl⟩ := h
        exact ⟨value, more, rfl, hmore, rfl⟩
    obtain ⟨value, more, hvalue, hmore, rfl⟩ := hstep
    cases i with
    | zero =>
      obtain rfl : first = parameter := by simpa using hparameter
      exact ⟨value, hvalue, rfl⟩
    | succ i =>
      have hnext := ih hkinds hmore (by simpa using hparameter)
      rwa [List.getElem?_drop, Nat.add_comm] at hnext

/-- Whether the dependency set would get to an earlier parameter: positions are left out before a
positional-only one, and those behind the first that is left out have defaults. -/
def misplaces (signature : Signature α) (hidden : DependencyParameter) (positions : List α) :
    Bool :=
  hidden.positionalOnly && positions.length < hidden.position &&
    (signature.positionals.drop (positions.length + 1)).all (·.default?.isSome)

theorem Placed.positionals_eq (h : Placed signature hidden leading slot trailing) :
    signature.positionals = leading ++ [slot] := by
  obtain ⟨rfl, -, hleads, hreceives, htrails, -⟩ := h
  have htrailing : trailing.filter (·.kind.isPositional) = [] :=
    List.filter_eq_nil_iff.mpr fun parameter hparameter => by
      obtain hkind | hkind := htrails parameter hparameter <;>
        simp [hkind, ParameterKind.isPositional]
  rw [positionals, List.filter_append, List.filter_eq_self.mpr hleads]
  simp [hreceives, htrailing]

/-- All positional parameters are positional-only if the last one is. -/
theorem Placed.positionalOnly (h : Placed signature hidden leading slot trailing)
    (hwell : signature.WellFormed) (honly : hidden.positionalOnly = true) :
    ∀ parameter ∈ leading ++ [slot], parameter.kind = .positionalOnly := by
  obtain ⟨rfl, rfl, -, -, -, -⟩ := h
  have hslot : slot.kind = .positionalOnly := by simpa using honly
  refine List.forall_mem_append.mpr ⟨fun parameter hparameter => ?_, by simpa using hslot⟩
  have hrank := (List.pairwise_append.mp hwell.ordered).2.2 parameter hparameter slot
    List.mem_cons_self
  rw [hslot] at hrank
  revert hrank
  cases parameter.kind <;> decide

/-- The implementation and its callers bind alike unless the set is misplaced. -/
theorem Placed.bind?_of_not_misplaces (h : Placed signature hidden leading slot trailing)
    (hwell : signature.WellFormed) (hpositions : positions.length ≤ hidden.position)
    (hname : hidden.name = bagName ∨ givenBy hidden.name names = none)
    (hplace : misplaces signature hidden positions = false) :
    bind? signature (handOver hidden set positions names).1
        (handOver hidden set positions names).2 =
      (bind? (signature.visible absent hidden) positions names).map (handed hidden set) := by
  by_cases hfull : hidden.positionalOnly = true → positions.length = hidden.position
  · exact h.bind?_handOver hwell hpositions hname hfull
  · obtain ⟨honly, hlength⟩ := Classical.not_imp.mp hfull
    have hless : positions.length < leading.length := by
      have hposition : hidden.position = leading.length := by rw [h.hidden]
      omega
    have hkinds := h.positionalOnly hwell honly
    have hpositionals := h.positionals_eq
    obtain ⟨parameter, hparameter, hdefault⟩ : ∃ parameter ∈ (leading ++ [slot]).drop
        (positions.length + 1), parameter.default? = none := by
      have hcondition : hidden.positionalOnly = true ∧ positions.length < hidden.position :=
        ⟨honly, by omega⟩
      simpa [misplaces, hcondition, hpositionals] using hplace
    have himplementation : bind? signature (handOver hidden set positions names).1
        (handOver hidden set positions names).2 = none := by
      obtain ⟨i, hi⟩ := List.mem_iff_getElem?.mp hparameter
      rw [List.getElem?_drop] at hi
      have hnone : (positions ++ [set])[positions.length + 1 + i]? = none := by
        rw [List.getElem?_eq_none_iff, List.length_append, List.length_singleton]
        omega
      refine Option.eq_none_iff_forall_ne_some.mpr fun bound hbound => ?_
      rw [handOver, if_pos honly, h.parts, ← List.singleton_append, ← List.append_assoc] at hbound
      obtain ⟨value, hvalue, -⟩ := bind?_getElem? hkinds hbound hi
      rw [hnone, hdefault] at hvalue
      cases hvalue
    have hcallers : bind? (signature.visible absent hidden) positions names = none := by
      have hfirst : leading[positions.length].default? = none := by
        have hdefaulted := hwell.defaulted.sublist (List.drop_sublist positions.length _)
        rw [hpositionals, List.drop_eq_getElem_cons (by simp; omega)] at hdefaulted
        have hlater := (List.pairwise_cons.mp hdefaulted).1 parameter hparameter
        rw [List.getElem_append_left hless, hdefault] at hlater
        exact Option.not_isSome_iff_eq_none.mp fun hsome => by simpa using hlater hsome
      refine Option.eq_none_iff_forall_ne_some.mpr fun bound hbound => ?_
      rw [h.visible_eq hwell] at hbound
      obtain ⟨value, hvalue, -⟩ := bind?_getElem?
        (fun parameter hparameter => hkinds parameter (List.mem_append_left _ hparameter)) hbound
        (List.getElem?_eq_getElem hless)
      simp [hfirst] at hvalue
    rw [himplementation, hcallers]
    rfl

/-- A misplaced set stands for an earlier parameter, and its own parameter has its default. -/
theorem Placed.bind?_of_misplaces (h : Placed signature hidden leading slot trailing)
    (hwell : signature.WellFormed) (hplace : misplaces signature hidden positions = true)
    {bound : List (String × Argument α)}
    (hbound : bind? signature (handOver hidden set positions names).1
      (handOver hidden set positions names).2 = some bound) :
    ∃ parameter default, signature[positions.length]? = some parameter ∧
      bound[positions.length]? = some (parameter.name, .one set) ∧
      ⟨hidden.name, .positionalOnly, some default⟩ ∈ signature ∧
      bound[hidden.position]? = some (hidden.name, .one default) := by
  obtain ⟨⟨honly, hless⟩, -⟩ : (hidden.positionalOnly = true ∧ positions.length < hidden.position) ∧
      (signature.positionals.drop (positions.length + 1)).all (·.default?.isSome) = true := by
    simpa only [misplaces, Bool.and_eq_true, decide_eq_true_eq] using hplace
  have hkinds := h.positionalOnly hwell honly
  rw [h.hidden] at hless ⊢
  have hleading : (leading ++ [slot])[positions.length]? = some leading[positions.length] := by
    rw [List.getElem?_append_left hless, List.getElem?_eq_getElem hless]
  have hparts : signature = leading ++ [slot] ++ trailing := by simpa using h.parts
  rw [handOver, if_pos honly, hparts] at hbound
  obtain ⟨value, hvalue, hholds⟩ := bind?_getElem? hkinds hbound hleading
  have hlast : (leading ++ [slot])[leading.length]? = some slot := by simp
  obtain ⟨default, hdefault, hslot⟩ := bind?_getElem? hkinds hbound hlast
  obtain rfl : set = value := by simpa using hvalue
  have hnone : (positions ++ [set])[leading.length]? = none := by
    rw [List.getElem?_eq_none_iff, List.length_append, List.length_singleton]
    exact hless
  have hslotDefault : slot.default? = some default := by simpa [hnone] using hdefault
  have hslotKind : slot.kind = .positionalOnly := hkinds slot (by simp)
  refine ⟨_, default, ?_, hholds, ?_, hslot⟩
  · rw [h.parts, List.getElem?_append_left hless, List.getElem?_eq_getElem hless]
  · rw [hparts, ← hslotDefault, ← hslotKind]
    simp

end Signature
end Registrar
