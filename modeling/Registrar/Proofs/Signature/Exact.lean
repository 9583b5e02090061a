import Mathlib.Data.List.Nodup
import Registrar.Proofs.Container.Request
import Registrar.Proofs.Signature.Hiding

/-! # Which signatures hide a dependency set

A declaration stays well-formed when parameters are left out of it, and when a named one with a new
name is put before the names that are left. So the signature callers see is well-formed whenever a
declaration is accepted for dependencies, and it is accepted unless it plainly has no place for them.
-/

namespace Registrar.Signature

variable {α : Type} {signature front back shown : Signature α} {absent : α}

/-! ## Well-formed declarations -/

instance : Decidable signature.WellFormed :=
  decidable_of_iff ((signature.Pairwise fun a b => a.kind.rank ≤ b.kind.rank) ∧
      (signature.map Parameter.name).Nodup ∧
      (signature.Pairwise fun a b => a.kind = b.kind → a.kind ≠ .variadic ∧ a.kind ≠ .keywords) ∧
      (signature.positionals.Pairwise fun a b => a.default?.isSome → b.default?.isSome) ∧
      ∀ a ∈ signature, a.kind = .variadic ∨ a.kind = .keywords → a.default?.isSome = false)
    ⟨fun ⟨hordered, hdistinct, hrest, hdefaulted, hplain⟩ =>
      ⟨hordered, hdistinct, hrest, hdefaulted, by simpa using hplain⟩,
    fun h => ⟨h.ordered, h.distinct, h.rest, h.defaulted, by simpa using h.plain⟩⟩

/-- Parameters may be left out of a declaration. -/
theorem WellFormed.sublist (h : signature.WellFormed) (hpart : front.Sublist signature) :
    front.WellFormed where
  ordered := h.ordered.sublist hpart
  distinct := h.distinct.sublist (hpart.map _)
  rest := h.rest.sublist hpart
  defaulted := h.defaulted.sublist (hpart.filter _)
  plain parameter hparameter := h.plain parameter (hpart.subset hparameter)

/-- A named parameter may be put before the one for the names that are left. -/
theorem WellFormed.insertNamed {name : String} {default? : Option α}
    (h : (front ++ back).WellFormed) (hfront : ∀ parameter ∈ front, parameter.kind ≠ .keywords)
    (hback : ∀ parameter ∈ back, parameter.kind = .keywords)
    (hname : ∀ parameter ∈ front ++ back, parameter.name ≠ name) :
    (front ++ ⟨name, .named, default?⟩ :: back).WellFormed where
  ordered := by
    obtain ⟨hbefore, hafter, hacross⟩ := List.pairwise_append.mp h.ordered
    refine List.pairwise_append.mpr ⟨hbefore, List.pairwise_cons.mpr ⟨?_, hafter⟩, ?_⟩
    · intro parameter hparameter
      rw [hback parameter hparameter]
      exact Nat.le_succ 3
    · intro parameter hparameter
      refine List.forall_mem_cons.mpr ⟨?_, hacross parameter hparameter⟩
      have hkind := hfront parameter hparameter
      change parameter.kind.rank ≤ 3
      revert hkind
      cases parameter.kind <;> decide
  distinct := by
    rw [(List.perm_middle.map Parameter.name).nodup_iff, List.map_cons, List.nodup_cons]
    refine ⟨fun hmem => ?_, h.distinct⟩
    obtain ⟨parameter, hparameter, hsame⟩ := List.mem_map.mp hmem
    exact hname parameter hparameter hsame
  rest := by
    obtain ⟨hbefore, hafter, hacross⟩ := List.pairwise_append.mp h.rest
    refine List.pairwise_append.mpr ⟨hbefore, List.pairwise_cons.mpr ⟨?_, hafter⟩, ?_⟩
    · intro _ _ _
      simp
    · intro parameter hparameter
      exact List.forall_mem_cons.mpr ⟨fun hkind => by simp [hkind], hacross parameter hparameter⟩
  defaulted := by
    have hsame : positionals (front ++ ⟨name, .named, default?⟩ :: back) =
        positionals (front ++ back) := by
      simp [positionals, ParameterKind.isPositional]
    rw [hsame]
    exact h.defaulted
  plain parameter hparameter hkind := by
    rcases List.mem_cons.mp (List.perm_middle.mem_iff.mp hparameter) with rfl | hparameter
    · simp at hkind
    · exact h.plain parameter hparameter hkind

/-! ## Acceptance -/

/-- A signature can hide a dependency set: no parameter takes the positions that are left, some
parameter takes a position, and no other than the last of those has the name of the override bag. -/
structure CanHide (signature : Signature α) : Prop where
  closed : ∀ parameter ∈ signature, parameter.kind ≠ .variadic
  positional : ∃ parameter ∈ signature, parameter.kind.isPositional = true
  free : ∀ parameter ∈ signature, parameter.name = bagName →
    signature.positionals.getLast? = some parameter

theorem eq_of_name_eq (h : signature.WellFormed) {a b : Parameter α} (ha : a ∈ signature)
    (hb : b ∈ signature) (hname : a.name = b.name) : a = b :=
  List.inj_on_of_nodup_map h.distinct ha hb hname

theorem hasSlot_iff_canHide (h : signature.WellFormed) : signature.HasSlot ↔ signature.CanHide := by
  constructor
  · rintro ⟨hclosed, last, hlast, hname⟩
    have hmem : last ∈ signature.positionals := List.mem_of_getLast? hlast
    obtain ⟨hsignature, hpositional⟩ := List.mem_filter.mp hmem
    refine ⟨hclosed, ⟨last, hsignature, hpositional⟩, fun parameter hparameter hbag => ?_⟩
    have hslot : last.name = bagName := hname.resolve_right fun hnone => hnone parameter hparameter hbag
    rwa [eq_of_name_eq h hparameter hsignature (hbag.trans hslot.symm)]
  · rintro ⟨hclosed, ⟨parameter, hparameter, hpositional⟩, hfree⟩
    have hne : signature.positionals ≠ [] :=
      List.ne_nil_of_mem (List.mem_filter.mpr ⟨hparameter, hpositional⟩)
    refine ⟨hclosed, _, List.getLast?_eq_some_getLast hne, ?_⟩
    by_contra hneither
    obtain ⟨hlast, hsome⟩ := not_or.mp hneither
    obtain ⟨other, hother, hbag⟩ : ∃ other ∈ signature, other.name = bagName := by simpa using hsome
    have hsame := hfree other hother hbag
    rw [List.getLast?_eq_some_getLast hne] at hsame
    exact hlast (Option.some.inj hsame ▸ hbag)

/-! ## The signature callers see -/

/-- A signature with its last positional parameter hidden: it is left out, and there is a named
parameter for the override bag behind all others but the one for the names that are left. -/
structure Hides (signature : Signature α) (absent : α) (hidden : DependencyParameter)
    (shown leading : Signature α) (slot : Parameter α) (named rest : Signature α) : Prop where
  parts : signature = leading ++ slot :: (named ++ rest)
  leads : ∀ parameter ∈ leading, parameter.kind.isPositional = true
  receives : slot.kind.isPositional = true
  named_kind : ∀ parameter ∈ named, parameter.kind = .named
  rest_kind : ∀ parameter ∈ rest, parameter.kind = .keywords
  hidden_eq : hidden = ⟨slot.name, leading.length, slot.kind == .positionalOnly⟩
  shown_eq : shown = leading ++ named ++ ⟨bagName, .named, some absent⟩ :: rest

/-- Named parameters come before the one for the names that are left. -/
theorem WellFormed.named_append (h : signature.WellFormed)
    (hkinds : ∀ parameter ∈ signature, parameter.kind = .named ∨ parameter.kind = .keywords) :
    ∃ named rest, signature = named ++ rest ∧ (∀ parameter ∈ named, parameter.kind = .named) ∧
      ∀ parameter ∈ rest, parameter.kind = .keywords := by
  induction signature with
  | nil => exact ⟨[], [], rfl, by simp, by simp⟩
  | cons parameter signature ih =>
    obtain ⟨hkind, hkinds⟩ := List.forall_mem_cons.mp hkinds
    obtain hkind | hkind := hkind
    · obtain ⟨named, rest, rfl, hnamed, hrest⟩ := ih (h.sublist (List.sublist_cons_self _ _)) hkinds
      exact ⟨parameter :: named, rest, rfl, List.forall_mem_cons.mpr ⟨hkind, hnamed⟩, hrest⟩
    · refine ⟨[], parameter :: signature, rfl, by simp, List.forall_mem_cons.mpr ⟨hkind, ?_⟩⟩
      intro other hother
      refine (hkinds other hother).resolve_left fun hnamed => ?_
      have hrank := (List.pairwise_cons.mp h.ordered).1 other hother
      rw [hkind, hnamed] at hrank
      exact absurd hrank (by decide)

theorem withBag_keywords (h : signature.WellFormed)
    (hkinds : ∀ parameter ∈ signature, parameter.kind = .keywords) :
    withBag absent signature = ⟨bagName, .named, some absent⟩ :: signature := by
  match signature with
  | [] => rfl
  | [parameter] =>
    have hkind : (parameter.kind == .keywords) = true := by simpa using hkinds parameter
    rw [withBag, if_pos hkind]
  | parameter :: other :: more =>
    have hfirst := hkinds parameter (by simp)
    have hsecond := hkinds other (by simp)
    have hrest := (List.pairwise_cons.mp h.rest).1 other (by simp) (hfirst.trans hsecond.symm)
    exact absurd hfirst hrest.2

theorem hides_of_dependencyParameter {hidden : DependencyParameter} (h : signature.WellFormed)
    (hhidden : signature.dependencyParameter = .ok hidden) (absent : α) :
    ∃ leading slot named rest, Hides signature absent hidden (signature.visible absent hidden)
        leading slot named rest ∧
      (signature.visible absent hidden).WellFormed := by
  obtain ⟨leading, slot, trailing, hplaced⟩ := placed_of_dependencyParameter h hhidden
  have htrailing : trailing.Sublist signature := by
    rw [hplaced.parts]
    exact (List.sublist_cons_self _ _).trans (List.sublist_append_right _ _)
  obtain ⟨named, rest, rfl, hnamed, hrest⟩ := (h.sublist htrailing).named_append hplaced.trails
  have hkeywords : rest.Sublist signature := (List.sublist_append_right _ _).trans htrailing
  have hshown : signature.visible absent hidden =
      leading ++ named ++ ⟨bagName, .named, some absent⟩ :: rest := by
    rw [hplaced.visible_eq h, withBag_append fun parameter hparameter => by simp [hnamed parameter hparameter],
      withBag_keywords (h.sublist hkeywords) hrest, List.append_assoc]
  refine ⟨leading, slot, named, rest,
    ⟨hplaced.parts, hplaced.leads, hplaced.receives, hnamed, hrest, hplaced.hidden, hshown⟩, ?_⟩
  have hothers : (leading ++ named ++ rest).Sublist signature := by
    rw [hplaced.parts, List.append_assoc]
    exact (List.sublist_cons_self _ _).append_left _
  rw [hshown]
  refine (h.sublist hothers).insertNamed (List.forall_mem_append.mpr ⟨?_, ?_⟩) hrest ?_
  · intro parameter hparameter hkind
    have hpositional := hplaced.leads parameter hparameter
    rw [hkind] at hpositional
    cases hpositional
  · intro parameter hparameter
    simp [hnamed parameter hparameter]
  · rw [List.append_assoc]
    exact hplaced.bag

/-- A well-formed declaration is accepted for dependencies exactly if it can hide their set. Then its
last positional parameter is the one that is hidden, with its place and its kind; callers see all
others, and the override bag behind them, before the names that are left; and what they see is
well-formed again. -/
theorem injection_exact (h : signature.WellFormed) (absent : α) :
    ((∃ injection, signature.injection absent true = .ok injection) ↔ signature.CanHide) ∧
    ∀ injection, signature.injection absent true = .ok injection →
      ∃ hidden leading slot named rest, injection.parameter? = some hidden ∧
        Hides signature absent hidden injection.signature leading slot named rest ∧
        injection.signature.WellFormed := by
  have haccepted (injection : Injection α) : signature.injection absent true = .ok injection ↔
      ∃ hidden, signature.dependencyParameter = .ok hidden ∧
        injection = ⟨some hidden, signature.visible absent hidden⟩ := by
    rw [Signature.injection, if_pos rfl]
    cases signature.dependencyParameter with
    | error reason => simp [Except.map]
    | ok hidden => simp [Except.map, eq_comm]
  constructor
  · rw [← hasSlot_iff_canHide h, hasSlot_iff]
    constructor
    · rintro ⟨injection, hinjection⟩
      obtain ⟨hidden, hhidden, -⟩ := (haccepted injection).mp hinjection
      exact ⟨hidden, hhidden⟩
    · rintro ⟨hidden, hhidden⟩
      exact ⟨_, (haccepted _).mpr ⟨hidden, hhidden, rfl⟩⟩
  · intro injection hinjection
    obtain ⟨hidden, hhidden, rfl⟩ := (haccepted injection).mp hinjection
    obtain ⟨leading, slot, named, rest, hhides, hwell⟩ := hides_of_dependencyParameter h hhidden absent
    exact ⟨hidden, leading, slot, named, rest, rfl, hhides, hwell⟩

/-- Parameters of four kinds, the last positional one with the name of the override bag. -/
def mixed : Signature Nat :=
  [⟨"a", .positionalOnly, none⟩, ⟨"b", .positional, some 1⟩, ⟨"deps", .positional, some 2⟩,
    ⟨"k", .named, none⟩, ⟨"rest", .keywords, none⟩]

/-- The parameter that is hidden may itself have the name of the override bag. -/
theorem mixed_exact :
    mixed.WellFormed ∧ mixed.CanHide ∧
    ∃ injection, mixed.injection 0 true = .ok injection ∧ injection.signature.WellFormed ∧
      injection.parameter? = some ⟨"deps", 2, false⟩ ∧
      injection.signature = [⟨"a", .positionalOnly, none⟩, ⟨"b", .positional, some 1⟩,
        ⟨"k", .named, none⟩, ⟨"deps", .named, some 0⟩, ⟨"rest", .keywords, none⟩] := by
  have hwell : mixed.WellFormed := by decide
  obtain ⟨haccepted, hshown⟩ := injection_exact hwell 0
  have hok : mixed.injection 0 true = .ok ⟨some ⟨"deps", 2, false⟩, mixed.visible 0 ⟨"deps", 2, false⟩⟩ :=
    rfl
  obtain ⟨-, -, -, -, -, -, -, hvisible⟩ := hshown _ hok
  exact ⟨hwell, haccepted.mp ⟨_, hok⟩, _, hok, hvisible, rfl, rfl⟩

end Registrar.Signature
