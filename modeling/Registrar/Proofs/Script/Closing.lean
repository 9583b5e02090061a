import Registrar.Proofs.Container.Closing
import Registrar.Proofs.Container.Sharing
import Registrar.Proofs.Script.Arguments
import Registrar.Script.Evaluation

/-! # Scripts leave sessions closed

Evaluating a term leaves a closed session closed, by induction on the term, and so does calling a
value, by induction on how deep calls may be nested. So nothing dangles in a session that scripts
have got to, nor in the values they give.
-/

namespace Registrar

open Run
open Value (Within AllWithin)

/-- Calls with values of a closed session leave it closed. -/
def CallsClose (call : Caller) : Prop :=
  ∀ value positions names (before : Session), before.Closed →
    AllWithin before.objects.size positions → AllWithin before.objects.size (names.map Prod.snd) →
    Closes Within before (call value positions names)

namespace Store.Closed

variable {store : Store} {value key fallback found : Value} (hclosed : store.Closed)
include hclosed

theorem sequence?_within {elements : List Value} (h : store.sequence? value = some elements) :
    ∀ element ∈ elements, element.Within store.size := by
  unfold Store.sequence? at h
  split at h
  case h_5 => cases h
  all_goals exact hclosed.elements?_within h

theorem get_within (h : store.get value key = .ok found) : found.Within store.size := by
  unfold Store.get at h
  split at h
  · next entries hentries =>
    split at h
    · cases h
    · split at h
      · next other hother =>
        cases h
        obtain ⟨key, hmem⟩ := Entries.exists_mem_of_find? hother
        exact (hclosed.entries?_within hentries _ hmem).2
      · cases h
  · split at h
    · next elements index helements _ =>
      split at h
      · next other hother =>
        cases h
        obtain ⟨place, -, hplace⟩ := Option.bind_eq_some_iff.mp hother
        exact hclosed.sequence?_within helements _ (List.mem_of_getElem? hplace)
      · cases h
    · cases h

theorem getOr_within (h : store.getOr value key fallback = .ok found)
    (hfallback : fallback.Within store.size) : found.Within store.size := by
  unfold Store.getOr at h
  split at h
  · next entries hentries =>
    split at h
    · cases h
    · cases h
      cases hfound : Entries.find? store.sameKey entries key with
      | none => exact hfallback
      | some other =>
        obtain ⟨key, hmem⟩ := Entries.exists_mem_of_find? hfound
        exact (hclosed.entries?_within hentries _ hmem).2
  · cases h

end Store.Closed

/-- The first of some entries that are put together has a key of theirs. -/
theorem Run.within_head_entriesOf {before : Session} {elements : List Value}
    {found : List (Value × Value)} (h : AllWithin before.objects.size elements)
    (hrun : entriesOf (elements.map fun key => (key, .null)) before = (.ok found, before)) :
    AllWithin before.objects.size (found.head?.map Prod.fst).toList := by
  have hentries : AllWithin before.objects.size
      (Entries.values (elements.map fun key => (key, .null))) := by
    refine Entries.forall_values.mpr fun entry hentry => ?_
    obtain ⟨element, helement, rfl⟩ := List.mem_map.mp hentry
    exact ⟨h element helement, trivial⟩
  have hfound := Entries.forall_values.mp (within_entriesOf hentries hrun)
  cases found with
  | nil => exact List.forall_mem_nil _
  | cons entry found => exact List.forall_mem_singleton.mpr (hfound entry List.mem_cons_self).1

theorem Run.closes_view {before : Session} {mapping : Value} (hclosed : before.Closed)
    (hmapping : mapping.Within before.objects.size) :
    Closes Within before (do
      if ((← Run.objects).entries? mapping).isNone then throw .mistyped
      Run.create (.view mapping)) := by
  have hview : Closes Within before (Run.create (.view mapping)) :=
    closes_create hclosed (List.forall_mem_singleton.mpr hmapping) fun _ => nofun
  refine looks_objects.closes_bind hclosed fun objects _ => ?_
  split
  · exact closes_throw_bind hclosed _
  · exact hview

/-- A named value that is found is one of those that are named. -/
theorem Run.closes_need {before : Session} {entries : List (String × Value)} {name : String}
    {fault : Fault} (hclosed : before.Closed)
    (hentries : AllWithin before.objects.size (entries.map Prod.snd)) :
    Closes Within before (need fault (Entries.find? (· == ·) entries name)) := by
  refine (looks_need _ _).closes hclosed fun value hvalue => ?_
  obtain ⟨found, hfound⟩ := Entries.exists_mem_of_find? (eq_some_of_need hvalue)
  exact hentries value (List.mem_map.mpr ⟨_, hfound, rfl⟩)

/-- A value that may be missing, or what stands in for it. -/
theorem Value.within_getD {size : Nat} {value? : Option Value} {fallback : Value}
    (h : AllWithin size value?.toList) (hfallback : fallback.Within size) :
    (value?.getD fallback).Within size := by
  cases value? with
  | none => exact hfallback
  | some value => exact h value List.mem_cons_self

section

variable {call : Caller} (h : CallsClose call) {scope : Scope}
include h

set_option linter.unusedSectionVars false

mutual

theorem Term.eval_closes : ∀ (term : Term) {before : Session}, before.Closed →
    AllWithin before.objects.size (scope.map Prod.snd) →
    Closes Within before (term.eval call scope)
  | .null, _, hclosed, _ | .bool _, _, hclosed, _ | .int _, _, hclosed, _
  | .text _, _, hclosed, _ | .bytes _, _, hclosed, _ | .kind _, _, hclosed, _ =>
    closes_pure hclosed trivial
  | .list elements, _, hclosed, hscope =>
    (Term.evalAll_closes elements hclosed hscope).bind fun _ _ hafter _ helements =>
      closes_list hafter helements
  | .tuple elements, _, hclosed, hscope =>
    (Term.evalAll_closes elements hclosed hscope).bind fun _ _ hafter _ helements =>
      closes_tuple hafter helements
  | .set elements, _, hclosed, hscope =>
    (Term.evalAll_closes elements hclosed hscope).bind fun _ _ hafter _ helements =>
      (looks_entriesOf _).closes_bind hafter fun _ hfound =>
        closes_create hafter (within_head_entriesOf helements hfound) fun _ => nofun
  | .dict entries, _, hclosed, hscope =>
    (Term.evalPairs_closes entries hclosed hscope).bind fun _ _ hafter _ hentries =>
      (looks_entriesOf _).closes_bind hafter fun _ hfound =>
        closes_dict hafter (within_entriesOf hentries hfound)
  | .view mapping, _, hclosed, hscope =>
    (Term.eval_closes mapping hclosed hscope).bind fun _ _ hafter _ hmapping =>
      closes_view hafter hmapping
  | .callable parameters body name qualifiedName form, _, hclosed, hscope =>
    (Term.evalDefaults_closes parameters hclosed hscope).bind fun _ _ hafter _ hdefaults =>
      closes_create hafter hdefaults fun _ => nofun
  | .stored name, before, hclosed, _ =>
    looks_get.closes_bind hclosed fun session hsession => by
      cases hsession
      refine closes_need hclosed fun value hvalue => ?_
      obtain ⟨entry, hentry, rfl⟩ := List.mem_map.mp hvalue
      exact hclosed.kept entry hentry
  | .argument name, _, hclosed, hscope => closes_need hclosed hscope
  | .arguments, _, hclosed, hscope => closes_dict_text hclosed hscope
  | .get mapping key, _, hclosed, hscope => by
    refine (Term.eval_closes mapping hclosed hscope).bind fun mapping between hbetween hle _ => ?_
    refine (Term.eval_closes key hbetween (hscope.mono hle)).bind fun key after hafter _ _ => ?_
    refine looks_objects.closes_bind hafter fun objects hobjects => ?_
    cases hobjects
    exact (looks_ofExcept _).closes hafter fun value hvalue =>
      hafter.objects.get_within (eq_ok_of_ofExcept hvalue)
  | .getOr mapping key fallback, _, hclosed, hscope => by
    refine (Term.eval_closes mapping hclosed hscope).bind fun mapping first hfirst hle _ => ?_
    have hscope := hscope.mono hle
    refine (Term.eval_closes key hfirst hscope).bind fun key second hsecond hle _ => ?_
    have hscope := hscope.mono hle
    refine (Term.eval_closes fallback hsecond hscope).bind fun fallback last hlast _ hfallback => ?_
    refine looks_objects.closes_bind hlast fun objects hobjects => ?_
    cases hobjects
    exact (looks_ofExcept _).closes hlast fun value hvalue =>
      hlast.objects.getOr_within (eq_ok_of_ofExcept hvalue) hfallback
  | .has mapping key, _, hclosed, hscope => by
    refine (Term.eval_closes mapping hclosed hscope).bind fun mapping between hbetween hle _ => ?_
    refine (Term.eval_closes key hbetween (hscope.mono hle)).bind fun key after hafter _ _ => ?_
    refine looks_objects.closes_bind hafter fun objects _ => ?_
    exact (looks_ofExcept _).closes_bind hafter fun _ _ => closes_pure hafter trivial
  | .keys mapping, _, hclosed, hscope => by
    refine (Term.eval_closes mapping hclosed hscope).bind fun mapping after hafter _ _ => ?_
    refine looks_objects.closes_bind hafter fun objects hobjects => ?_
    cases hobjects
    exact (looks_need _ _).closes_bind hafter fun elements helements =>
      closes_list hafter (hafter.objects.elements?_within (eq_some_of_need helements))
  | .put mapping key value, _, hclosed, hscope => by
    refine (Term.eval_closes mapping hclosed hscope).bind fun mapping first hfirst hle _ => ?_
    have hscope := hscope.mono hle
    refine (Term.eval_closes key hfirst hscope).bind fun key second hsecond hle hkey => ?_
    have hscope := hscope.mono hle
    refine (Term.eval_closes value hsecond hscope).bind fun value last hlast hmore hvalue => ?_
    exact closes_put hlast (hkey.mono hmore) hvalue
  | .concat parts, _, hclosed, hscope =>
    (Term.evalAll_closes parts hclosed hscope).bind fun _ _ hafter _ _ =>
      (looks_need _ _).closes_bind hafter fun _ _ => closes_pure hafter trivial
  | .add left right, _, hclosed, hscope =>
    (Term.eval_closes left hclosed hscope).bind fun _ _ hbetween hle _ =>
      (Term.eval_closes right hbetween (hscope.mono hle)).bind fun _ _ hafter _ _ =>
        closes_add hafter
  | .call callee positions names, _, hclosed, hscope => by
    refine (Term.eval_closes callee hclosed hscope).bind fun callee first hfirst hle _ => ?_
    have hscope := hscope.mono hle
    refine (Term.evalAll_closes positions hfirst hscope).bind
      fun positions second hsecond hle hpositions => ?_
    have hscope := hscope.mono hle
    refine (Term.evalPairs_closes names hsecond hscope).bind fun entries last hlast hmore hentries => ?_
    refine (looks_namesOf _).closes_bind hlast fun names hnames => ?_
    exact h callee positions names last hlast (hpositions.mono hmore) (within_namesOf hentries hnames)
  | .sequence terms, _, hclosed, hscope => by
    refine (Term.evalAll_closes terms hclosed hscope).bind fun values after hafter _ hvalues => ?_
    refine closes_pure hafter ?_
    cases hlast : values.getLast? with
    | none => trivial
    | some value => exact hvalues value (List.mem_of_getLast? hlast)
  | .branch condition yes no, _, hclosed, hscope => by
    refine (Term.eval_closes condition hclosed hscope).bind fun condition after hafter hle _ => ?_
    refine looks_objects.closes_bind hafter fun objects _ => ?_
    split
    · exact Term.eval_closes yes hafter (hscope.mono hle)
    · exact Term.eval_closes no hafter (hscope.mono hle)
  | .same left right, _, hclosed, hscope =>
    (Term.eval_closes left hclosed hscope).bind fun _ _ hbetween hle _ =>
      (Term.eval_closes right hbetween (hscope.mono hle)).bind fun _ _ hafter _ _ =>
        closes_pure hafter trivial
  | .equal left right, _, hclosed, hscope => by
    refine (Term.eval_closes left hclosed hscope).bind fun left between hbetween hle _ => ?_
    refine (Term.eval_closes right hbetween (hscope.mono hle)).bind fun right after hafter _ _ => ?_
    refine looks_objects.closes_bind hafter fun objects _ => ?_
    exact (looks_need _ _).closes_bind hafter fun _ _ => closes_pure hafter trivial
  | .identity value, _, hclosed, hscope =>
    (Term.eval_closes value hclosed hscope).bind fun _ _ hafter _ _ => closes_identity hafter
  | .trace value, _, hclosed, hscope =>
    (Term.eval_closes value hclosed hscope).bind fun _ _ hafter _ hvalue =>
      closes_trace hafter hvalue
  | .fail message, _, hclosed, _ => closes_throw hclosed _
  | .perform container none action, _, hclosed, hscope =>
    Action.run_closes container action hclosed hscope
  | .perform container (some name) action, _, hclosed, hscope => by
    refine (Action.run_closes container action hclosed hscope).bind fun value between hbetween _ hvalue => ?_
    refine (closes_keep hbetween hvalue).bind fun _ after hafter hle _ => ?_
    exact closes_pure hafter (hvalue.mono hle)

theorem Term.evalAll_closes : ∀ (terms : List Term) {before : Session}, before.Closed →
    AllWithin before.objects.size (scope.map Prod.snd) →
    Closes AllWithin before (Term.evalAll call scope terms)
  | [], _, hclosed, _ => closes_pure hclosed (List.forall_mem_nil _)
  | term :: rest, _, hclosed, hscope => by
    refine (Term.eval_closes term hclosed hscope).bind fun value after hafter hle hvalue => ?_
    refine (Term.evalAll_closes rest hafter (hscope.mono hle)).bind
      fun values last hlast hmore hvalues => ?_
    exact closes_pure hlast (List.forall_mem_cons.mpr ⟨hvalue.mono hmore, hvalues⟩)

theorem Term.evalPairs_closes : ∀ (pairs : List (Term × Term)) {before : Session}, before.Closed →
    AllWithin before.objects.size (scope.map Prod.snd) →
    Closes (fun size entries => AllWithin size (Entries.values entries)) before
      (Term.evalPairs call scope pairs)
  | [], _, hclosed, _ => closes_pure hclosed (List.forall_mem_nil _)
  | (key, value) :: rest, _, hclosed, hscope => by
    refine (Term.eval_closes key hclosed hscope).bind fun key first hfirst hle hkey => ?_
    have hscope := hscope.mono hle
    refine (Term.eval_closes value hfirst hscope).bind fun value second hsecond hle hvalue => ?_
    have hscope := hscope.mono hle
    refine (Term.evalPairs_closes rest hsecond hscope).bind fun entries last hlast hmore hentries => ?_
    exact closes_pure hlast (List.forall_mem_cons.mpr ⟨hkey.mono (hle.trans hmore),
      List.forall_mem_cons.mpr ⟨hvalue.mono hmore, hentries⟩⟩)

theorem Term.evalDefaults_closes : ∀ (parameters : List (Parameter Term)) {before : Session},
    before.Closed → AllWithin before.objects.size (scope.map Prod.snd) →
    Closes (fun size signature => AllWithin size signature.defaults) before
      (Term.evalDefaults call scope parameters)
  | [], _, hclosed, _ => closes_pure hclosed (List.forall_mem_nil _)
  | ⟨_, _, none⟩ :: rest, _, hclosed, hscope =>
    (Term.evalDefaults_closes rest hclosed hscope).bind fun _ _ hafter _ hdefaults =>
      closes_pure hafter hdefaults
  | ⟨_, _, some default⟩ :: rest, _, hclosed, hscope => by
    refine (Term.eval_closes default hclosed hscope).bind fun default after hafter hle hdefault => ?_
    refine (Term.evalDefaults_closes rest hafter (hscope.mono hle)).bind
      fun signature last hlast hmore hdefaults => ?_
    exact closes_pure hlast (List.forall_mem_cons.mpr ⟨hdefault.mono hmore, hdefaults⟩)

theorem Term.evalOption_closes : ∀ (term? : Option Term) {before : Session},
    before.Closed → AllWithin before.objects.size (scope.map Prod.snd) →
    Closes (fun size value? => AllWithin size value?.toList) before
      (Term.evalOption call scope term?)
  | none, _, hclosed, _ => closes_pure hclosed (List.forall_mem_nil _)
  | some term, _, hclosed, hscope =>
    (Term.eval_closes term hclosed hscope).bind fun _ _ hafter _ hvalue =>
      closes_pure hafter (List.forall_mem_singleton.mpr hvalue)

theorem Action.run_closes (container : String) : ∀ (action : Action) {before : Session},
    before.Closed → AllWithin before.objects.size (scope.map Prod.snd) →
    Closes Within before (action.run call scope container)
  | .create strict, _, hclosed, _ =>
    (closes_createContainer hclosed).bind fun _ _ hafter _ _ => closes_pure hafter trivial
  | .registerConfig name config, _, hclosed, hscope => by
    refine (Term.eval_closes name hclosed hscope).bind fun name between hbetween hle hname => ?_
    refine (Term.eval_closes config hbetween (hscope.mono hle)).bind
      fun config after hafter hmore hconfig => ?_
    refine (looks_containerNamed _).closes_bind hafter fun index hindex => ?_
    exact closes_request ⟨index, name, .config config⟩ hafter
      (lt_of_containerNamed hafter.toGrounded hindex)
      (List.forall_mem_cons.mpr ⟨hname.mono hmore, List.forall_mem_singleton.mpr hconfig⟩)
  | .register registrant manner name dependencies implementation kind, _, hclosed, hscope => by
    refine (Term.eval_closes name hclosed hscope).bind fun name first hfirst hle hname => ?_
    have hscope := hscope.mono hle
    refine (Term.eval_closes dependencies hfirst hscope).bind
      fun dependencies second hsecond hle hdependencies => ?_
    have hscope := hscope.mono hle
    have hname := hname.mono hle
    refine (Term.evalOption_closes implementation hsecond hscope).bind
      fun implementation third hthird hle himplementation => ?_
    have hscope := hscope.mono hle
    have hname := hname.mono hle
    have hdependencies := hdependencies.mono hle
    refine (Term.evalOption_closes kind hthird hscope).bind fun kind last hlast hle hkind => ?_
    refine (looks_containerNamed _).closes_bind hlast fun index hindex => ?_
    have hindex := lt_of_containerNamed hlast.toGrounded hindex
    have himplementation : (implementation.getD .null).Within last.objects.size :=
      Value.within_getD (himplementation.mono hle) trivial
    have hkind : (kind.getD (.kind .function)).Within last.objects.size :=
      Value.within_getD hkind trivial
    extract_lets kind? registration
    have hregistration : AllWithin last.objects.size (Object.pending registration).values := by
      refine List.forall_mem_cons.mpr ⟨hname.mono hle, List.forall_mem_cons.mpr
        ⟨hdependencies.mono hle, ?_⟩⟩
      cases registrant with
      | component => exact List.forall_mem_nil _
      | function => exact List.forall_mem_singleton.mpr hkind
      | hook => exact List.forall_mem_singleton.mpr trivial
    cases manner with
    | direct => exact closes_complete hlast hindex hregistration himplementation
    | entryPoint => exact closes_enter hlast hindex hregistration himplementation
    | decorator =>
      have hnull : Value.null.Within last.objects.size := trivial
      refine (closes_enter hlast hindex hregistration hnull).bind
        fun decorator after hafter hmore _ => ?_
      exact h decorator [_] [] after hafter
        (List.forall_mem_singleton.mpr (himplementation.mono hmore)) (List.forall_mem_nil _)
  | .evaluate term, _, hclosed, hscope => Term.eval_closes term hclosed hscope
  | .get name, _, hclosed, hscope =>
    (Term.eval_closes name hclosed hscope).bind fun _ _ hafter _ _ =>
      (looks_containerNamed _).closes_bind hafter fun _ _ =>
        (closes_item? hafter).bind fun _ _ hlast _ hitem => closes_pure hlast hitem
  | .contains name, _, hclosed, hscope =>
    (Term.eval_closes name hclosed hscope).bind fun _ _ hafter _ _ =>
      (looks_containerNamed _).closes_bind hafter fun _ _ =>
        (closes_item? hafter).bind fun _ _ hlast _ _ => closes_pure hlast trivial
  | .names, _, hclosed, _ =>
    (looks_containerNamed _).closes_bind hclosed fun _ _ =>
      (looks_container _).closes_bind hclosed fun _ _ => closes_texts hclosed
  | .count, _, hclosed, _ =>
    (looks_containerNamed _).closes_bind hclosed fun _ _ =>
      (looks_container _).closes_bind hclosed fun _ _ => closes_pure hclosed trivial
  | .build dependencies overrides, _, hclosed, hscope =>
    (Term.eval_closes dependencies hclosed hscope).bind fun _ _ hbetween hle _ =>
      (Term.evalOption_closes overrides hbetween (hscope.mono hle)).bind fun _ _ hafter _ _ =>
        (looks_containerNamed _).closes_bind hafter fun _ _ => closes_buildDependencies hafter
  | .metadata target, _, hclosed, hscope =>
    (Term.eval_closes target hclosed hscope).bind fun _ _ hafter _ _ => closes_metadata hafter
  | .display target, _, hclosed, hscope =>
    (Term.eval_closes target hclosed hscope).bind fun _ _ hafter _ _ =>
      (looks_display _).closes_bind hafter fun _ _ => closes_pure hafter trivial
  | .inspect target, _, hclosed, hscope =>
    (Term.eval_closes target hclosed hscope).bind fun _ _ hafter _ _ => closes_inspect hafter

end

end

/-! ## Calls -/

theorem Signature.forall_givenBy {α : Type} {property : α → Prop} {name : String}
    {names : List (String × α)} {value : α} (h : ∀ value ∈ names.map Prod.snd, property value)
    (hvalue : givenBy name names = some value) : property value := by
  obtain ⟨entry, hentry, rfl⟩ := Option.map_eq_some_iff.mp hvalue
  exact h _ (List.mem_map.mpr ⟨entry, List.mem_of_find?_eq_some hentry, rfl⟩)

theorem Signature.forall_besides {α : Type} {property : α → Prop} {name : String}
    {names : List (String × α)} (h : ∀ value ∈ names.map Prod.snd, property value) :
    ∀ value ∈ (besides name names).map Prod.snd, property value := by
  intro value hvalue
  obtain ⟨entry, hentry, rfl⟩ := List.mem_map.mp hvalue
  exact h _ (List.mem_map.mpr ⟨entry, (List.mem_filter.mp hentry).1, rfl⟩)

section

variable {α : Type} {property : α → Prop} {parameter : Parameter α} {rest : Signature α}
  {positions : List α} {names : List (String × α)} {bound : List (String × Argument α)}

/-- What a parameter binds by name is what a call gives, or its default. -/
theorem Signature.forall_bound_by_name
    (hrest : ∀ {names : List (String × α)} {bound : List (String × Argument α)},
      bind? rest positions names = some bound → (∀ value ∈ names.map Prod.snd, property value) →
      ∀ entry ∈ bound, ∀ value ∈ entry.2.values, property value)
    (hdefault : ∀ value, parameter.default? = some value → property value)
    (hnames : ∀ value ∈ names.map Prod.snd, property value)
    (h : (match (if parameter.kind.isNamed then givenBy parameter.name names else none) with
      | some value => (bind? rest positions (besides parameter.name names)).map
          ((parameter.name, .one value) :: ·)
      | none => parameter.default?.bind fun value => (bind? rest positions names).map
          ((parameter.name, .one value) :: ·)) = some bound) :
    ∀ entry ∈ bound, ∀ value ∈ entry.2.values, property value := by
  split at h
  · next value hgiven =>
    have hvalue : property value := by
      split at hgiven
      · exact forall_givenBy hnames hgiven
      · cases hgiven
    obtain ⟨more, hmore, rfl⟩ := Option.map_eq_some_iff.mp h
    exact List.forall_mem_cons.mpr
      ⟨List.forall_mem_singleton.mpr hvalue, hrest hmore (forall_besides hnames)⟩
  · obtain ⟨value, hvalue, h⟩ := Option.bind_eq_some_iff.mp h
    obtain ⟨more, hmore, rfl⟩ := Option.map_eq_some_iff.mp h
    exact List.forall_mem_cons.mpr
      ⟨List.forall_mem_singleton.mpr (hdefault value hvalue), hrest hmore hnames⟩

end

/-- What a call binds is what it gives, and the defaults. -/
theorem Signature.forall_bind? {α : Type} {property : α → Prop} {signature : Signature α}
    {positions : List α} {names : List (String × α)} {bound : List (String × Argument α)}
    (h : bind? signature positions names = some bound)
    (hdefaults : ∀ value ∈ signature.defaults, property value)
    (hpositions : ∀ value ∈ positions, property value)
    (hnames : ∀ value ∈ names.map Prod.snd, property value) :
    ∀ entry ∈ bound, ∀ value ∈ entry.2.values, property value := by
  induction signature generalizing positions names bound with
  | nil => cases positions <;> cases names <;> simp_all [bind?]
  | cons parameter rest ih =>
    have hdefault (value : α) (hvalue : parameter.default? = some value) : property value :=
      hdefaults value (List.mem_filterMap.mpr ⟨parameter, List.mem_cons_self, hvalue⟩)
    have hlater : ∀ value ∈ Signature.defaults rest, property value := fun value hvalue => by
      obtain ⟨other, hother, hsome⟩ := List.mem_filterMap.mp hvalue
      exact hdefaults value (List.mem_filterMap.mpr ⟨other, List.mem_cons_of_mem _ hother, hsome⟩)
    have hcons {argument : Argument α} {left : List α} {named : List (String × α)}
        (h : (bind? rest left named).map ((parameter.name, argument) :: ·) = some bound)
        (hargument : ∀ value ∈ argument.values, property value)
        (hleft : ∀ value ∈ left, property value)
        (hnamed : ∀ value ∈ named.map Prod.snd, property value) :
        ∀ entry ∈ bound, ∀ value ∈ entry.2.values, property value := by
      obtain ⟨more, hmore, rfl⟩ := Option.map_eq_some_iff.mp h
      exact List.forall_mem_cons.mpr ⟨hargument, ih hmore hlater hleft hnamed⟩
    cases hkind : parameter.kind with
    | keywords =>
      simp only [bind?, hkind] at h
      exact hcons h hnames hpositions (List.forall_mem_nil _)
    | variadic =>
      simp only [bind?, hkind] at h
      exact hcons h hpositions (List.forall_mem_nil _) hnames
    | named =>
      obtain ⟨name, kind, default?⟩ := parameter
      subst hkind
      cases positions <;>
        exact forall_bound_by_name (fun h hnamed => ih h hlater hpositions hnamed) hdefault hnames h
    | positionalOnly | positional =>
      cases positions with
      | nil =>
        rw [bind?_without (by simp [hkind])] at h
        exact forall_bound_by_name (fun h hnamed => ih h hlater hpositions hnamed) hdefault hnames h
      | cons value positions =>
        obtain ⟨hvalue, hpositions⟩ := List.forall_mem_cons.mp hpositions
        rw [bind?_with (by simp [hkind, ParameterKind.isPositional])] at h
        split at h
        · cases h
        · exact hcons h (List.forall_mem_singleton.mpr hvalue) hpositions hnames

theorem Value.within_texts {size : Nat} (texts : List String) :
    AllWithin size (texts.map .text) := by
  intro value hvalue
  obtain ⟨text, -, rfl⟩ := List.mem_map.mp hvalue
  trivial

theorem FunctionItem.passes_closes (item : FunctionItem) {positions : List Value}
    {names : List (String × Value)} {before : Session} (hclosed : before.Closed)
    (hpositions : AllWithin before.objects.size positions)
    (hnames : AllWithin before.objects.size (names.map Prod.snd)) :
    Closes (fun size passed => AllWithin size passed.1 ∧ AllWithin size (passed.2.map Prod.snd))
      before (item.passes positions names) := by
  unfold passes
  extract_lets rest
  have hrest (given : Unit) : Closes (fun size passed =>
      AllWithin size passed.1 ∧ AllWithin size (passed.2.map Prod.snd)) before (rest given) := by
    dsimp only [rest]
    split
    · exact closes_pure hclosed ⟨hpositions, hnames⟩
    · next parameter =>
      refine (looks_ofExcept _).closes_bind hclosed fun arguments harguments => ?_
      obtain ⟨-, hgiven, hnamed, -, -⟩ := takeBag_ok (eq_ok_of_ofExcept harguments)
      have hpassed : AllWithin before.objects.size arguments.positions := fun value hvalue =>
        hpositions value (List.mem_of_mem_take (hgiven ▸ hvalue))
      have hnames : AllWithin before.objects.size (arguments.names.map Prod.snd) := by
        rw [hnamed]
        exact Signature.forall_besides hnames
      refine (looks_bag _).closes_bind hclosed fun bag hbag => ?_
      refine (closes_dependencySet hclosed (within_bag hclosed hbag) (Value.within_texts _)).bind
        fun set after hafter hle hset => ?_
      split
      · refine closes_pure hafter ⟨List.forall_mem_append.mpr ⟨hpassed.mono hle, ?_⟩, hnames.mono hle⟩
        exact List.forall_mem_singleton.mpr hset
      · refine closes_pure hafter ⟨hpassed.mono hle, fun value hvalue => ?_⟩
        obtain ⟨entry, hentry, rfl⟩ := List.mem_map.mp hvalue
        have hgiven := List.forall_mem_map.mp (hnames.mono hle)
        exact Entries.forall_snd_put hgiven hset entry hentry
  split
  · exact closes_throw_bind hclosed _
  · exact hrest ()

theorem ComponentItem.within_registered (item : ComponentItem) {index : Nat} {container : Container}
    {before : Session} (hclosed : before.Closed)
    (hcontainer : before.containers[index]? = some container) :
    AllWithin before.objects.size ((item.registered container).map Prod.snd) := by
  intro value hvalue
  obtain ⟨entry, hentry, rfl⟩ := List.mem_map.mp hvalue
  obtain ⟨key, -, rfl⟩ := List.mem_map.mp hentry
  refine Value.within_getD (fun found hfound => ?_) trivial
  obtain ⟨other, hother⟩ := Entries.exists_mem_of_find? (Option.mem_toList.mp hfound)
  exact hclosed.items index container hcontainer _ hother

/-- A component hands over a dependency set of the session. -/
theorem ComponentItem.prepare_closes {item : ComponentItem} {self : Value}
    {properties : List (String × Value)} {overrides : Value} {before : Session}
    (hclosed : before.Closed) (hself : before.objects.object? self = some (.component item))
    (hproperties : AllWithin before.objects.size (properties.map Prod.snd)) :
    Closes Within before (item.prepare self properties overrides) := by
  have hheld := hclosed.objects.holds_of_object? hself
  refine (looks_bag _).closes_bind hclosed fun bag hbag => ?_
  have hbag := within_bag hclosed hbag
  refine (looks_container _).closes_bind hclosed fun container hcontainer => ?_
  have hcontainer := some_of_container hcontainer
  refine looks_objects.closes_bind hclosed fun objects _ => ?_
  split
  · next dependencies hremembered =>
    obtain ⟨memo, hmemo, -, -, -, rfl⟩ := remembered?_eq_some.mp hremembered
    refine closes_pure hclosed (hheld _ (List.mem_cons_of_mem _ ?_))
    rw [hmemo]
    exact List.mem_cons_self
  · refine (closes_dependencySet hclosed hbag (Value.within_texts _)).bind_run
      fun set after hset hafter hle hwithin => ?_
    have hkept : after.objects.object? self = some (.component item) := by
      rw [Run.dependencySet_apply] at hset
      split at hset
      · cases hset
      · cases hset
        exact Session.object?_push hself
    have hreplaced : ({ after with objects := after.objects.replace self (.component
        { item with memo? := some ⟨properties, bag, item.registered container, set⟩ }) } :
          Session).Closed := by
      refine hafter.replace (List.forall_mem_cons.mpr ⟨?_, ?_⟩) ?_ fun _ => nofun
      · exact (hheld _ List.mem_cons_self).mono hle
      · refine List.forall_mem_append.mpr ⟨List.forall_mem_append.mpr
          ⟨List.forall_mem_cons.mpr ⟨hwithin, hproperties.mono hle⟩, hbag.mono hle⟩, ?_⟩
        exact (item.within_registered hclosed hcontainer).mono hle
      · rintro inner ⟨⟩
        exact ⟨_, hkept, rfl⟩
    refine ⟨hreplaced, (Store.size_replace self).ge, ?_⟩
    rintro _ ⟨⟩
    exact (Store.size_replace self).symm ▸ hwithin

section

variable {call : Caller} (h : CallsClose call)
include h

theorem ComponentItem.render_closes {item : ComponentItem} {self : Value} {positions : List Value}
    {names : List (String × Value)} {before : Session} (hclosed : before.Closed)
    (hself : before.objects.object? self = some (.component item))
    (hnames : AllWithin before.objects.size (names.map Prod.snd)) :
    Closes Within before (item.render self call positions names) := by
  unfold render
  split
  · exact closes_throw_bind hclosed _
  · have hproperties : AllWithin before.objects.size ((Signature.besides bagName names).map Prod.snd) :=
      Signature.forall_besides hnames
    refine (item.prepare_closes hclosed hself hproperties).bind fun set after hafter hle hset => ?_
    refine h item.implementation [] _ after hafter (List.forall_mem_nil _) ?_
    rw [List.map_append]
    exact List.forall_mem_append.mpr ⟨hproperties.mono hle, List.forall_mem_singleton.mpr hset⟩

theorem callOnce_closes : CallsClose (Run.callOnce call) := by
  intro value positions names before hclosed hpositions hnames
  refine (looks_object? value).closes_bind hclosed fun object hobject => ?_
  cases hobject
  split
  · next callable hcallable =>
    refine (looks_need _ _).closes_bind hclosed fun bound hbound => ?_
    have hwithin := Signature.forall_bind? (eq_some_of_need hbound)
      (hclosed.objects.holds_of_object? hcallable) hpositions hnames
    have heach (entry : String × Argument Value) (session : Session) (hsession : session.Closed)
        (hentry : AllWithin session.objects.size entry.2.values) :
        Closes (fun size (made : String × Value) => made.2.Within size) session
          (do return (entry.1, ← Run.argument entry.2)) :=
      (closes_argument hsession hentry).bind fun _ _ hlast _ hvalue => closes_pure hlast hvalue
    refine (closes_mapM (fun size entry => AllWithin size entry.2.values)
      (fun size (made : String × Value) => made.2.Within size) (fun _ _ _ => AllWithin.mono)
      (fun _ _ _ => Within.mono) heach hclosed hwithin).bind fun scope after hafter _ hscope => ?_
    refine Term.eval_closes h callable.body hafter fun value hvalue => ?_
    obtain ⟨entry, hentry, rfl⟩ := List.mem_map.mp hvalue
    exact hscope entry hentry
  · next item hitem =>
    rw [item.invoke_eq]
    refine (item.passes_closes hclosed hpositions hnames).bind fun passed after hafter _ hpassed => ?_
    exact h item.implementation passed.1 passed.2 after hafter hpassed.1 hpassed.2
  · next item hitem => exact item.render_closes h hclosed hitem hnames
  · next registration hregistration =>
    split
    · next name implementation hbound =>
      have hwithin := Signature.forall_bind? hbound (List.forall_mem_nil _) hpositions hnames
      have himplementation := hwithin _ List.mem_cons_self implementation List.mem_cons_self
      exact closes_complete hclosed (hclosed.pending value registration hregistration)
        (hclosed.objects.holds_of_object? hregistration) himplementation
    · exact closes_throw hclosed _
  · exact closes_throw hclosed _

end

theorem callWithin_closes (depth : Nat) : CallsClose (Run.callWithin depth) := by
  induction depth with
  | zero => exact fun _ _ _ _ hclosed _ _ => closes_throw hclosed _
  | succ depth ih => exact callOnce_closes ih

/-- Scripts leave sessions closed, step by step. -/
theorem Run.takeSteps_closed (depth : Nat) (steps : List Step) {session : Session}
    (hclosed : session.Closed) :
    (Run.takeSteps (Run.callWithin depth) steps session).2.Closed := by
  induction steps generalizing session with
  | nil => exact hclosed
  | cons step steps ih =>
    have hstep : Closes Within session
        ((Term.perform step.container step.keep step.action).eval (callWithin depth) []) :=
      Term.eval_closes (callWithin_closes depth) _ hclosed (List.forall_mem_nil _)
    exact ih hstep.closed

end Registrar
