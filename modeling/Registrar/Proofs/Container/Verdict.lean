import Registrar.Proofs.Container.Later

/-! # What comes of a registration

A registration is refused for a problem, or an item is stored and reported. Which of the two, and
all that is said of the problem or held by the item, hangs on the arguments and on the objects they
lead to. Objects that come later change nothing of it: only the reference of the new item is
another one.
-/

namespace Registrar

/-! ## Signatures callers see -/

namespace Signature

variable {α : Type} {signature : Signature α} {absent : α}

theorem defaults_withBag {default : α} (h : default ∈ (withBag absent signature).defaults) :
    default ∈ signature.defaults ∨ default = absent := by
  fun_induction withBag absent signature with
  | case1 => exact .inr (by simpa [defaults] using h)
  | case2 parameter =>
    simp only [defaults, List.mem_filterMap, List.mem_cons, List.not_mem_nil, or_false] at h ⊢
    obtain ⟨other, rfl | rfl, hother⟩ := h
    · exact .inr (Option.some.inj hother).symm
    · exact .inl ⟨other, rfl, hother⟩
  | case3 parameter =>
    simp only [defaults, List.mem_filterMap, List.mem_cons, List.not_mem_nil, or_false] at h ⊢
    obtain ⟨other, rfl | rfl, hother⟩ := h
    · exact .inl ⟨other, rfl, hother⟩
    · exact .inr (Option.some.inj hother).symm
  | case4 parameter rest hrest ih =>
    simp only [defaults, List.mem_filterMap, List.mem_cons] at h ih ⊢
    obtain ⟨other, rfl | hother, hdefault⟩ := h
    · exact .inl ⟨other, .inl rfl, hdefault⟩
    · obtain ⟨found, hfound, hsame⟩ | habsent := ih ⟨other, hother, hdefault⟩
      · exact .inl ⟨found, .inr hfound, hsame⟩
      · exact .inr habsent

/-- The defaults callers see are those of the implementation, and the absent bag. -/
theorem defaults_injection {hasDependencies : Bool} {injection : Injection α} {default : α}
    (h : signature.injection absent hasDependencies = .ok injection)
    (hdefault : default ∈ injection.signature.defaults) :
    default ∈ signature.defaults ∨ default = absent := by
  unfold Signature.injection at h
  split at h
  · cases hhidden : signature.dependencyParameter with
    | error reason =>
      rw [hhidden] at h
      cases h
    | ok hidden =>
      rw [hhidden] at h
      cases h
      refine (defaults_withBag hdefault).imp_left fun hvisible => ?_
      obtain ⟨parameter, hparameter, hsome⟩ := List.mem_filterMap.mp hvisible
      exact List.mem_filterMap.mpr ⟨parameter, (List.mem_filter.mp hparameter).1, hsome⟩
  · cases h
    exact .inl hdefault

end Signature

/-- What comes of a registration, apart from the session it is asked for in. -/
inductive Verdict
  | refused (problem : RegistrationProblem)
  | stored (key : String) (item : Object) (reports : List Event)

/-- What an item holds has been created, and it is no pending registration. -/
def Verdict.Within (size : Nat) : Verdict → Prop
  | refused _ => True
  | stored _ item _ =>
    (∀ value ∈ item.values, value.Within size) ∧ ∀ registration, item ≠ .pending registration

namespace Session

/-- A session with objects that came later. -/
def extend (session : Session) (later : Store) : Session :=
  { session with objects := session.objects ++ later }

/-- What a verdict on a registration makes of the session. -/
def conclude (session : Session) (index : Nat) : Verdict → Except Fault Value × Session
  | .refused problem => (.error (.registration problem), session)
  | .stored key item reports =>
    let reference : Value := .object session.objects.size
    (.ok reference, { session with
      objects := session.objects.push item
      containers := session.containers.modify index (·.store key reference)
      events := session.events ++ reports })

end Session

namespace Run

variable {α : Type} {session : Session}

/-- A check has one result, which has a property if the check passes, whatever objects come
later. -/
def Decided (property : α → Prop) (session : Session) (check : Run α) : Prop :=
  ∃ result : Except RegistrationProblem α, (∀ value, result = .ok value → property value) ∧
    ∀ later, check (session.extend later) =
      (result.mapError Fault.registration, session.extend later)

/-- A registration in a container comes to one verdict, whatever objects come later. -/
def Concludes (session : Session) (index : Nat) (run : Run Value) : Prop :=
  ∃ verdict : Verdict, verdict.Within session.objects.size ∧
    ∀ later, run (session.extend later) = (session.extend later).conclude index verdict

theorem Decided.passes {property : α → Prop} {check : Run α} {value : α} (hvalue : property value)
    (h : ∀ later, check (session.extend later) = (.ok value, session.extend later)) :
    Decided property session check :=
  ⟨.ok value, fun _ hsame => Except.ok.inj hsame ▸ hvalue, h⟩

theorem Decided.refuses {property : α → Prop} {check : Run α} (problem : RegistrationProblem)
    (h : ∀ later, check (session.extend later) =
      (.error (.registration problem), session.extend later)) :
    Decided property session check :=
  ⟨.error problem, nofun, h⟩

/-- What reads the same of every session comes before a check. -/
theorem Decided.after {β : Type} {property : α → Prop} {reading : Run β} {value : β}
    {next : β → Run α}
    (hreading : ∀ later, reading (session.extend later) = (.ok value, session.extend later))
    (h : Decided property session (next value)) : Decided property session (reading >>= next) := by
  obtain ⟨result, hproperty, hrun⟩ := h
  refine ⟨result, hproperty, fun later => ?_⟩
  rw [bind_apply, hreading]
  exact hrun later

theorem Decided.concludes {property : α → Prop} {check : Run α} {next : α → Run Value}
    {index : Nat} (h : Decided property session check)
    (hnext : ∀ value, property value → Concludes session index (next value)) :
    Concludes session index (check >>= next) := by
  obtain ⟨result, hproperty, hrun⟩ := h
  cases result with
  | error problem =>
    refine ⟨.refused problem, trivial, fun later => ?_⟩
    rw [bind_apply, hrun]
    rfl
  | ok value =>
    obtain ⟨verdict, hwithin, hverdict⟩ := hnext value (hproperty value rfl)
    refine ⟨verdict, hwithin, fun later => ?_⟩
    rw [bind_apply, hrun]
    exact hverdict later

/-! ## Checks -/

theorem object?_extend {value : Value} (hvalue : value.Within session.objects.size)
    (later : Store) : object? value (session.extend later) =
      (.ok (session.objects.object? value), session.extend later) := by
  rw [← Store.object?_later hvalue later]
  rfl

theorem decided_checkCallable (operation name : String) {implementation : Value}
    (himplementation : implementation.Within session.objects.size) :
    Decided (fun _ => True) session (checkCallable operation name implementation) := by
  have hrun (later : Store) : checkCallable operation name implementation (session.extend later) =
      (if !session.objects.isCallable implementation then refuse (.notCallable operation name)
        else pure () : Run Unit) (session.extend later) := by
    rw [← Store.isCallable_later himplementation later]
    rfl
  cases hcallable : session.objects.isCallable implementation with
  | true =>
    rw [hcallable] at hrun
    exact .passes trivial hrun
  | false =>
    rw [hcallable] at hrun
    exact .refuses _ hrun

section

variable (hclosed : session.Closed)
include hclosed

theorem display_extend {value : Value} (hvalue : value.Within session.objects.size) (later : Store) :
    display value (session.extend later) =
      (.ok (session.objects.display value), session.extend later) := by
  rw [← hclosed.objects.display_later hvalue later]
  rfl

theorem decided_checkedName (operation : String) {name : Value}
    (hname : name.Within session.objects.size) :
    Decided (fun _ => True) session (checkedName operation name) := by
  have hrefuses : Decided (fun _ : String => True) session
      (do refuse (.badName operation (← display name))) := by
    refine .refuses (.badName operation (session.objects.display name)) fun later => ?_
    rw [bind_apply, display_extend hclosed hname]
    rfl
  cases name with
  | text s =>
    by_cases hempty : s.isEmpty = true
    · unfold checkedName
      dsimp only
      rw [if_pos hempty]
      exact hrefuses
    · unfold checkedName
      dsimp only
      rw [if_neg hempty]
      exact .passes trivial fun _ => rfl
  | _ => exact hrefuses

theorem decided_checkedDependencies (operation name : String) {dependencies : Value}
    (hdependencies : dependencies.Within session.objects.size) :
    Decided (fun _ => True) session (checkedDependencies operation name dependencies) := by
  -- the elements that are no keys are shown one by one
  have hrefuses {invalid : List Value}
      (hheld : ∀ element ∈ invalid, element.Within session.objects.size) :
      Decided (fun _ : List String => True) session (do
        let shown := "[" ++ ", ".intercalate (invalid.map (← objects).display) ++ "]"
        refuse (.badDependencies operation name shown)) := by
    have hshown (later : Store) : invalid.map (session.extend later).objects.display =
        invalid.map session.objects.display :=
      List.map_congr_left fun element hmem => hclosed.objects.display_later (hheld element hmem) later
    refine .refuses (.badDependencies operation name
      ("[" ++ ", ".intercalate (invalid.map session.objects.display) ++ "]")) fun later => ?_
    rw [← hshown later]
    rfl
  refine .after (object?_extend hdependencies) ?_
  split
  · next elements hobject =>
    have hheld := hclosed.objects.holds_of_object? hobject
    split
    · exact .passes trivial fun _ => rfl
    · exact hrefuses fun element hmem => hheld element (List.mem_filter.mp hmem).1
  · next elements hobject =>
    have hheld := hclosed.objects.holds_of_object? hobject
    split
    · exact .passes trivial fun _ => rfl
    · exact hrefuses fun element hmem => hheld element (List.mem_filter.mp hmem).1
  · refine .refuses (.notDependencies operation name (session.objects.display dependencies))
      fun later => ?_
    rw [bind_apply, display_extend hclosed hdependencies]
    rfl

theorem decided_checkedKind {kind : Value} (hkind : kind.Within session.objects.size) :
    Decided (fun _ => True) session (checkedKind kind) := by
  unfold checkedKind
  split
  · exact .passes trivial fun _ => rfl
  · exact .passes trivial fun _ => rfl
  · refine .refuses (.badKind (session.objects.display kind)) fun later => ?_
    rw [bind_apply, display_extend hclosed hkind]
    rfl

theorem decided_checkedInjection (name : String) (hasDependencies : Bool) {implementation : Value}
    (himplementation : implementation.Within session.objects.size) :
    Decided (fun injection => ∀ default ∈ injection.signature.defaults,
        default.Within session.objects.size)
      session (checkedInjection name hasDependencies implementation) := by
  have hread (later : Store) : (session.extend later).objects.signature? implementation =
      session.objects.signature? implementation :=
    hclosed.objects.signature?_later himplementation later
  unfold checkedInjection
  cases hsignature : session.objects.signature? implementation with
  | none =>
    refine .refuses (.unreadable name) fun later => ?_
    rw [bind_apply, objects_apply]
    dsimp only
    rw [hread, hsignature]
    rfl
  | some signature =>
    cases hinjection : signature.injection .null hasDependencies with
    | error reason =>
      refine .refuses (reason.problem name) fun later => ?_
      rw [bind_apply, objects_apply]
      dsimp only
      rw [hread, hsignature]
      dsimp only
      rw [hinjection]
      rfl
    | ok injection =>
      have hwithin : ∀ default ∈ injection.signature.defaults,
          default.Within session.objects.size := by
        intro default hdefault
        obtain hdefault | rfl := Signature.defaults_injection hinjection hdefault
        · exact hclosed.objects.signature?_within hsignature default hdefault
        · trivial
      refine .passes hwithin fun later => ?_
      rw [bind_apply, objects_apply]
      dsimp only
      rw [hread, hsignature]
      dsimp only
      rw [hinjection]
      rfl

end

end Run

/-! ## Items -/

/-- What is reported when an item is stored under a key. -/
def Container.reports (container : Container) (objects : Store) (key : String) (kind : ItemKind) :
    List Event :=
  (((container.item? key).bind objects.metadata?).map fun previous => .replaced key previous.1).toList ++
    [.registered key kind]

namespace Run

variable {session : Session}

theorem storeItem_reports {index : Nat} {container : Container} (key : String) (kind : ItemKind)
    (item : Value) (h : session.containers[index]? = some container) :
    storeItem index key kind item session = (.ok item, { session with
      containers := session.containers.modify index (·.store key item)
      events := session.events ++ container.reports session.objects key kind }) := by
  unfold storeItem Container.reports
  rw [bind_apply, container_of_some h]
  dsimp only
  cases container.item? key with
  | none => rfl
  | some previous =>
    dsimp only
    rw [bind_apply, objects_apply, Option.bind_some]
    dsimp only
    cases session.objects.metadata? previous with
    | none => rfl
    | some metadata =>
      rw [Option.map_some, Option.toList_some, ← List.append_assoc]
      rfl

/-- Storing a new item is the same whatever objects come later. -/
theorem concludes_store (hclosed : session.Closed) {index : Nat}
    (hindex : index < session.containers.size) (item : Object)
    (hitem : ∀ value ∈ item.values, value.Within session.objects.size)
    (hpending : ∀ registration, item ≠ .pending registration) (key : String) (kind : ItemKind) :
    Concludes session index (create item >>= storeItem index key kind) := by
  have hcontainer : session.containers[index]? = some session.containers[index] :=
    Array.getElem?_eq_getElem hindex
  generalize session.containers[index] = container at hcontainer
  refine ⟨.stored key item (container.reports session.objects key kind), ⟨hitem, hpending⟩,
    fun later => ?_⟩
  -- an item whose place is taken was there before
  have hreports : container.reports ((session.objects ++ later).push item) key kind =
      container.reports session.objects key kind := by
    unfold Container.reports
    congr 3
    cases hprevious : container.item? key with
    | none => rfl
    | some previous =>
      obtain ⟨found, hfound⟩ := Entries.exists_mem_of_find? hprevious
      rw [← Array.append_push]
      exact Store.metadata?_later (hclosed.items index container hcontainer _ hfound) _
  rw [← hreports]
  exact @storeItem_reports
    { session.extend later with objects := (session.extend later).objects.push item } _ _ _ _ _ hcontainer

theorem Concludes.congr {index : Nat} {run other : Run Value}
    (hother : Concludes session index other)
    (h : ∀ later, run (session.extend later) = other (session.extend later)) :
    Concludes session index run := by
  obtain ⟨verdict, hwithin, hverdict⟩ := hother
  exact ⟨verdict, hwithin, fun later => (h later).trans (hverdict later)⟩

end Run

namespace Request

/-- The values a registration is asked with. -/
def values (request : Request) : List Value :=
  request.name :: match request.content with
    | .config mapping => [mapping]
    | .component dependencies implementation => [dependencies, implementation]
    | .function dependencies implementation kind => [dependencies, implementation, kind]

variable {session : Session}

open Run

theorem registerConfig_concludes (hclosed : session.Closed) {index : Nat} {name mapping : Value}
    (hindex : index < session.containers.size) (hname : name.Within session.objects.size)
    (hmapping : mapping.Within session.objects.size) :
    Concludes session index (registerConfig index name mapping) := by
  refine (decided_checkedName hclosed "register_config" hname).concludes fun key _ => ?_
  cases hentries : session.objects.entries? mapping with
  | none =>
    refine ⟨.refused (.notMapping key (session.objects.typeName mapping)), trivial, fun later => ?_⟩
    rw [bind_apply, objects_apply]
    dsimp only [Session.extend]
    rw [hclosed.objects.entries?_later hmapping, hentries, ← Store.typeName_later hmapping later]
    rfl
  | some entries =>
    have hheld := Entries.forall_values.mpr (hclosed.objects.entries?_within hentries)
    have hstore := concludes_store hclosed hindex (.config key entries) hheld (fun _ => by simp)
      key .config
    refine hstore.congr fun later => ?_
    rw [bind_apply, objects_apply]
    dsimp only [Session.extend]
    rw [hclosed.objects.entries?_later hmapping, hentries]

theorem registerComponent_concludes (hclosed : session.Closed) {index : Nat}
    {name dependencies implementation : Value} (hindex : index < session.containers.size)
    (hname : name.Within session.objects.size)
    (hdependencies : dependencies.Within session.objects.size)
    (himplementation : implementation.Within session.objects.size) :
    Concludes session index (registerComponent index name dependencies implementation) := by
  refine (decided_checkedName hclosed _ hname).concludes fun key _ => ?_
  refine (decided_checkedDependencies hclosed _ key hdependencies).concludes fun keys _ => ?_
  refine (decided_checkCallable _ key himplementation).concludes fun _ _ => ?_
  have hstore (item : ComponentItem) (hmemo : item.memo? = none)
      (hsame : item.implementation = implementation) :=
    concludes_store hclosed hindex (.component item)
      (by simp [Object.values, hmemo, hsame, himplementation]) (fun _ => by simp) key .component
  cases hnames : session.objects.callableNames implementation with
  | mk shownName? qualifiedName? =>
    refine (hstore ?item ?memo ?same).congr fun later => ?run
    case run =>
      rw [bind_apply, objects_apply]
      dsimp only [Session.extend]
      rw [Store.callableNames_later himplementation, hnames]
    case memo => rfl
    case same => rfl

theorem registerFunction_concludes (hclosed : session.Closed) {index : Nat}
    {name dependencies implementation kind : Value} (hindex : index < session.containers.size)
    (hname : name.Within session.objects.size)
    (hdependencies : dependencies.Within session.objects.size)
    (himplementation : implementation.Within session.objects.size)
    (hkind : kind.Within session.objects.size) :
    Concludes session index (registerFunction index name dependencies implementation kind) := by
  refine (decided_checkedName hclosed _ hname).concludes fun key _ => ?_
  refine (decided_checkedDependencies hclosed _ key hdependencies).concludes fun keys _ => ?_
  refine (decided_checkCallable _ key himplementation).concludes fun _ _ => ?_
  refine (decided_checkedKind hclosed hkind).concludes fun kind _ => ?_
  refine (decided_checkedInjection hclosed key (!keys.isEmpty) himplementation).concludes
    fun injection hinjection => ?_
  have hstore (item : FunctionItem) (hsame : item.implementation = implementation)
      (hhidden : item.injection = injection) :=
    concludes_store hclosed hindex (.function item)
      (List.forall_mem_cons.mpr ⟨hsame ▸ himplementation, hhidden ▸ hinjection⟩)
      (fun _ => by simp) key kind
  cases hnames : session.objects.callableNames implementation with
  | mk shownName? qualifiedName? =>
    refine (hstore ?item ?same ?hidden).congr fun later => ?run
    case run =>
      rw [bind_apply, objects_apply]
      dsimp only [Session.extend]
      rw [Store.callableNames_later himplementation, hnames]
    case same => rfl
    case hidden => rfl

/-- Whatever objects come later, a registration comes to the same verdict. -/
theorem run_concludes (request : Request) (hclosed : session.Closed)
    (hcontainer : request.container < session.containers.size)
    (hvalues : ∀ value ∈ request.values, value.Within session.objects.size) :
    Concludes session request.container request.run := by
  obtain ⟨index, name, content⟩ := request
  cases content with
  | config mapping =>
    exact registerConfig_concludes hclosed hcontainer (hvalues _ (by simp [values]))
      (hvalues _ (by simp [values]))
  | component dependencies implementation =>
    exact registerComponent_concludes hclosed hcontainer (hvalues _ (by simp [values]))
      (hvalues _ (by simp [values])) (hvalues _ (by simp [values]))
  | function dependencies implementation kind =>
    exact registerFunction_concludes hclosed hcontainer (hvalues _ (by simp [values]))
      (hvalues _ (by simp [values])) (hvalues _ (by simp [values])) (hvalues _ (by simp [values]))

end Request

end Registrar
