import Registrar.Proofs.Container.Agreement

/-! # Registrations that are asked for

A registration that is asked for is accepted exactly when its arguments are fit. An
accepted one makes a new item of the kind and the name it was asked for, and puts it
under that name; every other one is refused, and nothing at all has changed then.
-/

namespace Registrar

/-- What a registration is to make an item of. -/
inductive Request.Content
  | config (mapping : Value)
  | component (dependencies implementation : Value)
  | function (dependencies implementation kind : Value)

/-- A registration that is asked for. -/
structure Request where
  container : Nat
  name : Value
  content : Request.Content

namespace Request

/-- Perform a registration. -/
def run (request : Request) : Run Value :=
  match request.content with
  | .config mapping => Run.registerConfig request.container request.name mapping
  | .component dependencies implementation =>
    Run.registerComponent request.container request.name dependencies implementation
  | .function dependencies implementation kind =>
    Run.registerFunction request.container request.name dependencies implementation kind

/-- The key an accepted registration puts its item under. -/
def key (request : Request) : String :=
  match request.name with
  | .text name => name
  | _ => ""

/-- The kind of the item an accepted registration makes. -/
def kind (request : Request) : ItemKind :=
  match request.content with
  | .config _ => .config
  | .component .. => .component
  | .function _ _ (.kind kind) => kind
  | .function .. => .function

end Request

/-- A value is a sequence, but neither a text nor bytes, of texts that are not empty. -/
structure Store.Declares (store : Store) (value : Value) (keys : List String) : Prop where
  sequence : store.sequence? value = some (keys.map .text)
  notText : ∀ s, value ≠ .text s
  notBytes : ∀ octets, value ≠ .bytes octets
  filled : "" ∉ keys

/-- A signature has a slot for a dependency set: a last parameter by position, while no
other parameter has the name of the override bag. -/
def Signature.HasSlot {α : Type} (signature : Signature α) : Prop :=
  (∀ parameter ∈ signature, parameter.kind ≠ .variadic) ∧
    ∃ last, signature.positionals.getLast? = some last ∧
      (last.name = bagName ∨ ∀ parameter ∈ signature, parameter.name ≠ bagName)

namespace Request

/-- The content of a registration is fit: its configuration is a mapping, or its
implementation can be called and its dependencies are keys; a function also needs a kind
of its own, and a signature that can be read and has a slot for dependencies. -/
def Content.Fit (store : Store) : Content → Prop
  | .config mapping => (store.entries? mapping).isSome
  | .component dependencies implementation =>
    (∃ keys, store.Declares dependencies keys) ∧ store.isCallable implementation
  | .function dependencies implementation kind =>
    ∃ keys, store.Declares dependencies keys ∧ store.isCallable implementation ∧
      (kind = .kind .function ∨ kind = .kind .hook) ∧
      ∃ signature, store.signature? implementation = some signature ∧
        (keys ≠ [] → signature.HasSlot)

/-- A registration is acceptable: its name is a text that is not empty, and its content
is fit. -/
def Acceptable (store : Store) (request : Request) : Prop :=
  (∃ name, request.name = .text name ∧ name ≠ "") ∧ request.content.Fit store

end Request

/-! ## The checks of a registration -/

namespace Run

variable {α β : Type} {session : Session}

/-- A check passes with what has a property, or refuses because nothing has it. It changes
nothing. -/
inductive Checks (property : α → Prop) (session : Session) (run : Run α) : Prop
  | passes (value : α) : property value → run session = (.ok value, session) →
      Checks property session run
  | refuses (problem : RegistrationProblem) : (∀ value, ¬property value) →
      run session = (.error (.registration problem), session) → Checks property session run

/-- What only reads the session comes before a check. -/
theorem Checks.after {property : α → Prop} {reading : Run β} {value : β} {next : β → Run α}
    (hreading : reading session = (.ok value, session))
    (h : Checks property session (next value)) : Checks property session (reading >>= next) := by
  have hnext : (reading >>= next) session = next value session := by rw [bind_apply, hreading]
  obtain ⟨passed, hproperty, hrun⟩ | ⟨problem, hnone, hrun⟩ := h
  · exact .passes passed hproperty (hnext.trans hrun)
  · exact .refuses problem hnone (hnext.trans hrun)

theorem checkedName_checks (operation : String) (name : Value) :
    Checks (fun key => name = .text key ∧ key ≠ "") session (checkedName operation name) := by
  cases name with
  | text s =>
    unfold checkedName
    dsimp only
    split
    · next hempty =>
      refine .refuses _ (fun key h => h.2 ?_) rfl
      rw [← Value.text.inj h.1, String.isEmpty_iff.mp hempty]
    · next hempty => exact .passes s ⟨rfl, fun h => hempty (String.isEmpty_iff.mpr h)⟩ rfl
  | _ => exact .refuses _ (fun key h => Value.noConfusion h.1) rfl

end Run

theorem Store.declares_iff {store : Store} {value : Value} {keys : List String} :
    store.Declares value keys ↔
      (store.object? value = some (.list (keys.map .text)) ∨
        store.object? value = some (.tuple (keys.map .text))) ∧ "" ∉ keys := by
  have hentries (reference : Nat) (elements : List Value)
      (h : store[reference]? = some (.list elements) ∨ store[reference]? = some (.tuple elements)) :
      store.entries? (.object reference) = none := by
    unfold entries? entriesWithin
    rcases h with h | h <;> simp [object?, h]
  constructor
  · rintro ⟨hsequence, htext, hbytes, hfilled⟩
    refine ⟨?_, hfilled⟩
    cases value with
    | text s => exact absurd rfl (htext s)
    | bytes octets => exact absurd rfl (hbytes octets)
    | object reference =>
      unfold sequence? at hsequence
      cases hobject : store[reference]? with
      | none => simp [object?, hobject] at hsequence
      | some object =>
        cases object with
        | list elements =>
          simp [object?, hobject, elements?, hentries _ _ (.inl hobject)] at hsequence
          exact .inl (by simp [object?, hobject, hsequence])
        | tuple elements =>
          simp [object?, hobject, elements?, hentries _ _ (.inr hobject)] at hsequence
          exact .inr (by simp [object?, hobject, hsequence])
        | _ => simp [object?, hobject] at hsequence
    | _ => simp [sequence?, object?] at hsequence
  · rintro ⟨hobject, hfilled⟩
    cases value with
    | object reference =>
      refine ⟨?_, fun _ h => Value.noConfusion h, fun _ h => Value.noConfusion h, hfilled⟩
      unfold sequence? elements?
      rw [hentries _ _ hobject]
      rcases hobject with hobject | hobject <;> simp [hobject]
    | _ => simp [object?] at hobject

/-- A value declares one list of keys at most. -/
theorem Store.Declares.unique {store : Store} {value : Value} {keys others : List String}
    (h : store.Declares value keys) (hothers : store.Declares value others) : keys = others := by
  have hsame := Option.some.inj (h.sequence.symm.trans hothers.sequence)
  exact (List.map_inj_right fun _ _ => Value.text.inj).mp hsame

namespace Run

variable {session : Session}

/-- Texts that are keys are those that none of the elements is refused for. -/
theorem filter_isKeyText_eq_nil {elements : List Value} :
    (elements.filter fun element => !Store.isKeyText element) = [] ↔
      ∃ keys : List String, elements = keys.map .text ∧ "" ∉ keys := by
  induction elements with
  | nil => exact ⟨fun _ => ⟨[], rfl, nofun⟩, fun _ => rfl⟩
  | cons element elements ih =>
    constructor
    · intro h
      rw [List.filter_cons] at h
      split at h
      · cases h
      · next hkey =>
        obtain ⟨keys, rfl, hkeys⟩ := ih.mp h
        cases element with
        | text s =>
          refine ⟨s :: keys, rfl, ?_⟩
          rintro (⟨⟩ | ⟨_, hmem⟩)
          · exact hkey (by simp [Store.isKeyText])
          · exact hkeys hmem
        | _ => simp [Store.isKeyText] at hkey
    · rintro ⟨keys, hkeys, hfilled⟩
      cases keys with
      | nil => cases hkeys
      | cons key keys =>
        obtain ⟨rfl, rfl⟩ := List.cons.inj hkeys
        rw [List.mem_cons, not_or] at hfilled
        have hkey : Store.isKeyText (.text key) = true := by
          simpa [Store.isKeyText] using Ne.symm hfilled.1
        rw [List.filter_cons, if_neg (by simp [hkey])]
        exact ih.mpr ⟨keys, rfl, hfilled.2⟩

theorem checkedDependencies_checks (operation name : String) (dependencies : Value) :
    Checks (session.objects.Declares dependencies) session
      (checkedDependencies operation name dependencies) := by
  have hdeclares {elements : List Value} {keys : List String}
      (hobject : session.objects.object? dependencies = some (.list elements) ∨
        session.objects.object? dependencies = some (.tuple elements)) :
      session.objects.Declares dependencies keys ↔ elements = keys.map .text ∧ "" ∉ keys := by
    rw [Store.declares_iff]
    rcases hobject with hobject | hobject <;> simp [hobject]
  have hpasses {elements : List Value}
      (hobject : session.objects.object? dependencies = some (.list elements) ∨
        session.objects.object? dependencies = some (.tuple elements))
      (hnil : (elements.filter fun element => !Store.isKeyText element) = []) :
      Checks (session.objects.Declares dependencies) session (return elements.filterMap fun
        | .text s => some s
        | _ => none) := by
    obtain ⟨keys, rfl, hfilled⟩ := filter_isKeyText_eq_nil.mp hnil
    have hkeys : ((keys.map Value.text).filterMap fun
        | .text s => some s
        | _ => none) = keys := by
      simp [List.filterMap_map, Function.comp_def]
    rw [hkeys]
    exact .passes keys ((hdeclares hobject).mpr ⟨rfl, hfilled⟩) rfl
  have hrefuses {elements : List Value}
      (hobject : session.objects.object? dependencies = some (.list elements) ∨
        session.objects.object? dependencies = some (.tuple elements))
      (hinvalid : (elements.filter fun element => !Store.isKeyText element) ≠ [])
      (keys : List String) : ¬session.objects.Declares dependencies keys := fun h =>
    hinvalid (filter_isKeyText_eq_nil.mpr ⟨keys, (hdeclares hobject).mp h⟩)
  refine .after (object?_apply dependencies session) ?_
  split
  · next elements hobject =>
    split
    · next hnil => exact hpasses (.inl hobject) hnil
    · next hinvalid => exact .refuses _ (hrefuses (.inl hobject) hinvalid) rfl
  · next elements hobject =>
    split
    · next hnil => exact hpasses (.inr hobject) hnil
    · next hinvalid => exact .refuses _ (hrefuses (.inr hobject) hinvalid) rfl
  · next hlist htuple =>
    refine .refuses _ (fun keys h => ?_) rfl
    rcases (Store.declares_iff.mp h).1 with h | h
    · exact hlist _ h
    · exact htuple _ h

theorem checkCallable_checks (operation name : String) (implementation : Value) :
    Checks (fun _ => session.objects.isCallable implementation = true) session
      (checkCallable operation name implementation) := by
  refine .after (objects_apply session) ?_
  cases session.objects.isCallable implementation with
  | true => exact .passes () rfl rfl
  | false => exact .refuses _ (fun _ => Bool.false_ne_true) rfl

theorem checkedKind_checks (kind : Value) :
    Checks (fun made => kind = .kind made ∧ (made = .function ∨ made = .hook)) session
      (checkedKind kind) := by
  unfold checkedKind
  split
  · exact .passes ItemKind.function ⟨rfl, .inl rfl⟩ rfl
  · exact .passes ItemKind.hook ⟨rfl, .inr rfl⟩ rfl
  · next hfunction hhook =>
    refine .refuses _ (fun made h => ?_) rfl
    obtain ⟨rfl, rfl | rfl⟩ := h
    · exact hfunction rfl
    · exact hhook rfl

end Run

theorem Signature.hasSlot_iff {α : Type} {signature : Signature α} :
    signature.HasSlot ↔ ∃ parameter, signature.dependencyParameter = .ok parameter := by
  unfold HasSlot dependencyParameter
  have hvariadic : (∀ parameter ∈ signature, parameter.kind ≠ .variadic) ↔
      signature.isVariadic = false := by
    simp [isVariadic]
  rw [hvariadic]
  cases signature.isVariadic with
  | true => simp
  | false =>
    cases signature.positionals.getLast? with
    | none => simp
    | some last =>
      have htaken : signature.takesBagName last = false ↔
          last.name = bagName ∨ ∀ parameter ∈ signature, parameter.name ≠ bagName := by
        simp [takesBagName, imp_iff_not_or]
      by_cases h : signature.takesBagName last = true
      · have hnot : ¬(last.name = bagName ∨ ∀ parameter ∈ signature, parameter.name ≠ bagName) :=
          fun hslot => by simp [htaken.mpr hslot] at h
        simp [h, hnot]
      · have hslot := htaken.mp (Bool.eq_false_iff.mpr h)
        simp [h, hslot]

namespace Run

variable {session : Session}

theorem checkedInjection_checks (name : String) (hasDependencies : Bool) (implementation : Value) :
    Checks (fun _ => ∃ signature, session.objects.signature? implementation = some signature ∧
        (hasDependencies = true → signature.HasSlot)) session
      (checkedInjection name hasDependencies implementation) := by
  refine .after (objects_apply session) ?_
  cases hsignature : session.objects.signature? implementation with
  | none => exact .refuses _ (fun _ h => nomatch h.choose_spec.1) rfl
  | some signature =>
    cases hasDependencies with
    | false => exact .passes _ ⟨signature, rfl, nofun⟩ rfl
    | true =>
      cases hslot : signature.dependencyParameter with
      | ok hidden =>
        refine .passes ⟨some hidden, signature.visible .null hidden⟩
          ⟨signature, rfl, fun _ => Signature.hasSlot_iff.mpr ⟨hidden, hslot⟩⟩ ?_
        simp only [Signature.injection, if_true, hslot]
        rfl
      | error reason =>
        refine .refuses (reason.problem name) (fun _ h => ?_) ?_
        · obtain ⟨other, hother, hhas⟩ := h
          cases hother
          obtain ⟨hidden, hhidden⟩ := Signature.hasSlot_iff.mp (hhas rfl)
          rw [hslot] at hhidden
          cases hhidden
        · simp only [Signature.injection, if_true, hslot]
          rfl

/-- An item of a container is stored under a name, and that is reported. -/
theorem storeItem_apply {index : Nat} {container : Container} (name : String) (kind : ItemKind)
    (item : Value) (h : session.containers[index]? = some container) :
    ∃ replaced : List Event, (∀ event ∈ replaced, ∃ key kind, event = .replaced key kind) ∧
      storeItem index name kind item session = (.ok item, { session with
        containers := session.containers.modify index (·.store name item)
        events := session.events ++ replaced ++ [.registered name kind] }) := by
  unfold storeItem
  rw [bind_apply, container_of_some h]
  dsimp only
  cases hprevious : container.item? name with
  | none =>
    refine ⟨[], nofun, ?_⟩
    rw [List.append_nil]
    rfl
  | some previous =>
    dsimp only
    rw [bind_apply, objects_apply]
    dsimp only
    cases hmetadata : session.objects.metadata? previous with
    | none =>
      refine ⟨[], nofun, ?_⟩
      rw [List.append_nil]
      rfl
    | some metadata => exact ⟨[.replaced name metadata.1], by simp, rfl⟩

end Run

/-- The kind and the name of an item. -/
def Object.label? : Object → Option (ItemKind × String)
  | .config name _ => some (.config, name)
  | .function item => some (item.kind, item.name)
  | .component item => some (.component, item.name)
  | _ => none

theorem Store.metadata?_eq (store : Store) (value : Value) :
    store.metadata? value = (store.object? value).bind Object.label? := by
  unfold metadata?
  cases store.object? value with
  | none => rfl
  | some object => cases object <;> rfl

/-- An item is as new ones are: a configuration has the entries of some mapping, and a component
remembers nothing. -/
def Object.IsNew (store : Store) : Object → Prop
  | .config _ entries => ∃ mapping, store.entries? mapping = some entries
  | .component item => item.memo? = none
  | _ => True

namespace Request

/-- What comes of a registration: nothing, where it is not acceptable, and else one more
item, under its key. -/
inductive Outcome (request : Request) (before : Session) : Except Fault Value × Session → Prop
  | refused (problem : RegistrationProblem) : ¬request.Acceptable before.objects →
      Outcome request before (.error (.registration problem), before)
  | stored (object : Object) (replaced : List Event) : request.Acceptable before.objects →
      object.label? = some (request.kind, request.key) →
      (∀ event ∈ replaced, ∃ key kind, event = .replaced key kind) →
      object.IsNew before.objects →
      Outcome request before (.ok (.object before.objects.size), { before with
        objects := before.objects.push object
        containers := before.containers.modify request.container
          (·.store request.key (.object before.objects.size))
        events := before.events ++ replaced ++ [.registered request.key request.kind] })

variable {before : Session}

/-- A new item is stored. -/
theorem Outcome.of_create {request : Request} {object : Object}
    (hcontainer : request.container < before.containers.size)
    (hacceptable : request.Acceptable before.objects)
    (hlabel : object.label? = some (request.kind, request.key))
    (hnew : object.IsNew before.objects) :
    request.Outcome before
      ((Run.create object >>= Run.storeItem request.container request.key request.kind) before) := by
  have hcreated : (Run.create object >>= Run.storeItem request.container request.key request.kind)
      before = Run.storeItem request.container request.key request.kind
        (.object before.objects.size) { before with objects := before.objects.push object } := rfl
  have hfound : ({ before with objects := before.objects.push object } : Session).containers[
      request.container]? = some before.containers[request.container] :=
    Array.getElem?_eq_getElem hcontainer
  obtain ⟨replaced, hreplaced, hstored⟩ := Run.storeItem_apply request.key request.kind
    (.object before.objects.size) hfound
  rw [hcreated, hstored]
  exact .stored object replaced hacceptable hlabel hreplaced hnew

/-- A check that an acceptable registration passes comes before the rest. -/
theorem Outcome.of_checks {α : Type} {request : Request} {property : α → Prop} {check : Run α}
    {next : α → Run Value} (hcheck : Run.Checks property before check)
    (hneeded : request.Acceptable before.objects → ∃ value, property value)
    (hnext : ∀ value, property value → request.Outcome before (next value before)) :
    request.Outcome before ((check >>= next) before) := by
  rw [Run.bind_apply]
  obtain ⟨value, hvalue, hrun⟩ | ⟨problem, hnone, hrun⟩ := hcheck
  · rw [hrun]
    exact hnext value hvalue
  · rw [hrun]
    refine .refused problem fun hacceptable => ?_
    obtain ⟨value, hvalue⟩ := hneeded hacceptable
    exact hnone value hvalue

theorem registerConfig_outcome (index : Nat) (name mapping : Value)
    (h : index < before.containers.size) :
    Outcome ⟨index, name, .config mapping⟩ before
      (Run.registerConfig index name mapping before) := by
  refine .of_checks (Run.checkedName_checks _ name) (fun hacceptable => hacceptable.1) ?_
  rintro key ⟨rfl, hkey⟩
  rw [Run.bind_apply, Run.objects_apply]
  dsimp only
  cases hentries : before.objects.entries? mapping with
  | none =>
    refine .refused _ fun hacceptable => ?_
    have hfit : (before.objects.entries? mapping).isSome := hacceptable.2
    rw [hentries] at hfit
    cases hfit
  | some entries =>
    refine .of_create h ⟨⟨key, rfl, hkey⟩, ?_⟩ rfl ⟨mapping, hentries⟩
    exact Option.isSome_iff_exists.mpr ⟨entries, hentries⟩

theorem registerComponent_outcome (index : Nat) (name dependencies implementation : Value)
    (h : index < before.containers.size) :
    Outcome ⟨index, name, .component dependencies implementation⟩ before
      (Run.registerComponent index name dependencies implementation before) := by
  refine .of_checks (Run.checkedName_checks _ name) (fun hacceptable => hacceptable.1) ?_
  rintro key ⟨rfl, hkey⟩
  refine .of_checks (Run.checkedDependencies_checks _ key dependencies)
    (fun hacceptable => hacceptable.2.1) fun keys hkeys => ?_
  refine .of_checks (Run.checkCallable_checks _ key implementation)
    (fun hacceptable => ⟨(), hacceptable.2.2⟩) fun _ hcallable => ?_
  rw [Run.bind_apply, Run.objects_apply]
  exact .of_create h ⟨⟨key, rfl, hkey⟩, ⟨keys, hkeys⟩, hcallable⟩ rfl rfl

theorem registerFunction_outcome (index : Nat) (name dependencies implementation kind : Value)
    (h : index < before.containers.size) :
    Outcome ⟨index, name, .function dependencies implementation kind⟩ before
      (Run.registerFunction index name dependencies implementation kind before) := by
  refine .of_checks (Run.checkedName_checks _ name) (fun hacceptable => hacceptable.1) ?_
  rintro key ⟨rfl, hkey⟩
  refine .of_checks (Run.checkedDependencies_checks _ key dependencies) ?_ fun keys hkeys => ?_
  · exact fun ⟨_, keys, hkeys, _⟩ => ⟨keys, hkeys⟩
  refine .of_checks (Run.checkCallable_checks _ key implementation) ?_ fun _ hcallable => ?_
  · exact fun ⟨_, _, _, hcallable, _⟩ => ⟨(), hcallable⟩
  refine .of_checks (Run.checkedKind_checks kind) ?_ ?_
  · rintro ⟨-, -, -, -, rfl | rfl, -⟩
    · exact ⟨.function, rfl, .inl rfl⟩
    · exact ⟨.hook, rfl, .inr rfl⟩
  rintro made ⟨rfl, hmade⟩
  have hhas : (!keys.isEmpty) = true ↔ keys ≠ [] := by simp
  refine .of_checks (Run.checkedInjection_checks key (!keys.isEmpty) implementation) ?_ ?_
  · rintro ⟨-, others, hothers, -, -, signature, hsignature, hslot⟩
    rw [hothers.unique hkeys] at hslot
    exact ⟨⟨none, signature⟩, signature, hsignature, fun h => hslot (hhas.mp h)⟩
  rintro injection ⟨signature, hsignature, hslot⟩
  rw [Run.bind_apply, Run.objects_apply]
  refine .of_create h ⟨⟨key, rfl, hkey⟩, keys, hkeys, hcallable, ?_, signature, hsignature, ?_⟩ rfl
    trivial
  · rcases hmade with rfl | rfl
    · exact .inl rfl
    · exact .inr rfl
  · exact fun h => hslot (hhas.mpr h)

/-- A registration is refused, or stores a new item, as its arguments are. -/
theorem run_outcome (request : Request) (h : request.container < before.containers.size) :
    request.Outcome before (request.run before) := by
  obtain ⟨index, name, content⟩ := request
  cases content with
  | config mapping => exact registerConfig_outcome index name mapping h
  | component dependencies implementation =>
    exact registerComponent_outcome index name dependencies implementation h
  | function dependencies implementation kind =>
    exact registerFunction_outcome index name dependencies implementation kind h

end Request

end Registrar
