import Registrar.Container.Inspection
import Registrar.Proofs.Container.Soundness
import Registrar.Script.Operation

/-! # Runs that agree in sound sessions

Two parts of a run agree when they do the same in every sound session, and leave
it sound. Agreement goes through sequencing, so that programs which differ in the
calls they make agree when the calls do. A part that agrees with itself keeps
sessions sound; the operations on containers and values all do.
-/

namespace Registrar.Run

variable {α β : Type}

theorem bind_apply (run : Run α) (next : α → Run β) (session : Session) :
    (run >>= next) session =
      match run session with
      | (.ok value, after) => next value after
      | (.error fault, after) => (.error fault, after) := by
  change (match run session with
    | (result, after) => ExceptT.bindCont next result after) = _
  rcases run session with ⟨_ | _, _⟩ <;> rfl

/-- A part of a run gives a value in some session. -/
def Yields (run : Run α) (value : α) : Prop :=
  ∃ before after, run before = (.ok value, after)

/-- Two parts of a run do the same in sound sessions, and leave them sound. -/
def Agree (run other : Run α) : Prop :=
  ∀ session : Session, session.Sound → run session = other session ∧ (run session).2.Sound

/-- A part of a run leaves sound sessions sound. -/
abbrev Keeps (run : Run α) : Prop := Agree run run

theorem keeps_iff {run : Run α} :
    run.Keeps ↔ ∀ session : Session, session.Sound → (run session).2.Sound :=
  ⟨fun h session hs => (h session hs).2, fun h session hs => ⟨rfl, h session hs⟩⟩

theorem keeps_pure (value : α) : Keeps (pure value : Run α) := keeps_iff.mpr fun _ h => h

theorem keeps_throw (fault : Fault) : Keeps (throw fault : Run α) := keeps_iff.mpr fun _ h => h

theorem Agree.bind {run other : Run α} {next next' : α → Run β} (h : run.Agree other)
    (hnext : ∀ value, run.Yields value → (next value).Agree (next' value)) :
    (run >>= next).Agree (other >>= next') := by
  intro session hs
  obtain ⟨heq, hafter⟩ := h session hs
  rw [bind_apply, bind_apply, ← heq]
  rcases hrun : run session with ⟨_ | value, after⟩
  · rw [hrun] at hafter
    exact ⟨rfl, hafter⟩
  · rw [hrun] at hafter
    exact hnext value ⟨session, after, hrun⟩ after hafter

theorem Agree.bind_const {run : Run α} {next next' : α → Run β} (h : run.Keeps)
    (hnext : ∀ value, (next value).Agree (next' value)) :
    (run >>= next).Agree (run >>= next') :=
  h.bind fun value _ => hnext value

theorem Agree.mapM {γ : Type} {each other : γ → Run α} {elements : List γ}
    (h : ∀ element, (each element).Agree (other element)) :
    (elements.mapM each).Agree (elements.mapM other) := by
  induction elements with
  | nil => exact keeps_pure _
  | cons element elements ih =>
    rw [List.mapM_cons, List.mapM_cons]
    exact (h element).bind fun _ _ => ih.bind fun _ _ => keeps_pure _

theorem keeps_ite {condition : Prop} [Decidable condition] {run other : Run α} (h : run.Keeps)
    (h' : other.Keeps) : (if condition then run else other).Keeps := by
  split
  · exact h
  · exact h'

/-! ## The session -/

theorem keeps_get : Keeps (get : Run Session) := keeps_iff.mpr fun _ h => h

theorem keeps_modify {change : Session → Session}
    (h : ∀ session : Session, session.Sound → (change session).Sound) :
    Keeps (modify change : Run PUnit) :=
  keeps_iff.mpr h

theorem get_apply (session : Session) : (get : Run Session) session = (.ok session, session) := rfl

theorem objects_apply (session : Session) : objects session = (.ok session.objects, session) := rfl

theorem object?_apply (value : Value) (session : Session) :
    object? value session = (.ok (session.objects.object? value), session) := rfl

theorem container_of_some {index : Nat} {session : Session} {found : Container}
    (h : session.containers[index]? = some found) :
    container index session = (.ok found, session) := by
  unfold container
  rw [bind_apply, get_apply]
  dsimp only
  rw [h]
  rfl

theorem container_of_none {index : Nat} {session : Session}
    (h : session.containers[index]? = none) :
    container index session = (.error .missingKey, session) := by
  unfold container
  rw [bind_apply, get_apply]
  dsimp only
  rw [h]
  rfl

theorem keeps_objects : objects.Keeps := keeps_get.bind_const fun _ => keeps_pure _

theorem keeps_object? (value : Value) : (object? value).Keeps :=
  keeps_objects.bind_const fun _ => keeps_pure _

theorem keeps_display (value : Value) : (display value).Keeps :=
  keeps_objects.bind_const fun _ => keeps_pure _

theorem keeps_ofExcept (result : Except Fault α) : (ofExcept result).Keeps := by
  cases result with
  | error fault => exact keeps_throw fault
  | ok value => exact keeps_pure value

theorem keeps_need (fault : Fault) (value? : Option α) : (need fault value?).Keeps := by
  cases value? with
  | none => exact keeps_throw fault
  | some value => exact keeps_pure value

theorem keeps_container (index : Nat) : (container index).Keeps := by
  refine keeps_get.bind_const fun session => ?_
  split
  · exact keeps_pure _
  · exact keeps_throw _

theorem keeps_containerNamed (name : String) : (containerNamed name).Keeps := by
  refine keeps_get.bind_const fun session => ?_
  split
  · exact keeps_pure _
  · exact keeps_throw _

theorem keeps_createContainer (name : String) (strict : Bool) :
    (createContainer name strict).Keeps :=
  keeps_modify fun _ h => (h.createContainer strict).congr rfl rfl

theorem keeps_report (event : Event) : (report event).Keeps :=
  keeps_modify fun _ h => h.congr rfl rfl

theorem keeps_keep (name : String) (value : Value) : (keep name value).Keeps :=
  keeps_modify fun _ h => h.congr rfl rfl

theorem keeps_create {object : Object}
    (h : ∀ session : Session, session.Sound → session.Backs object) : (create object).Keeps :=
  keeps_iff.mpr fun session hs => hs.create (h session hs)

theorem ne_null_of_create {object : Object} {value : Value} (h : (create object).Yields value) :
    value ≠ .null := by
  obtain ⟨before, after, h⟩ := h
  cases h
  exact Value.noConfusion

theorem keeps_list (elements : List Value) : (list elements).Keeps :=
  keeps_create fun _ _ => trivial

theorem keeps_tuple (elements : List Value) : (tuple elements).Keeps := by
  cases elements with
  | nil => exact keeps_pure _
  | cons _ _ => exact keeps_create fun _ _ => trivial

theorem keeps_dict (entries : List (Value × Value)) : (dict entries).Keeps :=
  keeps_create fun _ _ => trivial

/-! ## Operations on values -/

theorem keeps_concat (parts : List Value) : (concat parts).Keeps :=
  (keeps_need _ _).bind_const fun _ => keeps_pure _

theorem keeps_add (left right : Value) : (add left right).Keeps := by
  refine (keeps_object? left).bind_const fun _ => (keeps_object? right).bind_const fun _ => ?_
  split
  · exact keeps_pure _
  · exact keeps_pure _
  · exact keeps_list _
  · exact keeps_tuple _
  · split
    · exact keeps_pure _
    · exact keeps_throw _

theorem keeps_equal (left right : Value) : (equal left right).Keeps :=
  keeps_objects.bind_const fun _ => (keeps_need _ _).bind_const fun _ => keeps_pure _

theorem keeps_identity (value : Value) : (identity value).Keeps := by
  refine keeps_get.bind_const fun session => ?_
  dsimp only
  split
  · exact keeps_pure _
  · refine Agree.bind_const (keeps_modify ?_) fun _ => keeps_pure _
    exact fun _ h => h.congr rfl rfl

theorem keeps_trace (value : Value) : (trace value).Keeps := by
  refine Agree.bind_const (keeps_modify ?_) fun _ => keeps_pure _
  exact fun _ h => h.congr rfl rfl

theorem keeps_entriesOf (entries : List (Value × Value)) : (entriesOf entries).Keeps :=
  keeps_objects.bind_const fun _ => keeps_ite (keeps_pure _) (keeps_throw _)

theorem keeps_namesOf (entries : List (Value × Value)) : (namesOf entries).Keeps :=
  (keeps_entriesOf entries).bind_const fun _ => keeps_need _ _

theorem keeps_item? (index : Nat) (name : Value) : (item? index name).Keeps := by
  refine keeps_objects.bind_const fun _ => ?_
  extract_lets rest
  have hrest (given : Unit) : (rest given).Keeps := by
    dsimp only [rest]
    split
    · exact (keeps_container index).bind_const fun _ => keeps_pure _
    · exact keeps_pure _
  exact keeps_ite ((keeps_throw _).bind_const hrest) (hrest ())

theorem keeps_argument (argument : Argument Value) : (Run.argument argument).Keeps := by
  cases argument with
  | one value => exact keeps_pure _
  | many values => exact keeps_tuple _
  | entries entries => exact keeps_dict _

/-- What is put in the place of an object is neither, nor replaces, a dependency set. -/
theorem put_ok {store : Store} {object : Option Object} {key value : Value} {changed : Object}
    (h : store.put object key value = .ok changed) :
    (∀ entries, object ≠ some (.dependencies entries)) ∧
      ∀ session : Session, session.Backs changed := by
  unfold Store.put at h
  split at h
  · split at h
    · cases h
    · cases h
      exact ⟨fun _ => by simp, fun _ => trivial⟩
  · split at h
    · cases h
    · cases h
      exact ⟨fun _ => by simp, fun _ => trivial⟩
  · split at h
    · cases h
    · split at h
      · cases h
      · cases h
        exact ⟨fun _ => by simp, fun _ => trivial⟩
  · cases h

theorem keeps_put (mapping key value : Value) : Keeps (do
    let object ← ofExcept ((← objects).put (← object? mapping) key value)
    replace mapping object
    return Value.null) := by
  refine keeps_iff.mpr fun session hs => ?_
  change ((ofExcept (session.objects.put (session.objects.object? mapping) key value) >>= _)
    session).2.Sound
  rw [bind_apply]
  cases hput : session.objects.put (session.objects.object? mapping) key value with
  | error fault => exact hs
  | ok changed =>
    obtain ⟨hdependencies, hbacks⟩ := put_ok hput
    exact hs.replace hdependencies (hbacks session)

/-! ## Registration -/

theorem keeps_refuse (problem : RegistrationProblem) : Keeps (refuse problem : Run α) :=
  keeps_throw _

theorem keeps_checkedName (operation : String) (name : Value) :
    (checkedName operation name).Keeps := by
  have hshown : Keeps (display name >>= fun shown =>
      (refuse (.badName operation shown) : Run String)) :=
    (keeps_display name).bind_const fun _ => keeps_refuse _
  unfold checkedName
  split
  · exact keeps_ite hshown (keeps_pure _)
  · exact hshown

theorem keeps_checkedDependencies (operation name : String) (dependencies : Value) :
    (checkedDependencies operation name dependencies).Keeps := by
  refine (keeps_object? dependencies).bind_const fun object => ?_
  split
  · split
    · exact keeps_pure _
    · exact keeps_objects.bind_const fun _ => keeps_refuse _
  · split
    · exact keeps_pure _
    · exact keeps_objects.bind_const fun _ => keeps_refuse _
  · exact (keeps_display dependencies).bind_const fun _ => keeps_refuse _

theorem keeps_checkCallable (operation name : String) (implementation : Value) :
    (checkCallable operation name implementation).Keeps :=
  keeps_objects.bind_const fun _ => keeps_ite (keeps_refuse _) (keeps_pure _)

theorem keeps_checkedKind (kind : Value) : (checkedKind kind).Keeps := by
  unfold checkedKind
  split
  · exact keeps_pure _
  · exact keeps_pure _
  · exact (keeps_display kind).bind_const fun _ => keeps_refuse _

theorem keeps_checkedInjection (name : String) (hasDependencies : Bool) (implementation : Value) :
    (checkedInjection name hasDependencies implementation).Keeps := by
  refine keeps_objects.bind_const fun _ => ?_
  split
  · exact keeps_refuse _
  · split
    · exact keeps_pure _
    · exact keeps_refuse _

/-- A function with dependencies is registered with a place for their set. -/
theorem parameter?_of_checkedInjection {name : String} {implementation : Value}
    {injection : Injection Value}
    (h : (checkedInjection name true implementation).Yields injection) :
    injection.parameter?.isSome := by
  obtain ⟨before, after, h⟩ := h
  unfold checkedInjection at h
  rw [bind_apply] at h
  dsimp only [objects_apply] at h
  cases hsignature : before.objects.signature? implementation with
  | none =>
    rw [hsignature] at h
    cases h
  | some signature =>
    rw [hsignature] at h
    dsimp only [Signature.injection] at h
    rw [if_pos rfl] at h
    cases hparameter : signature.dependencyParameter with
    | error reason =>
      rw [hparameter] at h
      cases h
    | ok hidden =>
      rw [hparameter] at h
      cases h
      rfl

theorem keeps_storeItem (index : Nat) (name : String) (kind : ItemKind) {item : Value}
    (h : item ≠ .null) : (storeItem index name kind item).Keeps := by
  have hstore : Keeps (do
      modifyContainer index (·.store name item)
      report (.registered name kind)
      return item) :=
    (keeps_modify fun _ hs => hs.store h).bind_const fun _ =>
      (keeps_report _).bind_const fun _ => keeps_pure _
  refine (keeps_container index).bind_const fun container => ?_
  split
  · refine keeps_objects.bind_const fun _ => ?_
    split
    · exact (keeps_report _).bind_const fun _ => hstore
    · exact hstore
  · exact hstore

theorem keeps_registerConfig (index : Nat) (name config : Value) :
    (registerConfig index name config).Keeps := by
  refine (keeps_checkedName _ name).bind_const fun name => keeps_objects.bind_const fun _ => ?_
  split
  · exact keeps_objects.bind_const fun _ => keeps_refuse _
  · exact Agree.bind (keeps_create fun _ _ => trivial) fun _ h =>
      keeps_storeItem index name .config (ne_null_of_create h)

theorem keeps_registerComponent (index : Nat) (name dependencies implementation : Value) :
    (registerComponent index name dependencies implementation).Keeps := by
  refine (keeps_checkedName _ name).bind_const fun name => ?_
  refine (keeps_checkedDependencies _ name dependencies).bind_const fun dependencies => ?_
  refine (keeps_checkCallable _ name implementation).bind_const fun _ => ?_
  refine keeps_objects.bind_const fun objects => ?_
  exact Agree.bind (keeps_create fun _ _ => nofun) fun _ h =>
    keeps_storeItem index name .component (ne_null_of_create h)

theorem keeps_registerFunction (index : Nat) (name dependencies implementation kind : Value) :
    (registerFunction index name dependencies implementation kind).Keeps := by
  refine (keeps_checkedName _ name).bind_const fun name => ?_
  refine (keeps_checkedDependencies _ name dependencies).bind_const fun dependencies => ?_
  refine (keeps_checkCallable _ name implementation).bind_const fun _ => ?_
  refine (keeps_checkedKind kind).bind_const fun kind => ?_
  refine (keeps_checkedInjection name _ implementation).bind fun injection hinjection => ?_
  refine keeps_objects.bind_const fun objects => ?_
  refine Agree.bind (keeps_create fun _ _ hdependencies => ?_) fun _ h =>
    keeps_storeItem index name kind (ne_null_of_create h)
  have hsome : (!dependencies.isEmpty) = true := by
    cases dependencies with
    | nil => exact absurd rfl hdependencies
    | cons _ _ => rfl
  exact parameter?_of_checkedInjection (hsome ▸ hinjection)

theorem keeps_complete (registration : PendingRegistration) (implementation : Value) :
    (complete registration implementation).Keeps := by
  unfold complete
  split
  · exact keeps_registerFunction _ _ _ _ _
  · exact keeps_registerComponent _ _ _ _

theorem keeps_enter (registration : PendingRegistration) (implementation : Value) :
    (enter registration implementation).Keeps :=
  keeps_ite (keeps_create fun _ _ => trivial) (keeps_complete registration implementation)

/-! ## Dependency sets and inspection -/

theorem keeps_bag (overrides : Value) : (bag overrides).Keeps :=
  keeps_objects.bind_const fun _ => keeps_need _ _

theorem keeps_dependencySet (index : Nat) (bag : List (Value × Value)) (keys : List Value) :
    (dependencySet index bag keys).Keeps :=
  (keeps_container index).bind_const fun _ => keeps_objects.bind_const fun _ =>
    (keeps_ofExcept _).bind_const fun _ => keeps_create fun _ _ => trivial

theorem keeps_buildDependencies (index : Nat) (dependencies overrides : Value) :
    (buildDependencies index dependencies overrides).Keeps :=
  (keeps_bag overrides).bind_const fun _ => keeps_objects.bind_const fun _ =>
    (keeps_need _ _).bind_const fun _ => keeps_dependencySet _ _ _

theorem keeps_parameterList (parameter : Parameter Value) : (parameterList parameter).Keeps :=
  keeps_list _

theorem keeps_signatureList (signature : Signature Value) : (signatureList signature).Keeps :=
  (Agree.mapM keeps_parameterList).bind_const fun _ => keeps_list _

theorem keeps_metadata (value : Value) : (metadata value).Keeps := by
  refine keeps_objects.bind_const fun _ => ?_
  split
  · exact keeps_list _
  · exact keeps_pure _

theorem keeps_inspect (value : Value) : (inspect value).Keeps := by
  unfold inspect
  extract_lets about
  have habout (dependencies : List String) (displayName? : Option String) :
      (about dependencies displayName?).Keeps := by
    refine keeps_objects.bind_const fun _ => (keeps_metadata value).bind_const fun _ => ?_
    refine (keeps_list _).bind_const fun _ => (keeps_display value).bind_const fun _ => ?_
    refine keeps_objects.bind_const fun _ => ?_
    extract_lets rest
    have hrest (signature : Value) : (rest signature).Keeps := keeps_dict _
    split
    · exact (keeps_signatureList _).bind_const hrest
    · exact (keeps_pure _).bind_const hrest
  refine (keeps_object? value).bind_const fun _ => ?_
  split
  · exact habout _ _
  · exact habout _ _
  · exact keeps_throw _

end Registrar.Run
