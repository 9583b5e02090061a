import Registrar.Proofs.Container.Request

/-! # Relations that runs follow

A run changes its session in few ways: it makes objects and containers, puts entries into
mappings, lets components remember, and asks for registrations. A relation that holds of
each of them, and can be chained, holds of whole runs; one that says something of what
components remember holds of all that happens between two renders. What runs do with
containers is grounded throughout: the ones that names and pending registrations stand for
exist.
-/

namespace Registrar

/-! ## Keys of entries -/

/-- The entries of a mapping. -/
def Object.entries : Object → List (Value × Value)
  | .dict entries | .config _ entries | .dependencies entries => entries
  | _ => []

namespace Store

/-- The keys of entries can be keys. -/
def Keys (store : Store) (entries : List (Value × Value)) : Prop :=
  ∀ entry ∈ entries, (store.key? entry.1).isSome

theorem keys_nil (store : Store) : store.Keys [] := List.forall_mem_nil _

/-- Texts are keys. -/
theorem keys_text {α : Type} (store : Store) (elements : List α) (name : α → String)
    (value : α → Value) :
    store.Keys (elements.map fun element => (.text (name element), value element)) := by
  intro entry hentry
  obtain ⟨element, -, rfl⟩ := List.mem_map.mp hentry
  rfl

theorem Keys.put {store : Store} {entries : List (Value × Value)} {key : Value}
    (h : store.Keys entries) (hkey : (store.key? key).isSome) (value : Value) :
    store.Keys (Entries.put store.sameKey entries key value) := by
  induction entries with
  | nil => exact List.forall_mem_singleton.mpr hkey
  | cons entry entries ih =>
    obtain ⟨hentry, hentries⟩ := List.forall_mem_cons.mp h
    unfold Entries.put
    split
    · exact List.forall_mem_cons.mpr ⟨hentry, hentries⟩
    · exact List.forall_mem_cons.mpr ⟨hentry, ih hentries⟩

theorem Keys.putAll {store : Store} {entries others : List (Value × Value)}
    (h : store.Keys entries) (hothers : store.Keys others) :
    store.Keys (Entries.putAll store.sameKey entries others) := by
  unfold Entries.putAll
  induction others generalizing entries with
  | nil => exact h
  | cons other others ih =>
    obtain ⟨hother, hothers⟩ := List.forall_mem_cons.mp hothers
    exact ih (h.put hother other.2) hothers

end Store

/-- The keys of a dependency set can be keys. -/
theorem Container.keys_of_build {container : Container} {store : Store}
    {bag entries : List (Value × Value)} {keys : List Value}
    (h : container.build store bag keys = .ok entries) : store.Keys entries := by
  unfold build at h
  generalize hstart : ([] : List (Value × Value)) = start at h
  have hkeys : store.Keys start := hstart ▸ store.keys_nil
  clear hstart
  induction keys generalizing start with
  | nil =>
    cases h
    exact hkeys
  | cons key keys ih =>
    rw [List.foldlM_cons] at h
    cases hadd : container.addDependency store bag start key with
    | error fault =>
      rw [hadd] at h
      cases h
    | ok next =>
      rw [hadd] at h
      refine ih next h ?_
      unfold addDependency at hadd
      split at hadd
      · cases hadd
      · next hkey =>
        have hsome : (store.key? key).isSome := by
          rwa [Option.isNone_iff_eq_none, ← ne_eq, ← Option.isSome_iff_ne_none] at hkey
        split at hadd
        · cases hadd
          exact hkeys.put hsome _
        · split at hadd
          · cases hadd
          · cases hadd
            exact hkeys

namespace Session

/-- Containers that can be reached exist. -/
structure Grounded (session : Session) : Prop where
  named : ∀ name index, Entries.find? (· == ·) session.named name = some index →
    index < session.containers.size
  pending : ∀ value registration, session.objects.object? value = some (.pending registration) →
    registration.container < session.containers.size

/-- A relation of sessions that holds of each change a run makes, besides what components
remember, and can be chained. -/
structure Steady (relation : Session → Session → Prop) : Prop where
  refl (session : Session) : relation session session
  trans {before between after : Session} : relation before between → relation between after →
    relation before after
  /-- An object that is no item is made. -/
  create (session : Session) (object : Object) : object.label? = none →
    session.objects.Keys object.entries →
    relation session { session with objects := session.objects.push object }
  /-- A value is put under a key of a mapping, or in a place of a list. -/
  put (session : Session) (mapping key value : Value) (object : Object) :
    session.objects.put (session.objects.object? mapping) key value = .ok object →
    relation session { session with objects := session.objects.replace mapping object }
  createContainer (session : Session) (name : String) (strict : Bool) :
    relation session { session with
      containers := session.containers.push (.empty strict)
      named := Entries.put (· == ·) session.named name session.containers.size }
  /-- What scripts keep, number or record changes. -/
  aside (session : Session) (kept : List (String × Value)) (numbered traced : List Value) :
    relation session { session with kept, numbered, traced }
  request (session : Session) (request : Request) :
    request.container < session.containers.size → relation session (request.run session).2

/-- A relation that holds of each change a run makes. -/
structure Enduring (relation : Session → Session → Prop) : Prop extends Steady relation where
  /-- A component remembers what it handed over. -/
  remember (session : Session) (self : Value) (item : ComponentItem) (memo? : Option Memo) :
    session.objects.object? self = some (.component item) →
    relation session
      { session with objects := session.objects.replace self (.component { item with memo? }) }

/-- What holds of all sessions holds of each change. -/
theorem enduring_trivial : Enduring fun _ _ => True := by
  constructor
  · constructor <;> intros <;> trivial
  · intros
    trivial

theorem initial_grounded : initial.Grounded where
  named name index h := by cases h
  pending value registration h := by
    cases value with
    | object reference =>
      match reference with
      | 0 => cases h
      | reference + 1 => cases h
    | _ => cases h

variable {session after : Session}

/-- Objects that are not pending do not matter to what is grounded. -/
theorem Grounded.congr (h : session.Grounded) (hnamed : after.named = session.named)
    (hcontainers : after.containers.size = session.containers.size)
    (hpending : ∀ value registration, after.objects.object? value = some (.pending registration) →
      session.objects.object? value = some (.pending registration)) : after.Grounded where
  named name index hindex := by
    rw [hcontainers]
    exact h.named name index (hnamed ▸ hindex)
  pending value registration hvalue := by
    rw [hcontainers]
    exact h.pending value registration (hpending value registration hvalue)

theorem Grounded.push (h : session.Grounded) {object : Object}
    (hobject : ∀ registration, object = .pending registration →
      registration.container < session.containers.size) :
    ({ session with objects := session.objects.push object } : Session).Grounded where
  named := h.named
  pending value registration hvalue := by
    cases value with
    | object reference =>
      change (session.objects.push object)[reference]? = some (.pending registration) at hvalue
      rw [Array.getElem?_push] at hvalue
      split at hvalue
      · exact hobject registration (Option.some.inj hvalue)
      · exact h.pending (.object reference) registration hvalue
    | _ => cases hvalue

theorem Grounded.replace (h : session.Grounded) (value : Value) {object : Object}
    (hobject : ∀ registration, object ≠ .pending registration) :
    ({ session with objects := session.objects.replace value object } : Session).Grounded := by
  refine h.congr rfl rfl fun other registration hother => ?_
  change (session.objects.replace value object).object? other = _ at hother
  rw [object?_replace] at hother
  split at hother
  · exact absurd (Option.some.inj hother) (hobject registration)
  · exact hother

/-- What a container's store becomes grounds nothing new. -/
theorem Grounded.request (h : session.Grounded) {request : Request}
    (hcontainer : request.container < session.containers.size) :
    (request.run session).2.Grounded := by
  cases hrun : request.run session with
  | mk result after =>
    have houtcome := request.run_outcome hcontainer
    rw [hrun] at houtcome
    cases houtcome with
    | refused problem hrefused => exact h
    | stored object replaced hacceptable hlabel hreplaced =>
      have hpushed : ({ session with
          objects := session.objects.push object } : Session).Grounded := by
        refine h.push ?_
        rintro registration rfl
        cases hlabel
      exact hpushed.congr rfl (Array.size_modify ..) fun _ _ => id

end Session

namespace Run

open Session

variable {α β : Type} {relation : Session → Session → Prop}

/-- A part of a run follows a relation from a session on. -/
def FollowsFrom (relation : Session → Session → Prop) (session : Session) (run : Run α) : Prop :=
  (run session).2.Grounded ∧ relation session (run session).2

/-- A part of a run follows a relation. -/
def Follows (relation : Session → Session → Prop) (run : Run α) : Prop :=
  ∀ session : Session, session.Grounded → FollowsFrom relation session run

/-- A part of a run leaves the session as it is. -/
def Looks (run : Run α) : Prop := ∀ session : Session, (run session).2 = session

/-! ## Parts that only look -/

theorem looks_pure (value : α) : Looks (pure value : Run α) := fun _ => rfl

theorem looks_throw (fault : Fault) : Looks (throw fault : Run α) := fun _ => rfl

theorem Looks.bind {run : Run α} {next : α → Run β} (h : run.Looks)
    (hnext : ∀ value, (next value).Looks) : (run >>= next).Looks := by
  intro session
  have hsession := h session
  rw [bind_apply]
  rcases hrun : run session with ⟨fault | value, after⟩
  · rw [hrun] at hsession
    exact hsession
  · rw [hrun] at hsession
    dsimp only at hsession ⊢
    rw [hsession]
    exact hnext value session

theorem looks_get : Looks (get : Run Session) := fun _ => rfl

theorem looks_objects : objects.Looks := looks_get.bind fun _ => looks_pure _

theorem looks_object? (value : Value) : (object? value).Looks :=
  looks_objects.bind fun _ => looks_pure _

theorem looks_display (value : Value) : (display value).Looks :=
  looks_objects.bind fun _ => looks_pure _

theorem looks_ofExcept (result : Except Fault α) : (ofExcept result).Looks := by
  cases result with
  | error fault => exact looks_throw fault
  | ok value => exact looks_pure value

theorem looks_need (fault : Fault) (value? : Option α) : (need fault value?).Looks := by
  cases value? with
  | none => exact looks_throw fault
  | some value => exact looks_pure value

theorem looks_container (index : Nat) : (container index).Looks := by
  refine looks_get.bind fun session => ?_
  split
  · exact looks_pure _
  · exact looks_throw _

theorem looks_containerNamed (name : String) : (containerNamed name).Looks := by
  refine looks_get.bind fun session => ?_
  split
  · exact looks_pure _
  · exact looks_throw _

theorem looks_bag (overrides : Value) : (bag overrides).Looks :=
  looks_objects.bind fun _ => looks_need _ _

theorem looks_concat (parts : List Value) : (concat parts).Looks :=
  (looks_need _ _).bind fun _ => looks_pure _

theorem looks_equal (left right : Value) : (equal left right).Looks :=
  looks_objects.bind fun _ => (looks_need _ _).bind fun _ => looks_pure _

theorem looks_entriesOf (entries : List (Value × Value)) : (entriesOf entries).Looks := by
  refine looks_objects.bind fun objects => ?_
  split
  · exact looks_pure _
  · exact looks_throw _

/-- The keys of entries that are put together can be keys. -/
theorem keys_of_entriesOf {entries found : List (Value × Value)} {session after : Session}
    (h : entriesOf entries session = (.ok found, after)) : session.objects.Keys found := by
  unfold entriesOf at h
  rw [bind_apply, objects_apply] at h
  dsimp only at h
  split at h
  · next hall =>
    cases h
    exact session.objects.keys_nil.putAll (List.all_eq_true.mp hall)
  · cases h

theorem looks_namesOf (entries : List (Value × Value)) : (namesOf entries).Looks :=
  (looks_entriesOf entries).bind fun _ => looks_need _ _

theorem looks_item? (index : Nat) (name : Value) : (item? index name).Looks := by
  refine looks_objects.bind fun objects => ?_
  extract_lets rest
  have hrest (given : Unit) : (rest given).Looks := by
    dsimp only [rest]
    split
    · exact (looks_container index).bind fun _ => looks_pure _
    · exact looks_pure _
  split
  · exact (looks_throw _).bind hrest
  · exact hrest ()

theorem eq_ok_of_ofExcept {result : Except Fault α} {value : α} {session after : Session}
    (h : ofExcept result session = (.ok value, after)) : result = .ok value := by
  cases result with
  | error fault => cases h
  | ok other =>
    cases h
    rfl

/-! ## Parts that follow -/

/-- What is put in the place of an object is an item as the object is, and not pending. -/
theorem label?_of_put {store : Store} {object : Option Object} {key value : Value}
    {changed : Object} (h : store.put object key value = .ok changed) :
    changed.label? = object.bind Object.label? ∧ ∀ registration, changed ≠ .pending registration := by
  unfold Store.put at h
  split at h
  · split at h
    · cases h
    · cases h
      exact ⟨rfl, fun _ => by simp⟩
  · split at h
    · cases h
    · cases h
      exact ⟨rfl, fun _ => by simp⟩
  · split at h
    · cases h
    · split at h
      · cases h
      · cases h
        exact ⟨rfl, fun _ => by simp⟩
  · cases h

theorem FollowsFrom.bind {session : Session} {run : Run α} {next : α → Run β}
    (hsteady : Steady relation) (h : FollowsFrom relation session run)
    (hnext : ∀ value after, run session = (.ok value, after) → after.Grounded →
      FollowsFrom relation after (next value)) : FollowsFrom relation session (run >>= next) := by
  unfold FollowsFrom at h ⊢
  rw [bind_apply]
  rcases hrun : run session with ⟨fault | value, after⟩
  · rw [hrun] at h
    exact h
  · rw [hrun] at h
    have hafter := hnext value after hrun h.1
    exact ⟨hafter.1, hsteady.trans h.2 hafter.2⟩

theorem Follows.bind {run : Run α} {next : α → Run β} (hsteady : Steady relation)
    (h : Follows relation run) (hnext : ∀ value, Follows relation (next value)) :
    Follows relation (run >>= next) := by
  intro session hgrounded
  exact (h session hgrounded).bind hsteady fun value after _ hafter => hnext value after hafter

/-- A part that only looks comes before one that follows in the same session. -/
theorem Looks.bind_follows {session : Session} {run : Run α} {next : α → Run β}
    (hsteady : Steady relation) (hgrounded : session.Grounded) (h : run.Looks)
    (hnext : ∀ value, run session = (.ok value, session) →
      FollowsFrom relation session (next value)) : FollowsFrom relation session (run >>= next) := by
  have hrun : FollowsFrom relation session run := by
    unfold FollowsFrom
    rw [h session]
    exact ⟨hgrounded, hsteady.refl session⟩
  refine hrun.bind hsteady fun value after hafter _ => ?_
  have hsame : after = session := by
    have hsession := h session
    rwa [hafter] at hsession
  subst hsame
  exact hnext value hafter

/-- The container that a name stands for exists. -/
theorem lt_of_containerNamed {session after : Session} {name : String} {index : Nat}
    (hgrounded : session.Grounded) (h : containerNamed name session = (.ok index, after)) :
    index < session.containers.size := by
  refine hgrounded.named name index ?_
  unfold containerNamed at h
  rw [bind_apply, get_apply] at h
  dsimp only at h
  cases hfound : Entries.find? (· == ·) session.named name with
  | none =>
    rw [hfound] at h
    cases h
  | some found =>
    rw [hfound] at h
    cases h
    rfl

variable (hsteady : Steady relation)
include hsteady

theorem Looks.follows {run : Run α} (h : run.Looks) : Follows relation run := by
  intro session hgrounded
  unfold FollowsFrom
  rw [h session]
  exact ⟨hgrounded, hsteady.refl session⟩

theorem follows_pure (value : α) : Follows relation (pure value : Run α) :=
  (looks_pure value).follows hsteady

theorem follows_throw (fault : Fault) : Follows relation (throw fault : Run α) :=
  (looks_throw fault).follows hsteady

theorem Looks.follows_bind {run : Run α} {next : α → Run β} (h : run.Looks)
    (hnext : ∀ value, Follows relation (next value)) : Follows relation (run >>= next) :=
  (h.follows hsteady).bind hsteady hnext

theorem Follows.mapM {γ : Type} {each : γ → Run α} {elements : List γ}
    (h : ∀ element, Follows relation (each element)) : Follows relation (elements.mapM each) := by
  induction elements with
  | nil => exact follows_pure hsteady _
  | cons element elements ih =>
    rw [List.mapM_cons]
    exact (h element).bind hsteady fun _ => ih.bind hsteady fun _ => follows_pure hsteady _

theorem followsFrom_create {session : Session} {object : Object} (hgrounded : session.Grounded)
    (hlabel : object.label? = none) (hobject : ∀ registration, object ≠ .pending registration)
    (hkeys : session.objects.Keys object.entries) : FollowsFrom relation session (create object) :=
  ⟨hgrounded.push fun registration h => absurd h (hobject registration),
    hsteady.create session object hlabel hkeys⟩

theorem follows_create {object : Object} (hlabel : object.label? = none)
    (hobject : ∀ registration, object ≠ .pending registration) (hentries : object.entries = []) :
    Follows relation (create object) := fun session hgrounded =>
  followsFrom_create hsteady hgrounded hlabel hobject (hentries ▸ session.objects.keys_nil)

theorem follows_list (elements : List Value) : Follows relation (list elements) :=
  follows_create hsteady rfl (fun _ => by simp) rfl

theorem follows_tuple (elements : List Value) : Follows relation (tuple elements) := by
  cases elements with
  | nil => exact follows_pure hsteady _
  | cons _ _ => exact follows_create hsteady rfl (fun _ => by simp) rfl

theorem follows_dict {entries : List (Value × Value)} (hkeys : ∀ store : Store, store.Keys entries) :
    Follows relation (dict entries) := fun session hgrounded =>
  followsFrom_create hsteady hgrounded rfl (fun _ => by simp) (hkeys session.objects)

theorem follows_dictOf (entries : List (Value × Value)) :
    Follows relation (entriesOf entries >>= dict) := fun _ hgrounded =>
  (looks_entriesOf entries).bind_follows hsteady hgrounded fun _ hfound =>
    followsFrom_create hsteady hgrounded rfl (fun _ => by simp) (keys_of_entriesOf hfound)

/-- What scripts keep, number and record changes nothing else. -/
theorem followsFrom_aside {session : Session} {run : Run α} {result : Except Fault α}
    {kept : List (String × Value)} {numbered traced : List Value} (hgrounded : session.Grounded)
    (hrun : run session = (result, { session with kept, numbered, traced })) :
    FollowsFrom relation session run := by
  unfold FollowsFrom
  rw [hrun]
  exact ⟨⟨hgrounded.named, hgrounded.pending⟩, hsteady.aside session kept numbered traced⟩

theorem follows_keep (name : String) (value : Value) : Follows relation (keep name value) :=
  fun _ hgrounded => followsFrom_aside hsteady hgrounded rfl

theorem follows_trace (value : Value) : Follows relation (trace value) :=
  fun _ hgrounded => followsFrom_aside hsteady hgrounded rfl

theorem follows_identity (value : Value) : Follows relation (identity value) := by
  intro session hgrounded
  unfold identity
  refine looks_get.bind_follows hsteady hgrounded fun found hfound => ?_
  dsimp only
  split
  · exact follows_pure hsteady _ session hgrounded
  · exact followsFrom_aside hsteady hgrounded rfl

theorem follows_add (left right : Value) : Follows relation (add left right) := by
  refine (looks_object? left).follows_bind hsteady fun _ => ?_
  refine (looks_object? right).follows_bind hsteady fun _ => ?_
  split
  · exact follows_pure hsteady _
  · exact follows_pure hsteady _
  · exact follows_list hsteady _
  · exact follows_tuple hsteady _
  · split
    · exact follows_pure hsteady _
    · exact follows_throw hsteady _

theorem follows_argument (argument : Argument Value) :
    Follows relation (Run.argument argument) := by
  cases argument with
  | one value => exact follows_pure hsteady _
  | many values => exact follows_tuple hsteady _
  | entries entries => exact follows_dict hsteady fun store => store.keys_text entries Prod.fst Prod.snd

theorem follows_put (mapping key value : Value) : Follows relation (do
    let object ← ofExcept ((← objects).put (← object? mapping) key value)
    replace mapping object
    return Value.null) := by
  intro session hgrounded
  refine looks_objects.bind_follows hsteady hgrounded fun found hfound => ?_
  cases hfound
  refine (looks_object? mapping).bind_follows hsteady hgrounded fun object hobject => ?_
  cases hobject
  refine (looks_ofExcept _).bind_follows hsteady hgrounded fun changed hchanged => ?_
  have hput := eq_ok_of_ofExcept hchanged
  exact ⟨hgrounded.replace mapping (label?_of_put hput).2,
    hsteady.put session mapping key value changed hput⟩

theorem follows_createContainer (name : String) (strict : Bool) :
    Follows relation (createContainer name strict) := by
  intro session hgrounded
  refine ⟨⟨fun other index h => ?_, fun value registration h => ?_⟩,
    hsteady.createContainer session name strict⟩
  · change Entries.find? (· == ·) (Entries.put (· == ·) session.named name _) other = some index at h
    change index < (session.containers.push _).size
    rw [find?_put] at h
    rw [Array.size_push]
    split at h
    · cases h
      exact Nat.lt_succ_self _
    · exact Nat.lt_succ_of_lt (hgrounded.named other index h)
  · change registration.container < (session.containers.push _).size
    rw [Array.size_push]
    exact Nat.lt_succ_of_lt (hgrounded.pending value registration h)

/-! ## Registrations -/

theorem follows_request {session : Session} (request : Request) (hgrounded : session.Grounded)
    (hcontainer : request.container < session.containers.size) :
    FollowsFrom relation session request.run :=
  ⟨hgrounded.request hcontainer, hsteady.request session request hcontainer⟩

theorem follows_complete {session : Session} {registration : PendingRegistration}
    (hgrounded : session.Grounded)
    (hcontainer : registration.container < session.containers.size) (implementation : Value) :
    FollowsFrom relation session (complete registration implementation) := by
  unfold complete
  split
  · next kind hkind =>
    exact follows_request hsteady ⟨registration.container, registration.name,
      .function registration.dependencies implementation kind⟩ hgrounded hcontainer
  · exact follows_request hsteady ⟨registration.container, registration.name,
      .component registration.dependencies implementation⟩ hgrounded hcontainer

theorem follows_enter {session : Session} {registration : PendingRegistration}
    (hgrounded : session.Grounded)
    (hcontainer : registration.container < session.containers.size) (implementation : Value) :
    FollowsFrom relation session (enter registration implementation) := by
  unfold enter
  split
  · refine ⟨hgrounded.push ?_, hsteady.create session _ rfl session.objects.keys_nil⟩
    rintro other ⟨⟩
    exact hcontainer
  · exact follows_complete hsteady hgrounded hcontainer implementation

/-- What is done with a container that has a name. -/
theorem follows_containerNamed {next : Nat → Run α} (name : String)
    (hnext : ∀ session : Session, session.Grounded → ∀ index, index < session.containers.size →
      FollowsFrom relation session (next index)) :
    Follows relation (containerNamed name >>= next) := by
  intro session hgrounded
  refine (looks_containerNamed name).bind_follows hsteady hgrounded fun index hindex => ?_
  exact hnext session hgrounded index (lt_of_containerNamed hgrounded hindex)

/-! ## Dependency sets and inspection -/

theorem follows_dependencySet (index : Nat) (bag : List (Value × Value)) (keys : List Value) :
    Follows relation (dependencySet index bag keys) := by
  refine (looks_container index).follows_bind hsteady fun container => ?_
  intro session hgrounded
  refine looks_objects.bind_follows hsteady hgrounded fun objects hobjects => ?_
  cases hobjects
  refine (looks_ofExcept _).bind_follows hsteady hgrounded fun entries hentries => ?_
  exact followsFrom_create hsteady hgrounded rfl (fun _ => by simp)
    (Container.keys_of_build (eq_ok_of_ofExcept hentries))

theorem follows_buildDependencies (index : Nat) (dependencies overrides : Value) :
    Follows relation (buildDependencies index dependencies overrides) :=
  (looks_bag overrides).follows_bind hsteady fun _ => looks_objects.follows_bind hsteady fun _ =>
    (looks_need _ _).follows_bind hsteady fun _ => follows_dependencySet hsteady _ _ _

theorem follows_metadata (value : Value) : Follows relation (metadata value) := by
  refine looks_objects.follows_bind hsteady fun _ => ?_
  split
  · exact follows_list hsteady _
  · exact follows_pure hsteady _

theorem follows_signatureList (signature : Signature Value) :
    Follows relation (signatureList signature) :=
  (Follows.mapM hsteady fun _ => follows_list hsteady _).bind hsteady fun _ =>
    follows_list hsteady _

theorem follows_inspect (value : Value) : Follows relation (inspect value) := by
  unfold inspect
  extract_lets about
  have habout (dependencies : List String) (displayName? : Option String) :
      Follows relation (about dependencies displayName?) := by
    refine looks_objects.follows_bind hsteady fun _ => ?_
    refine (follows_metadata hsteady value).bind hsteady fun _ => ?_
    refine (follows_list hsteady _).bind hsteady fun _ => ?_
    refine (looks_display value).follows_bind hsteady fun _ => ?_
    refine looks_objects.follows_bind hsteady fun _ => ?_
    extract_lets rest
    have hrest (signature : Value) : Follows relation (rest signature) := by
      refine follows_dict hsteady fun store => ?_
      simp only [Store.Keys, List.forall_mem_cons]
      exact ⟨rfl, rfl, rfl, rfl, rfl, rfl, rfl, List.forall_mem_nil _⟩
    split
    · exact (follows_signatureList hsteady _).bind hsteady hrest
    · exact (follows_pure hsteady _).bind hsteady hrest
  refine (looks_object? value).follows_bind hsteady fun _ => ?_
  split
  · exact habout _ _
  · exact habout _ _
  · exact follows_throw hsteady _

end Run

end Registrar
