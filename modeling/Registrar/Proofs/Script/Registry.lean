import Registrar.Proofs.Container.History
import Registrar.Proofs.Script.Following

/-! # Registries are folds of what was accepted

Whatever scripts do, and however deeply calls are nested in which they do it, a container
holds at every point the fold of the registrations it has accepted so far.
-/

namespace Registrar

open Session

/-! ## What a container holds -/

/-- Under a key stands the last value that elements of a list give to it. -/
theorem Entries.find?_putAll_filterMap {α ν : Type} {stored? : α → Option (String × ν)}
    {elements : List α} {key : String} {value : ν} :
    find? (· == ·) (putAll (· == ·) [] (elements.filterMap stored?)) key = some value ↔
      ∃ front element back, elements = front ++ element :: back ∧
        stored? element = some (key, value) ∧
        ∀ later ∈ back, ∀ other, stored? later ≠ some (key, other) := by
  have hkey (element : α) : (stored? element).any (fun entry => entry.1 == key) = true ↔
      ∃ other, stored? element = some (key, other) := by
    cases hentry : stored? element with
    | none => simp
    | some entry =>
      obtain ⟨name, other⟩ := entry
      simp
  rw [find?_putAll, ← List.filterMap_reverse, List.find?_filterMap, Option.map_eq_some_iff]
  constructor
  · rintro ⟨⟨name, _⟩, hbind, rfl⟩
    obtain ⟨element, hfound, hentry⟩ := Option.bind_eq_some_iff.mp hbind
    obtain ⟨hany, later, earlier, hreverse, hlater⟩ := List.find?_eq_some_iff_append.mp hfound
    obtain ⟨other, hother⟩ := (hkey element).mp hany
    rw [hother] at hentry
    cases hentry
    refine ⟨earlier.reverse, element, later.reverse, ?_, hother, fun late hlate value hvalue => ?_⟩
    · rw [← List.reverse_reverse elements, hreverse]
      simp
    · have hnot := hlater late (List.mem_reverse.mp hlate)
      rw [(hkey late).mpr ⟨value, hvalue⟩] at hnot
      cases hnot
  · rintro ⟨front, element, back, rfl, hentry, hlater⟩
    refine ⟨(key, value), Option.bind_eq_some_iff.mpr ⟨element, ?_, hentry⟩, rfl⟩
    refine List.find?_eq_some_iff_append.mpr ⟨(hkey element).mpr ⟨value, hentry⟩,
      back.reverse, front.reverse, by simp, fun late hlate => ?_⟩
    rw [Bool.not_eq_true', Bool.eq_false_iff]
    intro hany
    obtain ⟨other, hother⟩ := (hkey late).mp hany
    exact hlater late (List.mem_reverse.mp hlate) other hother

/-- A container holds the fold of what a history put into it. -/
structure Container.Holds (container : Container) (index : Nat) (history : List Attempt)
    (objects : Store) : Prop where
  fold : container.items = Entries.putAll (· == ·) [] (history.filterMap (·.stored? index))
  filled : "" ∉ container.items.map Prod.fst
  distinct : (container.items.map Prod.fst).Nodup
  order : container.items.map Prod.fst =
    ((history.filterMap (·.stored? index)).map Prod.fst).eraseDups
  /-- What is got under a key is the item of the last registration that was accepted of it. -/
  last : ∀ key item, container.item? key = some item ↔
    ∃ earlier attempt later, history = earlier ++ attempt :: later ∧
      attempt.stored? index = some (key, item) ∧
      ∀ other ∈ later, ∀ another, other.stored? index ≠ some (key, another)
  metadata : ∀ attempt ∈ history, ∀ key item, attempt.stored? index = some (key, item) →
    objects.metadata? item = some (attempt.request.kind, key)

namespace Attempt

variable {attempt : Attempt} {index : Nat} {key : String} {item : Value}

theorem stored?_eq_some : attempt.stored? index = some (key, item) ↔
    attempt.request.container = index ∧ attempt.request.key = key ∧ attempt.result = .ok item := by
  unfold stored?
  cases hresult : attempt.result with
  | error fault => simp [Except.toOption]
  | ok value =>
    by_cases h : attempt.request.container = index
    · simp [h, Except.toOption]
    · simp [h]

end Attempt

namespace Request

variable {request : Request} {before : Session}

/-- A registration is accepted exactly when it is acceptable. -/
theorem accepted_iff (hcontainer : request.container < before.containers.size) :
    (∃ item, (request.run before).1 = .ok item) ↔ request.Acceptable before.objects := by
  cases hrun : request.run before with
  | mk result after =>
    have houtcome := request.run_outcome hcontainer
    rw [hrun] at houtcome
    cases houtcome with
    | refused problem hrefused => simpa using hrefused
    | stored object replaced hacceptable _ _ => simpa using hacceptable

/-- Every other registration is refused, and changes nothing. -/
theorem run_of_not_acceptable (hcontainer : request.container < before.containers.size)
    (h : ¬request.Acceptable before.objects) :
    ∃ problem, request.run before = (.error (.registration problem), before) := by
  cases hrun : request.run before with
  | mk result after =>
    have houtcome := request.run_outcome hcontainer
    rw [hrun] at houtcome
    cases houtcome with
    | refused problem hrefused => exact ⟨problem, rfl⟩
    | stored object replaced hacceptable _ _ => exact absurd hacceptable h

/-- The key of an acceptable registration is not empty. -/
theorem Acceptable.key_ne (h : request.Acceptable before.objects) : request.key ≠ "" := by
  obtain ⟨⟨name, hname, hfilled⟩, -⟩ := h
  unfold key
  rwa [hname]

end Request

theorem Session.Path.holds {history : List Attempt} {session : Session}
    (h : initial.Path history session) {index : Nat} {container : Container}
    (hcontainer : session.containers[index]? = some container) :
    container.Holds index history session.objects := by
  have haccounts := h.accounts
  have hfold := haccounts.items index container hcontainer
  have horder := (congrArg (List.map Prod.fst) hfold).trans (Entries.keys_putAll _)
  refine ⟨hfold, fun hempty => ?_, ?_, horder, fun key item => ?_, ?_⟩
  · rw [horder, List.mem_eraseDups, List.mem_map] at hempty
    obtain ⟨⟨key, item⟩, hentry, hkey⟩ := hempty
    obtain ⟨attempt, hattempt, hentry⟩ := List.mem_filterMap.mp hentry
    obtain ⟨-, hsame, hresult⟩ := Attempt.stored?_eq_some.mp hentry
    have hacceptable := (Request.accepted_iff (h.bounded attempt hattempt)).mp ⟨item, hresult⟩
    exact hacceptable.key_ne (hsame.trans hkey)
  · rw [hfold]
    exact Entries.nodup_putAll _
  · unfold Container.item?
    rw [hfold]
    exact Entries.find?_putAll_filterMap
  · intro attempt hattempt key item hentry
    obtain ⟨-, rfl, hresult⟩ := Attempt.stored?_eq_some.mp hentry
    exact haccounts.labels attempt hattempt item hresult

/-! ## Sessions that scripts reach -/

/-- A session is reached from nothing, after the registrations of a history were asked for. -/
structure Session.Reached (history : List Attempt) (session : Session) : Prop where
  path : initial.Path history session
  grounded : session.Grounded

namespace Session.Reached

variable {history : List Attempt} {session : Session}

theorem follows {α : Type} {run : Run α} (h : Reached history session)
    (hrun : Run.Follows (fun before after => ∃ more, before.Path more after) run) :
    ∃ more, Reached (history ++ more) (run session).2 := by
  obtain ⟨hgrounded, more, hmore⟩ := hrun session h.grounded
  exact ⟨more, h.path.trans hmore, hgrounded⟩

theorem initial : Reached [] initial := ⟨.start, initial_grounded⟩

theorem eval (h : Reached history session) (depth : Nat) (scope : Scope) (term : Term) :
    ∃ more, Reached (history ++ more) (term.eval (Run.callWithin depth) scope session).2 :=
  h.follows (term.eval_follows enduring_path depth scope)

theorem call (h : Reached history session) (depth : Nat) (value : Value)
    (positions : List Value) (names : List (String × Value)) :
    ∃ more, Reached (history ++ more) (Run.callWithin depth value positions names session).2 :=
  h.follows (callWithin_follows enduring_path depth value positions names)

end Session.Reached

/-- At every point that scripts reach, each container holds the fold of the registrations
it has accepted so far, and just those were reported. A registration is accepted exactly
when it is acceptable; every other one is refused, and changes nothing. -/
theorem registries_fold_accepted :
    (∀ (request : Request) (session : Session), request.container < session.containers.size →
      ((∃ item, (request.run session).1 = .ok item) ↔ request.Acceptable session.objects) ∧
      (¬request.Acceptable session.objects →
        ∃ problem, request.run session = (.error (.registration problem), session))) ∧
    (∀ history session, Reached history session →
      (∀ (index : Nat) (container : Container), session.containers[index]? = some container →
        container.Holds index history session.objects) ∧
      session.events.filterMap Event.registration? = history.filterMap Attempt.report?) ∧
    Reached [] initial ∧
    ∀ history session, Reached history session → ∀ depth,
      (∀ scope term, ∃ more,
        Reached (history ++ more) (Term.eval (Run.callWithin depth) scope term session).2) ∧
      ∀ value positions names, ∃ more,
        Reached (history ++ more) (Run.callWithin depth value positions names session).2 := by
  refine ⟨fun request session hcontainer => ⟨Request.accepted_iff hcontainer,
    Request.run_of_not_acceptable hcontainer⟩, fun history session h => ⟨?_, ?_⟩, .initial, ?_⟩
  · exact fun index container hcontainer => h.path.holds hcontainer
  · exact h.path.accounts.reports
  · exact fun history session h depth => ⟨h.eval depth, h.call depth⟩

/-- A script that registers one name twice, and then a configuration without a name. -/
theorem registeredTwice_holds :
    let register (name : String) : Term := .perform "c" none (.registerConfig (.text name) (.dict []))
    let script : Term := .sequence
      [.perform "c" none (.create true), register "A", register "B", register "A", register ""]
    let session := (script.eval (Run.callWithin 0) [] .initial).2
    let nameless : Request := ⟨0, .text "", .config (.object 1)⟩
    (∃ history container, session.containers[0]? = some container ∧
      container.items = [("A", .object 6), ("B", .object 4)] ∧
      container.Holds 0 history session.objects ∧
      session.events.filterMap Event.registration? = history.filterMap Attempt.report?) ∧
    ¬nameless.Acceptable session.objects ∧
    ∃ problem, nameless.run session = (.error (.registration problem), session) := by
  intro register script session nameless
  obtain ⟨haccepted, hholds, hinitial, hreached⟩ := registries_fold_accepted
  obtain ⟨history, hhistory⟩ := (hreached [] .initial hinitial 0).1 [] script
  have hitems : session.containers[0]?.map Container.items =
      some [("A", .object 6), ("B", .object 4)] := by decide +kernel
  obtain ⟨container, hcontainer, hitems⟩ := Option.map_eq_some_iff.mp hitems
  have hnameless : ¬nameless.Acceptable session.objects := by
    rintro ⟨⟨name, hname, hfilled⟩, -⟩
    cases hname
    exact hfilled rfl
  have hexists : nameless.container < session.containers.size :=
    (Array.getElem?_eq_some_iff.mp hcontainer).1
  exact ⟨⟨_, container, hcontainer, hitems, (hholds _ _ hhistory).1 0 container hcontainer,
    (hholds _ _ hhistory).2⟩, hnameless, (haccepted nameless session hexists).2 hnameless⟩

end Registrar
