import Registrar.Proofs.Container.Handover
import Registrar.Proofs.Script.Evaluation

/-! # Isolation of overrides

Whatever a run has done before, and however deeply a call is nested, an item hands
over the dependency set that is built afresh for that very call.
-/

namespace Registrar

/-- A call hands over the dependency set that is built afresh for it: for the declared
keys of the item, the bag of the call, and the container as it is at that moment. -/
structure HandsAfresh (session : Session) (value : Value) (positions : List Value)
    (names : List (String × Value)) : Prop where
  component : ∀ item, session.objects.object? value = some (.component item) →
    positions = [] → givesName names receiverName = false →
    ∀ bag, session.objects.bag? ((Signature.givenBy bagName names).getD .null) = some bag →
      Run.Hands item.container item.dependencies bag session
        (fun call => Run.callOnce call value positions names)
        (fun call set => call item.implementation []
          (Signature.besides bagName names ++ [(bagName, set)]))
  function : ∀ item, session.objects.object? value = some (.function item) →
    item.dependencies ≠ [] → givesName names receiverName = false →
    ∃ parameter, item.injection.parameter? = some parameter ∧
      ∀ arguments bag, item.takeBag parameter.position positions names = .ok arguments →
        session.objects.bag? arguments.overrides = some bag →
          Run.Hands item.container item.dependencies bag session
            (fun call => Run.callOnce call value positions names)
            (fun call set =>
              if parameter.positionalOnly then
                call item.implementation (arguments.positions ++ [set]) arguments.names
              else
                call item.implementation arguments.positions
                  (Entries.put (· == ·) arguments.names parameter.name set))

variable {session : Session}

theorem Run.callOnce_component {value : Value} {item : ComponentItem}
    (hitem : session.objects.object? value = some (.component item)) (call : Caller)
    (positions : List Value) (names : List (String × Value)) :
    Run.callOnce call value positions names session =
      item.render value call positions names session := by
  unfold callOnce
  rw [bind_apply, object?_apply]
  dsimp only
  rw [hitem]

theorem Run.callOnce_function {value : Value} {item : FunctionItem}
    (hitem : session.objects.object? value = some (.function item)) (call : Caller)
    (positions : List Value) (names : List (String × Value)) :
    Run.callOnce call value positions names session =
      item.invoke call positions names session := by
  unfold callOnce
  rw [bind_apply, object?_apply]
  dsimp only
  rw [hitem]

/-- A render goes on with the dependency set that is prepared for it. -/
theorem ComponentItem.render_apply (item : ComponentItem) (self : Value) (call : Caller)
    {positions : List Value} {names : List (String × Value)}
    (hwell : (!positions.isEmpty || givesName names receiverName) = false) :
    item.render self call positions names session =
      match item.prepare self (Signature.besides bagName names)
        ((Signature.givenBy bagName names).getD .null) session with
      | (.ok set, after) => call item.implementation []
          (Signature.besides bagName names ++ [(bagName, set)]) after
      | (.error fault, after) => (.error fault, after) := by
  unfold render
  rw [hwell, if_neg Bool.false_ne_true]
  change (item.prepare self _ _ >>= _) session = _
  rw [Run.bind_apply]
  rcases item.prepare self _ _ session with ⟨_ | _, _⟩ <;> rfl

/-- An invocation goes on with the dependency set that is built for it. -/
theorem FunctionItem.invoke_apply {item : FunctionItem} {parameter : DependencyParameter}
    {positions : List Value} {names : List (String × Value)} {arguments : Arguments}
    {bag : List (Value × Value)} (call : Caller)
    (hparameter : item.injection.parameter? = some parameter)
    (hreceiver : givesName names receiverName = false)
    (harguments : item.takeBag parameter.position positions names = .ok arguments)
    (hbag : session.objects.bag? arguments.overrides = some bag) :
    item.invoke call positions names session =
      match Run.dependencySet item.container bag (item.dependencies.map .text) session with
      | (.ok set, after) =>
        (if parameter.positionalOnly then
          call item.implementation (arguments.positions ++ [set]) arguments.names
        else
          call item.implementation arguments.positions
            (Entries.put (· == ·) arguments.names parameter.name set)) after
      | (.error fault, after) => (.error fault, after) := by
  unfold invoke
  rw [hreceiver, hparameter]
  dsimp only
  rw [if_neg Bool.false_ne_true, harguments]
  change (Run.bag arguments.overrides >>= _) session = _
  rw [Run.bind_apply, Run.bag_apply hbag]
  dsimp only
  rw [Run.bind_apply]
  rcases Run.dependencySet _ _ _ session with ⟨_ | _, _⟩ <;> rfl

theorem handsAfresh (h : session.Sound) (value : Value) (positions : List Value)
    (names : List (String × Value)) : HandsAfresh session value positions names where
  component item hitem hpositions hreceiver bag hbag := by
    subst hpositions
    refine Run.Builds.hands (fun call => ?_)
      (item.prepare_builds h hitem hbag (Signature.besides bagName names))
    rw [Run.callOnce_component hitem, item.render_apply value call (by simpa using hreceiver)]
    rfl
  function item hitem hdependencies hreceiver := by
    have hbacks : session.Backs (.function item) := by
      cases value with
      | object reference => exact h.objects reference _ hitem
      | _ => cases hitem
    obtain ⟨parameter, hparameter⟩ := Option.isSome_iff_exists.mp (hbacks hdependencies)
    refine ⟨parameter, hparameter, fun arguments bag harguments hbag => ?_⟩
    refine Run.Builds.hands (fun call => ?_)
      (Run.dependencySet_builds h item.container item.dependencies bag)
    rw [Run.callOnce_function hitem,
      FunctionItem.invoke_apply call hparameter hreceiver harguments hbag]
    rfl

/-! ## Calls at any depth -/

variable {call call' : Caller}

theorem FunctionItem.invoke_agree (h : CallsAgree call call') (item : FunctionItem)
    (positions : List Value) (names : List (String × Value)) :
    (item.invoke call positions names).Agree (item.invoke call' positions names) := by
  have hgiven (parameter : DependencyParameter) (arguments : Arguments) (set : Value) :
      Run.Agree
        (if parameter.positionalOnly then
          call item.implementation (arguments.positions ++ [set]) arguments.names
        else call item.implementation arguments.positions
          (Entries.put (· == ·) arguments.names parameter.name set))
        (if parameter.positionalOnly then
          call' item.implementation (arguments.positions ++ [set]) arguments.names
        else call' item.implementation arguments.positions
          (Entries.put (· == ·) arguments.names parameter.name set)) := by
    split
    · exact h _ _ _
    · exact h _ _ _
  unfold invoke
  by_cases hreceiver : givesName names receiverName = true
  · rw [if_pos hreceiver, if_pos hreceiver]
    exact fun session hs => ⟨rfl, hs⟩
  · rw [if_neg hreceiver, if_neg hreceiver]
    cases item.injection.parameter? with
    | none => exact h _ _ _
    | some parameter =>
      exact (Run.keeps_ofExcept _).bind fun arguments _ => (Run.keeps_bag _).bind fun _ _ =>
        (Run.keeps_dependencySet _ _ _).bind fun set _ => hgiven parameter arguments set

/-- Renders agree when the calls they make do: what is prepared is the same. -/
theorem ComponentItem.render_agree (h : CallsAgree call call') {item : ComponentItem} {self : Value}
    (hs : session.Sound) (hself : session.objects.object? self = some (.component item))
    (positions : List Value) (names : List (String × Value)) :
    item.render self call positions names session = item.render self call' positions names session ∧
      (item.render self call positions names session).2.Sound := by
  by_cases hwell : (!positions.isEmpty || givesName names receiverName) = false
  · rw [render_apply item self call hwell, render_apply item self call' hwell]
    have hprepare : (item.prepare self (Signature.besides bagName names)
        ((Signature.givenBy bagName names).getD .null) session).2.Sound := by
      cases hbag : session.objects.bag? ((Signature.givenBy bagName names).getD .null) with
      | none =>
        unfold prepare Run.bag
        rw [Run.bind_apply, Run.bind_apply, Run.objects_apply]
        dsimp only
        rw [hbag]
        exact hs
      | some bag => exact (prepare_builds hs hself hbag _).sound hs
    revert hprepare
    rcases item.prepare self _ _ session with ⟨fault | set, after⟩
    · exact fun hprepare => ⟨rfl, hprepare⟩
    · exact fun hprepare => h _ _ _ after hprepare
  · unfold render
    rw [if_pos (Bool.of_not_eq_false hwell), if_pos (Bool.of_not_eq_false hwell)]
    exact ⟨rfl, hs⟩

theorem callOnce_agree (h : CallsAgree call call') :
    CallsAgree (Run.callOnce call) (Run.callOnce call') := by
  intro value positions names session hs
  cases hobject : session.objects.object? value with
  | none =>
    unfold Run.callOnce
    rw [Run.bind_apply, Run.bind_apply, Run.object?_apply, hobject]
    exact ⟨rfl, hs⟩
  | some object =>
    cases object with
    | component item =>
      rw [Run.callOnce_component hobject, Run.callOnce_component hobject]
      exact ComponentItem.render_agree h hs hobject positions names
    | function item =>
      rw [Run.callOnce_function hobject, Run.callOnce_function hobject]
      exact item.invoke_agree h positions names session hs
    | callable callable =>
      unfold Run.callOnce
      rw [Run.bind_apply, Run.bind_apply, Run.object?_apply, hobject]
      have hscope (bound : List (String × Argument Value)) : Run.Keeps (bound.mapM fun entry => do
          return (entry.1, ← Run.argument entry.2)) :=
        .mapM fun entry => (Run.keeps_argument entry.2).bind fun _ _ => Run.keeps_pure _
      exact ((Run.keeps_need _ _).bind fun bound _ => (hscope bound).bind fun scope _ =>
        Term.eval_agree h scope callable.body) session hs
    | pending registration =>
      unfold Run.callOnce
      rw [Run.bind_apply, Run.bind_apply, Run.object?_apply, hobject]
      refine (?_ : Run.Keeps _) session hs
      split
      · exact Run.keeps_complete _ _
      · exact Run.keeps_throw _
    | _ =>
      unfold Run.callOnce
      rw [Run.bind_apply, Run.bind_apply, Run.object?_apply, hobject]
      exact ⟨rfl, hs⟩

/-! ## Runs -/

namespace Run

variable (property : Session → Value → List Value → List (String × Value) → Prop)

open Classical in
/-- Call a value, with an alarm in place of every call that lacks a property. -/
noncomputable def callGuarded (alarm : Caller) : (depth : Nat) → Caller
  | 0 => fun _ _ _ => throw .tooDeep
  | depth + 1 => fun value positions names session =>
    if property session value positions names then
      callOnce (callGuarded alarm depth) value positions names session
    else alarm value positions names session

/-- Steps one after another, with the results of all. What a step did stays when it
fails. -/
def takeSteps (call : Caller) : List Step → Session → List (Except Fault Value) × Session
  | [], session => ([], session)
  | step :: rest, session =>
    let (result, after) :=
      (Term.perform step.container step.keep step.action).eval call [] session
    let (results, last) := takeSteps call rest after
    (result :: results, last)

/-- A property holds of every call that steps make, with calls nested at most so
deep: no alarm in the place of a call without it makes a difference. -/
def EveryCall (depth : Nat) (steps : List Step) (session : Session) : Prop :=
  ∀ alarm, takeSteps (callGuarded property alarm depth) steps session =
    takeSteps (callWithin depth) steps session

variable {property}

/-- An alarm that makes no difference is not raised. -/
theorem property_of_callGuarded {depth : Nat} {session : Session} {value : Value}
    {positions : List Value} {names : List (String × Value)}
    (h : ∀ alarm, callGuarded property alarm (depth + 1) value positions names session =
      callWithin (depth + 1) value positions names session) :
    property session value positions names := by
  by_contra hnot
  have hraised (result : Value) :
      callWithin (depth + 1) value positions names session = (.ok result, session) := by
    rw [← h fun _ _ _ => pure result]
    exact if_neg hnot
  have hnull := (hraised .null).symm.trans (hraised (.bool true))
  cases hnull

/-- Guarded calls are the plain ones where the property holds in sound sessions. -/
theorem callGuarded_agree (h : ∀ session : Session, session.Sound →
    ∀ value positions names, property session value positions names) (alarm : Caller)
    (depth : Nat) : CallsAgree (callGuarded property alarm depth) (callWithin depth) := by
  induction depth with
  | zero => exact fun _ _ _ => keeps_throw _
  | succ depth ih =>
    intro value positions names session hs
    have hguarded : callGuarded property alarm (depth + 1) value positions names session =
        callOnce (callGuarded property alarm depth) value positions names session :=
      if_pos (h session hs value positions names)
    rw [hguarded]
    exact callOnce_agree ih value positions names session hs

theorem takeSteps_agree {call call' : Caller} (h : CallsAgree call call') (steps : List Step)
    {session : Session} (hs : session.Sound) :
    takeSteps call steps session = takeSteps call' steps session := by
  induction steps generalizing session with
  | nil => rfl
  | cons step steps ih =>
    obtain ⟨heq, hafter⟩ :=
      Term.eval_agree h [] (.perform step.container step.keep step.action) session hs
    unfold takeSteps
    rw [← heq]
    revert hafter
    rcases Term.eval call [] (.perform step.container step.keep step.action) session with
      ⟨result, after⟩
    intro hafter
    dsimp only
    rw [ih hafter]

end Run

/-- Isolation of overrides, and transparency of memos, over all runs. Whatever steps
are taken from the start, every call they make at any depth hands over the dependency
set built afresh for it; and what is built afresh hangs on the declared keys, the
bag of the call and the containers, but on no memo. -/
theorem everyCall_handsAfresh :
    (∀ depth steps, Run.EveryCall HandsAfresh depth steps .initial) ∧
    ∀ session other : Session, session.containers = other.containers →
      ∀ index dependencies bag,
        session.afresh index dependencies bag = other.afresh index dependencies bag :=
  ⟨fun depth steps alarm => Run.takeSteps_agree
    (Run.callGuarded_agree (fun _ hs => handsAfresh hs) alarm depth) steps Session.initial_sound,
    fun _ _ h => Session.afresh_congr h⟩

/-- A component that returns its dependency, rendered twice, and once more after the
dependency was registered again. -/
theorem rerender_handsAfresh :
    let register : Step := ⟨"c", none, .registerConfig (.text "A") (.dict [])⟩
    let component : Term := .callable [⟨"deps", .named, none⟩]
      (.get (.argument "deps") (.text "A")) "show" "show" .function
    let render : Step := ⟨"c", none, .evaluate (.call (.stored "Show") [] [])⟩
    let steps : List Step :=
      [⟨"c", none, .create true⟩, register,
        ⟨"c", some "Show", .register .component .direct (.text "Show") (.list [.text "A"])
          (some component) none⟩, render, render, register, render]
    let more : Session := { Session.initial with objects := Store.initial.push (.list []) }
    Run.EveryCall HandsAfresh 2 steps .initial ∧
    (Run.takeSteps (Run.callWithin 2) steps .initial).1.drop 3 =
      [.ok (.object 2), .ok (.object 2), .ok (.object 8), .ok (.object 8)] ∧
    more.afresh 0 ["A"] [] = Session.initial.afresh 0 ["A"] [] := by
  intro register component render steps more
  exact ⟨everyCall_handsAfresh.1 2 steps, by decide +kernel,
    everyCall_handsAfresh.2 more .initial rfl 0 ["A"] []⟩

end Registrar
