import Registrar.Proofs.Registration.Storing
import Registrar.Proofs.Script.Closing

/-! # The manners of a registration

An implementation is registered by the container's own operation, by an entry point that is given
it, or by the decorator of an entry point that is not. The decorator is an object of its own, which
was made before the item; nothing else tells the manners apart. A decorator that is applied later,
or again, registers as the container's own operation then would.
-/

namespace Registrar

namespace Registrant

/-- What an entry point that is given no implementation keeps for its decorator. -/
def pending (registrant : Registrant) (index : Nat) (name dependencies kind : Value) :
    PendingRegistration where
  container := index
  kind? := match registrant with
    | component => none
    | function => some kind
    | hook => some (.kind .hook)
  name := name
  dependencies := dependencies

/-- What a container is asked for. -/
def request (registrant : Registrant) (index : Nat)
    (name dependencies implementation kind : Value) : Request where
  container := index
  name := name
  content := match registrant with
    | component => .component dependencies implementation
    | function => .function dependencies implementation kind
    | hook => .function dependencies implementation (.kind .hook)

/-- Register an implementation by the container's own operation. -/
def register (registrant : Registrant) (index : Nat)
    (name dependencies implementation kind : Value) : Run Value :=
  match registrant with
  | component => Run.registerComponent index name dependencies implementation
  | function => Run.registerFunction index name dependencies implementation kind
  | hook => Run.registerFunction index name dependencies implementation (.kind .hook)

variable (registrant : Registrant) (index : Nat) (name dependencies implementation kind : Value)

theorem run_request : (registrant.request index name dependencies implementation kind).run =
    registrant.register index name dependencies implementation kind := by
  cases registrant <;> rfl

theorem complete_pending :
    Run.complete (registrant.pending index name dependencies kind) implementation =
      registrant.register index name dependencies implementation kind := by
  cases registrant <;> rfl

end Registrant

/-- Register an implementation in a manner. -/
def Manner.register (call : Caller) (manner : Manner) (registrant : Registrant) (index : Nat)
    (name dependencies implementation kind : Value) : Run Value :=
  match manner with
  | direct => registrant.register index name dependencies implementation kind
  | entryPoint => Run.enter (registrant.pending index name dependencies kind) implementation
  | decorator => do
    call (← Run.enter (registrant.pending index name dependencies kind) .null) [implementation] []

/-- The registration of a script evaluates its operands, and is made in its manner. -/
theorem Action.run_register (call : Caller) (scope : Scope) (container : String)
    (registrant : Registrant) (manner : Manner) (name dependencies : Term)
    (implementation kind : Option Term) :
    Action.run call scope container
        (.register registrant manner name dependencies implementation kind) = (do
      let name ← name.eval call scope
      let dependencies ← dependencies.eval call scope
      let implementation := (← Term.evalOption call scope implementation).getD .null
      let kind := (← Term.evalOption call scope kind).getD (.kind .function)
      let index ← Run.containerNamed container
      manner.register call registrant index name dependencies implementation kind) := by
  cases manner with
  | direct => cases registrant <;> rfl
  | entryPoint => cases registrant <;> rfl
  | decorator => cases registrant <;> rfl

/-! ## Decorators -/

/-- What is done while a decorator is at hand: it is applied to an implementation, or a term is
evaluated. -/
inductive Deed
  | apply (implementation : Value)
  | evaluate (depth : Nat) (scope : Scope) (term : Term)

/-- Do one thing, applying the decorator in a given way. -/
def Deed.run (application : Value → Run Value) : Deed → Run Value
  | apply implementation => application implementation
  | evaluate depth scope term => term.eval (Run.callWithin depth) scope

/-- Do one thing after another, with the results of all. What was done stays when it fails. -/
def Run.doAll (application : Value → Run Value) :
    List Deed → Session → List (Except Fault Value) × Session
  | [], session => ([], session)
  | deed :: rest, session =>
    let (result, after) := deed.run application session
    let (results, last) := doAll application rest after
    (result :: results, last)

theorem Run.doAll_cons (application : Value → Run Value) (deed : Deed) (rest : List Deed)
    (session : Session) : doAll application (deed :: rest) session =
      ((deed.run application session).1 ::
          (doAll application rest (deed.run application session).2).1,
        (doAll application rest (deed.run application session).2).2) := rfl

/-- A decorator is at hand, in a session where all that can be reached exists. -/
structure Session.Offers (decorator : Value) (registration : PendingRegistration)
    (session : Session) : Prop where
  grounded : session.Grounded
  pending : session.objects.object? decorator = some (.pending registration)

namespace Run

variable {session : Session} {decorator : Value} {registration : PendingRegistration}

/-- The first stage makes the decorator, and nothing else. -/
theorem enter_null (registration : PendingRegistration) (session : Session) :
    enter registration .null session =
      (.ok (.object session.objects.size), session.extend #[.pending registration]) := by
  unfold Session.extend
  rw [Array.append_singleton]
  rfl

theorem object?_extend_pending (session : Session) (registration : PendingRegistration) :
    (session.extend #[.pending registration]).objects.object? (.object session.objects.size) =
      some (.pending registration) := by
  unfold Session.extend
  rw [Array.append_singleton]
  exact Store.object?_create _ _

theorem enter_of_ne_null {implementation : Value} (h : implementation ≠ .null) :
    enter registration implementation = complete registration implementation := if_neg h

/-- A decorator that is applied completes its registration. -/
theorem callWithin_pending (h : session.objects.object? decorator = some (.pending registration))
    (depth : Nat) (implementation : Value) :
    callWithin (depth + 1) decorator [implementation] [] session =
      complete registration implementation session := by
  change callOnce (callWithin depth) decorator [implementation] [] session = _
  unfold callOnce
  rw [bind_apply, object?_apply, h]
  rfl

end Run

open Run

namespace Session.Offers

variable {session : Session} {decorator : Value} {registration : PendingRegistration}

theorem of_enter (hgrounded : session.Grounded)
    (hcontainer : registration.container < session.containers.size) :
    (session.extend #[.pending registration]).Offers (.object session.objects.size)
      registration := by
  refine ⟨?_, object?_extend_pending session registration⟩
  unfold Session.extend
  rw [Array.append_singleton]
  refine hgrounded.push fun other hother => ?_
  cases hother
  exact hcontainer

/-- Whatever is done, the decorator stays at hand, and its application is the registration. -/
theorem deed (h : session.Offers decorator registration) (depth : Nat) (deed : Deed) :
    deed.run (fun implementation => callWithin (depth + 1) decorator [implementation] []) session =
        deed.run (complete registration) session ∧
      (deed.run (complete registration) session).2.Offers decorator registration := by
  have hkept {run : Run Value}
      (hrun : FollowsFrom (fun before after => ∃ history, before.Path history after) session run) :
      (run session).2.Offers decorator registration := by
    obtain ⟨hgrounded, history, hpath⟩ := hrun
    exact ⟨hgrounded, hpath.pending h.pending⟩
  cases deed with
  | apply implementation =>
    have hcontainer := h.grounded.pending decorator registration h.pending
    exact ⟨callWithin_pending h.pending depth implementation,
      hkept (follows_complete enduring_path.toSteady h.grounded hcontainer implementation)⟩
  | evaluate depth' scope term =>
    exact ⟨rfl, hkept (term.eval_follows enduring_path depth' scope session h.grounded)⟩

/-- Each application of a decorator, among whatever else is done, is the registration. -/
theorem doAll (h : session.Offers decorator registration) (depth : Nat) (deeds : List Deed) :
    Run.doAll (fun implementation => callWithin (depth + 1) decorator [implementation] []) deeds
        session = Run.doAll (complete registration) deeds session ∧
      (Run.doAll (complete registration) deeds session).2.Offers decorator registration := by
  induction deeds generalizing session with
  | nil => exact ⟨rfl, h⟩
  | cons deed deeds ih =>
    obtain ⟨hsame, hafter⟩ := h.deed depth deed
    obtain ⟨hrest, hlast⟩ := ih hafter
    rw [doAll_cons, doAll_cons, hsame, hrest]
    exact ⟨rfl, hlast⟩

end Session.Offers

/-! ## Manners -/

/-- In a closed session a registration comes to one verdict in every manner. -/
theorem Registrant.manners_conclude (registrant : Registrant) {session : Session} {index : Nat}
    {name dependencies implementation kind : Value} (hclosed : session.Closed)
    (hindex : index < session.containers.size)
    (hvalues : ∀ value ∈ (registrant.request index name dependencies implementation kind).values,
      value.Within session.objects.size) :
    ∃ verdict : Verdict, ∀ depth,
      let register (manner : Manner) : Except Fault Value × Session :=
        manner.register (callWithin (depth + 1)) registrant index name dependencies implementation
          kind session
      register .direct = session.conclude index verdict ∧
      (implementation ≠ .null → register .entryPoint = session.conclude index verdict) ∧
      register .decorator =
        (session.extend #[.pending (registrant.pending index name dependencies kind)]).conclude index
          verdict := by
  have hconcludes := (registrant.request index name dependencies implementation kind).run_concludes
    hclosed hindex hvalues
  rw [run_request] at hconcludes
  obtain ⟨verdict, -, hverdict⟩ := hconcludes
  have hdirect := hverdict #[]
  rw [session.extend_empty] at hdirect
  refine ⟨verdict, fun depth => ⟨hdirect, fun hgiven => ?_, ?_⟩⟩
  · dsimp only [Manner.register]
    rw [enter_of_ne_null hgiven, complete_pending]
    exact hdirect
  · dsimp only [Manner.register]
    rw [bind_apply, enter_null]
    dsimp only
    rw [callWithin_pending (object?_extend_pending session _), complete_pending]
    exact hverdict _

/-- Scripts reach closed sessions, and there a registration comes to one verdict in every manner:
it is refused for one problem, and nothing has changed, or one item is stored and reported. That
there is a decorator makes no difference. An entry point that is given no implementation always
makes its decorator, and nothing else. Whatever is done then, each application of the decorator is
the registration by the container's own operation in the session it is applied in. -/
theorem manners_register_alike :
    (∀ depth steps, (Run.takeSteps (callWithin depth) steps .initial).2.Closed) ∧
    ∀ (registrant : Registrant) (index : Nat) (name dependencies kind : Value),
      let registration := registrant.pending index name dependencies kind
      (∀ session : Session, session.Closed → index < session.containers.size →
        ∀ implementation,
        (∀ value ∈ (registrant.request index name dependencies implementation kind).values,
          value.Within session.objects.size) →
        ∃ verdict : Verdict, ∀ depth,
          let outcome (manner : Manner) : Except Fault Value × Session :=
            manner.register (callWithin (depth + 1)) registrant index name dependencies
              implementation kind session
          outcome .direct = session.conclude index verdict ∧
          (implementation ≠ .null → outcome .entryPoint = session.conclude index verdict) ∧
          outcome .decorator = (session.extend #[.pending registration]).conclude index verdict) ∧
      (∀ session : Session,
        enter registration .null session =
          (.ok (.object session.objects.size), session.extend #[.pending registration]) ∧
        (session.Grounded → index < session.containers.size →
          (session.extend #[.pending registration]).Offers (.object session.objects.size)
            registration)) ∧
      ∀ (session : Session) (decorator : Value), session.Offers decorator registration →
        ∀ depth deeds,
          Run.doAll (fun implementation => callWithin (depth + 1) decorator [implementation] [])
              deeds session =
            Run.doAll
              (fun implementation => registrant.register index name dependencies implementation kind)
              deeds session := by
  refine ⟨fun depth steps => Run.takeSteps_closed depth steps Session.initial_closed,
    fun registrant index name dependencies kind => ⟨?_, fun session => ⟨?_, ?_⟩, ?_⟩⟩
  · exact fun session hclosed hindex implementation hvalues =>
      registrant.manners_conclude hclosed hindex hvalues
  · exact enter_null _ session
  · exact fun hgrounded hindex => .of_enter hgrounded hindex
  · intro session decorator hoffers depth deeds
    rw [(hoffers.doAll depth deeds).1]
    exact congrArg (Run.doAll · deeds session) (funext fun implementation =>
      registrant.complete_pending index name dependencies implementation kind)

/-- A callable that is registered as a hook, by a decorator that is applied to it, then to nothing,
and to it again after another container was made. -/
theorem hook_registers_alike :
    let callable : Term := .callable [⟨"x", .positional, none⟩] .null "f" "f" .function
    let steps : List Step := [⟨"c", none, .create true⟩, ⟨"c", none, .evaluate callable⟩,
      ⟨"c", none, .evaluate (.list [])⟩]
    let session := (Run.takeSteps (callWithin 0) steps .initial).2
    let registration := Registrant.hook.pending 0 (.text "A") (.object 2) .null
    let after := session.extend #[.pending registration]
    let outcome (manner : Manner) : Except Fault Value × Session :=
      manner.register (callWithin 1) .hook 0 (.text "A") (.object 2) (.object 1) .null session
    let deeds : List Deed := [.apply (.object 1), .apply .null,
      .evaluate 0 [] (.perform "d" none (.create true)), .apply (.object 1)]
    (outcome .direct).1 = .ok (.object 3) ∧
    (∃ verdict, outcome .direct = session.conclude 0 verdict ∧
      outcome .entryPoint = session.conclude 0 verdict ∧
      outcome .decorator = after.conclude 0 verdict) ∧
    after.Offers (.object 3) registration ∧
    Run.doAll (fun implementation => callWithin 1 (.object 3) [implementation] []) deeds after =
      Run.doAll (fun implementation =>
        Registrant.hook.register 0 (.text "A") (.object 2) implementation .null) deeds after := by
  intro callable steps session registration after outcome deeds
  obtain ⟨hclosed, halike⟩ := manners_register_alike
  obtain ⟨hverdict, hstage, hdeeds⟩ := halike .hook 0 (.text "A") (.object 2) .null
  have hsession : session.Closed := hclosed 0 steps
  have hindex : 0 < session.containers.size := by decide +kernel
  have hsize : session.objects.size = 3 := by decide +kernel
  obtain ⟨verdict, houtcome⟩ := hverdict session hsession hindex (.object 1) (by
    rw [hsize]
    simp [Registrant.request, Request.values, Value.Within])
  obtain ⟨hdirect, hentry, hdecorator⟩ := houtcome 0
  have hoffers := (hstage session).2 hsession.toGrounded hindex
  rw [hsize] at hoffers
  exact ⟨by decide +kernel, ⟨verdict, hdirect, hentry (by simp), hdecorator⟩, hoffers,
    hdeeds after (.object 3) hoffers 0 deeds⟩

end Registrar
