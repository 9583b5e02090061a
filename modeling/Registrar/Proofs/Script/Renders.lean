import Registrar.Proofs.Container.Trail
import Registrar.Proofs.Script.Isolation

/-! # The renders of scripts

The renders that a script makes, in the order of resolution, by recursion on its terms:
the renders of an operand come before those of the next one, and the render of a component
before those its implementation makes. The sessions in between are those of the evaluation
itself. How the renders of a call are found is a parameter, as the call is.
-/

namespace Registrar

/-- The renders of a call. -/
abbrev Recorder := Value → List Value → List (String × Value) → Log

open Run

mutual

/-- The renders that evaluating a term makes. -/
def Term.renders (call : Caller) (calls : Recorder) (scope : Scope) : Term → Log
  | .null | .bool _ | .int _ | .text _ | .bytes _ | .kind _ | .stored _ | .argument _ | .arguments
  | .fail _ => .quiet
  | .list elements | .tuple elements | .set elements | .concat elements | .sequence elements =>
    Term.rendersAll call calls scope elements
  | .dict entries => Term.rendersPairs call calls scope entries
  | .view operand | .keys operand | .identity operand | .trace operand =>
    operand.renders call calls scope
  | .callable parameters _ _ _ _ => Term.rendersDefaults call calls scope parameters
  | .get left right | .has left right | .add left right | .same left right | .equal left right =>
    followed (left.eval call scope) (left.renders call calls scope) fun _ =>
      right.renders call calls scope
  | .getOr mapping key value | .put mapping key value =>
    followed (mapping.eval call scope) (mapping.renders call calls scope) fun _ =>
      followed (key.eval call scope) (key.renders call calls scope) fun _ =>
        value.renders call calls scope
  | .call callee positions names =>
    followed (callee.eval call scope) (callee.renders call calls scope) fun callee =>
      followed (Term.evalAll call scope positions) (Term.rendersAll call calls scope positions)
        fun positions =>
          followed (Term.evalPairs call scope names) (Term.rendersPairs call calls scope names)
            fun names => followed (namesOf names) .quiet fun names => calls callee positions names
  | .branch condition yes no =>
    followed (condition.eval call scope) (condition.renders call calls scope)
      fun condition session =>
        if session.objects.isTrue condition then yes.renders call calls scope session
        else no.renders call calls scope session
  | .perform container _ action => action.renders call calls scope container

/-- The renders that evaluating terms makes, in order. -/
def Term.rendersAll (call : Caller) (calls : Recorder) (scope : Scope) : List Term → Log
  | [] => .quiet
  | term :: rest =>
    followed (term.eval call scope) (term.renders call calls scope) fun _ =>
      Term.rendersAll call calls scope rest

/-- The renders that evaluating pairs of terms makes, in order. -/
def Term.rendersPairs (call : Caller) (calls : Recorder) (scope : Scope) :
    List (Term × Term) → Log
  | [] => .quiet
  | (key, value) :: rest =>
    followed (key.eval call scope) (key.renders call calls scope) fun _ =>
      followed (value.eval call scope) (value.renders call calls scope) fun _ =>
        Term.rendersPairs call calls scope rest

/-- The renders that evaluating the defaults of parameters makes. -/
def Term.rendersDefaults (call : Caller) (calls : Recorder) (scope : Scope) :
    List (Parameter Term) → Log
  | [] => .quiet
  | ⟨_, _, none⟩ :: rest => Term.rendersDefaults call calls scope rest
  | ⟨_, _, some default⟩ :: rest =>
    followed (default.eval call scope) (default.renders call calls scope) fun _ =>
      Term.rendersDefaults call calls scope rest

/-- The renders that evaluating a term that may be missing makes. -/
def Term.rendersOption (call : Caller) (calls : Recorder) (scope : Scope) : Option Term → Log
  | none => .quiet
  | some term => term.renders call calls scope

/-- The renders that an action on the container of a name makes. -/
def Action.renders (call : Caller) (calls : Recorder) (scope : Scope) (container : String) :
    Action → Log
  | .create _ | .names | .count => .quiet
  | .evaluate operand | .get operand | .contains operand | .metadata operand | .display operand
  | .inspect operand => operand.renders call calls scope
  | .registerConfig name config =>
    followed (name.eval call scope) (name.renders call calls scope) fun _ =>
      config.renders call calls scope
  | .register registrant manner name dependencies implementation kind =>
    followed (name.eval call scope) (name.renders call calls scope) fun name =>
      followed (dependencies.eval call scope) (dependencies.renders call calls scope)
        fun dependencies =>
          followed (Term.evalOption call scope implementation)
            (Term.rendersOption call calls scope implementation) fun implementation =>
              followed (Term.evalOption call scope kind)
                (Term.rendersOption call calls scope kind) fun kind =>
                  followed (containerNamed container) .quiet fun container =>
                    match manner with
                    | .direct | .entryPoint => .quiet
                    | .decorator =>
                      let kind? := match registrant with
                        | .component => none
                        | .function => some (kind.getD (.kind .function))
                        | .hook => some (.kind .hook)
                      followed (enter { container, kind?, name, dependencies } .null) .quiet
                        fun decorator => calls decorator [implementation.getD .null] []
  | .build dependencies overrides =>
    followed (dependencies.eval call scope) (dependencies.renders call calls scope) fun _ =>
      Term.rendersOption call calls scope overrides

end

namespace Run

/-- The render that calling a component makes, unless the call does not fit it. -/
def renderOf? (value : Value) (item : ComponentItem) (positions : List Value)
    (names : List (String × Value)) (session : Session) : Option Render :=
  if !positions.isEmpty || givesName names receiverName then none
  else some ⟨value, item, Signature.besides bagName names,
    (Signature.givenBy bagName names).getD .null, session⟩

/-- The renders of a call; those of the calls its implementation makes are found by `calls`. -/
def rendersOnce (call : Caller) (calls : Recorder) : Recorder :=
  fun value positions names session =>
    match session.objects.object? value with
    | some (.callable callable) =>
      followed (need .mistyped (callable.signature.bind? positions names)) .quiet (fun bound =>
        followed (bound.mapM fun (name, argument) => return (name, ← Run.argument argument)) .quiet
          fun scope => callable.body.renders call calls scope) session
    | some (.function item) =>
      followed (item.passes positions names) .quiet
        (fun passed => calls item.implementation passed.1 passed.2) session
    | some (.component item) =>
      match renderOf? value item positions names session with
      | none => []
      | some render =>
        followed (item.prepare value render.properties render.overrides) (fun _ => [render])
          (fun set => calls item.implementation [] (render.properties ++ [(bagName, set)])) session
    | _ => []

/-- The renders of a call, with calls nested at most so deep. -/
def rendersWithin : (depth : Nat) → Recorder
  | 0 => fun _ _ _ => .quiet
  | depth + 1 => rendersOnce (callWithin depth) (rendersWithin depth)

/-- The renders of steps, one after another. What a step did stays when it fails. -/
def rendersOf (depth : Nat) : List Step → Log
  | [] => .quiet
  | step :: rest => fun session =>
    let performed : Term := .perform step.container step.keep step.action
    performed.renders (callWithin depth) (rendersWithin depth) [] session ++
      rendersOf depth rest (performed.eval (callWithin depth) [] session).2

end Run

end Registrar
