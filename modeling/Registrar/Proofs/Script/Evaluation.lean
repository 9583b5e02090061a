import Registrar.Proofs.Container.Agreement
import Registrar.Script.Evaluation

/-! # Evaluation with calls that agree

Evaluating a term makes calls, and does nothing else that a memo could be
disturbed by. With calls that agree the values of a term agree, by induction on
the term.
-/

namespace Registrar

open Run

/-- Two callers agree on every call. -/
def CallsAgree (call call' : Caller) : Prop :=
  ∀ value positions names, (call value positions names).Agree (call' value positions names)

variable {call call' : Caller}

mutual

theorem Term.eval_agree (h : CallsAgree call call') (scope : Scope) :
    ∀ term : Term, (term.eval call scope).Agree (term.eval call' scope)
  | .null | .bool _ | .int _ | .text _ | .bytes _ | .kind _ => keeps_pure _
  | .list elements => (Term.evalAll_agree h scope elements).bind fun _ _ => keeps_list _
  | .tuple elements => (Term.evalAll_agree h scope elements).bind fun _ _ => keeps_tuple _
  | .set elements =>
    (Term.evalAll_agree h scope elements).bind fun _ _ =>
      (keeps_entriesOf _).bind_const fun _ => keeps_create fun _ _ => trivial
  | .dict entries =>
    (Term.evalPairs_agree h scope entries).bind fun _ _ =>
      (keeps_entriesOf _).bind_const fun _ => keeps_dict _
  | .view mapping => by
    have hview (mapping : Value) : (create (.view mapping)).Keeps :=
      keeps_create fun _ _ => trivial
    exact (Term.eval_agree h scope mapping).bind fun _ _ => keeps_objects.bind_const fun _ =>
      keeps_ite ((keeps_throw _).bind_const fun _ => hview _) (hview _)
  | .callable parameters body name qualifiedName form =>
    (Term.evalDefaults_agree h scope parameters).bind fun _ _ => keeps_create fun _ _ => trivial
  | .stored name => keeps_get.bind_const fun _ => keeps_need _ _
  | .argument name => keeps_need _ _
  | .arguments => keeps_dict _
  | .get mapping key =>
    (Term.eval_agree h scope mapping).bind fun _ _ => (Term.eval_agree h scope key).bind fun _ _ =>
      keeps_objects.bind_const fun _ => keeps_ofExcept _
  | .getOr mapping key fallback =>
    (Term.eval_agree h scope mapping).bind fun _ _ => (Term.eval_agree h scope key).bind fun _ _ =>
      (Term.eval_agree h scope fallback).bind fun _ _ =>
        keeps_objects.bind_const fun _ => keeps_ofExcept _
  | .has mapping key =>
    (Term.eval_agree h scope mapping).bind fun _ _ => (Term.eval_agree h scope key).bind fun _ _ =>
      keeps_objects.bind_const fun _ => (keeps_ofExcept _).bind_const fun _ => keeps_pure _
  | .keys mapping =>
    (Term.eval_agree h scope mapping).bind fun _ _ => keeps_objects.bind_const fun _ =>
      (keeps_need _ _).bind_const fun _ => keeps_list _
  | .put mapping key value =>
    (Term.eval_agree h scope mapping).bind fun _ _ => (Term.eval_agree h scope key).bind fun _ _ =>
      (Term.eval_agree h scope value).bind fun _ _ => keeps_put _ _ _
  | .concat parts => (Term.evalAll_agree h scope parts).bind fun _ _ => keeps_concat _
  | .add left right =>
    (Term.eval_agree h scope left).bind fun _ _ => (Term.eval_agree h scope right).bind fun _ _ =>
      keeps_add _ _
  | .call callee positions names =>
    (Term.eval_agree h scope callee).bind fun _ _ =>
      (Term.evalAll_agree h scope positions).bind fun _ _ =>
        (Term.evalPairs_agree h scope names).bind fun _ _ =>
          (keeps_namesOf _).bind fun _ _ => h _ _ _
  | .sequence terms => (Term.evalAll_agree h scope terms).bind fun _ _ => keeps_pure _
  | .branch condition yes no => by
    refine (Term.eval_agree h scope condition).bind fun _ _ => keeps_objects.bind fun _ _ => ?_
    split
    · exact Term.eval_agree h scope yes
    · exact Term.eval_agree h scope no
  | .same left right =>
    (Term.eval_agree h scope left).bind fun _ _ => (Term.eval_agree h scope right).bind fun _ _ =>
      keeps_pure _
  | .equal left right =>
    (Term.eval_agree h scope left).bind fun _ _ => (Term.eval_agree h scope right).bind fun _ _ =>
      keeps_equal _ _
  | .identity value => (Term.eval_agree h scope value).bind fun _ _ => keeps_identity _
  | .trace value => (Term.eval_agree h scope value).bind fun _ _ => keeps_trace _
  | .fail message => keeps_throw _
  | .perform container none action => Action.run_agree h scope container action
  | .perform container (some name) action =>
    (Action.run_agree h scope container action).bind fun _ _ =>
      (keeps_keep _ _).bind_const fun _ => keeps_pure _

theorem Term.evalAll_agree (h : CallsAgree call call') (scope : Scope) :
    ∀ terms : List Term, (Term.evalAll call scope terms).Agree (Term.evalAll call' scope terms)
  | [] => keeps_pure _
  | term :: rest =>
    (Term.eval_agree h scope term).bind fun _ _ =>
      (Term.evalAll_agree h scope rest).bind fun _ _ => keeps_pure _

theorem Term.evalPairs_agree (h : CallsAgree call call') (scope : Scope) :
    ∀ pairs : List (Term × Term),
      (Term.evalPairs call scope pairs).Agree (Term.evalPairs call' scope pairs)
  | [] => keeps_pure _
  | (key, value) :: rest =>
    (Term.eval_agree h scope key).bind fun _ _ => (Term.eval_agree h scope value).bind fun _ _ =>
      (Term.evalPairs_agree h scope rest).bind fun _ _ => keeps_pure _

theorem Term.evalDefaults_agree (h : CallsAgree call call') (scope : Scope) :
    ∀ parameters : List (Parameter Term),
      (Term.evalDefaults call scope parameters).Agree (Term.evalDefaults call' scope parameters)
  | [] => keeps_pure _
  | ⟨_, _, none⟩ :: rest => (Term.evalDefaults_agree h scope rest).bind fun _ _ => keeps_pure _
  | ⟨_, _, some default⟩ :: rest =>
    (Term.eval_agree h scope default).bind fun _ _ =>
      (Term.evalDefaults_agree h scope rest).bind fun _ _ => keeps_pure _

theorem Term.evalOption_agree (h : CallsAgree call call') (scope : Scope) :
    ∀ term? : Option Term,
      (Term.evalOption call scope term?).Agree (Term.evalOption call' scope term?)
  | none => keeps_pure _
  | some term => (Term.eval_agree h scope term).bind fun _ _ => keeps_pure _

theorem Action.run_agree (h : CallsAgree call call') (scope : Scope)
    (container : String) :
    ∀ action : Action, (action.run call scope container).Agree (action.run call' scope container)
  | .create strict => (keeps_createContainer _ _).bind_const fun _ => keeps_pure _
  | .registerConfig name config =>
    (Term.eval_agree h scope name).bind fun _ _ => (Term.eval_agree h scope config).bind fun _ _ =>
      (keeps_containerNamed _).bind_const fun _ => keeps_registerConfig _ _ _
  | .register registrant manner name dependencies implementation kind => by
    refine (Term.eval_agree h scope name).bind fun _ _ => ?_
    refine (Term.eval_agree h scope dependencies).bind fun _ _ => ?_
    refine (Term.evalOption_agree h scope implementation).bind fun _ _ => ?_
    refine (Term.evalOption_agree h scope kind).bind fun _ _ => ?_
    refine (keeps_containerNamed _).bind_const fun _ => ?_
    cases manner with
    | direct => exact keeps_complete _ _
    | entryPoint => exact keeps_enter _ _
    | decorator => exact (keeps_enter _ _).bind fun _ _ => h _ _ _
  | .evaluate term => Term.eval_agree h scope term
  | .get name =>
    (Term.eval_agree h scope name).bind fun _ _ => (keeps_containerNamed _).bind_const fun _ =>
      (keeps_item? _ _).bind_const fun _ => keeps_pure _
  | .contains name =>
    (Term.eval_agree h scope name).bind fun _ _ => (keeps_containerNamed _).bind_const fun _ =>
      (keeps_item? _ _).bind_const fun _ => keeps_pure _
  | .names =>
    (keeps_containerNamed _).bind_const fun _ => (keeps_container _).bind_const fun _ =>
      keeps_list _
  | .count =>
    (keeps_containerNamed _).bind_const fun _ => (keeps_container _).bind_const fun _ =>
      keeps_pure _
  | .build dependencies overrides =>
    (Term.eval_agree h scope dependencies).bind fun _ _ =>
      (Term.evalOption_agree h scope overrides).bind fun _ _ =>
        (keeps_containerNamed _).bind_const fun _ => keeps_buildDependencies _ _ _
  | .metadata target => (Term.eval_agree h scope target).bind fun _ _ => keeps_metadata _
  | .display target =>
    (Term.eval_agree h scope target).bind fun _ _ => (keeps_display _).bind_const fun _ =>
      keeps_pure _
  | .inspect target => (Term.eval_agree h scope target).bind fun _ _ => keeps_inspect _

end

end Registrar
