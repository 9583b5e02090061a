import Registrar.Proofs.Script.Renders

/-! # Evaluation leaves a trail

Evaluating a term, and calling a value at any depth, is a trail with the renders that are
made on the way: by induction on the term, and on the depth. So runs follow every relation
that holds of each change a run makes.
-/

namespace Registrar

open Run Session

variable {calm relation : Session → Session → Prop} {call : Caller} {calls : Recorder}

/-- All calls are trails, with the renders that are found for them. -/
def CallsTrack (calm : Session → Session → Prop) (call : Caller) (calls : Recorder) : Prop :=
  ∀ value positions names, Tracks calm (call value positions names) (calls value positions names)

section

variable (hsteady : Steady calm) (h : CallsTrack calm call calls) (scope : Scope)
include hsteady h

set_option linter.unusedSectionVars false

mutual

theorem Term.eval_tracks :
    ∀ term : Term, Tracks calm (term.eval call scope) (term.renders call calls scope)
  | .null | .bool _ | .int _ | .text _ | .bytes _ | .kind _ => (follows_pure hsteady _).tracks
  | .list elements =>
    (Term.evalAll_tracks elements).bind_follows fun _ => follows_list hsteady _
  | .tuple elements =>
    (Term.evalAll_tracks elements).bind_follows fun _ => follows_tuple hsteady _
  | .set elements =>
    (Term.evalAll_tracks elements).bind_follows fun _ =>
      (looks_entriesOf _).follows_bind hsteady fun _ =>
        follows_create hsteady rfl (fun _ => by simp) rfl
  | .dict entries =>
    (Term.evalPairs_tracks entries).bind_follows fun _ => follows_dictOf hsteady _
  | .view mapping => by
    have hview (mapping : Value) : Follows calm (create (.view mapping)) :=
      follows_create hsteady rfl (fun _ => by simp) rfl
    refine (Term.eval_tracks mapping).bind_follows fun _ => ?_
    refine looks_objects.follows_bind hsteady fun _ => ?_
    split
    · exact (follows_throw hsteady _).bind hsteady fun _ => hview _
    · exact hview _
  | .callable parameters body name qualifiedName form =>
    (Term.evalDefaults_tracks parameters).bind_follows fun _ =>
      follows_create hsteady rfl (fun _ => by simp) rfl
  | .stored name =>
    (looks_get.follows_bind hsteady fun _ => (looks_need _ _).follows hsteady).tracks
  | .argument name => ((looks_need _ _).follows hsteady).tracks
  | .arguments =>
    (follows_dict hsteady fun store => store.keys_text scope Prod.fst Prod.snd).tracks
  | .get mapping key =>
    (Term.eval_tracks mapping).bind fun _ => (Term.eval_tracks key).bind_follows fun _ =>
      looks_objects.follows_bind hsteady fun _ => (looks_ofExcept _).follows hsteady
  | .getOr mapping key fallback =>
    (Term.eval_tracks mapping).bind fun _ => (Term.eval_tracks key).bind fun _ =>
      (Term.eval_tracks fallback).bind_follows fun _ =>
        looks_objects.follows_bind hsteady fun _ => (looks_ofExcept _).follows hsteady
  | .has mapping key =>
    (Term.eval_tracks mapping).bind fun _ => (Term.eval_tracks key).bind_follows fun _ =>
      looks_objects.follows_bind hsteady fun _ => (looks_ofExcept _).follows_bind hsteady fun _ =>
        follows_pure hsteady _
  | .keys mapping =>
    (Term.eval_tracks mapping).bind_follows fun _ => looks_objects.follows_bind hsteady fun _ =>
      (looks_need _ _).follows_bind hsteady fun _ => follows_list hsteady _
  | .put mapping key value =>
    (Term.eval_tracks mapping).bind fun _ => (Term.eval_tracks key).bind fun _ =>
      (Term.eval_tracks value).bind_follows fun _ => follows_put hsteady _ _ _
  | .concat parts =>
    (Term.evalAll_tracks parts).bind_follows fun _ => (looks_concat _).follows hsteady
  | .add left right =>
    (Term.eval_tracks left).bind fun _ => (Term.eval_tracks right).bind_follows fun _ =>
      follows_add hsteady _ _
  | .call callee positions names =>
    (Term.eval_tracks callee).bind fun _ => (Term.evalAll_tracks positions).bind fun _ =>
      (Term.evalPairs_tracks names).bind fun _ =>
        ((looks_namesOf _).follows hsteady).tracks.bind fun _ => h _ _ _
  | .sequence terms =>
    (Term.evalAll_tracks terms).bind_follows fun _ => follows_pure hsteady _
  | .branch condition yes no => by
    refine (Term.eval_tracks condition).bind fun value => ?_
    refine tracks_objects fun session hgrounded => ?_
    split
    · exact Term.eval_tracks yes session hgrounded
    · exact Term.eval_tracks no session hgrounded
  | .same left right =>
    (Term.eval_tracks left).bind fun _ => (Term.eval_tracks right).bind_follows fun _ =>
      follows_pure hsteady _
  | .equal left right =>
    (Term.eval_tracks left).bind fun _ => (Term.eval_tracks right).bind_follows fun _ =>
      (looks_equal _ _).follows hsteady
  | .identity value => (Term.eval_tracks value).bind_follows fun _ => follows_identity hsteady _
  | .trace value => (Term.eval_tracks value).bind_follows fun _ => follows_trace hsteady _
  | .fail message => (follows_throw hsteady _).tracks
  | .perform container none action => Action.run_tracks container action
  | .perform container (some name) action =>
    (Action.run_tracks container action).bind_follows fun _ =>
      (follows_keep hsteady _ _).bind hsteady fun _ => follows_pure hsteady _

theorem Term.evalAll_tracks : ∀ terms : List Term,
    Tracks calm (Term.evalAll call scope terms) (Term.rendersAll call calls scope terms)
  | [] => (follows_pure hsteady _).tracks
  | term :: rest =>
    (Term.eval_tracks term).bind fun _ =>
      (Term.evalAll_tracks rest).bind_follows fun _ => follows_pure hsteady _

theorem Term.evalPairs_tracks : ∀ pairs : List (Term × Term),
    Tracks calm (Term.evalPairs call scope pairs) (Term.rendersPairs call calls scope pairs)
  | [] => (follows_pure hsteady _).tracks
  | (key, value) :: rest =>
    (Term.eval_tracks key).bind fun _ => (Term.eval_tracks value).bind fun _ =>
      (Term.evalPairs_tracks rest).bind_follows fun _ => follows_pure hsteady _

theorem Term.evalDefaults_tracks : ∀ parameters : List (Parameter Term),
    Tracks calm (Term.evalDefaults call scope parameters)
      (Term.rendersDefaults call calls scope parameters)
  | [] => (follows_pure hsteady _).tracks
  | ⟨_, _, none⟩ :: rest =>
    (Term.evalDefaults_tracks rest).bind_follows fun _ => follows_pure hsteady _
  | ⟨_, _, some default⟩ :: rest =>
    (Term.eval_tracks default).bind fun _ =>
      (Term.evalDefaults_tracks rest).bind_follows fun _ => follows_pure hsteady _

theorem Term.evalOption_tracks : ∀ term? : Option Term,
    Tracks calm (Term.evalOption call scope term?) (Term.rendersOption call calls scope term?)
  | none => (follows_pure hsteady _).tracks
  | some term => (Term.eval_tracks term).bind_follows fun _ => follows_pure hsteady _

theorem Action.run_tracks (container : String) : ∀ action : Action,
    Tracks calm (action.run call scope container) (action.renders call calls scope container)
  | .create strict =>
    ((follows_createContainer hsteady _ _).bind hsteady fun _ => follows_pure hsteady _).tracks
  | .registerConfig name config => by
    refine (Term.eval_tracks name).bind fun name => ?_
    refine (Term.eval_tracks config).bind_follows fun config => ?_
    refine follows_containerNamed hsteady _ fun session hgrounded index hindex => ?_
    exact follows_request hsteady ⟨index, name, .config config⟩ hgrounded hindex
  | .register registrant manner name dependencies implementation kind => by
    refine (Term.eval_tracks name).bind fun name => ?_
    refine (Term.eval_tracks dependencies).bind fun dependencies => ?_
    refine (Term.evalOption_tracks implementation).bind fun implementation => ?_
    refine (Term.evalOption_tracks kind).bind fun kind => ?_
    refine tracks_containerNamed hsteady _ fun session hgrounded index hindex => ?_
    cases manner with
    | direct => exact (follows_complete hsteady hgrounded hindex _).tracks
    | entryPoint => exact (follows_enter hsteady hgrounded hindex _).tracks
    | decorator =>
      refine (follows_enter hsteady hgrounded ?_ .null).tracks.bind fun decorator after _ => ?_
      · exact hindex
      · exact h decorator _ [] after
  | .evaluate term => Term.eval_tracks term
  | .get name =>
    (Term.eval_tracks name).bind_follows fun _ =>
      (looks_containerNamed _).follows_bind hsteady fun _ =>
        (looks_item? _ _).follows_bind hsteady fun _ => follows_pure hsteady _
  | .contains name =>
    (Term.eval_tracks name).bind_follows fun _ =>
      (looks_containerNamed _).follows_bind hsteady fun _ =>
        (looks_item? _ _).follows_bind hsteady fun _ => follows_pure hsteady _
  | .names =>
    ((looks_containerNamed _).follows_bind hsteady fun _ =>
      (looks_container _).follows_bind hsteady fun _ => follows_list hsteady _).tracks
  | .count =>
    ((looks_containerNamed _).follows_bind hsteady fun _ =>
      (looks_container _).follows_bind hsteady fun _ => follows_pure hsteady _).tracks
  | .build dependencies overrides =>
    (Term.eval_tracks dependencies).bind fun _ =>
      (Term.evalOption_tracks overrides).bind_follows fun _ =>
        (looks_containerNamed _).follows_bind hsteady fun _ =>
          follows_buildDependencies hsteady _ _ _
  | .metadata target =>
    (Term.eval_tracks target).bind_follows fun _ => follows_metadata hsteady _
  | .display target =>
    (Term.eval_tracks target).bind_follows fun _ =>
      (looks_display _).follows_bind hsteady fun _ => follows_pure hsteady _
  | .inspect target =>
    (Term.eval_tracks target).bind_follows fun _ => follows_inspect hsteady _

end

end

/-! ## Calls -/

section

variable (hsteady : Steady calm)
include hsteady

theorem FunctionItem.passes_follows (item : FunctionItem) (positions : List Value)
    (names : List (String × Value)) : Follows calm (item.passes positions names) := by
  unfold passes
  extract_lets rest
  have hrest (given : Unit) : Follows calm (rest given) := by
    dsimp only [rest]
    split
    · exact follows_pure hsteady _
    · next parameter =>
      refine (looks_ofExcept _).follows_bind hsteady fun arguments => ?_
      refine (looks_bag _).follows_bind hsteady fun bag => ?_
      refine (follows_dependencySet hsteady _ _ _).bind hsteady fun set => ?_
      split
      · exact follows_pure hsteady _
      · exact follows_pure hsteady _
  split
  · exact (follows_throw hsteady _).bind hsteady hrest
  · exact hrest ()

section

variable (h : CallsTrack calm call calls)
include h

theorem ComponentItem.render_tracks {session : Session} {item : ComponentItem} {self : Value}
    (hgrounded : session.Grounded)
    (hself : session.objects.object? self = some (.component item)) (positions : List Value)
    (names : List (String × Value)) :
    TracksFrom calm session (item.render self call positions names)
      (match renderOf? self item positions names session with
        | none => []
        | some render =>
          followed (item.prepare self render.properties render.overrides) (fun _ => [render])
            (fun set => calls item.implementation [] (render.properties ++ [(bagName, set)]))
            session) := by
  by_cases hwell : (!positions.isEmpty || givesName names receiverName) = false
  · let made : Render := ⟨self, item, Signature.besides bagName names,
      (Signature.givenBy bagName names).getD .null, session⟩
    let alone : Log := fun _ => [made]
    have hmade : TracksFrom calm session
        (item.prepare self made.properties made.overrides) (alone session) :=
      ⟨(item.prepare_follows enduring_trivial hgrounded hself _ _).1,
        .render made .start hgrounded hself⟩
    have hrest : TracksFrom calm session _ _ := hmade.bind fun set after _ hafter =>
      h item.implementation [] (made.properties ++ [(bagName, set)]) after hafter
    unfold render renderOf?
    rw [hwell, if_neg Bool.false_ne_true, if_neg Bool.false_ne_true]
    exact hrest
  · have hill := Bool.of_not_eq_false hwell
    unfold render renderOf?
    rw [if_pos hill, if_pos hill]
    exact (follows_throw hsteady _ session hgrounded).tracks

theorem callOnce_tracks : CallsTrack calm (Run.callOnce call) (Run.rendersOnce call calls) := by
  intro value positions names session hgrounded
  unfold Run.callOnce Run.rendersOnce TracksFrom
  rw [bind_apply, object?_apply]
  dsimp only
  cases hobject : session.objects.object? value with
  | none => exact (follows_throw hsteady _ session hgrounded).tracks
  | some object =>
    cases object with
    | callable callable =>
      have hscope (bound : List (String × Argument Value)) :
          Follows calm (bound.mapM fun entry => do return (entry.1, ← Run.argument entry.2)) :=
        Follows.mapM hsteady fun entry =>
          (follows_argument hsteady entry.2).bind hsteady fun _ => follows_pure hsteady _
      exact (((looks_need _ _).follows hsteady).tracks.bind fun bound => (hscope bound).tracks.bind
        fun scope => Term.eval_tracks hsteady h scope callable.body) session hgrounded
    | function item =>
      dsimp only
      rw [item.invoke_eq]
      exact ((item.passes_follows hsteady positions names).tracks.bind fun _ => h _ _ _)
        session hgrounded
    | component item => exact item.render_tracks hsteady h hgrounded hobject positions names
    | pending registration =>
      dsimp only
      refine FollowsFrom.tracks (?_ : FollowsFrom calm session _)
      split
      · exact follows_complete hsteady hgrounded (hgrounded.pending _ _ hobject) _
      · exact follows_throw hsteady _ session hgrounded
    | _ => exact (follows_throw hsteady _ session hgrounded).tracks

end

theorem callWithin_tracks (depth : Nat) :
    CallsTrack calm (Run.callWithin depth) (Run.rendersWithin depth) := by
  induction depth with
  | zero => exact fun _ _ _ => (follows_throw hsteady _).tracks
  | succ depth ih => exact callOnce_tracks hsteady ih

/-- Steps are a trail with the renders they make, one after another. -/
theorem Run.takeSteps_tracks (depth : Nat) (steps : List Step) {session : Session}
    (hgrounded : session.Grounded) :
    (Run.takeSteps (Run.callWithin depth) steps session).2.Grounded ∧
      session.Trail calm (Run.rendersOf depth steps session)
        (Run.takeSteps (Run.callWithin depth) steps session).2 := by
  induction steps generalizing session with
  | nil => exact ⟨hgrounded, .start⟩
  | cons step steps ih =>
    have hstep := Term.eval_tracks hsteady (callWithin_tracks hsteady depth) []
      (.perform step.container step.keep step.action) session hgrounded
    obtain ⟨hlast, hrest⟩ := ih hstep.1
    exact ⟨hlast, hstep.2.trans hrest⟩

end

/-! ## Relations -/

variable (henduring : Enduring relation)
include henduring

theorem Run.TracksFrom.follows {α : Type} {session : Session} {run : Run α} {log : List Render}
    (h : TracksFrom relation session run log) : FollowsFrom relation session run :=
  ⟨h.1, h.2.follows henduring fun _ _ => id⟩

theorem Term.eval_follows (depth : Nat) (scope : Scope) (term : Term) :
    Follows relation (term.eval (callWithin depth) scope) := fun session hgrounded =>
  (Term.eval_tracks henduring.toSteady (callWithin_tracks henduring.toSteady depth) scope term
    session hgrounded).follows henduring

theorem callWithin_follows (depth : Nat) (value : Value) (positions : List Value)
    (names : List (String × Value)) :
    Follows relation (callWithin depth value positions names) := fun session hgrounded =>
  (callWithin_tracks henduring.toSteady depth value positions names session hgrounded).follows
    henduring

end Registrar
