import Registrar.Bootstrap.Initialization
import Registrar.Proofs.Script.Following

/-! # Imports follow

What an import does to the session it does by the steps of modules, so that it follows
every relation that runs follow. What was imported on behalf of a container so far is
left alone by runs, and so by imports; only bootstraps add to it.
-/

namespace Registrar

namespace Import

variable {α β : Type} {relation : Session → Session → Prop}

theorem bind_apply (part : Import α) (next : α → Import β) (program : Program) :
    (part >>= next) program =
      match part program with
      | (.ok value, after) => next value after
      | (.error fault, after) => (.error fault, after) := by
  change (match part program with
    | (result, after) => ExceptT.bindCont next result after) = _
  rcases part program with ⟨_ | _, _⟩ <;> rfl

theorem get_apply (program : Program) : (get : Import Program) program = (.ok program, program) :=
  rfl

theorem ofRun_apply (run : Run α) (program : Program) :
    ofRun run program =
      ((run program.session).1, { program with session := (run program.session).2 }) := by
  unfold ofRun
  rw [bind_apply, get_apply]
  dsimp only [ExceptT.run, StateT.run]
  rcases run program.session with ⟨_ | _, _⟩ <;> rfl

theorem tryCatch_apply (part : Import α) (handler : Fault → Import α) (program : Program) :
    tryCatch part handler program =
      match part program with
      | (.ok value, after) => (.ok value, after)
      | (.error fault, after) => handler fault after := by
  change ExceptT.tryCatch part handler program = _
  unfold ExceptT.tryCatch ExceptT.mk
  change StateT.bind part _ program = _
  unfold StateT.bind
  dsimp only [bind]
  rcases part program with ⟨_ | _, _⟩ <;> rfl
/-- A part of a run that imports follows a relation. -/
def Follows (relation : Session → Session → Prop) (part : Import α) : Prop :=
  ∀ program : Program, program.session.Grounded →
    (part program).2.session.Grounded ∧ relation program.session (part program).2.session

variable (henduring : Session.Enduring relation)
include henduring

/-- What leaves the session as it is follows. -/
theorem follows_of_same {part : Import α}
    (h : ∀ program, (part program).2.session = program.session) : Follows relation part := by
  intro program hgrounded
  rw [h program]
  exact ⟨hgrounded, henduring.refl _⟩

theorem Follows.bind {part : Import α} {next : α → Import β} (h : Follows relation part)
    (hnext : ∀ value, Follows relation (next value)) : Follows relation (part >>= next) := by
  intro program hgrounded
  rw [bind_apply]
  have hpart := h program hgrounded
  rcases hresult : part program with ⟨fault | value, after⟩
  · rw [hresult] at hpart
    exact hpart
  · rw [hresult] at hpart
    have hafter := hnext value after hpart.1
    exact ⟨hafter.1, henduring.trans hpart.2 hafter.2⟩

theorem follows_pure (value : α) : Follows relation (pure value : Import α) :=
  follows_of_same henduring fun _ => rfl

theorem follows_throw (fault : Fault) : Follows relation (throw fault : Import α) :=
  follows_of_same henduring fun _ => rfl

omit henduring in
theorem follows_ofRun {run : Run α} (h : Run.Follows relation run) :
    Follows relation (ofRun run) := by
  intro program hgrounded
  rw [ofRun_apply]
  exact h program.session hgrounded

theorem follows_package? (name : String) : Follows relation (package? name) :=
  follows_of_same henduring fun _ => rfl

theorem follows_performAll (steps : List Step) : Follows relation (performAll steps) := by
  induction steps with
  | nil => exact follows_pure henduring ()
  | cons step steps ih =>
    exact (follows_ofRun (Term.eval_follows henduring _ [] _)).bind henduring fun _ => ih

theorem follows_execute (name : String) (source : ModuleSource) :
    Follows relation (execute name source) := by
  refine (follows_of_same henduring fun _ => rfl).bind henduring fun _ => ?_
  refine (follows_performAll henduring _).bind henduring fun _ => ?_
  split
  · exact follows_of_same henduring fun _ => rfl
  · exact follows_throw henduring _
  · exact follows_throw henduring _

theorem follows_loadBelow (parent? : Option String) (name : String) :
    Follows relation (loadBelow parent? name) := by
  refine (follows_package? henduring name).bind henduring fun _ => ?_
  split
  · exact follows_pure henduring ()
  · extract_lets found
    have hfound (given : Unit) : Follows relation (found given) := by
      refine (follows_of_same henduring fun _ => rfl).bind henduring fun _ => ?_
      split
      · exact follows_execute henduring _ _
      · exact follows_throw henduring _
    split
    · next parent =>
      refine (follows_package? henduring parent).bind henduring fun _ => ?_
      split
      · exact (follows_throw henduring _).bind henduring hfound
      · exact hfound ()
    · exact hfound ()

theorem follows_loadAll (parent? : Option String) (names : List String) :
    Follows relation (loadAll parent? names) := by
  induction names generalizing parent? with
  | nil => exact follows_pure henduring ()
  | cons name names ih =>
    exact (follows_loadBelow henduring parent? name).bind henduring fun _ => ih _

theorem follows_load (name : String) : Follows relation (load name) := by
  unfold load
  extract_lets absolute filled
  have habsolute (given : Unit) : Follows relation (absolute given) := by
    refine (follows_package? henduring name).bind henduring fun _ => ?_
    split
    · exact follows_loadAll henduring _ _
    · exact follows_pure henduring ()
  have hfilled (given : Unit) : Follows relation (filled given) := by
    dsimp only [filled]
    split
    · exact (follows_throw henduring _).bind henduring habsolute
    · exact habsolute ()
  split
  · exact (follows_throw henduring _).bind henduring hfilled
  · exact hfilled ()

end Import

namespace Session

/-- What was imported on behalf of a container that exists. -/
def initialized? (session : Session) (index : Nat) : Option (List String) :=
  session.containers[index]?.map (·.initialized)

/-- Runs leave alone what was imported on behalf of containers. -/
theorem steady_initialized : Steady fun before after => ∀ index names,
    before.initialized? index = some names → after.initialized? index = some names where
  refl _ _ _ := id
  trans h hnext index names hnames := hnext index names (h index names hnames)
  create _ _ _ _ _ _ := id
  put _ _ _ _ _ _ _ _ := id
  createContainer session name strict index names hnames := by
    obtain ⟨container, hcontainer, rfl⟩ := Option.map_eq_some_iff.mp hnames
    obtain ⟨hindex, rfl⟩ := Array.getElem?_eq_some_iff.mp hcontainer
    refine Option.map_eq_some_iff.mpr ⟨_, ?_, rfl⟩
    change (session.containers.push _)[index]? = _
    rw [Array.getElem?_push_lt hindex]
  aside _ _ _ _ _ _ := id
  request session request hcontainer index names hnames := by
    cases hrun : request.run session with
    | mk result after =>
      have houtcome := request.run_outcome hcontainer
      rw [hrun] at houtcome
      cases houtcome with
      | refused problem hrefused => exact hnames
      | stored object replaced hacceptable hlabel hreplaced =>
        obtain ⟨container, hfound, rfl⟩ := Option.map_eq_some_iff.mp hnames
        change (session.containers.modify _ _)[index]?.map _ = _
        rw [Array.getElem?_modify, hfound]
        split <;> rfl

theorem enduring_initialized : Enduring fun before after => ∀ index names,
    before.initialized? index = some names → after.initialized? index = some names where
  toSteady := steady_initialized
  remember _ _ _ _ _ _ _ := id

end Session

/-- An import leaves alone what was imported on behalf of containers. -/
theorem Import.load_keeps {program after : Program} {name : String} {result : Except Fault Unit}
    (hgrounded : program.session.Grounded) (hload : Import.load name program = (result, after)) :
    after.session.Grounded ∧ ∀ index names, program.session.initialized? index = some names →
      after.session.initialized? index = some names := by
  have hfollows := Import.follows_load Session.enduring_initialized name program hgrounded
  rwa [hload] at hfollows

end Registrar
