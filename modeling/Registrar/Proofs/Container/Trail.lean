import Registrar.Proofs.Container.Passing
import Registrar.Proofs.Container.Steady

/-! # Renders in the order of resolution

A render of a component resolves its dependency set before anything the component does,
so that the renders of a run have an order even where they are nested. A trail is a run
seen from its renders: only they let components remember, and what happens between two of
them follows a relation.
-/

namespace Registrar

/-- A render of a component, in the session in which its dependency set is resolved. -/
structure Render where
  /-- The component. -/
  self : Value
  item : ComponentItem
  /-- The named arguments besides the override bag. -/
  properties : List (String × Value)
  overrides : Value
  before : Session

namespace Render

/-- What comes of resolving. -/
def resolve (render : Render) : Except Fault Value × Session :=
  render.item.prepare render.self render.properties render.overrides render.before

/-- The dependency set that is handed over, if resolving gives one. -/
def set? (render : Render) : Option Value := render.resolve.1.toOption

/-- The session in which the component is entered. -/
def after (render : Render) : Session := render.resolve.2

end Render

/-- A component remembers what it hands over: it is still there when the set is made. -/
theorem ComponentItem.prepare_follows {relation : Session → Session → Prop}
    (henduring : Session.Enduring relation) {session : Session} {item : ComponentItem}
    {self : Value} (hgrounded : session.Grounded)
    (hself : session.objects.object? self = some (.component item))
    (properties : List (String × Value)) (overrides : Value) :
    Run.FollowsFrom relation session (item.prepare self properties overrides) := by
  have hsteady := henduring.toSteady
  unfold prepare
  refine (Run.looks_bag _).bind_follows hsteady hgrounded fun bag _ => ?_
  refine (Run.looks_container _).bind_follows hsteady hgrounded fun container _ => ?_
  refine Run.looks_objects.bind_follows hsteady hgrounded fun objects _ => ?_
  split
  · exact Run.follows_pure hsteady _ session hgrounded
  · refine (Run.follows_dependencySet hsteady _ _ _ session hgrounded).bind hsteady ?_
    intro set after hset hafter
    have hkept : after.objects.object? self = some (.component item) := by
      rw [Run.dependencySet_apply] at hset
      split at hset
      · cases hset
      · cases hset
        exact Session.object?_push hself
    exact ⟨hafter.replace self fun _ => by simp, henduring.remember after self item _ hkept⟩

/-! ## Trails -/

/-- A trail from one session to another, with the renders on the way. -/
inductive Session.Trail (calm : Session → Session → Prop) (start : Session) :
    List Render → Session → Prop
  | start : Trail calm start [] start
  | calm {log : List Render} {between after : Session} : Trail calm start log between →
      calm between after → Trail calm start log after
  | render {log : List Render} (render : Render) : Trail calm start log render.before →
      render.before.Grounded →
      render.before.objects.object? render.self = some (.component render.item) →
      Trail calm start (log ++ [render]) render.after

namespace Session.Trail

variable {calm relation : Session → Session → Prop} {start between after : Session}
  {log more : List Render}

theorem trans (h : start.Trail calm log between) (hmore : between.Trail calm more after) :
    start.Trail calm (log ++ more) after := by
  induction hmore with
  | start => exact List.append_nil _ ▸ h
  | calm _ hcalm ih => exact ih.calm hcalm
  | render render _ hgrounded hself ih =>
    rw [← List.append_assoc]
    exact ih.render render hgrounded hself

/-- A trail leads up to each render on it, and on from what the render leaves. -/
theorem split {front back : List Render} {render : Render}
    (h : start.Trail calm (front ++ render :: back) after) :
    start.Trail calm front render.before ∧
      render.before.objects.object? render.self = some (.component render.item) ∧
      render.after.Trail calm back after := by
  generalize hlog : front ++ render :: back = log at h
  induction h generalizing back with
  | start => simp at hlog
  | calm _ hcalm ih =>
    obtain ⟨hbefore, hself, hafter⟩ := ih hlog
    exact ⟨hbefore, hself, hafter.calm hcalm⟩
  | render last htrail hgrounded hself ih =>
    rcases List.eq_nil_or_concat back with rfl | ⟨init, final, rfl⟩
    · obtain ⟨rfl, hlast⟩ := List.append_inj' hlog rfl
      cases hlast
      exact ⟨htrail, hself, .start⟩
    · rw [List.concat_eq_append, ← List.cons_append, ← List.append_assoc] at hlog
      obtain ⟨hinit, hfinal⟩ := List.append_inj' hlog rfl
      cases hfinal
      obtain ⟨hbefore, hrender, hafter⟩ := ih hinit
      rw [List.concat_eq_append]
      exact ⟨hbefore, hrender, hafter.render _ hgrounded hself⟩

/-- Every relation that holds of what is calm and of renders holds along a trail. -/
theorem follows (henduring : Enduring relation)
    (hcalm : ∀ before after, calm before after → relation before after)
    (h : start.Trail calm log after) : relation start after := by
  induction h with
  | start => exact henduring.refl start
  | calm _ hstep ih => exact henduring.trans ih (hcalm _ _ hstep)
  | render render _ hgrounded hself ih =>
    exact henduring.trans ih (render.item.prepare_follows henduring hgrounded hself _ _).2

end Session.Trail

/-! ## Tracked parts of runs -/

/-- The renders of a part of a run, by the session it starts in. -/
abbrev Log := Session → List Render

/-- Nothing is rendered. -/
def Log.quiet : Log := fun _ => []

namespace Run

open Session

variable {α β : Type} {calm relation : Session → Session → Prop}

/-- The renders of a part of a run and, if it gives a value, of what comes next. -/
def followed (run : Run α) (log : Log) (next : α → Log) : Log := fun session =>
  log session ++
    match run session with
    | (.ok value, after) => next value after
    | (.error _, _) => []

/-- A part of a run is a trail with the renders of a list, from a session on. -/
def TracksFrom (calm : Session → Session → Prop) (session : Session) (run : Run α)
    (log : List Render) : Prop :=
  (run session).2.Grounded ∧ session.Trail calm log (run session).2

/-- A part of a run is a trail with the renders of a log. -/
def Tracks (calm : Session → Session → Prop) (run : Run α) (log : Log) : Prop :=
  ∀ session : Session, session.Grounded → TracksFrom calm session run (log session)

theorem FollowsFrom.tracks {session : Session} {run : Run α} (h : FollowsFrom calm session run) :
    TracksFrom calm session run (Log.quiet session) :=
  ⟨h.1, .calm .start h.2⟩

theorem Follows.tracks {run : Run α} (h : Follows calm run) : Tracks calm run .quiet :=
  fun session hgrounded => (h session hgrounded).tracks

theorem TracksFrom.bind {session : Session} {run : Run α} {next : α → Run β} {log : Log}
    {nextLog : α → Log} (h : TracksFrom calm session run (log session))
    (hnext : ∀ value after, run session = (.ok value, after) → after.Grounded →
      TracksFrom calm after (next value) (nextLog value after)) :
    TracksFrom calm session (run >>= next) (followed run log nextLog session) := by
  unfold TracksFrom followed at *
  rw [bind_apply]
  rcases hrun : run session with ⟨fault | value, after⟩
  · rw [hrun] at h
    dsimp only at h ⊢
    rwa [List.append_nil]
  · rw [hrun] at h
    obtain ⟨hafter, htrail⟩ := hnext value after hrun h.1
    exact ⟨hafter, h.2.trans htrail⟩

theorem Tracks.bind {run : Run α} {next : α → Run β} {log : Log} {nextLog : α → Log}
    (h : Tracks calm run log) (hnext : ∀ value, Tracks calm (next value) (nextLog value)) :
    Tracks calm (run >>= next) (followed run log nextLog) := fun session hgrounded =>
  (h session hgrounded).bind fun value after _ hafter => hnext value after hafter

theorem followed_quiet (run : Run α) (log : Log) :
    (followed run log fun _ => .quiet) = log := by
  funext session
  unfold followed
  rcases run session with ⟨_ | _, _⟩ <;> exact List.append_nil _

/-- After its renders a part of a run only follows. -/
theorem Tracks.bind_follows {run : Run α} {next : α → Run β} {log : Log}
    (h : Tracks calm run log) (hnext : ∀ value, Follows calm (next value)) :
    Tracks calm (run >>= next) log := by
  rw [← followed_quiet run log]
  exact h.bind fun value => (hnext value).tracks

/-- Reading the objects comes before what renders. -/
theorem tracks_objects {next : Store → Run β} {log : Log}
    (h : ∀ session : Session, session.Grounded →
      TracksFrom calm session (next session.objects) (log session)) :
    Tracks calm (objects >>= next) log := by
  intro session hgrounded
  have hnext := h session hgrounded
  unfold TracksFrom at hnext ⊢
  rwa [bind_apply, objects_apply]

/-- Finding the container of a name comes before what renders. -/
theorem tracks_containerNamed {next : Nat → Run α} {nextLog : Nat → Log} (hsteady : Steady calm)
    (name : String) (hnext : ∀ session : Session, session.Grounded → ∀ index,
      index < session.containers.size →
      TracksFrom calm session (next index) (nextLog index session)) :
    Tracks calm (containerNamed name >>= next) (followed (containerNamed name) .quiet nextLog) := by
  intro session hgrounded
  have hnamed := ((looks_containerNamed name).follows hsteady).tracks session hgrounded
  refine hnamed.bind fun index after hindex _ => ?_
  have hsame : after = session := by
    have hlooks := looks_containerNamed name session
    rwa [hindex] at hlooks
  subst hsame
  exact hnext after hgrounded index (lt_of_containerNamed hgrounded hindex)

end Run

end Registrar
