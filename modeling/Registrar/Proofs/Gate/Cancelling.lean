import Mathlib.Data.List.Induction
import Mathlib.Data.List.Perm.Basic
import Registrar.Proofs.Gate.Step

/-! # Runs with cancellation

A run whose tasks and waits may be cancelled besides. The invariant says that all that is under way
is due or will be made due by what it awaits, and that a failed task is reported once its completion
is delivered.
-/

namespace Registrar.Gate

/-- An operation or a turn of the loop, or a cancellation from outside. -/
inductive Move
  | ordinary (operation : Operation)
  | cancelTask (task : Nat)
  | cancelWait (wait : Nat)
  deriving DecidableEq

/-- How a task ended, if it has. -/
def Task.outcome? (task : Task) : Option Outcome :=
  match task.stage with
  | .finished outcome => some outcome
  | _ => none

/-- Whether the bootstrap call of a task failed. -/
def Task.hasFailed (task : Task) : Bool :=
  match task.stage with
  | .finished (.failed _) => true
  | _ => false

@[simp] theorem Task.outcome?_eq_some_iff {task : Task} {outcome : Outcome} :
    task.outcome? = some outcome ↔ task.stage = .finished outcome := by
  unfold outcome?
  cases task.stage <;> simp

theorem Task.outcome?_eq_none_iff {task : Task} :
    task.outcome? = none ↔ ∀ outcome, task.stage ≠ .finished outcome := by
  unfold outcome?
  cases task.stage <;> simp

theorem Task.hasFailed_of_open {task : Task} (h : task.outcome? = none) : task.hasFailed = false := by
  unfold outcome? at h
  unfold hasFailed
  split
  · next hstage =>
    rw [hstage] at h
    cases h
  · rfl

namespace Loop

/-- What a move does. -/
def take (loop : Loop) : Move → Loop
  | .ordinary operation => loop.step operation
  | .cancelTask task => (loop.cancelTask task).2
  | .cancelWait wait => loop.cancelWait wait

/-- What moves do one after another. -/
def play (loop : Loop) (moves : List Move) : Loop := moves.foldl take loop

@[simp] theorem play_nil (loop : Loop) : loop.play [] = loop := rfl

@[simp] theorem play_cons (loop : Loop) (move : Move) (moves : List Move) :
    loop.play (move :: moves) = (loop.take move).play moves := rfl

theorem play_append (loop : Loop) (moves more : List Move) :
    loop.play (moves ++ more) = (loop.play moves).play more := List.foldl_append

@[simp] theorem play_concat (loop : Loop) (moves : List Move) (move : Move) :
    loop.play (moves ++ [move]) = (loop.play moves).take move := by
  rw [play_append]
  rfl

/-! ## Lists with one entry changed -/

theorem getElem?_modify_self {α : Type} {entries : List α} {change : α → α} {index : Nat} {before : α}
    (h : entries[index]? = some before) :
    (entries.modify index change)[index]? = some (change before) := by
  simp [h]

theorem getElem?_modify_other {α : Type} (entries : List α) (change : α → α) {index other : Nat}
    (h : other ≠ index) : (entries.modify index change)[other]? = entries[other]? := by
  simp [Ne.symm h]

theorem countP_modify {α : Type} (p : α → Bool) (change : α → α) {entries : List α} {index : Nat}
    {before : α} (h : entries[index]? = some before) :
    (entries.modify index change).countP p + (if p before then 1 else 0) =
      entries.countP p + (if p (change before) then 1 else 0) := by
  induction entries generalizing index with
  | nil => cases h
  | cons first entries ih =>
    cases index with
    | zero =>
      cases h
      simp only [List.modify_zero_cons, List.countP_cons]
      omega
    | succ index =>
      have hrest := ih h
      simp only [List.modify_succ_cons, List.countP_cons]
      omega

/-! ## The invariant -/

/-- Whether what is due will report a failure. -/
def owes (tasks : List Task) : Due → Bool
  | .delivery index => (tasks[index]?).any Task.hasFailed
  | _ => false

/-- How many error records there are. -/
def errors (events : List Event) : Nat := events.countP (·.severity == .error)

/-- All that is under way is covered by what is due: tasks and waits before their first run, waits
whose tasks have ended, and failures that are not reported yet. -/
structure Covers (dues : List Due) (tasks : List Task) (waits : List Wait) (events : List Event) :
    Prop where
  created : ∀ index task, tasks[index]? = some task → task.stage = .created → .task index ∈ dues
  delivered : ∀ index, .delivery index ∈ dues →
    ∃ task outcome, tasks[index]? = some task ∧ task.outcome? = some outcome
  begun : ∀ index wait, waits[index]? = some wait → wait.stage = .created → .wait index ∈ dues
  awaited : ∀ index wait task, waits[index]? = some wait → wait.stage = .awaiting task →
    ∃ t, tasks[task]? = some t ∧ (.wait index ∈ dues ∨ t.outcome? = none ∧ index ∈ t.awaitedBy)
  reported : errors events + dues.countP (owes tasks) = tasks.countP Task.hasFailed

/-- A loop is covered by its queue. -/
def IsCovered (loop : Loop) : Prop := Covers loop.queue loop.tasks loop.waits loop.events

variable {dues more : List Due} {tasks : List Task} {waits : List Wait} {events : List Event}

namespace Covers

theorem perm (h : Covers dues tasks waits events) (hperm : dues.Perm more) :
    Covers more tasks waits events where
  created index task htask hstage := hperm.mem_iff.mp (h.created index task htask hstage)
  delivered index hmem := h.delivered index (hperm.mem_iff.mpr hmem)
  begun index wait hwait hstage := hperm.mem_iff.mp (h.begun index wait hwait hstage)
  awaited index wait task hwait hstage := by
    obtain ⟨t, ht, hcover⟩ := h.awaited index wait task hwait hstage
    exact ⟨t, ht, hcover.imp_left hperm.mem_iff.mp⟩
  reported := by rw [← hperm.countP_eq, h.reported]

/-- A task or a wait is made due. -/
theorem schedule (h : Covers dues tasks waits events) (due : Due)
    (hdue : ∀ index, due ≠ .delivery index) :
    Covers (dues ++ [due]) tasks waits events where
  created index task htask hstage := List.mem_append_left _ (h.created index task htask hstage)
  delivered index hmem := by
    rcases List.mem_append.mp hmem with hmem | hmem
    · exact h.delivered index hmem
    · exact absurd (List.mem_singleton.mp hmem).symm (hdue index)
  begun index wait hwait hstage := List.mem_append_left _ (h.begun index wait hwait hstage)
  awaited index wait task hwait hstage := by
    obtain ⟨t, ht, hcover⟩ := h.awaited index wait task hwait hstage
    exact ⟨t, ht, hcover.imp_left (List.mem_append_left _)⟩
  reported := by
    have hnone : owes tasks due = false := by
      cases due with
      | delivery index => exact absurd rfl (hdue index)
      | _ => rfl
    rw [List.countP_append, List.countP_singleton, hnone, ← h.reported]
    simp

/-- What owes nothing but a change of tasks that have not ended owes the same after it. -/
theorem countP_owes (h : Covers dues tasks waits events) {index : Nat} {task : Task}
    (htask : tasks[index]? = some task) (hopen : task.outcome? = none) (change : Task → Task) :
    dues.countP (owes (tasks.modify index change)) = dues.countP (owes tasks) := by
  refine List.countP_congr fun due hdue => ?_
  cases due with
  | delivery other =>
    obtain ⟨ended, outcome, hended, houtcome⟩ := h.delivered other hdue
    have hne : other ≠ index := by
      rintro rfl
      rw [htask] at hended
      cases hended
      rw [hopen] at houtcome
      cases houtcome
    rw [owes, owes, getElem?_modify_other tasks change hne]
  | _ => rfl

/-- A task that has not ended changes without ending. -/
theorem modifyTask (h : Covers dues tasks waits events) {index : Nat} {task : Task}
    (htask : tasks[index]? = some task) (hopen : task.outcome? = none) (change : Task → Task)
    (hchange : (change task).outcome? = none)
    (hcreated : (change task).stage = .created → task.stage = .created)
    (hawaited : task.awaitedBy ⊆ (change task).awaitedBy) :
    Covers dues (tasks.modify index change) waits events where
  created other after hafter hstage := by
    rcases getElem?_modify_cases hafter with ⟨-, hafter⟩ | ⟨rfl, before, hbefore, rfl⟩
    · exact h.created other after hafter hstage
    · cases htask.symm.trans hbefore
      exact h.created other task htask (hcreated hstage)
  delivered other hmem := by
    obtain ⟨ended, outcome, hended, houtcome⟩ := h.delivered other hmem
    have hne : other ≠ index := by
      rintro rfl
      cases htask.symm.trans hended
      cases hopen.symm.trans houtcome
    exact ⟨ended, outcome, (getElem?_modify_other tasks change hne).trans hended, houtcome⟩
  begun := h.begun
  awaited other wait awaited hwait hstage := by
    obtain ⟨t, ht, hcover⟩ := h.awaited other wait awaited hwait hstage
    by_cases hsame : awaited = index
    · subst awaited
      cases htask.symm.trans ht
      exact ⟨change task, getElem?_modify_self htask,
        hcover.imp_right fun hlisted => ⟨hchange, hawaited hlisted.2⟩⟩
    · exact ⟨t, (getElem?_modify_other tasks change hsame).trans ht, hcover⟩
  reported := by
    have hcount := countP_modify Task.hasFailed change htask
    rw [Task.hasFailed_of_open hopen, Task.hasFailed_of_open hchange] at hcount
    rw [h.countP_owes htask hopen change, h.reported]
    simpa using hcount.symm

/-- A task ends: its delivery is due, and those that await it are. -/
theorem finish (h : Covers dues tasks waits events) {index : Nat} {task : Task}
    (htask : tasks[index]? = some task) (hopen : task.outcome? = none) (outcome : Outcome) :
    Covers (dues ++ .delivery index :: task.awaitedBy.map .wait)
      (tasks.modify index fun task => { task with stage := .finished outcome }) waits events where
  created other after hafter hstage := by
    rcases getElem?_modify_cases hafter with ⟨-, hafter⟩ | ⟨rfl, before, hbefore, rfl⟩
    · exact List.mem_append_left _ (h.created other after hafter hstage)
    · cases hstage
  delivered other hmem := by
    by_cases hsame : other = index
    · subst other
      exact ⟨_, outcome, getElem?_modify_self htask, Task.outcome?_eq_some_iff.mpr rfl⟩
    · have hdue : .delivery other ∈ dues := by
        simpa [hsame] using hmem
      obtain ⟨ended, found, hended, hfound⟩ := h.delivered other hdue
      exact ⟨ended, found, (getElem?_modify_other tasks _ hsame).trans hended, hfound⟩
  begun other wait hwait hstage := List.mem_append_left _ (h.begun other wait hwait hstage)
  awaited other wait awaited hwait hstage := by
    obtain ⟨t, ht, hcover⟩ := h.awaited other wait awaited hwait hstage
    by_cases hsame : awaited = index
    · subst awaited
      cases htask.symm.trans ht
      refine ⟨_, getElem?_modify_self htask, .inl (List.mem_append.mpr (hcover.imp_right ?_))⟩
      exact fun hlisted => List.mem_cons_of_mem _ (List.mem_map_of_mem hlisted.2)
    · exact ⟨t, (getElem?_modify_other tasks _ hsame).trans ht,
        hcover.imp_left (List.mem_append_left _)⟩
  reported := by
    have hcount := countP_modify Task.hasFailed
      (fun task => { task with stage := .finished outcome }) htask
    have howed : owes (tasks.modify index fun task => { task with stage := .finished outcome })
        (.delivery index) = ({ task with stage := .finished outcome } : Task).hasFailed := by
      rw [owes, getElem?_modify_self htask, Option.any_some]
    have hwaits : (task.awaitedBy.map Due.wait).countP (owes (tasks.modify index fun task =>
        { task with stage := .finished outcome })) = 0 := by
      rw [List.countP_map, List.countP_eq_zero]
      exact fun _ _ => Bool.false_ne_true
    rw [Task.hasFailed_of_open hopen] at hcount
    rw [List.countP_append, List.countP_cons, howed, hwaits, h.countP_owes htask hopen]
    have := h.reported
    simp only [Bool.false_eq_true, if_false] at hcount
    omega

/-- A new task is due. -/
theorem addTask (h : Covers dues tasks waits events) (gate : Nat) :
    Covers (dues ++ [.task tasks.length]) (tasks ++ [⟨gate, .created, false, []⟩]) waits events := by
  have hkept {index : Nat} {task : Task} (htask : tasks[index]? = some task) :
      (tasks ++ [⟨gate, .created, false, []⟩])[index]? = some task := by
    rw [List.getElem?_append_left (List.getElem?_eq_some_iff.mp htask).1, htask]
  have hscheduled := h.schedule (.task tasks.length) nofun
  exact {
    created := fun index task htask hstage => by
      rcases Nat.lt_trichotomy index tasks.length with hi | rfl | hi
      · rw [List.getElem?_append_left hi] at htask
        exact hscheduled.created index task htask hstage
      · exact List.mem_append_right _ (List.mem_singleton_self _)
      · rw [List.getElem?_eq_none (by simp; omega)] at htask
        cases htask
    delivered := fun index hmem => by
      obtain ⟨task, outcome, htask, houtcome⟩ := hscheduled.delivered index hmem
      exact ⟨task, outcome, hkept htask, houtcome⟩
    begun := hscheduled.begun
    awaited := fun index wait task hwait hstage => by
      obtain ⟨t, ht, hcover⟩ := hscheduled.awaited index wait task hwait hstage
      exact ⟨t, hkept ht, hcover⟩
    reported := by
      have howes : (dues ++ [Due.task tasks.length]).countP
          (owes (tasks ++ [⟨gate, .created, false, []⟩])) =
            (dues ++ [Due.task tasks.length]).countP (owes tasks) := by
        refine List.countP_congr fun due hdue => ?_
        cases due with
        | delivery index =>
          obtain ⟨task, outcome, htask, -⟩ := hscheduled.delivered index hdue
          rw [owes, owes, hkept htask, htask]
        | _ => rfl
      rw [howes, hscheduled.reported, List.countP_append]
      rfl }

/-- A new wait is due. -/
theorem addWait (h : Covers dues tasks waits events) (gate : Nat) :
    Covers (dues ++ [.wait waits.length]) tasks (waits ++ [⟨gate, .created, false⟩]) events := by
  have hscheduled := h.schedule (.wait waits.length) nofun
  have hcases {index : Nat} {wait : Wait}
      (hwait : (waits ++ [⟨gate, .created, false⟩])[index]? = some wait) :
      waits[index]? = some wait ∨ index = waits.length ∧ wait.stage = .created := by
    rcases Nat.lt_trichotomy index waits.length with hi | rfl | hi
    · exact .inl (by rwa [List.getElem?_append_left hi] at hwait)
    · rw [List.getElem?_concat_length] at hwait
      cases hwait
      exact .inr ⟨rfl, rfl⟩
    · rw [List.getElem?_eq_none (by simp; omega)] at hwait
      cases hwait
  exact {
    created := hscheduled.created
    delivered := hscheduled.delivered
    begun := fun index wait hwait hstage => by
      rcases hcases hwait with hwait | ⟨rfl, -⟩
      · exact hscheduled.begun index wait hwait hstage
      · exact List.mem_append_right _ (List.mem_singleton_self _)
    awaited := fun index wait task hwait hstage => by
      rcases hcases hwait with hwait | ⟨-, hcreated⟩
      · exact hscheduled.awaited index wait task hwait hstage
      · rw [hstage] at hcreated
        cases hcreated
    reported := hscheduled.reported }

/-- A wait changes to a stage that is covered. -/
theorem modifyWait (h : Covers dues tasks waits events) (index : Nat) (change : Wait → Wait)
    (hbegun : ∀ wait, waits[index]? = some wait → (change wait).stage = .created → .wait index ∈ dues)
    (hawaited : ∀ wait task, waits[index]? = some wait → (change wait).stage = .awaiting task →
      ∃ t, tasks[task]? = some t ∧ (.wait index ∈ dues ∨ t.outcome? = none ∧ index ∈ t.awaitedBy)) :
    Covers dues tasks (waits.modify index change) events where
  created := h.created
  delivered := h.delivered
  begun other after hafter hstage := by
    rcases getElem?_modify_cases hafter with ⟨-, hafter⟩ | ⟨rfl, before, hbefore, rfl⟩
    · exact h.begun other after hafter hstage
    · exact hbegun before hbefore hstage
  awaited other after task hafter hstage := by
    rcases getElem?_modify_cases hafter with ⟨-, hafter⟩ | ⟨rfl, before, hbefore, rfl⟩
    · exact h.awaited other after task hafter hstage
    · exact hawaited before task hbefore hstage
  reported := h.reported

/-- What is due of a task that has called the bootstrap, or has ended, is over once it ran. -/
theorem dropTask {index : Nat} (h : Covers (.task index :: dues) tasks waits events)
    (hcreated : ∀ task, tasks[index]? = some task → task.stage ≠ .created) :
    Covers dues tasks waits events where
  created other task htask hstage := by
    rcases List.mem_cons.mp (h.created other task htask hstage) with hsame | hmem
    · cases hsame
      exact absurd hstage (hcreated task htask)
    · exact hmem
  delivered other hmem := h.delivered other (List.mem_cons_of_mem _ hmem)
  begun other wait hwait hstage := by simpa using h.begun other wait hwait hstage
  awaited other wait task hwait hstage := by simpa using h.awaited other wait task hwait hstage
  reported := by simpa [owes] using h.reported

/-- What is due of a wait is over once it ran, unless it is to be woken again. -/
theorem dropWait {index : Nat} (h : Covers (.wait index :: dues) tasks waits events)
    (hbegun : ∀ wait, waits[index]? = some wait → wait.stage ≠ .created)
    (hawaited : ∀ wait task, waits[index]? = some wait → wait.stage = .awaiting task →
      ∃ t, tasks[task]? = some t ∧ t.outcome? = none ∧ index ∈ t.awaitedBy) :
    Covers dues tasks waits events where
  created other task htask hstage := by simpa using h.created other task htask hstage
  delivered other hmem := h.delivered other (List.mem_cons_of_mem _ hmem)
  begun other wait hwait hstage := by
    rcases List.mem_cons.mp (h.begun other wait hwait hstage) with hsame | hmem
    · cases hsame
      exact absurd hstage (hbegun wait hwait)
    · exact hmem
  awaited other wait task hwait hstage := by
    obtain ⟨t, ht, hmem | hlisted⟩ := h.awaited other wait task hwait hstage
    · rcases List.mem_cons.mp hmem with hsame | hmem
      · cases hsame
        obtain ⟨t, ht, hlisted⟩ := hawaited wait task hwait hstage
        exact ⟨t, ht, .inr hlisted⟩
      · exact ⟨t, ht, .inl hmem⟩
    · exact ⟨t, ht, .inr hlisted⟩
  reported := by simpa [owes] using h.reported

/-- A delivery reports the failure it owes. -/
theorem dropDelivery {index : Nat} (h : Covers (.delivery index :: dues) tasks waits events)
    {after : List Event}
    (hafter : errors after = errors events + if owes tasks (.delivery index) then 1 else 0) :
    Covers dues tasks waits after where
  created other task htask hstage := by simpa using h.created other task htask hstage
  delivered other hmem := h.delivered other (List.mem_cons_of_mem _ hmem)
  begun other wait hwait hstage := by simpa using h.begun other wait hwait hstage
  awaited other wait task hwait hstage := by simpa using h.awaited other wait task hwait hstage
  reported := by
    rw [← h.reported, hafter, List.countP_cons]
    omega

end Covers

/-! ## What is done from outside -/

variable {loop : Loop}

theorem start_isCovered (behaviours : List Behaviour) : (start behaviours).IsCovered where
  created index task htask := by simp [start] at htask
  delivered index hmem := by simp [start] at hmem
  begun index wait hwait := by simp [start] at hwait
  awaited index wait task hwait := by simp [start] at hwait
  reported := rfl

theorem IsCovered.mount (h : loop.IsCovered) (gate : Nat) : (loop.mount gate).2.IsCovered := by
  unfold Loop.mount
  split
  · exact h
  · exact h.addTask gate

/-- A task that is held hears something, and is due. -/
theorem IsCovered.signal (h : loop.IsCovered) {index call : Nat} {task : Task} {heard : Signal}
    (htask : loop.tasks[index]? = some task) (hstage : task.stage = .held call heard)
    (number : Nat) (signal : Signal) : (loop.signal index number signal).IsCovered := by
  have hopen : task.outcome? = none := by
    unfold Task.outcome?
    rw [hstage]
  have hmodified := h.modifyTask htask hopen
    (fun task => { task with stage := .held number signal }) rfl nofun (List.Subset.refl _)
  exact hmodified.schedule (.task index) nofun

theorem IsCovered.release (h : loop.IsCovered) (call : Nat) : (loop.release call).IsCovered := by
  unfold Loop.release
  dsimp only
  split
  · next index hfound =>
    obtain ⟨hlt, hheld, -⟩ := List.findIdx?_eq_some_iff_getElem.mp hfound
    have hreleased : IsCovered { loop with released := call :: loop.released } := h
    exact hreleased.signal (List.getElem?_eq_getElem hlt) (eq_of_beq hheld) call .released
  · exact h

theorem IsCovered.cancelTask (h : loop.IsCovered) (index : Nat) :
    (loop.cancelTask index).2.IsCovered := by
  unfold Loop.cancelTask
  cases htask : loop.tasks[index]? with
  | none => exact h
  | some task =>
    rw [Option.map_some]
    split
    · exact h
    · exact h
    · next call hstage => exact h.signal htask (Option.some.inj hstage) call .cancelled
    · next stage hfinished _ hstage =>
      have hopen : task.outcome? = none := Task.outcome?_eq_none_iff.mpr fun outcome houtcome =>
        hfinished outcome ((Option.some.inj hstage).symm.trans houtcome)
      exact h.modifyTask htask hopen (fun task => { task with cancelling := true }) hopen id
        (List.Subset.refl _)

/-- A cancelled wait is to be cancelled, or the task is that it awaits, or both. -/
theorem cancelWait_cases (index : Nat) :
    ∃ other, (other = loop ∨ ∃ task, other = (loop.cancelTask task).2) ∧
      (loop.cancelWait index = other ∨ loop.cancelWait index =
        other.modifyWait index fun wait => { wait with cancelling := true }) := by
  unfold Loop.cancelWait
  dsimp only
  split
  · exact ⟨loop, .inl rfl, .inl rfl⟩
  · exact ⟨loop, .inl rfl, .inl rfl⟩
  · exact ⟨loop, .inl rfl, .inr rfl⟩
  · next task _ =>
    refine ⟨_, .inr ⟨task, rfl⟩, ?_⟩
    split
    · next heq => exact .inl (by rw [heq])
    · next heq => exact .inr (by rw [heq])

theorem IsCovered.cancelWait (h : loop.IsCovered) (index : Nat) : (loop.cancelWait index).IsCovered := by
  obtain ⟨other, hother, hresult⟩ := loop.cancelWait_cases index
  have hcovered : other.IsCovered := by
    rcases hother with rfl | ⟨task, rfl⟩
    · exact h
    · exact h.cancelTask task
  rcases hresult with heq | heq <;> rw [heq]
  · exact hcovered
  · exact hcovered.modifyWait index _ (hcovered.begun index) (hcovered.awaited index)

/-! ## What is due runs -/

theorem covered_finishTask {index : Nat} {task : Task} (h : Covers (.task index :: loop.queue) loop.tasks loop.waits loop.events)
    (htask : loop.tasks[index]? = some task) (hopen : task.outcome? = none) (outcome : Outcome) :
    (loop.finishTask index task outcome).IsCovered := by
  refine (h.finish htask hopen outcome).dropTask fun after hafter hstage => ?_
  rw [getElem?_modify_self htask] at hafter
  cases hafter
  cases hstage

theorem covered_runTask {index : Nat} {task : Task}
    (h : Covers (.task index :: loop.queue) loop.tasks loop.waits loop.events)
    (htask : loop.tasks[index]? = some task) : (loop.runTask index task).IsCovered := by
  unfold runTask
  split
  · next hstage =>
    have hopen : task.outcome? = none := Task.outcome?_eq_none_iff.mpr fun _ => by simp [hstage]
    have hheld := h.modifyTask htask hopen
      (fun task => { task with stage := .held loop.calls .nothing }) rfl nofun (List.Subset.refl _)
    dsimp only
    split_ifs
    · exact covered_finishTask h htask hopen .cancelled
    · refine hheld.dropTask fun after hafter hcreated => ?_
      rw [getElem?_modify_self htask] at hafter
      cases hafter
      cases hcreated
    · exact covered_finishTask h htask hopen _
  · next hstage =>
    have hopen : task.outcome? = none := Task.outcome?_eq_none_iff.mpr fun _ => by simp [hstage]
    split_ifs
    · exact covered_finishTask h htask hopen .cancelled
    · exact covered_finishTask h htask hopen _
  · next hstage =>
    refine h.dropTask fun after hafter hcreated => ?_
    cases htask.symm.trans hafter
    rw [hstage] at hcreated
    cases hcreated

theorem covered_deliver {index : Nat} {task : Task}
    (h : Covers (.delivery index :: loop.queue) loop.tasks loop.waits loop.events)
    (htask : loop.tasks[index]? = some task) : (loop.deliver index task).IsCovered := by
  have howes : owes loop.tasks (.delivery index) = task.hasFailed := by
    rw [owes, htask, Option.any_some]
  have hreport (event : Event) : errors (loop.events ++ [event]) =
      errors loop.events + if event.severity == .error then 1 else 0 := by
    rw [errors, List.countP_append, List.countP_singleton]
    rfl
  unfold deliver
  split
  · next hstage =>
    refine h.dropDelivery ?_
    rw [howes, Task.hasFailed, hstage]
    exact hreport .bootstrapFailed
  · next hstage =>
    have hquiet : owes loop.tasks (.delivery index) = false := by rw [howes, Task.hasFailed, hstage]
    split
    · exact h.dropDelivery (by rw [hquiet]; rfl)
    · exact h.dropDelivery (by rw [hquiet]; exact hreport .completionIgnored)
  · next hfailed _ =>
    have hquiet : owes loop.tasks (.delivery index) = false := by
      rw [howes, Task.hasFailed]
      split
      · next hstage => exact absurd hstage (hfailed _)
      · rfl
    exact h.dropDelivery (by rw [hquiet]; rfl)

theorem covered_finishWait {index : Nat}
    (h : Covers (.wait index :: loop.queue) loop.tasks loop.waits loop.events) (outcome : Outcome) :
    (loop.finishWait index outcome).IsCovered := by
  have hfinished := h.modifyWait index (fun wait => { wait with stage := .finished outcome })
    (fun _ _ => nofun) (fun _ _ _ => nofun)
  have hstage {wait : Wait} (hwait : (loop.finishWait index outcome).waits[index]? = some wait) :
      wait.stage = .finished outcome := by
    rcases getElem?_modify_cases hwait with ⟨hne, -⟩ | ⟨-, before, -, rfl⟩
    · exact absurd rfl hne
    · rfl
  refine hfinished.dropWait (fun wait hwait hcreated => ?_) fun wait task hwait hawaiting => ?_
  · rw [hstage hwait] at hcreated
    cases hcreated
  · rw [hstage hwait] at hawaiting
    cases hawaiting

/-- A wait awaits a task that is there. -/
theorem covered_await {index number : Nat} {wait : Wait} {task : Task}
    (h : Covers (.wait index :: loop.queue) loop.tasks loop.waits loop.events)
    (htask : loop.tasks[number]? = some task) : (loop.await index wait number).IsCovered := by
  unfold await
  split
  · next outcome _ _ hended =>
    unfold conclude
    dsimp only
    split
    · exact covered_finishWait h outcome
    · exact covered_finishWait h outcome
  · next hpending =>
    have hopen : task.outcome? = none := by
      refine Task.outcome?_eq_none_iff.mpr fun outcome houtcome => ?_
      obtain ⟨gate, stage, cancelling, awaitedBy⟩ := task
      cases houtcome
      exact hpending _ _ _ _ htask
    have hwaits := h.modifyWait index (fun wait => { wait with stage := .awaiting number })
      (fun _ _ => nofun) fun _ _ _ hstage => by
        cases hstage
        exact ⟨task, htask, .inl List.mem_cons_self⟩
    have hlisted := hwaits.modifyTask htask hopen
      (fun task => { task with awaitedBy := task.awaitedBy ++ [index] }) hopen id
      (List.subset_append_left _ [index])
    refine hlisted.dropWait (fun after hafter hcreated => ?_) fun after awaited hafter hawaiting => ?_
    · rcases getElem?_modify_cases hafter with ⟨hne, -⟩ | ⟨-, before, -, rfl⟩
      · exact hne rfl
      · cases hcreated
    · rcases getElem?_modify_cases hafter with ⟨hne, -⟩ | ⟨-, before, -, rfl⟩
      · exact absurd rfl hne
      · cases hawaiting
        exact ⟨_, getElem?_modify_self htask, hopen, List.mem_append_right _ (List.mem_singleton_self _)⟩

theorem covered_runWait {index : Nat} {wait : Wait}
    (h : Covers (.wait index :: loop.queue) loop.tasks loop.waits loop.events)
    (hmounted : ∀ gate task, loop.current? gate = some task → loop.Serves task gate)
    (hwait : loop.waits[index]? = some wait) : (loop.runWait index wait).IsCovered := by
  unfold runWait
  split
  · next hstage =>
    refine h.dropWait (fun after hafter hcreated => ?_) fun after task hafter hawaiting => ?_
    · cases hwait.symm.trans hafter
      rw [hstage] at hcreated
      cases hcreated
    · cases hwait.symm.trans hafter
      rw [hstage] at hawaiting
      cases hawaiting
  · split
    · exact covered_finishWait h .cancelled
    · split
      · next task hstage =>
        obtain ⟨t, ht, -⟩ := h.awaited index wait task hwait hstage
        exact covered_await h ht
      · next task hcurrent _ =>
        have hserves := hmounted wait.gate task hcurrent
        obtain ⟨t, ht, -⟩ := Option.map_eq_some_iff.mp hserves
        exact covered_await h ht
      · exact covered_finishWait h _

/-! ## One move -/

/-- The task of a gate's current mount was started for that gate. -/
def IsMounted (loop : Loop) : Prop :=
  ∀ gate task, loop.current? gate = some task → loop.Serves task gate

theorem covered_perform {due : Due} (h : Covers (due :: loop.queue) loop.tasks loop.waits loop.events)
    (hmounted : loop.IsMounted) : (loop.perform due).IsCovered := by
  cases due with
  | task index =>
    rw [perform]
    cases htask : loop.tasks[index]? with
    | none =>
      refine h.dropTask fun task hsome => ?_
      rw [htask] at hsome
      cases hsome
    | some task => exact covered_runTask h htask
  | delivery index =>
    obtain ⟨task, -, htask, -⟩ := h.delivered index List.mem_cons_self
    rw [perform, htask]
    exact covered_deliver h htask
  | wait index =>
    rw [perform]
    cases hwait : loop.waits[index]? with
    | none =>
      refine h.dropWait (fun wait hsome => ?_) fun wait task hsome => ?_
      · rw [hwait] at hsome
        cases hsome
      · rw [hwait] at hsome
        cases hsome
    | some wait => exact covered_runWait h hmounted hwait

theorem IsCovered.runAt (h : loop.IsCovered) (hmounted : loop.IsMounted) (place : Nat) :
    (loop.runAt place).IsCovered := by
  unfold Loop.runAt
  split
  · next due hdue =>
    obtain ⟨hlt, rfl⟩ := List.getElem?_eq_some_iff.mp hdue
    exact covered_perform (h.perm (List.getElem_cons_eraseIdx_perm hlt).symm) hmounted
  · exact h

theorem IsCovered.take (h : loop.IsCovered) (hmounted : loop.IsMounted) (move : Move) :
    (loop.take move).IsCovered := by
  cases move with
  | ordinary operation =>
    cases operation with
    | addGate => exact h
    | mount gate => exact h.mount gate
    | unmount gate => exact h
    | waitFor gate => exact h.addWait gate
    | release call => exact h.release call
    | turn place => exact h.runAt hmounted place
  | cancelTask task => exact h.cancelTask task
  | cancelWait wait => exact h.cancelWait wait

theorem cancelTask_doors (index : Nat) : (loop.cancelTask index).2.doors = loop.doors := by
  unfold cancelTask
  split <;> rfl

theorem cancelWait_doors (index : Nat) : (loop.cancelWait index).doors = loop.doors := by
  obtain ⟨other, hother, hresult⟩ := loop.cancelWait_cases index
  have hdoors : other.doors = loop.doors := by
    rcases hother with rfl | ⟨task, rfl⟩
    · rfl
    · exact cancelTask_doors task
  rcases hresult with heq | heq <;> rw [heq] <;> exact hdoors

/-- Only mounting and unmounting a gate change the task of its mount. -/
theorem current?_take (move : Move) (gate : Nat) :
    (loop.take move).current? gate = loop.current? gate ∨
      move = .ordinary (.mount gate) ∧ loop.current? gate = none ∧
        (loop.take move).current? gate = some loop.tasks.length ∨
      move = .ordinary (.unmount gate) ∧ (loop.take move).current? gate = none := by
  cases move with
  | ordinary operation =>
    refine (loop.current?_step operation gate).imp_right (Or.imp ?_ ?_)
    · exact fun ⟨hmount, hcurrent⟩ => ⟨congrArg _ hmount, hcurrent⟩
    · exact fun ⟨hunmount, hcurrent⟩ => ⟨congrArg _ hunmount, hcurrent⟩
  | cancelTask task => exact .inl (current?_congr (cancelTask_doors task) gate)
  | cancelWait wait => exact .inl (current?_congr (cancelWait_doors wait) gate)

/-! ## Tasks through a move -/

/-- No task is started or runs: one task at most changes, and that neither in its gate, nor in
whether it has called the bootstrap, nor in how it ended. -/
def Stirs (loop after : Loop) : Prop :=
  after.calls = loop.calls ∧ ∃ index change, after.tasks = loop.tasks.modify index change ∧
    ∀ task, loop.tasks[index]? = some task → (change task).gate = task.gate ∧
      (change task).outcome? = task.outcome? ∧
        ((change task).stage == .created) = (task.stage == .created)

theorem stirs_of_eq {after : Loop} (hcalls : after.calls = loop.calls)
    (htasks : after.tasks = loop.tasks) : loop.Stirs after :=
  ⟨hcalls, 0, id, by rw [List.modify_id, htasks], fun _ _ => ⟨rfl, rfl, rfl⟩⟩

theorem stirs_signal {index call : Nat} {task : Task} {heard : Signal}
    (htask : loop.tasks[index]? = some task) (hheld : task.stage = .held call heard)
    (number : Nat) (signal : Signal) : loop.Stirs (loop.signal index number signal) := by
  refine ⟨rfl, index, fun task => { task with stage := .held number signal }, rfl,
    fun found hfound => ?_⟩
  cases htask.symm.trans hfound
  unfold Task.outcome?
  rw [hheld]
  exact ⟨rfl, rfl, rfl⟩

theorem stirs_release (call : Nat) : loop.Stirs (loop.release call) := by
  unfold release
  dsimp only
  split
  · next index hfound =>
    obtain ⟨hlt, hheld, -⟩ := List.findIdx?_eq_some_iff_getElem.mp hfound
    exact stirs_signal (List.getElem?_eq_getElem hlt) (eq_of_beq hheld) call .released
  · exact stirs_of_eq rfl rfl

theorem stirs_cancelTask (index : Nat) : loop.Stirs (loop.cancelTask index).2 := by
  unfold cancelTask
  split
  · exact stirs_of_eq rfl rfl
  · exact stirs_of_eq rfl rfl
  · next hstage =>
    obtain ⟨task, htask, hheld⟩ := Option.map_eq_some_iff.mp hstage
    exact stirs_signal htask hheld _ _
  · exact ⟨rfl, index, fun task => { task with cancelling := true }, rfl,
      fun _ _ => ⟨rfl, rfl, rfl⟩⟩

theorem stirs_cancelWait (index : Nat) : loop.Stirs (loop.cancelWait index) := by
  obtain ⟨other, hother, hresult⟩ := loop.cancelWait_cases index
  have hstirs : loop.Stirs other := by
    rcases hother with rfl | ⟨task, rfl⟩
    · exact stirs_of_eq rfl rfl
    · exact stirs_cancelTask task
  rcases hresult with heq | heq <;> rw [heq] <;> exact hstirs

theorem stirs_runWait (index : Nat) (wait : Wait) : loop.Stirs (loop.runWait index wait) := by
  rcases loop.runWait_cases index wait with h | ⟨outcome, h⟩ | ⟨task, h⟩ <;> rw [h]
  · exact stirs_of_eq rfl rfl
  · exact stirs_of_eq rfl rfl
  · unfold await conclude
    split
    · dsimp only
      split_ifs <;> exact stirs_of_eq rfl rfl
    · exact ⟨rfl, task, fun task => { task with awaitedBy := task.awaitedBy ++ [index] }, rfl,
        fun _ _ => ⟨rfl, rfl, rfl⟩⟩

theorem stirs_delivery (index : Nat) : loop.Stirs (loop.perform (.delivery index)) := by
  rw [perform]
  cases loop.tasks[index]? with
  | none => exact stirs_of_eq rfl rfl
  | some task =>
    rw [Option.elim_some]
    rcases loop.deliver_cases index task with h | ⟨event, h⟩ | h <;> rw [h] <;>
      exact stirs_of_eq rfl rfl

theorem stirs_wait (index : Nat) : loop.Stirs (loop.perform (.wait index)) := by
  rw [perform]
  cases loop.waits[index]? with
  | none => exact stirs_of_eq rfl rfl
  | some wait => exact stirs_runWait index wait

/-- Tasks stay and serve the gates they were started for, and those that have ended keep their
outcomes. -/
def Keeps (tasks after : List Task) : Prop :=
  ∀ (index : Nat) (task : Task), tasks[index]? = some task →
    ∃ t : Task, after[index]? = some t ∧ t.gate = task.gate ∧
      ∀ outcome, task.outcome? = some outcome → t.outcome? = some outcome

theorem Keeps.refl (tasks : List Task) : Keeps tasks tasks := fun _ task htask =>
  ⟨task, htask, rfl, fun _ => id⟩

theorem Keeps.trans {middle after : List Task} (h : Keeps tasks middle) (hafter : Keeps middle after) :
    Keeps tasks after := by
  intro index task htask
  obtain ⟨t, ht, hgate, hkept⟩ := h index task htask
  obtain ⟨t', ht', hgate', hkept'⟩ := hafter index t ht
  exact ⟨t', ht', hgate'.trans hgate, fun outcome houtcome => hkept' outcome (hkept outcome houtcome)⟩

theorem keeps_append (tasks more : List Task) : Keeps tasks (tasks ++ more) := fun _ task htask =>
  ⟨task, (List.getElem?_append_left (List.getElem?_eq_some_iff.mp htask).1).trans htask, rfl,
    fun _ => id⟩

theorem keeps_modify {index : Nat} {change : Task → Task}
    (h : ∀ task, tasks[index]? = some task → (change task).gate = task.gate ∧
      (task.outcome? = none ∨ (change task).outcome? = task.outcome?)) :
    Keeps tasks (tasks.modify index change) := by
  intro other task htask
  by_cases hsame : other = index
  · subst other
    obtain ⟨hgate, hopen | hkept⟩ := h task htask
    · refine ⟨change task, getElem?_modify_self htask, hgate, fun outcome houtcome => ?_⟩
      cases hopen.symm.trans houtcome
    · exact ⟨change task, getElem?_modify_self htask, hgate, fun outcome => hkept.trans⟩
  · exact ⟨task, (getElem?_modify_other tasks change hsame).trans htask, rfl, fun _ => id⟩

theorem Stirs.keeps {after : Loop} (h : loop.Stirs after) : Keeps loop.tasks after.tasks := by
  obtain ⟨-, index, change, htasks, hchange⟩ := h
  rw [htasks]
  refine keeps_modify fun task htask => ?_
  obtain ⟨hgate, houtcome, -⟩ := hchange task htask
  exact ⟨hgate, .inr houtcome⟩

theorem keeps_runTask {index : Nat} {task : Task} (htask : loop.tasks[index]? = some task) :
    Keeps loop.tasks (loop.runTask index task).tasks := by
  have hmodified (hopen : task.outcome? = none) (stage : TaskStage) :
      Keeps loop.tasks (loop.tasks.modify index fun task => { task with stage }) := by
    refine keeps_modify fun found hfound => ?_
    cases htask.symm.trans hfound
    exact ⟨rfl, .inl hopen⟩
  unfold runTask
  split
  · next hstage =>
    have hopen : task.outcome? = none := Task.outcome?_eq_none_iff.mpr fun _ => by simp [hstage]
    dsimp only
    split_ifs <;> exact hmodified hopen _
  · next hstage =>
    have hopen : task.outcome? = none := Task.outcome?_eq_none_iff.mpr fun _ => by simp [hstage]
    split_ifs <;> exact hmodified hopen _
  · exact .refl _

theorem keeps_perform (loop : Loop) (due : Due) : Keeps loop.tasks (loop.perform due).tasks := by
  cases due with
  | task index =>
    rw [perform]
    cases htask : loop.tasks[index]? with
    | none => exact .refl _
    | some task => exact keeps_runTask htask
  | delivery index => exact (stirs_delivery index).keeps
  | wait index => exact (stirs_wait index).keeps

/-- Every move keeps the tasks. -/
theorem keeps_take (move : Move) : Keeps loop.tasks (loop.take move).tasks := by
  cases move with
  | ordinary operation =>
    cases operation with
    | addGate => exact .refl _
    | mount gate =>
      change Keeps loop.tasks (loop.mount gate).2.tasks
      unfold mount
      split
      · exact .refl _
      · exact keeps_append _ _
    | unmount gate => exact .refl _
    | waitFor gate => exact .refl _
    | release call => exact (stirs_release call).keeps
    | turn place =>
      change Keeps loop.tasks (loop.runAt place).tasks
      unfold runAt
      split
      · exact keeps_perform { loop with queue := loop.queue.eraseIdx place } _
      · exact .refl _
  | cancelTask index => exact (stirs_cancelTask index).keeps
  | cancelWait index => exact (stirs_cancelWait index).keeps

theorem keeps_play (moves : List Move) : Keeps loop.tasks (loop.play moves).tasks := by
  induction moves generalizing loop with
  | nil => exact .refl _
  | cons move moves ih => exact (keeps_take move).trans ih

theorem Serves.of_keeps {other : Loop} {task gate : Nat} (h : loop.Serves task gate)
    (hkeeps : Keeps loop.tasks other.tasks) : other.Serves task gate := by
  obtain ⟨t, ht, rfl⟩ := Option.map_eq_some_iff.mp h
  obtain ⟨t', ht', hgate, -⟩ := hkeeps task t ht
  exact Option.map_eq_some_iff.mpr ⟨t', ht', hgate⟩

theorem IsMounted.take (h : loop.IsMounted) (move : Move) : (loop.take move).IsMounted := by
  intro gate task hcurrent
  rcases loop.current?_take move gate with hsame | ⟨rfl, hnone, hsome⟩ | ⟨-, hnone⟩
  · exact (h gate task (hsame ▸ hcurrent)).of_keeps (keeps_take move)
  · rw [hsome] at hcurrent
    cases hcurrent
    change (loop.step (.mount gate)).Serves _ gate
    rw [serves_iff, step_gates]
    simp [started, hnone]
  · rw [hnone] at hcurrent
    cases hcurrent

theorem play_isMounted (behaviours : List Behaviour) (moves : List Move) :
    ((start behaviours).play moves).IsMounted := by
  induction moves using List.reverseRecOn with
  | nil => exact fun gate task hcurrent => by simp [current?, start] at hcurrent
  | append_singleton moves move ih =>
    rw [play_concat]
    exact ih.take move

/-- In every run all that is under way is covered. -/
theorem play_isCovered (behaviours : List Behaviour) (moves : List Move) :
    ((start behaviours).play moves).IsCovered := by
  induction moves using List.reverseRecOn with
  | nil => exact start_isCovered behaviours
  | append_singleton moves move ih =>
    rw [play_concat]
    exact ih.take (play_isMounted behaviours moves) move

end Loop

end Registrar.Gate
