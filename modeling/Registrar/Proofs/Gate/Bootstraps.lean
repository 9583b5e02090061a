import Registrar.Proofs.Gate.Cancelling

/-! # One bootstrap for each mount

Each mount of an unmounted gate calls the bootstrap once, unless its task is cancelled before it runs
first. A failure is reported once, reaches all that wait on the mount, and keeps the gate from getting
ready until it is mounted again.
-/

namespace Registrar.Gate

namespace Loop

variable {loop : Loop} {behaviours : List Behaviour}

/-! ## Bootstrap calls -/

/-- How many moves pass a test, each in the loop it is made in. -/
def tally (test : Loop → Move → Bool) (loop : Loop) : List Move → Nat
  | [] => 0
  | move :: moves => (test loop move).toNat + tally test (loop.take move) moves

/-- A move mounts a gate that is not mounted. -/
def mountsAfresh (loop : Loop) : Move → Bool
  | .ordinary (.mount gate) => (loop.current? gate).isNone
  | _ => false

/-- What is due is the first run of a task that is to be cancelled. -/
def isForestalled (tasks : List Task) : Due → Bool
  | .task index => (tasks[index]?).any fun task => task.stage == .created && task.cancelling
  | _ => false

/-- A move runs a task that is to be cancelled before it has called the bootstrap. -/
def forestalls (loop : Loop) : Move → Bool
  | .ordinary (.turn place) => (loop.queue[place]?).any (isForestalled loop.tasks)
  | _ => false

/-- How many tasks have not called the bootstrap yet. -/
def uncalled (tasks : List Task) : Nat := tasks.countP (·.stage == .created)

/-- The bootstrap calls that were made or are still to be made. -/
def callsDue (loop : Loop) : Nat := loop.calls + uncalled loop.tasks

theorem uncalled_modify {tasks : List Task} {index : Nat} {change : Task → Task}
    (h : ∀ task, tasks[index]? = some task →
      ((change task).stage == .created) = (task.stage == .created)) :
    uncalled (tasks.modify index change) = uncalled tasks := by
  cases htask : tasks[index]? with
  | none => rw [List.modify_eq_self (by simpa using htask)]
  | some task =>
    have hcount := countP_modify (fun task : Task => task.stage == .created) change htask
    rw [h task htask] at hcount
    exact Nat.add_right_cancel hcount

theorem uncalled_of_created {tasks : List Task} {index : Nat} {task : Task}
    (htask : tasks[index]? = some task) (hcreated : task.stage = .created) {stage : TaskStage}
    (hstage : (stage == .created) = false) :
    uncalled (tasks.modify index fun task => { task with stage }) + 1 = uncalled tasks := by
  have hcount := countP_modify (fun task : Task => task.stage == .created)
    (fun task => { task with stage }) htask
  dsimp only at hcount
  rw [hcreated, hstage] at hcount
  simpa [uncalled] using hcount

/-- A task that runs first calls the bootstrap, unless it is to be cancelled. -/
theorem callsDue_runTask {index : Nat} {task : Task} (htask : loop.tasks[index]? = some task) :
    (loop.runTask index task).callsDue + (task.stage == .created && task.cancelling).toNat =
      loop.callsDue := by
  unfold runTask callsDue
  split
  · next hcreated =>
    have hcalled (stage : TaskStage) (hstage : (stage == .created) = false) :
        uncalled (loop.tasks.modify index fun task => { task with stage }) + 1 =
          uncalled loop.tasks := uncalled_of_created htask hcreated hstage
    rw [hcreated, BEq.rfl, Bool.true_and]
    dsimp only
    split
    · next hcancelling =>
      rw [hcancelling]
      exact congrArg (loop.calls + ·) (hcalled (.finished .cancelled) rfl)
    · next hcancelling =>
      rw [Bool.not_eq_true] at hcancelling
      rw [hcancelling]
      split
      · exact (Nat.add_right_comm loop.calls 1 _).trans
          (congrArg (loop.calls + ·) (hcalled (.held loop.calls .nothing) rfl))
      · exact (Nat.add_right_comm loop.calls 1 _).trans
          (congrArg (loop.calls + ·) (hcalled (.finished _) rfl))
  · next hheld =>
    have hnot : (task.stage == .created) = false := by
      rw [hheld]
      rfl
    have hcalled (outcome : Outcome) : uncalled (loop.tasks.modify index fun task =>
        { task with stage := .finished outcome }) = uncalled loop.tasks := by
      refine uncalled_modify fun found hfound => ?_
      cases htask.symm.trans hfound
      rw [hnot]
      rfl
    rw [hnot]
    split <;> exact congrArg (loop.calls + ·) (hcalled _)
  · next hfinished =>
    rw [hfinished]
    rfl

theorem Stirs.callsDue {after : Loop} (h : loop.Stirs after) : after.callsDue = loop.callsDue := by
  obtain ⟨hcalls, index, change, htasks, hchange⟩ := h
  unfold Loop.callsDue
  rw [hcalls, htasks, uncalled_modify fun task htask => (hchange task htask).2.2]

theorem callsDue_perform (loop : Loop) (due : Due) :
    (loop.perform due).callsDue + (isForestalled loop.tasks due).toNat = loop.callsDue := by
  cases due with
  | task index =>
    rw [perform, isForestalled]
    cases htask : loop.tasks[index]? with
    | none => rfl
    | some task => exact callsDue_runTask htask
  | delivery index => exact (stirs_delivery index).callsDue
  | wait index => exact (stirs_wait index).callsDue

/-- One move starts a task, or ends one before its call, or leaves the calls to make as they are. -/
theorem callsDue_take (loop : Loop) (move : Move) :
    (loop.take move).callsDue + (loop.forestalls move).toNat =
      loop.callsDue + (loop.mountsAfresh move).toNat := by
  cases move with
  | ordinary operation =>
    cases operation with
    | addGate => rfl
    | mount gate =>
      change (loop.mount gate).2.callsDue = loop.callsDue + (loop.current? gate).isNone.toNat
      unfold mount current?
      split
      · next hmounted =>
        rw [hmounted]
        rfl
      · next hnone =>
        rw [hnone]
        change loop.calls + uncalled (loop.tasks ++ _) = _
        unfold uncalled
        rw [List.countP_append]
        rfl
    | unmount gate => rfl
    | waitFor gate => rfl
    | release call => exact (stirs_release call).callsDue
    | turn place =>
      change (loop.runAt place).callsDue +
        ((loop.queue[place]?).any (isForestalled loop.tasks)).toNat = loop.callsDue
      unfold runAt
      cases loop.queue[place]? with
      | none => rfl
      | some due => exact callsDue_perform { loop with queue := loop.queue.eraseIdx place } due
  | cancelTask index => exact (stirs_cancelTask index).callsDue
  | cancelWait index => exact (stirs_cancelWait index).callsDue

/-- Over a run, each mount of an unmounted gate brings about a call, unless it is forestalled. -/
theorem callsDue_play (loop : Loop) (moves : List Move) :
    (loop.play moves).callsDue + loop.tally forestalls moves =
      loop.callsDue + loop.tally mountsAfresh moves := by
  induction moves generalizing loop with
  | nil => rfl
  | cons move moves ih =>
    have hmove := loop.callsDue_take move
    have hmoves := ih (loop.take move)
    rw [play_cons, tally, tally]
    omega

/-! ## Once nothing is due -/

theorem uncalled_of_idle (h : loop.IsCovered) (hidle : loop.queue = []) : uncalled loop.tasks = 0 := by
  refine List.countP_eq_zero.mpr fun task hmem hcreated => ?_
  obtain ⟨index, htask⟩ := List.mem_iff_getElem?.mp hmem
  have hdue := h.created index task htask (eq_of_beq hcreated)
  rw [hidle] at hdue
  cases hdue

/-- The calls of a run are the mounts of unmounted gates, less those that were forestalled. -/
theorem calls_of_idle {moves : List Move} (hidle : ((start behaviours).play moves).queue = []) :
    ((start behaviours).play moves).calls + (start behaviours).tally forestalls moves =
      (start behaviours).tally mountsAfresh moves := by
  have hcalls := (start behaviours).callsDue_play moves
  rw [callsDue, uncalled_of_idle (play_isCovered behaviours moves) hidle] at hcalls
  exact hcalls.trans (Nat.zero_add _)

/-- There is one error record for each failed task. -/
theorem errors_of_idle (h : loop.IsCovered) (hidle : loop.queue = []) :
    errors loop.events = loop.tasks.countP Task.hasFailed := by
  have hreported := h.reported
  rw [hidle] at hreported
  exact hreported

/-! ## Without cancellation -/

/-- No task is to be cancelled. -/
def IsUndisturbed (loop : Loop) : Prop := ∀ task ∈ loop.tasks, task.cancelling = false

theorem start_isUndisturbed (behaviours : List Behaviour) : (start behaviours).IsUndisturbed :=
  fun _ hmem => absurd hmem List.not_mem_nil

theorem IsUndisturbed.step (h : loop.IsUndisturbed) (operation : Operation) :
    (loop.step operation).IsUndisturbed := by
  intro task hmem
  have hkept := loop.step_map (f := Task.cancelling) (fun _ _ _ => rfl) operation
  have hcancelling : task.cancelling ∈ (loop.step operation).tasks.map Task.cancelling :=
    List.mem_map_of_mem hmem
  rw [hkept, List.mem_append] at hcancelling
  rcases hcancelling with hold | hnew
  · obtain ⟨before, hbefore, hsame⟩ := List.mem_map.mp hold
    exact hsame.symm.trans (h before hbefore)
  · obtain ⟨gate, -, hfalse⟩ := List.mem_map.mp hnew
    exact hfalse.symm

theorem IsUndisturbed.forestalls (h : loop.IsUndisturbed) (move : Move) :
    loop.forestalls move = false := by
  unfold Loop.forestalls
  split
  · next place =>
    cases loop.queue[place]? with
    | none => rfl
    | some due =>
      cases due with
      | task index =>
        rw [Option.any_some, isForestalled]
        cases htask : loop.tasks[index]? with
        | none => rfl
        | some task =>
          rw [Option.any_some, h task (List.mem_of_getElem? htask), Bool.and_false]
      | _ => rfl
  · rfl

/-- Where nothing is cancelled, no call is forestalled. -/
theorem tally_forestalls_ordinary (h : loop.IsUndisturbed) (operations : List Operation) :
    loop.tally Loop.forestalls (operations.map .ordinary) = 0 := by
  induction operations generalizing loop with
  | nil => rfl
  | cons operation operations ih =>
    rw [List.map_cons, tally, h.forestalls, Bool.toNat_false, Nat.zero_add]
    exact ih (h.step operation)

end Loop

end Registrar.Gate
