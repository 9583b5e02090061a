import Registrar.Proofs.Gate.Bootstraps

/-! # Failed bootstraps

A task that has ended keeps its outcome. So a failure reaches every wait on its mount, whenever the
wait hears from the task, and only the task of another mount can make the gate ready after it.
-/

namespace Registrar.Gate

namespace Loop

variable {loop : Loop} {behaviours : List Behaviour}

/-! ## Getting ready -/

/-- The task of a gate's current mount has completed. -/
def HasCompleted (loop : Loop) (gate : Nat) : Prop :=
  ∃ task t, loop.current? gate = some task ∧ loop.tasks[task]? = some t ∧
    t.stage = .finished .completed

theorem hasCompleted_of_perform {due : Due} {gate : Nat} (h : (loop.perform due).isReady gate = true) :
    loop.isReady gate = true ∨ loop.HasCompleted gate := by
  cases due with
  | task index =>
    left
    rw [perform] at h
    cases htask : loop.tasks[index]? with
    | none =>
      rw [htask] at h
      exact h
    | some t =>
      rw [htask, Option.elim_some, isReady_congr (runTask_doors loop index t)] at h
      exact h
  | delivery index =>
    rw [perform] at h
    cases htask : loop.tasks[index]? with
    | none =>
      rw [htask] at h
      exact .inl h
    | some t =>
      rw [htask, Option.elim_some, isReady_deliver] at h
      refine h.imp_right ?_
      rintro ⟨hstage, hcurrent, rfl⟩
      exact ⟨index, t, hcurrent, htask, hstage⟩
  | wait index =>
    rw [perform] at h
    cases hwait : loop.waits[index]? with
    | none =>
      rw [hwait] at h
      exact .inl h
    | some wait =>
      rw [hwait, Option.elim_some] at h
      rcases loop.runWait_cases index wait with heq | ⟨outcome, heq⟩ | ⟨task, heq⟩ <;> rw [heq] at h
      · exact .inl h
      · exact .inl h
      · rw [isReady_await] at h
        refine h.imp_right ?_
        rintro ⟨⟨t, ht, hstage⟩, hcurrent, rfl⟩
        exact ⟨task, t, hcurrent, ht, hstage⟩

/-- A gate gets ready only when the task of its current mount has completed. -/
theorem hasCompleted_of_take {move : Move} {gate : Nat} (h : (loop.take move).isReady gate = true) :
    loop.isReady gate = true ∨ loop.HasCompleted gate := by
  cases move with
  | ordinary operation =>
    change (loop.step operation).isReady gate = true at h
    by_cases hturn : ∃ place, operation = .turn place
    · obtain ⟨place, rfl⟩ := hturn
      rw [step, runAt] at h
      split at h
      · exact @hasCompleted_of_perform { loop with queue := loop.queue.eraseIdx place } _ _ h
      · exact .inl h
    · rw [isReady_step_of_ne_turn (not_exists.mp hturn)] at h
      exact .inl h
  | cancelTask index =>
    rw [take, isReady_congr (cancelTask_doors index)] at h
    exact .inl h
  | cancelWait index =>
    rw [take, isReady_congr (cancelWait_doors index)] at h
    exact .inl h

theorem exists_hasCompleted {moves : List Move} {gate : Nat} (hclosed : loop.isReady gate = false)
    (hopen : (loop.play moves).isReady gate = true) :
    ∃ before after, moves = before ++ after ∧ (loop.play before).HasCompleted gate := by
  induction moves generalizing loop with
  | nil =>
    rw [play_nil, hclosed] at hopen
    cases hopen
  | cons move moves ih =>
    cases hnext : (loop.take move).isReady gate with
    | false =>
      obtain ⟨before, after, rfl, hcompleted⟩ := ih hnext hopen
      exact ⟨move :: before, after, rfl, hcompleted⟩
    | true =>
      refine ⟨[], move :: moves, rfl, (hasCompleted_of_take hnext).resolve_left ?_⟩
      rw [hclosed]
      exact Bool.false_ne_true

/-- Moves unmount a gate and mount it later. -/
def Remounts (gate : Nat) (moves : List Move) : Prop :=
  ∃ before after, moves = before ++ .ordinary (.unmount gate) :: after ∧
    .ordinary (.mount gate) ∈ after

theorem Remounts.append {gate : Nat} {moves : List Move} (h : Remounts gate moves) (more : List Move) :
    Remounts gate (moves ++ more) := by
  obtain ⟨before, after, rfl, hmount⟩ := h
  exact ⟨before, after ++ more, by rw [List.append_assoc, List.cons_append],
    List.mem_append_left _ hmount⟩

theorem mem_of_mounted {moves : List Move} {gate task : Nat} (hnone : loop.current? gate = none)
    (hsome : (loop.play moves).current? gate = some task) : .ordinary (.mount gate) ∈ moves := by
  induction moves generalizing loop with
  | nil => cases hnone.symm.trans hsome
  | cons move moves ih =>
    rcases loop.current?_take move gate with hsame | ⟨rfl, -⟩ | ⟨-, hunmounted⟩
    · exact List.mem_cons_of_mem _ (ih (hsame.trans hnone) hsome)
    · exact List.mem_cons_self
    · exact List.mem_cons_of_mem _ (ih hunmounted hsome)

/-- A gate gets another task only by being mounted again. -/
theorem remounts_of_current? {moves : List Move} {gate task other : Nat}
    (hold : loop.current? gate = some task) (hnew : (loop.play moves).current? gate = some other)
    (hne : other ≠ task) : Remounts gate moves := by
  induction moves generalizing loop with
  | nil => exact absurd (Option.some.inj (hnew.symm.trans hold)) hne
  | cons move moves ih =>
    rcases loop.current?_take move gate with hsame | ⟨-, hnone, -⟩ | ⟨rfl, hunmounted⟩
    · obtain ⟨before, after, rfl, hmount⟩ := ih (hsame.trans hold) hnew
      exact ⟨move :: before, after, rfl, hmount⟩
    · cases hold.symm.trans hnone
    · exact ⟨[], moves, rfl, mem_of_mounted hunmounted hnew⟩

/-- A gate that is mounted with a task that fails gets ready only after it was mounted again. -/
theorem remounts_of_ready {moves more : List Move} {gate task : Nat} {t : Task} {fault : Fault}
    (hcurrent : loop.current? gate = some task) (hclosed : (loop.play moves).isReady gate = false)
    (hopen : (loop.play (moves ++ more)).isReady gate = true)
    (htask : (loop.play (moves ++ more)).tasks[task]? = some t)
    (hfailed : t.stage = .finished (.failed fault)) : Remounts gate (moves ++ more) := by
  rw [play_append] at hopen
  obtain ⟨before, after, rfl, other, found, hother, hfound, hcompleted⟩ :=
    exists_hasCompleted hclosed hopen
  rw [← play_append] at hother hfound
  rw [← List.append_assoc] at htask ⊢
  -- The task that opened the gate completed, so it is not the one that fails.
  have hne : other ≠ task := by
    rintro rfl
    rw [play_append _ (moves ++ before)] at htask
    obtain ⟨kept, hkept, -, houtcome⟩ := keeps_play after other found hfound
    cases htask.symm.trans hkept
    have hended := Task.outcome?_eq_some_iff.mp
      (houtcome .completed (Task.outcome?_eq_some_iff.mpr hcompleted))
    cases hended.symm.trans hfailed
  exact (remounts_of_current? hcurrent hother hne).append after

/-! ## Waits -/

/-- The stage of a wait that has heard from a task. -/
def heardStage (tasks : List Task) (task : Nat) : WaitStage :=
  (((tasks[task]?).bind Task.outcome?).map WaitStage.finished).getD (.awaiting task)

theorem heardStage_cases (tasks : List Task) (task : Nat) :
    heardStage tasks task = .awaiting task ∨
      ∃ t outcome, tasks[task]? = some t ∧ t.outcome? = some outcome ∧
        heardStage tasks task = .finished outcome := by
  unfold heardStage
  cases htask : tasks[task]? with
  | none => exact .inl rfl
  | some t =>
    rw [Option.bind_some]
    cases houtcome : t.outcome? with
    | none => exact .inl rfl
    | some outcome => exact .inr ⟨t, outcome, rfl, houtcome, rfl⟩

/-- The stage of a wait after it runs. -/
def nextStage (loop : Loop) (wait : Wait) : WaitStage :=
  match wait.stage with
  | .finished outcome => .finished outcome
  | _ =>
    if wait.cancelling then .finished .cancelled
    else (loop.heard? wait).elim (.finished (.failed .unmounted)) (heardStage loop.tasks)

theorem await_waits (index : Nat) (wait : Wait) (task : Nat) :
    (loop.await index wait task).waits =
      loop.waits.modify index fun wait => { wait with stage := heardStage loop.tasks task } := by
  unfold await
  split
  · next htask =>
    rw [heardStage, htask]
    unfold conclude
    dsimp only
    split <;> rfl
  · next hpending =>
    have hnone : (loop.tasks[task]?).bind Task.outcome? = none := by
      cases htask : loop.tasks[task]? with
      | none => rfl
      | some t =>
        refine Task.outcome?_eq_none_iff.mpr fun outcome houtcome => ?_
        obtain ⟨gate, stage, cancelling, awaitedBy⟩ := t
        cases houtcome
        exact hpending _ _ _ _ htask
    rw [heardStage, hnone]
    rfl

/-- A wait that runs changes its own stage. -/
theorem runWait_waits {index : Nat} {wait : Wait} (hwait : loop.waits[index]? = some wait) :
    (loop.runWait index wait).waits =
      loop.waits.modify index fun before => { before with stage := loop.nextStage wait } := by
  cases hstage : wait.stage with
  | finished outcome =>
    have hnext : loop.nextStage wait = wait.stage := by
      unfold nextStage
      rw [hstage]
    have hrun : loop.runWait index wait = loop := by
      unfold runWait
      rw [hstage]
    rw [hrun, hnext]
    refine List.ext_getElem? fun other => ?_
    by_cases hsame : other = index
    · subst other
      rw [getElem?_modify_self hwait, hwait]
    · rw [getElem?_modify_other _ _ hsame]
  | created =>
    unfold runWait nextStage heard? current?
    rw [hstage]
    dsimp only
    split
    · rfl
    · cases (loop.doors[wait.gate]?).bind (·.task?) with
      | none => rfl
      | some task => exact await_waits index wait task
  | awaiting task =>
    unfold runWait nextStage heard?
    rw [hstage]
    dsimp only
    split
    · rfl
    · exact await_waits index wait task

theorem deliver_waits (index : Nat) (t : Task) : (loop.deliver index t).waits = loop.waits := by
  rcases loop.deliver_cases index t with h | ⟨event, h⟩ | h <;> rw [h] <;> rfl

theorem cancelTask_waits (index : Nat) : (loop.cancelTask index).2.waits = loop.waits := by
  unfold cancelTask
  split <;> rfl

theorem cancelWait_waits (index : Nat) :
    (loop.cancelWait index).waits = loop.waits ∨
      (loop.cancelWait index).waits =
        loop.waits.modify index fun wait => { wait with cancelling := true } := by
  obtain ⟨other, hother, hresult⟩ := loop.cancelWait_cases index
  have hwaits : other.waits = loop.waits := by
    rcases hother with rfl | ⟨task, rfl⟩
    · rfl
    · exact cancelTask_waits task
  rcases hresult with heq | heq <;> rw [heq]
  · exact .inl hwaits
  · exact .inr (congrArg (List.modify · index _) hwaits)

/-- What is due runs a wait or leaves all waits alone. -/
theorem perform_waits (due : Due) :
    (loop.perform due).waits = loop.waits ∨
      ∃ index wait, due = .wait index ∧ loop.waits[index]? = some wait ∧
        (loop.perform due).waits =
          loop.waits.modify index fun before => { before with stage := loop.nextStage wait } := by
  cases due with
  | task index =>
    left
    rw [perform]
    cases loop.tasks[index]? with
    | none => rfl
    | some t => exact runTask_waits loop index t
  | delivery index =>
    left
    rw [perform]
    cases loop.tasks[index]? with
    | none => rfl
    | some t => exact deliver_waits index t
  | wait index =>
    rw [perform]
    cases hwait : loop.waits[index]? with
    | none => exact .inl rfl
    | some wait => exact .inr ⟨index, wait, rfl, hwait, runWait_waits hwait⟩

/-- A move leaves the waits alone, starts one, runs one or cancels one. -/
theorem take_waits (move : Move) :
    (loop.take move).waits = loop.waits ∨
      (∃ gate, (loop.take move).waits = loop.waits ++ [⟨gate, .created, false⟩]) ∨
      (∃ place index wait, move = .ordinary (.turn place) ∧ loop.queue[place]? = some (.wait index) ∧
        loop.waits[index]? = some wait ∧ (loop.take move).waits =
          loop.waits.modify index fun before => { before with stage := loop.nextStage wait }) ∨
      ∃ index, move = .cancelWait index ∧ (loop.take move).waits =
        loop.waits.modify index fun wait => { wait with cancelling := true } := by
  cases move with
  | ordinary operation =>
    cases operation with
    | addGate => exact .inl rfl
    | mount gate =>
      left
      change (loop.mount gate).2.waits = loop.waits
      unfold mount
      split <;> rfl
    | unmount gate => exact .inl rfl
    | waitFor gate => exact .inr (.inl ⟨gate, rfl⟩)
    | release call => exact .inl (release_waits loop call)
    | turn place =>
      rw [take, step, runAt]
      cases hdue : loop.queue[place]? with
      | none => exact .inl rfl
      | some due =>
        rcases @perform_waits { loop with queue := loop.queue.eraseIdx place } due with
          hsame | ⟨index, wait, rfl, hwait, hrun⟩
        · exact .inl hsame
        · exact .inr (.inr (.inl ⟨place, index, wait, rfl, hdue, hwait, hrun⟩))
  | cancelTask index => exact .inl (cancelTask_waits index)
  | cancelWait index =>
    exact (loop.cancelWait_waits index).imp_right fun h => .inr (.inr ⟨index, rfl, h⟩)

/-- A wait is to be cancelled only if it was. -/
theorem mem_of_cancelling {moves : List Move} {index : Nat} {wait : Wait}
    (hwait : ((start behaviours).play moves).waits[index]? = some wait)
    (hcancelling : wait.cancelling = true) : .cancelWait index ∈ moves := by
  induction moves using List.reverseRecOn generalizing wait with
  | nil => simp [start] at hwait
  | append_singleton moves move ih =>
    rw [play_concat] at hwait
    rcases take_waits move with hsame | ⟨gate, hnew⟩ | ⟨_, other, _, -, -, -, hrun⟩ | ⟨other, rfl, hcancel⟩
    · rw [hsame] at hwait
      exact List.mem_append_left _ (ih hwait hcancelling)
    · rw [hnew, List.getElem?_append] at hwait
      split at hwait
      · exact List.mem_append_left _ (ih hwait hcancelling)
      · rw [List.mem_singleton.mp (List.mem_of_getElem? hwait)] at hcancelling
        cases hcancelling
    · rw [hrun] at hwait
      rcases getElem?_modify_cases hwait with ⟨-, hwait⟩ | ⟨rfl, before, hbefore, rfl⟩
      · exact List.mem_append_left _ (ih hwait hcancelling)
      · exact List.mem_append_left _ (ih hbefore hcancelling)
    · rw [hcancel] at hwait
      rcases getElem?_modify_cases hwait with ⟨-, hwait⟩ | ⟨rfl, -⟩
      · exact List.mem_append_left _ (ih hwait hcancelling)
      · exact List.mem_append_right _ (List.mem_singleton_self _)

/-- A wait that is not to be cancelled awaits a task, or has ended as the task has. -/
def Heeds (loop : Loop) (index task : Nat) : Prop :=
  ∃ wait, loop.waits[index]? = some wait ∧ wait.cancelling = false ∧
    (wait.stage = .awaiting task ∨ ∃ t outcome, loop.tasks[task]? = some t ∧
      t.outcome? = some outcome ∧ wait.stage = .finished outcome)

/-- A wait that runs heeds the task it hears from. -/
theorem heeds_of_heard {move : Move} {index task : Nat} {wait : Wait}
    (hwaits : (loop.take move).waits =
      loop.waits.modify index fun before => { before with stage := loop.nextStage wait })
    (hwait : loop.waits[index]? = some wait) (hcancelling : wait.cancelling = false)
    (hheard : loop.heard? wait = some task) : (loop.take move).Heeds index task := by
  have hnext : loop.nextStage wait = heardStage loop.tasks task := by
    unfold nextStage
    rw [hcancelling, hheard]
    cases hstage : wait.stage with
    | finished outcome =>
      rw [heard?, hstage] at hheard
      cases hheard
    | _ => rfl
  refine ⟨{ wait with stage := loop.nextStage wait }, ?_, hcancelling, ?_⟩
  · rw [hwaits, getElem?_modify_self hwait]
  rw [hnext]
  refine (heardStage_cases loop.tasks task).imp_right ?_
  rintro ⟨t, outcome, ht, houtcome, hfinished⟩
  obtain ⟨kept, hkept, -, hended⟩ := keeps_take move task t ht
  exact ⟨kept, outcome, hkept, hended outcome houtcome, hfinished⟩

theorem Heeds.take {index task : Nat} (h : loop.Heeds index task) {move : Move}
    (hmove : move ≠ .cancelWait index) : (loop.take move).Heeds index task := by
  obtain ⟨wait, hwait, hcancelling, hstage⟩ := h
  have hleft (hsame : (loop.take move).waits[index]? = some wait) :
      (loop.take move).Heeds index task := by
    refine ⟨wait, hsame, hcancelling, hstage.imp_right ?_⟩
    rintro ⟨t, outcome, ht, houtcome, hfinished⟩
    obtain ⟨kept, hkept, -, hended⟩ := keeps_take move task t ht
    exact ⟨kept, outcome, hkept, hended outcome houtcome, hfinished⟩
  rcases loop.take_waits move with
    hsame | ⟨gate, hnew⟩ | ⟨place, other, found, -, -, hfound, hrun⟩ | ⟨other, rfl, hcancel⟩
  · exact hleft (hsame ▸ hwait)
  · refine hleft ?_
    rw [hnew, List.getElem?_append_left (List.getElem?_eq_some_iff.mp hwait).1, hwait]
  · by_cases hi : index = other
    · subst other
      cases hwait.symm.trans hfound
      rcases hstage with hawaiting | ⟨t, outcome, ht, houtcome, hfinished⟩
      · exact heeds_of_heard hrun hwait hcancelling (by rw [heard?, hawaiting])
      · refine hleft ?_
        have hnext : loop.nextStage wait = wait.stage := by
          unfold nextStage
          rw [hfinished]
        rw [hrun, getElem?_modify_self hwait, hnext]
    · refine hleft ?_
      rw [hrun, getElem?_modify_other _ _ hi, hwait]
  · refine hleft ?_
    have hi : index ≠ other := fun heq => hmove (heq ▸ rfl)
    rw [hcancel, getElem?_modify_other _ _ hi, hwait]

theorem Heeds.play {index task : Nat} (h : loop.Heeds index task) {moves : List Move}
    (hmoves : .cancelWait index ∉ moves) : (loop.play moves).Heeds index task := by
  induction moves generalizing loop with
  | nil => exact h
  | cons move moves ih =>
    rw [List.mem_cons, not_or] at hmoves
    exact ih (h.take (Ne.symm hmoves.1)) hmoves.2

/-- Once nothing is due, a wait that heeds a failed task has failed with it. -/
theorem Heeds.of_idle {index task : Nat} {t : Task} {fault : Fault} (h : loop.Heeds index task)
    (hcovered : loop.IsCovered) (hidle : loop.queue = []) (htask : loop.tasks[task]? = some t)
    (hfailed : t.stage = .finished (.failed fault)) :
    ∃ wait, loop.waits[index]? = some wait ∧ wait.stage = .finished (.failed fault) := by
  obtain ⟨wait, hwait, -, hawaiting | ⟨found, outcome, hfound, houtcome, hfinished⟩⟩ := h
  · obtain ⟨found, hfound, hdue | ⟨hopen, -⟩⟩ := hcovered.awaited index wait task hwait hawaiting
    · rw [hidle] at hdue
      cases hdue
    · cases htask.symm.trans hfound
      cases hopen.symm.trans (Task.outcome?_eq_some_iff.mpr hfailed)
  · cases htask.symm.trans hfound
    cases houtcome.symm.trans (Task.outcome?_eq_some_iff.mpr hfailed)
    exact ⟨wait, hwait, hfinished⟩

/-- A move is the first run of a wait for a gate that is mounted with a task. -/
def Attends (loop : Loop) (move : Move) (index task : Nat) : Prop :=
  ∃ place wait, move = .ordinary (.turn place) ∧ loop.queue[place]? = some (.wait index) ∧
    loop.waits[index]? = some wait ∧ wait.stage = .created ∧ loop.current? wait.gate = some task

theorem Attends.heeds {move : Move} {index task : Nat} (h : loop.Attends move index task)
    (hcancelling : ∀ wait, loop.waits[index]? = some wait → wait.cancelling = false) :
    (loop.take move).Heeds index task := by
  obtain ⟨place, wait, rfl, hdue, hwait, hcreated, hcurrent⟩ := h
  have hheard : loop.heard? wait = some task := by rw [heard?, hcreated, hcurrent]
  have hrun : (loop.take (.ordinary (.turn place))).waits =
      loop.waits.modify index fun before => { before with stage := loop.nextStage wait } := by
    rw [Loop.take, step, runAt, hdue]
    dsimp only
    rw [perform, hwait]
    exact @runWait_waits { loop with queue := loop.queue.eraseIdx place } _ _ hwait
  exact heeds_of_heard hrun hwait (hcancelling wait hwait) hheard

/-- A wait on the mount of a task that fails fails with it, unless the wait is cancelled. -/
theorem failed_of_attends {before after : List Move} {move : Move} {index task : Nat} {t : Task}
    {fault : Fault} (h : ((start behaviours).play before).Attends move index task)
    (hidle : ((start behaviours).play (before ++ move :: after)).queue = [])
    (htask : ((start behaviours).play (before ++ move :: after)).tasks[task]? = some t)
    (hfailed : t.stage = .finished (.failed fault))
    (hcancel : .cancelWait index ∉ before ++ move :: after) :
    ∃ wait, ((start behaviours).play (before ++ move :: after)).waits[index]? = some wait ∧
      wait.stage = .finished (.failed fault) := by
  rw [List.mem_append, List.mem_cons, not_or, not_or] at hcancel
  have hheeds := h.heeds fun wait hwait =>
    Bool.eq_false_iff.mpr fun hcancelling => hcancel.1 (mem_of_cancelling hwait hcancelling)
  have hplayed := hheeds.play hcancel.2.2
  rw [← play_cons, ← play_append] at hplayed
  exact hplayed.of_idle (play_isCovered behaviours _) hidle htask hfailed

/-! ## Mounts and their bootstraps -/

theorem mount_of_current? {gate task : Nat} (h : loop.current? gate = some task) :
    loop.mount gate = (task, loop) := by
  unfold current? at h
  unfold mount
  rw [h]

/-- Mounts and their bootstraps over all runs. Once nothing is due there was one bootstrap call for
each mount of an unmounted gate, except for tasks that were cancelled before they ran, and there is
one error record for each failed bootstrap. Without cancellation there is no exception. Mounting a
mounted gate returns its task and starts nothing. A gate that was mounted with a task that fails gets
ready only after it was unmounted and mounted again, and every wait on that mount fails with the task,
unless the wait is cancelled. -/
theorem bootstrap_of_mount (behaviours : List Behaviour) :
    (∀ moves, ((start behaviours).play moves).queue = [] →
      ((start behaviours).play moves).calls + (start behaviours).tally forestalls moves =
          (start behaviours).tally mountsAfresh moves ∧
        errors ((start behaviours).play moves).events =
          ((start behaviours).play moves).tasks.countP Task.hasFailed) ∧
    (∀ operations : List Operation, (start behaviours).tally forestalls (operations.map .ordinary) = 0) ∧
    (∀ moves gate task, ((start behaviours).play moves).current? gate = some task →
      ((start behaviours).play moves).mount gate = (task, (start behaviours).play moves)) ∧
    (∀ before middle after gate task t fault,
      ((start behaviours).play before).current? gate = some task →
        ((start behaviours).play (before ++ middle)).isReady gate = false →
          ((start behaviours).play (before ++ (middle ++ after))).isReady gate = true →
            ((start behaviours).play (before ++ (middle ++ after))).tasks[task]? = some t →
              t.stage = .finished (.failed fault) → Remounts gate (middle ++ after)) ∧
    (∀ before move after index task t fault,
      ((start behaviours).play before).Attends move index task →
        ((start behaviours).play (before ++ move :: after)).queue = [] →
          ((start behaviours).play (before ++ move :: after)).tasks[task]? = some t →
            t.stage = .finished (.failed fault) → .cancelWait index ∉ before ++ move :: after →
              ∃ wait, ((start behaviours).play (before ++ move :: after)).waits[index]? = some wait ∧
                wait.stage = .finished (.failed fault)) := by
  refine ⟨fun moves hidle => ?_, fun operations => ?_, fun _ _ _ => mount_of_current?, ?_,
    fun _ _ _ _ _ _ _ => failed_of_attends⟩
  · exact ⟨calls_of_idle hidle, errors_of_idle (play_isCovered behaviours moves) hidle⟩
  · exact tally_forestalls_ordinary (start_isUndisturbed behaviours) operations
  · intro before middle after gate task t fault hcurrent hclosed hopen htask hfailed
    rw [play_append] at hclosed hopen htask
    exact remounts_of_ready hcurrent hclosed hopen htask hfailed

/-- A mount that fails, with a wait on it, and another mount that opens the gate. -/
theorem bootstrap_of_two_mounts :
    let loop := start [⟨false, some (.raised "boom")⟩, ⟨false, none⟩]
    let mounting : List Move := [.ordinary .addGate, .ordinary (.mount 0)]
    let failing : List Move := [.ordinary (.waitFor 0), .ordinary (.turn 0), .ordinary (.turn 0),
      .ordinary (.turn 0)]
    let opening : List Move := [.ordinary (.unmount 0), .ordinary (.mount 0), .ordinary (.turn 0),
      .ordinary (.turn 0)]
    let final := loop.play (mounting ++ (failing ++ opening))
    (final.calls + loop.tally forestalls (mounting ++ (failing ++ opening)) =
        loop.tally mountsAfresh (mounting ++ (failing ++ opening)) ∧
      errors final.events = final.tasks.countP Task.hasFailed) ∧
    (loop.play mounting).mount 0 = (0, loop.play mounting) ∧ Remounts 0 (failing ++ opening) ∧
    ∃ wait, final.waits[0]? = some wait ∧ wait.stage = .finished (.failed (.raised "boom")) := by
  intro loop mounting failing opening final
  obtain ⟨hidle, -, hmounted, hready, hfailed⟩ :=
    bootstrap_of_mount [⟨false, some (.raised "boom")⟩, ⟨false, none⟩]
  have hcurrent : (loop.play mounting).current? 0 = some 0 := by decide
  have hqueue : final.queue = [] := by decide
  have htask : final.tasks[0]? = some ⟨0, .finished (.failed (.raised "boom")), false, []⟩ := by decide
  have hclosed : (loop.play (mounting ++ failing)).isReady 0 = false := by decide
  have hopen : final.isReady 0 = true := by decide
  have hattends : (loop.play (mounting ++ failing.take 2)).Attends (.ordinary (.turn 0)) 0 0 :=
    ⟨0, ⟨0, .created, false⟩, rfl, by decide, by decide, rfl, by decide⟩
  exact ⟨hidle _ hqueue, hmounted mounting 0 0 hcurrent,
    hready mounting failing opening 0 0 _ _ hcurrent hclosed hopen htask rfl,
    hfailed (mounting ++ failing.take 2) (.ordinary (.turn 0)) (.ordinary (.turn 0) :: opening) 0 0 _
      _ hattends hqueue htask rfl (by decide)⟩

/-- A task that is cancelled before it runs calls no bootstrap, and a wait that is cancelled does not
fail with the task it awaited. -/
theorem cancelled_before_bootstrap :
    let stopped : List Move := [.ordinary .addGate, .ordinary (.mount 0), .cancelTask 0,
      .ordinary (.turn 0), .ordinary (.turn 0)]
    let waiting : List Move := [.ordinary .addGate, .ordinary (.mount 0), .ordinary (.waitFor 0),
      .ordinary (.turn 0)]
    let failing : List Move := [.ordinary (.release 0), .ordinary (.turn 0), .cancelWait 0,
      .ordinary (.turn 0), .ordinary (.turn 0)]
    let quiet := start [⟨false, none⟩]
    let faulty := start [⟨true, some (.raised "boom")⟩]
    let loop := faulty.play (waiting ++ .ordinary (.turn 0) :: failing)
    ((quiet.play stopped).queue = [] ∧ quiet.tally mountsAfresh stopped = 1 ∧
      (quiet.play stopped).calls = 0) ∧
    (faulty.play waiting).Attends (.ordinary (.turn 0)) 0 0 ∧ loop.queue = [] ∧
      loop.tasks[0]? = some ⟨0, .finished (.failed (.raised "boom")), false, [0]⟩ ∧
      loop.waits[0]? = some ⟨0, .finished .cancelled, true⟩ :=
  ⟨by decide, ⟨0, ⟨0, .created, false⟩, rfl, by decide, by decide, rfl, by decide⟩, by decide,
    by decide, by decide⟩

end Loop

end Registrar.Gate
