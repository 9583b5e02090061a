import Registrar.Proofs.Gate.Run

/-! # One step of the event loop

What an operation or a turn of the loop does to the gates, the waits and the
tasks. The invariant relates them: what a gate or a wait names as its task was
started for that very gate.
-/

namespace Registrar.Gate.Loop

variable {loop : Loop}

/-- What is due carries the completion of a task to a gate: the delivery of the
task, or a wait for the gate that hears from the task. -/
inductive Carries (loop : Loop) (gate task : Nat) : Due → Prop
  | delivery : Carries loop gate task (.delivery task)
  | wait (index : Nat) (wait : Wait) : loop.waits[index]? = some wait → wait.gate = gate →
      loop.heard? wait = some task → Carries loop gate task (.wait index)

/-- What is due hands the completion of a task to the gate the task serves, while
the task is the one of the gate's current mount. -/
structure Opens (loop : Loop) (due : Due) (gate task : Nat) : Prop where
  current : loop.current? gate = some task
  completed : ∃ t, loop.tasks[task]? = some t ∧ t.gate = gate ∧ t.stage = .finished .completed
  carried : loop.Carries gate task due

/-- An operation is a turn that hands a completion to a gate. -/
def Delivers (loop : Loop) (operation : Operation) (gate task : Nat) : Prop :=
  ∃ place due, operation = .turn place ∧ loop.queue[place]? = some due ∧
    loop.Opens due gate task

/-- The invariant of runs without cancellation. -/
structure Coherent (loop : Loop) : Prop where
  mounted : ∀ (gate task : Nat), loop.current? gate = some task → loop.Serves task gate
  awaited : ∀ (index task : Nat) (wait : Wait), loop.waits[index]? = some wait → wait.stage = .awaiting task →
    loop.Serves task wait.gate
  undisturbed : ∀ (index : Nat) (wait : Wait), loop.waits[index]? = some wait → wait.cancelling = false

theorem heard_cases {wait : Wait} {task : Nat} (h : loop.heard? wait = some task) :
    loop.current? wait.gate = some task ∨ wait.stage = .awaiting task := by
  unfold heard? at h
  cases hstage : wait.stage with
  | created => exact .inl (by simpa [hstage] using h)
  | awaiting other => exact .inr (by simpa [hstage] using h)
  | finished outcome => simp [hstage] at h

theorem Coherent.heard {index task : Nat} {wait : Wait} (h : loop.Coherent)
    (hwait : loop.waits[index]? = some wait) (hheard : loop.heard? wait = some task) :
    loop.Serves task wait.gate := by
  rcases heard_cases hheard with hcurrent | hawaiting
  · exact h.mounted _ _ hcurrent
  · exact h.awaited _ _ _ hwait hawaiting

/-- The queue does not matter to the invariant. -/
theorem Coherent.of_queue (h : loop.Coherent) (queue : List Due) :
    Coherent { loop with queue } :=
  ⟨h.mounted, h.awaited, h.undisturbed⟩

theorem start_coherent (behaviours : List Behaviour) : (start behaviours).Coherent where
  mounted gate task h := by simp [current?, start] at h
  awaited index task wait h := by simp [start] at h
  undisturbed index wait h := by simp [start] at h

/-! ## One turn -/

theorem isReady_makeReady (gate other : Nat) :
    (loop.makeReady gate).isReady other = true ↔
      loop.isReady other = true ∨ gate = other ∧ loop.doors[gate]?.isSome := by
  unfold makeReady isReady
  rw [List.getElem?_modify]
  by_cases h : gate = other
  · subst other
    cases loop.doors[gate]? <;> simp
  · simp [h]

theorem current?_makeReady (gate other : Nat) :
    (loop.makeReady gate).current? other = loop.current? other := by
  unfold makeReady current?
  rw [List.getElem?_modify]
  by_cases h : gate = other
  · subst other
    cases loop.doors[gate]? <;> simp
  · simp [h]

theorem door_of_current? {gate task : Nat} (h : loop.current? gate = some task) :
    loop.doors[gate]?.isSome := by
  unfold current? at h
  cases hd : loop.doors[gate]? with
  | none => simp [hd] at h
  | some door => rfl

theorem runWait_of_heard {index task : Nat} {wait : Wait} (hcancel : wait.cancelling = false)
    (hheard : loop.heard? wait = some task) :
    loop.runWait index wait = loop.await index wait task := by
  unfold heard? current? at hheard
  unfold runWait
  cases hs : wait.stage with
  | created =>
    rw [hs] at hheard
    dsimp only at hheard
    simp [hcancel, hheard]
  | awaiting other =>
    rw [hs] at hheard
    cases hheard
    simp [hcancel]
  | finished outcome =>
    rw [hs] at hheard
    cases hheard

/-- A wait that hears from no task is over, or learns that its gate is not mounted. -/
theorem runWait_of_unheard {index : Nat} {wait : Wait} (hcancel : wait.cancelling = false)
    (hheard : loop.heard? wait = none) :
    loop.runWait index wait = loop ∨
      loop.runWait index wait = loop.finishWait index (.failed .unmounted) := by
  unfold heard? current? at hheard
  unfold runWait
  cases hs : wait.stage with
  | created =>
    rw [hs] at hheard
    dsimp only at hheard
    right
    simp [hcancel, hheard]
  | awaiting other =>
    rw [hs] at hheard
    cases hheard
  | finished outcome => exact .inl rfl

/-- What one run makes of the stage of a wait. -/
inductive Advances (loop : Loop) (wait : Wait) : WaitStage → Prop
  | unmounted : loop.heard? wait = none → Advances loop wait (.finished (.failed .unmounted))
  | awaits (task : Nat) : loop.heard? wait = some task → Advances loop wait (.awaiting task)
  | concludes (task : Nat) (t : Task) (outcome : Outcome) : loop.heard? wait = some task →
      loop.tasks[task]? = some t → t.stage = .finished outcome →
      Advances loop wait (.finished outcome)

theorem advances_of_queue {queue : List Due} {wait : Wait} {stage : WaitStage}
    (h : { loop with queue }.Advances wait stage) : loop.Advances wait stage := by
  cases h with
  | unmounted hheard => exact .unmounted hheard
  | awaits task hheard => exact .awaits task hheard
  | concludes task t outcome hheard ht hs => exact .concludes task t outcome hheard ht hs

theorem getElem?_modify_cases {α : Type} {entries : List α} {change : α → α} {index other : Nat}
    {after : α} (h : (entries.modify index change)[other]? = some after) :
    other ≠ index ∧ entries[other]? = some after ∨
      other = index ∧ ∃ before, entries[index]? = some before ∧ after = change before := by
  rw [List.getElem?_modify] at h
  by_cases hi : index = other
  · subst other
    cases hentry : entries[index]? with
    | none => simp [hentry] at h
    | some before => exact .inr ⟨rfl, before, rfl, by simpa [hentry, eq_comm] using h⟩
  · exact .inl ⟨Ne.symm hi, by simpa [hi] using h⟩

/-- The waits after a wait ran: only that one is in another stage. -/
theorem getElem?_runWait {index other : Nat} {wait after : Wait}
    (hwait : loop.waits[index]? = some wait) (hcancel : wait.cancelling = false)
    (h : (loop.runWait index wait).waits[other]? = some after) :
    loop.waits[other]? = some after ∨ other = index ∧
      ∃ stage, loop.Advances wait stage ∧ after = { wait with stage } := by
  have change (stage : WaitStage) (hstage : loop.Advances wait stage)
      (h : (loop.modifyWait index fun wait => { wait with stage }).waits[other]? = some after) :
      loop.waits[other]? = some after ∨ other = index ∧
        ∃ stage, loop.Advances wait stage ∧ after = { wait with stage } := by
    rcases getElem?_modify_cases h with ⟨-, h⟩ | ⟨hi, wait', hwait', rfl⟩
    · exact .inl h
    · rw [hwait] at hwait'
      cases hwait'
      exact .inr ⟨hi, stage, hstage, rfl⟩
  cases hheard : loop.heard? wait with
  | none =>
    rcases runWait_of_unheard hcancel hheard with heq | heq
    · rw [heq] at h
      exact .inl h
    · rw [heq] at h
      exact change _ (.unmounted hheard) h
  | some task =>
    rw [runWait_of_heard hcancel hheard] at h
    unfold await at h
    split at h
    next outcome _ _ ht =>
      refine change _ (.concludes task _ outcome hheard ht rfl) ?_
      unfold conclude at h
      dsimp only at h
      split at h <;> exact h
    next => exact change _ (.awaits task hheard) h

theorem await_doors (index : Nat) (wait : Wait) (task : Nat) :
    (loop.await index wait task).doors = loop.doors ∨
      (loop.await index wait task).doors = (loop.makeReady wait.gate).doors := by
  unfold await
  split
  · unfold conclude
    dsimp only
    split
    · exact .inr rfl
    · exact .inl rfl
  · exact .inl rfl

/-- A delivery does nothing, reports something, or opens the gate of the task. -/
theorem deliver_cases (index : Nat) (t : Task) :
    loop.deliver index t = loop ∨ (∃ event, loop.deliver index t = loop.report event) ∨
      loop.deliver index t = loop.makeReady t.gate := by
  unfold deliver
  split
  · exact .inr (.inl ⟨_, rfl⟩)
  · split
    · exact .inr (.inr rfl)
    · exact .inr (.inl ⟨_, rfl⟩)
  · exact .inl rfl

/-- A wait that runs does nothing, ends, or awaits a task. -/
theorem runWait_cases (index : Nat) (wait : Wait) :
    loop.runWait index wait = loop ∨
      (∃ outcome, loop.runWait index wait = loop.finishWait index outcome) ∨
        ∃ task, loop.runWait index wait = loop.await index wait task := by
  unfold runWait
  split
  · exact .inl rfl
  · split
    · exact .inr (.inl ⟨_, rfl⟩)
    · split
      · exact .inr (.inr ⟨_, rfl⟩)
      · exact .inr (.inr ⟨_, rfl⟩)
      · exact .inr (.inl ⟨_, rfl⟩)

/-- Running what is due opens a gate or leaves all gates alone. -/
theorem perform_doors (due : Due) :
    (loop.perform due).doors = loop.doors ∨
      ∃ gate, (loop.perform due).doors = (loop.makeReady gate).doors := by
  cases due with
  | task index =>
    left
    simp only [perform]
    cases loop.tasks[index]? with
    | none => rfl
    | some t => exact runTask_doors loop index t
  | delivery index =>
    simp only [perform]
    cases loop.tasks[index]? with
    | none => exact .inl rfl
    | some t =>
      rw [Option.elim_some]
      rcases loop.deliver_cases index t with h | ⟨event, h⟩ | h <;> rw [h]
      · exact .inl rfl
      · exact .inl rfl
      · exact .inr ⟨t.gate, rfl⟩
  | wait index =>
    simp only [perform]
    cases loop.waits[index]? with
    | none => exact .inl rfl
    | some wait =>
      rw [Option.elim_some]
      rcases loop.runWait_cases index wait with h | ⟨outcome, h⟩ | ⟨task, h⟩ <;> rw [h]
      · exact .inl rfl
      · exact .inl rfl
      · exact (loop.await_doors index wait task).imp_right fun hdoors => ⟨wait.gate, hdoors⟩

/-- Opening a gate on behalf of the task of its current mount. -/
theorem isReady_makeReady_of_current {gate task : Nat} (h : loop.current? gate = some task)
    (other : Nat) :
    (loop.makeReady gate).isReady other = true ↔ loop.isReady other = true ∨ gate = other := by
  rw [isReady_makeReady]
  simp [door_of_current? h]

theorem isReady_deliver (index : Nat) (t : Task) (gate : Nat) :
    (loop.deliver index t).isReady gate = true ↔ loop.isReady gate = true ∨
      t.stage = .finished .completed ∧ loop.current? t.gate = some index ∧ t.gate = gate := by
  unfold deliver
  split
  next hs => simp [hs]; rfl
  next hs =>
    by_cases hc : loop.current? t.gate = some index
    · rw [if_pos ((isCurrent_iff ..).mpr hc), isReady_makeReady_of_current hc]
      simp [hs, hc]
    · rw [if_neg (fun h => hc ((isCurrent_iff ..).mp h))]
      simp [hc]
      rfl
  next _ hs => exact ⟨.inl, fun h => h.elim id fun h => absurd h.1 hs⟩

theorem isReady_conclude (index : Nat) (wait : Wait) (task : Nat) (outcome : Outcome)
    (gate : Nat) :
    (loop.conclude index wait task outcome).isReady gate = true ↔ loop.isReady gate = true ∨
      outcome = .completed ∧ loop.current? wait.gate = some task ∧ wait.gate = gate := by
  unfold conclude
  dsimp only
  by_cases ho : outcome = .completed
  · by_cases hc : loop.current? wait.gate = some task
    · have hfinish : (loop.finishWait index outcome).current? wait.gate = some task := hc
      rw [if_pos (by simp [ho, (isCurrent_iff ..).mpr (ho ▸ hfinish)]),
        isReady_makeReady_of_current hfinish]
      simp only [ho, hc, true_and]
      rfl
    · have hfinish : ¬(loop.finishWait index outcome).isCurrent wait.gate task = true :=
        fun h => hc ((isCurrent_iff ..).mp h)
      rw [if_neg (by simp [hfinish])]
      simp only [hc, false_and, and_false, or_false]
      rfl
  · rw [if_neg (by simp [ho])]
    simp only [ho, false_and, or_false]
    rfl

theorem isReady_await (index : Nat) (wait : Wait) (task gate : Nat) :
    (loop.await index wait task).isReady gate = true ↔ loop.isReady gate = true ∨
      (∃ t, loop.tasks[task]? = some t ∧ t.stage = .finished .completed) ∧
        loop.current? wait.gate = some task ∧ wait.gate = gate := by
  unfold await
  split
  next outcome _ _ ht =>
    rw [isReady_conclude]
    simp [ht]
  next hpending =>
    refine ⟨.inl, fun h => h.elim id fun ⟨⟨t, ht, hs⟩, _⟩ => ?_⟩
    obtain ⟨owner, stage, cancelling, awaitedBy⟩ := t
    cases hs
    exact absurd ht (hpending _ _ _ _)

/-! ## One step -/

theorem current?_congr {other : Loop} (h : other.doors = loop.doors) (gate : Nat) :
    other.current? gate = loop.current? gate := by
  unfold current?
  rw [h]

theorem isReady_congr {other : Loop} (h : other.doors = loop.doors) (gate : Nat) :
    other.isReady gate = loop.isReady gate := by
  unfold isReady
  rw [h]

theorem getElem?_addGate (loop : Loop) (gate : Nat) :
    loop.addGate.2.doors[gate]? = loop.doors[gate]? ∨
      loop.doors[gate]? = none ∧ loop.addGate.2.doors[gate]? = some ⟨false, none⟩ := by
  change (loop.doors ++ [_])[gate]? = _ ∨ _ ∧ (loop.doors ++ [_])[gate]? = _
  rcases Nat.lt_trichotomy gate loop.doors.length with h | rfl | h
  · exact .inl (List.getElem?_append_left h)
  · exact .inr (by simp)
  · exact .inl (by rw [List.getElem?_eq_none (by simp; omega), List.getElem?_eq_none (Nat.le_of_lt h)])

/-- Only mounting and unmounting a gate change the task of its mount. -/
theorem current?_step (operation : Operation) (gate : Nat) :
    (loop.step operation).current? gate = loop.current? gate ∨
      operation = .mount gate ∧ loop.current? gate = none ∧
        (loop.step operation).current? gate = some loop.tasks.length ∨
      operation = .unmount gate ∧ (loop.step operation).current? gate = none := by
  cases operation with
  | addGate =>
    left
    simp only [step, current?]
    rcases getElem?_addGate loop gate with h | ⟨hnone, hsome⟩
    · rw [h]
    · rw [hnone, hsome]
      rfl
  | mount other =>
    simp only [step, mount]
    cases hc : (loop.doors[other]?).bind (·.task?) with
    | some task => exact .inl rfl
    | none =>
      by_cases hg : other = gate
      · subst other
        cases hd : loop.doors[gate]? with
        | none => exact .inl (by simp [current?, hd])
        | some door =>
          exact .inr (.inl ⟨rfl, hc, by simp [current?, hd]⟩)
      · exact .inl (by simp [current?, hg])
  | unmount other =>
    by_cases hg : other = gate
    · subst other
      refine .inr (.inr ⟨rfl, ?_⟩)
      simp only [step, unmount, current?, List.getElem?_modify]
      cases loop.doors[gate]? <;> simp
    · exact .inl (by simp [step, unmount, current?, hg])
  | waitFor other => exact .inl rfl
  | release call => exact .inl (current?_congr (release_doors loop call) gate)
  | turn place =>
    left
    simp only [step, runAt]
    split
    next due _ =>
      let rest := { loop with queue := loop.queue.eraseIdx place }
      rcases rest.perform_doors due with h | ⟨other, h⟩
      · exact current?_congr h gate
      · exact (current?_congr h gate).trans (current?_makeReady other gate)
    next => rfl

theorem current?_turn (place gate : Nat) :
    (loop.step (.turn place)).current? gate = loop.current? gate := by
  rcases loop.current?_step (.turn place) gate with h | ⟨h, -⟩ | ⟨h, -⟩
  · exact h
  · cases h
  · cases h

theorem not_opens_task {index gate task : Nat} : ¬loop.Opens (.task index) gate task := by
  intro ho
  cases ho.carried

/-- A delivery opens the gate of a completed task that is the one of its current mount. -/
theorem opens_delivery_iff {index gate : Nat} :
    (∃ task, loop.Opens (.delivery index) gate task) ↔
      ∃ t, loop.tasks[index]? = some t ∧ t.stage = .finished .completed ∧
        loop.current? t.gate = some index ∧ t.gate = gate := by
  constructor
  · rintro ⟨task, hcurrent, ⟨t, ht, rfl, hstage⟩, hcarried⟩
    cases hcarried
    exact ⟨t, ht, hstage, hcurrent, rfl⟩
  · rintro ⟨t, ht, hstage, hcurrent, rfl⟩
    exact ⟨index, hcurrent, ⟨t, ht, rfl, hstage⟩, .delivery⟩

/-- A wait opens its gate when it hears that the task of the current mount completed. -/
theorem opens_wait_iff (h : loop.Coherent) {index gate : Nat} :
    (∃ task, loop.Opens (.wait index) gate task) ↔
      ∃ wait task, loop.waits[index]? = some wait ∧ loop.heard? wait = some task ∧
        (∃ t, loop.tasks[task]? = some t ∧ t.stage = .finished .completed) ∧
          loop.current? wait.gate = some task ∧ wait.gate = gate := by
  constructor
  · rintro ⟨task, hcurrent, ⟨t, ht, -, hstage⟩, hcarried⟩
    cases hcarried with
    | wait _ wait hwait hgate hheard =>
      subst gate
      exact ⟨wait, task, hwait, hheard, ⟨t, ht, hstage⟩, hcurrent, rfl⟩
  · rintro ⟨wait, task, hwait, hheard, ⟨t, ht, hstage⟩, hcurrent, rfl⟩
    have hserves := h.heard hwait hheard
    rw [Serves, ht] at hserves
    exact ⟨task, hcurrent, ⟨t, ht, Option.some.inj hserves, hstage⟩,
      .wait index wait hwait rfl hheard⟩

theorem isReady_runWait (h : loop.Coherent) {index : Nat} {wait : Wait}
    (hwait : loop.waits[index]? = some wait) (gate : Nat) :
    (loop.runWait index wait).isReady gate = true ↔ loop.isReady gate = true ∨
      ∃ task, loop.heard? wait = some task ∧
        (∃ t, loop.tasks[task]? = some t ∧ t.stage = .finished .completed) ∧
          loop.current? wait.gate = some task ∧ wait.gate = gate := by
  have hcancel := h.undisturbed index wait hwait
  cases hheard : loop.heard? wait with
  | none =>
    have hquiet : (loop.runWait index wait).isReady gate = loop.isReady gate := by
      rcases loop.runWait_of_unheard hcancel hheard with heq | heq <;> rw [heq]
      rfl
    simp [hquiet]
  | some task =>
    rw [runWait_of_heard hcancel hheard, isReady_await]
    simp

/-- What is due makes a gate ready exactly when it opens it. -/
theorem isReady_perform (h : loop.Coherent) (due : Due) (gate : Nat) :
    (loop.perform due).isReady gate = true ↔
      loop.isReady gate = true ∨ ∃ task, loop.Opens due gate task := by
  cases due with
  | task index =>
    have hdoors : (loop.perform (.task index)).doors = loop.doors := by
      simp only [perform]
      cases loop.tasks[index]? with
      | none => rfl
      | some t => exact runTask_doors _ index t
    simp [isReady_congr hdoors, not_opens_task]
  | delivery index =>
    rw [opens_delivery_iff, perform]
    cases ht : loop.tasks[index]? with
    | none => simp
    | some t =>
      rw [Option.elim_some, isReady_deliver]
      simp
  | wait index =>
    rw [opens_wait_iff h, perform]
    cases hwait : loop.waits[index]? with
    | none => simp
    | some wait =>
      rw [Option.elim_some, isReady_runWait h hwait]
      simp

/-- The rest of the queue does not matter to what one entry does. -/
theorem opens_of_queue {queue : List Due} {due : Due} {gate task : Nat} :
    { loop with queue }.Opens due gate task ↔ loop.Opens due gate task := by
  constructor <;> rintro ⟨hc, ht, hcarried⟩ <;> refine ⟨hc, ht, ?_⟩ <;> cases hcarried with
  | delivery => exact .delivery
  | wait index wait hw hgate hheard => exact .wait index wait hw hgate hheard

theorem delivers_turn_iff {place gate : Nat} :
    (∃ task, loop.Delivers (.turn place) gate task) ↔
      ∃ due, loop.queue[place]? = some due ∧ ∃ task, loop.Opens due gate task := by
  constructor
  · rintro ⟨task, _, due, hturn, hdue, hopens⟩
    cases hturn
    exact ⟨due, hdue, task, hopens⟩
  · rintro ⟨due, hdue, task, hopens⟩
    exact ⟨task, place, due, rfl, hdue, hopens⟩

/-- Only a turn of the loop makes a gate ready. -/
theorem isReady_step_of_ne_turn {operation : Operation} (h : ∀ place, operation ≠ .turn place)
    (gate : Nat) : (loop.step operation).isReady gate = loop.isReady gate := by
  cases operation with
  | addGate =>
    simp only [step, isReady]
    rcases getElem?_addGate loop gate with h | ⟨hnone, hsome⟩
    · rw [h]
    · rw [hnone, hsome]
      rfl
  | mount other =>
    simp only [step, mount]
    cases (loop.doors[other]?).bind (·.task?) with
    | some task => rfl
    | none =>
      simp only [isReady, schedule_doors, List.getElem?_modify]
      cases loop.doors[gate]? <;> by_cases hg : other = gate <;> simp [hg]
  | unmount other =>
    simp only [step, unmount, isReady, List.getElem?_modify]
    cases loop.doors[gate]? <;> by_cases hg : other = gate <;> simp [hg]
  | waitFor other => rfl
  | release call => exact isReady_congr (release_doors loop call) gate
  | turn place => exact absurd rfl (h place)

/-- A step makes a gate ready exactly when it hands the gate a completion. -/
theorem isReady_step_iff (h : loop.Coherent) (operation : Operation) (gate : Nat) :
    (loop.step operation).isReady gate = true ↔
      loop.isReady gate = true ∨ ∃ task, loop.Delivers operation gate task := by
  by_cases hturn : ∃ place, operation = .turn place
  · obtain ⟨place, rfl⟩ := hturn
    rw [delivers_turn_iff]
    simp only [step, runAt]
    cases loop.queue[place]? with
    | none => simp
    | some due =>
      refine (isReady_perform (h.of_queue _) due gate).trans (or_congr_right ?_)
      simp [opens_of_queue]
  · rw [isReady_step_of_ne_turn (not_exists.mp hturn)]
    exact ⟨.inl, fun h => h.elim id fun ⟨_, place, _, he, _⟩ => absurd ⟨place, he⟩ hturn⟩

/-- What is due leaves a wait alone or runs it. -/
theorem getElem?_waits_perform (h : loop.Coherent) (due : Due) {index : Nat} {after : Wait}
    (hafter : (loop.perform due).waits[index]? = some after) :
    loop.waits[index]? = some after ∨
      ∃ wait stage, due = .wait index ∧ loop.waits[index]? = some wait ∧
        loop.Advances wait stage ∧ after = { wait with stage } := by
  cases due with
  | task other =>
    simp only [perform] at hafter
    cases ht : loop.tasks[other]? with
    | none => exact .inl (by simpa [ht] using hafter)
    | some t => exact .inl (by simpa [ht] using hafter)
  | delivery other =>
    simp only [perform] at hafter
    cases ht : loop.tasks[other]? with
    | none => exact .inl (by simpa [ht] using hafter)
    | some t =>
      rw [ht, Option.elim_some] at hafter
      rcases loop.deliver_cases other t with heq | ⟨event, heq⟩ | heq <;> rw [heq] at hafter <;>
        exact .inl hafter
  | wait other =>
    simp only [perform] at hafter
    cases hwait : loop.waits[other]? with
    | none => exact .inl (by simpa [hwait] using hafter)
    | some wait =>
      rw [hwait, Option.elim_some] at hafter
      rcases getElem?_runWait hwait (h.undisturbed other wait hwait) hafter with
        hsame | ⟨rfl, stage, hadvances, rfl⟩
      · exact .inl hsame
      · exact .inr ⟨wait, stage, rfl, hwait, hadvances, rfl⟩

/-- A step leaves a wait alone, starts it, or runs it. -/
theorem getElem?_waits_step (h : loop.Coherent) (operation : Operation) {index : Nat}
    {after : Wait} (hafter : (loop.step operation).waits[index]? = some after) :
    loop.waits[index]? = some after ∨
      (∃ gate, operation = .waitFor gate ∧ after = ⟨gate, .created, false⟩) ∨
      ∃ place wait stage, operation = .turn place ∧ loop.queue[place]? = some (.wait index) ∧
        loop.waits[index]? = some wait ∧ loop.Advances wait stage ∧
        after = { wait with stage } := by
  cases operation with
  | addGate => exact .inl hafter
  | mount gate =>
    simp only [step, mount] at hafter
    cases hc : (loop.doors[gate]?).bind (·.task?) with
    | some task => exact .inl (by simpa [hc] using hafter)
    | none => exact .inl (by simpa [hc] using hafter)
  | unmount gate => exact .inl hafter
  | waitFor gate =>
    change (loop.waits ++ [_])[index]? = some after at hafter
    rcases Nat.lt_trichotomy index loop.waits.length with hi | rfl | hi
    · exact .inl (by rwa [List.getElem?_append_left hi] at hafter)
    · exact .inr (.inl ⟨gate, rfl, by simpa [eq_comm] using hafter⟩)
    · rw [List.getElem?_eq_none (by simp; omega)] at hafter
      cases hafter
  | release call => exact .inl (by simpa [step] using hafter)
  | turn place =>
    simp only [step, runAt] at hafter
    cases hq : loop.queue[place]? with
    | none => exact .inl (by simpa [hq] using hafter)
    | some due =>
      rw [hq] at hafter
      rcases getElem?_waits_perform (h.of_queue _) due hafter with
        hsame | ⟨wait, stage, rfl, hwait, hadvances, rfl⟩
      · exact .inl hsame
      · exact .inr (.inr
          ⟨place, wait, stage, rfl, hq, hwait, advances_of_queue hadvances, rfl⟩)

/-! ## Tasks and what they keep -/

section

variable {α : Type} {f : Task → α}

theorem modifyTask_map (task : Nat) {change : Task → Task} (h : ∀ t, f (change t) = f t) :
    (loop.modifyTask task change).tasks.map f = loop.tasks.map f := by
  change (loop.tasks.modify task change).map f = _
  ext index kept
  rw [List.getElem?_map, List.getElem?_map, List.getElem?_modify]
  by_cases hi : task = index <;> cases loop.tasks[index]? <;> simp [hi, h]

variable (hf : ∀ task stage awaitedBy, f { task with stage, awaitedBy } = f task)

include hf

theorem await_map (index : Nat) (wait : Wait) (task : Nat) :
    (loop.await index wait task).tasks.map f = loop.tasks.map f := by
  unfold await conclude
  split
  · dsimp only
    split_ifs <;> rfl
  · exact modifyTask_map task fun _ => hf _ _ _

theorem runTask_map (index : Nat) (t : Task) :
    (loop.runTask index t).tasks.map f = loop.tasks.map f := by
  unfold runTask finishTask
  split
  · dsimp only
    split_ifs <;> exact modifyTask_map index fun _ => hf _ _ _
  · split_ifs <;> exact modifyTask_map index fun _ => hf _ _ _
  · rfl

theorem perform_map (due : Due) : (loop.perform due).tasks.map f = loop.tasks.map f := by
  cases due with
  | task index =>
    simp only [perform]
    cases loop.tasks[index]? with
    | none => rfl
    | some t => exact runTask_map hf index t
  | delivery index =>
    simp only [perform]
    cases loop.tasks[index]? with
    | none => rfl
    | some t =>
      rw [Option.elim_some]
      rcases loop.deliver_cases index t with h | ⟨event, h⟩ | h <;> rw [h] <;> rfl
  | wait index =>
    simp only [perform]
    cases loop.waits[index]? with
    | none => rfl
    | some wait =>
      rw [Option.elim_some]
      rcases loop.runWait_cases index wait with h | ⟨outcome, h⟩ | ⟨task, h⟩ <;> rw [h]
      · rfl
      · exact await_map hf index wait task

end

/-- The gate for which an operation starts a task, if it does. -/
def started (loop : Loop) : Operation → List Nat
  | .mount gate => if loop.current? gate = none then [gate] else []
  | _ => []

/-- Tasks keep all but their stages and those that await them; only a mount of an unmounted gate
starts one more. -/
theorem step_map {α : Type} {f : Task → α}
    (hf : ∀ task stage awaitedBy, f { task with stage, awaitedBy } = f task) (operation : Operation) :
    (loop.step operation).tasks.map f = loop.tasks.map f ++
      (loop.started operation).map fun gate => f ⟨gate, .created, false, []⟩ := by
  cases operation with
  | addGate => simp [started, step, addGate]
  | mount gate =>
    unfold step mount started current?
    cases hc : (loop.doors[gate]?).bind (·.task?) with
    | some task => simp [hc]
    | none => simp [hc]
  | unmount gate => simp [started, step, unmount]
  | waitFor gate => simp [started, step, waitFor]
  | release call =>
    simp only [step, release, started, List.map_nil, List.append_nil]
    split
    · exact modifyTask_map _ (fun _ => hf _ _ _)
    · rfl
  | turn place =>
    simp only [step, runAt, started, List.map_nil, List.append_nil]
    split
    · exact perform_map hf _
    · rfl

theorem step_gates (operation : Operation) :
    (loop.step operation).tasks.map Task.gate =
      loop.tasks.map Task.gate ++ loop.started operation := by
  rw [step_map fun _ _ _ => rfl, List.map_id']

theorem serves_iff {task gate : Nat} :
    loop.Serves task gate ↔ (loop.tasks.map Task.gate)[task]? = some gate := by
  rw [List.getElem?_map, Serves]

theorem Serves.step {task gate : Nat} (h : loop.Serves task gate) (operation : Operation) :
    (loop.step operation).Serves task gate := by
  rw [serves_iff] at h ⊢
  rw [step_gates, List.getElem?_append_left (List.getElem?_eq_some_iff.mp h).1, h]

/-- The invariant is kept by every step. -/
theorem Coherent.step (h : loop.Coherent) (operation : Operation) :
    (loop.step operation).Coherent where
  mounted gate task hcurrent := by
    rcases loop.current?_step operation gate with hsame | ⟨rfl, hnone, hsome⟩ | ⟨-, hnone⟩
    · exact (h.mounted gate task (hsame ▸ hcurrent)).step operation
    · rw [hsome] at hcurrent
      cases hcurrent
      rw [serves_iff, step_gates]
      simp [started, hnone]
    · rw [hnone] at hcurrent
      cases hcurrent
  awaited index task wait hwait hstage := by
    rcases getElem?_waits_step h operation hwait with
      hsame | ⟨gate, -, rfl⟩ | ⟨place, before, stage, -, -, hbefore, hadv, rfl⟩
    · exact (h.awaited index task wait hsame hstage).step operation
    · cases hstage
    · cases hstage
      cases hadv with
      | awaits _ hheard => exact (h.heard hbefore hheard).step operation
  undisturbed index wait hwait := by
    rcases getElem?_waits_step h operation hwait with
      hsame | ⟨gate, -, rfl⟩ | ⟨place, before, stage, -, -, hbefore, -, rfl⟩
    · exact h.undisturbed index wait hsame
    · rfl
    · exact h.undisturbed index before hbefore

end Registrar.Gate.Loop
