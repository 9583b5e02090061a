import Mathlib.Data.List.Induction
import Registrar.Proofs.Gate.Step

/-! # Readiness of gates

A gate is ready exactly when a task of one of its own mounts completed and the
completion reached the gate while that task was still the one of its mount.
-/

namespace Registrar.Gate.Loop

variable {behaviours : List Behaviour}

theorem run_coherent (operations : List Operation) :
    ((start behaviours).run operations).Coherent := by
  induction operations using List.reverseRecOn with
  | nil => exact start_coherent behaviours
  | append_singleton operations operation ih =>
    rw [run_concat]
    exact ih.step operation

/-- A task was started by a mount of a gate: the gate was not mounted, and the
task was the next one. -/
def StartedBy (behaviours : List Behaviour) (operations : List Operation) (gate task : Nat) : Prop :=
  ∃ before after, operations = before ++ .mount gate :: after ∧
    ((start behaviours).run before).current? gate = none ∧
    task = ((start behaviours).run before).tasks.length

/-- Every task of a run was started by a mount of the gate it serves. -/
theorem startedBy_of_serves {operations : List Operation} {gate task : Nat}
    (h : ((start behaviours).run operations).Serves task gate) :
    StartedBy behaviours operations gate task := by
  induction operations using List.reverseRecOn with
  | nil => simp [Serves, start] at h
  | append_singleton operations operation ih =>
    rw [run_concat, serves_iff, step_gates] at h
    rcases Nat.lt_or_ge task ((start behaviours).run operations).tasks.length with hlt | hge
    · rw [List.getElem?_append_left (by simpa using hlt), ← serves_iff] at h
      obtain ⟨before, after, rfl, hnone, htask⟩ := ih h
      exact ⟨before, after ++ [operation], by simp, hnone, htask⟩
    · rw [List.getElem?_append_right (by simpa using hge), List.length_map] at h
      cases operation with
      | mount other =>
        simp only [started] at h
        split at h
        next hnone =>
          rw [List.getElem?_singleton] at h
          split at h
          next hi =>
            cases h
            exact ⟨operations, [], rfl, hnone, by omega⟩
          next => cases h
        next => simp at h
      | _ => simp [started] at h

theorem isReady_append {operations : List Operation} {gate : Nat}
    (h : ((start behaviours).run operations).isReady gate = true) (more : List Operation) :
    ((start behaviours).run (operations ++ more)).isReady gate = true := by
  induction more using List.reverseRecOn with
  | nil => simpa using h
  | append_singleton more operation ih =>
    rw [← List.append_assoc, run_concat]
    exact (isReady_step_iff (run_coherent _) operation gate).mpr (.inl ih)

/-- A gate is ready after a run when a completion was delivered to it on the way. -/
theorem isReady_run_iff (operations : List Operation) (gate : Nat) :
    ((start behaviours).run operations).isReady gate = true ↔
      ∃ before operation after task, operations = before ++ operation :: after ∧
        ((start behaviours).run before).Delivers operation gate task := by
  constructor
  · intro h
    induction operations using List.reverseRecOn with
    | nil => simp [isReady, start] at h
    | append_singleton operations operation ih =>
      rw [run_concat] at h
      rcases (isReady_step_iff (run_coherent _) operation gate).mp h with hready | ⟨task, hd⟩
      · obtain ⟨before, op, after, task, rfl, hd⟩ := ih hready
        exact ⟨before, op, after ++ [operation], task, by simp, hd⟩
      · exact ⟨operations, operation, [], task, rfl, hd⟩
  · rintro ⟨before, operation, after, task, rfl, hd⟩
    rw [List.append_cons]
    refine isReady_append ?_ after
    rw [run_concat]
    exact (isReady_step_iff (run_coherent _) operation gate).mpr (.inr ⟨task, hd⟩)

/-- A gate was unmounted while a wait for it was under way. -/
def UnmountedDuring (behaviours : List Behaviour) (operations : List Operation)
    (index gate : Nat) : Prop :=
  ∃ before after, operations = before ++ .unmount gate :: after ∧
    ∃ wait task, ((start behaviours).run before).waits[index]? = some wait ∧
      wait.stage = .awaiting task

theorem UnmountedDuring.append {operations : List Operation} {index gate : Nat}
    (h : UnmountedDuring behaviours operations index gate) (more : List Operation) :
    UnmountedDuring behaviours (operations ++ more) index gate := by
  obtain ⟨before, after, rfl, hwait⟩ := h
  exact ⟨before, after ++ more, by simp, hwait⟩

/-- A wait under way is for the task of the current mount, unless the gate was
unmounted since. -/
theorem current?_of_awaiting {operations : List Operation} {index task : Nat} {wait : Wait}
    (hwait : ((start behaviours).run operations).waits[index]? = some wait)
    (hstage : wait.stage = .awaiting task) :
    ((start behaviours).run operations).current? wait.gate = some task ∨
      UnmountedDuring behaviours operations index wait.gate := by
  induction operations using List.reverseRecOn generalizing wait with
  | nil => simp [start] at hwait
  | append_singleton operations operation ih =>
    rw [run_concat] at hwait ⊢
    have hcoherent : ((start behaviours).run operations).Coherent := run_coherent operations
    rcases getElem?_waits_step hcoherent operation hwait with
      hsame | ⟨gate, -, rfl⟩ | ⟨place, before, stage, rfl, -, hbefore, hadv, rfl⟩
    · rcases ih hsame hstage with hcurrent | hunmounted
      · rcases current?_step operation wait.gate with heq | ⟨-, hnone, -⟩ | ⟨rfl, -⟩
        · exact .inl (heq.trans hcurrent)
        · rw [hcurrent] at hnone
          cases hnone
        · exact .inr ⟨operations, [], rfl, wait, task, hsame, hstage⟩
      · exact .inr (hunmounted.append _)
    · cases hstage
    · cases hstage
      cases hadv with
      | awaits _ hheard =>
        rw [current?_turn]
        rcases heard_cases hheard with hcurrent | hawaiting
        · exact .inl hcurrent
        · exact (ih hbefore hawaiting).imp id (·.append _)

/-- A wait that returned left its gate ready, unless the gate was unmounted while
the wait was under way. -/
theorem isReady_of_returned {operations : List Operation} {index : Nat} {wait : Wait}
    (hwait : ((start behaviours).run operations).waits[index]? = some wait)
    (hstage : wait.stage = .finished .completed) :
    ((start behaviours).run operations).isReady wait.gate = true ∨
      UnmountedDuring behaviours operations index wait.gate := by
  induction operations using List.reverseRecOn generalizing wait with
  | nil => simp [start] at hwait
  | append_singleton operations operation ih =>
    rw [run_concat] at hwait
    have hcoherent : ((start behaviours).run operations).Coherent := run_coherent operations
    rcases getElem?_waits_step hcoherent operation hwait with
      hsame | ⟨gate, -, rfl⟩ | ⟨place, before, stage, rfl, hq, hbefore, hadv, rfl⟩
    · exact (ih hsame hstage).imp (isReady_append · [operation]) (·.append _)
    · cases hstage
    · cases hstage
      cases hadv with
      | concludes task t _ hheard ht hs =>
        -- The wait heard from the current task, or the gate was unmounted meanwhile.
        have hcurrent : ((start behaviours).run operations).current? before.gate = some task ∨
            UnmountedDuring behaviours operations index before.gate :=
          (heard_cases hheard).elim .inl (current?_of_awaiting hbefore)
        refine hcurrent.imp (fun hcurrent => ?_) (·.append _)
        have hopens : ∃ task, ((start behaviours).run operations).Opens (.wait index) before.gate task :=
          (opens_wait_iff hcoherent).mpr ⟨before, task, hbefore, hheard, ⟨t, ht, hs⟩, hcurrent, rfl⟩
        rw [run_concat]
        exact (isReady_step_iff hcoherent _ _).mpr
          (.inr (delivers_turn_iff.mpr ⟨.wait index, hq, hopens⟩))

/-- Readiness of gates over all runs. A gate is ready exactly when some task that
one of its own mounts started completed and its completion was delivered to the
gate while the task was the one of the current mount. A ready gate stays ready;
one that is not renders its fallback; and a wait that returned left its gate
ready, unless the gate was unmounted while the wait was under way. -/
theorem ready_iff_delivered (behaviours : List Behaviour) :
    (∀ operations gate, ((start behaviours).run operations).isReady gate = true ↔
      ∃ before operation after task, operations = before ++ operation :: after ∧
        StartedBy behaviours before gate task ∧
        ((start behaviours).run before).Delivers operation gate task) ∧
    (∀ operations more gate, ((start behaviours).run operations).isReady gate = true →
      ((start behaviours).run (operations ++ more)).isReady gate = true) ∧
    (∀ operations (content : Content) session,
      ((start behaviours).run operations).isReady content.gate = false →
        content.render ((start behaviours).run operations) session =
          (.ok content.fallback, session)) ∧
    (∀ operations index (wait : Wait),
      ((start behaviours).run operations).waits[index]? = some wait →
        wait.stage = .finished .completed →
          ((start behaviours).run operations).isReady wait.gate = true ∨
            UnmountedDuring behaviours operations index wait.gate) := by
  refine ⟨fun operations gate => ?_, fun _ more _ h => isReady_append h more, ?_,
    fun _ _ _ hwait hstage => isReady_of_returned hwait hstage⟩
  · rw [isReady_run_iff]
    constructor
    · rintro ⟨before, operation, after, task, rfl, hd⟩
      have ⟨_, _, _, _, ho⟩ := hd
      have hserves := (run_coherent before).mounted _ _ ho.current
      exact ⟨before, operation, after, task, rfl, startedBy_of_serves hserves, hd⟩
    · rintro ⟨before, operation, after, task, rfl, -, hd⟩
      exact ⟨before, operation, after, task, rfl, hd⟩
  · intro operations content session h
    unfold isReady at h
    unfold Content.render
    rw [h]
    rfl

/-- A wait that runs before the delivery of the task it awaits opens the gate,
and the gate stays open when it is unmounted. -/
theorem ready_through_wait :
    let operations : List Operation :=
      [.addGate, .mount 0, .waitFor 0, .turn 1, .turn 0, .turn 1]
    let loop := (start [⟨false, none⟩]).run operations
    (∃ before operation after task, operations = before ++ operation :: after ∧
      StartedBy [⟨false, none⟩] before 0 task ∧
      ((start [⟨false, none⟩]).run before).Delivers operation 0 task) ∧
    ((start [⟨false, none⟩]).run (operations ++ [.unmount 0])).isReady 0 = true ∧
    (⟨1, .text "loading", .null⟩ : Content).render loop .initial =
      (.ok (.text "loading"), .initial) ∧
    (loop.isReady 0 = true ∨ UnmountedDuring [⟨false, none⟩] operations 0 0) := by
  intro operations loop
  obtain ⟨hready, hstays, hfallback, hreturned⟩ := ready_iff_delivered [⟨false, none⟩]
  have hopen : loop.isReady 0 = true := by decide
  have hwait : loop.waits[0]? = some ⟨0, .finished .completed, false⟩ := by decide
  exact ⟨(hready operations 0).mp hopen, hstays operations [.unmount 0] 0 hopen,
    hfallback operations ⟨1, .text "loading", .null⟩ .initial (by decide),
    hreturned operations 0 _ hwait rfl⟩

end Registrar.Gate.Loop
