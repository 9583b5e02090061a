import Mathlib.Tactic.Common
import Registrar.Gate.Rendering

/-! # Runs of the event loop

A run is any sequence of operations on gates of one class, mixed with turns of
the loop. A turn runs the entry at any place of the queue, so that the order in
which tasks, deliveries and waits run is arbitrary. Rendering reads the loop and
leaves it alone; it is no operation here. Nothing is cancelled.
-/

namespace Registrar.Gate

/-- Something done to the gates from outside, or a turn of the loop. -/
inductive Operation
  | addGate
  | mount (gate : Nat)
  | unmount (gate : Nat)
  | waitFor (gate : Nat)
  | release (call : Nat)
  /-- What is due at a place of the queue runs. -/
  | turn (place : Nat)
  deriving DecidableEq

namespace Loop

variable (loop : Loop)

def step : Operation → Loop
  | .addGate => loop.addGate.2
  | .mount gate => (loop.mount gate).2
  | .unmount gate => loop.unmount gate
  | .waitFor gate => (loop.waitFor gate).2
  | .release call => loop.release call
  | .turn place => loop.runAt place

def run (operations : List Operation) : Loop := operations.foldl step loop

@[simp] theorem run_nil : loop.run [] = loop := rfl

theorem run_append (operations more : List Operation) :
    loop.run (operations ++ more) = (loop.run operations).run more :=
  List.foldl_append

@[simp] theorem run_concat (operations : List Operation) (operation : Operation) :
    loop.run (operations ++ [operation]) = (loop.run operations).step operation := by
  rw [run_append]
  rfl

def isReady (gate : Nat) : Bool := (loop.doors[gate]?).any (·.ready)

/-- The task of a gate's current mount. -/
def current? (gate : Nat) : Option Nat := (loop.doors[gate]?).bind (·.task?)

/-- Whether a task was started for a gate. -/
def Serves (task gate : Nat) : Prop := (loop.tasks[task]?).map Task.gate = some gate

/-- The task a wait hears from when it runs. -/
def heard? (wait : Wait) : Option Nat :=
  match wait.stage with
  | .created => loop.current? wait.gate
  | .awaiting task => some task
  | .finished _ => none

theorem isCurrent_iff (gate task : Nat) :
    loop.isCurrent gate task = true ↔ loop.current? gate = some task := by
  unfold isCurrent current?
  cases loop.doors[gate]? with
  | none => simp
  | some door => simp

/-! ## What the parts of a step leave alone -/

@[simp] theorem schedule_doors (due : Due) : (loop.schedule due).doors = loop.doors := rfl

@[simp] theorem schedule_tasks (due : Due) : (loop.schedule due).tasks = loop.tasks := rfl

@[simp] theorem schedule_waits (due : Due) : (loop.schedule due).waits = loop.waits := rfl

@[simp] theorem runTask_doors (index : Nat) (task : Task) :
    (loop.runTask index task).doors = loop.doors := by
  unfold runTask
  cases task.stage with
  | created => dsimp only; split_ifs <;> rfl
  | held call signal => dsimp only; split_ifs <;> rfl
  | finished outcome => rfl

@[simp] theorem runTask_waits (index : Nat) (task : Task) :
    (loop.runTask index task).waits = loop.waits := by
  unfold runTask
  cases task.stage with
  | created => dsimp only; split_ifs <;> rfl
  | held call signal => dsimp only; split_ifs <;> rfl
  | finished outcome => rfl

@[simp] theorem release_doors (call : Nat) : (loop.release call).doors = loop.doors := by
  unfold release
  dsimp only
  split <;> rfl

@[simp] theorem release_waits (call : Nat) : (loop.release call).waits = loop.waits := by
  unfold release
  dsimp only
  split <;> rfl

end Loop

end Registrar.Gate
