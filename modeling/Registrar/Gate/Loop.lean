import Registrar.Container.Fault
import Registrar.Event

/-!
# The event loop behind gates

Mounting a gate starts a task that runs the bootstrap; waiting for a gate starts a task that awaits
the gate's. Nothing runs by itself: what is due stands in a queue, and running the loop takes from
it. A finished task first delivers its completion to its gate and then wakes those that await it,
in the order in which they began to wait. The definitions here say what a single due entry does;
the order of the queue is the business of whoever runs it.
-/

namespace Registrar.Gate

/-- How a bootstrap call goes: whether it waits for its release, and how it ends. -/
structure Behaviour where
  waits : Bool
  fault? : Option Fault

/-- How a task ends. -/
inductive Outcome
  | completed
  | failed (fault : Fault)
  | cancelled
  deriving DecidableEq

/-- The end of a bootstrap call that is not cancelled. -/
def Behaviour.outcome (behaviour : Behaviour) : Outcome :=
  match behaviour.fault? with
  | none => .completed
  | some fault => .failed fault

/-- What a held bootstrap call has heard. -/
inductive Signal
  | nothing | released | cancelled
  deriving DecidableEq

/-- How far a bootstrap task is. -/
inductive TaskStage
  | created
  /-- Its call, by number, waits for a release. -/
  | held (call : Nat) (signal : Signal)
  | finished (outcome : Outcome)
  deriving DecidableEq

/-- A bootstrap task, started by mounting a gate. -/
structure Task where
  gate : Nat
  stage : TaskStage
  /-- Whether it is to be cancelled when it runs next. -/
  cancelling : Bool
  /-- The waits that await it. -/
  awaitedBy : List Nat
  deriving DecidableEq

/-- How far a wait is. -/
inductive WaitStage
  | created
  | awaiting (task : Nat)
  | finished (outcome : Outcome)
  deriving DecidableEq

/-- A task that waits for a gate. -/
structure Wait where
  gate : Nat
  stage : WaitStage
  cancelling : Bool
  deriving DecidableEq

/-- A gate, as far as the loop sees it. -/
structure Door where
  ready : Bool
  /-- The task of the current mount. -/
  task? : Option Nat
  deriving DecidableEq

/-- Something that is due. -/
inductive Due
  /-- A bootstrap task runs. -/
  | task (task : Nat)
  /-- A finished task's completion is delivered to its gate. -/
  | delivery (task : Nat)
  /-- A wait runs. -/
  | wait (wait : Nat)
  deriving DecidableEq

/-- Gates of one class, their tasks, and what is due. -/
structure Loop where
  behaviours : List Behaviour
  doors : List Door
  tasks : List Task
  waits : List Wait
  queue : List Due
  /-- The bootstrap calls released so far. -/
  released : List Nat
  /-- How many bootstrap calls there were. -/
  calls : Nat
  events : List Event

namespace Loop

/-- The loop at the start, with the behaviours of the first bootstrap calls; the last is that of all
calls after them. -/
def start (behaviours : List Behaviour) : Loop := ⟨behaviours, [], [], [], [], [], 0, []⟩

/-- The behaviour of a bootstrap call. -/
def behaviour (loop : Loop) (call : Nat) : Behaviour :=
  ((loop.behaviours[call]?).or loop.behaviours.getLast?).getD ⟨false, none⟩

/-- Make an entry due, after all others. -/
def schedule (loop : Loop) (due : Due) : Loop := { loop with queue := loop.queue ++ [due] }

/-- Change a task. -/
def modifyTask (loop : Loop) (task : Nat) (change : Task → Task) : Loop :=
  { loop with tasks := loop.tasks.modify task change }

/-- Change a wait. -/
def modifyWait (loop : Loop) (wait : Nat) (change : Wait → Wait) : Loop :=
  { loop with waits := loop.waits.modify wait change }

/-- Report an event. -/
def report (loop : Loop) (event : Event) : Loop := { loop with events := loop.events ++ [event] }

/-- Whether a task is the one of its gate's current mount. -/
def isCurrent (loop : Loop) (gate task : Nat) : Bool :=
  match loop.doors[gate]? with
  | some door => door.task? == some task
  | none => false

/-- Make a gate ready. -/
def makeReady (loop : Loop) (gate : Nat) : Loop :=
  { loop with doors := loop.doors.modify gate fun door => { door with ready := true } }

/-- A task ends: its delivery is due, and after it those that await it. -/
def finishTask (loop : Loop) (index : Nat) (task : Task) (outcome : Outcome) : Loop :=
  let loop := loop.modifyTask index fun task => { task with stage := .finished outcome }
  { loop with queue := loop.queue ++ .delivery index :: task.awaitedBy.map .wait }

/-- A wait ends. -/
def finishWait (loop : Loop) (index : Nat) (outcome : Outcome) : Loop :=
  loop.modifyWait index fun wait => { wait with stage := .finished outcome }

/-- A bootstrap task runs: it calls the bootstrap, or goes on after its release. A task that is
cancelled before it runs does not call the bootstrap. -/
def runTask (loop : Loop) (index : Nat) (task : Task) : Loop :=
  match task.stage with
  | .created =>
    if task.cancelling then loop.finishTask index task .cancelled
    else
      let call := loop.calls
      let behaviour := loop.behaviour call
      let loop := { loop with calls := call + 1 }
      if behaviour.waits && !loop.released.contains call then
        loop.modifyTask index fun task => { task with stage := .held call .nothing }
      else loop.finishTask index task behaviour.outcome
  | .held call signal =>
    if task.cancelling || signal = .cancelled then loop.finishTask index task .cancelled
    else loop.finishTask index task (loop.behaviour call).outcome
  | .finished _ => loop

/-- A completion is delivered: it opens the gate if the task is that of the current mount. -/
def deliver (loop : Loop) (index : Nat) (task : Task) : Loop :=
  match task.stage with
  | .finished (.failed _) => loop.report .bootstrapFailed
  | .finished .completed =>
    if loop.isCurrent task.gate index then loop.makeReady task.gate
    else loop.report .completionIgnored
  | _ => loop

/-- A wait learns how the task it awaits ended. -/
def conclude (loop : Loop) (index : Nat) (wait : Wait) (task : Nat) (outcome : Outcome) : Loop :=
  let loop := loop.finishWait index outcome
  if outcome = .completed && loop.isCurrent wait.gate task then loop.makeReady wait.gate else loop

/-- A wait awaits a task, which may have ended before. -/
def await (loop : Loop) (index : Nat) (wait : Wait) (task : Nat) : Loop :=
  match loop.tasks[task]? with
  | some { stage := .finished outcome, .. } => loop.conclude index wait task outcome
  | _ =>
    (loop.modifyWait index fun wait => { wait with stage := .awaiting task }).modifyTask task
      fun task => { task with awaitedBy := task.awaitedBy ++ [index] }

/-- A wait runs: it awaits the task of the current mount, or hears from the task it awaits. -/
def runWait (loop : Loop) (index : Nat) (wait : Wait) : Loop :=
  match wait.stage with
  | .finished _ => loop
  | _ =>
    if wait.cancelling then loop.finishWait index .cancelled
    else match wait.stage, (loop.doors[wait.gate]?).bind (·.task?) with
      | .awaiting task, _ => loop.await index wait task
      | _, some task => loop.await index wait task
      | _, none => loop.finishWait index (.failed .unmounted)

/-- What something that is due does. -/
def perform (loop : Loop) : Due → Loop
  | .task index => (loop.tasks[index]?).elim loop (loop.runTask index)
  | .delivery index => (loop.tasks[index]?).elim loop (loop.deliver index)
  | .wait index => (loop.waits[index]?).elim loop (loop.runWait index)

/-- Run the entry at a place of the queue. -/
def runAt (loop : Loop) (place : Nat) : Loop :=
  match loop.queue[place]? with
  | some due => perform { loop with queue := loop.queue.eraseIdx place } due
  | none => loop

/-- Run the first entry, so many times. -/
def runFirst (loop : Loop) : Nat → Loop
  | 0 => loop
  | turns + 1 => (loop.runAt 0).runFirst turns

/-- Run until nothing is due. Each entry is run once, and running makes at most one delivery of each
task and one entry of each wait due. -/
def settle (loop : Loop) : Loop :=
  loop.runFirst (loop.queue.length + loop.tasks.length + loop.waits.length)

/-! ## Operations from outside -/

/-- A new gate, with its number. -/
def addGate (loop : Loop) : Nat × Loop :=
  (loop.doors.length, { loop with doors := loop.doors ++ [⟨false, none⟩] })

/-- Mount a gate: the task of its mount, which is a new one unless the gate is mounted. -/
def mount (loop : Loop) (gate : Nat) : Nat × Loop :=
  match (loop.doors[gate]?).bind (·.task?) with
  | some task => (task, loop)
  | none =>
    let task := loop.tasks.length
    (task, schedule
      { loop with
        doors := loop.doors.modify gate fun door => { door with task? := some task }
        tasks := loop.tasks ++ [⟨gate, .created, false, []⟩] } (.task task))

/-- Unmount a gate. Its task goes on. -/
def unmount (loop : Loop) (gate : Nat) : Loop :=
  { loop with doors := loop.doors.modify gate fun door => { door with task? := none } }

/-- Start to wait for a gate: the number of the wait. -/
def waitFor (loop : Loop) (gate : Nat) : Nat × Loop :=
  let wait := loop.waits.length
  (wait, schedule { loop with waits := loop.waits ++ [⟨gate, .created, false⟩] } (.wait wait))

/-- Tell a task that is held by a call something, which makes it due. -/
def signal (loop : Loop) (index : Nat) (call : Nat) (signal : Signal) : Loop :=
  (loop.modifyTask index fun task => { task with stage := .held call signal }).schedule
    (.task index)

/-- Release a bootstrap call, which may not have started yet. -/
def release (loop : Loop) (call : Nat) : Loop :=
  let loop := { loop with released := call :: loop.released }
  match loop.tasks.findIdx? fun task => task.stage == .held call .nothing with
  | some index => loop.signal index call .released
  | none => loop

/-- Cancel a bootstrap task; whether it had not ended yet. -/
def cancelTask (loop : Loop) (index : Nat) : Bool × Loop :=
  match (loop.tasks[index]?).map Task.stage with
  | none | some (.finished _) => (false, loop)
  | some (.held call .nothing) => (true, loop.signal index call .cancelled)
  | some _ => (true, loop.modifyTask index fun task => { task with cancelling := true })

/-- Cancel a wait, and with it the task it awaits, if that has not ended yet. -/
def cancelWait (loop : Loop) (index : Nat) : Loop :=
  let mark (loop : Loop) : Loop :=
    loop.modifyWait index fun wait => { wait with cancelling := true }
  match (loop.waits[index]?).map Wait.stage with
  | none | some (.finished _) => loop
  | some .created => mark loop
  | some (.awaiting task) =>
    match loop.cancelTask task with
    | (true, loop) => loop
    | (false, loop) => mark loop

end Loop

end Registrar.Gate
