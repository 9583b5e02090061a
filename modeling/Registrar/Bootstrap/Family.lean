import Registrar.Bootstrap.Initialization

/-!
# Families of bootstraps

Several calls bootstrap one container, and take turns in any order. The imports they attempt
are recorded, with what came of each.
-/

namespace Registrar

/-- An import that was attempted, and what came of it. -/
structure Trial where
  name : String
  result : Except Fault Unit

/-- The name that was imported, if it was. -/
def Trial.success? (trial : Trial) : Option String :=
  match trial.result with
  | .ok _ => some trial.name
  | .error _ => none

namespace Bootstrap

/-- How far a call has come. -/
inductive Stage
  | going (bootstrap : Bootstrap)
  | returned (names : List String)
  | failed (fault : Fault)

/-- The stage that a result means. -/
def Stage.ofResult : Except Fault Stage → Stage
  | .ok stage => stage
  | .error fault => failed fault

/-- One turn of a call on some modules: it imports one of them, or returns if there is nothing
left to import. -/
def advance (bootstrap : Bootstrap) (references : List String) : Import Stage := do
  match ← bootstrap.turn references with
  | some next => return .going next
  | none => return .returned (← bootstrap.finish)

/-- The import that a turn attempts: of the first module that was not imported on behalf of the
container, unless one before it cannot be resolved. -/
def trial? (bootstrap : Bootstrap) (program : Program) (initialized : List String) :
    List String → Option Trial
  | [] => none
  | reference :: rest =>
    match bootstrap.resolve reference with
    | .error _ => none
    | .ok name =>
      if name ∈ initialized then bootstrap.trial? program initialized rest
      else some ⟨name, (Import.load name program).1⟩

end Bootstrap

/-- What was asked of one call. -/
structure Asked where
  anchor : Option String
  modules : List String

/-- Calls that bootstrap one container. -/
structure Family where
  program : Program
  stages : List Bootstrap.Stage
  /-- The imports attempted so far, in order, each with the call that attempted it. -/
  trials : List (Nat × Trial)

namespace Family

/-- Calls that are to bootstrap a container, before their first turns. -/
def start (program : Program) (index : Nat) (calls : List Asked) : Family :=
  ⟨program, calls.map fun call => .going (.start index call.anchor call.modules), []⟩

/-- The names imported so far, in order. -/
def successes (family : Family) : List String := family.trials.filterMap (·.2.success?)

/-- The imports that one call attempted. -/
def trialsOf (family : Family) (call : Nat) : List Trial :=
  (family.trials.filter (·.1 == call)).map Prod.snd

/-- One call takes a turn, if it has not ended. -/
def turn (family : Family) (call : Nat) : Family :=
  match family.stages[call]? with
  | some (.going bootstrap) =>
    let initialized := ((family.program.session.containers[bootstrap.container]?).map
      (·.initialized)).getD []
    let (result, program) := bootstrap.advance bootstrap.pending family.program
    let trial? := bootstrap.trial? family.program initialized bootstrap.pending
    ⟨program, family.stages.set call (.ofResult result),
      family.trials ++ (trial?.map (call, ·)).toList⟩
  | _ => family

end Family

end Registrar
