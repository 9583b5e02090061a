import Mathlib.Data.List.Forall2
import Registrar.Bootstrap.Family
import Registrar.Proofs.Bootstrap.Importing

/-! # One turn of a bootstrap

A turn passes over modules that were imported before, and comes to an end, to a name that
cannot be resolved, or to one import, which it then records if it succeeds.
-/

namespace Registrar

/-- The program once it is recorded that a module was imported on behalf of a container. -/
def Program.record (program : Program) (index : Nat) (name : String) : Program :=
  { program with session := { program.session with
      containers := program.session.containers.modify index fun container =>
        { container with initialized := container.initialized ++ [name] } } }

theorem Program.initialized?_record {program : Program} {index : Nat} {names : List String}
    (h : program.session.initialized? index = some names) (name : String) :
    (program.record index name).session.initialized? index = some (names ++ [name]) := by
  obtain ⟨container, hcontainer, rfl⟩ := Option.map_eq_some_iff.mp h
  change (program.session.containers.modify _ _)[index]?.map _ = _
  rw [Array.getElem?_modify, if_pos rfl, hcontainer]
  rfl

theorem Session.Grounded.record {program : Program} (h : program.session.Grounded) (index : Nat)
    (name : String) : (program.record index name).session.Grounded :=
  h.congr rfl (Array.size_modify ..) fun _ _ => id

namespace Bootstrap

variable {bootstrap : Bootstrap} {program : Program} {initialized : List String}

theorem importModule_apply (bootstrap : Bootstrap) (name : String) (program : Program) :
    bootstrap.importModule name program =
      match Import.load name program with
      | (.ok _, after) => (.ok (), after.record bootstrap.container name)
      | (.error cause, after) => (.error (failure name cause), after) := by
  unfold importModule
  rw [Import.bind_apply, Import.tryCatch_apply]
  rcases Import.load name program with ⟨_ | _, _⟩ <;> rfl

/-- References are passed over: they resolve to names that were imported before. -/
structure Passes (anchor : Option String) (initialized references names : List String) :
    Prop where
  resolve : List.Forall₂ (fun reference name => ModuleName.resolve anchor reference = .ok name)
    references names
  before : ∀ name ∈ names, name ∈ initialized

namespace Passes

variable {anchor : Option String} {references names : List String}

theorem nil : Passes anchor initialized [] [] := ⟨.nil, List.forall_mem_nil _⟩

theorem cons {reference name : String} (h : Passes anchor initialized references names)
    (hresolve : ModuleName.resolve anchor reference = .ok name) (hname : name ∈ initialized) :
    Passes anchor initialized (reference :: references) (name :: names) :=
  ⟨.cons hresolve h.resolve, List.forall_mem_cons.mpr ⟨hname, h.before⟩⟩

theorem append {others more : List String} (h : Passes anchor initialized references names)
    (hmore : Passes anchor initialized others more) :
    Passes anchor initialized (references ++ others) (names ++ more) :=
  ⟨List.rel_append h.resolve hmore.resolve, List.forall_mem_append.mpr ⟨h.before, hmore.before⟩⟩

/-- What was passed over stays so, while more is imported. -/
theorem mono {later : List String} (h : Passes anchor initialized references names)
    (hlater : initialized ⊆ later) : Passes anchor later references names :=
  ⟨h.resolve, fun name hname => hlater (h.before name hname)⟩

end Passes

/-- What a turn attempts, and what comes of it. -/
inductive Turn (bootstrap : Bootstrap) (program : Program) (initialized references : List String) :
    Option Trial → Except Fault Stage × Program → Prop
  | returns {names : List String} {events : List Event} :
      Passes bootstrap.anchor initialized references names →
      Turn bootstrap program initialized references none (.ok (.returned bootstrap.imported),
        { program with session := { program.session with events } })
  | unresolved {passed rest names : List String} {reference : String}
      {reason : ModuleName.Unresolved} :
      references = passed ++ reference :: rest →
      Passes bootstrap.anchor initialized passed names →
      ModuleName.resolve bootstrap.anchor reference = .error reason →
      Turn bootstrap program initialized references none
        (.error (.bootstrap (.unresolved reference bootstrap.anchor) .beyondPackage), program)
  | imports {passed rest names : List String} {reference name : String} {after : Program} :
      references = passed ++ reference :: rest →
      Passes bootstrap.anchor initialized passed names →
      ModuleName.resolve bootstrap.anchor reference = .ok name → name ∉ initialized →
      Import.load name program = (.ok (), after) →
      Turn bootstrap program initialized references (some ⟨name, .ok ()⟩)
        (.ok (.going
          { bootstrap with pending := rest, imported := bootstrap.imported ++ [name] }),
          after.record bootstrap.container name)
  | fails {passed rest names : List String} {reference name : String} {cause : Fault}
      {after : Program} :
      references = passed ++ reference :: rest →
      Passes bootstrap.anchor initialized passed names →
      ModuleName.resolve bootstrap.anchor reference = .ok name → name ∉ initialized →
      Import.load name program = (.error cause, after) →
      Turn bootstrap program initialized references (some ⟨name, .error cause⟩)
        (.error (failure name cause), after)

/-- A module that was imported before is passed over. -/
theorem Turn.pass {references : List String} {reference name : String} {trial? : Option Trial}
    {outcome : Except Fault Stage × Program}
    (h : bootstrap.Turn program initialized references trial? outcome)
    (hresolve : ModuleName.resolve bootstrap.anchor reference = .ok name)
    (hname : name ∈ initialized) :
    bootstrap.Turn program initialized (reference :: references) trial? outcome := by
  cases h with
  | returns hpasses => exact .returns (hpasses.cons hresolve hname)
  | unresolved hsplit hpasses hreason =>
    exact .unresolved (congrArg (reference :: ·) hsplit) (hpasses.cons hresolve hname) hreason
  | imports hsplit hpasses hlast hnew hload =>
    exact .imports (congrArg (reference :: ·) hsplit) (hpasses.cons hresolve hname) hlast hnew hload
  | fails hsplit hpasses hlast hnew hload =>
    exact .fails (congrArg (reference :: ·) hsplit) (hpasses.cons hresolve hname) hlast hnew hload

namespace Turn

variable {references : List String} {trial? : Option Trial}
  {outcome : Except Fault Stage × Program}

/-- What is attempted was not imported before. -/
theorem name_notMem (h : bootstrap.Turn program initialized references trial? outcome) :
    ∀ trial, trial? = some trial → trial.name ∉ initialized := by
  rintro trial rfl
  cases h <;> assumption

theorem grounded (h : bootstrap.Turn program initialized references trial? outcome)
    (hgrounded : program.session.Grounded) : outcome.2.session.Grounded := by
  cases h with
  | returns _ => exact ⟨hgrounded.named, hgrounded.pending⟩
  | unresolved _ _ _ => exact hgrounded
  | imports _ _ _ _ hload => exact (Import.load_keeps hgrounded hload).1.record _ _
  | fails _ _ _ _ hload => exact (Import.load_keeps hgrounded hload).1

/-- What was imported with success is recorded, and nothing else. -/
theorem recorded (h : bootstrap.Turn program initialized references trial? outcome)
    (hgrounded : program.session.Grounded)
    (hbefore : program.session.initialized? bootstrap.container = some initialized) :
    outcome.2.session.initialized? bootstrap.container =
      some (initialized ++ (trial?.bind Trial.success?).toList) := by
  have hsame : some initialized = some (initialized ++ []) := by rw [List.append_nil]
  cases h with
  | returns _ => exact hbefore.trans hsame
  | unresolved _ _ _ => exact hbefore.trans hsame
  | imports _ _ _ _ hload =>
    exact Program.initialized?_record ((Import.load_keeps hgrounded hload).2 _ _ hbefore) _
  | fails _ _ _ _ hload => exact ((Import.load_keeps hgrounded hload).2 _ _ hbefore).trans hsame

end Turn

theorem isInitialized_apply
    (h : program.session.initialized? bootstrap.container = some initialized) (name : String) :
    bootstrap.isInitialized name program = (.ok (initialized.contains name), program) := by
  obtain ⟨container, hcontainer, rfl⟩ := Option.map_eq_some_iff.mp h
  unfold isInitialized
  rw [Import.bind_apply, Import.ofRun_apply, Run.container_of_some hcontainer]
  rfl

/-- A turn, from its first module on. -/
theorem turn_cons_apply
    (h : program.session.initialized? bootstrap.container = some initialized) {reference : String}
    (rest : List String) :
    bootstrap.turn (reference :: rest) program =
      match bootstrap.resolve reference with
      | .error fault => (.error fault, program)
      | .ok name =>
        if name ∈ initialized then bootstrap.turn rest program
        else match Import.load name program with
          | (.ok _, after) => (.ok (some
              { bootstrap with pending := rest, imported := bootstrap.imported ++ [name] }),
            after.record bootstrap.container name)
          | (.error cause, after) => (.error (failure name cause), after) := by
  rw [turn, Import.bind_apply, Import.ofRun_apply]
  cases bootstrap.resolve reference with
  | error fault => rfl
  | ok name =>
    change (bootstrap.isInitialized name >>= _) program = _
    rw [Import.bind_apply, isInitialized_apply h]
    dsimp only
    by_cases hname : name ∈ initialized
    · rw [if_pos (List.contains_iff_mem.mpr hname), if_pos hname]
    · rw [if_neg (mt List.contains_iff_mem.mp hname), if_neg hname, Import.bind_apply,
        importModule_apply]
      rcases Import.load name program with ⟨_ | _, _⟩ <;> rfl

theorem advance_apply (bootstrap : Bootstrap) (references : List String) (program : Program) :
    bootstrap.advance references program =
      match bootstrap.turn references program with
      | (.ok (some next), after) => (.ok (.going next), after)
      | (.ok none, after) => (.ok (.returned bootstrap.imported), { after with
          session := { after.session with events := after.session.events ++
            [.initialized bootstrap.imported.length
              (bootstrap.asked - bootstrap.imported.length)] } })
      | (.error fault, after) => (.error fault, after) := by
  unfold advance
  rw [Import.bind_apply]
  rcases bootstrap.turn references program with ⟨_ | _ | _, _⟩ <;> rfl

/-- A bootstrap runs from one turn to the next. -/
theorem run_succ_apply (bootstrap : Bootstrap) (turns : Nat) (program : Program) :
    bootstrap.run (turns + 1) program =
      match bootstrap.advance bootstrap.pending program with
      | (.ok (.going next), after) => next.run turns after
      | (.ok (.returned names), after) => (.ok names, after)
      | (.ok (.failed fault), after) => (.error fault, after)
      | (.error fault, after) => (.error fault, after) := by
  rw [advance_apply, run, Import.bind_apply]
  rcases bootstrap.turn bootstrap.pending program with ⟨_ | _ | _, _⟩ <;> rfl

theorem advance_outcome (h : program.session.initialized? bootstrap.container = some initialized)
    (references : List String) :
    bootstrap.Turn program initialized references
      (bootstrap.trial? program initialized references) (bootstrap.advance references program) := by
  induction references with
  | nil => exact .returns .nil
  | cons reference rest ih =>
    rw [advance_apply, turn_cons_apply h]
    unfold trial? resolve
    cases hresolve : ModuleName.resolve bootstrap.anchor reference with
    | error reason => exact .unresolved (List.nil_append _).symm .nil hresolve
    | ok name =>
      dsimp only
      by_cases hname : name ∈ initialized
      · rw [if_pos hname, if_pos hname, ← advance_apply]
        exact ih.pass hresolve hname
      · rw [if_neg hname, if_neg hname]
        rcases hload : Import.load name program with ⟨cause | _, after⟩
        · exact .fails (List.nil_append _).symm .nil hresolve hname hload
        · exact .imports (List.nil_append _).symm .nil hresolve hname hload

end Bootstrap

end Registrar
