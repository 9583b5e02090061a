import Mathlib.Data.List.Pairwise
import Registrar.Proofs.Bootstrap.Turn

/-! # Modules are imported at most once

However the turns of calls interleave that bootstrap one container, a module is imported
on its behalf at most once, and what the container records is what was imported. That no
attempt repeats an import is the invariant; each call is as far as its own attempts say.
-/

namespace Registrar

open Bootstrap

namespace Family

variable {family first : Family} {index call : Nat} {before : List String} {calls : List Asked}

/-! ## How far a call is -/

/-- Attempts with success. -/
def imports (names : List String) : List Trial := names.map (⟨·, .ok ()⟩)

theorem imports_concat (names : List String) (name : String) :
    imports names ++ [⟨name, .ok ()⟩] = imports (names ++ [name]) := by
  simp [imports]

/-- How far a call is with the modules asked of it, after what it attempted. It has passed
over, or imported, all up to some place, and imported them in their order; if it failed,
it failed at that place, and attempted nothing after it. -/
inductive Progress (index : Nat) (asked : Asked) (initialized : List String) :
    Stage → List Trial → Prop
  | going {done resolved : List String} {bootstrap : Bootstrap} :
      bootstrap.container = index → bootstrap.anchor = asked.anchor →
      asked.modules = done ++ bootstrap.pending →
      Passes asked.anchor initialized done resolved → bootstrap.imported.Sublist resolved →
      Progress index asked initialized (.going bootstrap) (imports bootstrap.imported)
  | returned {names resolved : List String} :
      Passes asked.anchor initialized asked.modules resolved → names.Sublist resolved →
      Progress index asked initialized (.returned names) (imports names)
  | unresolved {done rest resolved names : List String} {reference : String}
      {reason : ModuleName.Unresolved} :
      asked.modules = done ++ reference :: rest →
      Passes asked.anchor initialized done resolved → names.Sublist resolved →
      ModuleName.resolve asked.anchor reference = .error reason →
      Progress index asked initialized
        (.failed (.bootstrap (.unresolved reference asked.anchor) .beyondPackage)) (imports names)
  | failed {done rest resolved names : List String} {reference name : String} {cause : Fault} :
      asked.modules = done ++ reference :: rest →
      Passes asked.anchor initialized done resolved → names.Sublist resolved →
      ModuleName.resolve asked.anchor reference = .ok name →
      Progress index asked initialized (.failed (failure name cause))
        (imports names ++ [⟨name, .error cause⟩])

theorem Progress.mono {asked : Asked} {initialized later : List String} {stage : Stage}
    {trials : List Trial} (h : Progress index asked initialized stage trials)
    (hlater : initialized ⊆ later) : Progress index asked later stage trials := by
  cases h with
  | going hcontainer hanchor hsplit hpasses hsublist =>
    exact .going hcontainer hanchor hsplit (hpasses.mono hlater) hsublist
  | returned hpasses hsublist => exact .returned (hpasses.mono hlater) hsublist
  | unresolved hsplit hpasses hsublist hreason =>
    exact .unresolved hsplit (hpasses.mono hlater) hsublist hreason
  | failed hsplit hpasses hsublist hresolve =>
    exact .failed hsplit (hpasses.mono hlater) hsublist hresolve

theorem Progress.container {asked : Asked} {initialized : List String} {bootstrap : Bootstrap}
    {trials : List Trial} (h : Progress index asked initialized (.going bootstrap) trials) :
    bootstrap.container = index := by
  cases h
  assumption

/-- A call is further after a turn. -/
theorem Progress.turn {asked : Asked} {initialized : List String} {bootstrap : Bootstrap}
    {trials : List Trial} {program : Program} {trial? : Option Trial}
    {outcome : Except Fault Stage × Program}
    (h : Progress index asked initialized (.going bootstrap) trials)
    (hturn : bootstrap.Turn program initialized bootstrap.pending trial? outcome) :
    Progress index asked (initialized ++ (trial?.bind Trial.success?).toList)
      (.ofResult outcome.1) (trials ++ trial?.toList) := by
  obtain ⟨hcontainer, hanchor, hsplit, hpasses, hsublist⟩ := h
  cases hturn with
  | returns hmore =>
    rw [hanchor] at hmore
    change Progress index asked (initialized ++ []) _ (imports bootstrap.imported ++ [])
    rw [List.append_nil, List.append_nil]
    exact .returned (hsplit ▸ hpasses.append hmore) (hsublist.trans (List.sublist_append_left ..))
  | unresolved hrest hmore hreason =>
    rw [hanchor] at hmore hreason ⊢
    change Progress index asked (initialized ++ []) _ (imports bootstrap.imported ++ [])
    rw [List.append_nil, List.append_nil]
    rw [hrest, ← List.append_assoc] at hsplit
    exact .unresolved hsplit (hpasses.append hmore)
      (hsublist.trans (List.sublist_append_left ..)) hreason
  | @imports passed rest names reference name after hrest hmore hresolve hnew hload =>
    rw [hanchor] at hmore hresolve
    change Progress index asked (initialized ++ [name]) _
      (imports bootstrap.imported ++ [⟨name, .ok ()⟩])
    rw [imports_concat]
    have hlast : Passes asked.anchor (initialized ++ [name]) [reference] [name] :=
      .cons .nil hresolve (List.mem_append_right _ (List.mem_singleton_self _))
    rw [hrest, ← List.append_assoc, List.append_cons] at hsplit
    exact .going hcontainer hanchor hsplit
      (((hpasses.append hmore).mono (List.subset_append_left _ _)).append hlast)
      ((hsublist.trans (List.sublist_append_left ..)).append (.refl _))
  | @fails passed rest names reference name cause after hrest hmore hresolve hnew hload =>
    rw [hanchor] at hmore hresolve
    change Progress index asked (initialized ++ []) _ _
    rw [List.append_nil]
    rw [hrest, ← List.append_assoc] at hsplit
    exact .failed hsplit (hpasses.append hmore)
      (hsublist.trans (List.sublist_append_left ..)) hresolve

/-! ## What all calls keep -/

/-- The container records what it did before and what was imported since; no attempt is of
a module that was imported already; and each call is as far as its attempts say. -/
structure Orderly (before : List String) (index : Nat) (calls : List Asked) (family : Family) :
    Prop where
  grounded : family.program.session.Grounded
  initialized : family.program.session.initialized? index = some (before ++ family.successes)
  fresh : ∀ trial ∈ family.trials, trial.2.name ∉ before
  once : family.trials.Pairwise fun earlier later => earlier.2.success? ≠ some later.2.name
  length : family.stages.length = calls.length
  progress : ∀ call asked stage, calls[call]? = some asked → family.stages[call]? = some stage →
    Progress index asked (before ++ family.successes) stage (family.trialsOf call)

theorem orderly_start {program : Program} (hgrounded : program.session.Grounded)
    (hbefore : program.session.initialized? index = some before) :
    (start program index calls).Orderly before index calls where
  grounded := hgrounded
  initialized := hbefore.trans (congrArg some (List.append_nil before).symm)
  fresh := List.forall_mem_nil _
  once := .nil
  length := List.length_map ..
  progress call asked stage hasked hstage := by
    unfold start at hstage
    rw [List.getElem?_map, hasked] at hstage
    cases hstage
    exact .going rfl rfl (List.nil_append _).symm .nil (.refl _)

/-- Anything else may happen that leaves alone what was imported. -/
theorem Orderly.meanwhile (h : family.Orderly before index calls) {program : Program}
    (hgrounded : program.session.Grounded)
    (hsame : program.session.initialized? index = family.program.session.initialized? index) :
    ({ family with program } : Family).Orderly before index calls :=
  ⟨hgrounded, hsame.trans h.initialized, h.fresh, h.once, h.length, h.progress⟩

theorem successes_append (program : Program) (stages : List Stage) (trials : List (Nat × Trial))
    (call : Nat) (trial? : Option Trial) :
    (⟨program, stages, trials ++ (trial?.map (call, ·)).toList⟩ : Family).successes =
      (⟨program, stages, trials⟩ : Family).successes ++ (trial?.bind Trial.success?).toList := by
  unfold successes
  rw [List.filterMap_append]
  congr 1
  rcases trial? with _ | trial
  · rfl
  · change List.filterMap _ [(call, trial)] = (trial.success?).toList
    cases hsuccess : trial.success? <;> simp [hsuccess]

theorem trialsOf_append (program : Program) (stages : List Stage) (trials : List (Nat × Trial))
    (call other : Nat) (trial? : Option Trial) :
    (⟨program, stages, trials ++ (trial?.map (call, ·)).toList⟩ : Family).trialsOf other =
      (⟨program, stages, trials⟩ : Family).trialsOf other ++
        if call = other then trial?.toList else [] := by
  unfold trialsOf
  rw [List.filter_append, List.map_append]
  congr 1
  rcases trial? with _ | trial
  · split <;> rfl
  · change ([(call, trial)].filter _).map _ = _
    by_cases h : call = other <;> simp [h]

/-- One call goes on to another stage, with at most one attempt. -/
theorem Orderly.move (h : family.Orderly before index calls) {asked : Asked} {program : Program}
    {stage : Stage} {trial? : Option Trial} (hasked : calls[call]? = some asked)
    (hgrounded : program.session.Grounded)
    (hinitialized : program.session.initialized? index =
      some (before ++ family.successes ++ (trial?.bind Trial.success?).toList))
    (hnew : ∀ trial, trial? = some trial → trial.name ∉ before ++ family.successes)
    (hprogress : Progress index asked
      (before ++ family.successes ++ (trial?.bind Trial.success?).toList) stage
      (family.trialsOf call ++ trial?.toList)) :
    (⟨program, family.stages.set call stage,
      family.trials ++ (trial?.map (call, ·)).toList⟩ : Family).Orderly before index calls := by
  have hlength : call < family.stages.length := by
    rw [h.length]
    exact (List.getElem?_eq_some_iff.mp hasked).1
  refine ⟨hgrounded, ?_, ?_, ?_, (List.length_set ..).trans h.length, ?_⟩
  · rw [successes_append, ← List.append_assoc]
    exact hinitialized
  · refine List.forall_mem_append.mpr ⟨h.fresh, fun trial htrial hbefore => ?_⟩
    obtain ⟨new, hsome, rfl⟩ := Option.map_eq_some_iff.mp (Option.mem_toList.mp htrial)
    exact hnew new hsome (List.mem_append_left _ hbefore)
  · refine List.pairwise_append.mpr ⟨h.once, ?_, fun earlier hearlier trial htrial hsame => ?_⟩
    · cases trial? <;> simp
    · obtain ⟨new, hsome, rfl⟩ := Option.map_eq_some_iff.mp (Option.mem_toList.mp htrial)
      exact hnew new hsome (List.mem_append_right _
        (List.mem_filterMap.mpr ⟨earlier, hearlier, hsame⟩))
  · intro other otherAsked otherStage hotherAsked hotherStage
    rw [successes_append, trialsOf_append, ← List.append_assoc]
    by_cases hsame : call = other
    · subst hsame
      rw [List.getElem?_set_self hlength] at hotherStage
      cases hotherStage
      rw [hasked] at hotherAsked
      cases hotherAsked
      rw [if_pos rfl]
      exact hprogress
    · rw [List.getElem?_set_ne hsame] at hotherStage
      rw [if_neg hsame, List.append_nil]
      exact (h.progress other otherAsked otherStage hotherAsked hotherStage).mono
        (List.subset_append_left _ _)

theorem Orderly.exists_progress (h : family.Orderly before index calls) {stage : Stage}
    (hstage : family.stages[call]? = some stage) : ∃ asked, calls[call]? = some asked ∧
      Progress index asked (before ++ family.successes) stage (family.trialsOf call) := by
  have hlength : call < calls.length := by
    rw [← h.length]
    exact (List.getElem?_eq_some_iff.mp hstage).1
  have hasked := List.getElem?_eq_getElem hlength
  exact ⟨calls[call], hasked, h.progress call _ _ hasked hstage⟩

/-! ## Turns -/

theorem turn_going {bootstrap : Bootstrap}
    (hgoing : family.stages[call]? = some (.going bootstrap))
    (hbefore : family.program.session.initialized? bootstrap.container = some before) :
    family.turn call =
      ⟨(bootstrap.advance bootstrap.pending family.program).2,
        family.stages.set call
          (.ofResult (bootstrap.advance bootstrap.pending family.program).1),
        family.trials ++ ((bootstrap.trial? family.program before bootstrap.pending).map
          (call, ·)).toList⟩ := by
  unfold turn
  rw [hgoing]
  change Family.mk _ _ (family.trials ++ ((bootstrap.trial? _
    ((family.program.session.initialized? _).getD []) _).map (call, ·)).toList) = _
  rw [hbefore]
  rfl

theorem turn_of_ended (h : ∀ bootstrap, family.stages[call]? ≠ some (.going bootstrap)) :
    family.turn call = family := by
  unfold turn
  split
  · next bootstrap hgoing => exact absurd hgoing (h bootstrap)
  · rfl

/-- A turn keeps the calls orderly. -/
theorem Orderly.turn (h : family.Orderly before index calls) (call : Nat) :
    (family.turn call).Orderly before index calls := by
  by_cases hgoing : ∃ bootstrap, family.stages[call]? = some (.going bootstrap)
  · obtain ⟨bootstrap, hgoing⟩ := hgoing
    obtain ⟨asked, hasked, hprogress⟩ := h.exists_progress hgoing
    obtain rfl := hprogress.container
    have hturn := advance_outcome h.initialized bootstrap.pending
    rw [turn_going hgoing h.initialized]
    exact h.move hasked (hturn.grounded h.grounded) (hturn.recorded h.grounded h.initialized)
      hturn.name_notMem (hprogress.turn hturn)
  · rw [turn_of_ended fun bootstrap hbootstrap => hgoing ⟨bootstrap, hbootstrap⟩]
    exact h

/-! ## Interleavings -/

/-- Calls take turns, in any order, and in between anything else may happen that leaves
alone what was imported on behalf of the container. -/
inductive Leads (index : Nat) (first : Family) : Family → Prop
  | first : Leads index first first
  | turn {family : Family} (call : Nat) : Leads index first family →
      Leads index first (family.turn call)
  | meanwhile {family : Family} (program : Program) : Leads index first family →
      program.session.Grounded →
      program.session.initialized? index = family.program.session.initialized? index →
      Leads index first { family with program }

theorem Leads.trans {last : Family} (h : Leads index first family)
    (hlast : Leads index family last) : Leads index first last := by
  induction hlast with
  | first => exact h
  | turn call _ ih => exact ih.turn call
  | meanwhile program _ hgrounded hsame ih => exact ih.meanwhile program hgrounded hsame

theorem Leads.orderly (h : Leads index first family) (hfirst : first.Orderly before index calls) :
    family.Orderly before index calls := by
  induction h with
  | first => exact hfirst
  | turn call _ ih => exact ih.turn call
  | meanwhile program _ hgrounded hsame ih => exact ih.meanwhile hgrounded hsame

/-! ## What follows for the calls -/

/-- No two attempts import the same name. -/
theorem Orderly.pairwise_success (h : family.Orderly before index calls) :
    family.trials.Pairwise fun earlier later =>
      ∀ name, earlier.2.success? = some name → later.2.success? ≠ some name := by
  refine h.once.imp fun hfresh name hearlier hlater => hfresh ?_
  unfold Trial.success? at hlater
  split at hlater
  · cases hlater
    exact hearlier
  · cases hlater

theorem Orderly.nodup_successes (h : family.Orderly before index calls) :
    family.successes.Nodup := by
  refine List.pairwise_filterMap.mpr (h.pairwise_success.imp ?_)
  rintro earlier later hdistinct name hearlier _ hlater rfl
  exact hdistinct name hearlier hlater

/-- What a call returns is what it imported. -/
theorem Orderly.trialsOf_returned (h : family.Orderly before index calls) {names : List String}
    (hreturned : family.stages[call]? = some (.returned names)) :
    family.trialsOf call = imports names := by
  obtain ⟨asked, -, hprogress⟩ := h.exists_progress hreturned
  generalize family.trialsOf call = trials at hprogress
  cases hprogress
  rfl

/-- A name in the list of a call was imported by that call. -/
theorem Orderly.exists_trial (h : family.Orderly before index calls) {names : List String}
    (hreturned : family.stages[call]? = some (.returned names)) {name : String}
    (hname : name ∈ names) :
    ∃ trial, (call, trial) ∈ family.trials ∧ trial.success? = some name := by
  have hmem : (⟨name, .ok ()⟩ : Trial) ∈ family.trialsOf call := by
    rw [h.trialsOf_returned hreturned]
    exact List.mem_map_of_mem hname
  obtain ⟨⟨other, trial⟩, htrial, hsame⟩ := List.mem_map.mp hmem
  obtain ⟨hfound, hcall⟩ := List.mem_filter.mp htrial
  obtain rfl : other = call := beq_iff_eq.mp hcall
  obtain rfl : trial = ⟨name, .ok ()⟩ := hsame
  exact ⟨⟨name, .ok ()⟩, hfound, rfl⟩

theorem Orderly.nodup_returned (h : family.Orderly before index calls) {names : List String}
    (hreturned : family.stages[call]? = some (.returned names)) : names.Nodup := by
  have hnames : (family.trialsOf call).filterMap Trial.success? = names := by
    rw [h.trialsOf_returned hreturned]
    simp [imports, List.filterMap_map, Function.comp_def, Trial.success?]
  rw [← hnames]
  refine List.Nodup.sublist ?_ h.nodup_successes
  unfold trialsOf successes
  rw [List.filterMap_map]
  exact List.filter_sublist.filterMap _

theorem Orderly.disjoint_returned (h : family.Orderly before index calls) {other : Nat}
    {names others : List String} (hne : call ≠ other)
    (hreturned : family.stages[call]? = some (.returned names))
    (hothers : family.stages[other]? = some (.returned others)) : names.Disjoint others := by
  intro name hname hother
  obtain ⟨mine, hmine, hsuccess⟩ := h.exists_trial hreturned hname
  obtain ⟨theirs, htheirs, htoo⟩ := h.exists_trial hothers hother
  have hdistinct : (call, mine) ≠ (other, theirs) := fun hsame => hne (congrArg Prod.fst hsame)
  have hsymm : Std.Symm fun earlier later : Nat × Trial =>
      ∀ name, earlier.2.success? = some name → later.2.success? ≠ some name :=
    ⟨fun _ _ h name hleft hright => h name hright hleft⟩
  exact h.pairwise_success.forall hmine htheirs hdistinct name hsuccess htoo

/-- A call that failed raised a fault of the bootstrap, unless the import was interrupted. -/
theorem Progress.fault {asked : Asked} {initialized : List String} {fault : Fault}
    {trials : List Trial} (h : Progress index asked initialized (.failed fault) trials) :
    (∃ problem cause, fault = .bootstrap problem cause) ∨
      ∃ name interruption, fault = .interrupted interruption ∧ ⟨name, .error fault⟩ ∈ trials := by
  generalize hstage : Stage.failed fault = stage at h
  cases h with
  | going _ _ _ _ _ => cases hstage
  | returned _ _ => cases hstage
  | unresolved _ _ _ _ =>
    cases hstage
    exact .inl ⟨_, _, rfl⟩
  | @failed _ _ _ names _ name cause _ _ _ _ =>
    cases hstage
    unfold Bootstrap.failure
    split
    · exact .inr ⟨name, _, rfl, List.mem_append_right _ (List.mem_singleton_self _)⟩
    · exact .inl ⟨_, _, rfl⟩

/-! ## A bootstrap on its own -/

/-- A bootstrap that runs on its own is a family of one call. -/
theorem Orderly.run_leads {asked : Asked} {bootstrap : Bootstrap} {turns : Nat}
    (h : family.Orderly before index [asked]) (hgoing : family.stages = [.going bootstrap])
    (hturns : bootstrap.pending.length < turns) :
    ∃ last, Leads index family last ∧ last.program = (bootstrap.run turns family.program).2 ∧
      last.stages = [.ofResult ((bootstrap.run turns family.program).1.map .returned)] := by
  induction turns generalizing family bootstrap with
  | zero => exact absurd hturns (Nat.not_lt_zero _)
  | succ turns ih =>
    have hstage : family.stages[0]? = some (.going bootstrap) := by rw [hgoing]; rfl
    obtain rfl := (h.progress 0 asked _ rfl hstage).container
    have hturn := advance_outcome h.initialized bootstrap.pending
    have hfamily := turn_going hstage h.initialized
    have horderly := h.turn 0
    have hleads : Leads bootstrap.container family (family.turn 0) := .turn 0 .first
    rw [hgoing] at hfamily
    rw [run_succ_apply]
    rcases hadvance : bootstrap.advance bootstrap.pending family.program with ⟨result, after⟩
    rw [hadvance] at hturn hfamily
    generalize bootstrap.trial? family.program _ bootstrap.pending = trial? at hturn hfamily
    cases hturn with
    | returns hpasses =>
      exact ⟨family.turn 0, hleads, by rw [hfamily], by rw [hfamily]; rfl⟩
    | unresolved hsplit hpasses hreason =>
      exact ⟨family.turn 0, hleads, by rw [hfamily], by rw [hfamily]; rfl⟩
    | imports hsplit hpasses hresolve hnew hload =>
      have hpending := congrArg List.length hsplit
      rw [List.length_append, List.length_cons] at hpending
      obtain ⟨last, hlast, hprogram, hstages⟩ := ih horderly (congrArg stages hfamily)
        (by dsimp only; omega)
      refine ⟨last, hleads.trans hlast, ?_, ?_⟩
      · rw [hprogram, congrArg program hfamily]
      · rw [hstages, congrArg program hfamily]
    | fails hsplit hpasses hresolve hnew hload =>
      exact ⟨family.turn 0, hleads, by rw [hfamily], by rw [hfamily]; rfl⟩

/-! ## At most once -/

/-- What holds of calls that bootstrap one container, at any point of their turns. -/
structure AtMostOnce (before : List String) (index : Nat) (calls : List Asked)
    (family : Family) : Prop where
  /-- The container records what it did before, and what was imported since. -/
  recorded : family.program.session.initialized? index = some (before ++ family.successes)
  /-- No name is imported twice. -/
  once : family.successes.Nodup
  /-- What is attempted was not imported before. -/
  attempted : ∀ (earlier later : List (Nat × Trial)) (call : Nat) (trial : Trial),
    family.trials = earlier ++ (call, trial) :: later →
    trial.name ∉ before ++ earlier.filterMap (·.2.success?)
  /-- Each call is as far as its own attempts say. -/
  progress : ∀ (call : Nat) (asked : Asked), calls[call]? = some asked →
    ∃ stage, family.stages[call]? = some stage ∧
      Progress index asked (before ++ family.successes) stage (family.trialsOf call)
  /-- What a call returns has no duplicates, and is disjoint from what any other returns. -/
  returned : ∀ (call : Nat) (names : List String), family.stages[call]? = some (.returned names) →
    names.Nodup ∧ ∀ (other : Nat) (others : List String), call ≠ other →
      family.stages[other]? = some (.returned others) → names.Disjoint others
  /-- A call that failed raised a fault of the bootstrap, unless its import was interrupted. -/
  failed : ∀ (call : Nat) (fault : Fault), family.stages[call]? = some (.failed fault) →
    (∃ problem cause, fault = .bootstrap problem cause) ∨
      ∃ name interruption, fault = .interrupted interruption ∧
        ⟨name, .error fault⟩ ∈ family.trialsOf call
  /-- A turn does what is recorded of it, and nothing else. -/
  faithful : ∀ (call : Nat) (bootstrap : Bootstrap),
    family.stages[call]? = some (.going bootstrap) →
    ∃ trial? outcome, bootstrap.Turn family.program (before ++ family.successes)
      bootstrap.pending trial? outcome ∧
    family.turn call = ⟨outcome.2, family.stages.set call (.ofResult outcome.1),
      family.trials ++ (trial?.map (call, ·)).toList⟩

theorem Orderly.attempted (h : family.Orderly before index calls)
    {earlier later : List (Nat × Trial)} {trial : Trial}
    (htrials : family.trials = earlier ++ (call, trial) :: later) :
    trial.name ∉ before ++ earlier.filterMap (·.2.success?) := by
  have hmem : (call, trial) ∈ (call, trial) :: later := List.mem_cons_self
  rw [List.mem_append, not_or]
  refine ⟨h.fresh (call, trial) ?_, fun hearlier => ?_⟩
  · rw [htrials]
    exact List.mem_append_right _ hmem
  · obtain ⟨other, hother, hsuccess⟩ := List.mem_filterMap.mp hearlier
    have honce := h.once
    rw [htrials] at honce
    exact (List.pairwise_append.mp honce).2.2 other hother _ hmem hsuccess

theorem Orderly.atMostOnce (h : family.Orderly before index calls) :
    family.AtMostOnce before index calls where
  recorded := h.initialized
  once := h.nodup_successes
  attempted _ _ _ _ := h.attempted
  progress call asked hasked := by
    have hlength : call < family.stages.length := by
      rw [h.length]
      exact (List.getElem?_eq_some_iff.mp hasked).1
    have hstage := List.getElem?_eq_getElem hlength
    exact ⟨_, hstage, h.progress call asked _ hasked hstage⟩
  returned call names hreturned := ⟨h.nodup_returned hreturned,
    fun _ _ hne hothers => h.disjoint_returned hne hreturned hothers⟩
  failed call fault hfailed := by
    obtain ⟨asked, -, hprogress⟩ := h.exists_progress hfailed
    exact hprogress.fault
  faithful call bootstrap hgoing := by
    obtain ⟨asked, -, hprogress⟩ := h.exists_progress hgoing
    obtain rfl := hprogress.container
    exact ⟨_, _, advance_outcome h.initialized bootstrap.pending, turn_going hgoing h.initialized⟩

/-- However calls interleave that bootstrap one container, at every point each name was
imported on its behalf at most once, and the container records just what was imported. A
bootstrap that runs on its own is a family of one call. -/
theorem imported_at_most_once {program : Program} (hgrounded : program.session.Grounded)
    (hbefore : program.session.initialized? index = some before) :
    (∀ (calls : List Asked) (family : Family), Leads index (start program index calls) family →
      family.AtMostOnce before index calls) ∧
    ∀ (anchor : Option String) (modules : List String), ∃ family,
      Leads index (start program index [⟨anchor, modules⟩]) family ∧
      family.program = (Import.populate index anchor modules program).2 ∧
      family.stages = [.ofResult ((Import.populate index anchor modules program).1.map
        .returned)] :=
  ⟨fun _ _ hleads => (hleads.orderly (orderly_start hgrounded hbefore)).atMostOnce,
    fun _ _ => (orderly_start hgrounded hbefore).run_leads rfl (Nat.lt_succ_self _)⟩

/-- A program with one container, and a package with modules that end in different ways. -/
def packaged : Program where
  session := (Run.createContainer "c" true .initial).2
  sources := [("p", ⟨true, [], .returns⟩), ("p.good", ⟨false, [], .returns⟩),
    ("p.bad", ⟨false, [], .fails "ValueError"⟩),
    ("p.stopped", ⟨false, [], .interrupts "KeyboardInterrupt"⟩)]
  loaded := []
  executed := []

theorem grounded_packaged : packaged.session.Grounded :=
  (Run.follows_createContainer Session.steady_initialized "c" true .initial
    Session.initial_grounded).1

/-- Two calls share a module, which only the first imports; the second fails at another. -/
theorem packaged_imported_at_most_once :
    let calls : List Asked := [⟨some "p", [".good", "p.good"]⟩, ⟨none, ["p.good", "p.bad", "p"]⟩]
    let family := ((((start packaged 0 calls).turn 0).turn 1).turn 0).turn 1
    family.AtMostOnce [] 0 calls ∧ family.successes = ["p.good"] ∧
      (family.trialsOf 1).map (·.name) = ["p.bad"] := by
  intro calls family
  exact ⟨(imported_at_most_once grounded_packaged rfl).1 calls family
    (((Leads.first.turn 0).turn 1).turn 0 |>.turn 1), by decide +kernel, by decide +kernel⟩

/-- An import that is interrupted ends its call with the interruption itself. -/
theorem interruption_not_wrapped :
    ¬∀ family, Leads 0 (start packaged 0 [⟨none, ["p.stopped"]⟩]) family →
      ∀ fault, family.stages[0]? = some (.failed fault) →
        ∃ problem cause, fault = .bootstrap problem cause := by
  intro hwrapped
  have hinterrupted : (Import.populate 0 none ["p.stopped"] packaged).1 =
      .error (.interrupted "KeyboardInterrupt") := by decide +kernel
  have horderly : (start packaged 0 [⟨none, ["p.stopped"]⟩]).Orderly [] 0 [⟨none, ["p.stopped"]⟩] :=
    orderly_start grounded_packaged rfl
  obtain ⟨family, hleads, -, hstages⟩ := horderly.run_leads rfl (Nat.lt_succ_self _)
  change family.stages = [.ofResult ((Import.populate 0 none ["p.stopped"] packaged).1.map _)]
    at hstages
  rw [hinterrupted] at hstages
  obtain ⟨problem, cause, h⟩ := hwrapped family hleads (.interrupted "KeyboardInterrupt")
    (by rw [hstages]; rfl)
  cases h

end Family

end Registrar
