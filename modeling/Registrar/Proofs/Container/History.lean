import Mathlib.Data.List.Induction
import Registrar.Proofs.Container.Steady

/-! # Histories of registrations

A path through sessions asks for registrations, and does other things in between that
leave registries and items alone. What a container holds at the end of a path is the fold
of the registrations of it that were accepted on the way.
-/

namespace Registrar

/-! ## Folding entries -/

namespace Entries

variable {ν : Type} (entries : List (String × ν))

theorem putAll_concat (entry : String × ν) :
    putAll (· == ·) [] (entries ++ [entry]) =
      put (· == ·) (putAll (· == ·) [] entries) entry.1 entry.2 := by
  simp [putAll, List.foldl_append]

theorem keys_put (key : String) (value : ν) :
    (put (· == ·) entries key value).map Prod.fst =
      if key ∈ entries.map Prod.fst then entries.map Prod.fst
      else entries.map Prod.fst ++ [key] := by
  induction entries with
  | nil => simp [put]
  | cons entry entries ih =>
    by_cases hkey : entry.1 = key
    · simp [put, hkey]
    · have hother : ¬key = entry.1 := fun h => hkey h.symm
      simp only [put, beq_iff_eq, hkey, if_false, List.map_cons, ih, List.mem_cons, hother,
        false_or]
      split <;> rfl

theorem nodup_putAll : ((putAll (· == ·) [] entries).map Prod.fst).Nodup := by
  induction entries using List.reverseRecOn with
  | nil => exact List.nodup_nil
  | append_singleton entries entry ih =>
    rw [putAll_concat, keys_put]
    split
    · exact ih
    · next hfresh =>
      refine List.nodup_append.mpr ⟨ih, by simp, fun key hkey other hother => ?_⟩
      rw [List.mem_singleton.mp hother]
      rintro rfl
      exact hfresh hkey

/-- Keys stand in the order in which they came first. -/
theorem keys_putAll :
    (putAll (· == ·) [] entries).map Prod.fst = (entries.map Prod.fst).eraseDups := by
  induction entries using List.reverseRecOn with
  | nil => rfl
  | append_singleton entries entry ih =>
    rw [putAll_concat, keys_put, ih, List.map_append, List.eraseDups_append]
    by_cases hkey : entry.1 ∈ entries.map Prod.fst
    · simp [List.mem_eraseDups.mpr hkey, List.removeAll, hkey]
    · have hfresh : entry.1 ∉ (entries.map Prod.fst).eraseDups :=
        fun h => hkey (List.mem_eraseDups.mp h)
      rw [if_neg hfresh]
      simp [List.removeAll, hkey, List.eraseDups_cons]

/-- Under a key stands what was put there last. -/
theorem find?_putAll (key : String) :
    find? (· == ·) (putAll (· == ·) [] entries) key =
      (entries.reverse.find? fun entry => entry.1 == key).map Prod.snd := by
  induction entries using List.reverseRecOn with
  | nil => rfl
  | append_singleton entries entry ih =>
    rw [putAll_concat, Session.find?_put, ih, List.reverse_append, List.reverse_singleton,
      List.singleton_append, List.find?_cons]
    by_cases hkey : entry.1 = key
    · simp [hkey]
    · rw [if_neg hkey, beq_eq_false_iff_ne.mpr hkey]

end Entries

/-! ## Paths -/

/-- A registration that is asked for in a session. -/
structure Attempt where
  request : Request
  before : Session

namespace Attempt

/-- What comes of it. -/
def result (attempt : Attempt) : Except Fault Value := (attempt.request.run attempt.before).1

/-- It is accepted. -/
def Accepted (attempt : Attempt) : Prop := ∃ item, attempt.result = .ok item

/-- The item and its key, if it is accepted by a container. -/
def stored? (index : Nat) (attempt : Attempt) : Option (String × Value) :=
  if attempt.request.container = index then
    attempt.result.toOption.map (attempt.request.key, ·)
  else none

/-- The key and the kind of its item, if it is accepted. -/
def report? (attempt : Attempt) : Option (String × ItemKind) :=
  attempt.result.toOption.map fun _ => (attempt.request.key, attempt.request.kind)

end Attempt

/-- The key and the kind of an item that is reported as registered. -/
def Event.registration? : Event → Option (String × ItemKind)
  | .registered key kind => some (key, kind)
  | _ => none

namespace Session

/-- Something happens besides registrations: items stay what they are and where they are,
pending registrations stay what they are, new containers are empty, nothing is reported. -/
structure Aside (before after : Session) : Prop where
  items : ∀ (index : Nat) (container : Container), before.containers[index]? = some container →
    ∃ other, after.containers[index]? = some other ∧ other.items = container.items
  fresh : ∀ (index : Nat) (container : Container), before.containers[index]? = none →
    after.containers[index]? = some container → container.items = []
  metadata : ∀ value label, before.objects.metadata? value = some label →
    after.objects.metadata? value = some label
  pending : ∀ value registration,
    before.objects.object? value = some (.pending registration) →
    after.objects.object? value = some (.pending registration)
  events : after.events = before.events

/-- A path from one session to another, with the registrations asked for on the way. -/
inductive Path (start : Session) : List Attempt → Session → Prop
  | start : Path start [] start
  | aside {history : List Attempt} {between after : Session} : Path start history between →
      between.Aside after → Path start history after
  | attempt {history : List Attempt} {between : Session} (request : Request) :
      Path start history between → request.container < between.containers.size →
      Path start (history ++ [⟨request, between⟩]) (request.run between).2

variable {start before between after : Session} {history more : List Attempt}

theorem Path.trans (h : start.Path history between) (hmore : between.Path more after) :
    start.Path (history ++ more) after := by
  induction hmore with
  | start => exact List.append_nil _ ▸ h
  | aside _ haside ih => exact ih.aside haside
  | attempt request _ hcontainer ih =>
    rw [← List.append_assoc]
    exact ih.attempt request hcontainer

theorem Aside.of_objects {objects : Store}
    (h : ∀ value object, before.objects.object? value = some object →
      ∃ other, objects.object? value = some other ∧ other.label? = object.label? ∧
        ∀ registration, object = .pending registration → other = .pending registration) :
    before.Aside { before with objects } where
  items index container hcontainer := ⟨container, hcontainer, rfl⟩
  fresh index container hnone hsome := by rw [hnone] at hsome; cases hsome
  metadata value label hlabel := by
    rw [Store.metadata?_eq, Option.bind_eq_some_iff] at hlabel ⊢
    obtain ⟨object, hobject, hlabel⟩ := hlabel
    obtain ⟨other, hother, hsame, -⟩ := h value object hobject
    exact ⟨other, hother, hsame.trans hlabel⟩
  pending value registration hvalue := by
    obtain ⟨other, hother, -, hpending⟩ := h value _ hvalue
    rw [hother, hpending registration rfl]
  events := rfl

/-- An object that takes the place of another is an item just as that was. -/
theorem Aside.of_replace {value : Value} {object other : Object}
    (hvalue : before.objects.object? value = some object) (hlabel : other.label? = object.label?)
    (hobject : ∀ registration, object ≠ .pending registration) :
    before.Aside { before with objects := before.objects.replace value other } := by
  refine .of_objects fun found foundObject hfound => ?_
  rw [object?_replace]
  split
  · next hsame =>
    rw [← hsame.1, hvalue] at hfound
    cases hfound
    exact ⟨other, rfl, hlabel, fun registration h => absurd h (hobject registration)⟩
  · exact ⟨foundObject, hfound, rfl, fun _ => id⟩

theorem Aside.of_put {mapping key value : Value} {changed : Object}
    (h : before.objects.put (before.objects.object? mapping) key value = .ok changed) :
    before.Aside { before with objects := before.objects.replace mapping changed } := by
  cases hmapping : before.objects.object? mapping with
  | none =>
    rw [hmapping] at h
    cases h
  | some object =>
    rw [hmapping] at h
    refine .of_replace hmapping (Run.label?_of_put h).1 ?_
    rintro registration rfl
    cases h

theorem aside_createContainer (before : Session) (name : String) (strict : Bool) :
    before.Aside { before with
      containers := before.containers.push (.empty strict)
      named := Entries.put (· == ·) before.named name before.containers.size } where
  items index container hcontainer := by
    refine ⟨container, ?_, rfl⟩
    have hlt := (Array.getElem?_eq_some_iff.mp hcontainer).1
    change (before.containers.push _)[index]? = some container
    rw [Array.getElem?_push_lt hlt]
    exact (Array.getElem?_eq_some_iff.mp hcontainer).2 ▸ rfl
  fresh index container hnone hsome := by
    change (before.containers.push _)[index]? = some container at hsome
    rw [Array.getElem?_push] at hsome
    split at hsome
    · cases hsome
      rfl
    · rw [hnone] at hsome
      cases hsome
  metadata _ _ := id
  pending _ _ := id
  events := rfl

/-- There is a path along all that runs do. -/
theorem steady_path : Steady fun before after => ∃ history, before.Path history after where
  refl _ := ⟨[], .start⟩
  trans := fun ⟨_, h⟩ ⟨_, hmore⟩ => ⟨_, h.trans hmore⟩
  create session object hlabel _ := by
    refine ⟨[], .aside .start (.of_objects fun value found hfound => ?_)⟩
    exact ⟨found, object?_push hfound, rfl, fun _ => id⟩
  put session mapping key value object h := ⟨[], .aside .start (.of_put h)⟩
  createContainer session name strict :=
    ⟨[], .aside .start (aside_createContainer session name strict)⟩
  aside session kept numbered traced := by
    refine ⟨[], .aside .start ⟨fun _ container h => ⟨container, h, rfl⟩, ?_, fun _ _ => id,
      fun _ _ => id, rfl⟩⟩
    intro index container hnone hsome
    rw [show session.containers[index]? = none from hnone] at hsome
    cases hsome
  request session request h := ⟨_, .attempt request .start h⟩

theorem enduring_path : Enduring fun before after => ∃ history, before.Path history after where
  toSteady := steady_path
  remember session self item memo? h :=
    ⟨[], .aside .start (.of_replace h rfl fun _ => by simp)⟩

/-! ## What a path leads to -/

/-- What a history makes of the registries: each holds the fold of what it accepted, the
items are what they were registered as, and the reports tell of what was accepted. -/
structure Accounts (history : List Attempt) (session : Session) : Prop where
  bounded : ∀ attempt ∈ history, attempt.request.container < session.containers.size
  items : ∀ (index : Nat) (container : Container), session.containers[index]? = some container →
    container.items = Entries.putAll (· == ·) [] (history.filterMap (·.stored? index))
  labels : ∀ attempt ∈ history, ∀ item, attempt.result = .ok item →
    session.objects.metadata? item = some (attempt.request.kind, attempt.request.key)
  reports : session.events.filterMap Event.registration? = history.filterMap Attempt.report?

theorem Accounts.aside (h : before.Accounts history) (haside : before.Aside after) :
    after.Accounts history where
  bounded attempt hattempt := by
    obtain ⟨other, hother, -⟩ :=
      haside.items _ _ (Array.getElem?_eq_getElem (h.bounded attempt hattempt))
    exact (Array.getElem?_eq_some_iff.mp hother).1
  items index container hcontainer := by
    cases hbefore : before.containers[index]? with
    | some old =>
      obtain ⟨other, hother, hitems⟩ := haside.items index old hbefore
      rw [hcontainer] at hother
      cases hother
      exact hitems.trans (h.items index old hbefore)
    | none =>
      have hnone : history.filterMap (·.stored? index) = [] := by
        rw [List.filterMap_eq_nil_iff]
        intro attempt hattempt
        have hlt := h.bounded attempt hattempt
        refine if_neg ?_
        rintro rfl
        rw [Array.getElem?_eq_getElem hlt] at hbefore
        cases hbefore
      rw [hnone]
      exact haside.fresh index container hbefore hcontainer
  labels attempt hattempt item hitem := haside.metadata _ _ (h.labels attempt hattempt item hitem)
  reports := haside.events ▸ h.reports

/-- A registration that is refused leaves no trace. -/
theorem Accounts.refused (h : before.Accounts history) {attempt : Attempt} {fault : Fault}
    (hcontainer : attempt.request.container < before.containers.size)
    (hresult : attempt.result = .error fault) : before.Accounts (history ++ [attempt]) where
  bounded := List.forall_mem_append.mpr ⟨h.bounded, List.forall_mem_singleton.mpr hcontainer⟩
  items index container hfound := by
    have hentry : attempt.stored? index = none := by
      simp [Attempt.stored?, hresult, Except.toOption]
    rw [List.filterMap_append, List.filterMap_cons_none hentry, List.filterMap_nil, List.append_nil]
    exact h.items index container hfound
  labels := by
    refine List.forall_mem_append.mpr ⟨h.labels, List.forall_mem_singleton.mpr ?_⟩
    rw [hresult]
    exact nofun
  reports := by
    have hreport : attempt.report? = none := by simp [Attempt.report?, hresult, Except.toOption]
    rw [List.filterMap_append, List.filterMap_cons_none hreport, List.filterMap_nil,
      List.append_nil]
    exact h.reports

/-- A registration that is accepted adds its item. -/
theorem Accounts.stored (h : before.Accounts history) {attempt : Attempt} {object : Object}
    {replaced : List Event}
    (hcontainer : attempt.request.container < before.containers.size)
    (hresult : attempt.result = .ok (.object before.objects.size))
    (hlabel : object.label? = some (attempt.request.kind, attempt.request.key))
    (hreplaced : ∀ event ∈ replaced, ∃ key kind, event = .replaced key kind) :
    ({ before with
      objects := before.objects.push object
      containers := before.containers.modify attempt.request.container
        (·.store attempt.request.key (.object before.objects.size))
      events := before.events ++ replaced ++
        [.registered attempt.request.key attempt.request.kind] } : Session).Accounts
      (history ++ [attempt]) where
  bounded := by
    simp only [Array.size_modify]
    exact List.forall_mem_append.mpr ⟨h.bounded, List.forall_mem_singleton.mpr hcontainer⟩
  items index container hfound := by
    have hentry : attempt.stored? index =
        if attempt.request.container = index then
          some (attempt.request.key, .object before.objects.size)
        else none := by
      simp [Attempt.stored?, hresult, Except.toOption]
    change (before.containers.modify _ _)[index]? = some container at hfound
    rw [Array.getElem?_modify] at hfound
    split at hfound
    · next hindex =>
      obtain ⟨old, hold, rfl⟩ := Option.map_eq_some_iff.mp hfound
      rw [if_pos hindex] at hentry
      rw [List.filterMap_append, List.filterMap_cons_some hentry, List.filterMap_nil,
        Entries.putAll_concat, ← h.items index old hold]
      rfl
    · next hindex =>
      rw [if_neg hindex] at hentry
      rw [List.filterMap_append, List.filterMap_cons_none hentry, List.filterMap_nil,
        List.append_nil]
      exact h.items index container hfound
  labels := by
    refine List.forall_mem_append.mpr ⟨fun other hother item hitem => ?_,
      List.forall_mem_singleton.mpr fun item hitem => ?_⟩
    · have hold := h.labels other hother item hitem
      rw [Store.metadata?_eq, Option.bind_eq_some_iff] at hold ⊢
      obtain ⟨found, hfound, hsame⟩ := hold
      exact ⟨found, object?_push hfound, hsame⟩
    · rw [hresult] at hitem
      cases hitem
      rw [Store.metadata?_eq, Option.bind_eq_some_iff]
      exact ⟨object, Store.object?_create _ _, hlabel⟩
  reports := by
    have hreport : attempt.report? = some (attempt.request.key, attempt.request.kind) := by
      simp [Attempt.report?, hresult, Except.toOption]
    have hsilent : replaced.filterMap Event.registration? = [] := by
      rw [List.filterMap_eq_nil_iff]
      intro event hevent
      obtain ⟨key, kind, rfl⟩ := hreplaced event hevent
      rfl
    rw [List.filterMap_append, List.filterMap_append, hsilent, h.reports, List.append_nil,
      List.filterMap_append, List.filterMap_cons_some hreport, List.filterMap_nil]
    rfl

theorem Accounts.attempt (h : before.Accounts history) {request : Request}
    (hcontainer : request.container < before.containers.size) :
    (request.run before).2.Accounts (history ++ [⟨request, before⟩]) := by
  rcases hrun : request.run before with ⟨result, after⟩
  have houtcome := request.run_outcome hcontainer
  have hresult : (⟨request, before⟩ : Attempt).result = result := congrArg Prod.fst hrun
  rw [hrun] at houtcome
  cases houtcome with
  | refused problem hrefused => exact h.refused hcontainer hresult
  | stored object replaced hacceptable hlabel hreplaced =>
    exact h.stored hcontainer hresult hlabel hreplaced

theorem initial_accounts : initial.Accounts [] where
  bounded := List.forall_mem_nil _
  items index container h := by cases h
  labels := List.forall_mem_nil _
  reports := rfl

/-- A path accounts for the registries at its end. -/
theorem Path.accounts (h : initial.Path history after) : after.Accounts history := by
  induction h with
  | start => exact initial_accounts
  | aside _ haside ih => exact ih.aside haside
  | attempt request _ hcontainer ih => exact ih.attempt hcontainer

/-- Registrations on a path are asked of containers that exist. -/
theorem Path.bounded (h : start.Path history after) :
    ∀ attempt ∈ history, attempt.request.container < attempt.before.containers.size := by
  induction h with
  | start => exact List.forall_mem_nil _
  | aside _ _ ih => exact ih
  | attempt request _ hcontainer ih =>
    exact List.forall_mem_append.mpr ⟨ih, List.forall_mem_singleton.mpr hcontainer⟩

/-- What stands under a key goes on standing there on a path that accepts nothing under it. -/
theorem Path.item?_eq (h : start.Path history after) {index : Nat} {key : String}
    (hhistory : ∀ attempt ∈ history, ∀ item, attempt.stored? index ≠ some (key, item))
    {container : Container} (hcontainer : start.containers[index]? = some container) :
    ∃ other, after.containers[index]? = some other ∧ other.item? key = container.item? key := by
  induction h with
  | start => exact ⟨container, hcontainer, rfl⟩
  | aside _ haside ih =>
    obtain ⟨other, hother, hkey⟩ := ih hhistory
    obtain ⟨last, hlast, hitems⟩ := haside.items index other hother
    refine ⟨last, hlast, Eq.trans ?_ hkey⟩
    unfold Container.item?
    rw [hitems]
  | @attempt _ between request _ hexists ih =>
    obtain ⟨hearlier, hlast⟩ := List.forall_mem_append.mp hhistory
    obtain ⟨other, hother, hkey⟩ := ih hearlier
    have hquiet := List.forall_mem_singleton.mp hlast
    have hresult : (⟨request, between⟩ : Attempt).result = (request.run between).1 := rfl
    have houtcome := request.run_outcome hexists
    generalize request.run between = ran at houtcome hresult ⊢
    cases houtcome with
    | refused problem hrefused => exact ⟨other, hother, hkey⟩
    | stored object replaced hacceptable hlabel hreplaced hnew =>
      dsimp only
      rw [Array.getElem?_modify, hother]
      by_cases hindex : request.container = index
      · rw [if_pos hindex]
        refine ⟨_, rfl, Eq.trans ?_ hkey⟩
        have hstored : (⟨request, between⟩ : Attempt).stored? index =
            some (request.key, .object between.objects.size) := by
          unfold Attempt.stored?
          rw [if_pos hindex, hresult]
          rfl
        have hdiffers : request.key ≠ key := by
          rintro rfl
          exact hquiet _ hstored
        change Entries.find? _ (Entries.put _ _ _ _) key = _
        rw [find?_put, if_neg hdiffers]
        rfl
      · rw [if_neg hindex]
        exact ⟨other, rfl, hkey⟩

end Session

end Registrar
