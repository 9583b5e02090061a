import Registrar.Proofs.Container.Calm
import Registrar.Proofs.Container.History

/-! # What a component remembers

Along a trail each component remembers what its latest render that resolved was given, what
was registered for it then, and the dependency set that was handed over. So whether the next
render shares that set is settled by those two renders alone.
-/

namespace Registrar

namespace Store

/-- Entries by what their keys stand for. -/
def keyed (store : Store) (entries : List (Value × Value)) : List (Option Key × Value) :=
  entries.map fun entry => (store.key? entry.1, entry.2)

variable {store other : Store}

/-- Entries are the same when their keys stand for the same, in the same order, and their
values are identical. -/
theorem sameEntries_iff {entries others : List (Value × Value)} :
    ComponentItem.sameEntries store.sameKey entries others = true ↔
      store.keyed entries = store.keyed others := by
  induction entries generalizing others with
  | nil => cases others <;> simp [ComponentItem.sameEntries, keyed]
  | cons entry entries ih =>
    cases others with
    | nil => simp [ComponentItem.sameEntries, keyed]
    | cons other others =>
      simp only [ComponentItem.sameEntries, Bool.and_eq_true, ih, beq_iff_eq, sameKey, keyed,
        List.map_cons, List.cons.injEq, Prod.mk.injEq]

theorem Keys.keyed_eq {entries : List (Value × Value)} (h : store.Keys entries)
    (hkeys : store.KeepsKeys other) : other.keyed entries = store.keyed entries := by
  refine List.map_congr_left fun entry hentry => ?_
  obtain ⟨key, hkey⟩ := Option.isSome_iff_exists.mp (h entry hentry)
  rw [hkey, hkeys _ _ hkey]

end Store

namespace ComponentItem

theorem sameEntries_iff_eq {entries others : List (String × Value)} :
    sameEntries (· == ·) entries others = true ↔ entries = others := by
  refine ⟨sameEntries_eq, ?_⟩
  rintro rfl
  induction entries with
  | nil => rfl
  | cons entry entries ih => simp [sameEntries, ih]

variable {item : ComponentItem} {container other : Container}

/-- The same is registered for a component if the same is under each declared key. -/
theorem registered_eq_iff (h : ∀ name, container.item? name ≠ some .null)
    (hother : ∀ name, other.item? name ≠ some .null) :
    item.registered container = item.registered other ↔
      ∀ key ∈ item.dependencies, container.item? key = other.item? key := by
  have hvalue (key : String) :
      (container.item? key).getD .null = (other.item? key).getD .null ↔
        container.item? key = other.item? key := by
    have hleft := h key
    have hright := hother key
    revert hleft hright
    cases container.item? key <;> cases other.item? key <;> simp [eq_comm]
  unfold registered
  rw [List.map_inj_left]
  simp only [List.mem_eraseDups, Prod.mk.injEq, true_and, hvalue]

/-- What a component remembers is handed over again if nothing differs. -/
theorem remembered?_eq_some {objects : Store} {properties : List (String × Value)}
    {bag : List (Value × Value)} {registered : List (String × Value)} {set : Value} :
    item.remembered? objects properties bag registered = some set ↔
      ∃ memo, item.memo? = some memo ∧ memo.properties = properties ∧
        objects.keyed memo.bag = objects.keyed bag ∧ memo.registered = registered ∧
        memo.dependencies = set := by
  unfold remembered?
  cases item.memo? with
  | none => simp
  | some memo =>
    simp [sameEntries_iff_eq, Store.sameEntries_iff, and_assoc]

end ComponentItem

namespace Render

/-- The override bag that is given, by what its keys stand for; anything that does not count
as true is an empty bag. -/
def bag? (render : Render) : Option (List (Option Key × Value)) :=
  (render.before.objects.bag? render.overrides).map render.before.objects.keyed

/-- What is registered under a key when a render resolves. -/
def registered? (render : Render) (key : String) : Option Value :=
  render.before.containers[render.item.container]?.bind (·.item? key)

/-- Nothing that a dependency set is shared for differs between two renders: the properties,
the override bag, and what is registered under the declared keys. -/
structure Unchanged (former render : Render) : Prop where
  properties : former.properties = render.properties
  bag : former.bag? = render.bag?
  registered : ∀ key ∈ render.item.dependencies, former.registered? key = render.registered? key

/-- The latest render of a component that resolved. -/
def latest? (self : Value) (log : List Render) : Option Render :=
  log.reverse.find? fun render => render.self == self && render.set?.isSome

theorem latest?_concat (self : Value) (log : List Render) (render : Render) :
    latest? self (log ++ [render]) =
      if render.self = self ∧ render.set?.isSome then some render else latest? self log := by
  unfold latest?
  rw [List.reverse_append, List.reverse_singleton, List.singleton_append, List.find?_cons]
  by_cases h : render.self = self ∧ render.set?.isSome
  · rw [if_pos h]
    simp [h.1, h.2]
  · rw [if_neg h]
    have hfalse : (render.self == self && render.set?.isSome) = false := by
      rw [Bool.eq_false_iff]
      simpa using h
    rw [hfalse]

theorem mem_of_latest? {self : Value} {log : List Render} {render : Render}
    (hlatest : latest? self log = some render) :
    render ∈ log ∧ render.self = self ∧ render.set?.isSome := by
  unfold latest? at hlatest
  have hmem := List.mem_reverse.mp (List.mem_of_find?_eq_some hlatest)
  have hfound := List.find?_some hlatest
  simp only [Bool.and_eq_true, beq_iff_eq] at hfound
  exact ⟨hmem, hfound⟩

/-- What is remembered of a render that is handed a new set. -/
def memo (render : Render) (container : Container) (bag : List (Value × Value)) : Memo where
  properties := render.properties
  bag := bag
  registered := render.item.registered container
  dependencies := .object render.before.objects.size

/-- What comes of resolving a render. -/
inductive Resolves (render : Render) : Except Fault Value × Session → Prop
  | fails (fault : Fault) : Resolves render (.error fault, render.before)
  /-- The component has remembered what it is given, and hands over the same set again. -/
  | shares (container : Container) (bag : List (Value × Value)) (memo : Memo) :
      render.before.containers[render.item.container]? = some container →
      render.before.objects.bag? render.overrides = some bag →
      render.item.memo? = some memo → memo.properties = render.properties →
      render.before.objects.keyed memo.bag = render.before.objects.keyed bag →
      memo.registered = render.item.registered container →
      Resolves render (.ok memo.dependencies, render.before)
  /-- Something differs: a new set is handed over and remembered. -/
  | builds (container : Container) (bag entries : List (Value × Value)) :
      render.before.containers[render.item.container]? = some container →
      render.before.objects.bag? render.overrides = some bag →
      (∀ memo, render.item.memo? = some memo → memo.properties = render.properties →
        render.before.objects.keyed memo.bag = render.before.objects.keyed bag →
        memo.registered ≠ render.item.registered container) →
      Resolves render (.ok (.object render.before.objects.size), { render.before with
        objects := (render.before.objects.create (.dependencies entries)).2.replace render.self
          (.component { render.item with memo? := some (render.memo container bag) }) })

theorem resolves (render : Render) : render.Resolves render.resolve := by
  unfold resolve ComponentItem.prepare
  rw [Run.bind_apply]
  cases hbag : render.before.objects.bag? render.overrides with
  | none =>
    unfold Run.bag
    rw [Run.bind_apply, Run.objects_apply]
    dsimp only
    rw [hbag]
    exact .fails _
  | some bag =>
    rw [Run.bag_apply hbag]
    dsimp only
    rw [Run.bind_apply]
    cases hcontainer : render.before.containers[render.item.container]? with
    | none =>
      rw [Run.container_of_none hcontainer]
      exact .fails _
    | some container =>
      rw [Run.container_of_some hcontainer]
      dsimp only
      rw [Run.bind_apply, Run.objects_apply]
      dsimp only
      cases hremembered : render.item.remembered? render.before.objects render.properties bag
          (render.item.registered container) with
      | some set =>
        obtain ⟨memo, hmemo, hproperties, hsame, hregistered, rfl⟩ :=
          ComponentItem.remembered?_eq_some.mp hremembered
        exact .shares container bag memo hcontainer hbag hmemo hproperties hsame hregistered
      | none =>
        dsimp only
        rw [Run.bind_apply, Run.dependencySet_apply]
        cases render.before.afresh render.item.container render.item.dependencies bag with
        | error fault => exact .fails fault
        | ok entries =>
          refine .builds container bag entries hcontainer hbag ?_
          intro memo hmemo hproperties hsame hregistered
          have hsome := ComponentItem.remembered?_eq_some.mpr
            ⟨memo, hmemo, hproperties, hsame, hregistered, rfl⟩
          rw [hremembered] at hsome
          cases hsome

/-- A render that does not resolve leaves everything as it is. -/
theorem after_of_set?_eq_none {render : Render} (h : render.set? = none) :
    render.after = render.before := by
  have hresolves := render.resolves
  unfold set? at h
  unfold after
  generalize render.resolve = result at hresolves h ⊢
  cases hresolves with
  | fails fault => rfl
  | shares => cases h
  | builds => cases h

theorem containers_after (render : Render) :
    render.after.containers = render.before.containers := by
  have hresolves := render.resolves
  unfold after
  generalize render.resolve = result at hresolves
  cases hresolves <;> rfl

/-- A render that resolved has its container. -/
theorem container_of_set? {render : Render} (h : render.set?.isSome) :
    ∃ container, render.before.containers[render.item.container]? = some container := by
  have hresolves := render.resolves
  unfold set? at h
  generalize render.resolve = result at hresolves h
  cases hresolves with
  | fails fault => cases h
  | shares container bag memo hcontainer => exact ⟨container, hcontainer⟩
  | builds container bag entries hcontainer => exact ⟨container, hcontainer⟩

/-- A render leaves other components as they are. -/
theorem object?_after {render : Render} {self : Value} {item : ComponentItem}
    (hother : render.self ≠ self)
    (hself : render.after.objects.object? self = some (.component item)) :
    render.before.objects.object? self = some (.component item) := by
  have hresolves := render.resolves
  unfold after at hself
  generalize render.resolve = result at hresolves hself
  cases hresolves with
  | fails fault => exact hself
  | shares => exact hself
  | builds container bag entries =>
    dsimp only at hself
    rw [Session.object?_replace, if_neg fun hsame => hother hsame.1] at hself
    cases self with
    | object reference =>
      change (render.before.objects.push _)[reference]? = _ at hself
      rw [Array.getElem?_push] at hself
      split at hself
      · cases hself
      · exact hself
    | _ => cases hself

end Render

/-! ## Along a trail -/

/-- The entries of an override bag have keys that can be keys. -/
theorem Store.Orderly.keys_of_bag? {store : Store} (h : store.Orderly) {overrides : Value}
    {bag : List (Value × Value)} (hbag : store.bag? overrides = some bag) : store.Keys bag := by
  unfold bag? at hbag
  split at hbag
  · exact h.keys hbag
  · cases hbag
    exact store.keys_nil

namespace Session

/-- A memo recalls a render: what it was given, what was registered for it, and its set. -/
structure Recalls (session : Session) (memo : Memo) (render : Render) : Prop where
  properties : memo.properties = render.properties
  bag : render.bag? = some (session.objects.keyed memo.bag)
  keys : session.objects.Keys memo.bag
  registered : ∃ container, render.before.containers[render.item.container]? = some container ∧
    memo.registered = render.item.registered container
  set : render.set? = some memo.dependencies

/-- A component remembers nothing before it was first resolved, and else its latest render. -/
structure RecallsLatest (session : Session) (log : List Render) (component : Value)
    (item : ComponentItem) : Prop where
  unresolved : Render.latest? component log = none → item.memo? = none
  latest : ∀ render, Render.latest? component log = some render →
    ∃ memo, item = { render.item with memo? := some memo } ∧ session.Recalls memo render

/-- What renders have left: the components, the sets that were handed over, and what is
remembered. -/
structure Bears (session : Session) (log : List Render) : Prop where
  selves : ∀ render ∈ log, (session.objects.object? render.self).isSome
  sets : ∀ render ∈ log, ∀ set, render.set? = some set → (session.objects.object? set).isSome
  components : ∀ self item, session.objects.object? self = some (.component item) →
    session.RecallsLatest log self item

variable {session after : Session} {log : List Render} {memo : Memo} {self : Value}
  {item : ComponentItem} {render : Render}

theorem Recalls.mono (h : session.Recalls memo render)
    (hkeys : session.objects.KeepsKeys after.objects) : after.Recalls memo render :=
  { h with bag := (h.keys.keyed_eq hkeys).symm ▸ h.bag, keys := h.keys.mono hkeys }

theorem RecallsLatest.mono (h : session.RecallsLatest log self item)
    (hkeys : session.objects.KeepsKeys after.objects) : after.RecallsLatest log self item where
  unresolved := h.unresolved
  latest former hformer := by
    obtain ⟨memo, hitem, hrecalls⟩ := h.latest former hformer
    exact ⟨memo, hitem, hrecalls.mono hkeys⟩

/-- A component that remembers something remembers its latest render. -/
theorem RecallsLatest.of_memo (h : session.RecallsLatest log self item)
    (hmemo : item.memo? = some memo) : ∃ former, Render.latest? self log = some former ∧
      item = { former.item with memo? := some memo } ∧ session.Recalls memo former := by
  cases hlatest : Render.latest? self log with
  | none =>
    rw [h.unresolved hlatest] at hmemo
    cases hmemo
  | some former =>
    obtain ⟨other, rfl, hrecalls⟩ := h.latest former hlatest
    cases hmemo
    exact ⟨former, rfl, rfl, hrecalls⟩

/-- Another component's render, or one that fails, is not the latest. -/
theorem RecallsLatest.concat (h : session.RecallsLatest log self item)
    (hother : ¬(render.self = self ∧ render.set?.isSome)) :
    session.RecallsLatest (log ++ [render]) self item := by
  have hlatest := Render.latest?_concat self log render
  rw [if_neg hother] at hlatest
  exact ⟨fun hnone => h.unresolved (hlatest ▸ hnone), fun former hsome => h.latest former (hlatest ▸ hsome)⟩

theorem RecallsLatest.of_recalls (hself : render.self = self)
    (hitem : item = { render.item with memo? := some memo }) (h : session.Recalls memo render) :
    session.RecallsLatest (log ++ [render]) self item := by
  have hlatest := Render.latest?_concat self log render
  rw [if_pos ⟨hself, by rw [h.set]; rfl⟩] at hlatest
  refine ⟨fun hnone => ?_, fun former hsome => ?_⟩
  · rw [hlatest] at hnone
    cases hnone
  · rw [hlatest] at hsome
    cases hsome
    exact ⟨memo, hitem, h⟩

theorem Bears.calm (h : session.Bears log) (hcalm : session.Calm after) : after.Bears log where
  selves render hrender := hcalm.objects.exists_of_exists (h.selves render hrender)
  sets render hrender set hset := hcalm.objects.exists_of_exists (h.sets render hrender set hset)
  components self item hself := by
    rcases hcalm.objects.fresh self item hself with hold | ⟨hnone, hmemo⟩
    · exact (h.components self item hold).mono hcalm.objects.keys
    · refine ⟨fun _ => hmemo, fun former hlatest => ?_⟩
      obtain ⟨hmem, rfl, -⟩ := Render.mem_of_latest? hlatest
      have hexists := h.selves former hmem
      rw [hnone] at hexists
      cases hexists

/-- A component that was resolved remembers the render and its set. -/
theorem Bears.recalls (h : render.before.Bears log) (horderly : render.before.objects.Orderly)
    (hself : render.before.objects.object? render.self = some (.component render.item))
    (hlasts : render.before.Lasts render.after) (hset : render.set?.isSome) :
    ∃ memo, render.after.objects.object? render.self =
        some (.component { render.item with memo? := some memo }) ∧
      render.after.Recalls memo render ∧
      (render.after.objects.object? memo.dependencies).isSome := by
  have hresolves := render.resolves
  have hset? : render.set? = render.resolve.1.toOption := rfl
  have hafter : render.after = render.resolve.2 := rfl
  have hbag? : render.bag? =
    (render.before.objects.bag? render.overrides).map render.before.objects.keyed := rfl
  generalize render.resolve = result at hresolves hset? hafter
  cases hresolves with
  | fails fault =>
    rw [hset?] at hset
    cases hset
  | shares container bag memo hcontainer hbag hmemo hproperties hsame hregistered =>
    obtain ⟨former, hlatest, hitem, hrecalls⟩ := (h.components _ _ hself).of_memo hmemo
    dsimp only at hafter
    rw [hafter]
    refine ⟨memo, ?_, ⟨hproperties, ?_, hrecalls.keys, ⟨container, hcontainer, hregistered⟩, hset?⟩,
      h.sets former (Render.mem_of_latest? hlatest).1 _ hrecalls.set⟩
    · rw [hself, ← hmemo]
    · rw [hbag?, hbag, hsame]
      rfl
  | builds container bag entries hcontainer hbag hdiffers =>
    have hkeys := horderly.keys_of_bag? hbag
    have hmade := Store.object?_create render.before.objects (.dependencies entries)
    have hkept : (render.before.objects.create (.dependencies entries)).2.object? render.self =
      some (.component render.item) := object?_push hself
    refine ⟨render.memo container bag, ?_, ⟨rfl, ?_, hkeys.mono hlasts.objects.keys,
      ⟨container, hcontainer, rfl⟩, hset?⟩, ?_⟩
    · rw [hafter, object?_replace, if_pos ⟨rfl, by rw [hkept]; rfl⟩]
    · rw [hbag?, hbag, Option.map_some, ← hkeys.keyed_eq hlasts.objects.keys]
      rfl
    · rw [hafter, object?_replace]
      split
      · rfl
      · change (Store.object? _ (render.before.objects.create (.dependencies entries)).1).isSome
        rw [hmade]
        rfl

/-- A render leaves its set, and is the latest of its component if it resolved. -/
theorem Bears.concat (h : render.before.Bears log) (horderly : render.before.objects.Orderly)
    (hself : render.before.objects.object? render.self = some (.component render.item))
    (hlasts : render.before.Lasts render.after) : render.after.Bears (log ++ [render]) where
  selves := by
    refine List.forall_mem_append.mpr ⟨fun former hformer => ?_, List.forall_mem_singleton.mpr ?_⟩
    · exact hlasts.objects.exists_of_exists (h.selves former hformer)
    · exact hlasts.objects.exists_of_exists (Option.isSome_iff_exists.mpr ⟨_, hself⟩)
  sets := by
    refine List.forall_mem_append.mpr ⟨fun former hformer set hset => ?_,
      List.forall_mem_singleton.mpr fun set hset => ?_⟩
    · exact hlasts.objects.exists_of_exists (h.sets former hformer set hset)
    · obtain ⟨memo, -, hrecalls, hexists⟩ :=
        h.recalls horderly hself hlasts (Option.isSome_iff_exists.mpr ⟨set, hset⟩)
      cases hrecalls.set.symm.trans hset
      exact hexists
  components self item hitem := by
    by_cases hresolved : render.self = self ∧ render.set?.isSome
    · obtain ⟨rfl, hset⟩ := hresolved
      obtain ⟨memo, hmemo, hrecalls, -⟩ := h.recalls horderly hself hlasts hset
      cases hmemo.symm.trans hitem
      exact .of_recalls rfl rfl hrecalls
    · have hbefore : render.before.objects.object? self = some (.component item) := by
        by_cases hother : render.self = self
        · have hfails : render.set? = none := by
            rw [← Option.not_isSome_iff_eq_none]
            exact fun hset => hresolved ⟨hother, hset⟩
          rwa [Render.after_of_set?_eq_none hfails] at hitem
        · exact Render.object?_after hother hitem
      exact ((h.components self item hbefore).mono hlasts.objects.keys).concat hresolved

theorem initial_bears : initial.Bears [] where
  selves := List.forall_mem_nil _
  sets := List.forall_mem_nil _
  components self item h := by
    cases self with
    | object reference =>
      match reference with
      | 0 => cases h
      | reference + 1 => cases h
    | _ => cases h

theorem initial_filled : initial.Filled := fun _ _ h => nomatch h

theorem Trail.filled (h : initial.Trail Calm log after) : after.Filled :=
  h.lasts.filled initial_filled

theorem Trail.orderly (h : initial.Trail Calm log after) : after.objects.Orderly :=
  h.lasts.objects.orderly Store.initial_orderly

theorem Trail.bears (h : initial.Trail Calm log after) : after.Bears log := by
  induction h with
  | start => exact initial_bears
  | calm _ hcalm ih => exact ih.calm hcalm
  | render render htrail hgrounded hself ih =>
    exact ih.concat htrail.orderly hself
      (render.item.prepare_follows enduring_lasts hgrounded hself _ _).2

/-- Nothing differs between two renders if nothing differs from what is remembered. -/
theorem Recalls.unchanged_iff {former : Render} {container : Container}
    {bag : List (Value × Value)} (h : render.before.Recalls memo former)
    (hitem : render.item = { former.item with memo? := some memo })
    (hformer : former.before.Filled) (hrender : render.before.Filled)
    (hcontainer : render.before.containers[render.item.container]? = some container)
    (hbag : render.before.objects.bag? render.overrides = some bag) :
    former.Unchanged render ↔ memo.properties = render.properties ∧
      render.before.objects.keyed memo.bag = render.before.objects.keyed bag ∧
      memo.registered = render.item.registered container := by
  obtain ⟨other, hother, hregistered⟩ := h.registered
  have hbag? : render.bag? = some (render.before.objects.keyed bag) := by
    unfold Render.bag?
    rw [hbag]
    rfl
  have hsame : memo.registered = render.item.registered container ↔
      ∀ key ∈ render.item.dependencies, former.registered? key = render.registered? key := by
    have hregister : former.item.registered other = render.item.registered other := by
      rw [hitem]
      rfl
    unfold Render.registered?
    rw [hregistered, hregister, hother, hcontainer]
    exact ComponentItem.registered_eq_iff (hformer _ _ hother) (hrender _ _ hcontainer)
  rw [hsame]
  constructor
  · rintro ⟨hproperties, hbags, hkeys⟩
    rw [h.bag, hbag?] at hbags
    exact ⟨h.properties.trans hproperties, Option.some.inj hbags, hkeys⟩
  · rintro ⟨hproperties, hbags, hkeys⟩
    exact ⟨h.properties.symm.trans hproperties, by rw [h.bag, hbag?, hbags], hkeys⟩

/-- A render shares the set of the latest one if nothing differs, and else makes a new one. -/
theorem Trail.shares_or_builds {back : List Render} {set : Value}
    (htrail : initial.Trail Calm (log ++ render :: back) after)
    (hset : render.set? = some set) :
    (∃ former, Render.latest? render.self log = some former ∧ former.set? = some set ∧
        former.Unchanged render) ∨
      render.before.objects.object? set = none ∧
        ∀ former, Render.latest? render.self log = some former → ¬former.Unchanged render := by
  obtain ⟨hbefore, hself, -⟩ := htrail.split
  have hlatest := hbefore.bears.components _ _ hself
  have hformer {former : Render} (hmem : former ∈ log) : former.before.Filled := by
    obtain ⟨front, back, rfl⟩ := List.append_of_mem hmem
    exact hbefore.split.1.filled
  have hset? : render.set? = render.resolve.1.toOption := rfl
  have hresolves := render.resolves
  generalize render.resolve = result at hresolves hset?
  rw [hset] at hset?
  cases hresolves with
  | fails fault => cases hset?
  | shares container bag memo hcontainer hbag hmemo hproperties hsame hregistered =>
    cases hset?
    obtain ⟨former, hfound, hitem, hrecalls⟩ := hlatest.of_memo hmemo
    refine .inl ⟨former, hfound, hrecalls.set, ?_⟩
    exact (hrecalls.unchanged_iff hitem (hformer (Render.mem_of_latest? hfound).1) hbefore.filled
      hcontainer hbag).mpr ⟨hproperties, hsame, hregistered⟩
  | builds container bag entries hcontainer hbag hdiffers =>
    cases hset?
    refine .inr ⟨Array.getElem?_eq_none (Nat.le_refl _), fun former hfound hunchanged => ?_⟩
    obtain ⟨memo, hitem, hrecalls⟩ := hlatest.latest former hfound
    obtain ⟨hproperties, hsame, hregistered⟩ :=
      (hrecalls.unchanged_iff hitem (hformer (Render.mem_of_latest? hfound).1) hbefore.filled
        hcontainer hbag).mp hunchanged
    exact hdiffers memo (by rw [hitem]) hproperties hsame hregistered

end Session

end Registrar
