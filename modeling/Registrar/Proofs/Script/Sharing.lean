import Registrar.Proofs.Container.Sharing
import Registrar.Proofs.Script.Following

/-! # Sharing of dependency sets

Whatever a script does, nested renders and failing ones included, a render shares the
dependency set of the latest render of its component exactly when nothing it is shared for
has changed in between.
-/

namespace Registrar

open Session

/-- A path that accepts nothing under a declared key leads from one render to the next with the
same registered for them. -/
theorem Session.Path.registered? {history : List Attempt} {former render : Render}
    (h : former.after.Path history render.before) (hformer : former.set?.isSome)
    (hcontainer : former.item.container = render.item.container) {key : String}
    (hhistory : ∀ attempt ∈ history, ∀ item,
      attempt.stored? render.item.container ≠ some (key, item)) :
    former.registered? key = render.registered? key := by
  obtain ⟨container, hfound⟩ := Render.container_of_set? hformer
  have hafter : former.after.containers[render.item.container]? = some container := by
    rw [former.containers_after, ← hcontainer, hfound]
  obtain ⟨other, hother, hkey⟩ := h.item?_eq hhistory hafter
  unfold Render.registered?
  rw [hfound, hother, Option.bind_some, Option.bind_some, hkey]

/-- Whatever steps are taken from the start, with calls nested at any depth, a render that
resolves hands over the set of the latest render of its component that resolved if and only
if the properties, the override bag and what is registered under the declared keys are the
same. A set that is not shared is new, and no earlier render handed it over. Registrations
under other keys never make a new set. -/
theorem rendersOf_share {depth : Nat} {steps : List Step} {log back : List Render}
    {render : Render} {set : Value}
    (h : Run.rendersOf depth steps .initial = log ++ render :: back)
    (hset : render.set? = some set) :
    (∀ former, Render.latest? render.self log = some former →
      (former.set? = some set ↔ former.Unchanged render)) ∧
    ((∀ former, Render.latest? render.self log = some former → ¬former.Unchanged render) →
      render.before.objects.object? set = none ∧ ∀ earlier ∈ log, earlier.set? ≠ some set) ∧
    ∀ former, Render.latest? render.self log = some former →
      ∃ history, former.after.Path history render.before ∧
        ((∀ attempt ∈ history, ∀ key ∈ render.item.dependencies, ∀ item,
            attempt.stored? render.item.container ≠ some (key, item)) →
          former.properties = render.properties → former.bag? = render.bag? →
          former.set? = some set) := by
  have htrail := (Run.takeSteps_tracks steady_calm depth steps initial_grounded).2
  have hpath := (Run.takeSteps_tracks steady_path depth steps initial_grounded).2
  rw [h] at htrail hpath
  obtain ⟨hbefore, hself, -⟩ := htrail.split
  have hexists : ∀ earlier ∈ log, earlier.set? = some set →
      render.before.objects.object? set ≠ none := fun earlier hearlier hsame hnone => by
    have hsome := hbefore.bears.sets earlier hearlier set hsame
    rw [hnone] at hsome
    cases hsome
  have hshares (former : Render) (hlatest : Render.latest? render.self log = some former) :
      former.set? = some set ↔ former.Unchanged render := by
    rcases htrail.shares_or_builds hset with ⟨shared, hshared, hsame, hunchanged⟩ | ⟨hnone, hchanged⟩
    · cases hshared.symm.trans hlatest
      exact iff_of_true hsame hunchanged
    · refine iff_of_false (fun hsame => ?_) (hchanged former hlatest)
      exact hexists former (Render.mem_of_latest? hlatest).1 hsame hnone
  refine ⟨hshares, fun hchanged => ?_, fun former hlatest => ?_⟩
  · rcases htrail.shares_or_builds hset with ⟨shared, hshared, -, hunchanged⟩ | ⟨hnone, -⟩
    · exact absurd hunchanged (hchanged shared hshared)
    · exact ⟨hnone, fun earlier hearlier hsame => hexists earlier hearlier hsame hnone⟩
  · obtain ⟨hmem, -, hresolved⟩ := Render.mem_of_latest? hlatest
    obtain ⟨memo, hitem, -⟩ := (hbefore.bears.components _ _ hself).latest former hlatest
    obtain ⟨front, middle, rfl⟩ := List.append_of_mem hmem
    obtain ⟨history, hhistory⟩ :=
      hpath.split.1.split.2.2.follows enduring_path fun _ _ => id
    refine ⟨history, hhistory, fun hquiet hproperties hbag => (hshares former hlatest).mpr ?_⟩
    refine ⟨hproperties, hbag, fun key hkey => ?_⟩
    have hcontainer : former.item.container = render.item.container := by rw [hitem]
    exact hhistory.registered? hresolved hcontainer fun attempt hattempt =>
      hquiet attempt hattempt key hkey

/-- A component is rendered, again after something it does not declare was registered, and
again after its dependency was: only the last render is handed another set. -/
theorem rerendered_share :
    let register (name : String) : Step := ⟨"c", none, .registerConfig (.text name) (.dict [])⟩
    let component : Term := .callable [⟨"deps", .named, none⟩] (.argument "deps") "show" "show"
      .function
    let render : Step := ⟨"c", none, .evaluate (.call (.stored "Show") [] [])⟩
    let steps : List Step :=
      [⟨"c", none, .create true⟩, register "A",
        ⟨"c", some "Show", .register .component .direct (.text "Show") (.list [.text "A"])
          (some component) none⟩, render, register "B", render, register "A", render]
    ∃ first second third : Render, Run.rendersOf 2 steps .initial = [first, second, third] ∧
      first.set? = some (.object 6) ∧ second.set? = some (.object 6) ∧
      third.set? = some (.object 11) ∧ first.Unchanged second ∧ ¬second.Unchanged third ∧
      third.before.objects.object? (.object 11) = none := by
  intro register component render steps
  have hlength : (Run.rendersOf 2 steps .initial).length = 3 := by decide +kernel
  have hsets : (Run.rendersOf 2 steps .initial).map Render.set? =
      [some (.object 6), some (.object 6), some (.object 11)] := by decide +kernel
  have hselves : (Run.rendersOf 2 steps .initial).map Render.self =
      [.object 5, .object 5, .object 5] := by decide +kernel
  obtain ⟨first, second, third, hlog⟩ := List.length_eq_three.mp hlength
  rw [hlog] at hsets hselves
  obtain ⟨hfirst, hsecond, hthird⟩ : first.set? = some (.object 6) ∧
      second.set? = some (.object 6) ∧ third.set? = some (.object 11) := by simpa using hsets
  obtain ⟨hself, hself', hself''⟩ : first.self = .object 5 ∧ second.self = .object 5 ∧
      third.self = .object 5 := by simpa using hselves
  have hlatest : Render.latest? second.self [first] = some first := by
    simp [Render.latest?, hself, hself', hfirst]
  have hlatest' : Render.latest? third.self [first, second] = some second := by
    simp [Render.latest?, hself', hself'', hsecond]
  have hshared := rendersOf_share
    (show Run.rendersOf 2 steps .initial = [first] ++ second :: [third] from hlog) hsecond
  have hbuilt := rendersOf_share
    (show Run.rendersOf 2 steps .initial = [first, second] ++ third :: [] from hlog) hthird
  have hchanged : ¬second.Unchanged third := by
    rw [← hbuilt.1 second hlatest', hsecond]
    decide
  refine ⟨first, second, third, hlog, hfirst, hsecond, hthird,
    (hshared.1 first hlatest).mp hfirst, hchanged, (hbuilt.2.1 fun former hformer => ?_).1⟩
  cases hlatest'.symm.trans hformer
  exact hchanged

end Registrar
