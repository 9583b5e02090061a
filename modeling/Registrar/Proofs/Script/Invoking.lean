import Registrar.Proofs.Script.Isolation
import Registrar.Proofs.Signature.Hiding

/-! # Calls of function items

A function item shows its callers a signature. Its implementation is entered exactly by the calls
that bind to it, and holds what they bind, and the dependency set. The exception is a set that
positions left out before a positional-only parameter move to an earlier one.
-/

namespace Registrar

open Signature

/-- Enter a callable with arguments for its parameters. -/
def Callable.receive (callable : Callable) (call : Caller)
    (bound : List (String × Argument Value)) : Run Value := do
  let scope ← bound.mapM fun (name, argument) => return (name, ← Run.argument argument)
  callable.body.eval call scope

namespace Run

variable {session : Session} {value : Value} {callable : Callable} {item : FunctionItem}
  {hidden : DependencyParameter} {positions : List Value} {names : List (String × Value)}
  {bag entries : List (Value × Value)}

/-- A callable is entered if the arguments bind to its parameters, and else the call is mistyped. -/
theorem callOnce_callable (h : session.objects.object? value = some (.callable callable))
    (call : Caller) (positions : List Value) (names : List (String × Value)) :
    callOnce call value positions names session =
      match callable.signature.bind? positions names with
      | none => (.error .mistyped, session)
      | some bound => callable.receive call bound session := by
  unfold callOnce
  rw [bind_apply, object?_apply]
  dsimp only
  rw [h]
  dsimp only
  rw [bind_apply]
  cases callable.signature.bind? positions names <;> rfl

/-- A call without a position for the bag makes a dependency set and hands it over. -/
theorem callOnce_handOver (hitem : session.objects.object? value = some (.function item))
    (hhidden : item.injection.parameter? = some hidden)
    (hpositions : positions.length ≤ hidden.position)
    (hreceiver : givesName names receiverName = false)
    (hbag : session.objects.bag? ((givenBy bagName names).getD .null) = some bag)
    (hentries : session.afresh item.container item.dependencies bag = .ok entries) :
    ∃ set after, after.objects.object? set = some (.dependencies entries) ∧
      after.containers = session.containers ∧
      (∀ other object, session.objects.object? other = some object →
        after.objects.object? other = some object) ∧
      ∀ call, callOnce call value positions names session =
        call item.implementation (handOver hidden set positions names).1
          (handOver hidden set positions names).2 after := by
  have htake : item.takeBag hidden.position positions names =
      .ok ⟨positions, besides bagName names, (givenBy bagName names).getD .null⟩ := by
    unfold FunctionItem.takeBag
    rw [List.drop_eq_nil_of_le hpositions]
  refine ⟨_, { session with objects := (session.objects.create (.dependencies entries)).2 },
    Store.object?_create _ _, rfl, fun _ _ hobject => Session.object?_push hobject, fun call => ?_⟩
  rw [callOnce_function hitem, FunctionItem.invoke_apply call hhidden hreceiver htake hbag,
    dependencySet_apply, hentries]
  unfold handOver
  cases hidden.positionalOnly <;> rfl

/-- A function item honours the signature it shows. A call with at most the positions before the
dependency set enters the implementation exactly if it binds to that signature, and then each
parameter holds what it binds, and the hidden one the dependency set; a call that does not bind is
mistyped. This holds unless the set is misplaced: then a call that enters the implementation has it
in an earlier parameter, and the default of the hidden one in its place. -/
theorem callOnce_binds (hitem : session.objects.object? value = some (.function item))
    (himplementation : session.objects.object? item.implementation = some (.callable callable))
    (hwell : callable.signature.WellFormed) (hdependencies : item.dependencies ≠ [])
    (hinjection : callable.signature.injection .null (!item.dependencies.isEmpty) =
      .ok item.injection)
    (hhidden : item.injection.parameter? = some hidden)
    (hpositions : positions.length ≤ hidden.position)
    (hreceiver : givesName names receiverName = false)
    (hname : hidden.name = bagName ∨ givenBy hidden.name names = none)
    (hbag : session.objects.bag? ((givenBy bagName names).getD .null) = some bag)
    (hentries : session.afresh item.container item.dependencies bag = .ok entries) (call : Caller) :
    ∃ set after, after.objects.object? set = some (.dependencies entries) ∧
      after.containers = session.containers ∧
      (misplaces callable.signature hidden positions = false →
        callOnce (callOnce call) value positions names session =
          match item.injection.signature.bind? positions names with
          | none => (.error .mistyped, after)
          | some bound => callable.receive call (handed hidden set bound) after) ∧
      (misplaces callable.signature hidden positions = true →
        callOnce (callOnce call) value positions names session = (.error .mistyped, after) ∨
        ∃ bound parameter default,
          callOnce (callOnce call) value positions names session =
            callable.receive call bound after ∧
          callable.signature[positions.length]? = some parameter ∧
          bound[positions.length]? = some (parameter.name, .one set) ∧
          ⟨hidden.name, .positionalOnly, some default⟩ ∈ callable.signature ∧
          bound[hidden.position]? = some (hidden.name, .one default)) := by
  have hneeds : (!item.dependencies.isEmpty) = true := by simpa using hdependencies
  obtain ⟨placed, hplaced, hshown⟩ : ∃ placed, callable.signature.dependencyParameter = .ok placed ∧
      item.injection = ⟨some placed, callable.signature.visible .null placed⟩ := by
    rw [injection, if_pos hneeds] at hinjection
    cases hplaced : callable.signature.dependencyParameter with
    | error reason => rw [hplaced] at hinjection; cases hinjection
    | ok placed => rw [hplaced] at hinjection; exact ⟨placed, rfl, (Except.ok.inj hinjection).symm⟩
  obtain rfl : placed = hidden := by simpa [hshown] using hhidden
  obtain ⟨leading, slot, trailing, h⟩ := placed_of_dependencyParameter hwell hplaced
  obtain ⟨set, after, hset, hcontainers, hkept, hcall⟩ :=
    callOnce_handOver hitem hhidden hpositions hreceiver hbag hentries
  refine ⟨set, after, hset, hcontainers, fun hplace => ?_, fun hplace => ?_⟩
  · rw [hcall, callOnce_callable (hkept _ _ himplementation),
      h.bind?_of_not_misplaces hwell hpositions hname hplace, hshown]
    cases (callable.signature.visible Value.null placed).bind? positions names <;> rfl
  · rw [hcall, callOnce_callable (hkept _ _ himplementation)]
    cases hbound : bind? callable.signature (handOver placed set positions names).1
        (handOver placed set positions names).2 with
    | none => exact .inl rfl
    | some bound =>
      obtain ⟨parameter, default, hparameter, hearlier, hslot, hdefault⟩ :=
        h.bind?_of_misplaces hwell hplace hbound
      exact .inr ⟨bound, parameter, default, rfl, hparameter, hearlier, hslot, hdefault⟩

/-- A callable that takes its dependency set behind a parameter with a default. -/
def counting : Callable where
  signature := [⟨"a", .positional, none⟩, ⟨"b", .positional, some (.int 1)⟩,
    ⟨"set", .positional, some .null⟩, ⟨"k", .named, some (.int 2)⟩, ⟨"rest", .keywords, none⟩]
  body := .argument "set"
  name := "count"
  qualifiedName := "count"
  form := .function

theorem counting_wellFormed : counting.signature.WellFormed where
  ordered := by simp [counting, ParameterKind.rank]
  distinct := by decide
  rest := by simp [counting]
  defaulted := by simp [counting, positionals, ParameterKind.isPositional]
  plain := by simp [counting]

/-- A session with a callable that is registered with one dependency. -/
def invoking : Session :=
  { Session.initial with
    objects := #[.tuple [], .callable counting, .function
      { name := "count", kind := .function, dependencies := ["A"], implementation := .object 1
        injection := ⟨some ⟨"set", 2, false⟩,
          [⟨"a", .positional, none⟩, ⟨"b", .positional, some (.int 1)⟩,
            ⟨"k", .named, some (.int 2)⟩, ⟨"deps", .named, some .null⟩, ⟨"rest", .keywords, none⟩]⟩
        container := 0, shownName? := none, qualifiedName? := none }]
    containers := #[⟨true, [("A", .int 3)], []⟩] }

/-- Defaults before and behind the dependency set stay where they are. -/
theorem invoking_binds :
    ∃ set after, after.objects.object? set = some (.dependencies [(.text "A", .int 3)]) ∧
      callWithin 2 (.object 2) [.int 10] [("k", .int 5), ("x", .int 7)] invoking =
        counting.receive (callWithin 0) [("a", .one (.int 10)), ("b", .one (.int 1)),
          ("set", .one set), ("k", .one (.int 5)), ("rest", .entries [("x", .int 7)])] after := by
  obtain ⟨set, after, hset, -, hbinds, -⟩ := @callOnce_binds invoking (.object 2) counting _
    ⟨"set", 2, false⟩ [.int 10] [("k", .int 5), ("x", .int 7)] [] [(.text "A", .int 3)] rfl rfl
    counting_wellFormed (List.cons_ne_nil _ _) rfl rfl (by decide) rfl (.inr rfl) rfl rfl
    (callWithin 0)
  exact ⟨set, after, hset, hbinds rfl⟩

end Run

end Registrar
