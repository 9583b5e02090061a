import Registrar.Proofs.Container.Handover
import Registrar.Proofs.Signature.Hiding

/-! # What function items pass on

A function item looks at the arguments of a call, builds a dependency set, and then calls its
implementation once, with arguments that hang on nothing but the call and the session. Which of the
arguments is the override bag is settled before anything is built.
-/

namespace Registrar

open Signature

/-- A call with arguments that have no place is refused by one of these. -/
def Fault.refusesArguments : Fault → Bool
  | .tooManyPositions .. | .secondBag _ | .mistyped => true
  | _ => false

namespace FunctionItem

variable {item : FunctionItem} {position : Nat} {positions : List Value} {bag : Value}
  {names : List (String × Value)}

/-! ## The override bag -/

/-- Without a position for it, the bag is the named one. -/
theorem takeBag_named (h : positions.length ≤ position) : item.takeBag position positions names =
    .ok ⟨positions, besides bagName names, (givenBy bagName names).getD .null⟩ := by
  unfold takeBag
  rw [List.drop_eq_nil_of_le h]

/-- The position right after those of the implementation is the bag, and the only one. -/
theorem takeBag_position : item.takeBag positions.length (positions ++ [bag]) names =
    if (givenBy bagName names).getD .null = .null then .ok ⟨positions, besides bagName names, bag⟩
    else .error (.secondBag item.name) := by
  unfold takeBag
  rw [List.drop_left, List.take_left]

theorem takeBag_tooMany (h : position + 1 < positions.length) :
    item.takeBag position positions names =
      .error (.tooManyPositions item.name (position + 1) positions.length) := by
  have hlength : 2 ≤ (positions.drop position).length := by
    rw [List.length_drop]
    omega
  unfold takeBag
  split
  · next hnil => simp [hnil] at hlength
  · next hone => simp [hone] at hlength
  · rfl

/-! ## The implementation's arguments -/

/-- The arguments by position and by name with which the implementation is called. -/
def passes (item : FunctionItem) (positions : List Value) (names : List (String × Value)) :
    Run (List Value × List (String × Value)) := do
  if givesName names receiverName then throw .mistyped
  match item.injection.parameter? with
  | none => return (positions, names)
  | some parameter =>
    let arguments ← Run.ofExcept (item.takeBag parameter.position positions names)
    let bag ← Run.bag arguments.overrides
    let set ← Run.dependencySet item.container bag (item.dependencies.map .text)
    if parameter.positionalOnly then return (arguments.positions ++ [set], arguments.names)
    else return (arguments.positions, Entries.put (· == ·) arguments.names parameter.name set)

theorem invoke_eq (item : FunctionItem) (call : Caller) (positions : List Value)
    (names : List (String × Value)) : item.invoke call positions names =
      item.passes positions names >>= fun passed => call item.implementation passed.1 passed.2 := by
  unfold invoke passes
  by_cases hreceiver : givesName names receiverName = true
  · simp [hreceiver]
  · rw [if_neg hreceiver, if_neg hreceiver]
    cases item.injection.parameter? with
    | none => simp
    | some parameter =>
      simp only [bind_assoc]
      refine bind_congr fun arguments => bind_congr fun bag => bind_congr fun set => ?_
      split <;> simp

end FunctionItem

end Registrar
