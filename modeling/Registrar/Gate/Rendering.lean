import Registrar.Gate.Loop
import Registrar.Script.Evaluation

/-!
# What gates render

A gate renders its fallback until it is ready and its children from then on. Children that can be
called are called without arguments.
-/

namespace Registrar.Gate

/-- What a gate renders, and its number in the loop. -/
structure Content where
  gate : Nat
  fallback : Value
  children : Value

/-- Render a gate. -/
def Content.render (content : Content) (loop : Loop) : Run Value := do
  if (loop.doors[content.gate]?).any (·.ready) then
    if (← Run.objects).isCallable content.children then Run.call content.children [] []
    else return content.children
  else return content.fallback

end Registrar.Gate
