/-!
# Results with a trace

A computation that may fail and reports events on the way. The events of a
failed computation are kept.
-/

set_option autoImplicit false

namespace ParamSchema

structure Traced (ω ε α : Type) where
  events : List ω
  result : Except ε α

namespace Traced

variable {ω ε α β : Type}

def fail (error : ε) : Traced ω ε α := ⟨[], .error error⟩

def report (event : ω) : Traced ω ε Unit := ⟨[event], .ok ()⟩

def ofExcept (result : Except ε α) : Traced ω ε α := ⟨[], result⟩

protected def bind (first : Traced ω ε α) (next : α → Traced ω ε β) : Traced ω ε β :=
  match first.result with
  | .ok value => ⟨first.events ++ (next value).events, (next value).result⟩
  | .error error => ⟨first.events, .error error⟩

instance : Monad (Traced ω ε) where
  pure value := ⟨[], .ok value⟩
  bind := Traced.bind

instance : MonadLift (Except ε) (Traced ω ε) := ⟨ofExcept⟩

def mapBoth {ω' ε' : Type} (onEvent : ω → ω') (onError : ε → ε') (traced : Traced ω ε α) :
    Traced ω' ε' α :=
  ⟨traced.events.map onEvent, traced.result.mapError onError⟩

end Traced

end ParamSchema
