import StateMachine.Context
import StateMachine.Failure

/-!
# Panics

A callback may abandon its work by raising a value. The value is classified once, where it is
caught, and reported together with the place it was raised at.

* `Raised`: the values that may be raised.
* `PanicPayload`: a raised value as reported: a failure, a message, or a value of unknown kind,
  kept as it is.
* `Raised.payload`: the classification.
* `PanicError`: a caught panic, with the transition, the step and the label of its callback.
-/

namespace StateMachine

/-- A value raised by a callback. -/
inductive Raised
  /-- A failure that may be shared between threads and sent to others. -/
  | boxed (failure : Failure)
  /-- A failure that may only be sent to another thread. -/
  | sendable (failure : Failure)
  /-- A failure with several owners. -/
  | shared (failure : Failure)
  /-- A failure of input or output. -/
  | io (failure : IoFailure)
  /-- A failure of formatting, which carries nothing. -/
  | format
  /-- A composed message. -/
  | message (text : String)
  /-- A fixed message. -/
  | literal (text : String)
  /-- A failure of a type that only its callback knows. -/
  | custom (failure : Failure)
  /-- A text that is not a message. -/
  | boxedText (text : String)
  /-- A state. -/
  | state (state : State)
  /-- A number. -/
  | number (n : Nat)
  /-- Nothing at all. -/
  | unit
  /-- A value of any other type: the name of the type, and what the value holds. -/
  | other (type content : String)
deriving DecidableEq

/-- A raised value, classified. -/
inductive PanicPayload
  | failure (failure : Failure)
  | message (text : String)
  | unknown (value : Raised)
deriving DecidableEq

/-- Classifies a raised value: failures of the known types keep their text and causes, messages
keep their text, and any other value is kept unchanged. -/
def Raised.payload : Raised → PanicPayload
  | .boxed f => .failure f
  | .sendable f => .failure f
  | .shared f => .failure f
  | .io f => .failure f.failure
  | .format => .failure (.plain "an error occurred when formatting an argument")
  | .message text => .message text
  | .literal text => .message text
  | value => .unknown value

namespace PanicPayload

/-- What a panic says. -/
def text : PanicPayload → String
  | .failure f => f.text
  | .message text => text
  | .unknown _ => "opaque panic value"

/-- The failure that was raised, if it was one of the known types. -/
def failure? : PanicPayload → Option Failure
  | .failure f => some f
  | _ => none

/-- The raised value, if it was neither a failure of a known type nor a message. -/
def unknown? : PanicPayload → Option Raised
  | .unknown value => some value
  | _ => none

end PanicPayload

/-- A caught panic: the transition as it was when the callback panicked, the position of the
callback in its list, and its label. -/
structure PanicError where
  transition : Context
  step : Nat
  label : String
  payload : PanicPayload
deriving DecidableEq

namespace PanicError

/-- What a caught panic says. -/
def message (e : PanicError) : String :=
  s!"callback '{e.label}' panicked at step {e.step} during '{e.transition.trigger.name}'" ++
    s!" from '{e.transition.source.name}': {e.payload.text}"

/-- The failure the callback panicked with, if it was one of the known types. -/
def inner? (e : PanicError) : Option Failure := e.payload.failure?

/-- The value the callback panicked with, if it was neither a failure nor a message. -/
def unknownInner? (e : PanicError) : Option Raised := e.payload.unknown?

end PanicError

end StateMachine
