import StateMachine.Panic

/-!
# Errors of a transition

* `ChainError`: why a list of callbacks stopped early.
* `FireError`: why a trigger could not be fired, with its code.
* `ConfigurationError`: why a declaration was refused.

Each has a message. `ChainError.sources` and `FireError.sources` list the messages of the errors
behind it, outermost first. A caught panic has no sources, whatever was raised.
-/

namespace StateMachine

/-- Why a list of callbacks stopped: a step failed, an error handler failed, or one of them
panicked. -/
inductive ChainError
  | operation (step : Nat) (label : String) (failure : Failure)
  | handler (step : Nat) (label : String) (failure : Failure)
  | panic (error : PanicError)
deriving DecidableEq

namespace ChainError

/-- What the error says. -/
def message : ChainError → String
  | operation step label f => s!"operation '{label}' at step {step} failed: {f.text}"
  | handler step label f => s!"error handler '{label}' at step {step} failed: {f.text}"
  | panic e => e.message

/-- The position of the callback that stopped its list. -/
def step : ChainError → Nat
  | operation step _ _ => step
  | handler step _ _ => step
  | panic e => e.step

/-- The caught panic, if the error is one. -/
def panic? : ChainError → Option PanicError
  | panic e => some e
  | _ => none

/-- The messages of the errors behind this one. -/
def sources : ChainError → List String
  | operation _ _ f => f.texts
  | handler _ _ f => f.texts
  | panic _ => []

end ChainError

/-- Why a trigger could not be fired. -/
inductive FireError
  | stateNotFound (state : State)
  | triggerNotFound (state : State) (trigger : Trigger)
  | guardRejected (state : State) (trigger : Trigger) (guard : String) (failure : Failure)
  | guardPanicked (error : PanicError)
  | chain (transition : Context) (error : ChainError)
deriving DecidableEq

namespace FireError

/-- What the error says. -/
def message : FireError → String
  | stateNotFound s => s!"State not found in definition of states: {s.name}"
  | triggerNotFound s t => s!"Trigger '{t.name}' not found in definition for state: {s.name}"
  | guardRejected s t guard f =>
    s!"guard '{guard}' rejected trigger '{t.name}' from state '{s.name}': {f.text}"
  | guardPanicked e => s!"guard panicked: {e.message}"
  | chain ctx e => s!"transition '{ctx.trigger.name}' from '{ctx.source.name}' failed: {e.message}"

/-- The code of the error, for reports. -/
def code : FireError → String
  | stateNotFound _ => "STATE_NOT_FOUND"
  | triggerNotFound _ _ => "TRIGGER_NOT_FOUND"
  | guardRejected _ _ _ _ => "GUARD_REJECTED"
  | guardPanicked _ => "GUARD_PANICKED"
  | chain _ (.panic _) => "CALLBACK_PANICKED"
  | chain _ _ => "CHAIN_FAILED"

/-- The messages of the errors behind this one. -/
def sources : FireError → List String
  | guardRejected _ _ _ f => f.texts
  | guardPanicked e => [e.message]
  | chain _ e => e.message :: e.sources
  | _ => []

end FireError

/-- Why a declaration was refused. -/
inductive ConfigurationError
  | duplicateState (state : State)
  | duplicateTrigger (state : State) (trigger : Trigger)
deriving DecidableEq

/-- What a refused declaration is told. -/
def ConfigurationError.message : ConfigurationError → String
  | .duplicateState s =>
    s!"State: {s.name} - has already been defined, configuration invalid."
  | .duplicateTrigger s t =>
    s!"Trigger: {t.name} - has already been defined on state {s.name}, configuration invalid."

end StateMachine
