import StateMachine.Diagnostic
import StateMachine.Error
import StateMachine.Phase

/-!
# Events

While it validates and runs, a machine reports what it does. An event is one such report, kept as
a value; its level, its message and its fields are read off it.

* `Event`: the reports.
* `Event.level`, `Event.message`, `Event.fields`: the wording.
* `Event.context?`: the transition a report belongs to.
-/

namespace StateMachine

/-- How much attention an event asks for. -/
inductive Level
  | trace
  | debug
  | warn
deriving DecidableEq

/-- The name of a level. -/
def Level.name : Level → String
  | .trace => "TRACE"
  | .debug => "DEBUG"
  | .warn => "WARN"

/-- The content of a field. -/
inductive Field
  | number (n : Nat)
  | text (s : String)
deriving DecidableEq

/-- A report of the machine. -/
inductive Event
  /-- Validation found something. -/
  | found (diagnostic : Diagnostic)
  /-- A definition was compiled. -/
  | compiled (states edges diagnostics : Nat)
  /-- A transition passed its guard and begins. -/
  | firing (ctx : Context)
  /-- A transition succeeded. -/
  | complete (ctx : Context)
  /-- A transition failed; the context is the one reported. -/
  | failed (ctx : Context) (error : ChainError)
  /-- An edge's guard refused. -/
  | guardRejected (ctx : Context) (guard : String) (failure : Failure)
  /-- A step's guard refused, and the step was skipped. -/
  | stepSkipped (ctx : Context) (step : Nat) (label : String) (reason : Failure)
  /-- A step failed. -/
  | stepFailed (ctx : Context) (step : Nat) (label : String) (failure : Failure)
  /-- An error handler succeeded and left another destination. -/
  | retargeted (ctx : Context) (handler : String) (before after : State)
  /-- An error handler failed. -/
  | handlerFailed (ctx : Context) (step : Nat) (handler : String) (failure : Failure)
  /-- A callback panicked, and the panic was caught. -/
  | panicked (error : PanicError)
  /-- The side effects of a phase have all been told. -/
  | dispatched (ctx : Context) (phase : Phase) (invoked : Nat)
deriving DecidableEq

namespace Event

/-- The level of an event. -/
def level : Event → Level
  | found d => if d.isError then .warn else .debug
  | compiled _ _ _ => .debug
  | firing _ => .debug
  | complete _ => .debug
  | failed _ _ => .debug
  | guardRejected _ _ _ => .debug
  | stepSkipped _ _ _ _ => .trace
  | stepFailed _ _ _ _ => .warn
  | retargeted _ _ _ _ => .warn
  | handlerFailed _ _ _ _ => .warn
  | panicked _ => .warn
  | dispatched _ _ _ => .trace

/-- What an event says. -/
def message : Event → String
  | found d => d.text
  | compiled _ _ _ => "compiled definition"
  | firing _ => "firing transition"
  | complete _ => "transition complete"
  | failed _ e => s!"transition failed: {e.message}"
  | guardRejected _ _ f => s!"guard rejected transition: {f.text}"
  | stepSkipped _ _ _ f => s!"skipping guarded step: {f.text}"
  | stepFailed _ _ _ f => s!"chain step failed: {f.text}"
  | retargeted _ _ _ _ => "error handler retargeted destination"
  | handlerFailed _ _ _ f => s!"error handler failed: {f.text}"
  | panicked e => s!"callback panicked: {e.payload.text}"
  | dispatched _ _ _ => "dispatched side effects"

/-- The named fields of an event, its transition's identity and times aside. -/
def fields : Event → List (String × Field)
  | compiled states edges diagnostics =>
    [("states", .number states), ("edges", .number edges), ("diagnostics", .number diagnostics)]
  | firing ctx =>
    [("source", .text ctx.source.name), ("destination", .text ctx.destination.name),
      ("trigger", .text ctx.trigger.name)]
  | failed ctx _ => [("destination", .text ctx.destination.name)]
  | guardRejected _ guard _ => [("guard", .text guard)]
  | stepSkipped _ step label _ => [("step", .number step), ("label", .text label)]
  | stepFailed _ step label _ => [("step", .number step), ("label", .text label)]
  | retargeted _ handler before after =>
    [("handler", .text handler), ("from", .text before.name), ("to", .text after.name)]
  | handlerFailed _ step handler _ => [("step", .number step), ("handler", .text handler)]
  | panicked e => [("step", .number e.step), ("label", .text e.label)]
  | dispatched _ phase invoked => [("phase", .text phase.name), ("invoked", .number invoked)]
  | found _ => []
  | complete _ => []

/-- The transition an event belongs to, if it belongs to one. -/
def context? : Event → Option Context
  | found _ => none
  | compiled _ _ _ => none
  | firing ctx => some ctx
  | complete ctx => some ctx
  | failed ctx _ => some ctx
  | guardRejected ctx _ _ => some ctx
  | stepSkipped ctx _ _ _ => some ctx
  | stepFailed ctx _ _ _ => some ctx
  | retargeted ctx _ _ _ => some ctx
  | handlerFailed ctx _ _ _ => some ctx
  | panicked e => some e.transition
  | dispatched ctx _ _ => some ctx

end Event

end StateMachine
