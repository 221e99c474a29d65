import StateMachine.Code

/-!
# Recovery

When a chain fails, the error handlers of its state run, in order, until one of them fails or
panics. Every handler is told the same cause. A handler may report another destination for the
transition, which the handlers after it see and which is kept even if the handler fails.

* `Handler`, `Recovery`: the lists, with `Recovery.push`.
* `Handler.handle`: runs one handler. A panic is caught, with the context as the handler left it.
* `Recovery.execute`: runs the handlers; the result is an error exactly when one of them failed.
-/

namespace StateMachine

variable {π ν : Type}

/-- An error handler: it is given the error that made the chain fail. -/
structure Handler (π ν : Type) where
  label : String
  operation : π → Context → ChainError → Code π ν

/-- Error handlers in the order in which they run. -/
structure Recovery (π ν : Type) where
  handlers : List (Handler π ν)

/-- What error handlers leave: the payload, the context as reported from now on, and whether one
of them failed. -/
structure Recovered (π : Type) where
  payload : π
  context : Context
  result : Except ChainError Unit

/-- Runs a handler at the given position. -/
def Handler.handle (host : Host π ν) (cause : ChainError) (position : Nat) (handler : Handler π ν)
    (ctx : Context) (payload : π) : Run (Entry π ν) (Recovered π) := do
  let ⟨left, reported, verdict⟩ ←
    (Call.mk (.handler cause) handler.label ctx payload).run host
      (handler.operation payload ctx cause)
  match verdict with
  | .ok =>
    if reported.destination ≠ ctx.destination then
      Run.emit (.event
        (.retargeted reported handler.label ctx.destination reported.destination))
    pure ⟨left, reported, .ok ()⟩
  | .fail failure =>
    Run.emit (.event (.handlerFailed reported position handler.label failure))
    pure ⟨left, reported, .error (.handler position handler.label failure)⟩
  | .panic value =>
    let error ← PanicError.report reported position handler.label value
    pure ⟨left, reported, .error (.panic error)⟩

namespace Recovery

/-- No handlers. -/
def empty : Recovery π ν := ⟨[]⟩

/-- Adds a handler at the end. -/
def push (recovery : Recovery π ν) (handler : Handler π ν) : Recovery π ν :=
  ⟨recovery.handlers ++ [handler]⟩

/-- The number of handlers. -/
def length (recovery : Recovery π ν) : Nat := recovery.handlers.length

/-- The labels of the handlers. -/
def labels (recovery : Recovery π ν) : List String := recovery.handlers.map Handler.label

/-- Runs handlers, the first of which has the given position. -/
def executeFrom (host : Host π ν) (cause : ChainError) :
    Nat → List (Handler π ν) → Context → π → Run (Entry π ν) (Recovered π)
  | _, [], ctx, payload => pure ⟨payload, ctx, .ok ()⟩
  | position, handler :: rest, ctx, payload => do
    match ← handler.handle host cause position ctx payload with
    | ⟨left, reported, .error error⟩ => pure ⟨left, reported, .error error⟩
    | ⟨left, reported, .ok ()⟩ => executeFrom host cause (position + 1) rest reported left

/-- Runs the handlers for a cause. -/
def execute (host : Host π ν) (recovery : Recovery π ν) (cause : ChainError) (ctx : Context)
    (payload : π) : Run (Entry π ν) (Recovered π) :=
  executeFrom host cause 0 recovery.handlers ctx payload

@[simp] theorem handlers_push (recovery : Recovery π ν) (handler : Handler π ν) :
    (recovery.push handler).handlers = recovery.handlers ++ [handler] := rfl

@[simp] theorem length_push (recovery : Recovery π ν) (handler : Handler π ν) :
    (recovery.push handler).length = recovery.length + 1 := by
  simp [length]

@[simp] theorem labels_push (recovery : Recovery π ν) (handler : Handler π ν) :
    (recovery.push handler).labels = recovery.labels ++ [handler.label] := by
  simp [labels]

end Recovery

end StateMachine
