import StateMachine.Run

/-!
# Callbacks

A callback is code of the user. Between being handed control and ending it may leave remarks in
the log and call the machine again, as often as it likes; what it does next may depend on every
answer. Such code is a tree, `Code`, and a callback is a function from what it is given to its
code.

A fire is on the callback's own payload: `Code.fire` is given that payload as the callback has
changed it so far, and the callback goes on with what the fire leaves. So if a panic escapes from
the fire, what it leaves is what the callback leaves. Fires on any other payload, which a panic
would leave alone, are not modelled. Guards and side effects, which cannot change their payload,
fire on a copy, and what they leave is dropped.

* `Outcome`: how a fire ends: with an answer, or with a panic that nobody caught.
* `Code`: the code of a callback.
* `Host`: the machine as callbacks see it.
* `Code.run`: runs code on a host. A panic that escapes from a fire ends the code that fired.
-/

namespace StateMachine

/-- How a fire ends: it answers with the final context or an error, or a panic escapes. -/
inductive Outcome
  | answered (result : Except FireError Context)
  | escaped (value : Raised)

/-- The code of a callback over payloads `π` that leaves remarks `ν`. -/
inductive Code (π ν : Type) where
  /-- Ends, leaving a payload. -/
  | finish (payload : π) (verdict : Verdict)
  /-- Leaves a remark. -/
  | remark (r : ν) (next : Code π ν)
  /-- Reports another destination; only error handlers are heard. -/
  | retarget (destination : State) (next : Code π ν)
  /-- Asks for the triggers of a payload's state. -/
  | triggers (payload : π) (next : Except FireError (List Trigger) → Code π ν)
  /-- Asks whether a trigger could be fired. -/
  | canFire (payload : π) (trigger : Trigger) (next : Except FireError Unit → Code π ν)
  /-- Fires a trigger on the callback's own payload, as it has become, and goes on with what the
  fire leaves of it. -/
  | fire (payload : π) (trigger : Trigger) (next : π → Except FireError Context → Code π ν)

/-- The machine as callbacks see it. -/
structure Host (π ν : Type) where
  triggers : π → Except FireError (List Trigger)
  canFire : π → Trigger → Run (Entry π ν) (Except FireError Unit)
  fire : π → Trigger → Run (Entry π ν) (π × Outcome)

/-- The host that gives up whenever it is asked to run something. -/
def Host.exhausted {π ν : Type} (triggers : π → Except FireError (List Trigger)) : Host π ν where
  triggers := triggers
  canFire _ _ := Run.exhausted
  fire _ _ := Run.exhausted

variable {π ν : Type}

/-- Runs code on a host, for the given transition. If a panic escapes from a fire, then the code
ends with it, and the callback leaves its own payload as the fire has left it. -/
def Code.run (host : Host π ν) : Code π ν → Context → Run (Entry π ν) (Settled π)
  | finish payload verdict, ctx => pure ⟨payload, ctx, verdict⟩
  | remark r next, ctx => do
    Run.emit (.remark r)
    next.run host ctx
  | retarget destination next, ctx => next.run host (ctx.retarget destination)
  | triggers payload next, ctx => (next (host.triggers payload)).run host ctx
  | canFire payload trigger next, ctx => do
    let answer ← host.canFire payload trigger
    (next answer).run host ctx
  | fire payload trigger next, ctx => do
    match ← host.fire payload trigger with
    | (left, .answered result) => (next left result).run host ctx
    | (left, .escaped value) => pure ⟨left, ctx, .panic value⟩

/-- Hands control to a callback, runs its code and takes control back. -/
def Call.run (host : Host π ν) (call : Call π) (code : Code π ν) :
    Run (Entry π ν) (Settled π) := do
  Run.emit (.call call)
  let settled ← code.run host call.context
  Run.emit (.settled call settled)
  pure settled

/-- Reports a caught panic. -/
def PanicError.report (ctx : Context) (step : Nat) (label : String) (value : Raised) :
    Run (Entry π ν) PanicError := do
  let error : PanicError := ⟨ctx, step, label, value.payload⟩
  Run.emit (.event (.panicked error))
  pure error

end StateMachine
