import StateMachine.Guard

/-!
# Chains

A chain is a list of steps, run in order on one payload until one of them fails or panics. A
step may have a guard; where the guard refuses, the step is skipped.

* `Step`, `Chain`: the lists, with `Chain.push`.
* `Step.consult`, `Step.operate`: the two halves of a step, its guard and its operation.
* `Chain.execute`: runs a chain. It leaves the payload as the last step left it and, if a step
  failed, the error with that step's position. Panics of guards and operations are caught here.
-/

namespace StateMachine

variable {π ν : Type}

/-- One step of a chain. -/
structure Step (π ν : Type) where
  guard : Option (Guard π ν)
  label : String
  operation : π → Context → Code π ν

/-- Steps in the order in which they run. -/
structure Chain (π ν : Type) where
  steps : List (Step π ν)

namespace Step

/-- Whether a step at the given position may run; a panic of its guard is caught. -/
def consult (host : Host π ν) (side : Side) (position : Nat) (step : Step π ν) (ctx : Context)
    (payload : π) : Run (Entry π ν) (Except PanicError Bool) :=
  match step.guard with
  | none => pure (.ok true)
  | some guard => do
    match ← guard.check host (.stepGuard side) payload ctx with
    | .ok => pure (.ok true)
    | .fail reason =>
      Run.emit (.event (.stepSkipped ctx position step.label reason))
      pure (.ok false)
    | .panic value => Except.error <$> PanicError.report ctx position guard.label value

/-- Runs a step's operation; a panic of the operation is caught. -/
def operate (host : Host π ν) (side : Side) (position : Nat) (step : Step π ν) (ctx : Context)
    (payload : π) : Run (Entry π ν) (π × Except ChainError Unit) := do
  let settled ←
    (Call.mk (.operation side) step.label ctx payload).run host (step.operation payload ctx)
  match settled.verdict with
  | .ok => pure (settled.payload, .ok ())
  | .fail failure =>
    Run.emit (.event (.stepFailed ctx position step.label failure))
    pure (settled.payload, .error (.operation position step.label failure))
  | .panic value =>
    let error ← PanicError.report ctx position step.label value
    pure (settled.payload, .error (.panic error))

end Step

namespace Chain

/-- The chain without steps. -/
def empty : Chain π ν := ⟨[]⟩

/-- Adds a step at the end. -/
def push (chain : Chain π ν) (step : Step π ν) : Chain π ν := ⟨chain.steps ++ [step]⟩

/-- The number of steps. -/
def length (chain : Chain π ν) : Nat := chain.steps.length

/-- The labels of the steps. -/
def labels (chain : Chain π ν) : List String := chain.steps.map Step.label

/-- Runs steps, the first of which has the given position. -/
def executeFrom (host : Host π ν) (side : Side) (ctx : Context) :
    Nat → List (Step π ν) → π → Run (Entry π ν) (π × Except ChainError Unit)
  | _, [], payload => pure (payload, .ok ())
  | position, step :: rest, payload => do
    match ← step.consult host side position ctx payload with
    | .error panic => pure (payload, .error (.panic panic))
    | .ok false => executeFrom host side ctx (position + 1) rest payload
    | .ok true =>
      match ← step.operate host side position ctx payload with
      | (left, .error error) => pure (left, .error error)
      | (left, .ok ()) => executeFrom host side ctx (position + 1) rest left

/-- Runs a chain on a payload. -/
def execute (host : Host π ν) (side : Side) (chain : Chain π ν) (ctx : Context) (payload : π) :
    Run (Entry π ν) (π × Except ChainError Unit) :=
  executeFrom host side ctx 0 chain.steps payload

@[simp] theorem steps_push (chain : Chain π ν) (step : Step π ν) :
    (chain.push step).steps = chain.steps ++ [step] := rfl

@[simp] theorem length_push (chain : Chain π ν) (step : Step π ν) :
    (chain.push step).length = chain.length + 1 := by
  simp [length]

@[simp] theorem labels_push (chain : Chain π ν) (step : Step π ν) :
    (chain.push step).labels = chain.labels ++ [step.label] := by
  simp [labels]

end Chain

end StateMachine
