import StateMachine.Definition

/-!
# Machines

A machine fires triggers on payloads by a definition. It keeps nothing between two calls: what a
call does depends on the payload and on the callbacks alone.

* `Payload`: the payloads, which know their state.
* `Machine`: a sound definition with a stopwatch, which tells how long a transition has taken.
* `Machine.triggers`, `Machine.canFireOn`, `Machine.fireOn`: the three questions to a machine,
  where callbacks may ask the given host.
* `Machine.host`: the machine as its own host, down to some depth of calls within calls.
* `Machine.canFire`, `Machine.fire`: the questions with callbacks that ask the machine itself.

A transition begins with the guard of its edge. Then come the side effects before the transition,
the exit steps of the source, the side effects between the states, the entry steps of the
destination, and the side effects after the transition. If a step fails, the error handlers of its
state run and the transition fails; after a failed exit the side effects between the states are
still told. The state of the payload is changed by steps and handlers only.
-/

namespace StateMachine

/-- Payloads: all that a machine asks of one is its state. -/
class Payload (π : Type) where
  state : π → State

/-- A machine: a definition whose parts agree, and the time in milliseconds that the transition of
an identity has taken when a phase of it is reached. -/
structure Machine (π ν : Type) where
  definition : Definition π ν
  stopwatch : Nat → Phase → Nat
  sound : definition.Sound

variable {π ν : Type}

/-! ### Transitions -/

/-- Whether an edge's guard lets a transition pass; a panic of the guard is caught. -/
def Guard.permit (host : Host π ν) (guard : Guard π ν) (payload : π) (ctx : Context) :
    Run (Entry π ν) (Except FireError Unit) := do
  match ← guard.check host .edgeGuard payload ctx with
  | .ok => pure (.ok ())
  | .fail failure =>
    Run.emit (.event (.guardRejected ctx guard.label failure))
    pure (.error (.guardRejected ctx.source ctx.trigger guard.label failure))
  | .panic value =>
    let error ← PanicError.report ctx 0 guard.label value
    pure (.error (.guardPanicked error))

/-- Runs the error handlers of a state. If one of them fails, its error takes the place of the
cause. -/
def Node.recover (host : Host π ν) (node : Node π ν) (cause : ChainError) (ctx : Context)
    (payload : π) : Run (Entry π ν) (π × Context × ChainError) := do
  match ← node.recovery.execute host cause ctx payload with
  | ⟨left, reported, .ok ()⟩ => pure (left, reported, cause)
  | ⟨left, reported, .error error⟩ => pure (left, reported, error)

namespace Machine

/-- Tells the side effects of a phase. -/
def tell (host : Host π ν) (m : Machine π ν) (phase : Phase) (payload : π) (ctx : Context) :
    Run (Entry π ν) (Except Raised Nat) :=
  m.definition.effects.dispatch host phase payload ctx (m.stopwatch ctx.id phase)

/-- Ends a transition that failed. -/
def fail (payload : π) (ctx : Context) (error : ChainError) :
    Run (Entry π ν) (π × Outcome) := do
  Run.emit (.event (.failed ctx error))
  pure (payload, .answered (.error (.chain ctx error)))

/-- A transition whose exit steps failed: the handlers of the source, then the side effects between
the states. -/
def abandon (host : Host π ν) (m : Machine π ν) (source : Node π ν) (cause : ChainError)
    (ctx : Context) (payload : π) : Run (Entry π ν) (π × Outcome) := do
  let (left, reported, error) ← source.recover host cause ctx payload
  match ← m.tell host .betweenStates left reported with
  | .error value => pure (left, .escaped value)
  | .ok _ => fail left reported error

/-- The second half of a transition: the entry steps of the destination, then the side effects
after the transition. -/
def arrive (host : Host π ν) (m : Machine π ν) (destination : Node π ν) (ctx : Context)
    (payload : π) : Run (Entry π ν) (π × Outcome) := do
  match ← destination.entry.execute host .entry ctx payload with
  | (left, .error cause) =>
    let (left, reported, error) ← destination.recover host cause ctx left
    fail left reported error
  | (left, .ok ()) =>
    match ← m.tell host .afterTransition left ctx with
    | .error value => pure (left, .escaped value)
    | .ok _ =>
      Run.emit (.event (.complete ctx))
      pure (left, .answered (.ok ctx))

/-- A transition whose guard has let it pass. -/
def transit (host : Host π ν) (m : Machine π ν) (source destination : Node π ν) (ctx : Context)
    (payload : π) : Run (Entry π ν) (π × Outcome) := do
  Run.emit (.event (.firing ctx))
  match ← m.tell host .beforeTransition payload ctx with
  | .error value => pure (payload, .escaped value)
  | .ok _ =>
    match ← source.exit.execute host .exit ctx payload with
    | (left, .error cause) => m.abandon host source cause ctx left
    | (left, .ok ()) =>
      match ← m.tell host .betweenStates left ctx with
      | .error value => pure (left, .escaped value)
      | .ok _ => m.arrive host destination ctx left

/-! ### Questions to a machine -/

variable [Payload π]

/-- The node of a payload's state. -/
def node (m : Machine π ν) (payload : π) : Except FireError (Node π ν) :=
  match m.definition.node? (Payload.state payload) with
  | some node => .ok node
  | none => .error (.stateNotFound (Payload.state payload))

/-- The edge that a trigger takes from a payload's state, with the node it leaves. -/
def resolve (m : Machine π ν) (payload : π) (trigger : Trigger) :
    Except FireError (Node π ν × Edge π ν) :=
  match m.node payload with
  | .error e => .error e
  | .ok node =>
    match node.edge? trigger with
    | some edge => .ok (node, edge)
    | none => .error (.triggerNotFound node.state trigger)

/-- The triggers of a payload's state. -/
def triggers (m : Machine π ν) (payload : π) : Except FireError (List Trigger) :=
  (m.node payload).map Node.triggers

/-- Whether a trigger could be fired on a payload. Only the guard of its edge is asked. -/
def canFireOn (host : Host π ν) (m : Machine π ν) (payload : π) (trigger : Trigger) :
    Run (Entry π ν) (Except FireError Unit) :=
  match m.resolve payload trigger with
  | .error e => pure (.error e)
  | .ok (node, edge) =>
    match edge.guard with
    | none => pure (.ok ())
    | some guard => do
      let ctx ← Context.create node.state edge.destination trigger
      guard.permit host payload ctx

/-- Fires a trigger on a payload. -/
def fireOn (host : Host π ν) (m : Machine π ν) (payload : π) (trigger : Trigger) :
    Run (Entry π ν) (π × Outcome) :=
  match m.resolve payload trigger with
  | .error e => pure (payload, .answered (.error e))
  | .ok (source, edge) =>
    match m.definition.node? edge.destination with
    | none => pure (payload, .answered (.error (.stateNotFound edge.destination)))
    | some destination => do
      let ctx ← Context.create source.state destination.state trigger
      match edge.guard with
      | none => m.transit host source destination ctx payload
      | some guard =>
        match ← guard.permit host payload ctx with
        | .error e => pure (payload, .answered (.error e))
        | .ok () => m.transit host source destination ctx payload

/-- The machine as its own host. Callbacks may call it, and callbacks called by those calls may
call it in turn, as deep as the given depth; a deeper call gives up. -/
def host (m : Machine π ν) : Nat → Host π ν
  | 0 => .exhausted m.triggers
  | depth + 1 =>
    { triggers := m.triggers
      canFire := fun payload trigger => m.canFireOn (m.host depth) payload trigger
      fire := fun payload trigger => m.fireOn (m.host depth) payload trigger }

/-- Whether a trigger could be fired on a payload. -/
def canFire (m : Machine π ν) (depth : Nat) (payload : π) (trigger : Trigger) :
    Run (Entry π ν) (Except FireError Unit) :=
  m.canFireOn (m.host depth) payload trigger

/-- Fires a trigger on a payload. -/
def fire (m : Machine π ν) (depth : Nat) (payload : π) (trigger : Trigger) :
    Run (Entry π ν) (π × Outcome) :=
  m.fireOn (m.host depth) payload trigger

end Machine

end StateMachine
