import StateMachine.Ident

/-!
# The context of a transition

A context describes one transition in flight: where it comes from, where it goes, what triggered
it, and an identity that no other transition has. Only error handlers may change it, and only its
destination (`Context.retarget`).
-/

namespace StateMachine

/-- One transition in flight. -/
structure Context where
  id : Nat
  source : State
  destination : State
  trigger : Trigger
deriving DecidableEq

namespace Context

/-- The same transition, reported with another destination. -/
def retarget (ctx : Context) (destination : State) : Context :=
  { ctx with destination := destination }

@[simp] theorem id_retarget (ctx : Context) (s : State) : (ctx.retarget s).id = ctx.id := rfl

@[simp] theorem source_retarget (ctx : Context) (s : State) :
    (ctx.retarget s).source = ctx.source := rfl

@[simp] theorem destination_retarget (ctx : Context) (s : State) :
    (ctx.retarget s).destination = s := rfl

@[simp] theorem trigger_retarget (ctx : Context) (s : State) :
    (ctx.retarget s).trigger = ctx.trigger := rfl

@[simp] theorem retarget_retarget (ctx : Context) (s t : State) :
    (ctx.retarget s).retarget t = ctx.retarget t := rfl

@[simp] theorem retarget_destination (ctx : Context) : ctx.retarget ctx.destination = ctx := rfl

end Context

end StateMachine
