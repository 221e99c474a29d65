import StateMachine.Code
import StateMachine.Quoted

/-!
# Guards

A guard decides whether an edge may fire or a step may run. It only looks: what its code leaves as
a payload is dropped.

* `Guard`: a predicate of the user under a label, or the built-in guard for one trigger.
* `Guard.check`: the verdict of a guard. The built-in guard calls nobody, so it is not logged.
-/

namespace StateMachine

variable {π ν : Type}

/-- A condition on a payload and a transition. -/
inductive Guard (π ν : Type) where
  | triggerIs (trigger : Trigger)
  | predicate (label : String) (code : π → Context → Code π ν)

namespace Guard

/-- The label of a guard. -/
def label : Guard π ν → String
  | triggerIs t => s!"trigger_is({t.name})"
  | predicate label _ => label

/-- A guard as one line of text. -/
def text (g : Guard π ν) : String :=
  s!"Guard \x7b label: {Quoted.encode g.label} \x7d"

/-- What a guard answers; a predicate is called in the given role. -/
def check (host : Host π ν) (role : Role) (g : Guard π ν) (payload : π) (ctx : Context) :
    Run (Entry π ν) Verdict :=
  match g with
  | triggerIs t =>
    pure <|
      if ctx.trigger = t then .ok
      else .fail (.plain s!"trigger '{ctx.trigger.name}' does not match '{t.name}'")
  | predicate label code =>
    Settled.verdict <$> (Call.mk role label ctx payload).run host (code payload ctx)

end Guard

end StateMachine
