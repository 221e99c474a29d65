import StateMachine.Code

/-!
# Side effects

Side effects watch transitions. Each is registered with a filter, and in each phase those whose
filter chooses the phase are told, in the order of their registration. Nobody catches their
panics: one ends the dispatch and escapes.

* `Effect`, `Bus`: the registrations, with `Bus.push`.
* `Bus.dispatch`: tells the side effects of a phase and counts them.
-/

namespace StateMachine

variable {π ν : Type}

/-- A registered side effect. It is told the phase, the payload, the context and how many
milliseconds the transition has taken so far; what it leaves as a payload is dropped. -/
structure Effect (π ν : Type) where
  filter : Filter
  label : String
  callback : Phase → π → Context → Nat → Code π ν

/-- Side effects in the order of their registration. -/
structure Bus (π ν : Type) where
  effects : List (Effect π ν)

namespace Bus

/-- No side effects. -/
def empty : Bus π ν := ⟨[]⟩

/-- Registers a side effect. -/
def push (bus : Bus π ν) (effect : Effect π ν) : Bus π ν := ⟨bus.effects ++ [effect]⟩

/-- The number of side effects. -/
def length (bus : Bus π ν) : Nat := bus.effects.length

/-- Tells a list of side effects, after so many have been told already; either the new number, or
the value that one of them raised. -/
def deliver (host : Host π ν) (phase : Phase) (payload : π) (ctx : Context) (elapsed : Nat) :
    Nat → List (Effect π ν) → Run (Entry π ν) (Except Raised Nat)
  | told, [] => pure (.ok told)
  | told, effect :: rest =>
    if effect.filter.allows phase then do
      let settled ← (Call.mk (.effect phase elapsed) effect.label ctx payload).run host
        (effect.callback phase payload ctx elapsed)
      match settled.verdict with
      | .panic value => pure (.error value)
      | _ => deliver host phase payload ctx elapsed (told + 1) rest
    else deliver host phase payload ctx elapsed told rest

/-- Tells the side effects of a phase. -/
def dispatch (host : Host π ν) (bus : Bus π ν) (phase : Phase) (payload : π) (ctx : Context)
    (elapsed : Nat) : Run (Entry π ν) (Except Raised Nat) := do
  match ← deliver host phase payload ctx elapsed 0 bus.effects with
  | .error value => pure (.error value)
  | .ok told =>
    Run.emit (.event (.dispatched ctx phase told))
    pure (.ok told)

@[simp] theorem effects_push (bus : Bus π ν) (effect : Effect π ν) :
    (bus.push effect).effects = bus.effects ++ [effect] := rfl

@[simp] theorem length_push (bus : Bus π ν) (effect : Effect π ν) :
    (bus.push effect).length = bus.length + 1 := by
  simp [length]

end Bus

end StateMachine
