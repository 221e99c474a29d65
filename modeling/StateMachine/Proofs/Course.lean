import StateMachine.Proofs.Happening

/-!
# The course of a transition

What happens when a machine is asked something, told by relations. Each relation speaks of one
part of the engine: it lists the happenings of the part in order, turns and events alike, and says
what the part comes to. Which callback does what is left open.

* `Guard.Answers`, `Edge.Admits`: the guard of a step, and that of an edge.
* `Step.Consults`, `Step.Operates`, `Chain.Passes`: the steps of a chain.
* `Handler.Handles`, `Recovery.Handles`: the error handlers of a state.
* `Effect.Heard`, `Bus.Tells`: the side effects of a phase.
* `Machine.Course`: a fire whose trigger and destination were found. It has eight ways to go.
* `Machine.Answers`: any question to a machine.

For each function of the engine, a lemma `plays_…` says that its runs are as the relation tells;
what other modules know of the engine they know from these relations.
-/

namespace StateMachine

variable {π ν : Type} {host : Host π ν}

/-! ## Guards -/

/-- What a guard answers when it is asked in the given role. The built-in guard calls nobody. -/
inductive Guard.Answers (host : Host π ν) (role : Role) (payload : π) (ctx : Context) :
    Guard π ν → List (Happening host) → Verdict → Prop
  | matching {t} (same : ctx.trigger = t) : Answers host role payload ctx (.triggerIs t) [] .ok
  | mismatching {t} (other : ctx.trigger ≠ t) :
      Answers host role payload ctx (.triggerIs t) []
        (.fail (.plain s!"trigger '{ctx.trigger.name}' does not match '{t.name}'"))
  | predicate {label code} (t : Turn host)
      (of : t.Of ⟨role, label, ctx, payload⟩ (code payload ctx)) :
      Answers host role payload ctx (.predicate label code) [.turn t] t.verdict

theorem Guard.plays_check (role : Role) (g : Guard π ν) (payload : π) (ctx : Context) :
    Plays host (g.check host role payload ctx) (g.Answers host role payload ctx) := by
  cases g with
  | triggerIs t =>
    rw [Guard.check]
    refine .pure ?_
    split
    · exact .matching ‹_›
    · exact .mismatching ‹_›
  | predicate label code =>
    refine ((plays_call _ _).mono ?_).map
    rintro _ _ ⟨t, of, rfl, rfl⟩
    exact .predicate t of

/-- Whether an edge lets a transition pass. -/
inductive Edge.Admits (host : Host π ν) (payload : π) (ctx : Context) :
    Edge π ν → List (Happening host) → Except FireError Unit → Prop
  | free {edge} (none : edge.guard = none) : Admits host payload ctx edge [] (.ok ())
  | passed {edge g hs} (some : edge.guard = some g)
      (answer : g.Answers host .edgeGuard payload ctx hs .ok) :
      Admits host payload ctx edge hs (.ok ())
  | rejected {edge g hs f} (some : edge.guard = some g)
      (answer : g.Answers host .edgeGuard payload ctx hs (.fail f)) :
      Admits host payload ctx edge (hs ++ [.event (.guardRejected ctx g.label f)])
        (.error (.guardRejected ctx.source ctx.trigger g.label f))
  | panicked {edge g hs v} (some : edge.guard = some g)
      (answer : g.Answers host .edgeGuard payload ctx hs (.panic v)) :
      Admits host payload ctx edge (hs ++ [.event (.panicked ⟨ctx, 0, g.label, v.payload⟩)])
        (.error (.guardPanicked ⟨ctx, 0, g.label, v.payload⟩))

theorem Guard.plays_permit {edge : Edge π ν} {g : Guard π ν} (hg : edge.guard = some g)
    (payload : π) (ctx : Context) :
    Plays host (g.permit host payload ctx) (edge.Admits host payload ctx) := by
  rw [Guard.permit]
  refine (g.plays_check .edgeGuard payload ctx).bind fun verdict hs h => ?_
  cases verdict with
  | ok => exact .pure (by simpa using .passed hg h)
  | fail f =>
    refine (plays_event _).bind ?_
    rintro _ _ rfl
    exact .pure (by simpa using .rejected hg h)
  | panic v =>
    refine (plays_report _ _ _ _).bind ?_
    rintro _ _ ⟨rfl, rfl⟩
    exact .pure (by simpa using .panicked hg h)

/-! ## Chains -/

namespace Step

/-- Whether a step at the given position may run. -/
inductive Consults (host : Host π ν) (side : Side) (position : Nat) (ctx : Context) (payload : π) :
    Step π ν → List (Happening host) → Except PanicError Bool → Prop
  | free {step} (none : step.guard = none) :
      Consults host side position ctx payload step [] (.ok true)
  | passed {step g hs} (some : step.guard = some g)
      (answer : g.Answers host (.stepGuard side) payload ctx hs .ok) :
      Consults host side position ctx payload step hs (.ok true)
  | skipped {step g hs f} (some : step.guard = some g)
      (answer : g.Answers host (.stepGuard side) payload ctx hs (.fail f)) :
      Consults host side position ctx payload step
        (hs ++ [.event (.stepSkipped ctx position step.label f)]) (.ok false)
  | panicked {step g hs v} (some : step.guard = some g)
      (answer : g.Answers host (.stepGuard side) payload ctx hs (.panic v)) :
      Consults host side position ctx payload step
        (hs ++ [.event (.panicked ⟨ctx, position, g.label, v.payload⟩)])
        (.error ⟨ctx, position, g.label, v.payload⟩)

/-- What the operation of a step at the given position comes to. -/
inductive Operates (host : Host π ν) (side : Side) (position : Nat) (ctx : Context) (payload : π)
    (step : Step π ν) : List (Happening host) → π × Except ChainError Unit → Prop
  | done (t : Turn host)
      (of : t.Of ⟨.operation side, step.label, ctx, payload⟩ (step.operation payload ctx))
      (ok : t.verdict = .ok) :
      Operates host side position ctx payload step [.turn t] (t.settled.payload, .ok ())
  | failed {f} (t : Turn host)
      (of : t.Of ⟨.operation side, step.label, ctx, payload⟩ (step.operation payload ctx))
      (fail : t.verdict = .fail f) :
      Operates host side position ctx payload step
        [.turn t, .event (.stepFailed ctx position step.label f)]
        (t.settled.payload, .error (.operation position step.label f))
  | panicked {v} (t : Turn host)
      (of : t.Of ⟨.operation side, step.label, ctx, payload⟩ (step.operation payload ctx))
      (panic : t.verdict = .panic v) :
      Operates host side position ctx payload step
        [.turn t, .event (.panicked ⟨ctx, position, step.label, v.payload⟩)]
        (t.settled.payload, .error (.panic ⟨ctx, position, step.label, v.payload⟩))

theorem plays_consult (side : Side) (position : Nat) (step : Step π ν) (ctx : Context)
    (payload : π) :
    Plays host (step.consult host side position ctx payload)
      (step.Consults host side position ctx payload) := by
  unfold consult
  split
  · exact .pure (.free ‹_›)
  · next g hg =>
    refine (g.plays_check (.stepGuard side) payload ctx).bind fun verdict hs h => ?_
    cases verdict with
    | ok => exact .pure (by simpa using .passed hg h)
    | fail f =>
      refine (plays_event _).bind ?_
      rintro _ _ rfl
      exact .pure (by simpa using .skipped hg h)
    | panic v =>
      refine ((plays_report _ _ _ _).mono ?_).map
      rintro _ _ ⟨rfl, rfl⟩
      exact .panicked hg h

theorem plays_operate (side : Side) (position : Nat) (step : Step π ν) (ctx : Context)
    (payload : π) :
    Plays host (step.operate host side position ctx payload)
      (step.Operates host side position ctx payload) := by
  rw [operate]
  refine (plays_call _ _).bind ?_
  rintro _ _ ⟨t, of, rfl, rfl⟩
  cases hv : t.settled.verdict with
  | ok => exact .pure (.done t of hv)
  | fail f =>
    refine (plays_event _).bind ?_
    rintro _ _ rfl
    exact .pure (.failed t of hv)
  | panic v =>
    refine (plays_report _ _ _ _).bind ?_
    rintro _ _ ⟨rfl, rfl⟩
    exact .pure (.panicked t of hv)

end Step

namespace Chain

/-- What running steps comes to, the first of which has the given position: the payload that is
left and, if a step failed or panicked, the error. -/
inductive Passes (host : Host π ν) (side : Side) (ctx : Context) :
    Nat → List (Step π ν) → π → List (Happening host) → π × Except ChainError Unit → Prop
  | nil {position payload} : Passes host side ctx position [] payload [] (payload, .ok ())
  | blocked {position step rest payload hs panic}
      (guard : step.Consults host side position ctx payload hs (.error panic)) :
      Passes host side ctx position (step :: rest) payload hs (payload, .error (.panic panic))
  | skipped {position step rest payload hs hs' out}
      (guard : step.Consults host side position ctx payload hs (.ok false))
      (more : Passes host side ctx (position + 1) rest payload hs' out) :
      Passes host side ctx position (step :: rest) payload (hs ++ hs') out
  | stopped {position step rest payload hs hs' left error}
      (guard : step.Consults host side position ctx payload hs (.ok true))
      (operation : step.Operates host side position ctx payload hs' (left, .error error)) :
      Passes host side ctx position (step :: rest) payload (hs ++ hs') (left, .error error)
  | passed {position step rest payload hs hs' hs'' left out}
      (guard : step.Consults host side position ctx payload hs (.ok true))
      (operation : step.Operates host side position ctx payload hs' (left, .ok ()))
      (more : Passes host side ctx (position + 1) rest left hs'' out) :
      Passes host side ctx position (step :: rest) payload (hs ++ (hs' ++ hs'')) out

theorem plays_executeFrom (side : Side) (ctx : Context) (position : Nat) (steps : List (Step π ν))
    (payload : π) :
    Plays host (executeFrom host side ctx position steps payload)
      (Passes host side ctx position steps payload) := by
  induction steps generalizing position payload with
  | nil => exact .pure .nil
  | cons step rest ih =>
    rw [executeFrom]
    refine (step.plays_consult side position ctx payload).bind fun verdict hs hg => ?_
    match verdict with
    | .error panic => exact .pure (by simpa using .blocked hg)
    | .ok false => exact (ih _ _).mono fun _ _ => .skipped hg
    | .ok true =>
      refine (step.plays_operate side position ctx payload).bind fun ended hs' ho => ?_
      match ended with
      | (left, .error error) => exact .pure (by simpa using .stopped hg ho)
      | (left, .ok ()) => exact (ih _ _).mono fun _ _ => .passed hg ho

/-- A chain was executed: this is what happened, and what it came to. -/
def Executes (host : Host π ν) (side : Side) (chain : Chain π ν) (ctx : Context) (payload : π)
    (hs : List (Happening host)) (out : π × Except ChainError Unit) : Prop :=
  Passes host side ctx 0 chain.steps payload hs out ∧
    ∃ f : Finished (chain.execute host side ctx payload),
      f.ran.value = out ∧ f.ran.log = logOf hs

theorem plays_execute (side : Side) (chain : Chain π ν) (ctx : Context) (payload : π) :
    Plays host (chain.execute host side ctx payload) (chain.Executes host side ctx payload) :=
  (plays_executeFrom side ctx 0 chain.steps payload).with_run

end Chain

/-! ## Recovery -/

/-- What a handler at the given position comes to. Its context is reported in any case. -/
inductive Handler.Handles (host : Host π ν) (cause : ChainError) (position : Nat)
    (handler : Handler π ν) (ctx : Context) (payload : π) :
    List (Happening host) → Recovered π → Prop
  | kept (t : Turn host)
      (of : t.Of ⟨.handler cause, handler.label, ctx, payload⟩
        (handler.operation payload ctx cause))
      (ok : t.verdict = .ok) (same : t.settled.context.destination = ctx.destination) :
      Handles host cause position handler ctx payload [.turn t]
        ⟨t.settled.payload, t.settled.context, .ok ()⟩
  | retargeted (t : Turn host)
      (of : t.Of ⟨.handler cause, handler.label, ctx, payload⟩
        (handler.operation payload ctx cause))
      (ok : t.verdict = .ok) (other : t.settled.context.destination ≠ ctx.destination) :
      Handles host cause position handler ctx payload
        [.turn t, .event (.retargeted t.settled.context handler.label ctx.destination
          t.settled.context.destination)]
        ⟨t.settled.payload, t.settled.context, .ok ()⟩
  | failed {f} (t : Turn host)
      (of : t.Of ⟨.handler cause, handler.label, ctx, payload⟩
        (handler.operation payload ctx cause))
      (fail : t.verdict = .fail f) :
      Handles host cause position handler ctx payload
        [.turn t, .event (.handlerFailed t.settled.context position handler.label f)]
        ⟨t.settled.payload, t.settled.context, .error (.handler position handler.label f)⟩
  | panicked {v} (t : Turn host)
      (of : t.Of ⟨.handler cause, handler.label, ctx, payload⟩
        (handler.operation payload ctx cause))
      (panic : t.verdict = .panic v) :
      Handles host cause position handler ctx payload
        [.turn t, .event (.panicked ⟨t.settled.context, position, handler.label, v.payload⟩)]
        ⟨t.settled.payload, t.settled.context,
          .error (.panic ⟨t.settled.context, position, handler.label, v.payload⟩)⟩

theorem Handler.plays_handle (cause : ChainError) (position : Nat) (handler : Handler π ν)
    (ctx : Context) (payload : π) :
    Plays host (handler.handle host cause position ctx payload)
      (handler.Handles host cause position ctx payload) := by
  rw [handle]
  refine (plays_call _ _).bind ?_
  rintro ⟨left, reported, verdict⟩ _ ⟨t, of, rfl, ht⟩
  obtain rfl : left = t.settled.payload := congrArg Settled.payload ht
  obtain rfl : reported = t.settled.context := congrArg Settled.context ht
  have hv : t.verdict = verdict := (congrArg Settled.verdict ht).symm
  cases verdict with
  | ok =>
    dsimp only
    split
    · next other =>
      refine (plays_event _).bind ?_
      rintro _ _ rfl
      exact .pure (.retargeted t of hv other)
    · next same => exact .pure (.kept t of hv (Decidable.not_not.1 same))
  | fail f =>
    refine (plays_event _).bind ?_
    rintro _ _ rfl
    exact .pure (.failed t of hv)
  | panic v =>
    refine (plays_report _ _ _ _).bind ?_
    rintro _ _ ⟨rfl, rfl⟩
    exact .pure (.panicked t of hv)

namespace Recovery

/-- What running handlers comes to, the first of which has the given position. -/
inductive Handles (host : Host π ν) (cause : ChainError) :
    Nat → List (Handler π ν) → Context → π → List (Happening host) → Recovered π → Prop
  | nil {position ctx payload} :
      Handles host cause position [] ctx payload [] ⟨payload, ctx, .ok ()⟩
  | stopped {position handler rest ctx payload hs left reported error}
      (last : handler.Handles host cause position ctx payload hs ⟨left, reported, .error error⟩) :
      Handles host cause position (handler :: rest) ctx payload hs ⟨left, reported, .error error⟩
  | passed {position handler rest ctx payload hs hs' left reported out}
      (first : handler.Handles host cause position ctx payload hs ⟨left, reported, .ok ()⟩)
      (more : Handles host cause (position + 1) rest reported left hs' out) :
      Handles host cause position (handler :: rest) ctx payload (hs ++ hs') out

theorem plays_executeFrom (cause : ChainError) (position : Nat) (handlers : List (Handler π ν))
    (ctx : Context) (payload : π) :
    Plays host (executeFrom host cause position handlers ctx payload)
      (Handles host cause position handlers ctx payload) := by
  induction handlers generalizing position ctx payload with
  | nil => exact .pure .nil
  | cons handler rest ih =>
    rw [executeFrom]
    refine (handler.plays_handle cause position ctx payload).bind fun recovered hs h => ?_
    match recovered with
    | ⟨left, reported, .error error⟩ => exact .pure (by simpa using .stopped h)
    | ⟨left, reported, .ok ()⟩ => exact (ih _ _ _).mono fun _ _ => .passed h

/-- The handlers were run for a cause: this is what happened, and what it came to. -/
def Executes (host : Host π ν) (recovery : Recovery π ν) (cause : ChainError) (ctx : Context)
    (payload : π) (hs : List (Happening host)) (out : Recovered π) : Prop :=
  Handles host cause 0 recovery.handlers ctx payload hs out ∧
    ∃ f : Finished (recovery.execute host cause ctx payload),
      f.ran.value = out ∧ f.ran.log = logOf hs

theorem plays_execute (recovery : Recovery π ν) (cause : ChainError) (ctx : Context)
    (payload : π) :
    Plays host (recovery.execute host cause ctx payload)
      (recovery.Executes host cause ctx payload) :=
  (plays_executeFrom cause 0 recovery.handlers ctx payload).with_run

end Recovery

/-- The error that is reported for a cause once the handlers have run. -/
def Recovered.error (r : Recovered π) (cause : ChainError) : ChainError :=
  match r.result with
  | .ok () => cause
  | .error superseding => superseding

theorem Node.plays_recover (node : Node π ν) (cause : ChainError) (ctx : Context) (payload : π) :
    Plays host (node.recover host cause ctx payload) fun hs x =>
      ∃ out, node.recovery.Executes host cause ctx payload hs out ∧
        x = (out.payload, out.context, out.error cause) := by
  rw [recover]
  refine (node.recovery.plays_execute cause ctx payload).bind fun out hs h => ?_
  match out with
  | ⟨left, reported, .ok ()⟩ => exact .pure ⟨_, by simpa using h, rfl⟩
  | ⟨left, reported, .error error⟩ => exact .pure ⟨_, by simpa using h, rfl⟩

/-! ## Side effects -/

/-- The call that tells a side effect of a phase. -/
def Effect.call (e : Effect π ν) (phase : Phase) (payload : π) (ctx : Context) (elapsed : Nat) :
    Call π :=
  ⟨.effect phase elapsed, e.label, ctx, payload⟩

/-- Side effects are told one after the other, until one of them panics. -/
inductive Effect.Heard (host : Host π ν) (phase : Phase) (payload : π) (ctx : Context)
    (elapsed : Nat) : List (Effect π ν) → List (Turn host) → Option Raised → Prop
  | nil : Heard host phase payload ctx elapsed [] [] none
  | calm {e rest ts escape?} (t : Turn host)
      (of : t.Of (e.call phase payload ctx elapsed) (e.callback phase payload ctx elapsed))
      (calm : ∀ v, t.verdict ≠ .panic v)
      (more : Heard host phase payload ctx elapsed rest ts escape?) :
      Heard host phase payload ctx elapsed (e :: rest) (t :: ts) escape?
  | panicked {e rest v} (t : Turn host)
      (of : t.Of (e.call phase payload ctx elapsed) (e.callback phase payload ctx elapsed))
      (panic : t.verdict = .panic v) :
      Heard host phase payload ctx elapsed (e :: rest) [t] (some v)

namespace Bus

/-- The side effects that are told of a phase, in the order of their registration. -/
def audience (bus : Bus π ν) (phase : Phase) : List (Effect π ν) :=
  bus.effects.filter fun e => e.filter.allows phase

/-- What telling the side effects of a phase comes to. -/
inductive Tells (host : Host π ν) (bus : Bus π ν) (phase : Phase) (payload : π) (ctx : Context)
    (elapsed : Nat) : List (Happening host) → Except Raised Nat → Prop
  | told {ts} (heard : Effect.Heard host phase payload ctx elapsed (bus.audience phase) ts none) :
      Tells host bus phase payload ctx elapsed
        (ts.map .turn ++ [.event (.dispatched ctx phase ts.length)]) (.ok ts.length)
  | panicked {ts v}
      (heard : Effect.Heard host phase payload ctx elapsed (bus.audience phase) ts (some v)) :
      Tells host bus phase payload ctx elapsed (ts.map .turn) (.error v)

theorem plays_deliver (phase : Phase) (payload : π) (ctx : Context) (elapsed told : Nat)
    (effects : List (Effect π ν)) :
    Plays host (deliver host phase payload ctx elapsed told effects) fun hs r =>
      ∃ ts escape?, hs = ts.map .turn ∧
        Effect.Heard host phase payload ctx elapsed
          (effects.filter fun e => e.filter.allows phase) ts escape? ∧
        r = (escape?.map Except.error).getD (.ok (told + ts.length)) := by
  induction effects generalizing told with
  | nil => exact .pure ⟨[], none, rfl, .nil, rfl⟩
  | cons e rest ih =>
    rw [deliver]
    split
    · next allowed =>
      simp only [List.filter_cons, allowed, if_true]
      refine (plays_call _ _).bind ?_
      rintro _ _ ⟨t, of, rfl, rfl⟩
      split
      · next v panic => exact .pure ⟨[t], some v, rfl, .panicked t of panic, rfl⟩
      · next calm =>
        refine (ih (told + 1)).mono ?_
        rintro _ _ ⟨ts, escape?, rfl, heard, rfl⟩
        refine ⟨t :: ts, escape?, rfl, .calm t of (fun v hv => calm v hv) heard, ?_⟩
        rw [List.length_cons, Nat.add_right_comm, Nat.add_assoc]
    · next refused =>
      simpa only [List.filter_cons, refused, Bool.false_eq_true, if_false] using ih told

theorem plays_dispatch (bus : Bus π ν) (phase : Phase) (payload : π) (ctx : Context)
    (elapsed : Nat) :
    Plays host (bus.dispatch host phase payload ctx elapsed)
      (bus.Tells host phase payload ctx elapsed) := by
  rw [dispatch]
  refine (plays_deliver phase payload ctx elapsed 0 bus.effects).bind ?_
  rintro _ _ ⟨ts, escape?, rfl, heard, rfl⟩
  cases escape? with
  | some v => exact .pure (by simpa using .panicked heard)
  | none =>
    refine (plays_event _).bind ?_
    rintro _ _ rfl
    exact .pure (by simpa using .told heard)

end Bus

/-! ## Transitions -/

namespace Machine

variable (m : Machine π ν)

/-- What telling the side effects of a machine comes to. -/
def Tells (host : Host π ν) (phase : Phase) (payload : π) (ctx : Context)
    (hs : List (Happening host)) (r : Except Raised Nat) : Prop :=
  m.definition.effects.Tells host phase payload ctx (m.stopwatch ctx.id phase) hs r

theorem plays_tell (phase : Phase) (payload : π) (ctx : Context) :
    Plays host (m.tell host phase payload ctx) (m.Tells host phase payload ctx) :=
  m.definition.effects.plays_dispatch phase payload ctx _

/-- The course of a fire, once the edge it takes and both its ends are found: what happens after
the context is made, and what is left in the end. -/
inductive Course (host : Host π ν) (source : Node π ν) (edge : Edge π ν) (destination : Node π ν)
    (ctx : Context) (payload : π) : List (Happening host) → π × Outcome → Prop
  /-- The guard of the edge refuses or panics. -/
  | refused {g e} (guard : edge.Admits host payload ctx g (.error e)) :
      Course host source edge destination ctx payload g (payload, .answered (.error e))
  /-- A side effect before the transition panics. -/
  | cutBefore {g b v} (guard : edge.Admits host payload ctx g (.ok ()))
      (before : m.Tells host .beforeTransition payload ctx b (.error v)) :
      Course host source edge destination ctx payload (g ++ .event (.firing ctx) :: b)
        (payload, .escaped v)
  /-- An exit step fails; the handlers of the source run, and a side effect between the states
  panics. -/
  | cutRecovery {g b x h t left cause out k v} (guard : edge.Admits host payload ctx g (.ok ()))
      (before : m.Tells host .beforeTransition payload ctx b (.ok k))
      (exit : source.exit.Executes host .exit ctx payload x (left, .error cause))
      (recovery : source.recovery.Executes host cause ctx left h out)
      (between : m.Tells host .betweenStates out.payload out.context t (.error v)) :
      Course host source edge destination ctx payload
        (g ++ .event (.firing ctx) :: (b ++ (x ++ (h ++ t)))) (out.payload, .escaped v)
  /-- An exit step fails; the handlers of the source run. -/
  | exitFailed {g b x h t left cause out k l} (guard : edge.Admits host payload ctx g (.ok ()))
      (before : m.Tells host .beforeTransition payload ctx b (.ok k))
      (exit : source.exit.Executes host .exit ctx payload x (left, .error cause))
      (recovery : source.recovery.Executes host cause ctx left h out)
      (between : m.Tells host .betweenStates out.payload out.context t (.ok l)) :
      Course host source edge destination ctx payload
        (g ++ .event (.firing ctx) ::
          (b ++ (x ++ (h ++ (t ++ [.event (.failed out.context (out.error cause))])))))
        (out.payload, .answered (.error (.chain out.context (out.error cause))))
  /-- A side effect between the states panics. -/
  | cutBetween {g b x t left k v} (guard : edge.Admits host payload ctx g (.ok ()))
      (before : m.Tells host .beforeTransition payload ctx b (.ok k))
      (exit : source.exit.Executes host .exit ctx payload x (left, .ok ()))
      (between : m.Tells host .betweenStates left ctx t (.error v)) :
      Course host source edge destination ctx payload
        (g ++ .event (.firing ctx) :: (b ++ (x ++ t))) (left, .escaped v)
  /-- An entry step fails; the handlers of the destination run. -/
  | entryFailed {g b x t y h left left' cause out k l}
      (guard : edge.Admits host payload ctx g (.ok ()))
      (before : m.Tells host .beforeTransition payload ctx b (.ok k))
      (exit : source.exit.Executes host .exit ctx payload x (left, .ok ()))
      (between : m.Tells host .betweenStates left ctx t (.ok l))
      (entry : destination.entry.Executes host .entry ctx left y (left', .error cause))
      (recovery : destination.recovery.Executes host cause ctx left' h out) :
      Course host source edge destination ctx payload
        (g ++ .event (.firing ctx) ::
          (b ++ (x ++ (t ++ (y ++ (h ++ [.event (.failed out.context (out.error cause))]))))))
        (out.payload, .answered (.error (.chain out.context (out.error cause))))
  /-- A side effect after the transition panics. -/
  | cutAfter {g b x t y a left left' k l v} (guard : edge.Admits host payload ctx g (.ok ()))
      (before : m.Tells host .beforeTransition payload ctx b (.ok k))
      (exit : source.exit.Executes host .exit ctx payload x (left, .ok ()))
      (between : m.Tells host .betweenStates left ctx t (.ok l))
      (entry : destination.entry.Executes host .entry ctx left y (left', .ok ()))
      (after : m.Tells host .afterTransition left' ctx a (.error v)) :
      Course host source edge destination ctx payload
        (g ++ .event (.firing ctx) :: (b ++ (x ++ (t ++ (y ++ a))))) (left', .escaped v)
  /-- The transition succeeds. -/
  | completed {g b x t y a left left' k l i} (guard : edge.Admits host payload ctx g (.ok ()))
      (before : m.Tells host .beforeTransition payload ctx b (.ok k))
      (exit : source.exit.Executes host .exit ctx payload x (left, .ok ()))
      (between : m.Tells host .betweenStates left ctx t (.ok l))
      (entry : destination.entry.Executes host .entry ctx left y (left', .ok ()))
      (after : m.Tells host .afterTransition left' ctx a (.ok i)) :
      Course host source edge destination ctx payload
        (g ++ .event (.firing ctx) :: (b ++ (x ++ (t ++ (y ++ (a ++ [.event (.complete ctx)]))))))
        (left', .answered (.ok ctx))

variable {m}

theorem plays_fail (payload : π) (ctx : Context) (error : ChainError) :
    Plays host (fail payload ctx error) fun hs x =>
      hs = [.event (.failed ctx error)] ∧ x = (payload, .answered (.error (.chain ctx error))) :=
  (plays_event _).bind fun _ _ h => .pure (by simp [h])

theorem plays_transit {source destination : Node π ν} {edge : Edge π ν} {ctx : Context}
    {payload : π} {g : List (Happening host)} (guard : edge.Admits host payload ctx g (.ok ())) :
    Plays host (m.transit host source destination ctx payload) fun hs x =>
      m.Course host source edge destination ctx payload (g ++ hs) x := by
  rw [transit]
  refine (plays_event _).bind ?_
  rintro _ _ rfl
  refine (m.plays_tell .beforeTransition payload ctx).bind fun told b before => ?_
  match told with
  | .error v => exact .pure (by simpa using .cutBefore guard before)
  | .ok k =>
  refine (source.exit.plays_execute .exit ctx payload).bind fun ended x exit => ?_
  match ended with
  | (left, .error cause) =>
    dsimp only
    rw [abandon]
    refine (source.plays_recover cause ctx left).bind ?_
    rintro _ h ⟨out, recovery, rfl⟩
    refine (m.plays_tell .betweenStates out.payload out.context).bind fun told t between => ?_
    match told with
    | .error v => exact .pure (by simpa using .cutRecovery guard before exit recovery between)
    | .ok l =>
      refine (plays_fail _ _ _).mono ?_
      rintro _ _ ⟨rfl, rfl⟩
      simpa using .exitFailed guard before exit recovery between
  | (left, .ok ()) =>
  refine (m.plays_tell .betweenStates left ctx).bind fun told t between => ?_
  match told with
  | .error v => exact .pure (by simpa using .cutBetween guard before exit between)
  | .ok l =>
  dsimp only
  rw [arrive]
  refine (destination.entry.plays_execute .entry ctx left).bind fun ended y entry => ?_
  match ended with
  | (left', .error cause) =>
    refine (destination.plays_recover cause ctx left').bind ?_
    rintro _ h ⟨out, recovery, rfl⟩
    refine (plays_fail _ _ _).mono ?_
    rintro _ _ ⟨rfl, rfl⟩
    simpa using .entryFailed guard before exit between entry recovery
  | (left', .ok ()) =>
  refine (m.plays_tell .afterTransition left' ctx).bind fun told a after => ?_
  match told with
  | .error v => exact .pure (by simpa using .cutAfter guard before exit between entry after)
  | .ok i =>
    refine (plays_event _).bind ?_
    rintro _ _ rfl
    exact .pure (by simpa using .completed guard before exit between entry after)

/-! ## Questions to a machine -/

section Questions

variable [Payload π] (m)

/-- Where a trigger leads from a payload's state: the source, the edge and the destination, all of
them configured. -/
structure Leads (payload : π) (trigger : Trigger) (source : Node π ν) (edge : Edge π ν)
    (destination : Node π ν) : Prop where
  source_eq : m.definition.node? (Payload.state payload) = some source
  edge_eq : source.edge? trigger = some edge
  destination_eq : m.definition.node? edge.destination = some destination

/-- What happens when a machine is asked something and its callbacks may ask the host, and what it
answers. -/
inductive Answers (host : Host π ν) : Question π → List (Happening host) → Answer π → Prop
  | triggers {payload} :
      Answers host (.triggers payload) [] (.triggers (m.triggers payload))
  | unresolved {payload trigger e} (lost : m.resolve payload trigger = .error e) :
      Answers host (.canFire payload trigger) [] (.canFire (.error e))
  | unguarded {payload trigger node edge} (found : m.resolve payload trigger = .ok (node, edge))
      (none : edge.guard = none) :
      Answers host (.canFire payload trigger) [] (.canFire (.ok ()))
  | guarded {payload trigger node edge g ctx hs r}
      (found : m.resolve payload trigger = .ok (node, edge)) (some : edge.guard = some g)
      (context : ctx = ⟨ctx.id, node.state, edge.destination, trigger⟩)
      (guard : edge.Admits host payload ctx hs r) :
      Answers host (.canFire payload trigger) (.begun ctx :: hs) (.canFire r)
  | lost {payload trigger e} (lost : m.resolve payload trigger = .error e) :
      Answers host (.fire payload trigger) [] (.fire payload (.answered (.error e)))
  | nowhere {payload trigger node edge} (found : m.resolve payload trigger = .ok (node, edge))
      (none : m.definition.node? edge.destination = none) :
      Answers host (.fire payload trigger) []
        (.fire payload (.answered (.error (.stateNotFound edge.destination))))
  | fired {payload trigger source edge destination ctx hs left outcome}
      (leads : m.Leads payload trigger source edge destination)
      (context : ctx = ⟨ctx.id, source.state, edge.destination, trigger⟩)
      (course : m.Course host source edge destination ctx payload hs (left, outcome)) :
      Answers host (.fire payload trigger) (.begun ctx :: hs) (.fire left outcome)

variable {m}

theorem resolve_eq_ok_iff {payload : π} {trigger : Trigger} {node : Node π ν} {edge : Edge π ν} :
    m.resolve payload trigger = .ok (node, edge) ↔
      m.definition.node? (Payload.state payload) = some node ∧ node.edge? trigger = some edge := by
  unfold resolve Machine.node
  cases m.definition.node? (Payload.state payload) with
  | none => simp
  | some n =>
    cases hn : n.edge? trigger with
    | none =>
      simp only [hn, reduceCtorEq, Option.some.injEq, false_iff, not_and]
      rintro rfl h
      exact absurd (hn.symm.trans h) (by simp)
    | some e =>
      simp only [hn, Except.ok.injEq, Prod.mk.injEq, Option.some.injEq]
      constructor
      · rintro ⟨rfl, rfl⟩
        exact ⟨rfl, hn⟩
      · rintro ⟨rfl, he⟩
        exact ⟨rfl, Option.some.inj (hn.symm.trans he)⟩

/-- A trigger finds no edge if the state of the payload is not configured, or has no edge for it. -/
theorem resolve_eq_error {payload : π} {trigger : Trigger} {e : FireError}
    (h : m.resolve payload trigger = .error e) :
    m.definition.node? (Payload.state payload) = none ∧
        e = .stateNotFound (Payload.state payload) ∨
      ∃ node, m.definition.node? (Payload.state payload) = some node ∧
        node.edge? trigger = none ∧ e = .triggerNotFound (Payload.state payload) trigger := by
  unfold resolve Machine.node at h
  cases found : m.definition.node? (Payload.state payload) with
  | none =>
    rw [found] at h
    exact .inl ⟨rfl, (Except.error.inj h).symm⟩
  | some node =>
    simp only [found] at h
    split at h
    · exact nomatch h
    · next none =>
      obtain rfl := Except.error.inj h
      exact .inr ⟨node, rfl, none, by rw [m.sound.state_of_node? found]⟩

theorem plays_canFireOn (payload : π) (trigger : Trigger) :
    Plays host (m.canFireOn host payload trigger) fun hs r =>
      m.Answers host (.canFire payload trigger) hs (.canFire r) := by
  unfold canFireOn
  split
  · next e lost => exact .pure (.unresolved lost)
  · next node edge found =>
    split
    · next none => exact .pure (.unguarded found none)
    · next g some =>
      refine (plays_create _ _ _).bind ?_
      rintro ctx _ ⟨rfl, context⟩
      exact (g.plays_permit some payload ctx).mono fun _ _ => .guarded found some context

theorem plays_fireOn (payload : π) (trigger : Trigger) :
    Plays host (m.fireOn host payload trigger) fun hs x =>
      m.Answers host (.fire payload trigger) hs (.fire x.1 x.2) := by
  unfold fireOn
  split
  · next e lost => exact .pure (.lost lost)
  · next source edge found =>
    split
    · next none => exact .pure (.nowhere found none)
    · next destination some =>
      have leads : m.Leads payload trigger source edge destination :=
        ⟨(resolve_eq_ok_iff.1 found).1, (resolve_eq_ok_iff.1 found).2, some⟩
      refine (plays_create _ _ _).bind ?_
      rintro ctx _ ⟨rfl, context⟩
      rw [m.sound.state_of_node? some] at context
      split
      · next free =>
        refine (plays_transit (.free free)).mono fun _ _ course => ?_
        simpa using .fired leads context course
      · next g some =>
        refine (g.plays_permit some payload ctx).bind fun admitted hs guard => ?_
        match admitted with
        | .error e => exact .pure (by simpa using .fired leads context (.refused guard))
        | .ok () =>
          refine (plays_transit guard).mono fun _ _ course => ?_
          simpa using .fired leads context course

/-- Questions to a machine whose callbacks may call it `depth` deep: the callbacks ask the machine
at one level less. -/
theorem plays_ask (depth : Nat) (q : Question π) :
    Plays (m.host depth) ((m.host (depth + 1)).ask q) (m.Answers (m.host depth) q) := by
  cases q with
  | triggers payload => exact .pure .triggers
  | canFire payload trigger => exact (plays_canFireOn payload trigger).map
  | fire payload trigger => exact (plays_fireOn payload trigger).map

end Questions

end Machine

end StateMachine
