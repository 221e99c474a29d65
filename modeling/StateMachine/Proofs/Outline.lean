import StateMachine.Proofs.Visit

/-!
# The outline of a fire

Much of what holds of a fire does not depend on which callbacks there are. Two kinds of parts
matter: stretches of guards, steps and side effects, which pass on the context they were given, and
the error handlers, which do not.

* `Stretch`: happenings without error handlers; `Stretch.append` joins two of them, and for every
  part of the engine without handlers there is a lemma that it is a stretch.
* `Mended`: what handlers leave.
* `Machine.Outline`: a fire as one stretch, after which the handlers of one state and another
  stretch may follow. `Machine.Course.outline` is where the courses of a fire are gone through.
-/

namespace StateMachine

variable {π ν : Type} {host : Host π ν}

/-! ## Lines -/

section Lines

variable {ctx : Context}

theorem Turn.Of.bears {t : Turn host} {call : Call π} {code : Code π ν} (of : t.Of call code)
    (h : ∀ c ∈ call.contexts, ctx.Of c) : (Happening.turn t).Bears ctx.Of := by
  obtain ⟨rfl, -⟩ := of
  exact ⟨h, (h _ List.mem_cons_self).trans t.of_context⟩

theorem Call.contexts_of_not_handler {c : Call π} (h : c.role.isHandler = false) :
    c.contexts = [c.context] := by
  obtain ⟨role, label, context, payload⟩ := c
  cases role <;> first | rfl | exact absurd h (by simp [Role.isHandler])

theorem bears_event {e : Event} (he : e.contexts = [ctx]) :
    (Happening.event e : Happening host).Bears ctx.Of := by
  refine ⟨by simp [he], fun c hc => ?_⟩
  obtain rfl : c = ctx := by simpa [he] using hc
  exact .refl c

end Lines

/-! ## Stretches -/

/-- Happenings without error handlers: all of them show the same context, each callback is given
what the one before it passed on, and only the last may cut them short. -/
structure Stretch (ctx : Context) (payload : π) (hs : List (Happening host)) (left : π)
    (stop : Option Stop) : Prop where
  bears : ∀ h ∈ hs, h.Bears ctx.Of
  steady : ∀ v ∈ visitsOf hs, v.Steady ctx
  threaded : Threaded (payload, ctx) (visitsOf hs) (left, ctx)
  ends : Ends (visitsOf hs) stop

namespace Stretch

variable {ctx : Context} {payload left left' : π} {hs hs' : List (Happening host)}
  {stop : Option Stop}

theorem nil : Stretch ctx payload ([] : List (Happening host)) payload none where
  bears := by simp
  steady := by simp
  threaded := rfl
  ends := by simp [Ends]

theorem append (h : Stretch ctx payload hs left none) (h' : Stretch ctx left hs' left' stop) :
    Stretch ctx payload (hs ++ hs') left' stop where
  bears := List.forall_mem_append.2 ⟨h.bears, h'.bears⟩
  steady := by
    rw [visitsOf_append]
    exact List.forall_mem_append.2 ⟨h.steady, h'.steady⟩
  threaded := by
    rw [visitsOf_append]
    exact h.threaded.append h'.threaded
  ends := by
    rw [visitsOf_append]
    exact h.ends.append h'.ends

/-- An event may be reported afterwards, even if the stretch was cut short. -/
theorem event (h : Stretch ctx payload hs left stop) {e : Event}
    (he : (Happening.event e : Happening host).Bears ctx.Of) :
    Stretch ctx payload (hs ++ [.event e]) left stop where
  bears := List.forall_mem_append.2 ⟨h.bears, List.forall_mem_singleton.2 he⟩
  steady := by simpa using h.steady
  threaded := by simpa using h.threaded
  ends := by simpa using h.ends

theorem turn {t : Turn host} {call : Call π} {code : Code π ν} (of : t.Of call code)
    (hr : call.role.isHandler = false) (ends : Ends [t.visit] stop) :
    Stretch call.context call.payload [.turn t]
      (t.visit.advance (call.payload, call.context)).1 stop where
  bears := by
    refine List.forall_mem_singleton.2 (of.bears ?_)
    rw [Call.contexts_of_not_handler hr]
    exact List.forall_mem_singleton.2 (.refl _)
  steady := by
    obtain ⟨rfl, -⟩ := of
    exact List.forall_mem_singleton.2 ⟨hr, rfl⟩
  threaded := by
    obtain ⟨rfl, -⟩ := of
    have hctx := snd_foldl_advance [t.visit] (t.call.payload, t.call.context)
    rw [handlersOf_eq_nil (List.forall_mem_singleton.2 hr)] at hctx
    exact ⟨rfl, Prod.ext rfl hctx.symm⟩
  ends := ends

theorem handlersOf_eq (h : Stretch ctx payload hs left stop) : handlersOf (visitsOf hs) = [] :=
  handlersOf_eq_nil fun v hv => (h.steady v hv).1

/-- The error that cuts a stretch short carries the context of the stretch. -/
theorem eq_of_mem_contexts {e : ChainError} (h : Stretch ctx payload hs left (some (.failed e))) :
    ∀ c ∈ e.contexts, c = ctx := by
  obtain ⟨before, last, hvs, -, position, error⟩ := h.ends
  exact Visit.eq_of_mem_contexts (h.steady last (by simp [hvs])) error

theorem of_mem_contexts {e : ChainError} (h : Stretch ctx payload hs left (some (.failed e))) :
    ∀ c ∈ e.contexts, ctx.Of c := by
  intro c hc
  rw [h.eq_of_mem_contexts c hc]
  exact .refl ctx

end Stretch

/-! ### Guards and steps -/

section Steps

variable {ctx : Context} {payload : π} {hs : List (Happening host)}

/-- A guard calls nobody, or one predicate. Without one, its failure has no causes. -/
theorem Guard.Answers.builtIn_or_asked {role : Role} {g : Guard π ν} {verdict : Verdict}
    (h : g.Answers host role payload ctx hs verdict) :
    hs = [] ∧ (verdict = .ok ∨ ∃ text, verdict = .fail (.plain text)) ∨
      ∃ t code, hs = [.turn t] ∧ t.Of ⟨role, g.label, ctx, payload⟩ code ∧ t.verdict = verdict := by
  cases h with
  | matching => exact .inl ⟨rfl, .inl rfl⟩
  | mismatching => exact .inl ⟨rfl, .inr ⟨_, rfl⟩⟩
  | predicate t of => exact .inr ⟨t, _, rfl, of, rfl⟩

theorem Guard.Answers.asked {role : Role} {g : Guard π ν} {verdict : Verdict}
    (h : g.Answers host role payload ctx hs verdict) :
    hs = [] ∧ (∀ r, verdict ≠ .panic r) ∨
      ∃ t code, hs = [.turn t] ∧ t.Of ⟨role, g.label, ctx, payload⟩ code ∧ t.verdict = verdict := by
  rcases h.builtIn_or_asked with ⟨none, rfl | ⟨text, rfl⟩⟩ | asked
  · exact .inl ⟨none, fun _ => Verdict.noConfusion⟩
  · exact .inl ⟨none, fun _ => Verdict.noConfusion⟩
  · exact .inr asked

theorem Guard.Answers.stretch {role : Role} {g : Guard π ν} {verdict : Verdict} {stop : Option Stop}
    (h : g.Answers host role payload ctx hs verdict)
    (hr : role = .edgeGuard ∨ ∃ side, role = .stepGuard side)
    (quiet : (∀ r, verdict ≠ .panic r) → stop = none)
    (ends : ∀ t : Turn host, t.call = ⟨role, g.label, ctx, payload⟩ → t.verdict = verdict →
      Ends [t.visit] stop) :
    Stretch ctx payload hs payload stop := by
  rcases h.asked with ⟨rfl, calm⟩ | ⟨t, code, rfl, of, rfl⟩
  · rw [quiet calm]
    exact .nil
  · have hs := Stretch.turn of (by rcases hr with rfl | ⟨_, rfl⟩ <;> rfl) (ends t of.1 rfl)
    have hp : (t.visit.advance (payload, ctx)).1 = payload := by
      rcases hr with rfl | ⟨_, rfl⟩ <;> simp [Visit.advance, of.1]
    simpa only [hp] using hs

theorem Edge.Admits.stretch {edge : Edge π ν} (h : edge.Admits host payload ctx hs (.ok ())) :
    Stretch ctx payload hs payload none := by
  cases h with
  | free => exact .nil
  | passed _ answer =>
    refine answer.stretch (.inl rfl) (fun _ => rfl) fun t _ ok => ?_
    exact ends_of_calm (Visit.calm_of_ok ok)

/-- An edge that does not let a transition pass has asked its guard, and reports what the guard
answered. -/
theorem Edge.Admits.refusal {edge : Edge π ν} {e : FireError}
    (h : edge.Admits host payload ctx hs (.error e)) :
    (∀ x ∈ hs, x.Bears ctx.Of) ∧
      (visitsOf hs = [] ∨ ∃ v : Visit π, visitsOf hs = [v] ∧ v.call.role = .edgeGuard ∧
        v.call.context = ctx ∧ v.call.payload = payload ∧
        ∀ r, v.settled.verdict = .panic r →
          e = .guardPanicked ⟨ctx, 0, v.call.label, r.payload⟩) := by
  have turn {t : Turn host} {code : Code π ν} {g : Guard π ν}
      (of : t.Of ⟨.edgeGuard, g.label, ctx, payload⟩ code) : (Happening.turn t).Bears ctx.Of :=
    of.bears (List.forall_mem_singleton.2 (.refl ctx))
  cases h with
  | rejected _ answer =>
    rcases answer.asked with ⟨rfl, -⟩ | ⟨t, code, rfl, of, fail⟩
    · exact ⟨List.forall_mem_singleton.2 (bears_event rfl), .inl rfl⟩
    · refine ⟨List.forall_mem_cons.2 ⟨turn of, List.forall_mem_singleton.2 (bears_event rfl)⟩,
        .inr ⟨t.visit, rfl, ?_⟩⟩
      simp [of.1, fail]
  | panicked _ answer =>
    rcases answer.asked with ⟨-, quiet⟩ | ⟨t, code, rfl, of, panic⟩
    · exact absurd rfl (quiet _)
    · refine ⟨List.forall_mem_cons.2 ⟨turn of, List.forall_mem_singleton.2 (bears_event rfl)⟩,
        .inr ⟨t.visit, rfl, ?_⟩⟩
      simp [of.1, panic]

theorem Edge.Admits.bears {edge : Edge π ν} {r : Except FireError Unit}
    (h : edge.Admits host payload ctx hs r) : ∀ x ∈ hs, x.Bears ctx.Of := by
  match r with
  | .ok () => exact h.stretch.bears
  | .error e => exact h.refusal.1

theorem Edge.Admits.error_eq {edge : Edge π ν} {e : FireError}
    (h : edge.Admits host payload ctx hs (.error e)) :
    (∃ guard failure, e = .guardRejected ctx.source ctx.trigger guard failure) ∨
      ∃ guard text, e = .guardPanicked ⟨ctx, 0, guard, text⟩ := by
  cases h with
  | rejected => exact .inl ⟨_, _, rfl⟩
  | panicked => exact .inr ⟨_, _, rfl⟩

theorem Guard.Answers.role {role : Role} {g : Guard π ν} {verdict : Verdict}
    (h : g.Answers host role payload ctx hs verdict) : ∀ v ∈ visitsOf hs, v.call.role = role := by
  rcases h.asked with ⟨rfl, -⟩ | ⟨t, code, rfl, of, -⟩
  · simp
  · exact List.forall_mem_singleton.2 (congrArg Call.role of.1)

theorem Edge.Admits.role {edge : Edge π ν} {r : Except FireError Unit}
    (h : edge.Admits host payload ctx hs r) : ∀ v ∈ visitsOf hs, v.call.role = .edgeGuard := by
  cases h with
  | free => simp
  | passed _ answer => exact answer.role
  | rejected _ answer => simpa using answer.role
  | panicked _ answer => simpa using answer.role

/-- An edge has nobody asked but its guard. -/
theorem Edge.Admits.calls {edge : Edge π ν} {r : Except FireError Unit}
    (h : edge.Admits host payload ctx hs r) :
    (turns hs).map Turn.call = [] ∨ ∃ g, edge.guard = some g ∧
      (turns hs).map Turn.call = [⟨.edgeGuard, g.label, ctx, payload⟩] := by
  have asked {g : Guard π ν} {hs : List (Happening host)} {verdict : Verdict}
      (some : edge.guard = some g) (answer : g.Answers host .edgeGuard payload ctx hs verdict) :
      (turns hs).map Turn.call = [] ∨ ∃ g, edge.guard = .some g ∧
        (turns hs).map Turn.call = [⟨.edgeGuard, g.label, ctx, payload⟩] := by
    rcases answer.asked with ⟨rfl, -⟩ | ⟨t, code, rfl, of, -⟩
    · exact .inl rfl
    · exact .inr ⟨g, some, congrArg (fun c => [c]) of.1⟩
  cases h with
  | free => exact .inl rfl
  | passed some answer => exact asked some answer
  | rejected some answer => simpa [turns] using asked some answer
  | panicked some answer => simpa [turns] using asked some answer

theorem Edge.Admits.turns_given {edge : Edge π ν} {r : Except FireError Unit}
    (h : edge.Admits host payload ctx hs r) :
    ∀ t ∈ turns hs, t.call.payload = payload ∧ t.call.context = ctx := by
  intro t ht
  have mem : t.call ∈ (turns hs).map Turn.call := List.mem_map_of_mem ht
  rcases h.calls with none | ⟨g, -, one⟩
  · exact nomatch none ▸ mem
  · have same : t.call = ⟨.edgeGuard, g.label, ctx, payload⟩ := List.mem_singleton.1 (one ▸ mem)
    exact ⟨congrArg Call.payload same, congrArg Call.context same⟩

theorem Step.Consults.stretch {side : Side} {position : Nat} {step : Step π ν}
    {r : Except PanicError Bool} (h : step.Consults host side position ctx payload hs r) :
    Stretch ctx payload hs payload
      (match r with
        | .ok _ => none
        | .error panic => some (.failed (.panic panic))) := by
  cases h with
  | free => exact .nil
  | passed _ answer =>
    refine answer.stretch (.inr ⟨side, rfl⟩) (fun _ => rfl) fun t _ ok => ?_
    exact ends_of_calm (Visit.calm_of_ok ok)
  | skipped _ answer =>
    refine (answer.stretch (.inr ⟨side, rfl⟩) (fun _ => rfl) fun t call fail => ?_).event
      (bears_event rfl)
    exact ends_of_calm ⟨by simp [fail], by simp [Visit.error?, call, fail]⟩
  | panicked _ answer =>
    refine (answer.stretch (.inr ⟨side, rfl⟩) (fun quiet => absurd rfl (quiet _))
      fun t call panic => ?_).event (bears_event rfl)
    exact ends_of_error position (by simp [Visit.error?, call, panic])

theorem Step.Operates.stretch {side : Side} {position : Nat} {step : Step π ν}
    {out : π × Except ChainError Unit} (h : step.Operates host side position ctx payload hs out) :
    Stretch ctx payload hs out.1
      (match out.2 with
        | .ok _ => none
        | .error e => some (.failed e)) := by
  have ended {t : Turn host} {code : Code π ν} {stop : Option Stop}
      (of : t.Of ⟨.operation side, step.label, ctx, payload⟩ code) (ends : Ends [t.visit] stop) :
      Stretch ctx payload [.turn t] t.settled.payload stop := by
    simpa [Visit.advance, of.1] using Stretch.turn of rfl ends
  cases h with
  | done t of ok => exact ended of (ends_of_calm (Visit.calm_of_ok ok))
  | failed t of fail =>
    refine (ended of (ends_of_error position ?_)).event (bears_event rfl)
    simp [Visit.error?, of.1, fail]
  | panicked t of panic =>
    refine (ended of (ends_of_error position ?_)).event (bears_event rfl)
    simp [Visit.error?, of.1, panic]

theorem Chain.Passes.stretch {side : Side} {position : Nat} {steps : List (Step π ν)}
    {out : π × Except ChainError Unit}
    (h : Chain.Passes host side ctx position steps payload hs out) :
    Stretch ctx payload hs out.1
      (match out.2 with
        | .ok _ => none
        | .error e => some (.failed e)) := by
  induction h with
  | nil => exact .nil
  | blocked guard => exact guard.stretch
  | skipped guard _ ih => exact guard.stretch.append ih
  | stopped guard operation => exact guard.stretch.append operation.stretch
  | passed guard operation _ ih => exact guard.stretch.append (operation.stretch.append ih)

theorem Step.Consults.role {side : Side} {position : Nat} {step : Step π ν}
    {r : Except PanicError Bool} (h : step.Consults host side position ctx payload hs r) :
    ∀ v ∈ visitsOf hs, v.call.role = .stepGuard side := by
  cases h with
  | free => simp
  | passed _ answer => exact answer.role
  | skipped _ answer => simpa using answer.role
  | panicked _ answer => simpa using answer.role

theorem Step.Operates.role {side : Side} {position : Nat} {step : Step π ν}
    {out : π × Except ChainError Unit} (h : step.Operates host side position ctx payload hs out) :
    ∀ v ∈ visitsOf hs, v.call.role = .operation side := by
  cases h with
  | done t of => simp [of.1]
  | failed t of => simp [of.1]
  | panicked t of => simp [of.1]

theorem Chain.Passes.role {side : Side} {position : Nat} {steps : List (Step π ν)}
    {out : π × Except ChainError Unit}
    (h : Chain.Passes host side ctx position steps payload hs out) :
    ∀ v ∈ visitsOf hs, v.call.role = .stepGuard side ∨ v.call.role = .operation side := by
  have append {hs hs' : List (Happening host)} {P : Visit π → Prop}
      (h : ∀ v ∈ visitsOf hs, P v) (h' : ∀ v ∈ visitsOf hs', P v) :
      ∀ v ∈ visitsOf (hs ++ hs'), P v := by
    rw [visitsOf_append]
    exact List.forall_mem_append.2 ⟨h, h'⟩
  induction h with
  | nil => simp
  | blocked guard => exact fun v hv => .inl (guard.role v hv)
  | skipped guard _ ih => exact append (fun v hv => .inl (guard.role v hv)) ih
  | stopped guard operation =>
    exact append (fun v hv => .inl (guard.role v hv)) fun v hv => .inr (operation.role v hv)
  | passed guard operation _ ih =>
    exact append (fun v hv => .inl (guard.role v hv))
      (append (fun v hv => .inr (operation.role v hv)) ih)

/-- A chain that fails has a step that made its error. -/
theorem Chain.Passes.fails {side : Side} {position : Nat} {steps : List (Step π ν)} {left : π}
    {cause : ChainError}
    (h : Chain.Passes host side ctx position steps payload hs (left, .error cause)) :
    ∃ v ∈ visitsOf hs, v.Fails side := by
  obtain ⟨before, last, hvs, -, position, error⟩ := h.stretch.ends
  have mem : last ∈ visitsOf hs := by simp [hvs]
  exact ⟨last, mem, h.role last mem, position, cause, error⟩

end Steps

/-! ### Side effects -/

section Effects

variable {phase : Phase} {payload : π} {ctx : Context} {elapsed : Nat}

theorem Effect.Heard.stretch {effects : List (Effect π ν)} {ts : List (Turn host)}
    {escape? : Option Raised}
    (h : Effect.Heard host phase payload ctx elapsed effects ts escape?) :
    Stretch ctx payload (ts.map .turn) payload (escape?.map .escaped) := by
  induction h with
  | nil => exact .nil
  | calm t of calm more ih =>
    have hcalm : t.visit.Calm :=
      ⟨calm, fun position => by simp [Visit.error?, of.1, Effect.call]⟩
    have ht := Stretch.turn of rfl (ends_of_calm hcalm)
    rw [Visit.advance, Turn.call_visit, of.1] at ht
    exact ht.append ih
  | panicked t of panic =>
    have stops : t.visit.Stops (.escaped _) := ⟨by rw [Turn.call_visit, of.1]; rfl, panic⟩
    have ht := Stretch.turn of rfl (ends_singleton stops)
    rw [Visit.advance, Turn.call_visit, of.1] at ht
    exact ht

theorem Effect.Heard.role {effects : List (Effect π ν)} {ts : List (Turn host)}
    {escape? : Option Raised}
    (h : Effect.Heard host phase payload ctx elapsed effects ts escape?) :
    ∀ t ∈ ts, t.call.role = .effect phase elapsed := by
  induction h with
  | nil => simp
  | calm t of _ _ ih => exact List.forall_mem_cons.2 ⟨congrArg Call.role of.1, ih⟩
  | panicked t of => exact List.forall_mem_singleton.2 (congrArg Call.role of.1)

variable {m : Machine π ν} {hs : List (Happening host)} {r : Except Raised Nat}

theorem Machine.Tells.stretch (h : m.Tells host phase payload ctx hs r) :
    Stretch ctx payload hs payload
      (match r with
        | .ok _ => none
        | .error value => some (.escaped value)) := by
  cases h with
  | told heard => exact heard.stretch.event (bears_event rfl)
  | panicked heard => exact heard.stretch

theorem Machine.Tells.role (h : m.Tells host phase payload ctx hs r) :
    ∀ v ∈ visitsOf hs, ∃ elapsed, v.call.role = .effect phase elapsed := by
  intro v hv
  obtain ⟨t, ht, rfl⟩ := List.mem_map.1 hv
  cases h with
  | told heard => exact ⟨_, heard.role t (by simpa using ht)⟩
  | panicked heard => exact ⟨_, heard.role t (by simpa using ht)⟩

end Effects

/-! ## Handlers -/

/-- What handlers leave that are run for a cause, the first of which has the given position. -/
structure Mended (cause : ChainError) (ctx : Context) (payload : π) (position : Nat)
    (hs : List (Happening host)) (out : Recovered π) : Prop where
  of : ctx.Of out.context
  bears : ∀ h ∈ hs, h.Bears ctx.Of
  role : ∀ v ∈ visitsOf hs, v.call.role = .handler cause
  threaded : Threaded (payload, ctx) (visitsOf hs) (out.payload, out.context)
  ends : Ends (visitsOf hs)
    (match out.result with
      | .ok _ => none
      | .error e => some (.failed e))
  error_eq : out.error cause =
    (((visitsOf hs).zipIdx position).findSome? fun x => x.1.error? x.2).getD cause
  error_of : ∀ c ∈ (out.error cause).contexts, ctx.Of c

namespace Mended

variable {cause : ChainError} {ctx : Context} {payload : π} {position : Nat}
  {hs : List (Happening host)} {out : Recovered π}

theorem handlersOf_eq (h : Mended cause ctx payload position hs out) :
    handlersOf (visitsOf hs) = visitsOf hs := by
  refine List.filter_eq_self.2 fun v hv => ?_
  rw [h.role v hv]
  rfl

theorem contextAfter_eq (h : Mended cause ctx payload position hs out) :
    contextAfter ctx (visitsOf hs) = out.context := by
  have hout := congrArg Prod.snd h.threaded.eq_foldl
  rw [snd_foldl_advance, h.handlersOf_eq] at hout
  exact hout.symm

end Mended

section Handlers

variable {cause : ChainError} {position : Nat} {ctx : Context} {payload : π}
  {hs : List (Happening host)} {out : Recovered π}

theorem Handler.Handles.visited {handler : Handler π ν}
    (h : handler.Handles host cause position ctx payload hs out) :
    ∃ t : Turn host, visitsOf hs = [t.visit] ∧
      t.call = ⟨.handler cause, handler.label, ctx, payload⟩ ∧
      out = ⟨t.settled.payload, t.settled.context, out.result⟩ ∧
      (match out.result with
        | .ok _ => t.verdict = .ok
        | .error e => t.visit.error? position = some e) := by
  cases h with
  | kept t of ok => exact ⟨t, rfl, of.1, rfl, ok⟩
  | retargeted t of ok => exact ⟨t, rfl, of.1, rfl, ok⟩
  | failed t of fail => exact ⟨t, rfl, of.1, rfl, by simp [Visit.error?, of.1, fail]⟩
  | panicked t of panic => exact ⟨t, rfl, of.1, rfl, by simp [Visit.error?, of.1, panic]⟩

theorem Handler.Handles.bears {handler : Handler π ν} (hc : ∀ c ∈ cause.contexts, ctx.Of c)
    (h : handler.Handles host cause position ctx payload hs out) : ∀ x ∈ hs, x.Bears ctx.Of := by
  have turn {t : Turn host} {code : Code π ν}
      (of : t.Of ⟨.handler cause, handler.label, ctx, payload⟩ code) :
      (Happening.turn t).Bears ctx.Of := of.bears (List.forall_mem_cons.2 ⟨.refl ctx, hc⟩)
  have event {t : Turn host} {code : Code π ν} {e : Event}
      (of : t.Of ⟨.handler cause, handler.label, ctx, payload⟩ code)
      (he : e.contexts = [t.settled.context]) :
      (Happening.event e : Happening host).Bears ctx.Of :=
    (bears_event he).mono fun _ => (turn of).2.trans
  cases h with
  | kept t of => simpa using turn of
  | retargeted t of => simpa using ⟨turn of, event of rfl⟩
  | failed t of => simpa using ⟨turn of, event of rfl⟩
  | panicked t of => simpa using ⟨turn of, event of rfl⟩

theorem Recovery.Handles.ends {handlers : List (Handler π ν)}
    (h : Recovery.Handles host cause position handlers ctx payload hs out) :
    Ends (visitsOf hs)
      (match out.result with
        | .ok _ => none
        | .error e => some (.failed e)) := by
  induction h with
  | nil => simp [Ends]
  | stopped last =>
    obtain ⟨t, ht, -, -, error⟩ := last.visited
    rw [ht]
    exact ends_of_error _ error
  | passed first _ ih =>
    obtain ⟨t, ht, -, -, ok⟩ := first.visited
    rw [visitsOf_append, ht]
    exact Ends.append (ends_of_calm (Visit.calm_of_ok ok)) ih

theorem Recovery.Handles.mended {handlers : List (Handler π ν)}
    (hc : ∀ c ∈ cause.contexts, ctx.Of c)
    (h : Recovery.Handles host cause position handlers ctx payload hs out) :
    Mended cause ctx payload position hs out := by
  induction h with
  | nil => exact ⟨.refl _, by simp, by simp, rfl, by simp [Ends], rfl, hc⟩
  | stopped last =>
    obtain ⟨t, ht, call, hout, error⟩ := last.visited
    obtain ⟨rfl, rfl, -⟩ := Recovered.mk.inj hout
    have he : t.visit.error? _ = some _ := error
    refine ⟨?_, last.bears hc, ?_, ?_, ?_, ?_, ?_⟩
    · have := t.of_context
      rwa [call] at this
    · rw [ht]
      exact List.forall_mem_singleton.2 (congrArg Call.role call)
    · rw [ht]
      exact ⟨by simp [call], by simp [Visit.advance, call]⟩
    · rw [ht]
      exact ends_of_error _ he
    · simp [ht, he, Recovered.error]
    · simpa [call, Recovered.error] using Visit.of_mem_contexts t.of_context he
  | passed first more ih =>
    obtain ⟨t, ht, call, hout, ok⟩ := first.visited
    obtain ⟨rfl, rfl, -⟩ := Recovered.mk.inj hout
    have of := t.of_context
    rw [call] at of
    have rest := ih fun c hcc => of.symm.trans (hc c hcc)
    refine ⟨of.trans rest.of, ?_, ?_, ?_, ?_, ?_, fun c hcc => of.trans (rest.error_of c hcc)⟩
    · refine List.forall_mem_append.2 ⟨first.bears hc, fun x hx => ?_⟩
      exact (rest.bears x hx).mono fun _ => of.trans
    · rw [visitsOf_append, ht]
      exact List.forall_mem_cons.2 ⟨congrArg Call.role call, rest.role⟩
    · rw [visitsOf_append, ht]
      refine ⟨by simp [call], ?_⟩
      simpa [Visit.advance, call] using rest.threaded
    · exact (Recovery.Handles.passed first more).ends
    · have none (i : Nat) : t.visit.error? i = none := Visit.error?_of_ok ok i
      rw [visitsOf_append, ht, List.singleton_append, List.zipIdx_cons, List.findSome?_cons, none]
      exact rest.error_eq

end Handlers

/-! ## Fires -/

/-- What a fire comes to after its handlers have run for a cause: the reported error, unless a side
effect panics afterwards. -/
def Recovered.outcome (r : Recovered π) (cause : ChainError) : Option Raised → Outcome
  | none => .answered (.error (.chain r.context (r.error cause)))
  | some value => .escaped value

/-- A fire in outline. Its handlers are run for the error that cut its first stretch short; after
the handlers of a source, the side effects between the states are told in another stretch. -/
inductive Machine.Outline (ctx : Context) (payload : π) :
    List (Happening host) → π × Outcome → Prop
  | refused {hs e} (bears : ∀ h ∈ hs, h.Bears ctx.Of)
      (asked : visitsOf hs = [] ∨ ∃ v : Visit π, visitsOf hs = [v] ∧ v.call.role = .edgeGuard ∧
        v.call.context = ctx ∧ v.call.payload = payload ∧
        ∀ r, v.settled.verdict = .panic r →
          e = .guardPanicked ⟨ctx, 0, v.call.label, r.payload⟩)
      (error : (∃ guard failure, e = .guardRejected ctx.source ctx.trigger guard failure) ∨
        ∃ guard text, e = .guardPanicked ⟨ctx, 0, guard, text⟩) :
      Outline ctx payload hs (payload, .answered (.error e))
  | escaped {hs left value} (stretch : Stretch ctx payload hs left (some (.escaped value))) :
      Outline ctx payload hs (left, .escaped value)
  | completed {hs left} (stretch : Stretch ctx payload hs left none) :
      Outline ctx payload hs (left, .answered (.ok ctx))
  | recovered {hs hs' hs'' left cause out} (escape? : Option Raised)
      (stretch : Stretch ctx payload hs left (some (.failed cause)))
      (mended : Mended cause ctx left 0 hs' out)
      (between : Stretch out.context out.payload hs'' out.payload (escape?.map .escaped))
      (role : ∀ v ∈ visitsOf hs'', ∃ elapsed, v.call.role = .effect .betweenStates elapsed)
      (failed : visitsOf hs'' ≠ [] → ∃ v ∈ visitsOf hs, v.Fails .exit) :
      Outline ctx payload (hs ++ (hs' ++ hs'')) (out.payload, out.outcome cause escape?)

namespace Machine.Course

variable {m : Machine π ν} {source destination : Node π ν} {edge : Edge π ν} {ctx : Context}
  {payload : π} {hs : List (Happening host)} {out : π × Outcome}

theorem outline (h : m.Course host source edge destination ctx payload hs out) :
    Outline ctx payload hs out := by
  have firing : Stretch ctx payload [(.event (.firing ctx) : Happening host)] payload none :=
    Stretch.nil.event (bears_event rfl)
  have failed {cause : ChainError} {left : π} {hs' : List (Happening host)} {out : Recovered π}
      (mended : Mended cause ctx left 0 hs' out) :
      (Happening.event (.failed out.context (out.error cause)) : Happening host).Bears
        out.context.Of := by
    refine ⟨by simp [Event.contexts], List.forall_mem_cons.2 ⟨.refl _, fun c hc => ?_⟩⟩
    exact mended.of.symm.trans (mended.error_of c hc)
  cases h with
  | refused guard => exact .refused guard.refusal.1 guard.refusal.2 guard.error_eq
  | cutBefore guard before =>
    exact .escaped (guard.stretch.append (firing.append before.stretch))
  | cutRecovery guard before exit recovery between =>
    have cut := guard.stretch.append (firing.append (before.stretch.append exit.1.stretch))
    have mended := recovery.1.mended cut.of_mem_contexts
    obtain ⟨v, hv, fails⟩ := exit.1.fails
    simpa [Recovered.outcome] using Outline.recovered (some _) cut mended between.stretch
      between.role fun _ => ⟨v, by simp [hv], fails⟩
  | exitFailed guard before exit recovery between =>
    have cut := guard.stretch.append (firing.append (before.stretch.append exit.1.stretch))
    have mended := recovery.1.mended cut.of_mem_contexts
    obtain ⟨v, hv, fails⟩ := exit.1.fails
    simpa [Recovered.outcome] using Outline.recovered none cut mended
      (between.stretch.event (failed mended)) (by simpa using between.role)
      fun _ => ⟨v, by simp [hv], fails⟩
  | cutBetween guard before exit between =>
    exact .escaped (guard.stretch.append (firing.append
      (before.stretch.append (exit.1.stretch.append between.stretch))))
  | entryFailed guard before exit between entry recovery =>
    have cut := guard.stretch.append (firing.append (before.stretch.append
      (exit.1.stretch.append (between.stretch.append entry.1.stretch))))
    have mended := recovery.1.mended cut.of_mem_contexts
    simpa [Recovered.outcome] using Outline.recovered none cut mended
      (Stretch.nil.event (failed mended)) (by simp) (by simp)
  | cutAfter guard before exit between entry after =>
    exact .escaped (guard.stretch.append (firing.append (before.stretch.append
      (exit.1.stretch.append (between.stretch.append (entry.1.stretch.append after.stretch))))))
  | completed guard before exit between entry after =>
    exact .completed (guard.stretch.append (firing.append (before.stretch.append
      (exit.1.stretch.append (between.stretch.append (entry.1.stretch.append
        (after.stretch.event (bears_event rfl))))))))

end Machine.Course

namespace Machine.Outline

variable {ctx : Context} {payload : π} {hs : List (Happening host)} {out : π × Outcome}

theorem bears (h : Outline ctx payload hs out) : ∀ x ∈ hs, x.Bears ctx.Of := by
  have append {hs hs' : List (Happening host)} {c : Context} (of : ctx.Of c)
      (h : ∀ x ∈ hs, x.Bears ctx.Of) (h' : ∀ x ∈ hs', x.Bears c.Of) :
      ∀ x ∈ hs ++ hs', x.Bears ctx.Of :=
    List.forall_mem_append.2 ⟨h, fun x hx => (h' x hx).mono fun _ => of.trans⟩
  cases h with
  | refused bears => exact bears
  | escaped stretch => exact stretch.bears
  | completed stretch => exact stretch.bears
  | recovered _ stretch mended between =>
    exact append (.refl ctx) stretch.bears (append mended.of mended.bears between.bears)

/-- Payload and context are passed on through the whole fire. -/
theorem threaded (h : Outline ctx payload hs out) :
    ∃ c, Threaded (payload, ctx) (visitsOf hs) (out.1, c) := by
  cases h with
  | refused _ asked =>
    refine ⟨ctx, ?_⟩
    rcases asked with hv | ⟨v, hv, role, rfl, rfl, -⟩
    · rw [hv]
      rfl
    · rw [hv]
      exact ⟨rfl, by simp [Visit.advance, role]⟩
  | escaped stretch => exact ⟨ctx, stretch.threaded⟩
  | completed stretch => exact ⟨ctx, stretch.threaded⟩
  | recovered _ stretch mended between =>
    rw [visitsOf_append, visitsOf_append]
    exact ⟨_, stretch.threaded.append (mended.threaded.append between.threaded)⟩

end Machine.Outline

/-! ## Freshness -/

namespace Machine

/-- A question either leaves nothing behind, or begins a transition that everything else is
about. -/
theorem Answers.begun [Payload π] {m : Machine π ν} {q : Question π} {hs : List (Happening host)}
    {a : Answer π} (h : m.Answers host q hs a) :
    hs = [] ∨ ∃ ctx hs', hs = .begun ctx :: hs' ∧ ∀ x ∈ hs', x.Bears ctx.Of := by
  cases h with
  | guarded _ _ _ guard => exact .inr ⟨_, _, rfl, guard.bears⟩
  | fired _ _ course => exact .inr ⟨_, _, rfl, course.outline.bears⟩
  | _ => exact .inl rfl

/-- What follows the beginning of a transition bears its identity. -/
theorem bears_id {ctx : Context} {n k : Nat} {hs : List (Happening host)}
    (spans : Spans (.begun ctx :: hs) n k) (bears : ∀ x ∈ hs, x.Bears ctx.Of) :
    Spans hs (n + 1) k ∧ ∀ x ∈ hs, x.Bears fun c => c.id = n := by
  obtain ⟨j, ⟨rfl, rfl⟩, rest⟩ := spans
  exact ⟨rest, fun x hx => (bears x hx).mono fun _ of => of.id_eq⟩

/-- Whatever is asked of a machine draws identities of its own, at every depth. -/
theorem fresh_host [Payload π] (m : Machine π ν) (depth : Nat) : (m.host depth).Fresh := by
  induction depth with
  | zero =>
    intro q f
    obtain ⟨result, hran⟩ := Finished.of_exhausted f
    rw [hran]
    exact ⟨Nat.le_refl _, fun e he => nomatch he⟩
  | succ depth ih =>
    intro q f
    obtain ⟨hs, unf⟩ := m.plays_ask depth q f
    have spans := unf.spans
    rcases unf.rel.begun with rfl | ⟨ctx, hs', rfl, bears⟩
    · rw [← unf.log_eq]
      exact ⟨Nat.le_of_eq spans.symm, fun e he => nomatch he⟩
    · obtain ⟨rest, own⟩ := bears_id spans bears
      have within := within_logOf ih rest own
      refine ⟨Nat.le_of_succ_le within.1, fun e he c hc => ?_⟩
      rw [← unf.log_eq] at he
      have := within.2 e he c hc
      omega

section Own

variable [Payload π] {m : Machine π ν} {depth n k : Nat} {q : Question π} {a : Answer π}
  {hs : List (Happening (m.host depth))}

/-- The log of a question shows, under the identity that it draws, its own happenings. -/
theorem Answers.accounts (h : m.Answers (m.host depth) q hs a) (spans : Spans hs n k) :
    Accounts n hs (logOf hs) := by
  rcases h.begun with rfl | ⟨ctx, hs', rfl, bears⟩
  · exact ⟨rfl, rfl, rfl, rfl⟩
  · obtain ⟨rest, own⟩ := bears_id spans bears
    rw [logOf_cons, Happening.log, List.nil_append]
    exact (accounts_logOf (m.fresh_host depth) (Nat.lt_succ_self n) rest own).begun

end Own

end Machine

end StateMachine
