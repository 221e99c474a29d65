import StateMachine.Proofs.Course

/-!
# Callbacks

The engine itself only makes contexts, reports events and calls the callbacks that were declared,
each with what it is given; only callbacks put questions to the host.

* `Machine.Calls`: which code answers a call of a callback.
* `Happening.Served`: whether a happening is the engine's own doing.
* For each part of the engine, a lemma `serves` that it does nothing else; `Machine.Answers.serves`
  is the one for questions.
-/

namespace StateMachine

variable {π ν : Type}

/-- The steps of a state on one side. -/
def Node.steps (node : Node π ν) : Side → List (Step π ν)
  | .exit => node.exit.steps
  | .entry => node.entry.steps
  | .alone => []

theorem Node.mem_of_steps {node : Node π ν} {side : Side} {step : Step π ν}
    (h : step ∈ node.steps side) : step ∈ node.exit.steps ++ node.entry.steps := by
  cases side with
  | exit => exact List.mem_append_left _ h
  | entry => exact List.mem_append_right _ h
  | alone => exact nomatch h

/-- The callbacks of a machine: a call that was declared, and the code that answers it. -/
inductive Machine.Calls (m : Machine π ν) : Call π → Code π ν → Prop
  /-- The guard of an edge. -/
  | edgeGuard {node edge label code ctx payload} (mem : node ∈ m.definition.nodes)
      (edge_mem : edge ∈ node.edges) (some : edge.guard = some (.predicate label code)) :
      Calls m ⟨.edgeGuard, label, ctx, payload⟩ (code payload ctx)
  /-- The guard of a step. -/
  | stepGuard {node side step label code ctx payload} (mem : node ∈ m.definition.nodes)
      (step_mem : step ∈ node.steps side) (some : step.guard = some (.predicate label code)) :
      Calls m ⟨.stepGuard side, label, ctx, payload⟩ (code payload ctx)
  /-- The operation of a step. -/
  | operation {node side step ctx payload} (mem : node ∈ m.definition.nodes)
      (step_mem : step ∈ node.steps side) :
      Calls m ⟨.operation side, step.label, ctx, payload⟩ (step.operation payload ctx)
  /-- An error handler. -/
  | handler {node handler cause ctx payload} (mem : node ∈ m.definition.nodes)
      (handler_mem : handler ∈ node.recovery.handlers) :
      Calls m ⟨.handler cause, handler.label, ctx, payload⟩ (handler.operation payload ctx cause)
  /-- A side effect. -/
  | effect {effect phase elapsed ctx payload}
      (effect_mem : effect ∈ m.definition.effects.effects) :
      Calls m (effect.call phase payload ctx elapsed) (effect.callback phase payload ctx elapsed)

variable {m : Machine π ν} {host : Host π ν}

/-- Whether a happening is the engine's own doing: a context, an event, or the turn of a callback of
the machine. -/
def Happening.Served (m : Machine π ν) : Happening host → Prop
  | begun _ => True
  | event _ => True
  | turn t => m.Calls t.call t.code
  | _ => False

theorem Turn.Of.served {t : Turn host} {call : Call π} {code : Code π ν} (of : t.Of call code)
    (calls : m.Calls call code) : (Happening.turn t).Served m := by
  obtain ⟨rfl, rfl⟩ := of
  exact calls

section Parts

variable {node source destination : Node π ν} {edge : Edge π ν} {ctx : Context} {payload : π}
  {hs : List (Happening host)}

theorem Guard.Answers.serves {role : Role} {g : Guard π ν} {verdict : Verdict}
    (calls : ∀ label code, g = .predicate label code →
      m.Calls ⟨role, label, ctx, payload⟩ (code payload ctx))
    (h : g.Answers host role payload ctx hs verdict) : ∀ x ∈ hs, x.Served m := by
  cases h with
  | matching => simp
  | mismatching => simp
  | predicate t of => exact List.forall_mem_singleton.2 (of.served (calls _ _ rfl))

theorem Edge.Admits.serves (mem : node ∈ m.definition.nodes) (edge_mem : edge ∈ node.edges)
    {r : Except FireError Unit} (h : edge.Admits host payload ctx hs r) : ∀ x ∈ hs, x.Served m := by
  have guard {g : Guard π ν} {verdict : Verdict} {hs : List (Happening host)}
      (some : edge.guard = some g) (answer : g.Answers host .edgeGuard payload ctx hs verdict) :
      ∀ x ∈ hs, x.Served m :=
    answer.serves fun label code same => .edgeGuard mem edge_mem (same ▸ some)
  have event (e : Event) : ∀ x ∈ [(.event e : Happening host)], x.Served m :=
    List.forall_mem_singleton.2 trivial
  cases h with
  | free => simp
  | passed some answer => exact guard some answer
  | rejected some answer => exact List.forall_mem_append.2 ⟨guard some answer, event _⟩
  | panicked some answer => exact List.forall_mem_append.2 ⟨guard some answer, event _⟩

theorem Step.Consults.serves {side : Side} {position : Nat} {step : Step π ν}
    (mem : node ∈ m.definition.nodes) (step_mem : step ∈ node.steps side)
    {r : Except PanicError Bool} (h : step.Consults host side position ctx payload hs r) :
    ∀ x ∈ hs, x.Served m := by
  have guard {g : Guard π ν} {verdict : Verdict} {hs : List (Happening host)}
      (some : step.guard = some g)
      (answer : g.Answers host (.stepGuard side) payload ctx hs verdict) : ∀ x ∈ hs, x.Served m :=
    answer.serves fun label code same => .stepGuard mem step_mem (same ▸ some)
  have event (e : Event) : ∀ x ∈ [(.event e : Happening host)], x.Served m :=
    List.forall_mem_singleton.2 trivial
  cases h with
  | free => simp
  | passed some answer => exact guard some answer
  | skipped some answer => exact List.forall_mem_append.2 ⟨guard some answer, event _⟩
  | panicked some answer => exact List.forall_mem_append.2 ⟨guard some answer, event _⟩

theorem Step.Operates.serves {side : Side} {position : Nat} {step : Step π ν}
    (mem : node ∈ m.definition.nodes) (step_mem : step ∈ node.steps side)
    {out : π × Except ChainError Unit} (h : step.Operates host side position ctx payload hs out) :
    ∀ x ∈ hs, x.Served m := by
  have calls : m.Calls ⟨.operation side, step.label, ctx, payload⟩ (step.operation payload ctx) :=
    .operation mem step_mem
  cases h with
  | done t of => simpa using of.served calls
  | failed t of => simpa [Happening.Served] using of.served calls
  | panicked t of => simpa [Happening.Served] using of.served calls

theorem Chain.Passes.serves {side : Side} {position : Nat} {steps : List (Step π ν)}
    (mem : node ∈ m.definition.nodes) (steps_mem : ∀ step ∈ steps, step ∈ node.steps side)
    {out : π × Except ChainError Unit}
    (h : Chain.Passes host side ctx position steps payload hs out) : ∀ x ∈ hs, x.Served m := by
  induction h with
  | nil => simp
  | blocked guard => exact guard.serves mem (List.forall_mem_cons.1 steps_mem).1
  | skipped guard _ ih =>
    obtain ⟨first, rest⟩ := List.forall_mem_cons.1 steps_mem
    exact List.forall_mem_append.2 ⟨guard.serves mem first, ih rest⟩
  | stopped guard operation =>
    obtain ⟨first, -⟩ := List.forall_mem_cons.1 steps_mem
    exact List.forall_mem_append.2 ⟨guard.serves mem first, operation.serves mem first⟩
  | passed guard operation _ ih =>
    obtain ⟨first, rest⟩ := List.forall_mem_cons.1 steps_mem
    exact List.forall_mem_append.2 ⟨guard.serves mem first,
      List.forall_mem_append.2 ⟨operation.serves mem first, ih rest⟩⟩

theorem Handler.Handles.serves {cause : ChainError} {position : Nat} {handler : Handler π ν}
    (mem : node ∈ m.definition.nodes) (handler_mem : handler ∈ node.recovery.handlers)
    {out : Recovered π} (h : handler.Handles host cause position ctx payload hs out) :
    ∀ x ∈ hs, x.Served m := by
  have calls : m.Calls ⟨.handler cause, handler.label, ctx, payload⟩
      (handler.operation payload ctx cause) := .handler mem handler_mem
  cases h with
  | kept t of => simpa using of.served calls
  | retargeted t of => simpa [Happening.Served] using of.served calls
  | failed t of => simpa [Happening.Served] using of.served calls
  | panicked t of => simpa [Happening.Served] using of.served calls

theorem Recovery.Handles.serves {cause : ChainError} {position : Nat}
    {handlers : List (Handler π ν)} (mem : node ∈ m.definition.nodes)
    (handlers_mem : ∀ handler ∈ handlers, handler ∈ node.recovery.handlers) {out : Recovered π}
    (h : Recovery.Handles host cause position handlers ctx payload hs out) :
    ∀ x ∈ hs, x.Served m := by
  induction h with
  | nil => simp
  | stopped last => exact last.serves mem (List.forall_mem_cons.1 handlers_mem).1
  | passed first _ ih =>
    obtain ⟨here, rest⟩ := List.forall_mem_cons.1 handlers_mem
    exact List.forall_mem_append.2 ⟨first.serves mem here, ih rest⟩

theorem Effect.Heard.serves {phase : Phase} {elapsed : Nat} {effects : List (Effect π ν)}
    (effects_mem : ∀ effect ∈ effects, effect ∈ m.definition.effects.effects)
    {ts : List (Turn host)} {escape? : Option Raised}
    (h : Effect.Heard host phase payload ctx elapsed effects ts escape?) :
    ∀ t ∈ ts, (Happening.turn t).Served m := by
  induction h with
  | nil => simp
  | calm t of _ _ ih =>
    obtain ⟨first, rest⟩ := List.forall_mem_cons.1 effects_mem
    exact List.forall_mem_cons.2 ⟨of.served (.effect first), ih rest⟩
  | panicked t of =>
    exact List.forall_mem_singleton.2 (of.served (.effect (List.forall_mem_cons.1 effects_mem).1))

theorem Machine.Tells.serves {phase : Phase} {r : Except Raised Nat}
    (h : m.Tells host phase payload ctx hs r) : ∀ x ∈ hs, x.Served m := by
  have audience : ∀ effect ∈ m.definition.effects.audience phase,
      effect ∈ m.definition.effects.effects := fun effect he => (List.mem_filter.1 he).1
  cases h with
  | told heard =>
    refine List.forall_mem_append.2 ⟨?_, List.forall_mem_singleton.2 trivial⟩
    exact List.forall_mem_map.2 (heard.serves audience)
  | panicked heard => exact List.forall_mem_map.2 (heard.serves audience)

theorem Chain.Executes.serves_exit (mem : node ∈ m.definition.nodes)
    {out : π × Except ChainError Unit} (h : node.exit.Executes host .exit ctx payload hs out) :
    ∀ x ∈ hs, x.Served m :=
  h.1.serves mem fun _ hs => hs

theorem Chain.Executes.serves_entry (mem : node ∈ m.definition.nodes)
    {out : π × Except ChainError Unit} (h : node.entry.Executes host .entry ctx payload hs out) :
    ∀ x ∈ hs, x.Served m :=
  h.1.serves mem fun _ hs => hs

theorem Recovery.Executes.serves (mem : node ∈ m.definition.nodes) {cause : ChainError}
    {out : Recovered π} (h : node.recovery.Executes host cause ctx payload hs out) :
    ∀ x ∈ hs, x.Served m :=
  h.1.serves mem fun _ hh => hh

/-- A fire does nothing but what its parts do. -/
theorem Machine.Course.serves (source_mem : source ∈ m.definition.nodes)
    (destination_mem : destination ∈ m.definition.nodes) (edge_mem : edge ∈ source.edges)
    {out : π × Outcome} (h : m.Course host source edge destination ctx payload hs out) :
    ∀ x ∈ hs, x.Served m := by
  have append {hs hs' : List (Happening host)} (h : ∀ x ∈ hs, x.Served m)
      (h' : ∀ x ∈ hs', x.Served m) : ∀ x ∈ hs ++ hs', x.Served m :=
    List.forall_mem_append.2 ⟨h, h'⟩
  have firing {g hs : List (Happening host)} {c : Context} (h : ∀ x ∈ g, x.Served m)
      (h' : ∀ x ∈ hs, x.Served m) : ∀ x ∈ g ++ .event (.firing c) :: hs, x.Served m :=
    append h (List.forall_mem_cons.2 ⟨trivial, h'⟩)
  have event (e : Event) : ∀ x ∈ [(.event e : Happening host)], x.Served m :=
    List.forall_mem_singleton.2 trivial
  cases h with
  | refused guard => exact guard.serves source_mem edge_mem
  | cutBefore guard before => exact firing (guard.serves source_mem edge_mem) before.serves
  | cutRecovery guard before exit recovery between =>
    exact firing (guard.serves source_mem edge_mem) (append before.serves
      (append (exit.serves_exit source_mem) (append (recovery.serves source_mem) between.serves)))
  | exitFailed guard before exit recovery between =>
    exact firing (guard.serves source_mem edge_mem) (append before.serves
      (append (exit.serves_exit source_mem) (append (recovery.serves source_mem)
        (append between.serves (event _)))))
  | cutBetween guard before exit between =>
    exact firing (guard.serves source_mem edge_mem) (append before.serves
      (append (exit.serves_exit source_mem) between.serves))
  | entryFailed guard before exit between entry recovery =>
    exact firing (guard.serves source_mem edge_mem) (append before.serves
      (append (exit.serves_exit source_mem) (append between.serves
        (append (entry.serves_entry destination_mem)
          (append (recovery.serves destination_mem) (event _))))))
  | cutAfter guard before exit between entry after =>
    exact firing (guard.serves source_mem edge_mem) (append before.serves
      (append (exit.serves_exit source_mem) (append between.serves
        (append (entry.serves_entry destination_mem) after.serves))))
  | completed guard before exit between entry after =>
    exact firing (guard.serves source_mem edge_mem) (append before.serves
      (append (exit.serves_exit source_mem) (append between.serves
        (append (entry.serves_entry destination_mem) (append after.serves (event _))))))

/-- Whatever a machine is asked, what happens meanwhile is the engine's own doing. -/
theorem Machine.Answers.serves [Payload π] {q : Question π} {a : Answer π}
    (h : m.Answers host q hs a) : ∀ x ∈ hs, x.Served m := by
  cases h with
  | guarded found some _ guard =>
    obtain ⟨hnode, hedge⟩ := resolve_eq_ok_iff.1 found
    exact List.forall_mem_cons.2 ⟨trivial,
      guard.serves (Definition.mem_of_node? hnode) (Node.mem_of_edge? hedge)⟩
  | fired leads _ course =>
    exact List.forall_mem_cons.2 ⟨trivial,
      course.serves (Definition.mem_of_node? leads.source_eq)
        (Definition.mem_of_node? leads.destination_eq) (Node.mem_of_edge? leads.edge_eq)⟩
  | _ => simp

end Parts

end StateMachine
